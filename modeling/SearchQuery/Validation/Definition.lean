import SearchQuery.Diagnostic
import SearchQuery.Node.Traversal

/-!
# Validation of a definition

A definition has to denote a single value: `OR` may not occur in it, nor the variable it defines.
-/

namespace SearchQuery.Validation

/-- Checks a visited node of the value of a definition of `name`. -/
def checkDefined (name : String) (node : Node) : List Diagnostic :=
  match node with
  | .mark _ .orWord => [⟨node, .orInDefinition⟩]
  | .variable _ other _ => if other = name then [⟨node, .selfReference⟩] else []
  | _ => []

/-- What is wrong with a definition, given its name and its value. -/
def ofDefinition (name value : Node) : Except Fault (List Diagnostic) := do
  let visits ← value.walk.visits?
  return visits.flatMap fun visit => checkDefined name.word visit.node

end SearchQuery.Validation
