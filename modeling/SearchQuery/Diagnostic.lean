import SearchQuery.Node.Basic
import SearchQuery.Symbol.Basic
import SearchQuery.Text.Position

/-!
# Diagnostics

What is wrong with a document is said by diagnostics.  Each pairs a node with a finding; a finding
has a kind, a message and, for a value that another one excludes, the node it conflicts with.
-/

namespace SearchQuery

/-- The kinds of diagnostics. -/
inductive DiagnosticKind where
  | unknownName | typeMismatch | mutualExclusion | structural | syntactic
  deriving DecidableEq, Repr, Inhabited

/-- The name of a kind of diagnostics. -/
def DiagnosticKind.name : DiagnosticKind → String
  | .unknownName => "unknown-name"
  | .typeMismatch => "type-mismatch"
  | .mutualExclusion => "mutual-exclusion"
  | .structural => "structural"
  | .syntactic => "syntax"

/-- The criteria that a sort directive can name. -/
def sortValues : List String :=
  ["comments-asc", "comments-desc", "created-asc", "created-desc", "updated-asc", "updated-desc",
   "reactions-+1-asc", "reactions-+1-desc", "reactions--1-asc", "reactions--1-desc",
   "reactions-smile-asc", "reactions-smile-desc", "reactions-heart-asc", "reactions-heart-desc",
   "reactions-tada-asc", "reactions-tada-desc", "interactions-asc", "interactions-desc"]

/-- What can be found wrong with a node. -/
inductive Finding where
  /-- The name is that of no qualifier. -/
  | unknownQualifier (name : String)
  /-- An earlier node of the query excludes the value. -/
  | conflict (earlier : Node)
  /-- The value is in none of the qualifier's sets. -/
  | unknownValue (sets : ValueSets)
  /-- The value is not of the type that the qualifier expects. -/
  | invalidValue (expected : ValueType)
  /-- The name is that of no variable. -/
  | unknownVariable
  /-- The boundaries of a range are of different kinds. -/
  | unbalancedRange
  /-- There is no such sort criteria. -/
  | unknownCriteria
  /-- A part is missing, or cannot be read. -/
  | missing (message : String)
  /-- The word `OR` stands in a definition. -/
  | orInDefinition
  /-- A definition refers to the variable it defines. -/
  | selfReference
  deriving Repr, Inhabited

namespace Finding

/-- The message for values that are not among those allowed. -/
def unknownAmong (allowed : List String) : String :=
  "Unknown value, must be one of: " ++ ", ".intercalate allowed

/-- The message of a finding. -/
def message : Finding → String
  | .unknownQualifier name => "Unknown qualifier: '" ++ name ++ "'"
  | .conflict _ => "Conflicts with mutual exclusive expression"
  | .unknownValue sets => unknownAmong (sets.map (", ".intercalate ·))
  | .invalidValue expected => "Invalid value, expected " ++ expected.name
  | .unknownVariable => "Unknown variable"
  | .unbalancedRange => "Range must start and end with equals types"
  | .unknownCriteria => unknownAmong sortValues
  | .missing message => message
  | .orInDefinition => "OR is not supported when defining a variable"
  | .selfReference => "Cannot reference a variable from its definition"

/-- The kind of a finding. -/
def kind : Finding → DiagnosticKind
  | .unknownQualifier _ => .unknownName
  | .conflict _ => .mutualExclusion
  | .unknownValue _ => .typeMismatch
  | .invalidValue _ => .typeMismatch
  | .unknownVariable => .unknownName
  | .unbalancedRange => .structural
  | .unknownCriteria => .typeMismatch
  | .missing _ => .syntactic
  | .orInDefinition => .structural
  | .selfReference => .structural

end Finding

/-- A node and what was found wrong with it. -/
structure Diagnostic where
  /-- The node. -/
  node : Node
  /-- What was found. -/
  finding : Finding
  deriving Repr, Inhabited

namespace Diagnostic

/-- The message of a diagnostic. -/
def message (diagnostic : Diagnostic) : String := diagnostic.finding.message

/-- The kind of a diagnostic. -/
def kind (diagnostic : Diagnostic) : DiagnosticKind := diagnostic.finding.kind

/-- The node that the diagnostic's node conflicts with. -/
def conflict? (diagnostic : Diagnostic) : Option Node :=
  match diagnostic.finding with
  | .conflict earlier => some earlier
  | _ => none

/-- A diagnostic in words: where it is, what it is, and where the conflicting node is. -/
def render (diagnostic : Diagnostic) (text : List Char) : String :=
  let place (node : Node) := (Text.positionOf text node.start).render
  let conflict :=
    match diagnostic.conflict? with
    | some node => " (conflicts with " ++ place node ++ ")"
    | none => ""
  place diagnostic.node ++ " " ++ diagnostic.message ++ conflict

end Diagnostic

end SearchQuery
