import SearchQuery.Validation.Definition
import SearchQuery.Validation.Query

/-!
# Validation of a document

Every query and every definition that a walk through the document meets is validated by itself, at
any depth.
-/

namespace SearchQuery.Validation

/-- What is wrong with a node, apart from its parts, if it is a query or a definition. -/
def ofVisited (table : SymbolTable) : Node → Except Fault (List Diagnostic)
  | .query span items => ofQuery table (.query span items)
  | .definition _ name value _ => ofDefinition name value
  | _ => .ok []

/-- What is wrong with the queries and definitions of a tree. -/
def ofTree (table : SymbolTable) (root : Node) : Except Fault (List Diagnostic) := do
  let visits ← root.walk.visits?
  let found ← visits.mapM fun visit => ofVisited table visit.node
  return found.flatten

/-- What is wrong with a document. -/
def ofDocument (table : SymbolTable) (document : Document) : Except Fault (List Diagnostic) :=
  ofTree table document.toNode

end SearchQuery.Validation
