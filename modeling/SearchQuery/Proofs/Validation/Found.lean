import SearchQuery.Proofs.Node.Walk
import SearchQuery.Validation.Document

/-!
# What is found in a tree

A tree that holds nodes only is validated to its end.  What is found in it is what is found at its
nodes, one after the other, and each of them is judged by itself: a query with all of its nodes, a
definition with the nodes of its value.
-/

namespace SearchQuery

namespace Validation

/-- What is found at a node, if it is a query or a definition. -/
def foundAt (table : SymbolTable) : Node → List Diagnostic
  | .query span items => checkVisits table .initial ((Node.query span items).visits false)
  | .definition _ name value _ =>
      (value.visits false).flatMap fun visit => checkDefined name.word visit.node
  | _ => []

/-- What is found in a tree. -/
def foundIn (table : SymbolTable) (root : Node) : List Diagnostic :=
  root.preorder.flatMap (foundAt table)

theorem ofVisited_eq {table : SymbolTable} {node : Node}
    (nodes : ∀ inner ∈ node.preorder, inner.kind ≠ .foreign) :
    ofVisited table node = .ok (foundAt table node) := by
  cases node with
  | query span items =>
      rw [ofVisited, ofQuery, Node.visits?_walk nodes]
      rfl
  | definition span name value label =>
      have inner : ∀ node ∈ value.preorder, node.kind ≠ .foreign := fun node member =>
        nodes node (Node.mem_preorder_of_mem_partNodes (by simp) member)
      rw [ofVisited, ofDefinition, Node.visits?_walk inner]
      rfl
  | _ => rfl

/-- A tree of nodes can be validated. -/
theorem ofTree_eq {table : SymbolTable} {root : Node}
    (nodes : ∀ node ∈ root.preorder, node.kind ≠ .foreign) :
    ofTree table root = .ok (foundIn table root) := by
  have each : ∀ visit ∈ root.visits false,
      ofVisited table visit.node = .ok (foundAt table visit.node) := by
    intro visit member
    refine ofVisited_eq fun node node_mem => nodes node ?_
    exact Node.mem_preorder_trans (List.mem_map_of_mem member) node_mem
  simp only [ofTree, Node.visits?_walk nodes, bind, Except.bind, mapM_eq_ok each, pure, Except.pure]
  rw [foundIn, Node.preorder, List.flatMap_map, List.flatMap]

/-- What is wrong with a document is what is found in its lines, one after the other. -/
theorem ofDocument_eq (table : SymbolTable) {document : Document}
    (nodes : ∀ node ∈ document.toNode.preorder, node.kind ≠ .foreign) :
    ofDocument table document = .ok (document.lines.flatMap (foundIn table)) := by
  rw [ofDocument, ofTree_eq nodes, foundIn, document.preorder_toNode, List.flatMap_cons,
    List.flatMap_assoc]
  rfl

end Validation

end SearchQuery
