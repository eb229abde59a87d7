import SearchQuery.Line.Grammar
import SearchQuery.Proofs.Node.Bare

/-!
# Constructs without offsets

Without offsets, a node that is built from parts depends on the shapes of the parts only, and on
which of them are absent.
-/

namespace SearchQuery.Line

/-- The shape of the value of a boundary. -/
def Boundary.shape (bound : Boundary) : Option Node := bound.node.map Node.bare

theorem map_bare_bind_node (bound : Option Boundary) :
    (bound.bind (·.node)).map Node.bare = bound.bind Boundary.shape := by
  cases bound <;> rfl

theorem bare_orMissing {value value' : Option Node}
    (same : value.map Node.bare = value'.map Node.bare) (stop stop' : Int) (message : String) :
    (orMissing value stop message).bare = (orMissing value' stop' message).bare := by
  cases value with
  | none =>
      obtain rfl : value' = none := by simpa using same.symm
      simp [orMissing, Node.bare]
  | some node =>
      obtain ⟨node', rfl, bare_eq⟩ := Option.map_eq_some_iff.mp same.symm
      simpa [orMissing] using bare_eq.symm

theorem bare_queryOf (first : Node) (others : List Node) :
    (queryOf first others).bare = .query (.point 0) ((first :: others).map Node.bare) := by
  simp [queryOf, Node.bare]

/-- The value of a definition has the shape of its items. -/
theorem bare_definedValue {items items' : List Node}
    (same : items'.map Node.bare = items.map Node.bare) (stop stop' : Int) :
    (definedValue items' stop').bare = (definedValue items stop).bare := by
  cases items with
  | nil =>
      obtain rfl : items' = [] := by simpa using same
      simp [definedValue, Node.bare, Span.point]
  | cons first others =>
      cases items' with
      | nil => simp at same
      | cons first' others' =>
          rw [definedValue, definedValue, bare_queryOf, bare_queryOf, same]

end SearchQuery.Line
