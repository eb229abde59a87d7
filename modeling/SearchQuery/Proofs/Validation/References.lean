import Mathlib.Data.List.Pairwise
import SearchQuery.Proofs.Node.Preorder
import SearchQuery.Proofs.Validation.Exclusion

/-!
# References to variables

A visit of a variable is not checked if the node was seen as the value of a qualifier before.  In a
tree in which no node stands twice, this never spares a variable that stands elsewhere: its label is
that of no value of a qualifier.
-/

namespace SearchQuery

namespace Node

/-- The label of a node. -/
def label? : Node → Option Nat
  | .variable _ _ label => label
  | .definition _ _ _ label => label
  | _ => none

/-- No node stands in the tree twice. -/
def HasDistinctNodes (root : Node) : Prop := (root.preorder.filterMap label?).Nodup

instance (root : Node) : Decidable root.HasDistinctNodes :=
  inferInstanceAs (Decidable (List.Nodup _))

/-- The parts of a visited node are visited. -/
theorem mem_visits_of_mem_parts {root : Node} {ofQualifier : Bool} {visit part : Visit}
    (visit_mem : visit ∈ root.visits ofQualifier) (part_mem : part ∈ visit.node.parts) :
    part ∈ root.visits ofQualifier := by
  induction root using forall_of_partNodes generalizing ofQualifier with
  | step root induction =>
      rw [visits_eq, List.mem_cons] at visit_mem
      rw [visits_eq]
      apply List.mem_cons_of_mem
      rcases visit_mem with rfl | visit_mem
      · refine List.mem_flatMap_of_mem part_mem ?_
        rw [visits_eq]
        exact List.mem_cons_self
      · obtain ⟨inner, inner_mem, visit_mem⟩ := List.mem_flatMap.mp visit_mem
        exact List.mem_flatMap_of_mem inner_mem
          (induction inner.node (List.mem_map_of_mem inner_mem) visit_mem)

/-- Visits of nodes with the same label are the same, where no node stands twice. -/
theorem HasDistinctNodes.eq_of_label?_eq {root : Node} (distinct : root.HasDistinctNodes)
    {left right : Visit} (left_mem : left ∈ root.visits false)
    (right_mem : right ∈ root.visits false) {label : Nat}
    (left_eq : left.node.label? = some label) (right_eq : right.node.label? = some label) :
    left = right := by
  have apart : (root.visits false).Pairwise fun left right =>
      ∀ label, left.node.label? = some label → right.node.label? ≠ some label := by
    rw [HasDistinctNodes, preorder, List.filterMap_map, List.Nodup,
      List.pairwise_filterMap] at distinct
    refine distinct.imp fun each label left_eq right_eq => ?_
    exact each label left_eq label right_eq rfl
  by_contra different
  have : Std.Symm fun left right : Visit =>
      ∀ label, left.node.label? = some label → right.node.label? ≠ some label :=
    ⟨fun left right each label right_eq left_eq => each label left_eq right_eq⟩
  exact apart.forall left_mem right_mem different label left_eq right_eq

end Node

namespace Validation

/-- The label that is remembered from a visited node. -/
def notedLabel? : Node → Option Nat
  | .qualified _ _ _ (.variable _ _ label) => label
  | _ => none

/-- The label under which a visited node may be remembered. -/
def askedLabel? : Visit → Option Nat
  | ⟨.variable _ _ label, false⟩ => label
  | _ => none

@[simp]
theorem references_noteReference (state : QueryState) (span : Span) (negated : Bool)
    (qualifier value : Node) :
    (state.noteReference value).references =
      (notedLabel? (.qualified span negated qualifier value)).toList ++ state.references := by
  cases value with
  | «variable» span name label => cases label <;> rfl
  | _ => rfl

theorem references_checkSets (sets : ValueSets) (state : QueryState) (node value : Node) :
    (checkSets sets state node value).2.references = state.references := by
  rw [checkSets]
  split
  · rfl
  · split <;> rfl

/-- What is remembered of references behind a visited node. -/
theorem references_checkNode (table : SymbolTable) (state : QueryState) (visit : Visit) :
    (checkNode table state visit).2.references =
      (notedLabel? visit.node).toList ++ state.references := by
  obtain ⟨node, ofQualifier⟩ := visit
  cases node with
  | qualified span negated qualifier value =>
      rw [← references_noteReference]
      simp only [checkNode, checkQualified]
      split
      · rfl
      · split
        · rw [references_checkSets]
        · rfl
  | _ =>
      simp only [checkNode]
      repeat' split
      all_goals simp_all [notedLabel?]

theorem notedLabel?_eq_some {node : Node} {label : Nat} (noted : notedLabel? node = some label) :
    ∃ span negated qualifier place name,
      node = .qualified span negated qualifier (.variable place name (some label)) := by
  unfold notedLabel? at noted
  split at noted
  · obtain rfl := noted
    exact ⟨_, _, _, _, _, rfl⟩
  · simp at noted

theorem askedLabel?_eq_some {visit : Visit} {label : Nat} (asked : askedLabel? visit = some label) :
    ∃ span name, visit = ⟨.variable span name (some label), false⟩ := by
  unfold askedLabel? at asked
  split at asked
  · obtain rfl := asked
    exact ⟨_, _, rfl⟩
  · simp at asked

/-- No variable is spared where no node stands twice, unless it is itself the value of a
qualifier. -/
theorem notedLabel?_ne_of_hasDistinctNodes {root : Node} (distinct : root.HasDistinctNodes)
    {visit other : Visit} (visit_mem : visit ∈ root.visits false)
    (other_mem : other ∈ root.visits false) {label : Nat} (asked : askedLabel? visit = some label) :
    notedLabel? other.node ≠ some label := by
  intro noted
  obtain ⟨_, _, rfl⟩ := askedLabel?_eq_some asked
  obtain ⟨_, _, _, place, name, node_eq⟩ := notedLabel?_eq_some noted
  have value_mem : (⟨.variable place name (some label), true⟩ : Visit) ∈ root.visits false := by
    apply Node.mem_visits_of_mem_parts other_mem
    simp [node_eq, Node.parts]
  have := distinct.eq_of_label?_eq visit_mem value_mem rfl rfl
  simp at this

/-- No variable among some visits is spared: the label of none is remembered, nor that of a value of
a qualifier among them. -/
def SparesNone (state : QueryState) (visits : List Visit) : Prop :=
  ∀ visit ∈ visits, ∀ label, askedLabel? visit = some label →
    label ∉ state.references ∧ ∀ other ∈ visits, notedLabel? other.node ≠ some label

theorem sparesNone_initial {root : Node} (distinct : root.HasDistinctNodes) :
    SparesNone .initial (root.visits false) :=
  fun _ member _ asked => ⟨List.not_mem_nil, fun _ other_mem =>
    notedLabel?_ne_of_hasDistinctNodes distinct member other_mem asked⟩

/-- Behind the first visit none of the others is spared. -/
theorem SparesNone.next {table : SymbolTable} {state : QueryState} {visit : Visit}
    {visits : List Visit} (spares : SparesNone state (visit :: visits)) :
    SparesNone (checkNode table state visit).2 visits := by
  intro later member label asked
  obtain ⟨unseen, unnoted⟩ := spares later (List.mem_cons_of_mem _ member) label asked
  rw [List.forall_mem_cons] at unnoted
  refine ⟨?_, unnoted.2⟩
  rw [references_checkNode, List.mem_append, Option.mem_toList]
  exact not_or.mpr ⟨unnoted.1, unseen⟩

end Validation

end SearchQuery
