import SearchQuery.Proofs.Node.Pieces
import SearchQuery.Proofs.Validation.Exclusion
import SearchQuery.Proofs.Validation.Inside
import SearchQuery.Proofs.Validation.Lines

/-!
# The order of diagnostics

What is found when a node is visited is shown at the node or at one of its parts, before the parts
are visited themselves.  It is still found in the order of the text: only literals stand in front of
the part, and nothing is found when a literal is visited.

A value is excluded by qualified values only, and these follow each other in a query.  So a conflict
is one with a node further to the left.
-/

namespace SearchQuery

namespace Node

/-- What is found when a node is visited can be shown at another: at the node itself, or at the
first of its parts that is no literal or at a literal in front of it. -/
def Shows (node shown : Node) : Prop :=
  node.kind ≠ .literal ∧
    (shown = node ∨ ∃ front back, node.partNodes = front ++ shown :: back ∧
      ∀ part ∈ front, part.kind = .literal)

theorem shows_self {node : Node} (kind : node.kind ≠ .literal) : node.Shows node :=
  ⟨kind, Or.inl rfl⟩

/-- Whatever two nodes show, the first shows nothing behind what the second shows. -/
def ShowsBefore (earlier later : Node) : Prop :=
  ∀ first second, earlier.Shows first → later.Shows second → first.start ≤ second.start

/-- Two qualified values stand one behind the other. -/
def QualifiesBefore (earlier later : Node) : Prop :=
  earlier.kind = .qualified → later.kind = .qualified → earlier.start < later.start

variable {source : List Char} {node shown part : Node}
  (placed : ∀ inner ∈ node.preorder, inner.Placed source)

include placed

theorem Shows.mem_preorder (shows_at : node.Shows shown) : shown ∈ node.preorder := by
  rcases shows_at.2 with rfl | ⟨front, back, parts_eq, _⟩
  · exact self_mem_preorder shown
  · exact mem_preorder_of_mem_parts (self_mem_preorder node) (by simp [parts_eq])

/-- What a node shows begins in the node. -/
theorem Shows.start_mem (shows_at : node.Shows shown) :
    node.start ≤ shown.start ∧ shown.start ≤ node.stop := by
  have shown_mem := shows_at.mem_preorder placed
  have inside := inside_of_mem_preorder placed shown_mem
  have := (placed shown shown_mem).start_le_stop
  omega

/-- What a node shows begins in front of the parts that are no literals. -/
theorem Shows.start_le (shows_at : node.Shows shown) (part_mem : part ∈ node.partNodes)
    (kind : part.kind ≠ .literal) : shown.start ≤ part.start := by
  have root_placed := placed node (self_mem_preorder node)
  have parts_placed : ∀ part ∈ node.partNodes, part.Placed source := fun part member =>
    placed part (mem_preorder_of_mem_parts (self_mem_preorder node) member)
  rcases shows_at.2 with rfl | ⟨front, back, parts_eq, literals⟩
  · exact (root_placed.inside part part_mem).1
  · have ordered := root_placed.pairwise_partNodes parts_placed
    have shown_placed := parts_placed shown (by simp [parts_eq])
    rw [parts_eq, List.mem_append, List.mem_cons] at part_mem
    rw [parts_eq, List.pairwise_append, List.pairwise_cons] at ordered
    rcases part_mem with in_front | rfl | behind
    · exact absurd (literals part in_front) kind
    · exact Int.le_refl _
    · exact Int.le_trans shown_placed.start_le_stop (ordered.2.1.1 part behind)

/-- A tree is visited in the order of what its nodes show. -/
theorem pairwise_showsBefore : node.preorder.Pairwise ShowsBefore := by
  induction node using forall_of_partNodes with
  | step node induction =>
      have part_placed {part : Node} (part_mem : part ∈ node.partNodes) :
          ∀ inner ∈ part.preorder, inner.Placed source := fun inner member =>
        placed inner (mem_preorder_of_mem_partNodes part_mem member)
      rw [preorder_eq, List.pairwise_cons, List.pairwise_flatMap]
      refine ⟨?_, fun part part_mem => induction part part_mem (part_placed part_mem), ?_⟩
      · intro later later_mem first second first_shown second_shown
        obtain ⟨part, part_mem, later_mem⟩ := List.mem_flatMap.mp later_mem
        have kind : part.kind ≠ .literal := by
          intro literal
          have leaf : part.partNodes = [] :=
            partNodes_of_compared (by simp [literal, Kind.compared])
          rw [preorder_of_leaf leaf] at later_mem
          obtain rfl := List.mem_singleton.mp later_mem
          exact second_shown.1 literal
        have := first_shown.start_le placed part_mem kind
        have := (inside_of_mem_preorder (part_placed part_mem) later_mem).1
        have := (second_shown.start_mem fun inner member =>
          part_placed part_mem inner (mem_preorder_trans later_mem member)).1
        omega
      · have ordered := (placed node (self_mem_preorder node)).pairwise_partNodes
          fun part part_mem => part_placed part_mem part (self_mem_preorder part)
        refine ordered.imp_of_mem ?_
        intro left right left_mem right_mem before earlier earlier_mem later later_mem first second
          first_shown second_shown
        have := (inside_of_mem_preorder (part_placed left_mem) earlier_mem).2
        have := (inside_of_mem_preorder (part_placed right_mem) later_mem).1
        have := (first_shown.start_mem fun inner member =>
          part_placed left_mem inner (mem_preorder_trans earlier_mem member)).2
        have := (second_shown.start_mem fun inner member =>
          part_placed right_mem inner (mem_preorder_trans later_mem member)).1
        omega

/-- The qualified values of a tree follow each other. -/
theorem pairwise_qualifiesBefore (shaped : ∀ inner ∈ node.preorder, inner.IsShaped)
    (solid : ∀ inner ∈ node.preorder, inner.kind = .qualified → inner.start < inner.stop) :
    node.preorder.Pairwise QualifiesBefore := by
  induction node using forall_of_partNodes with
  | step node induction =>
      have inside {part : Node} (part_mem : part ∈ node.partNodes) {inner : Node}
          (member : inner ∈ part.preorder) : inner ∈ node.preorder :=
        mem_preorder_of_mem_partNodes part_mem member
      rw [preorder_eq, List.pairwise_cons, List.pairwise_flatMap]
      refine ⟨?_, fun part part_mem => induction part part_mem
        (fun inner member => placed inner (inside part_mem member))
        (fun inner member => shaped inner (inside part_mem member))
        (fun inner member => solid inner (inside part_mem member)), ?_⟩
      · intro later later_mem qualified later_qualified
        obtain ⟨part, part_mem, later_mem⟩ := List.mem_flatMap.mp later_mem
        exact absurd later_qualified (kind_ne_qualified_of_mem_preorder shaped
          (by simp [qualified]) part_mem later later_mem)
      · have ordered := (placed node (self_mem_preorder node)).pairwise_partNodes
          fun part part_mem => placed part (inside part_mem (self_mem_preorder part))
        refine ordered.imp_of_mem ?_
        intro left right left_mem right_mem before earlier earlier_mem later later_mem qualified _
        have := solid earlier (inside left_mem earlier_mem) qualified
        have := (inside_of_mem_preorder (fun inner member => placed inner (inside left_mem member))
          earlier_mem).2
        have := (inside_of_mem_preorder (fun inner member => placed inner (inside right_mem member))
          later_mem).1
        omega

end Node

namespace Validation

/-! ## One check -/

/-- What can be found when a node is visited: nothing, something without a conflict that the node
shows, or a conflict with a node that excludes the value of a qualifier. -/
inductive Finds (excluded : List (String × Node)) (node : Node) : List Diagnostic → Prop where
  | nothing : Finds excluded node []
  | single {diagnostic : Diagnostic} (shown : node.Shows diagnostic.node)
      (free : diagnostic.conflict? = none) : Finds excluded node [diagnostic]
  | conflict {entry : String × Node} (qualified : node.kind = .qualified)
      (entry_mem : entry ∈ excluded) : Finds excluded node [⟨node, .conflict entry.2⟩]

/-- What a check finds, and what it leaves behind, given the values that are excluded. -/
structure Checks (excluded : List (String × Node)) (node : Node)
    (checked : List Diagnostic × QueryState) : Prop where
  /-- What is found is shown at the node. -/
  finds : Finds excluded node checked.1
  /-- Only the node can become one that excludes values, and only if it is a qualified value. -/
  excluded : ∀ entry ∈ checked.2.excluded,
    entry ∈ excluded ∨ entry.2 = node ∧ node.kind = .qualified

variable {table : SymbolTable} {state : QueryState} {node : Node}

theorem checks_of_finds {found : List Diagnostic} (finds : Finds state.excluded node found) :
    Checks state.excluded node (found, state) :=
  ⟨finds, fun _ => Or.inl⟩

namespace Finds

variable {excluded : List (String × Node)} {node : Node} {found : List Diagnostic}
  (finds : Finds excluded node found)

include finds

theorem shows_of_mem {diagnostic : Diagnostic} (member : diagnostic ∈ found) :
    node.Shows diagnostic.node := by
  cases finds with
  | nothing => cases member
  | single shown free =>
      obtain rfl := List.mem_singleton.mp member
      exact shown
  | conflict qualified entry_mem =>
      obtain rfl := List.mem_singleton.mp member
      exact Node.shows_self (by simp [qualified])

/-- No more than one thing is found. -/
theorem pairwise {relation : Diagnostic → Diagnostic → Prop} : found.Pairwise relation := by
  cases finds with
  | nothing => exact .nil
  | single => exact List.pairwise_singleton _ _
  | conflict => exact List.pairwise_singleton _ _

theorem exists_of_conflict {diagnostic : Diagnostic} (member : diagnostic ∈ found) {earlier : Node}
    (conflict : earlier ∈ diagnostic.conflict?) :
    ∃ entry ∈ excluded, entry.2 = earlier ∧ node.kind = .qualified ∧ diagnostic.node = node := by
  cases finds with
  | nothing => cases member
  | single shown free =>
      obtain rfl := List.mem_singleton.mp member
      simp [free] at conflict
  | @conflict entry qualified entry_mem =>
      obtain rfl := List.mem_singleton.mp member
      obtain rfl := Option.some.inj conflict
      exact ⟨entry, entry_mem, rfl, qualified, rfl⟩

end Finds

theorem checkSets_checks (sets : ValueSets) {value : Node} (qualified : node.kind = .qualified)
    (shown : node.Shows value) : Checks state.excluded node (checkSets sets state node value) := by
  rw [checkSets]
  cases excluder_eq : state.excluder? (setValue value) with
  | some earlier =>
      obtain ⟨front, back, excluded_eq, _⟩ := List.lookup_eq_some_iff.mp excluder_eq
      have entry_mem : (setValue value, earlier) ∈ state.excluded := by simp [excluded_eq]
      exact checks_of_finds (.conflict qualified entry_mem)
  | none =>
      dsimp only
      split
      · refine ⟨.nothing, fun entry member => ?_⟩
        rcases List.mem_append.mp member with own | old
        · obtain ⟨_, _, rfl⟩ := List.mem_map.mp own
          exact Or.inr ⟨rfl, qualified⟩
        · exact Or.inl old
      · exact checks_of_finds (.single shown rfl)

theorem checkQualified_checks {qualifier value : Node} (qualified : node.kind = .qualified)
    (parts_eq : node.partNodes = [qualifier, value]) (literal : qualifier.kind = .literal) :
    Checks state.excluded node (checkQualified table state node qualifier value) := by
  have kind : node.kind ≠ .literal := by simp [qualified]
  have shows_qualifier : node.Shows qualifier := ⟨kind, Or.inr ⟨[], [value], parts_eq, by simp⟩⟩
  have shows_value : node.Shows value :=
    ⟨kind, Or.inr ⟨[qualifier], [], parts_eq, by simpa using literal⟩⟩
  rw [checkQualified]
  cases table.qualifierNamed? qualifier.word with
  | none => exact checks_of_finds (.single shows_qualifier rfl)
  | some info =>
      dsimp only
      cases info.expects with
      | oneOf sets => exact checkSets_checks sets qualified shows_value
      | scalar type =>
          dsimp only
          rw [checkType]
          split
          · exact checks_of_finds .nothing
          · exact checks_of_finds (.single shows_value rfl)

/-- What is found when a node is visited is shown at the node. -/
theorem checkNode_checks (table : SymbolTable) (state : QueryState) {visit : Visit}
    (shaped : visit.node.IsShaped) :
    Checks state.excluded visit.node (checkNode table state visit) := by
  obtain ⟨node, ofQualifier⟩ := visit
  cases node with
  | qualified span negated qualifier value =>
      rw [← excluded_noteReference state value]
      exact checkQualified_checks rfl rfl shaped.1
  | «variable» span name label =>
      simp only [checkNode]
      split
      · exact checks_of_finds .nothing
      · exact checks_of_finds (.single (Node.shows_self Kind.noConfusion) rfl)
  | range span lower upper =>
      cases lower <;> cases upper
      case some.some =>
        simp only [checkNode]
        split
        · exact checks_of_finds .nothing
        · exact checks_of_finds (.single (Node.shows_self Kind.noConfusion) rfl)
      all_goals exact checks_of_finds .nothing
  | sort span keyword criteria =>
      cases criteria with
      | literal place text =>
          simp only [checkNode]
          split
          · exact checks_of_finds .nothing
          · exact checks_of_finds (.single ⟨Kind.noConfusion, Or.inr ⟨[keyword], [], rfl,
              by simpa using shaped.1⟩⟩ rfl)
      | _ => exact checks_of_finds .nothing
  | missing place message => exact checks_of_finds (.single (Node.shows_self Kind.noConfusion) rfl)
  | _ => exact checks_of_finds .nothing

/-- Nothing that is wrong with a definition itself is a conflict. -/
theorem conflict?_of_mem_checkDefined {name : String} {diagnostic : Diagnostic}
    (member : diagnostic ∈ checkDefined name node) : diagnostic.conflict? = none := by
  cases node with
  | mark span token =>
      cases token with
      | orWord =>
          obtain rfl := List.mem_singleton.mp member
          rfl
      | unknown => cases member
  | «variable» span other label =>
      rw [checkDefined] at member
      split at member
      · obtain rfl := List.mem_singleton.mp member
        rfl
      · cases member
  | _ => cases member

/-! ## All checks of a query -/

section

variable {visits : List Visit} (shaped : ∀ visit ∈ visits, visit.node.IsShaped)

include shaped

/-- What is found is shown at the nodes visited. -/
theorem exists_shows_of_mem_checkVisits {diagnostic : Diagnostic}
    (member : diagnostic ∈ checkVisits table state visits) :
    ∃ visit ∈ visits, visit.node.Shows diagnostic.node := by
  induction visits generalizing state with
  | nil => cases member
  | cons visit visits induction =>
      rw [List.forall_mem_cons] at shaped
      rcases List.mem_append.mp member with own | later
      · exact ⟨visit, List.mem_cons_self,
          (checkNode_checks table state shaped.1).finds.shows_of_mem own⟩
      · obtain ⟨other, other_mem, shown⟩ := induction shaped.2 later
        exact ⟨other, List.mem_cons_of_mem _ other_mem, shown⟩

/-- What is found at visits in order is in order. -/
theorem pairwise_checkVisits
    (ordered : visits.Pairwise fun earlier later => earlier.node.ShowsBefore later.node) :
    (checkVisits table state visits).Pairwise fun left right =>
      left.node.start ≤ right.node.start := by
  induction visits generalizing state with
  | nil => exact .nil
  | cons visit visits induction =>
      rw [List.forall_mem_cons] at shaped
      rw [List.pairwise_cons] at ordered
      have finds := (checkNode_checks table state shaped.1).finds
      rw [checkVisits, List.pairwise_append]
      refine ⟨finds.pairwise, induction shaped.2 ordered.2, ?_⟩
      intro left left_mem right right_mem
      obtain ⟨later, later_mem, shown⟩ := exists_shows_of_mem_checkVisits shaped.2 right_mem
      exact ordered.1 later later_mem _ _ (finds.shows_of_mem left_mem) shown

/-- If the nodes that exclude values stand in front of the qualified values to come, conflicts are
with nodes in front. -/
theorem start_lt_of_mem_checkVisits
    (ordered : visits.Pairwise fun earlier later => earlier.node.QualifiesBefore later.node)
    (behind : ∀ entry ∈ state.excluded, ∀ visit ∈ visits, visit.node.kind = .qualified →
      entry.2.start < visit.node.start)
    {diagnostic : Diagnostic} (member : diagnostic ∈ checkVisits table state visits) :
    ∀ earlier ∈ diagnostic.conflict?, earlier.start < diagnostic.node.start := by
  induction visits generalizing state with
  | nil => cases member
  | cons visit visits induction =>
      rw [List.forall_mem_cons] at shaped
      rw [List.pairwise_cons] at ordered
      have checks := checkNode_checks table state shaped.1
      rcases List.mem_append.mp member with own | later
      · intro earlier conflict
        obtain ⟨entry, entry_mem, rfl, qualified, node_eq⟩ :=
          checks.finds.exists_of_conflict own conflict
        rw [node_eq]
        exact behind entry entry_mem visit List.mem_cons_self qualified
      · refine induction shaped.2 ordered.2 ?_ later
        intro entry entry_mem other other_mem other_qualified
        rcases checks.excluded entry entry_mem with old | ⟨node_eq, qualified⟩
        · exact behind entry old other (List.mem_cons_of_mem _ other_mem) other_qualified
        · rw [node_eq]
          exact ordered.1 other other_mem qualified other_qualified

end

/-! ## Trees -/

section

variable {source : List Char} {root : Node}
  (placed : ∀ inner ∈ root.preorder, inner.Placed source)
  (shaped : ∀ inner ∈ root.preorder, inner.IsShaped)

include placed shaped

/-- What is found in a query is found in the order of the text. -/
theorem pairwise_foundAt (table : SymbolTable) (kind : root.kind = .query) :
    (foundAt table root).Pairwise fun left right => left.node.start ≤ right.node.start := by
  cases root with
  | query span items =>
      exact pairwise_checkVisits (List.forall_mem_map.mp shaped)
        (List.pairwise_map.mp (Node.pairwise_showsBefore placed))
  | _ => cases kind

/-- Conflicts in a tree are with nodes further to the left. -/
theorem start_lt_of_mem_foundIn
    (solid : ∀ inner ∈ root.preorder, inner.kind = .qualified → inner.start < inner.stop)
    {diagnostic : Diagnostic} (member : diagnostic ∈ foundIn table root) :
    ∀ earlier ∈ diagnostic.conflict?, earlier.start < diagnostic.node.start := by
  obtain ⟨node, node_mem, found⟩ := List.mem_flatMap.mp member
  have inside : ∀ inner ∈ node.preorder, inner ∈ root.preorder := fun inner inner_mem =>
    Node.mem_preorder_trans node_mem inner_mem
  cases node with
  | query span items =>
      have ordered := Node.pairwise_qualifiesBefore
        (fun inner inner_mem => placed inner (inside inner inner_mem))
        (fun inner inner_mem => shaped inner (inside inner inner_mem))
        (fun inner inner_mem => solid inner (inside inner inner_mem))
      exact start_lt_of_mem_checkVisits
        (List.forall_mem_map.mp fun inner inner_mem => shaped inner (inside inner inner_mem))
        (List.pairwise_map.mp ordered) (fun _ excluded => absurd excluded List.not_mem_nil) found
  | definition span name value label =>
      obtain ⟨visit, _, found⟩ := List.mem_flatMap.mp found
      rw [conflict?_of_mem_checkDefined found]
      intro earlier conflict
      cases conflict
  | _ => cases found

end

end Validation

end SearchQuery
