import SearchQuery.Proofs.Validation.Moved

/-!
# Diagnostics of a tree

What is found in a tree is found at its nodes: each diagnostic is about a node of the tree, and the
node that it conflicts with, if there is one, is a node of the tree too.
-/

namespace SearchQuery

/-- The nodes that the diagnostic points to are among some nodes. -/
structure Diagnostic.IsAmong (diagnostic : Diagnostic) (nodes : List Node) : Prop where
  /-- The node that something is wrong with is among them. -/
  node_mem : diagnostic.node ∈ nodes
  /-- The node that it conflicts with is among them. -/
  conflict_mem : ∀ earlier ∈ diagnostic.conflict?, earlier ∈ nodes

/-- A diagnostic without a conflict is about its node only. -/
theorem Diagnostic.forall_isAmong_of_single {diagnostic : Diagnostic} {nodes : List Node}
    (node_mem : diagnostic.node ∈ nodes) (free : diagnostic.conflict? = none) :
    ∀ other ∈ [diagnostic], other.IsAmong nodes := by
  rw [List.forall_mem_singleton]
  exact ⟨node_mem, by simp [free]⟩

/-- A moved diagnostic points to the moved node that it conflicts with. -/
theorem Diagnostic.conflict?_shift (distance : Int) (diagnostic : Diagnostic) :
    (diagnostic.shift distance).conflict? = diagnostic.conflict?.map (.shift distance) := by
  obtain ⟨node, finding⟩ := diagnostic
  cases finding <;> rfl

/-- A moved diagnostic reads the same for another text, if the nodes have the same positions
there. -/
theorem Diagnostic.IsAmong.render_shift {diagnostic : Diagnostic} {nodes : List Node}
    (among : diagnostic.IsAmong nodes) {text other : List Char} {distance : Int}
    (places : ∀ node ∈ nodes, Text.positionOf other (node.shift distance).start =
      Text.positionOf text node.start) :
    (diagnostic.shift distance).render other = diagnostic.render text := by
  have own_place : Text.positionOf other (diagnostic.shift distance).node.start =
      Text.positionOf text diagnostic.node.start := places _ among.node_mem
  rw [render, render, (diagnostic.message_shift distance).1, diagnostic.conflict?_shift]
  dsimp only
  rw [own_place]
  cases conflict_eq : diagnostic.conflict? with
  | none => rfl
  | some earlier =>
      have earlier_place := places earlier (among.conflict_mem earlier conflict_eq)
      simp only [Option.map_some, earlier_place]

/-- The nodes that exclude values are among some nodes. -/
def QueryState.IsAmong (state : QueryState) (nodes : List Node) : Prop :=
  ∀ entry ∈ state.excluded, entry.2 ∈ nodes

namespace QueryState

variable {state : QueryState} {nodes : List Node} (among : state.IsAmong nodes)

include among

theorem IsAmong.excluder?_mem {word : String} {node : Node}
    (excluder_eq : state.excluder? word = some node) : node ∈ nodes := by
  obtain ⟨front, back, excluded_eq, _⟩ := List.lookup_eq_some_iff.mp excluder_eq
  exact among (word, node) (by simp [excluded_eq])

theorem IsAmong.exclude {node : Node} (node_mem : node ∈ nodes) (values : List String) :
    (state.exclude node values).IsAmong nodes := by
  intro entry member
  rcases List.mem_append.mp member with own | old
  · obtain ⟨value, _, rfl⟩ := List.mem_map.mp own
    exact node_mem
  · exact among entry old

theorem IsAmong.noteReference (node : Node) : (state.noteReference node).IsAmong nodes := by
  intro entry member
  refine among entry ?_
  cases node with
  | «variable» span name label => cases label <;> exact member
  | _ => exact member

end QueryState

namespace Validation

/-- What is found, and what it means for the nodes to come, is about some nodes. -/
structure IsAmong (nodes : List Node) (checked : List Diagnostic × QueryState) : Prop where
  /-- What is found is about them. -/
  found : ∀ diagnostic ∈ checked.1, diagnostic.IsAmong nodes
  /-- They exclude values. -/
  state : checked.2.IsAmong nodes

variable {table : SymbolTable} {state : QueryState} {nodes : List Node}

theorem isAmong_of_nil (among : state.IsAmong nodes) : IsAmong nodes ([], state) :=
  ⟨fun _ member => absurd member List.not_mem_nil, among⟩

/-- One thing is wrong with a node, and it is no conflict. -/
theorem isAmong_of_single (among : state.IsAmong nodes) {diagnostic : Diagnostic}
    (node_mem : diagnostic.node ∈ nodes) (free : diagnostic.conflict? = none) :
    IsAmong nodes ([diagnostic], state) :=
  ⟨Diagnostic.forall_isAmong_of_single node_mem free, among⟩

theorem checkSets_isAmong (among : state.IsAmong nodes) (sets : ValueSets) {node value : Node}
    (node_mem : node ∈ nodes) (value_mem : value ∈ nodes) :
    IsAmong nodes (checkSets sets state node value) := by
  rw [checkSets]
  cases excluder_eq : state.excluder? (setValue value) with
  | some earlier =>
      refine ⟨?_, among⟩
      rw [List.forall_mem_singleton]
      refine ⟨node_mem, ?_⟩
      rintro _ ⟨⟩
      exact among.excluder?_mem excluder_eq
  | none =>
      dsimp only
      split
      · exact isAmong_of_nil (among.exclude node_mem _)
      · exact isAmong_of_single among value_mem rfl

theorem checkType_isAmong (among : state.IsAmong nodes) (type : ValueType) {value : Node}
    (value_mem : value ∈ nodes) : IsAmong nodes (checkType table type value, state) := by
  rw [checkType]
  split
  · exact isAmong_of_nil among
  · exact isAmong_of_single among value_mem rfl

theorem checkQualified_isAmong (among : state.IsAmong nodes) {node qualifier value : Node}
    (node_mem : node ∈ nodes) (qualifier_mem : qualifier ∈ nodes) (value_mem : value ∈ nodes) :
    IsAmong nodes (checkQualified table state node qualifier value) := by
  rw [checkQualified]
  cases table.qualifierNamed? qualifier.word with
  | none => exact isAmong_of_single among qualifier_mem rfl
  | some info =>
      dsimp only
      cases info.expects with
      | oneOf sets => exact checkSets_isAmong among sets node_mem value_mem
      | scalar type => exact checkType_isAmong among type value_mem

theorem checkNode_isAmong (among : state.IsAmong nodes) {visit : Visit}
    (inside : visit.node.preorder ⊆ nodes) : IsAmong nodes (checkNode table state visit) := by
  have node_mem : visit.node ∈ nodes := inside (Node.self_mem_preorder _)
  have part_mem {part : Node} (is_part : part ∈ visit.node.partNodes) : part ∈ nodes :=
    inside (Node.mem_preorder_of_mem_partNodes is_part (Node.self_mem_preorder part))
  obtain ⟨node, ofQualifier⟩ := visit
  cases node with
  | qualified span negated qualifier value =>
      exact checkQualified_isAmong (among.noteReference value) node_mem (part_mem (by simp))
        (part_mem (by simp))
  | «variable» span name label =>
      simp only [checkNode]
      split
      · exact isAmong_of_nil among
      · exact isAmong_of_single among node_mem rfl
  | range span lower upper =>
      cases lower with
      | none => exact isAmong_of_nil among
      | some lower =>
          cases upper with
          | none => exact isAmong_of_nil among
          | some upper =>
              simp only [checkNode]
              split
              · exact isAmong_of_nil among
              · exact isAmong_of_single among node_mem rfl
  | sort span keyword criteria =>
      cases criteria with
      | literal place text =>
          simp only [checkNode]
          split
          · exact isAmong_of_nil among
          · exact isAmong_of_single among (part_mem (by simp)) rfl
      | _ => exact isAmong_of_nil among
  | missing place message => exact isAmong_of_single among node_mem rfl
  | _ => exact isAmong_of_nil among

theorem checkVisits_isAmong (among : state.IsAmong nodes) {visits : List Visit}
    (inside : ∀ visit ∈ visits, visit.node.preorder ⊆ nodes) :
    ∀ diagnostic ∈ checkVisits table state visits, diagnostic.IsAmong nodes := by
  induction visits generalizing state with
  | nil => simp [checkVisits]
  | cons visit visits induction =>
      rw [List.forall_mem_cons] at inside
      have checked : IsAmong nodes (checkNode table state visit) := checkNode_isAmong among inside.1
      intro diagnostic member
      rcases List.mem_append.mp member with own | later
      · exact checked.found diagnostic own
      · exact induction checked.state inside.2 diagnostic later

theorem checkDefined_isAmong (name : String) {node : Node} (node_mem : node ∈ nodes) :
    ∀ diagnostic ∈ checkDefined name node, diagnostic.IsAmong nodes := by
  cases node with
  | mark span token =>
      cases token with
      | orWord => exact Diagnostic.forall_isAmong_of_single node_mem rfl
      | _ => simp [checkDefined]
  | «variable» span other label =>
      rw [checkDefined]
      split
      · exact Diagnostic.forall_isAmong_of_single node_mem rfl
      · simp
  | _ => simp [checkDefined]

/-- What is found in a tree is about its nodes. -/
theorem isAmong_of_mem_foundIn {root : Node} {diagnostic : Diagnostic}
    (member : diagnostic ∈ foundIn table root) : diagnostic.IsAmong root.preorder := by
  obtain ⟨node, node_mem, found⟩ := List.mem_flatMap.mp member
  cases node with
  | query span items =>
      refine checkVisits_isAmong (fun _ excluded => absurd excluded List.not_mem_nil)
        (fun visit visit_mem inner inner_mem => ?_) diagnostic found
      exact Node.mem_preorder_trans node_mem
        (Node.mem_preorder_trans (List.mem_map_of_mem visit_mem) inner_mem)
  | definition span name value label =>
      obtain ⟨visit, visit_mem, found⟩ := List.mem_flatMap.mp found
      have visited : visit.node ∈ value.preorder := List.mem_map_of_mem visit_mem
      refine checkDefined_isAmong name.word ?_ diagnostic found
      exact Node.mem_preorder_trans node_mem
        (Node.mem_preorder_of_mem_partNodes (by simp) visited)
  | _ => cases found

end Validation

end SearchQuery
