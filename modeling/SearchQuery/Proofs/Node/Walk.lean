import SearchQuery.Proofs.Node.Preorder

/-!
# Walks

A walk with a stack makes the visits of the trees on the stack, one tree after the other, up to the
first value that is no node.
-/

namespace SearchQuery

/-- Only a value that is no node has no parts to give. -/
theorem Node.fault?_eq_none_iff {node : Node} : node.fault? = none ↔ node.kind ≠ .foreign := by
  cases node <;> simp [fault?, kind]

namespace Walk

/-- The walk that makes some visits, up to the first value that is no node. -/
def ofVisits : List Visit → Walk
  | [] => { visits := [], fault := none }
  | visit :: visits =>
      match visit.node.fault? with
      | some fault => { visits := [visit], fault := some fault }
      | none => (ofVisits visits).after visit

/-- The walk with a stack makes the visits of the trees on it. -/
theorem ofStack_eq (stack : List Visit) :
    ofStack stack = ofVisits (stack.flatMap fun visit => visit.node.visits visit.ofQualifier) := by
  fun_induction ofStack stack with
  | case1 => rfl
  | case2 visit stack fault isFault =>
      simp [List.flatMap_cons, Node.visits_eq visit.ofQualifier, ofVisits, isFault]
  | case3 visit stack isNode induction =>
      simp [List.flatMap_cons, Node.visits_eq visit.ofQualifier, ofVisits, isNode, induction]

/-- A walk makes the visits of nodes that come first. -/
theorem ofVisits_append {front : List Visit} (nodes : ∀ visit ∈ front, visit.node.kind ≠ .foreign)
    (back : List Visit) :
    ofVisits (front ++ back) =
      { ofVisits back with visits := front ++ (ofVisits back).visits } := by
  induction front with
  | nil => rfl
  | cons visit front induction =>
      rw [List.forall_mem_cons] at nodes
      simp [ofVisits, Node.fault?_eq_none_iff.mpr nodes.1, induction nodes.2, after]

/-- A walk that meets nodes only makes all visits. -/
theorem ofVisits_of_nodes {visits : List Visit}
    (nodes : ∀ visit ∈ visits, visit.node.kind ≠ .foreign) : ofVisits visits = ⟨visits, none⟩ := by
  have made := ofVisits_append nodes []
  simpa [ofVisits] using made

/-- A walk ends with the first value that is no node. -/
theorem ofVisits_of_foreign {front back : List Visit} {visit : Visit} {value : Value}
    (nodes : ∀ visit ∈ front, visit.node.kind ≠ .foreign) (foreign : visit.node = .foreign value) :
    ofVisits (front ++ visit :: back) = ⟨front ++ [visit], some (.notANode value)⟩ := by
  simp [ofVisits_append nodes, ofVisits, foreign, Node.fault?]

end Walk

namespace Node

/-- A walk through a tree makes its visits. -/
theorem walk_eq (root : Node) : root.walk = .ofVisits (root.visits false) := by
  rw [walk, Walk.ofStack_eq, List.flatMap_singleton]

/-- A tree of nodes is visited to its end. -/
theorem walk_of_nodes {root : Node} (nodes : ∀ node ∈ root.preorder, node.kind ≠ .foreign) :
    root.walk = ⟨root.visits false, none⟩ := by
  rw [walk_eq, Walk.ofVisits_of_nodes fun visit member => nodes visit.node
    (List.mem_map_of_mem member)]

theorem visits?_walk {root : Node} (nodes : ∀ node ∈ root.preorder, node.kind ≠ .foreign) :
    root.walk.visits? = .ok (root.visits false) := by
  rw [walk_of_nodes nodes, Walk.visits?]

/-- Of the values in a tree that are no nodes, one is the first. -/
theorem exists_first_foreign {nodes : List Node} (foreign : ∃ node ∈ nodes, node.kind = .foreign) :
    ∃ front value back, nodes = front ++ .foreign value :: back ∧
      ∀ node ∈ front, node.kind ≠ .foreign := by
  obtain ⟨node, member, isForeign⟩ := foreign
  obtain ⟨first, found⟩ := Option.isSome_iff_exists.mp
    (List.find?_isSome (p := (·.kind == .foreign)).mpr ⟨node, member, by simp [isForeign]⟩)
  obtain ⟨first_foreign, front, back, nodes_eq, before⟩ := List.find?_eq_some_iff_append.mp found
  cases first with
  | foreign value => exact ⟨front, value, back, nodes_eq, by simpa using before⟩
  | _ => simp [kind] at first_foreign

/-- A tree is visited up to the first value in it that is no node. -/
theorem walk_of_foreign {root : Node} {front back : List Node} {value : Value}
    (split : root.preorder = front ++ .foreign value :: back)
    (nodes : ∀ node ∈ front, node.kind ≠ .foreign) :
    root.walk.visits.map (·.node) = front ++ [.foreign value] ∧
      root.walk.fault = some (.notANode value) := by
  obtain ⟨before, others, visits_eq, rfl, others_eq⟩ := List.map_eq_append_iff.mp split
  obtain ⟨visit, behind, rfl, foreign, rfl⟩ := List.map_eq_cons_iff.mp others_eq
  have nodes_before : ∀ visit ∈ before, visit.node.kind ≠ .foreign :=
    fun visit member => nodes visit.node (List.mem_map_of_mem member)
  rw [walk_eq, visits_eq, Walk.ofVisits_of_foreign nodes_before foreign]
  simp [foreign]

/-- A tree that holds a value that is no node is not visited to its end. -/
theorem exists_fault_of_foreign {root : Node}
    (foreign : ∃ node ∈ root.preorder, node.kind = .foreign) :
    ∃ fault, root.walk.visits? = .error fault := by
  obtain ⟨front, value, back, split, nodes⟩ := exists_first_foreign foreign
  exact ⟨.notANode value, by rw [Walk.visits?, (walk_of_foreign split nodes).2]⟩

end Node

/-- Steps none of which fails give all their results. -/
theorem mapM_eq_ok {α β ε : Type} {step : α → Except ε β} {result : α → β} {inputs : List α}
    (each : ∀ input ∈ inputs, step input = .ok (result input)) :
    inputs.mapM step = .ok (inputs.map result) := by
  induction inputs with
  | nil => rfl
  | cons input inputs induction =>
      rw [List.forall_mem_cons] at each
      rw [List.mapM_cons, each.1, induction each.2]
      rfl

/-- Steps that can fail in one way only fail in this way if one of them does. -/
theorem mapM_eq_error {α β ε : Type} {step : α → Except ε β} {error : ε} {inputs : List α}
    (each : ∀ input ∈ inputs, (∃ result, step input = .ok result) ∨ step input = .error error)
    (fails : ∃ input ∈ inputs, step input = .error error) : inputs.mapM step = .error error := by
  induction inputs with
  | nil => simp at fails
  | cons input inputs induction =>
      rw [List.forall_mem_cons] at each
      rw [List.mapM_cons]
      rcases each.1 with ⟨result, first⟩ | first
      · rw [List.exists_mem_cons_iff, first] at fails
        rw [first, induction each.2 (fails.resolve_left nofun)]
        rfl
      · rw [first]
        rfl

end SearchQuery
