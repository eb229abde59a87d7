import SearchQuery.Node.Printer
import SearchQuery.Proofs.Node.Preorder

/-!
# The text of a tree

A tree that holds nodes only can be printed.  What it is printed as depends on nothing but the text
that its words are cut from and what is found under the names of its variables.
-/

namespace SearchQuery

/-- Two steps in a row end well exactly if both do. -/
theorem bind_eq_ok_iff {α β : Type} {first : Except Fault α} {rest : α → Except Fault β}
    {result : β} :
    first >>= rest = .ok result ↔ ∃ value, first = .ok value ∧ rest value = .ok result := by
  cases first <;> simp [bind, Except.bind]

namespace Node

/-! ## Names -/

/-- The name of a variable. -/
def variableName? : Node → Option String
  | .variable _ name _ => some name
  | _ => none

/-- The names of the variables in a tree. -/
def names (root : Node) : List String := root.preorder.filterMap variableName?

/-- The names in a tree are that of its root and those in its parts. -/
theorem names_eq (node : Node) :
    node.names = node.variableName?.toList ++ node.partNodes.flatMap names := by
  rw [names, preorder_eq, List.filterMap_cons, List.filterMap_flatMap]
  cases node.variableName? <;> rfl

theorem name_mem_names (span : Span) (name : String) (label : Option Nat) :
    name ∈ (Node.variable span name label).names := by
  rw [names_eq]
  exact List.mem_append_left _ (List.mem_singleton.mpr rfl)

/-- The names in a part of a tree are names in the tree. -/
theorem names_subset_of_mem_preorder {root inner : Node} (member : inner ∈ root.preorder) :
    inner.names ⊆ root.names := by
  intro name name_mem
  obtain ⟨node, node_mem, name_eq⟩ := List.mem_filterMap.mp name_mem
  exact List.mem_filterMap.mpr ⟨node, mem_preorder_trans member node_mem, name_eq⟩

theorem forall_mem_names_part {node part : Node} {property : String → Prop}
    (each : ∀ name ∈ node.names, property name) (part_mem : part ∈ node.partNodes) :
    ∀ name ∈ part.names, property name := fun name name_mem =>
  each name (names_subset_of_mem_preorder
    (mem_preorder_of_mem_partNodes part_mem (self_mem_preorder part)) name_mem)

/-! ## What a text depends on -/

section

variable {source : List Char} {lookup lookup' : String → Option String}

private theorem printList_congr {nodes : List Node}
    (same : ∀ node ∈ nodes, node.print source lookup = node.print source lookup') :
    printList source lookup nodes = printList source lookup' nodes := by
  induction nodes with
  | nil => rfl
  | cons node nodes induction =>
      rw [List.forall_mem_cons] at same
      rw [printList, printList, same.1, induction same.2]

private theorem printOption_congr {node : Option Node}
    (same : ∀ inner ∈ node.toList, inner.print source lookup = inner.print source lookup') :
    printOption source lookup node = printOption source lookup' node := by
  cases node with
  | none => rfl
  | some node => exact same node (by simp)

/-- Nodes are printed alike if the same is found under all names in them. -/
theorem print_congr {node : Node} (same : ∀ name ∈ node.names, lookup name = lookup' name) :
    node.print source lookup = node.print source lookup' := by
  induction node using forall_of_partNodes with
  | step node induction =>
      have parts : ∀ part ∈ node.partNodes, part.print source lookup = part.print source lookup' :=
        fun part part_mem => induction part part_mem (forall_mem_names_part same part_mem)
      cases node with
      | «variable» span name label =>
          rw [print, print, same name (name_mem_names span name label)]
      | range span lower upper =>
          rw [partNodes_range] at parts
          rw [print, print,
            printOption_congr fun part part_mem => parts part (List.mem_append_left _ part_mem),
            printOption_congr fun part part_mem => parts part (List.mem_append_right _ part_mem)]
      | compare span operator value => rw [print, print, parts value (by simp)]
      | qualified span negated qualifier value =>
          rw [print, print, parts qualifier (by simp), parts value (by simp)]
      | sort span keyword criteria =>
          rw [print, print, parts keyword (by simp), parts criteria (by simp)]
      | definition span name value label => rw [print, print, parts value (by simp)]
      | query span items =>
          rw [partNodes_query] at parts
          rw [print, print, printList_congr parts]
      | document span lines text =>
          rw [partNodes_document] at parts
          rw [print, print, printList_congr parts]
      | literal | number | date | mark | missing | foreign => rw [print, print]

end

/-! ## Trees that hold nodes only -/

private theorem exists_printList {source : List Char} {lookup : String → Option String}
    {nodes : List Node} (each : ∀ node ∈ nodes, ∃ text, node.print source lookup = .ok text) :
    ∃ texts, printList source lookup nodes = .ok texts := by
  induction nodes with
  | nil => exact ⟨[], rfl⟩
  | cons node nodes induction =>
      rw [List.forall_mem_cons] at each
      obtain ⟨text, text_eq⟩ := each.1
      obtain ⟨texts, texts_eq⟩ := induction each.2
      exact ⟨text :: texts, by rw [printList, text_eq, texts_eq]; rfl⟩

private theorem exists_printOption {source : List Char} {lookup : String → Option String}
    {node : Option Node}
    (each : ∀ inner ∈ node.toList, ∃ text, inner.print source lookup = .ok text) :
    ∃ text, printOption source lookup node = .ok text := by
  cases node with
  | none => exact ⟨"", rfl⟩
  | some node => exact each node (by simp)

private theorem exists_print {root : Node} (source : List Char) (lookup : String → Option String)
    (nodes : ∀ node ∈ root.preorder, node.kind ≠ .foreign) :
    ∃ text, root.print source lookup = .ok text := by
  induction root using forall_of_partNodes with
  | step root induction =>
      rw [forall_mem_preorder_iff] at nodes
      have parts : ∀ part ∈ root.partNodes, ∃ text, part.print source lookup = .ok text :=
        fun part part_mem => induction part part_mem (nodes.2 part part_mem)
      cases root with
      | range span lower upper =>
          rw [partNodes_range] at parts
          obtain ⟨low, low_eq⟩ := exists_printOption
            fun part part_mem => parts part (List.mem_append_left _ part_mem)
          obtain ⟨high, high_eq⟩ := exists_printOption
            fun part part_mem => parts part (List.mem_append_right _ part_mem)
          exact ⟨_, by rw [print, low_eq, high_eq]; rfl⟩
      | compare span operator value =>
          obtain ⟨text, text_eq⟩ := parts value (by simp)
          exact ⟨_, by rw [print, text_eq]; rfl⟩
      | qualified span negated qualifier value =>
          obtain ⟨name, name_eq⟩ := parts qualifier (by simp)
          obtain ⟨text, text_eq⟩ := parts value (by simp)
          exact ⟨_, by rw [print, name_eq, text_eq]; rfl⟩
      | sort span keyword criteria =>
          obtain ⟨name, name_eq⟩ := parts keyword (by simp)
          obtain ⟨text, text_eq⟩ := parts criteria (by simp)
          exact ⟨_, by rw [print, name_eq, text_eq]; rfl⟩
      | definition span name value label =>
          obtain ⟨text, text_eq⟩ := parts value (by simp)
          exact ⟨_, by rw [print, text_eq]; rfl⟩
      | query span items =>
          rw [partNodes_query] at parts
          obtain ⟨texts, texts_eq⟩ := exists_printList parts
          exact ⟨_, by rw [print, texts_eq]; rfl⟩
      | document span lines text =>
          rw [partNodes_document] at parts
          obtain ⟨texts, texts_eq⟩ := exists_printList parts
          exact ⟨_, by rw [print, texts_eq]; rfl⟩
      | foreign value => exact absurd rfl nodes.1
      | _ => exact ⟨_, by rw [print]⟩

/-- The text of a node, empty if it cannot be printed. -/
def text (source : List Char) (lookup : String → Option String) (node : Node) : String :=
  (node.print source lookup).toOption.getD ""

/-- A tree of nodes can be printed. -/
theorem print_eq_text {root : Node} (source : List Char) (lookup : String → Option String)
    (nodes : ∀ node ∈ root.preorder, node.kind ≠ .foreign) :
    root.print source lookup = .ok (root.text source lookup) := by
  obtain ⟨text, text_eq⟩ := exists_print source lookup nodes
  rw [Node.text, text_eq]
  rfl

end Node

end SearchQuery
