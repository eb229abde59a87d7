import Mathlib.Data.List.Basic
import SearchQuery.Document
import SearchQuery.Node.Traversal

/-!
# The nodes of a tree

The nodes of a tree are its root and the nodes of its parts, from left to right.  Moving a tree
moves each of its nodes and leaves their kinds and their order as they are.  The parts of a document
are its lines.
-/

namespace SearchQuery

namespace Node

/-! ## Parts -/

/-- The direct parts of a node. -/
def partNodes (node : Node) : List Node := node.parts.map (·.node)

@[simp]
theorem partNodes_range (span : Span) (lower upper : Option Node) :
    (Node.range span lower upper).partNodes = lower.toList ++ upper.toList := by
  simp [partNodes, parts, Function.comp_def]

@[simp]
theorem partNodes_compare (span : Span) (operator : String) (value : Node) :
    (Node.compare span operator value).partNodes = [value] := rfl

@[simp]
theorem partNodes_qualified (span : Span) (negated : Bool) (qualifier value : Node) :
    (Node.qualified span negated qualifier value).partNodes = [qualifier, value] := rfl

@[simp]
theorem partNodes_sort (span : Span) (keyword criteria : Node) :
    (Node.sort span keyword criteria).partNodes = [keyword, criteria] := rfl

@[simp]
theorem partNodes_definition (span : Span) (name value : Node) (label : Option Nat) :
    (Node.definition span name value label).partNodes = [name, value] := rfl

@[simp]
theorem partNodes_query (span : Span) (items : List Node) :
    (Node.query span items).partNodes = items := by
  simp [partNodes, parts, Function.comp_def]

@[simp]
theorem partNodes_document (span : Span) (lines : List Node) (source : String) :
    (Node.document span lines source).partNodes = lines := by
  simp [partNodes, parts, Function.comp_def]

/-- The parts of a node are its children, unless it is no node. -/
theorem children_eq {node : Node} (isNode : node.fault? = none) :
    node.children = .ok node.partNodes := by
  simp [children, isNode, partNodes]

/-! ## Preorder -/

private theorem visitsList_eq (nodes : List Node) :
    visitsList nodes = nodes.flatMap (visits false) := by
  induction nodes with
  | nil => rfl
  | cons node nodes induction => simp [visitsList, induction]

private theorem visitsOption_eq (node : Option Node) :
    visitsOption node = node.toList.flatMap (visits false) := by
  cases node <;> simp [visitsOption]

/-- The visits of a tree are that of its root and those of its parts. -/
theorem visits_eq (ofQualifier : Bool) (node : Node) :
    node.visits ofQualifier =
      ⟨node, ofQualifier⟩ :: node.parts.flatMap fun part => part.node.visits part.ofQualifier := by
  cases node <;> simp [visits, parts, visitsList_eq, visitsOption_eq, List.flatMap_map]

private theorem map_node_visits (ofQualifier : Bool) (node : Node) :
    (node.visits ofQualifier).map (·.node) = node.preorder := by
  rw [preorder, visits_eq, visits_eq, List.map_cons, List.map_cons]

/-- The nodes of a tree are its root and the nodes of its parts. -/
theorem preorder_eq (node : Node) : node.preorder = node :: node.partNodes.flatMap preorder := by
  rw [preorder, visits_eq, List.map_cons, List.map_flatMap, partNodes, List.flatMap_map]
  simp [map_node_visits]

/-- A node without parts is the only node of its tree. -/
theorem preorder_of_leaf {node : Node} (leaf : node.partNodes = []) : node.preorder = [node] := by
  rw [preorder_eq, leaf, List.flatMap_nil]

/-- A node of a tree is its root or a node of one of its parts. -/
theorem mem_preorder_iff {node inner : Node} :
    inner ∈ node.preorder ↔ inner = node ∨ ∃ part ∈ node.partNodes, inner ∈ part.preorder := by
  rw [preorder_eq, List.mem_cons, List.mem_flatMap]

theorem self_mem_preorder (node : Node) : node ∈ node.preorder :=
  mem_preorder_iff.mpr (Or.inl rfl)

theorem mem_preorder_of_mem_partNodes {node part inner : Node} (part_mem : part ∈ node.partNodes)
    (inner_mem : inner ∈ part.preorder) : inner ∈ node.preorder :=
  mem_preorder_iff.mpr (Or.inr ⟨part, part_mem, inner_mem⟩)

/-- A property of all nodes of a tree is one of its root and of all nodes of its parts. -/
theorem forall_mem_preorder_iff {node : Node} {property : Node → Prop} :
    (∀ inner ∈ node.preorder, property inner) ↔
      property node ∧ ∀ part ∈ node.partNodes, ∀ inner ∈ part.preorder, property inner := by
  constructor
  · intro each
    exact ⟨each node (self_mem_preorder node), fun part part_mem inner inner_mem =>
      each inner (mem_preorder_of_mem_partNodes part_mem inner_mem)⟩
  · rintro ⟨root, inners⟩ inner member
    rcases mem_preorder_iff.mp member with rfl | ⟨part, part_mem, inner_mem⟩
    · exact root
    · exact inners part part_mem inner inner_mem

/-- The parts of a node are smaller than the node. -/
theorem sizeOf_lt_of_mem_partNodes {node part : Node} (member : part ∈ node.partNodes) :
    sizeOf part < sizeOf node := by
  obtain ⟨visit, visit_mem, rfl⟩ := List.mem_map.mp member
  have load_le :
      ∀ {visits : List Visit}, visit ∈ visits → sizeOf visit.node ≤ Visit.load visits := by
    intro visits visit_mem
    induction visits with
    | nil => simp at visit_mem
    | cons other visits induction =>
        rw [Visit.load]
        rcases List.mem_cons.mp visit_mem with rfl | visit_mem
        · omega
        · have := induction visit_mem
          omega
  exact Nat.lt_of_le_of_lt (load_le visit_mem) node.load_parts_lt

/-- A property of nodes that carries over from the parts of a node holds of all nodes. -/
theorem forall_of_partNodes {property : Node → Prop}
    (step : ∀ node, (∀ part ∈ node.partNodes, property part) → property node) (node : Node) :
    property node := by
  induction size_eq : sizeOf node using Nat.strongRecOn generalizing node with
  | ind size induction =>
      apply step
      intro part part_mem
      exact induction _ (size_eq ▸ sizeOf_lt_of_mem_partNodes part_mem) part rfl

/-- The nodes of a tree in a tree are nodes of the whole. -/
theorem mem_preorder_trans {node middle inner : Node} (middle_mem : middle ∈ node.preorder)
    (inner_mem : inner ∈ middle.preorder) : inner ∈ node.preorder := by
  induction node using forall_of_partNodes with
  | step node induction =>
      rcases mem_preorder_iff.mp middle_mem with rfl | ⟨part, part_mem, middle_mem⟩
      · exact inner_mem
      · exact mem_preorder_of_mem_partNodes part_mem (induction part part_mem middle_mem)

/-- The parts of a node of a tree are nodes of the tree. -/
theorem mem_preorder_of_mem_parts {node middle part : Node} (middle_mem : middle ∈ node.preorder)
    (part_mem : part ∈ middle.partNodes) : part ∈ node.preorder :=
  mem_preorder_trans middle_mem (mem_preorder_of_mem_partNodes part_mem (self_mem_preorder part))

/-- What is visited is the root or a part of what is visited. -/
theorem eq_root_or_exists_parent {root : Node} {ofQualifier : Bool} {visit : Visit}
    (visit_mem : visit ∈ root.visits ofQualifier) :
    visit = ⟨root, ofQualifier⟩ ∨
      ∃ parent ∈ root.visits ofQualifier, visit ∈ parent.node.parts := by
  induction root using forall_of_partNodes generalizing ofQualifier with
  | step root induction =>
      rw [visits_eq, List.mem_cons] at visit_mem
      rcases visit_mem with rfl | visit_mem
      · exact Or.inl rfl
      · obtain ⟨part, part_mem, visit_mem⟩ := List.mem_flatMap.mp visit_mem
        right
        rw [visits_eq]
        rcases induction part.node (List.mem_map_of_mem part_mem) visit_mem with
          rfl | ⟨parent, parent_mem, member⟩
        · exact ⟨_, List.mem_cons_self, part_mem⟩
        · exact ⟨parent, List.mem_cons_of_mem _ (List.mem_flatMap_of_mem part_mem parent_mem),
            member⟩

/-- A node of a tree is its root or a part of a node of the tree. -/
theorem eq_root_or_mem_partNodes {root node : Node} (member : node ∈ root.preorder) :
    node = root ∨ ∃ parent ∈ root.preorder, node ∈ parent.partNodes := by
  obtain ⟨visit, visit_mem, rfl⟩ := List.mem_map.mp member
  rcases eq_root_or_exists_parent visit_mem with rfl | ⟨parent, parent_mem, part_mem⟩
  · exact Or.inl rfl
  · exact Or.inr ⟨parent.node, List.mem_map_of_mem parent_mem, List.mem_map_of_mem part_mem⟩

/-! ## Moved trees -/

@[simp]
theorem span_shift (distance : Int) (node : Node) (isNode : node.fault? = none) :
    (node.shift distance).span = node.span.shift distance := by
  cases node with
  | foreign value => simp [fault?] at isNode
  | _ => simp [shift, span]

@[simp]
theorem kind_shift (distance : Int) (node : Node) : (node.shift distance).kind = node.kind := by
  cases node <;> simp [shift, kind]

@[simp]
theorem fault?_shift (distance : Int) (node : Node) :
    (node.shift distance).fault? = node.fault? := by
  cases node <;> simp [shift, fault?]

theorem partNodes_shift (distance : Int) (node : Node) :
    (node.shift distance).partNodes = node.partNodes.map (shift distance) := by
  cases node with
  | range span lower upper => cases lower <;> cases upper <;> simp [shift]
  | compare | qualified | sort | query | definition | document => simp [shift]
  | _ => simp [shift, partNodes, parts]

@[simp]
theorem shift_zero (node : Node) : node.shift 0 = node := by
  induction node using forall_of_partNodes with
  | step node induction =>
      have parts_eq : node.partNodes.map (shift 0) = node.partNodes :=
        (List.map_congr_left induction).trans (List.map_id' _)
      cases node with
      | range span lower upper => cases lower <;> cases upper <;> simp_all [shift, Span.shift]
      | _ => simp_all [shift, Span.shift]

/-- A tree that is moved twice is moved by both distances. -/
theorem shift_shift (first second : Int) (node : Node) :
    (node.shift first).shift second = node.shift (first + second) := by
  induction node using forall_of_partNodes with
  | step node induction =>
      cases node with
      | range span lower upper =>
          cases lower <;> cases upper <;> simp_all [shift, Span.shift, Int.add_assoc]
      | _ => simp_all [shift, Span.shift, Int.add_assoc]

/-- The nodes of a moved tree are the moved nodes. -/
theorem preorder_shift (distance : Int) (node : Node) :
    (node.shift distance).preorder = node.preorder.map (shift distance) := by
  induction node using forall_of_partNodes with
  | step node induction =>
      rw [preorder_eq, partNodes_shift, preorder_eq node, List.map_cons, List.flatMap_map,
        List.map_flatMap]
      congr 1
      exact List.flatMap_congr induction

end Node

/-! ## Documents -/

/-- The parts of a document are its lines. -/
theorem Document.partNodes_toNode (document : Document) :
    document.toNode.partNodes = document.lines := by
  rw [toNode, Node.partNodes_document]

/-- The nodes of a document are the document and the nodes of its lines. -/
theorem Document.preorder_toNode (document : Document) :
    document.toNode.preorder = document.toNode :: document.lines.flatMap Node.preorder := by
  rw [Node.preorder_eq, partNodes_toNode]

/-- The nodes of a line are nodes of the document. -/
theorem Document.mem_preorder_of_mem_lines {document : Document} {line node : Node}
    (line_mem : line ∈ document.lines) (node_mem : node ∈ line.preorder) :
    node ∈ document.toNode.preorder :=
  Node.mem_preorder_of_mem_partNodes (document.partNodes_toNode ▸ line_mem) node_mem

end SearchQuery
