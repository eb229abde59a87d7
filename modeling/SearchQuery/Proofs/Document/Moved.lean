import SearchQuery.Proofs.Document.Concatenation
import SearchQuery.Proofs.Document.Placement
import SearchQuery.Proofs.Node.Bare
import SearchQuery.Proofs.Repository.Named
import SearchQuery.Proofs.Validation.Moved

/-!
# Moved lines

Lines with the same content that stand in two texts have the same node, moved.  It is printed from
the one text as from the other, with its inner nodes, so that values keep their texts, types and
repositories.
-/

namespace SearchQuery

namespace Node

/-- The nodes of the tree, moved, are printed from one text as they are from another. -/
def PrintsAlike (left right : List Char) (distance : Int) (root : Node) : Prop :=
  ∀ node ∈ root.preorder, ∀ lookup,
    (node.shift distance).print left lookup = node.print right lookup

theorem PrintsAlike.part {left right : List Char} {distance : Int} {root part : Node}
    (alike : root.PrintsAlike left right distance) (part_mem : part ∈ root.partNodes) :
    part.PrintsAlike left right distance := fun node member =>
  alike node (mem_preorder_of_mem_partNodes part_mem member)

end Node

namespace SourceLine

/-- The node of a line is that of another line with the same content, moved. -/
theorem node_eq_shift {line other : SourceLine} (same : line.content = other.content) :
    line.node = other.node.shift (line.offset - other.offset) := by
  have distance_eq : (other.offset : Int) + (line.offset - other.offset) = line.offset := by omega
  rw [node, node, Node.shift_shift, distance_eq]
  simp only [rejected, same]

/-- Lines with the same content are printed alike from the texts that they stand in. -/
theorem printsAlike_node {line other : SourceLine} {left right : List Char}
    (same : line.content = other.content) (visible : ∃ c ∈ other.content, Text.isBlank c = false)
    (line_stands : line.StandsIn left) (other_stands : other.StandsIn right) :
    other.node.PrintsAlike left right (line.offset - other.offset) := by
  intro node member lookup
  obtain ⟨root, nodePlaced⟩ := exists_nodePlaced visible
  obtain ⟨front, back, left_eq, left_offset⟩ := line_stands.split
  obtain ⟨front', back', right_eq, right_offset⟩ := other_stands.split
  obtain ⟨inner, inner_mem, rfl, _⟩ := nodePlaced.exists_of_mem_preorder member
  have placed : ∀ part ∈ inner.preorder, part.Placed other.content := fun part part_mem =>
    nodePlaced.placed part (Node.mem_preorder_trans inner_mem part_mem)
  have distance_eq : (other.offset : Int) + (line.offset - other.offset) = front.length := by omega
  rw [Node.shift_shift, distance_eq, left_eq, right_eq, right_offset, same]
  exact (Node.print_shift front other.content back lookup placed).trans
    (Node.print_shift front' other.content back' lookup placed).symm

end SourceLine

namespace Document

theorem printsAlike_of_mem_significantLines {left right : String} {line other : SourceLine}
    (line_mem : line ∈ significantLines left) (other_mem : other ∈ significantLines right)
    (same : line.content = other.content) :
    other.node.PrintsAlike left.toList right.toList (line.offset - other.offset) :=
  SourceLine.printsAlike_node same (exists_visible_of_mem_significantLines other_mem)
    (standsIn_of_mem_significantLines line_mem) (standsIn_of_mem_significantLines other_mem)

end Document

/-- The type of a value does not change when it is moved. -/
theorem SymbolTable.typeOf_shift (table : SymbolTable) (distance : Int) (value : Node) :
    table.typeOf (value.shift distance) = table.typeOf value := by
  induction value using Node.forall_of_partNodes with
  | step value induction =>
      cases value with
      | compare span operator value =>
          rw [Node.shift, typeOf, typeOf]
          exact induction value (by simp)
      | range span lower upper =>
          cases lower <;> cases upper <;> simp_all [Node.shift, typeOf]
      | query span items =>
          rcases items with _ | ⟨item, _ | ⟨second, items⟩⟩
          · simp [Node.shift, typeOf]
          · simp_all [Node.shift, typeOf]
          · simp [Node.shift, typeOf]
      | _ => simp [Node.shift, typeOf]

namespace Repository

variable {table : SymbolTable} {left right : List Char} {distance : Int}

theorem namedAt?_shift (format : RepositoryFormat) {node : Node}
    (alike : node.PrintsAlike left right distance) :
    namedAt? table left format (node.shift distance) = namedAt? table right format node := by
  cases node with
  | qualified span negated qualifier value =>
      have value_alike : (value.shift distance).text left table.valueOf? =
          value.text right table.valueOf? := by
        have value_mem : value ∈ (Node.qualified span negated qualifier value).preorder :=
          Node.mem_preorder_of_mem_partNodes (by simp) (Node.self_mem_preorder value)
        rw [Node.text, Node.text, alike value value_mem]
      rw [Node.shift, namedAt?, namedAt?, Node.word_shift, value_alike]
  | _ => simp [Node.shift, namedAt?]

/-- A moved tree names the same repositories. -/
theorem namedIn_shift (format : RepositoryFormat) {root : Node}
    (alike : root.PrintsAlike left right distance) :
    namedIn table left format (root.shift distance) = namedIn table right format root := by
  rw [namedIn, namedIn, Node.preorder_shift, List.filterMap_map]
  refine List.filterMap_congr fun node member => namedAt?_shift format fun inner inner_mem => ?_
  exact alike inner (Node.mem_preorder_trans member inner_mem)

end Repository

end SearchQuery
