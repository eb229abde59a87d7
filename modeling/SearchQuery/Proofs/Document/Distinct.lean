import SearchQuery.Proofs.Document.Placement
import SearchQuery.Proofs.Document.Rejection
import SearchQuery.Proofs.Line.Distinct

/-!
# No node of a document stands twice

The nodes of a document are all different, spans included.  The lines of a document stand one after
the other, and a node that covers no text does not stand at the beginning of its line.
-/

namespace SearchQuery

open Node

namespace SourceLine

/-- The nodes of a line are different, whether the line is read or not. -/
theorem nodup_preorder_node (line : SourceLine) : line.node.preorder.Nodup := by
  rcases Line.line.misses_or_finds ⟨0, line.content⟩ with misses | ⟨root, next, finds⟩
  · obtain ⟨message, node_eq⟩ := node_of_misses misses rfl
    rw [node_eq]
    exact Line.nodup_query_missing ..
  · rw [node_of_finds finds, preorder_shift]
    exact (Line.nodup_of_finds_line finds).map (shift_injective _)

/-- A node that covers no text does not stand at the beginning of a line. -/
theorem start_lt_of_mem_preorder {line : SourceLine} (nonempty : 0 < line.content.length)
    {inner : Node} (member : inner ∈ line.node.preorder) (empty : inner.start = inner.stop) :
    line.offset < inner.start := by
  rcases Line.line.misses_or_finds ⟨0, line.content⟩ with misses | ⟨root, next, finds⟩
  · -- Both nodes of a line that cannot be read end where the line ends.
    have stop_eq : inner.stop = line.offset + line.content.length := by
      obtain ⟨message, node_eq⟩ := node_of_misses misses rfl
      rw [node_eq, preorder_eq, partNodes_query, List.flatMap_singleton,
        preorder_of_leaf (partNodes_of_missing rfl), List.mem_pair] at member
      rcases member with rfl | rfl <;> rfl
    omega
  · have linePlaced := Line.linePlaced_line finds
    rw [node_of_finds finds, preorder_shift] at member
    obtain ⟨inner, inner_mem, rfl⟩ := List.mem_map.mp member
    have inner_placed := linePlaced.placed inner inner_mem
    rw [inner_placed.start_shift, inner_placed.stop_shift] at empty
    have behind := linePlaced.start_lt inner_mem (by omega)
    have := (linePlaced.placed root (self_mem_preorder root)).start_nonneg
    rw [inner_placed.start_shift]
    omega

end SourceLine

namespace Document

/-- The nodes of a text are different. -/
theorem nodup_preorder_ofText (text : String) : (ofText text).toNode.preorder.Nodup := by
  have parts_eq : (ofText text).toNode.partNodes = (significantLines text).map (·.node) :=
    Document.partNodes_toNode _
  apply nodup_preorder_of_parts
  · rw [PartsApart, parts_eq, List.pairwise_map]
    refine (pairwise_significantLines text).imp_of_mem ?_
    intro left right left_mem right_mem before inner left_inner right_inner
    obtain ⟨left_root, left_placed⟩ := exists_nodePlaced_of_mem_significantLines left_mem
    obtain ⟨right_root, right_placed⟩ := exists_nodePlaced_of_mem_significantLines right_mem
    have left_inside := inside_of_mem_preorder
      (fun _ => placed_of_mem_significantLines left_mem) left_inner
    have right_inside := inside_of_mem_preorder
      (fun _ => placed_of_mem_significantLines right_mem) right_inner
    have ordered := (placed_of_mem_significantLines right_mem right_inner).start_le_stop
    have := left_placed.inside
    have := right_placed.inside
    have := SourceLine.start_lt_of_mem_preorder (by omega) right_inner (by omega)
    omega
  · rw [parts_eq, List.forall_mem_map]
    exact fun line _ => line.nodup_preorder_node

end Document

end SearchQuery
