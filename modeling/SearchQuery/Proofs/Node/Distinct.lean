import Mathlib.Data.List.Nodup
import Mathlib.Data.List.Pairwise
import SearchQuery.Proofs.Node.Preorder

/-!
# Trees without a node that stands twice

No node is a node of its own parts.  So the nodes of a tree are all different if the parts of each
of them have no nodes in common, and each of them but for the root is then a part of one node.
-/

namespace SearchQuery.Node

/-- A node does not occur in its parts. -/
theorem not_mem_preorder_of_mem_partNodes {node part : Node} (part_mem : part ∈ node.partNodes) :
    node ∉ part.preorder := by
  induction node using forall_of_partNodes generalizing part with
  | step node induction =>
      intro node_mem
      rcases mem_preorder_iff.mp node_mem with rfl | ⟨inner, inner_mem, node_mem⟩
      · exact induction node part_mem part_mem (self_mem_preorder node)
      · exact induction part part_mem inner_mem (mem_preorder_of_mem_parts node_mem part_mem)

/-- The parts of a node have no nodes in common. -/
def PartsApart (node : Node) : Prop :=
  node.partNodes.Pairwise fun left right => left.preorder.Disjoint right.preorder

/-- A single part has no nodes in common with another one. -/
theorem partsApart_of_length_le {node : Node} (length_le : node.partNodes.length ≤ 1) :
    node.PartsApart := by
  rw [PartsApart]
  match node.partNodes, length_le with
  | [], _ => exact .nil
  | [part], _ => exact List.pairwise_singleton _ part

/-- The nodes of a tree are different if those of its parts are, and the parts have none in
common. -/
theorem nodup_preorder_of_parts {node : Node} (apart : node.PartsApart)
    (parts : ∀ part ∈ node.partNodes, part.preorder.Nodup) : node.preorder.Nodup := by
  rw [preorder_eq, List.nodup_cons, List.nodup_flatMap]
  refine ⟨fun member => ?_, parts, apart⟩
  obtain ⟨part, part_mem, node_mem⟩ := List.mem_flatMap.mp member
  exact not_mem_preorder_of_mem_partNodes part_mem node_mem

/-- The nodes of a tree are different if the parts of each of them have none in common. -/
theorem nodup_preorder {root : Node} (apart : ∀ node ∈ root.preorder, node.PartsApart) :
    root.preorder.Nodup := by
  induction root using forall_of_partNodes with
  | step root induction =>
      rw [forall_mem_preorder_iff] at apart
      exact nodup_preorder_of_parts apart.1 fun part part_mem =>
        induction part part_mem (apart.2 part part_mem)

/-- The nodes of a part are different if those of the whole are. -/
theorem nodup_preorder_part {node part : Node} (nodup : node.preorder.Nodup)
    (part_mem : part ∈ node.partNodes) : part.preorder.Nodup := by
  rw [preorder_eq, List.nodup_cons, List.nodup_flatMap] at nodup
  exact nodup.2.1 part part_mem

/-- Parts of a node that have a node in common are the same. -/
theorem eq_of_mem_preorder_parts {root left right inner : Node} (nodup : root.preorder.Nodup)
    (left_mem : left ∈ root.partNodes) (right_mem : right ∈ root.partNodes)
    (left_inner : inner ∈ left.preorder) (right_inner : inner ∈ right.preorder) :
    left = right := by
  rw [preorder_eq, List.nodup_cons, List.nodup_flatMap] at nodup
  by_contra different
  have apart : root.PartsApart := nodup.2.2
  have symmetric : Std.Symm fun left right : Node => left.preorder.Disjoint right.preorder :=
    ⟨fun _ _ disjoint => List.disjoint_symm disjoint⟩
  exact apart.forall left_mem right_mem different left_inner right_inner

/-- A part of the root of a tree of different nodes is a part of no other node. -/
private theorem eq_root_of_mem_partNodes {root other part : Node} (nodup : root.preorder.Nodup)
    (other_mem : other ∈ root.preorder) (root_part : part ∈ root.partNodes)
    (other_part : part ∈ other.partNodes) : other = root := by
  refine (mem_preorder_iff.mp other_mem).resolve_right fun ⟨middle, middle_mem, other_mem⟩ => ?_
  have part_mem := mem_preorder_of_mem_parts other_mem other_part
  obtain rfl := eq_of_mem_preorder_parts nodup root_part middle_mem (self_mem_preorder part)
    part_mem
  exact not_mem_preorder_of_mem_partNodes other_part other_mem

/-- In a tree of different nodes, a node is a part of one node at most. -/
theorem eq_of_mem_partNodes {root left right part : Node} (nodup : root.preorder.Nodup)
    (left_mem : left ∈ root.preorder) (right_mem : right ∈ root.preorder)
    (left_part : part ∈ left.partNodes) (right_part : part ∈ right.partNodes) : left = right := by
  induction root using forall_of_partNodes with
  | step root induction =>
      rcases mem_preorder_iff.mp left_mem with rfl | ⟨first, first_mem, left_inner⟩
      · exact (eq_root_of_mem_partNodes nodup right_mem left_part right_part).symm
      rcases mem_preorder_iff.mp right_mem with rfl | ⟨second, second_mem, right_inner⟩
      · exact eq_root_of_mem_partNodes nodup left_mem right_part left_part
      obtain rfl := eq_of_mem_preorder_parts nodup first_mem second_mem
        (mem_preorder_of_mem_parts left_inner left_part)
        (mem_preorder_of_mem_parts right_inner right_part)
      exact induction first first_mem (nodup_preorder_part nodup first_mem) left_inner right_inner

/-- In a tree of different nodes, what a node inside of a subtree is a part of is in the subtree. -/
theorem parent_mem_preorder {root top node parent : Node} (nodup : root.preorder.Nodup)
    (top_mem : top ∈ root.preorder) (node_mem : node ∈ top.preorder) (other : node ≠ top)
    (parent_mem : parent ∈ root.preorder) (part_mem : node ∈ parent.partNodes) :
    parent ∈ top.preorder := by
  obtain ⟨inside, inside_mem, inside_part⟩ := (eq_root_or_mem_partNodes node_mem).resolve_left other
  obtain rfl := eq_of_mem_partNodes nodup (mem_preorder_trans top_mem inside_mem) parent_mem
    inside_part part_mem
  exact inside_mem

/-- Trees stay different when they are moved by the same distance. -/
theorem shift_injective (distance : Int) : Function.Injective (shift distance) := by
  intro left right same
  have back (node : Node) : (node.shift distance).shift (-distance) = node := by
    rw [shift_shift, Int.add_right_neg, shift_zero]
  rw [← back left, same, back right]

end SearchQuery.Node
