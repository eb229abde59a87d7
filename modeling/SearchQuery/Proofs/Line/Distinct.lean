import SearchQuery.Proofs.Line.Placement
import SearchQuery.Proofs.Line.Shape
import SearchQuery.Proofs.Node.Distinct
import SearchQuery.Proofs.Node.Pieces

/-!
# No node of a line stands twice

Two nodes of a line that differ in where they begin are different.  A node that covers no text is a
missing part, or the value of a definition that has none, and stands at the end of what it belongs
to.  So the parts of a node have no nodes in common, though one may begin where the one in front of
it ends.
-/

namespace SearchQuery.Line

open Reader Node

variable {content : List Char}

/-- A node of a line that covers no text does not stand at the beginning. -/
theorem LinePlaced.start_lt {root inner : Node} (linePlaced : LinePlaced content root)
    (member : inner ∈ root.preorder) (empty : inner.start = inner.stop) :
    root.start < inner.start := by
  have nonempty := linePlaced.nonempty
  rcases linePlaced.solid inner member with (solid | missing) | ⟨span, name, label, rfl, rfl⟩
  · omega
  · have other : inner ≠ root := fun same => linePlaced.kind_ne (same ▸ missing)
    obtain ⟨parent, parent_mem, part_mem⟩ :=
      (eq_root_or_mem_partNodes member).resolve_left other
    have start_eq : inner.start = parent.stop :=
      congrArg Span.start (linePlaced.endsMissing parent parent_mem inner part_mem missing)
    have inside := inside_of_mem_preorder linePlaced.placed parent_mem
    rcases linePlaced.solid parent parent_mem with (solid | lacking) | ⟨span, name, label, rfl, rfl⟩
    · omega
    · simp [partNodes_of_missing lacking] at part_mem
    · rw [start_eq]
      exact nonempty
  · exact nonempty

/-- Trees that stand one after the other have no nodes in common. -/
theorem LinePlaced.disjoint {left right : Node} (left_placed : LinePlaced content left)
    (right_placed : LinePlaced content right) (before : left.stop ≤ right.start) :
    left.preorder.Disjoint right.preorder := by
  intro inner left_mem right_mem
  have left_inside := inside_of_mem_preorder left_placed.placed left_mem
  have right_inside := inside_of_mem_preorder right_placed.placed right_mem
  have ordered := (right_placed.placed inner right_mem).start_le_stop
  have := right_placed.start_lt right_mem (by omega)
  omega

/-- The two parts of a node have no nodes in common if the first one is a word of the line. -/
theorem partsApart_of_leaf {node left right : Node} (placed : ∀ inner ∈ node.preorder,
      inner.Placed content) (parts_eq : node.partNodes = [left, right])
    (leaf : left.kind ∈ Kind.compared) (solid : left.IsSolid) : node.PartsApart := by
  have covers : left.start < left.stop := solid.resolve_right fun missing => by
    simp [missing, Kind.compared] at leaf
  have right_mem : right ∈ node.partNodes := by simp [parts_eq]
  have before : left.stop ≤ right.start := by
    have ordered := (placed node (self_mem_preorder node)).ordered
    rwa [parts_eq, List.isChain_pair] at ordered
  rw [PartsApart, parts_eq, List.pairwise_pair, preorder_of_leaf (partNodes_of_compared leaf)]
  intro inner left_inner right_inner
  obtain rfl := List.mem_singleton.mp left_inner
  have inside := inside_of_mem_preorder
    (fun other other_mem => placed other (mem_preorder_of_mem_partNodes right_mem other_mem))
    right_inner
  omega

/-- The nodes of a tree without queries are different. -/
theorem nodup_of_isSound {root : Node} (sound : IsSound content root)
    (shaped : ∀ inner ∈ root.preorder, inner.IsShaped)
    (kind : root.kind ≠ .query ∧ root.kind ≠ .definition) : root.preorder.Nodup := by
  apply nodup_preorder
  intro node node_mem
  have kind_ne := kind_of_mem_preorder shaped kind node node_mem
  have placed : ∀ inner ∈ node.preorder, inner.Placed content := fun inner inner_mem =>
    (sound inner (mem_preorder_trans node_mem inner_mem)).1
  have solid {part : Node} (part_mem : part ∈ node.partNodes) : part.IsSolid :=
    (sound part (mem_preorder_of_mem_parts node_mem part_mem)).2.1
  have node_shaped := shaped node node_mem
  cases node with
  | range span lower upper =>
      cases lower with
      | none => cases upper <;> exact partsApart_of_length_le (by simp)
      | some lower =>
          cases upper with
          | none => exact partsApart_of_length_le (by simp)
          | some upper =>
              exact partsApart_of_leaf placed (partNodes_range ..)
                (Kind.boundaries_subset (node_shaped lower (by simp))) (solid (by simp))
  | qualified span negated qualifier value =>
      refine partsApart_of_leaf placed (partNodes_qualified ..) ?_ (solid (by simp))
      simp [node_shaped.1, Kind.compared]
  | sort span keyword criteria =>
      refine partsApart_of_leaf placed (partNodes_sort ..) ?_ (solid (by simp))
      simp [node_shaped.1, Kind.compared]
  | query => exact absurd rfl kind_ne.1
  | definition => exact absurd rfl kind_ne.2
  | document => cases node_shaped
  | _ => exact partsApart_of_length_le (by simp [partNodes, parts])

theorem nodup_of_finds_item {cursor next : Cursor} {node : Node} (on : cursor.On content)
    (finds : item.Finds cursor node next) : node.preorder.Nodup := by
  obtain ⟨kind_mem, shaped⟩ := yields_item finds
  exact nodup_of_isSound (nodeBetween_item on finds).isSound shaped
    ⟨ne_of_mem_of_not_mem kind_mem (by decide), ne_of_mem_of_not_mem kind_mem (by decide)⟩

theorem nodup_queryOf {cursor final : Cursor} {first : Node} {others : List Node}
    (on : cursor.On content) (repeats : Repeats item cursor (first :: others) final) :
    (queryOf first others).preorder.Nodup := by
  have each : ∀ node ∈ first :: others, ∃ place next, place.On content ∧
      item.Finds place node next := repeats.exists_place (keeps_item (kept_on content)) on
  have query_placed := linePlaced_of_between
    (nodeBetween_queryOf (itemsBetween_of_repeats on repeats))
  have parts_eq : (queryOf first others).partNodes = first :: others := partNodes_query ..
  apply nodup_preorder_of_parts
  · have ordered := (query_placed.placed _ (self_mem_preorder _)).pairwise_partNodes
      fun part part_mem => query_placed.placed part
        (mem_preorder_of_mem_partNodes part_mem (self_mem_preorder part))
    refine ordered.imp_of_mem ?_
    intro left right left_mem right_mem before
    obtain ⟨_, _, left_on, left_found⟩ := each left (parts_eq ▸ left_mem)
    obtain ⟨_, _, right_on, right_found⟩ := each right (parts_eq ▸ right_mem)
    exact (linePlaced_of_between (nodeBetween_item left_on left_found)).disjoint
      (linePlaced_of_between (nodeBetween_item right_on right_found)) before
  · rw [parts_eq]
    intro node node_mem
    obtain ⟨_, _, place_on, found⟩ := each node node_mem
    exact nodup_of_finds_item place_on found

/-- The nodes of a query without items but for a missing one are different. -/
theorem nodup_query_missing (span place : Span) (message : String) :
    (Node.query span [.missing place message]).preorder.Nodup := by
  apply nodup_preorder_of_parts
  · exact partsApart_of_length_le (by simp)
  · rw [partNodes_query, List.forall_mem_singleton, preorder_of_leaf (partNodes_of_missing rfl)]
    exact List.nodup_singleton _

/-- The nodes of a line that is read are different. -/
theorem nodup_of_finds_line {node : Node} {next : Cursor}
    (finds : line.Finds ⟨0, content⟩ node next) : node.preorder.Nodup := by
  have linePlaced := linePlaced_line finds
  have start_on := Cursor.on_start content
  obtain ⟨back, found | ⟨_, found⟩, _⟩ := finds_line_iff.mp finds
  · obtain ⟨name, front, name_found, sign, middle, sign_found, items, repeats, rfl⟩ :=
      finds_definition_iff.mp found
    have named := nodeBetween_variableName start_on
      (finds_variableName_iff.mpr ⟨name, name_found, rfl⟩)
    have sign_on := (between_of_finds_token named.on sign_found).on
    apply nodup_preorder_of_parts
    · exact partsApart_of_leaf linePlaced.placed (partNodes_definition ..)
        (by simp [Node.kind, Kind.compared]) (Or.inl named.nonempty)
    · rw [partNodes_definition, List.forall_mem_cons, List.forall_mem_singleton]
      constructor
      · rw [preorder_of_leaf rfl]
        exact List.nodup_singleton _
      · cases items with
        | nil => exact nodup_query_missing ..
        | cons first others => exact nodup_queryOf sign_on repeats
  · obtain ⟨first, others, repeats, rfl⟩ := finds_query_iff.mp found
    exact nodup_queryOf start_on repeats

end SearchQuery.Line
