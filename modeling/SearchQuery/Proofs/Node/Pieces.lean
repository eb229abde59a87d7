import Mathlib.Data.List.Pairwise
import SearchQuery.Proofs.Node.Placement

/-!
# The pieces of a tree

The characters of a text belong to the nodes of its tree piece by piece.  A leaf has the piece that
it spans.  Other nodes have the signs that are written for them: where a sign stands follows from
the spans of the node and its parts, and from the gaps of the text.
-/

namespace SearchQuery

namespace Text

/-- Offset after the gap at an offset. -/
def gapEnd (source : List Char) (offset : Int) : Int :=
  offset + ((source.drop offset.toNat).takeWhile isGap).length

end Text

/-- A piece of a text. -/
structure Piece where
  /-- The part of the text that the piece spans. -/
  span : Span
  /-- The characters of the piece. -/
  chars : List Char
  deriving DecidableEq, Repr

namespace Piece

/-- The piece of some characters at an offset. -/
def ofChars (start : Int) (chars : List Char) : Piece := ⟨⟨start, start + chars.length⟩, chars⟩

/-- The piece that a span covers. -/
def ofSpan (source : List Char) (span : Span) : Piece := ⟨span, span.slice source⟩

/-- Whether the piece covers the character at an offset. -/
def covers (piece : Piece) (offset : Int) : Bool :=
  piece.span.start ≤ offset && offset < piece.span.stop

theorem covers_iff (piece : Piece) (offset : Int) :
    piece.covers offset = true ↔ piece.span.start ≤ offset ∧ offset < piece.span.stop := by
  simp [covers]

/-- The characters of the piece are those of a text where the piece stands. -/
def StandsIn (piece : Piece) (source : List Char) : Prop := piece.span.slice source = piece.chars

instance (piece : Piece) (source : List Char) : Decidable (piece.StandsIn source) :=
  inferInstanceAs (Decidable (_ = _))

end Piece

namespace Node

/-- Whether the node is a word of its text. -/
def isLeaf : Node → Bool
  | .literal .. | .number .. | .date .. | .variable .. | .mark .. => true
  | _ => false

/-- The star that is written at an offset for an absent boundary, if there is one. -/
def starAt? (source : List Char) (boundary : Option Node) (offset : Int) : Option Piece :=
  if boundary.isNone ∧ Text.slice source offset (offset + 1) = ['*'] then
    some (.ofChars offset ['*'])
  else none

/-- Offset after the lower boundary of a range that begins at an offset, or after its star. -/
def lowerStop (source : List Char) (start : Int) : Option Node → Int
  | some lower => lower.stop
  | none => ((starAt? source none start).map (·.span.stop)).getD start

/-- The signs that are written for a node itself: the sign of a definition, the hyphen of a negated
qualifier, the colon behind a qualifier or keyword, the range operator and the stars of absent
boundaries, and the operator of a comparison. -/
def signs (source : List Char) : Node → List Piece
  | .definition _ name _ _ => [.ofChars (Text.gapEnd source name.stop) ['=']]
  | .qualified span negated qualifier _ =>
      (if negated then [.ofChars span.start ['-']] else []) ++
        [.ofChars (Text.gapEnd source qualifier.stop) [':']]
  | .sort _ keyword _ => [.ofChars (Text.gapEnd source keyword.stop) [':']]
  | .compare span operator _ => [.ofChars span.start operator.toList]
  | .range span lower upper =>
      (starAt? source lower span.start).toList ++
        [.ofChars (Text.gapEnd source (lowerStop source span.start lower)) ['.', '.']] ++
        (starAt? source upper (span.stop - 1)).toList
  | _ => []

/-- The pieces of a text that belong to a node itself. -/
def ownPieces (source : List Char) (node : Node) : List Piece :=
  if node.isLeaf then [.ofSpan source node.span] else node.signs source

/-- The pieces of a text that belong to the nodes of a tree. -/
def pieces (source : List Char) (root : Node) : List Piece :=
  root.preorder.flatMap (ownPieces source)

/-- The leaves of a tree. -/
def leaves (root : Node) : List Node := root.preorder.filter isLeaf

theorem starAt?_some (source : List Char) (node : Node) (offset : Int) :
    starAt? source (some node) offset = none := rfl

theorem starAt?_none {source : List Char} {offset : Int} {c : Char}
    (slice_eq : Text.slice source offset (offset + 1) = [c]) :
    starAt? source none offset = if c = '*' then some (.ofChars offset ['*']) else none := by
  simp [starAt?, slice_eq]

/-- The pieces of a tree are those of its root and those of its parts. -/
theorem pieces_eq (source : List Char) (node : Node) :
    node.pieces source = node.ownPieces source ++ node.partNodes.flatMap (pieces source) := by
  rw [pieces, preorder_eq, List.flatMap_cons, List.flatMap_assoc]
  rfl

theorem pieces_shift_eq (source : List Char) (distance : Int) (node : Node) :
    (node.shift distance).pieces source = (node.shift distance).ownPieces source ++
      node.partNodes.flatMap fun part => (part.shift distance).pieces source := by
  rw [pieces_eq, partNodes_shift, List.flatMap_map]

/-- A query has the pieces of its items. -/
theorem pieces_shift_query (source : List Char) (distance : Int) (span : Span)
    (items : List Node) :
    ((Node.query span items).shift distance).pieces source =
      items.flatMap fun item => (item.shift distance).pieces source := by
  rw [pieces_shift_eq, partNodes_query]
  simp [shift, ownPieces, isLeaf, signs]

/-- The only piece of a leaf is the one it spans. -/
theorem pieces_of_isLeaf (source : List Char) {node : Node} (leaf : node.isLeaf = true) :
    node.pieces source = [.ofSpan source node.span] := by
  have parts_eq : node.partNodes = [] := by
    cases node <;> simp_all [isLeaf, partNodes, parts]
  rw [pieces_eq, parts_eq, ownPieces, if_pos leaf]
  rfl

theorem isLeaf_shift (distance : Int) (node : Node) :
    (node.shift distance).isLeaf = node.isLeaf := by
  cases node <;> simp [shift, isLeaf]

/-! ## The order of the leaves -/

theorem leaves_eq (node : Node) :
    node.leaves = if node.isLeaf then [node] else node.partNodes.flatMap leaves := by
  rw [leaves, preorder_eq, List.filter_cons, List.filter_flatMap]
  split
  case isTrue leaf =>
    have parts_eq : node.partNodes = [] := by
      cases node <;> simp_all [isLeaf, partNodes, parts]
    simp [parts_eq]
  case isFalse => rfl

/-- The nodes of a placed tree lie inside of its root. -/
theorem inside_of_mem_preorder {source : List Char} {root : Node}
    (placed : ∀ node ∈ root.preorder, node.Placed source) {node : Node}
    (member : node ∈ root.preorder) : root.start ≤ node.start ∧ node.stop ≤ root.stop := by
  induction root using forall_of_partNodes with
  | step root induction =>
      rcases mem_preorder_iff.mp member with rfl | ⟨part, part_mem, member⟩
      · exact ⟨Int.le_refl _, Int.le_refl _⟩
      · have within := (placed root (self_mem_preorder root)).inside part part_mem
        have deeper := induction part part_mem
          (fun inner inner_mem => placed inner (mem_preorder_of_mem_partNodes part_mem inner_mem))
          member
        omega

/-- The parts of a placed node stand one after the other. -/
theorem Placed.pairwise_partNodes {source : List Char} {node : Node} (placed : node.Placed source)
    (parts : ∀ part ∈ node.partNodes, part.Placed source) :
    node.partNodes.Pairwise fun left right => left.stop ≤ right.start := by
  have ordered : node.partNodes.IsChain fun left right =>
      left.stop ≤ right.start ∧ right.start ≤ right.stop := by
    refine placed.ordered.imp_of_mem_imp ?_
    intro left right _ right_mem before
    exact ⟨before, (parts right right_mem).start_le_stop⟩
  have : IsTrans Node fun left right => left.stop ≤ right.start ∧ right.start ≤ right.stop :=
    ⟨fun _ _ _ first second => ⟨by omega, second.2⟩⟩
  exact (List.isChain_iff_pairwise.mp ordered).imp And.left

/-- The leaves of a placed tree stand one after the other. -/
theorem pairwise_leaves {source : List Char} {root : Node}
    (placed : ∀ node ∈ root.preorder, node.Placed source) :
    root.leaves.Pairwise fun left right => left.stop ≤ right.start := by
  induction root using forall_of_partNodes with
  | step root induction =>
      have placed_part {part : Node} (part_mem : part ∈ root.partNodes) :
          ∀ node ∈ part.preorder, node.Placed source := fun node member =>
        placed node (mem_preorder_of_mem_partNodes part_mem member)
      rw [leaves_eq]
      split
      · exact List.pairwise_singleton _ _
      · rw [List.pairwise_flatMap]
        refine ⟨fun part part_mem => induction part part_mem (placed_part part_mem), ?_⟩
        have ordered := (placed root (self_mem_preorder root)).pairwise_partNodes
          fun part part_mem => placed_part part_mem part (self_mem_preorder part)
        refine ordered.imp_of_mem ?_
        intro left right left_mem right_mem before first first_mem second second_mem
        have first_inside := inside_of_mem_preorder (placed_part left_mem)
          (List.mem_of_mem_filter first_mem)
        have second_inside := inside_of_mem_preorder (placed_part right_mem)
          (List.mem_of_mem_filter second_mem)
        omega

end Node

end SearchQuery
