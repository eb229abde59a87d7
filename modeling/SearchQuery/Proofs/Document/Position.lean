import SearchQuery.Proofs.Document.Placement
import SearchQuery.Proofs.Text.Position

/-!
# Positions of nodes

Two notions of a line meet where a node is reported: a document is read by lines that may end with
any line break, and a position counts line feeds.  Where the lines before a node all end with line
feeds, alone or behind carriage returns, the node is reported in the line it is read from; another
line break goes uncounted.
-/

namespace SearchQuery

namespace SourceLine

/-- The lines in front of a line of a text, with the breaks that end them. -/
def preceding (text : String) (number : Nat) : List (List Char) :=
  (Text.splitLines text.toList).take number

/-- The line of a number stands behind the lines before it. -/
theorem exists_preceding {text : String} {number : Nat} {line : SourceLine}
    (stands : (ofText text.toList)[number]? = some line) :
    (preceding text number).length = number ∧ line.offset = (preceding text number).flatten.length ∧
      ∃ back, text.toList = (preceding text number).flatten ++ line.content ++ back := by
  obtain ⟨before, raw, after, lines_eq, length_eq, rfl⟩ := exists_of_getElem?_ofLines stands
  have preceding_eq : preceding text number = before := by
    rw [preceding, lines_eq, ← length_eq, List.take_left]
  have raw_mem : raw ∈ Text.splitLines text.toList := by simp [lines_eq]
  obtain ⟨_, ending, _, raw_eq⟩ := Text.content_of_mem_splitLines raw_mem
  refine ⟨by rw [preceding_eq, length_eq], by simp [preceding_eq], ending ++ after.flatten, ?_⟩
  have whole := Text.flatten_splitLines text.toList
  rw [lines_eq, List.flatten_append, List.flatten_cons, raw_eq] at whole
  simpa [preceding_eq, List.append_assoc] using whole.symm

/-- The nodes of a line begin between the ends of its content. -/
theorem NodePlaced.start_mem {line : SourceLine} {root : Node} (nodePlaced : line.NodePlaced root)
    {node : Node} (member : node ∈ line.node.preorder) :
    line.offset ≤ node.start ∧ node.start ≤ line.offset + line.content.length := by
  rw [nodePlaced.node_eq, Node.preorder_shift] at member
  obtain ⟨inner, inner_mem, rfl⟩ := List.mem_map.mp member
  have placed := nodePlaced.placed inner inner_mem
  have := placed.start_nonneg
  have := placed.start_le_stop
  have := placed.stop_le
  rw [placed.start_shift]
  omega

/-- The position of a node is counted from the last line feed in front of its line. -/
theorem positionOf_start_eq {text : List Char} {line : SourceLine} (standsIn : line.StandsIn text)
    (significant : line.isSignificant = true) {node : Node} (member : node ∈ line.node.preorder) :
    let base := Text.endPosition (text.take line.offset)
    Text.positionOf text node.start =
      ⟨base.line, base.column + (node.start - line.offset).toNat⟩ := by
  obtain ⟨root, nodePlaced⟩ := exists_nodePlaced (exists_visible significant)
  obtain ⟨not_before, not_behind⟩ := nodePlaced.start_mem member
  obtain ⟨front, back, text_eq, offset_eq⟩ := standsIn.split
  obtain ⟨inside, inside_eq⟩ := Int.eq_ofNat_of_zero_le (show 0 ≤ node.start - line.offset by omega)
  have start_eq : node.start.toNat = front.length + inside := by omega
  have unfed : '\n' ∉ line.content.take inside := fun feed_mem =>
    standsIn.isContent.not_mem.2 (List.mem_of_mem_take feed_mem)
  have front_eq : text.take line.offset = front := by
    rw [text_eq, offset_eq, List.append_assoc, List.take_left]
  rw [front_eq, Text.positionOf, start_eq, text_eq, List.append_assoc, List.take_length_add_append,
    List.take_append_of_le_length (by omega), Text.endPosition_append _ unfed, inside_eq,
    Int.toNat_natCast, List.length_take, Nat.min_eq_left (by omega)]

theorem positionOf_start {text : String} {number : Nat} {line : SourceLine}
    (stands : (ofText text.toList)[number]? = some line) (significant : line.isSignificant = true)
    {node : Node} (member : node ∈ line.node.preorder) :
    let base := Text.endPosition (preceding text number).flatten
    (Text.positionOf text.toList node.start).line = base.line ∧
      ((Text.positionOf text.toList node.start).column : Int) =
        base.column + (node.start - line.offset) := by
  obtain ⟨root, nodePlaced⟩ := exists_nodePlaced (exists_visible significant)
  have not_before := (nodePlaced.start_mem member).1
  obtain ⟨_, offset_eq, back, text_eq⟩ := exists_preceding stands
  have front_eq : text.toList.take line.offset = (preceding text number).flatten := by
    rw [text_eq, offset_eq, List.append_assoc, List.take_left]
  rw [positionOf_start_eq (standsIn_of_mem_ofText (List.mem_of_getElem? stands)) significant member,
    front_eq]
  refine ⟨rfl, ?_⟩
  dsimp only
  omega

/-- The lines in front of a line are lines of the text. -/
theorem mem_splitLines_of_mem_preceding {text : String} {number : Nat} {earlier : List Char}
    (member : earlier ∈ preceding text number) : earlier ∈ Text.splitLines text.toList :=
  List.mem_of_mem_take member

/-- As many lines count for a position as end with line feeds. -/
theorem line_endPosition_preceding (text : String) (number : Nat) :
    (Text.endPosition (preceding text number).flatten).line =
      (preceding text number).countP (Text.EndsWithFeed ·) + 1 := by
  rw [Text.endPosition,
    Text.count_lineFeed_flatten fun _ member => mem_splitLines_of_mem_preceding member]

/-- Behind some lines a position begins a line exactly if the last of them ends with a line
feed. -/
theorem column_endPosition_preceding (text : String) (number : Nat) :
    (Text.endPosition (preceding text number).flatten).column = 1 ↔
      ∀ last ∈ (preceding text number).getLast?, Text.EndsWithFeed last := by
  rw [Text.column_endPosition_eq_one_iff]
  have members : ∀ earlier ∈ preceding text number, earlier ≠ [] := fun earlier member =>
    (Text.exists_of_mem_splitLines (mem_splitLines_of_mem_preceding member)).1
  rcases List.eq_nil_or_concat (preceding text number) with lines_eq | ⟨front, last, lines_eq⟩
  · simp [lines_eq]
  · rw [List.concat_eq_append] at lines_eq
    have nonempty : last ≠ [] := members last (by simp [lines_eq])
    rw [lines_eq, List.flatten_append, List.flatten_singleton,
      List.getLast?_append_of_ne_nil _ nonempty, List.getLast?_concat]
    simp [Text.EndsWithFeed, List.getLast?_eq_some_getLast nonempty]

/-- A node is reported in the line that it is read from exactly if all lines before that end with
line feeds, and in its column exactly if the line just before does. -/
theorem positionOf_start_iff {text : String} {number : Nat} {line : SourceLine}
    (stands : (ofText text.toList)[number]? = some line) (significant : line.isSignificant = true)
    {node : Node} (member : node ∈ line.node.preorder) :
    ((Text.positionOf text.toList node.start).line = number + 1 ↔
        ∀ earlier ∈ preceding text number, Text.EndsWithFeed earlier) ∧
      (((Text.positionOf text.toList node.start).column : Int) = node.start - line.offset + 1 ↔
        ∀ last ∈ (preceding text number).getLast?, Text.EndsWithFeed last) := by
  obtain ⟨line_eq, column_eq⟩ := positionOf_start stands significant member
  obtain ⟨length_eq, _⟩ := exists_preceding stands
  constructor
  · have all_iff := List.countP_eq_length (p := (Text.EndsWithFeed ·)) (l := preceding text number)
    rw [line_eq, line_endPosition_preceding, Nat.add_right_cancel_iff]
    simpa [length_eq] using all_iff
  · rw [column_eq, ← column_endPosition_preceding]
    omega

/-- The qualifier of a negated value in the third line of a text, behind a carriage return with its
line feed and a line feed. -/
theorem positionOf_start_behind_feeds :
    let text := "a\r\n\n -b:c"
    let line : SourceLine := ⟨4, " -b:c".toList⟩
    line ∈ ofText text.toList ∧ ∃ node ∈ line.node.preorder, node.start = 6 ∧
      (Text.positionOf text.toList node.start).line = 3 ∧
      ((Text.positionOf text.toList node.start).column : Int) = 3 := by
  intro text line
  have stands : (ofText text.toList)[2]? = some line := by decide +kernel
  have start_mem : 6 ∈ line.node.preorder.map (·.start) := by decide +kernel
  obtain ⟨node, member, start_eq⟩ := List.mem_map.mp start_mem
  obtain ⟨line_iff, column_iff⟩ := positionOf_start_iff stands (by decide +kernel) member
  have column_eq := column_iff.mpr (by decide +kernel)
  rw [start_eq] at line_iff column_eq
  refine ⟨List.mem_of_getElem? stands, node, member, start_eq, ?_⟩
  rw [start_eq]
  exact ⟨line_iff.mpr (by decide +kernel), column_eq⟩

/-- Behind a carriage return that stands alone, a node is not reported in the line that it is read
from. -/
theorem positionOf_start_behind_carriageReturn :
    ¬ ∀ (text : String) (number : Nat) (line : SourceLine),
      (ofText text.toList)[number]? = some line → line.isSignificant = true →
      ∀ node ∈ line.node.preorder, (Text.positionOf text.toList node.start).line = number + 1 ∧
        ((Text.positionOf text.toList node.start).column : Int) = node.start - line.offset + 1 := by
  intro agree
  have stands : (ofText "a\rb:c".toList)[1]? = some ⟨2, "b:c".toList⟩ := by decide +kernel
  have reported := agree "a\rb:c" 1 ⟨2, "b:c".toList⟩ stands (by decide +kernel) _
    (Node.self_mem_preorder _)
  have place : Text.positionOf "a\rb:c".toList
      (SourceLine.node ⟨2, "b:c".toList⟩).start = ⟨1, 3⟩ := by decide +kernel
  rw [place] at reported
  exact absurd reported.1 (by decide)

end SourceLine

end SearchQuery
