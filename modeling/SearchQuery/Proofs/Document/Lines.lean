import SearchQuery.Document
import SearchQuery.Proofs.Text.Lines

/-!
# The lines of a document

Each line of a document stands in its text at its offset, and its content has the form of a
content.  A line that has a node holds more than blanks.
-/

namespace SearchQuery

namespace SourceLine

open Text (IsContent isTrimmed isBlank)

/-- A line stands behind the lines before it, as many as its number says. -/
theorem exists_of_getElem?_ofLines {offset number : Nat} {lines : List (List Char)}
    {line : SourceLine} (stands : (ofLines offset lines)[number]? = some line) :
    ∃ before raw after, lines = before ++ raw :: after ∧ before.length = number ∧
      line = ⟨offset + before.flatten.length, Text.lineContent raw⟩ := by
  induction lines generalizing offset number with
  | nil => simp [ofLines] at stands
  | cons raw lines induction =>
      rw [ofLines] at stands
      cases number with
      | zero => exact ⟨[], raw, lines, rfl, rfl, by simpa [eq_comm] using stands⟩
      | succ number =>
          obtain ⟨before, other, after, rfl, length_eq, line_eq⟩ := induction stands
          refine ⟨raw :: before, other, after, rfl, congrArg Nat.succ length_eq, ?_⟩
          rw [line_eq]
          simp [Nat.add_assoc]

theorem exists_of_mem_ofLines {offset : Nat} {lines : List (List Char)} {line : SourceLine}
    (member : line ∈ ofLines offset lines) :
    ∃ before raw after, lines = before ++ raw :: after ∧
      line = ⟨offset + before.flatten.length, Text.lineContent raw⟩ := by
  obtain ⟨number, stands⟩ := List.mem_iff_getElem?.mp member
  obtain ⟨before, raw, after, lines_eq, _, line_eq⟩ := exists_of_getElem?_ofLines stands
  exact ⟨before, raw, after, lines_eq, line_eq⟩

/-- Where a line stands in its text. -/
structure StandsIn (line : SourceLine) (text : List Char) : Prop where
  /-- The content is found at the offset. -/
  split : ∃ front back, text = front ++ line.content ++ back ∧ line.offset = front.length
  /-- The content has the form of a content. -/
  isContent : IsContent line.content

theorem standsIn_of_mem_ofText {text : List Char} {line : SourceLine}
    (member : line ∈ ofText text) : line.StandsIn text := by
  obtain ⟨before, raw, after, lines_eq, rfl⟩ := exists_of_mem_ofLines member
  have raw_mem : raw ∈ Text.splitLines text := by simp [lines_eq]
  obtain ⟨isContent, ending, _, raw_eq⟩ := Text.content_of_mem_splitLines raw_mem
  refine ⟨⟨before.flatten, ending ++ after.flatten, ?_, by simp⟩, isContent⟩
  have whole := Text.flatten_splitLines text
  rw [lines_eq, List.flatten_append, List.flatten_cons, raw_eq] at whole
  simpa [List.append_assoc] using whole.symm

/-- No line begins before the end of one in front of it. -/
theorem pairwise_ofLines (offset : Nat) (lines : List (List Char)) :
    (∀ line ∈ ofLines offset lines, offset ≤ line.offset) ∧
      (ofLines offset lines).Pairwise fun left right =>
        left.offset + left.content.length ≤ right.offset := by
  induction lines generalizing offset with
  | nil => simp [ofLines]
  | cons raw lines induction =>
      obtain ⟨behind, ordered⟩ := induction (offset + raw.length)
      have shorter := Text.length_lineContent_le raw
      rw [ofLines, List.forall_mem_cons, List.pairwise_cons]
      refine ⟨⟨Nat.le_refl _, fun line member => ?_⟩, fun line member => ?_, ordered⟩
      · have := behind line member
        omega
      · have := behind line member
        change offset + (Text.lineContent raw).length ≤ line.offset
        omega

/-- A line that has a node holds more than blanks. -/
theorem exists_visible {line : SourceLine} (significant : line.isSignificant = true) :
    ∃ c ∈ line.content, isBlank c = false := by
  simp only [isSignificant, isEmpty, Bool.and_eq_true, Bool.not_eq_true', List.all_eq_false,
    Bool.not_eq_true] at significant
  exact significant.1

end SourceLine

namespace Document

theorem standsIn_of_mem_significantLines {text : String} {line : SourceLine}
    (member : line ∈ significantLines text) : line.StandsIn text.toList :=
  SourceLine.standsIn_of_mem_ofText (List.mem_filter.mp member).1

/-- No line begins before the end of one in front of it. -/
theorem pairwise_significantLines (text : String) :
    (significantLines text).Pairwise fun left right =>
      left.offset + left.content.length ≤ right.offset :=
  (SourceLine.pairwise_ofLines 0 _).2.filter _

theorem exists_visible_of_mem_significantLines {text : String} {line : SourceLine}
    (member : line ∈ significantLines text) : ∃ c ∈ line.content, Text.isBlank c = false :=
  SourceLine.exists_visible (List.mem_filter.mp member).2

end Document

end SearchQuery
