import SearchQuery.Line.Reader

/-!
# Places in a line

A cursor stands at a place of a line if its rest is what follows that place.  It stays so when it is
moved over a gap or over the characters of a token.
-/

namespace SearchQuery.Line

namespace Cursor

open Text (isGap)

/-- The cursor stands at a place of the content. -/
structure On (cursor : Cursor) (content : List Char) : Prop where
  /-- The place is not behind the end. -/
  offset_le : cursor.offset ≤ content.length
  /-- The rest is what stands after the place. -/
  rest_eq : cursor.rest = content.drop cursor.offset

theorem on_start (content : List Char) : On ⟨0, content⟩ content :=
  ⟨Nat.zero_le _, rfl⟩

/-- A place moved over the beginning of its rest. -/
theorem On.move {cursor : Cursor} {content text after : List Char}
    (on : cursor.On content) (split : cursor.rest = text ++ after) :
    On ⟨cursor.offset + text.length, after⟩ content := by
  have lengths := congrArg List.length on.rest_eq
  rw [split, List.length_append, List.length_drop] at lengths
  have := on.offset_le
  constructor
  · change cursor.offset + text.length ≤ content.length
    omega
  · change after = content.drop (cursor.offset + text.length)
    rw [← List.drop_drop, ← on.rest_eq, split, List.drop_left]

/-- The characters of the gap in front of the next token. -/
def gap (cursor : Cursor) : List Char := cursor.rest.takeWhile isGap

theorem gap_append (cursor : Cursor) : cursor.rest = cursor.gap ++ cursor.skipGap.rest :=
  List.takeWhile_append_dropWhile.symm

theorem isGap_of_mem_gap {cursor : Cursor} {c : Char} (member : c ∈ cursor.gap) :
    isGap c = true :=
  List.all_eq_true.mp List.all_takeWhile c member

theorem On.skipGap {cursor : Cursor} {content : List Char} (on : cursor.On content) :
    cursor.skipGap.On content :=
  on.move cursor.gap_append

theorem On.take_append {cursor : Cursor} {content text after : List Char}
    (on : cursor.On content) (split : cursor.rest = text ++ after) :
    content.take (cursor.offset + text.length) = content.take cursor.offset ++ text := by
  rw [List.take_add, ← on.rest_eq, split, List.take_left]

theorem On.getElem?_add {cursor : Cursor} {content : List Char} (on : cursor.On content)
    (index : Nat) : content[cursor.offset + index]? = cursor.rest[index]? := by
  rw [on.rest_eq, List.getElem?_drop]

/-- At its end a place stands behind all characters. -/
theorem On.offset_eq_length {cursor : Cursor} {content : List Char}
    (on : cursor.On content) (atEnd : cursor.rest = []) : cursor.offset = content.length := by
  have := on.offset_le
  have behind := List.drop_eq_nil_iff.mp (on.rest_eq ▸ atEnd)
  omega

/-- The character after a gap is none of the gap. -/
theorem isGap_eq_false_of_skipGap {cursor : Cursor} {c : Char} {rest : List Char}
    (rest_eq : cursor.skipGap.rest = c :: rest) : isGap c = false := by
  have head := List.head?_dropWhile_not isGap cursor.rest
  rw [show cursor.rest.dropWhile isGap = c :: rest from rest_eq] at head
  simpa using head

theorem skipGap_of_not_isGap {cursor : Cursor}
    (noGap : ∀ c ∈ cursor.rest.head?, isGap c = false) : cursor.skipGap = cursor := by
  obtain ⟨offset, rest⟩ := cursor
  cases rest with
  | nil => rfl
  | cons c rest =>
      have := noGap c rfl
      simp [Cursor.skipGap, this]

/-- A text begins with a gap, which may be empty. -/
theorem exists_gap_append (text : List Char) :
    ∃ gap more, text = gap ++ more ∧ (∀ c ∈ gap, isGap c = true) ∧
      ∀ c ∈ more.head?, isGap c = false := by
  refine ⟨text.takeWhile isGap, text.dropWhile isGap, List.takeWhile_append_dropWhile.symm,
    fun c member => List.all_eq_true.mp List.all_takeWhile c member, fun c member => ?_⟩
  have head := List.head?_dropWhile_not isGap text
  simpa [Option.mem_def.mp member] using head

/-- A gap in front of a place is skipped with the gap behind it. -/
theorem skipGap_append {gap : List Char} (gaps : ∀ c ∈ gap, isGap c = true) (offset : Nat)
    (rest : List Char) :
    (Cursor.mk offset (gap ++ rest)).skipGap = (Cursor.mk (offset + gap.length) rest).skipGap := by
  simp only [Cursor.skipGap, List.takeWhile_append_of_pos gaps, List.dropWhile_append_of_pos gaps,
    List.length_append, Nat.add_assoc]

end Cursor

end SearchQuery.Line
