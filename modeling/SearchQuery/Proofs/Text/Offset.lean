import Mathlib.Data.List.Basic
import Mathlib.Data.List.Induction
import SearchQuery.Proofs.Text.Position
import Std.Data.String.ToNat

/-!
# Offsets of positions

Positions are in the order of the offsets in a text, and an offset can be read off its position: it
is as far behind the beginning of its line as the column says.  So no two offsets in a text have the
same position, nor is the same written of them.
-/

namespace SearchQuery.Text

/-- Where the lines of a text begin: at its beginning and behind each of its line feeds. -/
def lineStarts (text : List Char) : List Nat := 0 :: (text.idxsOf '\n').map (· + 1)

theorem lineStarts_append (front back : List Char) :
    lineStarts (front ++ back) =
      lineStarts front ++ (back.idxsOf '\n' front.length).map (· + 1) := by
  simp [lineStarts, List.idxsOf_append]

/-- A text ends in the last of its lines. -/
theorem length_lineStarts (text : List Char) :
    (lineStarts text).length = (endPosition text).line := by
  simp [lineStarts, endPosition]

/-- The column of a text's end tells how far the beginning of the last line is in front of it. -/
theorem exists_lineStart_endPosition (text : List Char) :
    ∃ start, (lineStarts text)[(endPosition text).line - 1]? = some start ∧
      start + (endPosition text).column = text.length + 1 := by
  induction text using List.reverseRecOn with
  | nil => exact ⟨0, rfl, rfl⟩
  | append_singleton text c induction =>
      by_cases feed : c = '\n'
      · subst feed
        refine ⟨text.length + 1, ?_, ?_⟩
        · rw [endPosition_append_lineFeed, lineStarts_append, Nat.add_sub_cancel,
            ← length_lineStarts, List.getElem?_append_right (Nat.le_refl _)]
          simp
        · rw [endPosition_append_lineFeed, List.length_append, List.length_singleton]
      · obtain ⟨start, start_eq, column_eq⟩ := induction
        have unfed : '\n' ∉ [c] := by simpa using Ne.symm feed
        have starts_eq : lineStarts (text ++ [c]) = lineStarts text := by
          rw [lineStarts_append]
          simp [feed]
        refine ⟨start, ?_, ?_⟩
        · rw [endPosition_append _ unfed, starts_eq, start_eq]
        · rw [endPosition_append _ unfed, List.length_append, ← Nat.add_assoc, column_eq]
          omega

/-- An offset is as far behind the beginning of its line as its column says. -/
theorem exists_lineStart_positionOf (text : List Char) {offset : Nat}
    (bound : offset ≤ text.length) :
    ∃ start, (lineStarts text)[(positionOf text offset).line - 1]? = some start ∧
      start + (positionOf text offset).column = offset + 1 := by
  obtain ⟨start, start_eq, column_eq⟩ := exists_lineStart_endPosition (text.take offset)
  rw [List.length_take_of_le bound] at column_eq
  have inside : (endPosition (text.take offset)).line - 1 <
      (lineStarts (text.take offset)).length := by
    rw [length_lineStarts]
    exact Nat.sub_one_lt (Nat.succ_ne_zero _)
  refine ⟨start, ?_, column_eq⟩
  rw [positionOf, Int.toNat_natCast, ← start_eq]
  conv_lhs => rw [← List.take_append_drop offset text]
  rw [lineStarts_append, List.take_append_drop, List.getElem?_append_left inside]

/-! ## What is written of positions -/

theorem Position.ne_of_lt {left right : Position} (before : left < right) : left ≠ right := by
  rintro rfl
  rcases before with lower | ⟨_, lower⟩ <;> exact Nat.lt_irrefl _ lower

theorem colon_not_mem_toString (number : Nat) : ':' ∉ (toString number).toList := by
  intro member
  rw [Nat.toString_eq_repr, Nat.toList_repr] at member
  exact absurd (Nat.isDigit_of_mem_toDigits (by decide) (by decide) member) (by decide)

/-- Positions are told apart by what is written of them. -/
theorem Position.render_injective : Function.Injective Position.render := by
  intro left right same
  have texts_eq : (toString left.line).toList ++ ':' :: (toString left.column).toList =
      (toString right.line).toList ++ ':' :: (toString right.column).toList := by
    simpa [Position.render] using congrArg String.toList same
  obtain ⟨line_eq, -, column_eq⟩ :=
    (List.append_cons_inj_of_notMem (colon_not_mem_toString _) (colon_not_mem_toString _)).mp
      texts_eq
  rw [String.toList_inj] at line_eq column_eq
  cases left
  cases right
  rw [Position.mk.injEq]
  exact ⟨Nat.repr_injective line_eq, Nat.repr_injective column_eq⟩

/-! ## Order -/

/-- Within a text, a further offset has a further position. -/
theorem positionOf_lt (text : List Char) {left right : Int} (within : 0 ≤ left)
    (ordered : left < right) (bound : right ≤ text.length) :
    positionOf text left < positionOf text right := by
  obtain ⟨body, body_eq⟩ : text.take left.toNat <+: text.take right.toNat :=
    List.take_prefix_take_left (Int.toNat_le_toNat (Int.le_of_lt ordered))
  have length_eq := congrArg List.length body_eq
  rw [List.length_append, List.length_take_of_le (by omega), List.length_take_of_le (by omega)]
    at length_eq
  rw [positionOf, positionOf, ← body_eq]
  refine endPosition_lt _ (List.ne_nil_of_length_pos ?_)
  omega

/-- Within a text, positions are in the order of their offsets, and what is written of them differs;
the line of an offset is one more than the line feeds in front of it, and the offset is as far
behind the beginning of that line as its column says.  An offset outside the text has the position
of the nearest end. -/
theorem positionOf_ordered_and_inverted (text : List Char) :
    (∀ left right : Int, 0 ≤ left → left < right → right ≤ text.length →
      positionOf text left < positionOf text right ∧
        (positionOf text left).render ≠ (positionOf text right).render) ∧
    (∀ offset : Int, 0 ≤ offset → offset ≤ text.length →
      ((positionOf text offset).line : Int) - 1 = (text.take offset.toNat).count '\n' ∧
        ∃ start, (lineStarts text)[(positionOf text offset).line - 1]? = some start ∧
          offset = (positionOf text offset).column - 1 + start) ∧
    (∀ offset : Int, offset < 0 → positionOf text offset = positionOf text 0) ∧
      ∀ offset : Int, text.length < offset →
        positionOf text offset = positionOf text text.length := by
  refine ⟨fun left right within ordered bound => ?_, fun offset within bound => ?_,
    fun offset negative => ?_, fun offset beyond => ?_⟩
  · have before := positionOf_lt text within ordered bound
    exact ⟨before, fun same => Position.ne_of_lt before (Position.render_injective same)⟩
  · lift offset to Nat using within
    obtain ⟨start, start_eq, column_eq⟩ :=
      exists_lineStart_positionOf text (Int.ofNat_le.mp bound)
    refine ⟨?_, start, start_eq, by omega⟩
    simp [positionOf, endPosition]
  · rw [positionOf, positionOf, Int.toNat_of_nonpos (Int.le_of_lt negative), Int.toNat_zero]
  · rw [positionOf, positionOf, Int.toNat_natCast, List.take_length,
      List.take_of_length_le (by omega)]

theorem positionOf_ordered_and_inverted_at_feed :
    let text := ['a', 'b', '\n', '\n', 'c']
    (positionOf text 2 < positionOf text 3 ∧
      (positionOf text 2).render ≠ (positionOf text 3).render) ∧
    (((positionOf text 3).line : Int) - 1 = 1 ∧
      ∃ start, (lineStarts text)[(positionOf text 3).line - 1]? = some start ∧
        (3 : Int) = (positionOf text 3).column - 1 + start) ∧
    positionOf text (-4) = positionOf text 0 ∧ positionOf text 99 = positionOf text 5 := by
  intro text
  obtain ⟨ordered, inverted, below, beyond⟩ := positionOf_ordered_and_inverted text
  exact ⟨ordered 2 3 (by decide) (by decide) (by decide), inverted 3 (by decide) (by decide),
    below (-4) (by decide), beyond 99 (by decide)⟩

end SearchQuery.Text
