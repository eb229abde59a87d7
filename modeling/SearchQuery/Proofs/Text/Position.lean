import SearchQuery.Proofs.Text.Lines
import SearchQuery.Text.Position

/-!
# Positions behind lines

A position counts the line feeds in front of it, and the characters behind the last of them.  A line
holds a line feed at its end or nowhere, so that of some lines those count that end with one.
-/

namespace SearchQuery.Text

/-- The line ends with a line feed. -/
def EndsWithFeed (line : List Char) : Prop := line.getLast? = some '\n'

instance (line : List Char) : Decidable (EndsWithFeed line) := inferInstanceAs (Decidable (_ = _))

/-- A line holds no line feed but the one that ends it. -/
theorem count_lineFeed_of_mem_splitLines {text line : List Char} (member : line ∈ splitLines text) :
    line.count '\n' = if EndsWithFeed line then 1 else 0 := by
  obtain ⟨_, body, ending, rfl, inside, isEnding⟩ := exists_of_mem_splitLines member
  have unfed : '\n' ∉ body := fun feed_mem => absurd (inside _ feed_mem) (by decide)
  rw [List.count_append, List.count_eq_zero.mpr unfed, Nat.zero_add]
  cases isEnding with
  | none =>
      have open_ended : ¬ EndsWithFeed body := fun ends => unfed (List.mem_of_getLast? ends)
      simp [open_ended]
  | pair => simp [EndsWithFeed]
  | @single c _ =>
      by_cases feed : c = '\n'
      · simp [EndsWithFeed, feed]
      · simp [EndsWithFeed, feed]

/-- In some lines of a text stand as many line feeds as lines that end with one. -/
theorem count_lineFeed_flatten {text : List Char} {lines : List (List Char)}
    (members : ∀ line ∈ lines, line ∈ splitLines text) :
    lines.flatten.count '\n' = lines.countP (EndsWithFeed ·) := by
  induction lines with
  | nil => rfl
  | cons line lines induction =>
      rw [List.forall_mem_cons] at members
      rw [List.flatten_cons, List.count_append, count_lineFeed_of_mem_splitLines members.1,
        induction members.2, List.countP_cons, Nat.add_comm]
      simp

/-- Characters other than line feeds only move a position to the right. -/
theorem endPosition_append (front : List Char) {body : List Char} (unfed : '\n' ∉ body) :
    endPosition (front ++ body) =
      { line := (endPosition front).line
        column := (endPosition front).column + body.length } := by
  have run : ∀ c ∈ body.reverse, decide (c ≠ '\n') = true := by
    intro c member
    rw [decide_eq_true_iff]
    rintro rfl
    exact unfed (List.mem_reverse.mp member)
  simp only [endPosition, List.count_append, List.count_eq_zero.mpr unfed, Nat.add_zero,
    List.reverse_append, List.takeWhile_append_of_pos run, List.length_append, List.length_reverse,
    Position.mk.injEq, true_and]
  omega

/-- A line feed begins the next line. -/
theorem endPosition_append_lineFeed (front : List Char) :
    endPosition (front ++ ['\n']) = ⟨(endPosition front).line + 1, 1⟩ := by
  simp [endPosition]

/-- A position stands at the beginning of its line exactly behind a line feed or nothing. -/
theorem column_endPosition_eq_one_iff (front : List Char) :
    (endPosition front).column = 1 ↔ ∀ c ∈ front.getLast?, c = '\n' := by
  rw [endPosition, ← List.head?_reverse]
  cases front.reverse with
  | nil => simp
  | cons c rest => by_cases feed : c = '\n' <;> simp [feed]

/-! ## The order of positions -/

/-- A position stands in front of another in an earlier line, or further to the left. -/
instance : LT Position where
  lt left right := left.line < right.line ∨ left.line = right.line ∧ left.column < right.column

instance : LE Position where
  le left right := left < right ∨ left = right

/-- A text ends behind any beginning of it. -/
theorem endPosition_lt (front : List Char) {body : List Char} (nonempty : body ≠ []) :
    endPosition front < endPosition (front ++ body) := by
  by_cases feed_mem : '\n' ∈ body
  · left
    have fed := List.count_pos_iff.mpr feed_mem
    simp only [endPosition, List.count_append]
    omega
  · right
    have length_pos := List.length_pos_iff.mpr nonempty
    rw [endPosition_append front feed_mem]
    exact ⟨rfl, Nat.lt_add_of_pos_right length_pos⟩

/-- Positions are in the order of their offsets. -/
theorem positionOf_le (text : List Char) {left right : Int} (ordered : left ≤ right) :
    positionOf text left ≤ positionOf text right := by
  obtain ⟨body, body_eq⟩ : text.take left.toNat <+: text.take right.toNat :=
    List.take_prefix_take_left (Int.toNat_le_toNat ordered)
  rw [positionOf, positionOf, ← body_eq]
  cases body with
  | nil =>
      right
      rw [List.append_nil]
  | cons c rest =>
      left
      exact endPosition_lt _ (List.cons_ne_nil c rest)

end SearchQuery.Text
