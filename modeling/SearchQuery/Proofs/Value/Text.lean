import Mathlib.Algebra.Group.Nat.Defs
import SearchQuery.Value.Render

/-!
# Values without a text

A value has a text, standing alone or inside a sequence or mapping, unless an integer with too many
digits stands in it.
-/

namespace SearchQuery

namespace Number

/-- A number has some digits at most exactly if it is less than that power of ten. -/
theorem length_toDigits_le_iff {n count : Nat} (positive : 0 < count) :
    (Nat.toDigits 10 n).length ≤ count ↔ n < 10 ^ count := by
  obtain ⟨count, rfl⟩ := Nat.exists_eq_succ_of_ne_zero (Nat.ne_of_gt positive)
  induction count generalizing n with
  | zero =>
      by_cases small : n < 10
      · simp [Nat.toDigits_of_lt_base small, small]
      · have front : 0 < (Nat.toDigits 10 (n / 10)).length := Nat.length_toDigits_pos
        rw [Nat.toDigits_of_base_le (by decide) (Nat.le_of_not_lt small), List.length_append,
          List.length_singleton]
        omega
  | succ count induction =>
      by_cases small : n < 10
      · have : 10 ≤ 10 ^ (count + 1).succ := Nat.le_self_pow (Nat.succ_ne_zero _) 10
        rw [Nat.toDigits_of_lt_base small, List.length_singleton]
        omega
      · rw [Nat.toDigits_of_base_le (by decide) (Nat.le_of_not_lt small), List.length_append,
          List.length_singleton, Nat.succ_eq_add_one, Nat.add_le_add_iff_right,
          induction (Nat.succ_pos count), Nat.div_lt_iff_lt_mul (by decide), ← Nat.pow_succ]

/-- An integer is not written exactly if it has too many digits. -/
theorem decimal?_eq_none_iff {value : Int} :
    decimal? value = none ↔ 10 ^ maxDigits ≤ value.natAbs := by
  rw [← Nat.not_lt, ← length_toDigits_le_iff (by decide), decimal?]
  split <;> simp [*]

theorem decimal?_eq_some {value : Int} (short : value.natAbs < 10 ^ maxDigits) :
    decimal? value = some (toString value) := by
  rw [← length_toDigits_le_iff (by decide)] at short
  exact if_pos short

end Number

namespace Value

/-- An integer with too many digits stands in a value. -/
inductive HasLongInteger : Value → Prop where
  | itself {value : Int} (long : 10 ^ Number.maxDigits ≤ value.natAbs) :
      HasLongInteger (.int value)
  | item {items : List Value} {item : Value} (member : item ∈ items)
      (long : HasLongInteger item) : HasLongInteger (.list items)
  | key {entries : List (Value × Value)} {key value : Value} (member : (key, value) ∈ entries)
      (long : HasLongInteger key) : HasLongInteger (.map entries)
  | value {entries : List (Value × Value)} {key value : Value} (member : (key, value) ∈ entries)
      (long : HasLongInteger value) : HasLongInteger (.map entries)

mutual

/-- A value cannot be shown exactly if an integer with too many digits stands in it. -/
theorem shown?_eq_none_iff (value : Value) : value.shown? = none ↔ value.HasLongInteger := by
  cases value with
  | int value =>
      rw [shown?, Number.decimal?_eq_none_iff]
      exact ⟨.itself, fun | .itself long => long⟩
  | list items =>
      have absent : shown? (.list items) = none ↔ shownItems? items = none := by
        rw [shown?]
        cases shownItems? items <;> simp
      rw [absent, shownItems?_eq_none_iff]
      constructor
      · rintro ⟨item, member, long⟩
        exact .item member long
      · intro long
        cases long with
        | item member long => exact ⟨_, member, long⟩
  | map entries =>
      have absent : shown? (.map entries) = none ↔ shownEntries? entries = none := by
        rw [shown?]
        cases shownEntries? entries <;> simp
      rw [absent, shownEntries?_eq_none_iff]
      constructor
      · rintro ⟨key, value, member, long | long⟩
        · exact .key member long
        · exact .value member long
      · intro long
        cases long with
        | key member long => exact ⟨_, _, member, .inl long⟩
        | value member long => exact ⟨_, _, member, .inr long⟩
  | _ => exact iff_of_false (by simp [shown?]) nofun

theorem shownItems?_eq_none_iff (items : List Value) :
    shownItems? items = none ↔ ∃ item ∈ items, item.HasLongInteger := by
  cases items with
  | nil => simp [shownItems?]
  | cons item items =>
      have absent : shownItems? (item :: items) = none ↔
          shown? item = none ∨ shownItems? items = none := by
        rw [shownItems?]
        cases shown? item <;> cases shownItems? items <;> simp
      rw [absent, shown?_eq_none_iff item, shownItems?_eq_none_iff items]
      simp

theorem shownEntries?_eq_none_iff (entries : List (Value × Value)) :
    shownEntries? entries = none ↔
      ∃ key value, (key, value) ∈ entries ∧ (key.HasLongInteger ∨ value.HasLongInteger) := by
  cases entries with
  | nil => simp [shownEntries?]
  | cons entry entries =>
      obtain ⟨key, value⟩ := entry
      have absent : shownEntries? ((key, value) :: entries) = none ↔
          (shown? key = none ∨ shown? value = none) ∨ shownEntries? entries = none := by
        rw [shownEntries?]
        cases shown? key <;> cases shown? value <;> cases shownEntries? entries <;> simp
      rw [absent, shown?_eq_none_iff key, shown?_eq_none_iff value,
        shownEntries?_eq_none_iff entries]
      simp [and_assoc, or_and_right, exists_or]

end

instance (value : Value) : Decidable value.HasLongInteger :=
  decidable_of_iff _ value.shown?_eq_none_iff

/-- A value has no text of its own exactly if an integer with too many digits stands in it. -/
theorem render?_eq_none_iff {value : Value} : value.render? = none ↔ value.HasLongInteger := by
  cases value with
  | text | date | moment => exact iff_of_false (by simp [render?]) nofun
  | _ => exact shown?_eq_none_iff _

end Value

end SearchQuery
