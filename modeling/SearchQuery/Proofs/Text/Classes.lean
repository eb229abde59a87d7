import SearchQuery.Line.Token

/-!
# Character classes of a line

No letter, digit or character of a name is blank, and the punctuation of a line belongs to none of
these classes.  The first character of a token therefore tells most tokens apart, and a token that
is no quoted text stays within its word.
-/

namespace SearchQuery.Text

/-- Whether no range of one table meets a range of the other. -/
def areDisjoint (left right : List (Nat × Nat)) : Bool :=
  left.all fun a => right.all fun b => Nat.blt a.2 b.1 || Nat.blt b.2 a.1

/-- Tables without a common code point have no common character. -/
theorem inRanges_eq_false_of_disjoint {left right : List (Nat × Nat)}
    (disjoint : areDisjoint left right = true) {c : Char}
    (inLeft : inRanges left c = true) : inRanges right c = false := by
  obtain ⟨a, a_mem, a_low, a_high⟩ := (inRanges_iff left c).mp inLeft
  rw [← Bool.not_eq_true, inRanges_iff]
  rintro ⟨b, b_mem, b_low, b_high⟩
  have apart : a.2 < b.1 ∨ b.2 < a.1 := by
    simpa only [Bool.or_eq_true, Nat.blt_eq] using
      List.all_eq_true.mp (List.all_eq_true.mp disjoint a a_mem) b b_mem
  omega

/-- ASCII letters by code point. -/
theorem isAlpha_iff (c : Char) :
    c.isAlpha = true ↔ (65 ≤ c.toNat ∧ c.toNat ≤ 90) ∨ (97 ≤ c.toNat ∧ c.toNat ≤ 122) := by
  have cases_eq : c.isAlpha = (decide (65 ≤ c.val ∧ c.val ≤ 90) ||
      (decide (97 ≤ c.val) && decide (c.val ≤ 122))) := rfl
  simp only [cases_eq, Bool.or_eq_true, Bool.and_eq_true, decide_eq_true_eq,
    UInt32.le_iff_toNat_le]
  rfl

/-- ASCII digits by code point. -/
theorem isAsciiDigit_iff (c : Char) : c.isDigit = true ↔ 48 ≤ c.toNat ∧ c.toNat ≤ 57 := by
  simp only [Char.isDigit, Bool.and_eq_true, decide_eq_true_eq, ge_iff_le,
    UInt32.le_iff_toNat_le]
  rfl

/-- The code points of the ASCII characters of a name. -/
private def asciiNameRanges : List (Nat × Nat) :=
  [(45, 45), (48, 57), (65, 90), (95, 95), (97, 122)]

private theorem inRanges_of_isNameChar {c : Char} (name : isNameChar c = true) :
    inRanges asciiNameRanges c = true ∨ inRanges letterRanges c = true := by
  simp only [isNameChar, isWordChar, Char.isAlphanum, Bool.or_eq_true, isAlpha_iff,
    isAsciiDigit_iff, beq_iff_eq] at name
  rcases name with (((letter | digit) | rfl) | letter) | rfl
  · left
    simp only [asciiNameRanges, inRanges, List.any_cons, List.any_nil, Bool.or_eq_true,
      Bool.and_eq_true, decide_eq_true_eq]
    omega
  · left
    simp only [asciiNameRanges, inRanges, List.any_cons, List.any_nil, Bool.or_eq_true,
      Bool.and_eq_true, decide_eq_true_eq]
    omega
  · exact Or.inl (by simp [inRanges, asciiNameRanges])
  · exact Or.inr letter
  · exact Or.inl (by simp [inRanges, asciiNameRanges])

/-- A character of a name lies in no table that avoids the letters and numerals. -/
private theorem inRanges_eq_false_of_isNameChar {ranges : List (Nat × Nat)}
    (ascii : areDisjoint asciiNameRanges ranges = true)
    (letters : areDisjoint letterRanges ranges = true)
    {c : Char} (name : isNameChar c = true) : inRanges ranges c = false := by
  rcases inRanges_of_isNameChar name with inAscii | inLetters
  · exact inRanges_eq_false_of_disjoint ascii inAscii
  · exact inRanges_eq_false_of_disjoint letters inLetters

/-- The code points of the punctuation of a line: the quote, the dollar, the star, the point, the
colon and the signs of comparison. -/
private def punctuationRanges : List (Nat × Nat) :=
  [(0x22, 0x22), (0x24, 0x24), (0x2A, 0x2A), (0x2E, 0x2E), (0x3A, 0x3A), (0x3C, 0x3E)]

theorem isBlank_eq_false_of_isNameChar {c : Char} (name : isNameChar c = true) :
    isBlank c = false :=
  inRanges_eq_false_of_isNameChar (by decide +kernel) (by decide +kernel) name

theorem isNameChar_of_isAlpha {c : Char} (letter : c.isAlpha = true) : isNameChar c = true := by
  simp [isNameChar, isWordChar, Char.isAlphanum, letter]

theorem isBlank_eq_false_of_isAlpha {c : Char} (letter : c.isAlpha = true) : isBlank c = false :=
  isBlank_eq_false_of_isNameChar (isNameChar_of_isAlpha letter)

theorem isBlank_eq_false_of_isDigit {c : Char} (digit : isDigit c = true) : isBlank c = false :=
  inRanges_eq_false_of_disjoint (by decide +kernel) digit

private theorem isPunctuation_eq_false_of_isNameChar {c : Char} (name : isNameChar c = true) :
    inRanges punctuationRanges c = false :=
  inRanges_eq_false_of_isNameChar (by decide +kernel) (by decide +kernel) name

private theorem isPunctuation_eq_false_of_isDigit {c : Char} (digit : isDigit c = true) :
    inRanges punctuationRanges c = false :=
  inRanges_eq_false_of_disjoint (by decide +kernel) digit

/-- What stands in a name is none of the signs of a line. -/
theorem ne_punctuation_of_isNameChar {c : Char} (name : isNameChar c = true) :
    c ≠ '"' ∧ c ≠ '$' ∧ c ≠ '*' ∧ c ≠ '.' ∧ c ≠ ':' ∧ c ≠ '<' ∧ c ≠ '=' ∧ c ≠ '>' := by
  have outside := isPunctuation_eq_false_of_isNameChar name
  refine ⟨?_, ?_, ?_, ?_, ?_, ?_, ?_, ?_⟩ <;> rintro rfl <;>
    simp [inRanges, punctuationRanges] at outside

theorem isNameChar_eq_false_of_sign {sign : Char}
    (isSign : inRanges punctuationRanges sign = true := by decide) : isNameChar sign = false := by
  rw [← Bool.not_eq_true]
  intro name
  simp [isPunctuation_eq_false_of_isNameChar name] at isSign

/-- A digit is none of the signs of a line. -/
theorem ne_punctuation_of_isDigit {c : Char} (digit : isDigit c = true) :
    c ≠ '"' ∧ c ≠ '$' ∧ c ≠ '*' ∧ c ≠ '.' ∧ c ≠ ':' ∧ c ≠ '<' ∧ c ≠ '=' ∧ c ≠ '>' := by
  have outside := isPunctuation_eq_false_of_isDigit digit
  refine ⟨?_, ?_, ?_, ?_, ?_, ?_, ?_, ?_⟩ <;> rintro rfl <;>
    simp [inRanges, punctuationRanges] at outside

/-- A digit is neither an ASCII letter nor a hyphen. -/
theorem isAlpha_eq_false_of_isDigit {c : Char} (digit : isDigit c = true) :
    c.isAlpha = false ∧ c ≠ '-' := by
  have outside : inRanges [(45, 45), (65, 90), (97, 122)] c = false :=
    inRanges_eq_false_of_disjoint (by decide +kernel) digit
  constructor
  · rw [← Bool.not_eq_true, isAlpha_iff]
    simp only [inRanges, List.any_cons, List.any_nil, Bool.or_eq_false_iff,
      Bool.and_eq_false_iff, decide_eq_false_iff_not] at outside
    omega
  · rintro rfl
    simp [inRanges] at outside

theorem isDigit_eq_false_of_isAlpha {c : Char} (letter : c.isAlpha = true) : isDigit c = false := by
  rw [← Bool.not_eq_true]
  intro digit
  simp [isAlpha_eq_false_of_isDigit digit] at letter

end SearchQuery.Text
