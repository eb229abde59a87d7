import SearchQuery.Text.CodeRange

/-!
# Blank characters

Two notions of white space meet in a query line.  A *blank* is any Unicode white space or one of
the four separators U+001C to U+001F: it ends a word.  A *gap* is one of the four characters that
may stand between two tokens.  Every gap is blank, and a blank that is no gap can only stand inside
quotes.
-/

namespace SearchQuery.Text

/-- Code points of the blank characters. -/
def blankRanges : List (Nat × Nat) :=
  [(0x0009, 0x000D), (0x001C, 0x0020), (0x0085, 0x0085), (0x00A0, 0x00A0), (0x1680, 0x1680),
   (0x2000, 0x200A), (0x2028, 0x2029), (0x202F, 0x202F), (0x205F, 0x205F), (0x3000, 0x3000)]

/-- Whether a character is blank, so that it ends a word. -/
def isBlank (c : Char) : Bool := inRanges blankRanges c

/-- Whether a character may stand between two tokens: space, tab, carriage return, line feed. -/
def isGap (c : Char) : Bool := c == ' ' || c == '\t' || c == '\r' || c == '\n'

theorem isBlank_of_isGap {c : Char} (h : isGap c = true) : isBlank c = true := by
  simp only [isGap, Bool.or_eq_true, beq_iff_eq] at h
  rcases h with ((rfl | rfl) | rfl) | rfl <;> decide

/-- The text without the blanks at its beginning. -/
def trimLeft (text : List Char) : List Char := text.dropWhile isBlank

/-- The text without the blanks at its end. -/
def trimRight (text : List Char) : List Char := (text.reverse.dropWhile isBlank).reverse

end SearchQuery.Text
