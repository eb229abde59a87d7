/-!
# Lines

A text is cut after each line break.  Besides the line feed and the carriage return, which count
as one break when they follow each other as CR LF, the breaks are U+000B, U+000C, U+001C to U+001E,
U+0085, U+2028 and U+2029.  Only CR and LF are taken off a line to get its content; the other
breaks stay part of it.
-/

namespace SearchQuery.Text

/-- Whether a line ends after the character. -/
def isLineBreak (c : Char) : Bool :=
  c == '\n' || c == '\r' || c == '\x0b' || c == '\x0c' || c == '\x1c' || c == '\x1d' ||
    c == '\x1e' || c == '\u0085' || c == '\u2028' || c == '\u2029'

/-- The lines of a text, each with the break that ends it. -/
def splitLines : List Char → List (List Char)
  | [] => []
  | '\r' :: '\n' :: rest => ['\r', '\n'] :: splitLines rest
  | c :: rest =>
      if isLineBreak c then [c] :: splitLines rest
      else
        match splitLines rest with
        | [] => [[c]]
        | line :: lines => (c :: line) :: lines

/-- A line without the carriage returns and line feeds at its end. -/
def lineContent (line : List Char) : List Char :=
  (line.reverse.dropWhile fun c => c == '\r' || c == '\n').reverse

/-- No character is lost by cutting a text into lines. -/
theorem flatten_splitLines (text : List Char) : (splitLines text).flatten = text := by
  fun_induction splitLines text with
  | case1 => rfl
  | case2 rest ih => simp [ih]
  | case3 c rest _ _ ih => simp [ih]
  | case4 c rest _ _ eq ih => simpa [eq] using ih
  | case5 c rest _ _ line lines eq ih => simpa [eq] using ih

end SearchQuery.Text
