/-!
# Places in a YAML text

A reader of YAML looks at characters by their distance and needs to know the line and column it has
come to.  The byte order mark takes no column.
-/

namespace SearchQuery.Yaml

/-- Whether a line ends with the character. -/
def isBreak (c : Char) : Bool :=
  c == '\n' || c == '\r' || c == '\u0085' || c == '\u2028' || c == '\u2029'

/-- Whether the character is a space or a tab. -/
def isSpace (c : Char) : Bool := c == ' ' || c == '\t'

/-- Whether a character may stand in a YAML text. -/
def isAllowed (c : Char) : Bool :=
  let n := c.toNat
  c == '\t' || c == '\n' || c == '\r' || (0x20 ≤ n && n ≤ 0x7E) || n == 0x85 ||
    (0xA0 ≤ n && n ≤ 0xD7FF) || (0xE000 ≤ n && n ≤ 0xFFFD) || 0x10000 ≤ n

/-- A place in a text. -/
structure Cursor where
  /-- The characters after the place. -/
  rest : List Char
  /-- Number of characters before the place. -/
  index : Nat
  /-- Number of line breaks before the place. -/
  line : Nat
  /-- Number of characters before the place in its line. -/
  column : Nat
  deriving Repr

namespace Cursor

/-- The beginning of a text. -/
def ofText (text : List Char) : Cursor := ⟨text, 0, 0, 0⟩

/-- The character at a distance, if the text goes that far. -/
def peek (cursor : Cursor) (distance : Nat) : Option Char := cursor.rest[distance]?

/-- Whether there is nothing, a space, a tab or a line break at a distance. -/
def endsAt (cursor : Cursor) (distance : Nat) : Bool :=
  (cursor.peek distance).all fun c => isSpace c || isBreak c

/-- The place one character further on. -/
def next (cursor : Cursor) : Cursor :=
  match cursor.rest with
  | [] => cursor
  | c :: rest =>
      if isBreak c && !(c == '\r' && rest.head? == some '\n') then
        ⟨rest, cursor.index + 1, cursor.line + 1, 0⟩
      else ⟨rest, cursor.index + 1, cursor.line, cursor.column + if c == '\ufeff' then 0 else 1⟩

/-- The place some characters further on. -/
def forward (cursor : Cursor) : Nat → Cursor
  | 0 => cursor
  | count + 1 => cursor.next.forward count

/-- The place after the characters of a class. -/
def skip (cursor : Cursor) (inClass : Char → Bool) : Cursor :=
  cursor.forward (cursor.rest.takeWhile inClass).length

/-- The line break at a place, as it counts in a text, and the place after it. -/
def takeBreak? (cursor : Cursor) : Option (Char × Cursor) :=
  match cursor.rest with
  | '\r' :: '\n' :: _ => some ('\n', cursor.forward 2)
  | c :: _ =>
      if c == '\u2028' || c == '\u2029' then some (c, cursor.next)
      else if isBreak c then some ('\n', cursor.next)
      else none
  | [] => none

/-- Whether the three characters that begin or end a document stand here as a word. -/
def atMarker (cursor : Cursor) : Bool :=
  (cursor.rest.take 3 == ['-', '-', '-'] || cursor.rest.take 3 == ['.', '.', '.']) &&
    cursor.endsAt 3

end Cursor

end SearchQuery.Yaml
