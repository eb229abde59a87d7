/-!
# Positions

A reader of a message finds a place by line and column, both counted from one.  Here a line ends
with a line feed and nothing else; offsets outside the text are moved to its nearest end.
-/

namespace SearchQuery.Text

/-- A line and a column, both counted from one. -/
structure Position where
  /-- Number of the line. -/
  line : Nat
  /-- Number of the character in its line. -/
  column : Nat
  deriving DecidableEq, Repr, Inhabited

/-- The end of a text as a position: one line more than it has line feeds, one column more than the
characters after the last of them. -/
def endPosition (text : List Char) : Position :=
  { line := text.count '\n' + 1
    column := (text.reverse.takeWhile (· ≠ '\n')).length + 1 }

/-- The position of an offset in a text. -/
def positionOf (text : List Char) (offset : Int) : Position :=
  endPosition (text.take offset.toNat)

/-- A position as it stands in messages. -/
def Position.render (position : Position) : String :=
  toString position.line ++ ":" ++ toString position.column

end SearchQuery.Text
