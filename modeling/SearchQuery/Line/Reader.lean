import SearchQuery.Line.Token

/-!
# Readers

A reader looks for some construct at a place in a line.  Whether it finds it or not, it tells which
tokens it looked for in vain, and where: those of abandoned alternatives and of absent optional
parts too, in the order in which it tried them.  What was looked for at the farthest of these
places describes the error of a line that cannot be read.
-/

namespace SearchQuery.Line

/-- A place in a line. -/
structure Cursor where
  /-- Number of characters in front of the place. -/
  offset : Nat
  /-- The characters after the place. -/
  rest : List Char
  deriving DecidableEq, Repr

namespace Cursor

/-- The place after the gap, if there is one. -/
def skipGap (cursor : Cursor) : Cursor :=
  { offset := cursor.offset + (cursor.rest.takeWhile Text.isGap).length
    rest := cursor.rest.dropWhile Text.isGap }

end Cursor

/-- A token that was looked for in vain. -/
structure Failure where
  /-- Where it was looked for. -/
  offset : Nat
  /-- What was looked for. -/
  token : Token
  deriving DecidableEq, Repr

/-- The outcome of reading at a place. -/
structure Reading (α : Type) where
  /-- What was looked for in vain, in the order tried. -/
  failures : List Failure
  /-- What was found and the place after it. -/
  found : Option (α × Cursor)

/-- A way to read some construct. -/
def Reader (α : Type) : Type := Cursor → Reading α

/-- The characters of a token and where they stand. -/
structure Lexeme where
  /-- Offset of the first character. -/
  start : Nat
  /-- The characters. -/
  chars : List Char
  deriving DecidableEq, Repr

namespace Lexeme

/-- Offset after the last character. -/
def stop (lexeme : Lexeme) : Nat := lexeme.start + lexeme.chars.length

/-- The characters as text. -/
def text (lexeme : Lexeme) : String := String.ofList lexeme.chars

end Lexeme

namespace Reader

/-- Reads nothing. -/
def pure {α : Type} (value : α) : Reader α := fun cursor => ⟨[], some (value, cursor)⟩

/-- Reads one construct and then another that may depend on it. -/
def bind {α β : Type} (first : Reader α) (next : α → Reader β) : Reader β := fun cursor =>
  let reading := first cursor
  match reading.found with
  | none => ⟨reading.failures, none⟩
  | some (value, cursor) =>
      let continued := next value cursor
      ⟨reading.failures ++ continued.failures, continued.found⟩

instance : Monad Reader where
  pure := Reader.pure
  bind := Reader.bind

/-- Reads a token, after the gap in front of it. -/
def token (token : Token) : Reader Lexeme := fun cursor =>
  let place := cursor.skipGap
  match token.take? place.rest with
  | some (chars, rest) => ⟨[], some (⟨place.offset, chars⟩, ⟨place.offset + chars.length, rest⟩)⟩
  | none => ⟨[⟨place.offset, token⟩], none⟩

/-- Reads the first construct or, where it is not found, the second. -/
def orElse {α : Type} (first second : Reader α) : Reader α := fun cursor =>
  let reading := first cursor
  match reading.found with
  | some found => ⟨reading.failures, some found⟩
  | none =>
      let other := second cursor
      ⟨reading.failures ++ other.failures, other.found⟩

/-- Reads the first construct of a list that is found. -/
def firstOf {α : Type} : List (Reader α) → Reader α
  | [] => fun _ => ⟨[], none⟩
  | reader :: readers => reader.orElse (firstOf readers)

/-- Reads a construct if it is there. -/
def optional {α : Type} (reader : Reader α) : Reader (Option α) := fun cursor =>
  let reading := reader cursor
  match reading.found with
  | some (value, cursor) => ⟨reading.failures, some (some value, cursor)⟩
  | none => ⟨reading.failures, some (none, cursor)⟩

/-- Reads a construct again and again, as long as it is found and takes at least one character. -/
def many {α : Type} (reader : Reader α) (cursor : Cursor) : Reading (List α) :=
  let reading := reader cursor
  match reading.found with
  | none => ⟨reading.failures, some ([], cursor)⟩
  | some (value, next) =>
      if next.rest.length < cursor.rest.length then
        let others := many reader next
        ⟨reading.failures ++ others.failures,
          others.found.map fun found => (value :: found.1, found.2)⟩
      else ⟨reading.failures, some ([value], next)⟩
termination_by cursor.rest.length

end Reader

end SearchQuery.Line
