import SearchQuery.Yaml.Cursor
import SearchQuery.Yaml.Problem

/-!
# Texts of scalars

A scalar is plain or quoted.  Inside it a single line break counts as a space, and of several line
breaks all but the first count.  A plain scalar ends where a comment, a key's colon or, inside a
flow collection, a separator begins, and before a line that is not indented enough.
-/

namespace SearchQuery.Yaml

/-- The text that a run of line breaks stands for: the first break and those after it. -/
def foldBreaks (first : Char) (others : List Char) : List Char :=
  if first ≠ '\n' then first :: others else if others.isEmpty then [' '] else others

/-- The characters inside a quoted scalar that stand for themselves. -/
def isQuotedPlain (c : Char) : Bool :=
  !(c == '\'' || c == '"' || c == '\\' || isSpace c || isBreak c)

/-- The character that a letter after a backslash stands for. -/
def escapes : List (Char × Char) :=
  [('0', '\x00'), ('a', '\x07'), ('b', '\x08'), ('t', '\t'), ('\t', '\t'), ('n', '\n'),
   ('v', '\x0b'), ('f', '\x0c'), ('r', '\r'), ('e', '\x1b'), (' ', ' '), ('"', '"'),
   ('\\', '\\'), ('/', '/'), ('N', '\u0085'), ('_', '\u00a0'), ('L', '\u2028'), ('P', '\u2029')]

/-- The value of a hexadecimal digit. -/
def hexDigit? (c : Char) : Option Nat :=
  if '0' ≤ c ∧ c ≤ '9' then some (c.toNat - '0'.toNat)
  else if 'a' ≤ c ∧ c ≤ 'f' then some (c.toNat - 'a'.toNat + 10)
  else if 'A' ≤ c ∧ c ≤ 'F' then some (c.toNat - 'A'.toNat + 10)
  else none

/-- The number that hexadecimal digits write. -/
def hexNumber? (digits : List Char) : Option Nat :=
  digits.foldlM (fun value c => (hexDigit? c).map (16 * value + ·)) 0

/-- Number of digits of an escape by code point. -/
def escapeWidth? : Char → Option Nat
  | 'x' => some 2
  | 'u' => some 4
  | 'U' => some 8
  | _ => none

/-- The line breaks in a quoted scalar, with the spaces around them left out.  A marker of the
document may not stand at the beginning of a line. -/
def quotedBreaks (cursor : Cursor) : Nat → Option (List Char × Cursor)
  | 0 => none
  | fuel + 1 =>
      if cursor.atMarker then none
      else
        let place := cursor.skip isSpace
        match place.takeBreak? with
        | some (c, after) => do
            let (others, after) ← quotedBreaks after fuel
            return (c :: others, after)
        | none => some ([], place)

/-- The character that some digits write in an escape by code point. -/
def escapedChar (width : Nat) (digits : List Char) : Except Problem Char := do
  let code ← orMalformed (if digits.length < width then none else hexNumber? digits)
  if code.isValidChar then return Char.ofNat code else throw .uncovered

/-- The character or line break after a backslash. -/
def quotedEscape (cursor : Cursor) (fuel : Nat) : Except Problem (List Char × Cursor) :=
  match cursor.rest with
  | [] => .error .malformed
  | c :: _ =>
      match escapes.lookup c with
      | some value => .ok ([value], cursor.next)
      | none =>
          match escapeWidth? c with
          | some width => do
              let value ← escapedChar width (cursor.next.rest.take width)
              return ([value], cursor.next.forward width)
          | none => do
              let (_, after) ← orMalformed cursor.takeBreak?
              orMalformed (quotedBreaks after fuel)

/-- The text of a quoted scalar after its opening quote, and the place after the closing one. -/
def quotedText (quote : Char) (cursor : Cursor) : Nat → Except Problem (List Char × Cursor)
  | 0 => .error .malformed
  | fuel + 1 =>
      let add (text : List Char) (after : Cursor) : Except Problem (List Char × Cursor) := do
        let (others, after) ← quotedText quote after fuel
        return (text ++ others, after)
      match cursor.rest with
      | [] => .error .malformed
      | c :: rest =>
          if isQuotedPlain c then add [c] cursor.next
          else if c == quote then
            if c == '\'' && rest.head? == some '\'' then add ['\''] (cursor.forward 2)
            else .ok ([], cursor.next)
          else if c == '\\' && quote == '"' then do
            let (text, after) ← quotedEscape cursor.next fuel
            add text after
          else if isSpace c || isBreak c then
            let spaces := cursor.rest.takeWhile isSpace
            let place := cursor.skip isSpace
            match place.takeBreak? with
            | some (first, after) => do
                let (others, after) ← orMalformed (quotedBreaks after fuel)
                add (foldBreaks first others) after
            | none => if place.rest.isEmpty then .error .malformed else add spaces place
          else add [c] cursor.next

/-- Whether a character separates the members of a flow collection, or encloses one. -/
def isFlowIndicator (c : Char) : Bool :=
  c == ',' || c == '[' || c == ']' || c == '\x7b' || c == '\x7d'

/-- Whether a plain word ends at a distance. -/
def plainEndsAt (inFlow : Bool) (cursor : Cursor) (distance : Nat) : Bool :=
  match cursor.peek distance with
  | none => true
  | some c =>
      isSpace c || isBreak c ||
        (c == ':' && (cursor.endsAt (distance + 1) ||
          (inFlow && (cursor.peek (distance + 1)).any isFlowIndicator))) ||
        (inFlow && (c == '?' || isFlowIndicator c))

/-- Length of the plain word at a place, of which `distance` characters are known. -/
def plainLength (inFlow : Bool) (cursor : Cursor) (distance : Nat) : Nat → Nat
  | 0 => distance
  | fuel + 1 =>
      if plainEndsAt inFlow cursor distance then distance
      else plainLength inFlow cursor (distance + 1) fuel

/-- What stands between two words of a plain scalar. -/
structure PlainGap where
  /-- The text it stands for, absent if the scalar ends here. -/
  text : List Char
  /-- The place after it. -/
  after : Cursor
  /-- Whether it goes over the end of a line. -/
  broken : Bool

/-- The line breaks after the first one between two words of a plain scalar.  Nothing comes of
them if they lead to a marker of the document. -/
def plainBreaks (cursor : Cursor) : Nat → Option (List Char) × Cursor
  | 0 => (none, cursor)
  | fuel + 1 =>
      if cursor.atMarker then (none, cursor)
      else
        let place := cursor.skip (· == ' ')
        match place.takeBreak? with
        | some (c, after) =>
            let (others, after) := plainBreaks after fuel
            (others.map (c :: ·), after)
        | none => (some [], place)

/-- What stands after a word of a plain scalar. -/
def plainGap (cursor : Cursor) (fuel : Nat) : PlainGap :=
  let spaces := cursor.rest.takeWhile (· == ' ')
  let place := cursor.skip (· == ' ')
  match place.takeBreak? with
  | some (first, after) =>
      match plainBreaks after fuel with
      | (some others, after) => ⟨foldBreaks first others, after, true⟩
      | (none, after) => ⟨[], after, true⟩
  | none => ⟨spaces, place, false⟩

/-- A scalar that has been read. -/
structure Scanned where
  /-- The text of the scalar. -/
  text : List Char
  /-- The place after it. -/
  after : Cursor
  /-- Whether it was left over the end of a line. -/
  broken : Bool

/-- The text of a plain scalar in lines indented by at least `indent`, from one of its words on. -/
def plainText (inFlow : Bool) (indent : Int) (cursor : Cursor) (broken : Bool) : Nat → Scanned
  | 0 => ⟨[], cursor, broken⟩
  | fuel + 1 =>
      let length := plainLength inFlow cursor 0 cursor.rest.length
      if cursor.peek 0 = some '#' ∨ length = 0 then ⟨[], cursor, broken⟩
      else
        let word := cursor.rest.take length
        let gap := plainGap (cursor.forward length) fuel
        if gap.text.isEmpty ∨ gap.after.peek 0 = some '#' ∨
            (inFlow = false ∧ (gap.after.column : Int) < indent) then
          ⟨word, gap.after, gap.broken⟩
        else
          let others := plainText inFlow indent gap.after gap.broken fuel
          ⟨if others.text.isEmpty then word else word ++ gap.text ++ others.text, others.after,
            others.broken⟩

end SearchQuery.Yaml
