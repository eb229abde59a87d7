import SearchQuery.Console.Wrap

/-!
# Texts on the console

Square brackets can be markup on the console, so texts are protected: what looks like a tag is shown
as it is.  A backslash in front of any other bracket is not shown, and a backslash that ends a text
alone is shown twice.  Controls that move the cursor are left out.
-/

namespace SearchQuery.Console

/-- Whether a tag can begin with the character. -/
def startsTag (c : Char) : Bool :=
  ('a' ≤ c && c ≤ 'z') || c == '#' || c == '/' || c == '@'

/-- Number of characters of the tag at the beginning of a text, zero if there is none. -/
def tagLength : List Char → Nat
  | '[' :: c :: rest =>
      let inside := rest.takeWhile fun c => c != '[' && c != ']'
      if startsTag c && rest[inside.length]? == some ']' then inside.length + 3 else 0
  | _ => 0

/-- What is shown of a text. -/
def visible : List Char → Nat → List Char
  | [], _ => []
  | text, 0 => text
  | c :: rest, fuel + 1 =>
      let slashes := ((c :: rest).takeWhile (· == '\\')).length
      let tag := tagLength ((c :: rest).drop slashes)
      if tag ≠ 0 then
        (c :: rest).take (slashes + tag) ++ visible ((c :: rest).drop (slashes + tag)) fuel
      else if c = '\\' ∧ rest.head? = some '[' then '[' :: visible (rest.drop 1) fuel
      else c :: visible rest fuel

/-- A text with the backslash doubled that ends it alone. -/
def closeEnd (text : List Char) : List Char :=
  match text.reverse with
  | '\\' :: '\\' :: _ => text
  | '\\' :: _ => text ++ ['\\']
  | _ => text

/-- Whether a character is a control that moves the cursor, or rings the bell. -/
def isControl (c : Char) : Bool :=
  c == '\x07' || c == '\x08' || c == '\x0b' || c == '\x0c' || c == '\r'

/-- A protected text as it is shown. -/
def shown (text : String) : List Char :=
  ((closeEnd (visible text.toList text.length)).filter (!isControl ·))

/-- The parts of a text between line feeds. -/
def splitLines : List Char → List (List Char)
  | [] => [[]]
  | c :: rest =>
      if c = '\n' then [] :: splitLines rest
      else
        match splitLines rest with
        | [] => [[c]]
        | line :: lines => (c :: line) :: lines

/-- The lines of a text on the console, wrapped or not. -/
def lines (wrapped : Bool) (text : List Char) : List (List Char) :=
  (splitLines text).flatMap fun line =>
    let line := expandTabs 0 line
    if wrapped then wrap columns line else [line]

/-- The output for some lines. -/
def output (lines : List (List Char)) : String :=
  String.join (lines.map fun line => String.ofList line ++ "\n")

/-- The output for a text that is wrapped, with a protected part at its end. -/
def printWrapped (lead : String) (text : String) : String :=
  output (lines true (lead.toList ++ shown text))

/-- The output for a protected text that is not wrapped. -/
def printLine (text : String) : String := output (lines false (shown text))

/-- A text without sequences that control a terminal: an escape, an opening bracket, digits and
some signs, and a letter. -/
def plain : List Char → Nat → List Char
  | [], _ => []
  | text, 0 => text
  | '\x1b' :: '[' :: rest, fuel + 1 =>
      let after := rest.dropWhile fun c => c.isDigit || c == ';' || c == '?'
      if after.head?.any Char.isAlpha then plain (after.drop 1) fuel
      else '\x1b' :: plain ('[' :: rest) fuel
  | c :: rest, fuel + 1 => c :: plain rest fuel

/-- The output for a line that is written as it is. -/
def printPlain (text : String) : String :=
  String.ofList (plain text.toList text.length) ++ "\n"

end SearchQuery.Console
