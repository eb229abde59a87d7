import SearchQuery.Text.Blank

/-!
# Files of assignments

A file that assigns texts to names, one assignment a line: `NAME=value`, with `export` in front if
wanted and spaces around the sign.  A value in quotes can go over several lines and has escapes; any
other value ends with its line or in front of a comment.  A line of another form is left out, and so
is a name without a sign.
-/

namespace SearchQuery.Settings

/-- Whether a line of a file of assignments ends with the character. -/
def isLineEnd (c : Char) : Bool := c == '\n' || c == '\r'

/-- Whether a character is blank and no end of a line. -/
def isInlineBlank (c : Char) : Bool := Text.isBlank c && !isLineEnd c

/-- The text after the end of the line. -/
def afterLine (text : List Char) : List Char := (text.dropWhile (!isLineEnd ·)).drop 1

/-- The text after the word `export` and the blanks behind it, if they are there. -/
def skipExport (text : List Char) : List Char :=
  let word := "export".toList
  let rest := text.drop word.length
  if word.isPrefixOf text && rest.head?.any isInlineBlank then rest.dropWhile isInlineBlank
  else text

/-- The text between quotes and what follows the closing one.  A quote after a backslash does not
close. -/
def takeQuoted? (quote : Char) : List Char → Option (List Char × List Char)
  | [] => none
  | '\\' :: c :: rest =>
      if c = quote then (takeQuoted? quote rest).map fun split => ('\\' :: c :: split.1, split.2)
      else (takeQuoted? quote (c :: rest)).map fun split => ('\\' :: split.1, split.2)
  | c :: rest =>
      if c = quote then some ([], rest)
      else (takeQuoted? quote rest).map fun split => (c :: split.1, split.2)

/-- The characters that letters after a backslash stand for between single quotes. -/
def singleEscapes : List (Char × Char) := [('\\', '\\'), ('\'', '\'')]

/-- The characters that letters after a backslash stand for between double quotes. -/
def doubleEscapes : List (Char × Char) :=
  [('\\', '\\'), ('\'', '\''), ('"', '"'), ('a', '\x07'), ('b', '\x08'), ('f', '\x0c'),
   ('n', '\n'), ('r', '\r'), ('t', '\t'), ('v', '\x0b')]

/-- A text with its escapes replaced. -/
def unescape (escapes : List (Char × Char)) : List Char → List Char
  | [] => []
  | '\\' :: c :: rest =>
      match escapes.lookup c with
      | some value => value :: unescape escapes rest
      | none => '\\' :: unescape escapes (c :: rest)
  | c :: rest => c :: unescape escapes rest

/-- A value without the comment behind it, which begins with blanks and a number sign. -/
def dropComment (afterBlank : Bool) : List Char → List Char
  | [] => []
  | c :: rest =>
      if afterBlank && c == '#' then [] else c :: dropComment (Text.isBlank c) rest

/-- A value without quotes. -/
def bareValue (text : List Char) : List Char := Text.trimRight (dropComment false text)

/-- A value and what follows it; nothing if its quotes are not closed. -/
def takeValue? (text : List Char) : Option (List Char × List Char) :=
  match text with
  | '\'' :: rest => (takeQuoted? '\'' rest).map fun split =>
      (unescape singleEscapes split.1, split.2)
  | '"' :: rest => (takeQuoted? '"' rest).map fun split =>
      (unescape doubleEscapes split.1, split.2)
  | text => some (bareValue (text.takeWhile (!isLineEnd ·)), text.dropWhile (!isLineEnd ·))

/-- Whether a character can stand in a name. -/
def isKeyChar (c : Char) : Bool := c != '=' && c != '#' && !Text.isBlank c

/-- A name and what follows it; an empty one for a comment. -/
def takeKey? (text : List Char) : Option (List Char × List Char) :=
  match text with
  | '#' :: _ => some ([], text)
  | '\'' :: rest =>
      let key := rest.takeWhile (· != '\'')
      match rest.dropWhile (· != '\'') with
      | _ :: rest => if key.isEmpty then none else some (key, rest)
      | [] => none
  | text =>
      let key := text.takeWhile isKeyChar
      if key.isEmpty then none else some (key, text.dropWhile isKeyChar)

/-- The text after a comment and the end of its line, if nothing else stands in front of it. -/
def endLine? (text : List Char) : Option (List Char) :=
  let rest := text.dropWhile isInlineBlank
  let rest := if rest.head? = some '#' then rest.dropWhile (!isLineEnd ·) else rest
  match rest with
  | [] => some []
  | '\r' :: '\n' :: rest => some rest
  | c :: rest => if isLineEnd c then some rest else none

/-- An assignment that was read. -/
structure Binding where
  /-- The name. -/
  name : String
  /-- The value, absent if the name has no sign behind it. -/
  value : Option String
  deriving DecidableEq, Repr

/-- The assignment at the beginning of a text, or nothing for a comment or a line of another form,
and what follows the line. -/
def takeBinding (text : List Char) : Option Binding × List Char :=
  let text := skipExport (text.dropWhile Text.isBlank)
  match takeKey? text with
  | none => (none, afterLine text)
  | some (key, rest) =>
      let rest := rest.dropWhile isInlineBlank
      let binding (value : Option (List Char)) : Option Binding :=
        if key.isEmpty then none else some ⟨String.ofList key, value.map String.ofList⟩
      match rest with
      | '=' :: rest =>
          let rest := rest.dropWhile isInlineBlank
          match takeValue? rest with
          | none => (none, afterLine rest)
          | some (value, rest) =>
              match endLine? rest with
              | some rest => (binding (some value), rest)
              | none => (none, afterLine rest)
      | rest =>
          match endLine? rest with
          | some rest => (binding none, rest)
          | none => (none, afterLine rest)

/-- The assignments of a text, in order. -/
def takeBindings (text : List Char) : Nat → List Binding
  | 0 => []
  | fuel + 1 =>
      if text.all Text.isBlank then []
      else
        let (binding, rest) := takeBinding text
        binding.toList ++ takeBindings rest fuel

/-- The assignments in a file's text. -/
def Binding.ofText (text : String) : List Binding :=
  takeBindings text.toList (text.length + 1)

end SearchQuery.Settings
