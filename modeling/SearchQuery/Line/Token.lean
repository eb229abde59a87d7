import SearchQuery.Text.Blank
import SearchQuery.Text.Digit
import SearchQuery.Text.WordChar

/-!
# Tokens of a line

Each token is recognised at the beginning of the rest of a line.  `Token.take?` splits that rest
into the characters of the token and those after it.  A number, a date and the word `OR` are tokens
only if their word ends with them; a range operator ends a number or a date too.
-/

namespace SearchQuery.Line

/-- The tokens of a line. -/
inductive Token where
  /-- The word `OR`. -/
  | orWord
  /-- The keyword of a sort directive. -/
  | sortWord
  /-- The hyphen that negates. -/
  | dash
  /-- The name of a qualifier, in front of its colon. -/
  | name
  /-- The colon after a name or keyword. -/
  | colon
  /-- A date, possibly with a time. -/
  | date
  /-- A number. -/
  | number
  /-- A variable. -/
  | variable
  /-- The star of an absent boundary. -/
  | star
  /-- The range operator. -/
  | dots
  /-- A comparison operator. -/
  | comparison
  /-- A quoted text or a bare word. -/
  | text
  /-- The sign of a definition. -/
  | equals
  /-- The end of the line. -/
  | finish
  deriving DecidableEq, Repr, Inhabited

namespace Token

/-- A token as messages name it. -/
def label : Token → String
  | .orWord => "'OR(?=\\s|$)'"
  | .sortWord => "'sort(?=:)'"
  | .dash => "'-'"
  | .name => "'[A-Za-z][\\w\\-]*(?=:)'"
  | .colon => "':'"
  | .date =>
      "'\\d{4}-\\d{2}-\\d{2}(T\\d{2}:\\d{2}(:\\d{2})?(Z|[+\\-]\\d{2}:\\d{2})?)?(?=\\s|$|\\.\\.)'"
  | .number => "'\\d+(\\.\\d+)?(?=\\s|$|\\.\\.)'"
  | .variable => "'\\$[A-Za-z_][\\w\\-]*'"
  | .star => "'*'"
  | .dots => "'..'"
  | .comparison => "'<=|>=|<|>'"
  | .text => "'\"[^\"]*\"?|(?![A-Za-z][\\w\\-]*:)[^\\s\"]+'"
  | .equals => "'='"
  | .finish => "EOF"

end Token

/-- A beginning of a text and what follows it. -/
abbrev Split : Type := List Char × List Char

/-- The given word at the beginning of a text. -/
def takeWord? : List Char → List Char → Option Split
  | [], rest => some ([], rest)
  | _ :: _, [] => none
  | letter :: word, c :: rest =>
      if c = letter then (takeWord? word rest).map fun split => (c :: split.1, split.2) else none

/-- The longest beginning of a text in a class of characters. -/
def takeRun (inClass : Char → Bool) (rest : List Char) : Split :=
  (rest.takeWhile inClass, rest.dropWhile inClass)

/-- A beginning of the form of a mask, in which `0` stands for any digit and every other character
for itself. -/
def takeMask? : List Char → List Char → Option Split
  | [], rest => some ([], rest)
  | _ :: _, [] => none
  | slot :: mask, c :: rest =>
      if (if slot = '0' then Text.isDigit c else c = slot) then
        (takeMask? mask rest).map fun split => (c :: split.1, split.2)
      else none

/-- Whether a word ends here. -/
def endsWord : List Char → Bool
  | [] => true
  | c :: _ => Text.isBlank c

/-- Whether a boundary ends here: at the end of its word or at a range operator. -/
def endsBoundary : List Char → Bool
  | '.' :: '.' :: _ => true
  | rest => endsWord rest

/-- The name in front of a colon. -/
def takeName? : List Char → Option Split
  | [] => none
  | first :: rest =>
      let (run, rest) := takeRun Text.isNameChar rest
      if first.isAlpha ∧ rest.head? = some ':' then some (first :: run, rest) else none

/-- The forms of a date, the longer ones first. -/
def dateMasks : List String :=
  ["0000-00-00T00:00:00Z", "0000-00-00T00:00:00+00:00", "0000-00-00T00:00:00-00:00",
   "0000-00-00T00:00:00", "0000-00-00T00:00Z", "0000-00-00T00:00+00:00",
   "0000-00-00T00:00-00:00", "0000-00-00T00:00", "0000-00-00"]

/-- A date in the longest form that ends with its word. -/
def takeDate? (rest : List Char) : Option Split :=
  dateMasks.findSome? fun mask =>
    (takeMask? mask.toList rest).filter fun split => endsBoundary split.2

/-- The fraction of a number: a point and at least one digit. -/
def takeFraction? : List Char → Option Split
  | '.' :: rest =>
      let (digits, rest) := takeRun Text.isDigit rest
      if digits.isEmpty then none else some ('.' :: digits, rest)
  | _ => none

/-- A number, with its fraction if the word ends after it. -/
def takeNumber? (rest : List Char) : Option Split :=
  let (digits, rest) := takeRun Text.isDigit rest
  if digits.isEmpty then none
  else
    match (takeFraction? rest).filter fun split => endsBoundary split.2 with
    | some (fraction, rest) => some (digits ++ fraction, rest)
    | none => if endsBoundary rest then some (digits, rest) else none

/-- Whether a variable's name can begin with the character. -/
def startsVariable (c : Char) : Bool := c.isAlpha || c == '_'

/-- A variable with its `$`. -/
def takeVariable? : List Char → Option Split
  | '$' :: first :: rest =>
      let (run, rest) := takeRun Text.isNameChar rest
      if startsVariable first then some ('$' :: first :: run, rest) else none
  | _ => none

/-- A comparison operator, the longer ones first. -/
def takeComparison? : List Char → Option Split
  | '<' :: '=' :: rest => some (['<', '='], rest)
  | '>' :: '=' :: rest => some (['>', '='], rest)
  | '<' :: rest => some (['<'], rest)
  | '>' :: rest => some (['>'], rest)
  | _ => none

/-- Whether a character can stand in a bare word. -/
def isBare (c : Char) : Bool := !Text.isBlank c && c != '"'

/-- A quoted text, whose closing quote may be absent, or a bare word that is not the beginning of a
qualified value. -/
def takeText? : List Char → Option Split
  | '"' :: rest =>
      match takeRun (· != '"') rest with
      | (run, quote :: rest) => some ('"' :: run ++ [quote], rest)
      | (run, []) => some ('"' :: run, [])
  | rest =>
      let (run, after) := takeRun isBare rest
      if run.isEmpty || (takeName? rest).isSome then none else some (run, after)

/-- A word that only counts in front of a certain kind of rest. -/
def takeWordBefore? (word : String) (follows : List Char → Bool) (rest : List Char) :
    Option Split :=
  (takeWord? word.toList rest).filter fun split => follows split.2

/-- The token at the beginning of the rest of a line, and what follows it. -/
def Token.take? : Token → List Char → Option Split
  | .orWord => takeWordBefore? "OR" endsWord
  | .sortWord => takeWordBefore? "sort" fun rest => rest.head? == some ':'
  | .dash => takeWord? ['-']
  | .name => takeName?
  | .colon => takeWord? [':']
  | .date => takeDate?
  | .number => takeNumber?
  | .variable => takeVariable?
  | .star => takeWord? ['*']
  | .dots => takeWord? ['.', '.']
  | .comparison => takeComparison?
  | .text => takeText?
  | .equals => takeWord? ['=']
  | .finish => fun rest => if rest.isEmpty then some ([], []) else none

end SearchQuery.Line
