import SearchQuery.Log.Level
import SearchQuery.Value.Render

/-!
# Messages

A message may have places that its arguments fill: `%s` takes the text of any value and `%d` an
integer; `%%` is a percent sign.  Without arguments nothing is filled.
-/

namespace SearchQuery

/-- Why a message cannot be filled. -/
inductive MessageError where
  /-- There are more places than arguments. -/
  | tooFew
  /-- There are more arguments than places. -/
  | tooMany
  /-- An argument that is to be an integer is no number. -/
  | notANumber (kind : String)
  /-- The message ends after a percent sign. -/
  | incomplete
  /-- The place is of an unknown kind. -/
  | unknownPlace (kind : Char) (index : Nat)
  /-- An argument has no text. -/
  | noText
  deriving DecidableEq, Repr, Inhabited

namespace MessageError

/-- The message of an error. -/
def message : MessageError → String
  | .tooFew => "not enough arguments for format string"
  | .tooMany => "not all arguments converted during string formatting"
  | .notANumber kind => "%d format: a real number is required, not " ++ kind
  | .incomplete => "incomplete format"
  | .unknownPlace kind index =>
      "unsupported format character '" ++ kind.toString ++ "' (0x" ++
        String.ofList (Nat.toDigits 16 kind.toNat) ++ ") at index " ++ toString index
  | .noText => Number.tooManyDigits ""

end MessageError

namespace Message

/-- The name of a value's kind in an error. -/
def kindName : Value → String
  | .null => "NoneType"
  | .text _ => "str"
  | .list _ => "list"
  | .map _ => "dict"
  | _ => "object"

/-- The integer that a number stands for, without what follows its point. -/
def integerOf? (value : Value) : Option Int :=
  value.ratio?.map fun ratio => ratio.1.tdiv ratio.2

/-- The text that an argument puts in a place for an integer, or for any value. -/
def filling (kind : Char) (value : Value) : Except MessageError String :=
  if kind = 'd' then
    match integerOf? value with
    | some number => (Number.decimal? number).elim (.error .noText) .ok
    | none => .error (.notANumber (kindName value))
  else value.render?.elim (.error .noText) .ok

/-- A message with its places filled, from the character of number `index` on. -/
def fillFrom (index : Nat) (arguments : List Value) : List Char → Except MessageError String
  | [] => if arguments.isEmpty then .ok "" else .error .tooMany
  | ['%'] => .error .incomplete
  | '%' :: kind :: rest =>
      if kind = '%' then do
        let others ← fillFrom (index + 2) arguments rest
        return "%" ++ others
      else if kind = 's' ∨ kind = 'd' then
        match arguments with
        | [] => .error .tooFew
        | value :: arguments => do
            let text ← filling kind value
            let others ← fillFrom (index + 2) arguments rest
            return text ++ others
      else .error (.unknownPlace kind (index + 1))
  | c :: rest => do
      let others ← fillFrom (index + 1) arguments rest
      return c.toString ++ others

/-- A message with its places filled. -/
def fill (message : String) (arguments : List Value) : Except MessageError String :=
  if arguments.isEmpty then .ok message else fillFrom 0 arguments message.toList

end Message

end SearchQuery
