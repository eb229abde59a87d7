import SearchQuery.Number.Decimal

/-!
# Problems of a YAML text

A text that does not follow the rules of the format is malformed.  One that does may still hold a
scalar that has the form of a number, a day or a moment but no value.  A part of the format only is
read: a text with directives, anchors, aliases, tags, block scalars or merged mappings, with escapes
for what is no character, or with numbers to the base sixty that are not exact, is not covered.
-/

namespace SearchQuery.Yaml

/-- Why a scalar that has the form of a number, a day or a moment has no value. -/
inductive ScalarError where
  /-- There is no such year. -/
  | badYear
  /-- There is no such month. -/
  | badMonth
  /-- The month has no such day. -/
  | badDay
  /-- There is no such hour. -/
  | badHour
  /-- There is no such minute. -/
  | badMinute
  /-- There is no such second. -/
  | badSecond
  /-- The zone is a day or more ahead or behind, by some minutes. -/
  | badZone (minutes : Int)
  /-- The integer has a base but no digits. -/
  | noDigits (base : Nat)
  /-- The integer has too many decimal digits. -/
  | tooManyDigits (count : Nat)
  deriving DecidableEq, Repr, Inhabited

namespace ScalarError

/-- A number of minutes by its whole days and the seconds after them. -/
def span (minutes : Int) : String :=
  let days := minutes / 1440
  let seconds := minutes % 1440 * 60
  "datetime.timedelta(days=" ++ toString days ++
    (if seconds = 0 then "" else ", seconds=" ++ toString seconds) ++ ")"

/-- The message of an error. -/
def message : ScalarError → String
  | .badYear => "year 0 is out of range"
  | .badMonth => "month must be in 1..12"
  | .badDay => "day is out of range for month"
  | .badHour => "hour must be in 0..23"
  | .badMinute => "minute must be in 0..59"
  | .badSecond => "second must be in 0..59"
  | .badZone minutes =>
      "offset must be a timedelta strictly between -timedelta(hours=24) and " ++
        "timedelta(hours=24), not " ++ span minutes ++ "."
  | .noDigits base => "invalid literal for int() with base " ++ toString base ++ ": ''"
  | .tooManyDigits count => Number.tooManyDigits (": value has " ++ toString count ++ " digits")

end ScalarError

/-- Why a text gives no value. -/
inductive Problem where
  /-- The text does not follow the rules of the format. -/
  | malformed
  /-- A scalar has no value. -/
  | badScalar (error : ScalarError)
  /-- The text goes beyond the part of the format that is read, and nothing is said of it. -/
  | uncovered
  deriving DecidableEq, Repr, Inhabited

/-- What is there, in a text that is malformed without it. -/
def orMalformed {α : Type} : Option α → Except Problem α
  | some result => .ok result
  | none => .error .malformed

end SearchQuery.Yaml
