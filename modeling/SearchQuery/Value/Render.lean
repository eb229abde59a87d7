import SearchQuery.Number.Decimal
import SearchQuery.Number.Shortest
import SearchQuery.Text.Quoted
import SearchQuery.Value.Basic

/-!
# Texts of values

A value has two texts.  Standing alone a text is itself and a day is written `2020-01-31`; inside a
sequence or mapping a text is quoted and a day names its parts, so that the kinds of the members
can be told apart.

An integer with too many digits has no text, and neither has a sequence or mapping in which it
stands.
-/

namespace SearchQuery

/-- A natural number with at least `width` digits. -/
def padded (width n : Nat) : String :=
  let digits := Nat.toDigits 10 n
  String.ofList (List.replicate (width - digits.length) '0' ++ digits)

namespace CalendarDate

/-- A day with its year first. -/
def render (day : CalendarDate) : String :=
  padded 4 day.year ++ "-" ++ padded 2 day.month ++ "-" ++ padded 2 day.day

end CalendarDate

namespace ClockTime

/-- A zone's offset in hours and minutes. -/
def renderZone (minutes : Int) : String :=
  (if minutes < 0 then "-" else "+") ++ padded 2 (minutes.natAbs / 60) ++ ":" ++
    padded 2 (minutes.natAbs % 60)

/-- A time of day, with a fraction and a zone where it has them. -/
def render (time : ClockTime) : String :=
  padded 2 time.hour ++ ":" ++ padded 2 time.minute ++ ":" ++ padded 2 time.second ++
    (if time.microsecond = 0 then "" else "." ++ padded 6 time.microsecond) ++
    (match time.zone with
      | none => ""
      | some minutes => renderZone minutes)

/-- A zone as a member of a sequence. -/
def showZone (minutes : Int) : String :=
  if minutes = 0 then "datetime.timezone.utc"
  else
    let ofDay := minutes % 1440
    let parts := (if minutes < 0 then ["days=-1"] else []) ++ ["seconds=" ++ toString (ofDay * 60)]
    "datetime.timezone(datetime.timedelta(" ++ ", ".intercalate parts ++ "))"

end ClockTime

namespace Value

/-- A day's parts as a member of a sequence shows them. -/
def dateParts (day : CalendarDate) : List String :=
  [toString day.year, toString day.month, toString day.day]

/-- A time's parts as a member of a sequence shows them. -/
def timeParts (time : ClockTime) : List String :=
  [toString time.hour, toString time.minute] ++
    (if time.second = 0 ∧ time.microsecond = 0 then [] else [toString time.second]) ++
    (if time.microsecond = 0 then [] else [toString time.microsecond]) ++
    (match time.zone with
      | none => []
      | some minutes => ["tzinfo=" ++ ClockTime.showZone minutes])

mutual

/-- A value as a member of a sequence or mapping. -/
def shown? : Value → Option String
  | .null => some "None"
  | .bool value => some (if value then "True" else "False")
  | .int value => Number.decimal? value
  | .double value => some value.render
  | .text value => some (Text.quoted value)
  | .date day => some ("datetime.date(" ++ ", ".intercalate (dateParts day) ++ ")")
  | .moment day time =>
      some ("datetime.datetime(" ++ ", ".intercalate (dateParts day ++ timeParts time) ++ ")")
  | .list items => do
      let texts ← shownItems? items
      return "[" ++ ", ".intercalate texts ++ "]"
  | .map entries => do
      let texts ← shownEntries? entries
      return "\x7b" ++ ", ".intercalate texts ++ "\x7d"

/-- The members of a sequence, each as it is shown. -/
def shownItems? : List Value → Option (List String)
  | [] => some []
  | item :: items => do
      let text ← shown? item
      let texts ← shownItems? items
      return text :: texts

/-- The entries of a mapping, each as it is shown. -/
def shownEntries? : List (Value × Value) → Option (List String)
  | [] => some []
  | (key, value) :: entries => do
      let keyText ← shown? key
      let valueText ← shown? value
      let texts ← shownEntries? entries
      return (keyText ++ ": " ++ valueText) :: texts

end

/-- A value standing alone. -/
def render? : Value → Option String
  | .text value => some value
  | .date day => some day.render
  | .moment day time => some (day.render ++ " " ++ time.render)
  | value => value.shown?

end Value

end SearchQuery
