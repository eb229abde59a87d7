import SearchQuery.Number.Double

/-!
# Plain values

The values of a data format: what a catalog file holds, and what can stand in a tree in place of a
node.
-/

namespace SearchQuery

/-- A day of the calendar. -/
structure CalendarDate where
  /-- Year, with four digits. -/
  year : Nat
  /-- Month, from one. -/
  month : Nat
  /-- Day of the month, from one. -/
  day : Nat
  deriving DecidableEq, Repr, Inhabited

/-- A time of day, with the offset of its zone if one is given. -/
structure ClockTime where
  /-- Hour, up to 23. -/
  hour : Nat
  /-- Minute, up to 59. -/
  minute : Nat
  /-- Second, up to 59. -/
  second : Nat
  /-- Millionths of a second. -/
  microsecond : Nat
  /-- Minutes by which the zone is ahead of universal time. -/
  zone : Option Int
  deriving DecidableEq, Repr, Inhabited

namespace CalendarDate

/-- Days from a fixed day up to this one, by the Gregorian calendar. -/
def dayNumber (day : CalendarDate) : Int :=
  let shifted : Int := if day.month ≤ 2 then (day.year : Int) - 1 else day.year
  let era := shifted / 400
  let yearOfEra := shifted % 400
  let monthFromMarch : Int := ((day.month : Int) + 9) % 12
  let dayOfYear := (153 * monthFromMarch + 2) / 5 + (day.day : Int) - 1
  era * 146097 + (yearOfEra * 365 + yearOfEra / 4 - yearOfEra / 100 + dayOfYear)

end CalendarDate

/-- A plain value. -/
inductive Value where
  /-- No value. -/
  | null
  /-- A truth value. -/
  | bool (value : Bool)
  /-- An integer. -/
  | int (value : Int)
  /-- A floating-point number. -/
  | double (value : Number.Double)
  /-- A text. -/
  | text (value : String)
  /-- A day. -/
  | date (value : CalendarDate)
  /-- A time on a day. -/
  | moment (day : CalendarDate) (time : ClockTime)
  /-- A sequence of values. -/
  | list (items : List Value)
  /-- Keys and their values, in order. -/
  | map (entries : List (Value × Value))
  deriving Repr, Inhabited

namespace Value

/-- The value of a number or truth value as a fraction with a positive denominator. -/
def ratio? : Value → Option (Int × Nat)
  | .bool value => some (if value then 1 else 0, 1)
  | .int value => some (value, 1)
  | .double value => value.ratio?
  | _ => none

/-- Millionths of a second from a fixed midnight up to a time on a day. -/
def instant (day : CalendarDate) (time : ClockTime) : Int :=
  let minutes := day.dayNumber * 1440 + (time.hour * 60 + time.minute : Nat) -
    time.zone.getD 0
  (minutes * 60 + time.second) * 1000000 + time.microsecond

/-- Whether two values are one key of a mapping.  Numbers and truth values are compared as
numbers, moments as instants; sequences and mappings are no keys. -/
def sameKey (left right : Value) : Bool :=
  match left, right with
  | .null, .null => true
  | .text left, .text right => left == right
  | .date left, .date right => left == right
  | .moment day time, .moment day' time' =>
      time.zone.isSome == time'.zone.isSome && instant day time == instant day' time'
  | .double (.infinite left), .double (.infinite right) => left == right
  | left, right =>
      match left.ratio?, right.ratio? with
      | some (top, bottom), some (top', bottom') => top * bottom' == top' * bottom
      | _, _ => false

/-- The entries with one more.  The value of a key that is there already is replaced where it
stands. -/
def insertEntry (entries : List (Value × Value)) (key value : Value) : List (Value × Value) :=
  match entries with
  | [] => [(key, value)]
  | entry :: rest =>
      if entry.1.sameKey key then (entry.1, value) :: rest
      else entry :: insertEntry rest key value

/-- The value of a text key in a mapping. -/
def lookup? (entries : List (Value × Value)) (key : String) : Option Value :=
  (entries.find? fun entry => entry.1.sameKey (.text key)).map (·.2)

end Value

end SearchQuery
