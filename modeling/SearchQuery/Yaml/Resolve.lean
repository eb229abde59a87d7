import SearchQuery.Text.Digit
import SearchQuery.Value.Basic
import SearchQuery.Yaml.Node

/-!
# Values of plain scalars

A plain scalar is a text unless it has the form of something else: a truth value, nothing, an
integer in one of several notations, a number with a point, a day or a moment.  The forms are those
of the 1.1 version of the format.
-/

namespace SearchQuery.Yaml

/-- The words that stand for a truth value. -/
def truthWords : List (String × Bool) :=
  [("yes", true), ("Yes", true), ("YES", true), ("no", false), ("No", false), ("NO", false),
   ("true", true), ("True", true), ("TRUE", true), ("false", false), ("False", false),
   ("FALSE", false), ("on", true), ("On", true), ("ON", true), ("off", false), ("Off", false),
   ("OFF", false)]

/-- The words that stand for no value. -/
def nullWords : List String := ["", "~", "null", "Null", "NULL"]

/-- A text without a sign in front, and whether that sign was a minus. -/
def takeSign : List Char → Bool × List Char
  | '-' :: rest => (true, rest)
  | '+' :: rest => (false, rest)
  | rest => (false, rest)

/-- The value of digits in a base, if they are not empty. -/
def digitsValue? (base : Nat) (digits : List Char) : Option Nat :=
  if digits.isEmpty then none
  else digits.foldlM (fun value c =>
    (hexDigit? c).bind fun digit => if digit < base then some (base * value + digit) else none) 0

/-- Whether a character is a decimal digit or the low line between digits. -/
def isSpaced (c : Char) : Bool := c.isDigit || c == '_'

/-- A text without low lines. -/
def withoutSpacing (text : List Char) : List Char := text.filter (· != '_')

/-- A text cut at every occurrence of a character. -/
def splitAt (separator : Char) : List Char → List (List Char)
  | [] => [[]]
  | c :: rest =>
      if c = separator then [] :: splitAt separator rest
      else
        match splitAt separator rest with
        | [] => [[c]]
        | part :: parts => (c :: part) :: parts

/-- Whether a text is a number below sixty with one or two digits. -/
def isSixtieth : List Char → Bool
  | [c] => c.isDigit
  | [c, d] => '0' ≤ c && c ≤ '5' && d.isDigit
  | _ => false

/-- The value of parts to the base sixty. -/
def sixtieths (parts : List Nat) : Nat := parts.foldl (fun value part => 60 * value + part) 0

/-- An integer in decimal digits, of which it has no more than can be read. -/
def decimal? (digits : List Char) : Option (Except ScalarError Nat) :=
  (digitsValue? 10 digits).map fun value =>
    if digits.length ≤ Number.maxDigits then .ok value else .error (.tooManyDigits digits.length)

/-- An integer in groups to the base sixty, the first of which begins with none of `leading`. -/
def sexagesimal? (text : List Char) : Option (Except ScalarError Nat) :=
  match splitAt ':' text with
  | first :: second :: others =>
      if first.all isSpaced && first.head?.any (fun c => c.isDigit && c != '0') &&
          (second :: others).all isSixtieth then do
        let leading ← decimal? (withoutSpacing first)
        let parts ← (second :: others).mapM (digitsValue? 10)
        return leading.map fun leading => sixtieths (leading :: parts)
      else none
  | _ => none

/-- An integer behind the mark of its base, which takes low lines for digits but gives them no
value. -/
def marked? (base : Nat) (digits : List Char) : Option (Except ScalarError Nat) :=
  if digits.isEmpty then none
  else
    match withoutSpacing digits with
    | [] => some (.error (.noDigits base))
    | digits => (digitsValue? base digits).map .ok

/-- An integer without its sign. -/
def natural? (text : List Char) : Option (Except ScalarError Nat) :=
  match text with
  | ['0'] => some (.ok 0)
  | '0' :: 'b' :: digits => marked? 2 digits
  | '0' :: 'x' :: digits => marked? 16 digits
  | '0' :: digits => (digitsValue? 8 ('0' :: withoutSpacing digits)).map .ok
  | text =>
      if text.all isSpaced && text.head?.any Char.isDigit then decimal? (withoutSpacing text)
      else sexagesimal? text

/-- A scalar as an integer. -/
def integer? (text : List Char) : Option (Except ScalarError Int) :=
  let (negative, digits) := takeSign text
  (natural? digits).map fun value =>
    value.map fun value => if negative then -(value : Int) else value

/-- The exponent at the end of a number with a point, absent if there is none. -/
def exponent? : List Char → Option Int
  | [] => some 0
  | e :: sign :: digits =>
      if (e == 'e' || e == 'E') && (sign == '-' || sign == '+') then
        (digitsValue? 10 digits).map fun value => if sign == '-' then -(value : Int) else value
      else none
  | _ => none

/-- A number with a point, by the digits around the point and what follows them. -/
def pointed? (negative : Bool) (whole rest : List Char) : Option Number.Double := do
  let fraction := withoutSpacing (rest.takeWhile isSpaced)
  let exponent ← exponent? (rest.dropWhile isSpaced)
  let digits ← digitsValue? 10 (withoutSpacing whole ++ fraction)
  return .ofDecimal negative digits (exponent - fraction.length)

/-- A number with whole groups to the base sixty added to it, the lowest group first.  Each sum is
rounded. -/
def addSixties (number : Number.Double) (unit : Nat) : List Nat → Number.Double
  | [] => number
  | group :: groups => addSixties (number.addNatural (group * unit)) (60 * unit) groups

/-- Whether whole groups to the base sixty and their units are exact doubles. -/
def areExactSixties (unit : Nat) : List Nat → Bool
  | [] => true
  | group :: groups => (group + 1) * unit ≤ Nat.pow 2 53 && areExactSixties (60 * unit) groups

/-- A number with a point in groups to the base sixty. -/
def pointedSexagesimal? (negative : Bool) (text : List Char) :
    Option (Except Problem Number.Double) := do
  let whole := text.takeWhile (· != '.')
  match text.dropWhile (· != '.'), splitAt ':' whole with
  | '.' :: fraction, first :: second :: others =>
      if first.all isSpaced && first.head?.any Char.isDigit &&
          (second :: others).all isSixtieth && fraction.all isSpaced then do
        let groups ← (withoutSpacing first :: second :: others).mapM (digitsValue? 10)
        let lowest ← pointed? false ((second :: others).getLastD []) fraction
        let others := groups.reverse.drop 1
        let number := addSixties lowest 60 others
        return if areExactSixties 60 others then .ok (if negative then number.negated else number)
          else .error .uncovered
      else none
  | _, _ => none

/-- A scalar as a number with a point. -/
def double? (text : List Char) : Option (Except Problem Number.Double) :=
  let (negative, body) := takeSign text
  let word := String.ofList body
  if word = ".inf" ∨ word = ".Inf" ∨ word = ".INF" then some (.ok (.infinite negative))
  else if String.ofList text ∈ [".nan", ".NaN", ".NAN"] then some (.ok .undefined)
  else
    match body with
    | '.' :: rest =>
        if text.head? = some '.' ∧ rest.head?.any Char.isDigit then
          (pointed? negative [] rest).map .ok
        else none
    | _ =>
        let whole := body.takeWhile isSpaced
        match body.dropWhile isSpaced with
        | '.' :: rest =>
            if whole.head?.any Char.isDigit then (pointed? negative whole rest).map .ok else none
        | _ => pointedSexagesimal? negative body

/-- Reads from `least` up to `most` decimal digits of ASCII. -/
def takeDigits? (least most : Nat) (text : List Char) : Option (Nat × List Char) :=
  let digits := (text.take most).takeWhile Char.isDigit
  if digits.length < least then none
  else (digitsValue? 10 digits).map (·, text.drop digits.length)

/-- Reads one given character. -/
def takeChar? (c : Char) : List Char → Option (List Char)
  | head :: rest => if head = c then some rest else none
  | [] => none

/-- The parts of a day. -/
def dateParts? (least : Nat) (text : List Char) : Option (CalendarDate × List Char) := do
  let (year, text) ← takeDigits? 4 4 text
  let text ← takeChar? '-' text
  let (month, text) ← takeDigits? least 2 text
  let text ← takeChar? '-' text
  let (day, text) ← takeDigits? least 2 text
  return (⟨year, month, day⟩, text)

/-- What separates a day and a time: the letter T, or spaces. -/
def takeTimeMark? : List Char → Option (List Char)
  | [] => none
  | c :: rest =>
      if c = 'T' ∨ c = 't' then some rest
      else if isSpace c then some (rest.dropWhile isSpace)
      else none

/-- The zone at the end of a moment, in minutes. -/
def zone? (text : List Char) : Option (Option Int) :=
  match text.dropWhile isSpace with
  | [] => if text.isEmpty then some none else none
  | ['Z'] => some (some 0)
  | sign :: rest =>
      if sign = '-' ∨ sign = '+' then do
        let (hours, rest) ← takeDigits? 1 2 rest
        let minutes ← match rest with
          | [] => some 0
          | ':' :: rest => do
              let (minutes, rest) ← takeDigits? 2 2 rest
              if rest.isEmpty then some minutes else none
          | _ => none
        let total : Int := 60 * hours + minutes
        return some (if sign = '-' then -total else total)
      else none

/-- The fraction of a second, in millionths, and what follows it. -/
def takeMicroseconds : List Char → Nat × List Char
  | '.' :: rest =>
      let digits := (rest.takeWhile Char.isDigit).take 6
      (((digitsValue? 10 digits).getD 0) * Nat.pow 10 (6 - digits.length),
        rest.dropWhile Char.isDigit)
  | rest => (0, rest)

/-- The parts of a time. -/
def timeParts? (text : List Char) : Option ClockTime := do
  let (hour, text) ← takeDigits? 1 2 text
  let text ← takeChar? ':' text
  let (minute, text) ← takeDigits? 2 2 text
  let text ← takeChar? ':' text
  let (second, text) ← takeDigits? 2 2 text
  let (microsecond, text) := takeMicroseconds text
  let zone ← zone? text
  return { hour, minute, second, microsecond, zone }

/-- Whether a year has a day more than others. -/
def isLeap (year : Nat) : Bool := year % 4 == 0 && (year % 100 != 0 || year % 400 == 0)

/-- Number of days of a month. -/
def monthLength (year month : Nat) : Nat :=
  if month = 2 then if isLeap year then 29 else 28
  else if month ∈ [4, 6, 9, 11] then 30 else 31

/-- Refuses a day that is not in the calendar. -/
def checkDate (day : CalendarDate) : Except ScalarError Unit :=
  if day.year = 0 then .error .badYear
  else if day.month = 0 ∨ 12 < day.month then .error .badMonth
  else if day.day = 0 ∨ monthLength day.year day.month < day.day then .error .badDay
  else .ok ()

/-- Refuses a time that no clock shows. -/
def checkTime (time : ClockTime) : Except ScalarError Unit :=
  if 23 < time.hour then .error .badHour
  else if 59 < time.minute then .error .badMinute
  else if 59 < time.second then .error .badSecond
  else .ok ()

/-- Refuses a zone that is a day or more ahead or behind. -/
def checkZone (time : ClockTime) : Except ScalarError Unit :=
  match time.zone with
  | none => .ok ()
  | some minutes => if minutes.natAbs < 1440 then .ok () else .error (.badZone minutes)

/-- A scalar as a day or a moment. -/
def calendar? (text : List Char) : Option (Except ScalarError Value) :=
  match dateParts? 2 text with
  | some (day, []) => some ((checkDate day).map fun _ => .date day)
  | _ => do
      let (day, rest) ← dateParts? 1 text
      let rest ← takeTimeMark? rest
      let time ← timeParts? rest
      return do
        checkZone time
        checkDate day
        checkTime time
        return .moment day time

/-- The value of a plain scalar. -/
def resolve (text : String) : Except Problem Value :=
  let chars := text.toList
  if text ∈ nullWords then .ok .null
  else if text = "=" ∨ text = "<<" then .error .malformed
  else
    match truthWords.lookup text, double? chars, integer? chars, calendar? chars with
    | some value, _, _, _ => .ok (.bool value)
    | none, some value, _, _ => value.map .double
    | none, none, some value, _ => (value.map .int).mapError .badScalar
    | none, none, none, some value => value.mapError .badScalar
    | none, none, none, none => .ok (.text text)

end SearchQuery.Yaml
