import SearchQuery.Number.Double

/-!
# Shortest decimal text

A double is written with the fewest digits that read back as the same double, and among those with
the digits nearest to it.  A number below 10 ^ 16 and not below 10 ^ (-4) is written positionally,
with at least one digit after the point; all others carry an exponent of at least two digits.
-/

namespace SearchQuery.Number

/-- A positive decimal `0.d₁d₂… * 10 ^ point` by its digits. -/
structure Decimal where
  /-- Significant digits, the first of them not zero. -/
  digits : List Char
  /-- Place of the point, counted from before the first digit. -/
  point : Int
  deriving DecidableEq, Repr

/-- An interval of fractions around a value, all over one denominator. -/
structure Interval where
  /-- Numerator of the lower end. -/
  lower : Nat
  /-- Numerator of the value. -/
  value : Nat
  /-- Numerator of the upper end. -/
  upper : Nat
  /-- Common denominator. -/
  denominator : Nat
  /-- Whether the ends belong to the interval. -/
  closed : Bool

namespace Interval

/-- The numbers that round to `mantissa * 2 ^ exponent`. -/
def around (mantissa : Nat) (exponent : Int) : Interval :=
  let narrow := mantissa = Nat.pow 2 52 ∧ Double.minExponent < exponent
  let shift := exponent - 2
  let up := Nat.pow 2 shift.toNat
  { lower := (4 * mantissa - if narrow then 1 else 2) * up
    value := 4 * mantissa * up
    upper := (4 * mantissa + 2) * up
    denominator := Nat.pow 2 (-shift).toNat
    closed := mantissa % 2 = 0 }

/-- Whether the fraction `num / den` lies in the interval. -/
def holds (interval : Interval) (num den : Nat) : Bool :=
  let scaled := num * interval.denominator
  if interval.closed then interval.lower * den ≤ scaled && scaled ≤ interval.upper * den
  else interval.lower * den < scaled && scaled < interval.upper * den

/-- Number of zeros between the point and the first digit of a fraction below one tenth. -/
def leadingZeros (num den : Nat) : Nat → Nat
  | 0 => 0
  | fuel + 1 => if num * 10 < den then leadingZeros (num * 10) den fuel + 1 else 0

/-- Place of the point in front of the value. -/
def point (interval : Interval) : Int :=
  if interval.denominator ≤ interval.value then
    (Nat.toDigits 10 (interval.value / interval.denominator)).length
  else -(leadingZeros interval.value interval.denominator 400 : Int)

/-- The better of the two decimals with `count` digits that are next to the value, if one of them
lies in the interval: its digits as a natural number. -/
def candidate? (interval : Interval) (count : Nat) : Option Nat :=
  let exponent := interval.point - count
  let up := Nat.pow 10 exponent.toNat
  let down := Nat.pow 10 (-exponent).toNat
  let value := interval.value * down
  let unit := interval.denominator * up
  let below := value / unit
  let inBelow := below ≠ 0 ∧ interval.holds (below * up) down
  let inAbove := interval.holds ((below + 1) * up) down
  let twice := 2 * (value % unit)
  let belowIsNearer := twice < unit ∨ (twice = unit ∧ below % 2 = 0)
  if inBelow ∧ (belowIsNearer ∨ ¬ inAbove) then some below
  else if inAbove then some (below + 1)
  else none

/-- The shortest decimal in the interval, tried with `count` digits and more. -/
def shortestFrom (interval : Interval) (count : Nat) : Nat → Decimal
  | 0 => { digits := ['0'], point := 1 }
  | fuel + 1 =>
      match interval.candidate? count with
      | some natural =>
          let digits := Nat.toDigits 10 natural
          { digits := (digits.reverse.dropWhile (· == '0')).reverse
            point := interval.point + ((digits.length : Int) - count) }
      | none => interval.shortestFrom (count + 1) fuel

end Interval

namespace Decimal

/-- The text of a decimal. -/
def render (decimal : Decimal) : List Char :=
  let count := decimal.digits.length
  if 16 < decimal.point ∨ decimal.point ≤ -4 then
    let fraction := decimal.digits.drop 1
    let exponent := decimal.point - 1
    let magnitude := Nat.toDigits 10 exponent.natAbs
    decimal.digits.take 1 ++ (if fraction.isEmpty then [] else '.' :: fraction) ++
      ['e', if exponent < 0 then '-' else '+'] ++
      (if magnitude.length < 2 then '0' :: magnitude else magnitude)
  else if decimal.point ≤ 0 then
    ['0', '.'] ++ List.replicate (-decimal.point).toNat '0' ++ decimal.digits
  else
    let whole := decimal.point.toNat
    if count ≤ whole then decimal.digits ++ List.replicate (whole - count) '0' ++ ['.', '0']
    else decimal.digits.take whole ++ '.' :: decimal.digits.drop whole

end Decimal

/-- The text of a double. -/
def Double.render : Double → String
  | .undefined => "nan"
  | .infinite negative => if negative then "-inf" else "inf"
  | .finite negative mantissa exponent =>
      let digits :=
        if mantissa = 0 then ['0', '.', '0']
        else ((Interval.around mantissa exponent).shortestFrom 1 17).render
      String.ofList (if negative then '-' :: digits else digits)

end SearchQuery.Number
