/-!
# Floating-point numbers

Binary floating-point numbers with 53 significant bits, kept as exact data so that reading and
writing them is integer arithmetic.  `Double.ofRatio` rounds a fraction to the nearest such number,
a tie going to the even mantissa.
-/

namespace SearchQuery.Number

/-- A binary floating-point number of double precision. -/
inductive Double where
  /-- The number `mantissa * 2 ^ exponent`, with its sign. -/
  | finite (negative : Bool) (mantissa : Nat) (exponent : Int)
  /-- An infinity. -/
  | infinite (negative : Bool)
  /-- The result that is no number. -/
  | undefined
  deriving DecidableEq, Repr, Inhabited

namespace Double

/-- Least exponent of a double. -/
def minExponent : Int := -1074

/-- Greatest exponent of a double. -/
def maxExponent : Int := 971

/-- The fraction `num / den` divided by `2 ^ exponent`, as a pair of naturals. -/
def scaled (num den : Nat) (exponent : Int) : Nat × Nat :=
  (num * Nat.pow 2 (-exponent).toNat, den * Nat.pow 2 exponent.toNat)

/-- The nearest natural to a fraction; a half goes to the even neighbour. -/
def roundHalfEven (num den : Nat) : Nat :=
  let quotient := num / den
  let twice := 2 * (num % den)
  if twice < den then quotient
  else if den < twice then quotient + 1
  else quotient + quotient % 2

/-- The exponent that gives a positive fraction 53 significant bits, or the least exponent. -/
def exponentOf (num den : Nat) : Int :=
  let guess : Int := (Nat.log2 num : Int) - (Nat.log2 den : Int) - 52
  let (top, bottom) := scaled num den guess
  max minExponent (if top / bottom < Nat.pow 2 52 then guess - 1 else guess)

/-- The double nearest to the fraction `num / den`. -/
def ofRatio (negative : Bool) (num den : Nat) : Double :=
  if num = 0 then .finite negative 0 minExponent
  else
    let exponent := exponentOf num den
    let (top, bottom) := scaled num den exponent
    let mantissa := roundHalfEven top bottom
    let (mantissa, exponent) :=
      if mantissa = Nat.pow 2 53 then (Nat.pow 2 52, exponent + 1) else (mantissa, exponent)
    if maxExponent < exponent then .infinite negative else .finite negative mantissa exponent

/-- Decimal exponents beyond this bound overflow, or vanish, whatever digits they scale. -/
def decimalBound : Int := 5000

/-- The double nearest to `digits * 10 ^ exponent`. -/
def ofDecimal (negative : Bool) (digits : Nat) (exponent : Int) : Double :=
  if digits = 0 then .finite negative 0 minExponent
  else
    let magnitude : Int := (Nat.toDigits 10 digits).length + exponent
    if decimalBound < magnitude then .infinite negative
    else if magnitude < -decimalBound then .finite negative 0 minExponent
    else ofRatio negative (digits * Nat.pow 10 exponent.toNat) (Nat.pow 10 (-exponent).toNat)

/-- The value of a finite double as a fraction with a positive denominator. -/
def ratio? : Double → Option (Int × Nat)
  | .finite negative mantissa exponent =>
      let top : Int := (mantissa * Nat.pow 2 exponent.toNat : Nat)
      some (if negative then -top else top, Nat.pow 2 (-exponent).toNat)
  | .infinite _ => none
  | .undefined => none

/-- The double with the other sign. -/
def negated : Double → Double
  | .finite negative mantissa exponent => .finite (!negative) mantissa exponent
  | .infinite negative => .infinite (!negative)
  | .undefined => .undefined

/-- The double nearest to the sum of a positive double and a natural number. -/
def addNatural (number : Double) (n : Nat) : Double :=
  match number.ratio? with
  | some (top, bottom) => ofRatio false (top.toNat + n * bottom) bottom
  | none => number

end Double

end SearchQuery.Number
