/-!
# Decimal integers

Integers are read and written in decimal digits only up to a number of digits.  A longer integer is
a value like any other, but it has no text.
-/

namespace SearchQuery.Number

/-- The greatest number of digits with which an integer is read or written. -/
def maxDigits : Nat := 4300

/-- An integer in decimal digits, unless they are too many. -/
def decimal? (value : Int) : Option String :=
  if (Nat.toDigits 10 value.natAbs).length ≤ maxDigits then some (toString value) else none

/-- The message on an integer that has too many digits. -/
def tooManyDigits (detail : String) : String :=
  "Exceeds the limit (" ++ toString maxDigits ++ " digits) for integer string conversion" ++
    detail ++ "; use sys.set_int_max_str_digits() to increase the limit"

end SearchQuery.Number
