/-!
# Slices

The part of a text between two offsets.  A negative offset counts from the end of the text, and an
offset outside the text is moved to its nearest end, so that every pair of offsets gives a slice.
-/

namespace SearchQuery.Text

/-- The number of characters in front of an offset, or more than the text has if the offset lies
behind its end. -/
def charsBefore (text : List Char) (offset : Int) : Nat :=
  if 0 ≤ offset then offset.toNat else (text.length + offset).toNat

/-- The characters from `start` up to, but not including, `stop`. -/
def slice (text : List Char) (start stop : Int) : List Char :=
  let front := charsBefore text start
  (text.drop front).take (charsBefore text stop - front)

end SearchQuery.Text
