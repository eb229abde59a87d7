/-!
# Similar words

Two words are as similar as the characters they have in common are many.  Common characters are
counted in the longest common part, the first one of several, and then in what stands in front of
and behind it in both words.
-/

namespace SearchQuery.Text

/-- Number of characters at the beginning of both texts. -/
def commonStart : List Char → List Char → Nat
  | a :: left, b :: right => if a = b then commonStart left right + 1 else 0
  | _, _ => 0

/-- A common part of two texts. -/
structure CommonPart where
  /-- Offset in the first text. -/
  left : Nat
  /-- Offset in the second text. -/
  right : Nat
  /-- Number of characters. -/
  length : Nat

/-- The longest common part of two texts, the first one of several. -/
def longestCommon (left right : List Char) : CommonPart :=
  let places := (List.range left.length).flatMap fun i =>
    (List.range right.length).map fun j => (i, j)
  places.foldl (fun best (i, j) =>
    let length := commonStart (left.drop i) (right.drop j)
    if best.length < length then ⟨i, j, length⟩ else best) ⟨0, 0, 0⟩

/-- Number of characters that two texts have in common. -/
def commonCount (left right : List Char) : Nat → Nat
  | 0 => 0
  | fuel + 1 =>
      let part := longestCommon left right
      if part.length = 0 then 0
      else
        part.length + commonCount (left.take part.left) (right.take part.right) fuel +
          commonCount (left.drop (part.left + part.length))
            (right.drop (part.right + part.length)) fuel

/-- How similar two words are: twice the common characters, and the characters of both. -/
def similarity (left right : String) : Nat × Nat :=
  (2 * commonCount left.toList right.toList (left.length + 1), left.length + right.length)

/-- The words that have at least six tenths of their characters in common with a word, in
alphabetical order. -/
def similarWords (word : String) (words : List String) : List String :=
  (words.filter fun other =>
    let (common, all) := similarity other word
    6 * all ≤ 10 * common).mergeSort fun left right => decide (left ≤ right)

end SearchQuery.Text
