import SearchQuery.Console.Width
import SearchQuery.Text.Blank

/-!
# Wrapping

A line that is too long for the console is cut in front of words.  A word keeps the blanks behind
it, which do not count when it is asked whether the word fits; a word that is too long for any line
is cut into pieces.  Blanks at the end of a line that is too long are taken away.
-/

namespace SearchQuery.Console

/-- Number of columns of the console. -/
def columns : Nat := 80

/-- The words of a text, each with the blanks around it that belong to no word before. -/
def words (text : List Char) : Nat → List (List Char)
  | 0 => []
  | fuel + 1 =>
      let lead := text.takeWhile Text.isBlank
      let rest := text.dropWhile Text.isBlank
      if rest.isEmpty then []
      else
        let body := rest.takeWhile (!Text.isBlank ·)
        let rest := rest.dropWhile (!Text.isBlank ·)
        let tail := rest.takeWhile Text.isBlank
        (lead ++ body ++ tail) :: words (rest.dropWhile Text.isBlank) fuel

/-- Cuts a text into pieces that take at most `limit` columns, where `used` columns of the first
piece are taken. -/
def chop (limit used : Nat) : List Char → List (List Char)
  | [] => [[]]
  | c :: rest =>
      let taken := used + charWidth c
      if limit < taken then
        match chop limit (charWidth c) rest with
        | [] => [[], [c]]
        | piece :: pieces => [] :: (c :: piece) :: pieces
      else
        match chop limit taken rest with
        | [] => [[c]]
        | piece :: pieces => (c :: piece) :: pieces

/-- Places words in lines: `line` is the line that is being filled and takes `used` columns. -/
def fill (limit : Nat) (line : List Char) (used : Nat) : List (List Char) → List (List Char)
  | [] => [line]
  | word :: words =>
      let needed := width (Text.trimRight word)
      if used + needed ≤ limit then fill limit (line ++ word) (used + width word) words
      else if limit < needed then
        let pieces := chop limit 0 word
        let last := pieces.getLastD []
        let before := (if line.isEmpty then [] else [line]) ++ pieces.dropLast
        before ++ fill limit last (width last) words
      else if used ≠ 0 ∧ ¬ line.isEmpty then line :: fill limit word (width word) words
      else fill limit (line ++ word) used words

/-- A line without blanks at its end that go beyond the limit. -/
def trimEnd (limit : Nat) (line : List Char) : List Char :=
  let blanks := (line.reverse.takeWhile Text.isBlank).length
  crop limit (line.take (line.length - min blanks (line.length - limit)))

/-- The lines into which a line is cut. -/
def wrap (limit : Nat) (line : List Char) : List (List Char) :=
  let filled := fill limit [] 0 (words line (line.length + 1))
  if (words line (line.length + 1)).isEmpty then [trimEnd limit line]
  else filled.map (trimEnd limit)

/-- A line in which spaces stand for tabs, up to the next multiple of eight columns. -/
def expandTabs (column : Nat) : List Char → List Char
  | [] => []
  | c :: rest =>
      if c = '\t' then
        let spaces := 8 - column % 8
        List.replicate spaces ' ' ++ expandTabs (column + spaces) rest
      else c :: expandTabs (column + charWidth c) rest

end SearchQuery.Console
