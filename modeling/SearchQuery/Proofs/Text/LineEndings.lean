import Mathlib.Data.List.Induction
import SearchQuery.Proofs.Text.Position

/-!
# Line endings

A line may end with a line feed or with a carriage return and a line feed.  If all lines of a text
end in the one way and then in the other, the text has the same contents of lines, and whatever
stands behind some of its lines has the same position.
-/

namespace SearchQuery.Text

/-- The text with a carriage return in front of each line feed. -/
def withReturns (text : List Char) : List Char :=
  text.flatMap fun c => if c = '\n' then ['\r', '\n'] else [c]

theorem withReturns_append (front back : List Char) :
    withReturns (front ++ back) = withReturns front ++ withReturns back :=
  List.flatMap_append

theorem withReturns_lineFeed (rest : List Char) :
    withReturns ('\n' :: rest) = '\r' :: '\n' :: withReturns rest := rfl

theorem withReturns_cons {c : Char} (other : c ≠ '\n') (rest : List Char) :
    withReturns (c :: rest) = c :: withReturns rest := by
  simp [withReturns, other]

/-- Nothing is put into a text without line feeds. -/
theorem withReturns_of_not_mem {text : List Char} (unfed : '\n' ∉ text) :
    withReturns text = text := by
  induction text with
  | nil => rfl
  | cons c text induction =>
      rw [List.mem_cons, not_or] at unfed
      rw [withReturns_cons (Ne.symm unfed.1), induction unfed.2]

/-! ## Lines -/

theorem map_withReturns_consLine {c : Char} (other : c ≠ '\n') (lines : List (List Char)) :
    (consLine c lines).map withReturns = consLine c (lines.map withReturns) := by
  have alone : withReturns [c] = [c] := withReturns_cons other []
  cases isBreak : isLineBreak c with
  | true =>
      rw [consLine_of_isLineBreak isBreak, consLine_of_isLineBreak isBreak, List.map_cons, alone]
  | false =>
      cases lines with
      | nil =>
          rw [consLine_nil isBreak, List.map_nil, consLine_nil isBreak, List.map_singleton, alone]
      | cons line lines =>
          rw [consLine_cons isBreak, List.map_cons, List.map_cons, consLine_cons isBreak,
            withReturns_cons other]

/-- The lines of the text end differently, and are the same but for that. -/
theorem splitLines_withReturns {text : List Char} (plain : '\r' ∉ text) :
    splitLines (withReturns text) = (splitLines text).map withReturns := by
  induction text with
  | nil => rfl
  | cons c text induction =>
      rw [List.mem_cons, not_or] at plain
      obtain ⟨single, plain⟩ := plain
      rw [splitLines_cons (Ne.symm single)]
      by_cases feed : c = '\n'
      · subst feed
        rw [withReturns_lineFeed, splitLines_pair, induction plain,
          consLine_of_isLineBreak (by decide)]
        rfl
      · rw [withReturns_cons feed, splitLines_cons (Ne.symm single), induction plain,
          map_withReturns_consLine feed]

/-- A line keeps its content. -/
theorem lineContent_withReturns {text line : List Char} (member : line ∈ splitLines text) :
    lineContent (withReturns line) = lineContent line := by
  obtain ⟨isContent, ending, trimmed, line_eq⟩ := content_of_mem_splitLines member
  have ending_trimmed : ∀ c ∈ withReturns ending, isTrimmed c = true := by
    intro c c_mem
    obtain ⟨d, d_mem, c_of_d⟩ := List.mem_flatMap.mp c_mem
    split at c_of_d
    · have either : c = '\r' ∨ c = '\n' := by simpa using c_of_d
      rcases either with rfl | rfl <;> rfl
    · exact List.mem_singleton.mp c_of_d ▸ trimmed d d_mem
  have ended : withReturns line = lineContent line ++ withReturns ending := by
    conv_lhs => rw [line_eq, withReturns_append, withReturns_of_not_mem isContent.not_mem.2]
  rw [ended, lineContent_of_isContent isContent ending_trimmed]

/-! ## Positions -/

/-- The end of a text keeps its position. -/
theorem endPosition_withReturns (text : List Char) :
    endPosition (withReturns text) = endPosition text := by
  induction text using List.reverseRecOn with
  | nil => rfl
  | append_singleton text c induction =>
      rw [withReturns_append]
      by_cases feed : c = '\n'
      · subst feed
        have ending_eq : withReturns ['\n'] = ['\r'] ++ ['\n'] := rfl
        rw [ending_eq, ← List.append_assoc, endPosition_append_lineFeed,
          endPosition_append_lineFeed, endPosition_append _ (by decide), induction]
      · have unfed : '\n' ∉ [c] := by simpa using Ne.symm feed
        rw [withReturns_of_not_mem unfed, endPosition_append _ unfed, endPosition_append _ unfed,
          induction]

end SearchQuery.Text
