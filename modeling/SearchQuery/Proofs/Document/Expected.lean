import Mathlib.Data.List.Nodup
import SearchQuery.Proofs.Document.Rejection
import SearchQuery.Proofs.Line.Expected

/-!
# Messages of lines that cannot be read

The message of a rejected line names each token that could have stood at its error.  Whatever stands
in front of the error, these are the tokens that items begin with, to which the sign of a definition
and the end of the line are added under simple conditions.
-/

namespace SearchQuery

/-- No two tokens have the same name. -/
theorem Line.Token.label_injective : Function.Injective Token.label := by
  intro left right same
  cases left <;> cases right <;> first | rfl | simp [label] at same

namespace SourceLine

/-- The message of a line that cannot be read names tokens without repetition: the eleven that items
begin with, the end of the line if a character that is neither space nor tab stands in front of the
error, and the sign of a definition if a variable is all that stands there.  The sign comes first
and the end of the line last. -/
theorem expected_of_rejected {text : String} {line : SourceLine}
    (member : line ∈ ofText text.toList) {error : Line.SyntaxError}
    (rejected : Line.parse line.content = .error error) :
    line.node = .query line.contentSpan
        [.missing ⟨line.offset + error.offset, line.offset + line.content.length⟩
          ("Expected " ++ " or ".intercalate (error.expected.map Line.Token.label))] ∧
      (error.expected.map Line.Token.label).Nodup ∧
      (∀ token, token ∈ error.expected ↔ token ∈ Line.itemTokens ∨
        (token = .finish ∧ ∃ c ∈ line.content.take error.offset, c ≠ ' ' ∧ c ≠ '\t') ∨
        (token = .equals ∧ Line.IsLoneVariable (line.content.take error.offset))) ∧
      (.equals ∈ error.expected → error.expected.head? = some .equals) ∧
      (.finish ∈ error.expected → error.expected.getLast? = some .finish) := by
  have noBreak := (standsIn_of_mem_ofText member).isContent.not_mem
  rcases Line.line.misses_or_finds ⟨0, line.content⟩ with misses | ⟨node, next, finds⟩
  · have node_eq : line.node = (line.rejected error).shift line.offset := by
      rw [SourceLine.node, rejected]
    rw [Line.parse_of_misses misses] at rejected
    obtain rfl := Except.error.inj rejected
    refine ⟨?_, ?_, Line.mem_expected_of_misses noBreak misses⟩
    · rw [node_eq]
      simp [SourceLine.rejected, Line.SyntaxError.message, Node.shift, Span.shift, Line.spanOf,
        contentSpan, Int.add_comm]
    · exact List.Nodup.map Line.Token.label_injective (Line.SyntaxError.nodup_expected _)
  · rw [Line.parse_of_finds finds] at rejected
    cases rejected

/-- A variable in front of a no-break space, in the second line of a text. -/
theorem expected_behind_variable :
    let line : SourceLine := ⟨2, "$a\u00a0=".toList⟩
    line ∈ ofText "x\n$a\u00a0=".toList ∧ ∃ error, Line.parse line.content = .error error ∧
      error.expected.head? = some .equals ∧ .dash ∈ error.expected ∧
      error.expected.getLast? = some .finish := by
  intro line
  obtain ⟨member, none_found, offset_eq⟩ : line ∈ ofText "x\n$a\u00a0=".toList ∧
      (Line.line ⟨0, line.content⟩).found.isNone = true ∧
      (Line.SyntaxError.ofFailures (Line.line ⟨0, line.content⟩).failures).offset = 2 := by
    decide +kernel
  have rejected := Line.parse_of_misses (Option.isNone_iff_eq_none.mp none_found)
  obtain ⟨_, _, mem_iff, first, last⟩ := expected_of_rejected member rejected
  rw [offset_eq] at mem_iff
  refine ⟨member, _, rejected, first ((mem_iff .equals).mpr (Or.inr (Or.inr ⟨rfl, ?_⟩))),
    (mem_iff .dash).mpr (Or.inl (by decide)),
    last ((mem_iff .finish).mpr (Or.inr (Or.inl ⟨rfl, '$', ?_⟩)))⟩
  · exact ⟨[], 'a', [], [], by decide, by simp, by decide, by simp⟩
  · decide

end SourceLine

end SearchQuery
