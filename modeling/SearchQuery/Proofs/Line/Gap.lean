import SearchQuery.Document
import SearchQuery.Proofs.Line.Correspondence
import SearchQuery.Proofs.Line.Locality

/-!
# Gaps between words

How wide the gap between two words is, and whether it is made of spaces or tabs, does not matter
for the tree of a line, and neither does a gap at an end of the line.  A line that cannot be read
has the same error with another gap, at the corresponding place.
-/

namespace SearchQuery

namespace Line

open Text (isBlank isGap)
open Reader

/-- A line in which a run of spaces and tabs is replaced by another one.  The run is not in quotes,
and stands at an end of the line if one of the two is empty. -/
structure GapChange where
  /-- The part of the line in front of the run. -/
  front : List Char
  /-- The run. -/
  gap : List Char
  /-- The run that replaces it. -/
  gap' : List Char
  /-- The part of the line behind the run. -/
  back : List Char
  /-- The runs are made of spaces and tabs. -/
  spaces : ∀ c ∈ gap ++ gap', c = ' ' ∨ c = '\t'
  /-- All quotes in front of the run are closed. -/
  closed : front.count '"' % 2 = 0
  /-- What stands on both sides of the run is still apart. -/
  apart : gap ≠ [] ∧ gap' ≠ [] ∨ front = [] ∨ back = []

namespace GapChange

variable (change : GapChange)

/-- The line before the change. -/
def content : List Char := change.front ++ change.gap ++ change.back

/-- The line after the change. -/
def content' : List Char := change.front ++ change.gap' ++ change.back

/-- Offsets that stand at the same character of the line before and after the change, or at its
end. -/
inductive SamePlace : Nat → Nat → Prop
  | ahead {offset : Nat} (before : offset < change.front.length) : SamePlace offset offset
  | behind (distance : Nat) : SamePlace (change.front.length + change.gap.length + distance)
      (change.front.length + change.gap'.length + distance)

/-- Places from which the same is read.  Those in front of the gap stand outside of quotes. -/
inductive SameRest : Cursor → Cursor → Prop
  | ahead {offset : Nat} {text : List Char} (stands : offset + text.length = change.front.length)
      (closed : text.count '"' % 2 = 0) :
      SameRest ⟨offset, text ++ (change.gap ++ change.back)⟩
        ⟨offset, text ++ (change.gap' ++ change.back)⟩
  | behind (distance : Nat) (rest : List Char) :
      SameRest ⟨change.front.length + change.gap.length + distance, rest⟩
        ⟨change.front.length + change.gap'.length + distance, rest⟩

/-- The places of the line before and after the change that answer each other. -/
def places : Correspondence := ⟨change.SameRest, change.SamePlace⟩

variable {change}

theorem SamePlace.lt_iff {left left' right right' : Nat} (lefts : change.SamePlace left left')
    (rights : change.SamePlace right right') : left < right ↔ left' < right' := by
  cases lefts <;> cases rights <;> omega

theorem isGap_of_mem {c : Char} (member : c ∈ change.gap ++ change.gap') : isGap c = true := by
  rcases change.spaces c member with rfl | rfl <;> rfl

/-- A word in front of the run ends there, before and after the change. -/
theorem endsWord_behind_front (nonempty : change.front ≠ []) :
    endsWord (change.gap ++ change.back) = true ∧ endsWord (change.gap' ++ change.back) = true := by
  have ends {run : List Char} (subset : run ⊆ change.gap ++ change.gap')
      (apart : run ≠ [] ∨ change.back = []) : endsWord (run ++ change.back) = true := by
    cases run with
    | nil => simp [apart.resolve_left (by simp), endsWord]
    | cons c run => exact Text.isBlank_of_isGap (isGap_of_mem (subset List.mem_cons_self))
  have apart := change.apart
  exact ⟨ends (List.subset_append_left _ _) (by tauto),
    ends (List.subset_append_right _ _) (by tauto)⟩

/-- Behind the gap, a token is looked for in the same text. -/
theorem readings_behind (kind : Token) (distance : Nat) (rest : List Char) :
    change.places.Readings Lexeme.chars
      (token kind ⟨change.front.length + change.gap.length + distance, rest⟩)
      (token kind ⟨change.front.length + change.gap'.length + distance, rest⟩) := by
  have place (start : Nat) : (Cursor.mk (start + distance) rest).skipGap =
      ⟨start + (distance + (rest.takeWhile isGap).length), rest.dropWhile isGap⟩ := by
    rw [Cursor.skipGap, Nat.add_assoc]
  apply Correspondence.readings_token
  · rw [place, place]
    exact .behind _
  · rw [place, place]
    cases kind.take? (rest.dropWhile isGap) with
    | none => exact .none
    | some split =>
        simp only [Nat.add_assoc _ (distance + _)]
        exact .some ⟨rfl, .behind _ _⟩

/-- In front of the gap, a token is looked for in the text up to the gap. -/
theorem readings_ahead (kind : Token) {offset : Nat} {c : Char} {text : List Char}
    (stands : offset + (c :: text).length = change.front.length)
    (closed : (c :: text).count '"' % 2 = 0) (noGap : isGap c = false) :
    change.places.Readings Lexeme.chars
      (token kind ⟨offset, c :: text ++ (change.gap ++ change.back)⟩)
      (token kind ⟨offset, c :: text ++ (change.gap' ++ change.back)⟩) := by
  have nonempty : change.front ≠ [] := by
    rintro empty
    simp [empty] at stands
  obtain ⟨ends, ends'⟩ := endsWord_behind_front nonempty
  have stays (after : List Char) :
      (Cursor.mk offset (c :: text ++ after)).skipGap = ⟨offset, c :: text ++ after⟩ :=
    Cursor.skipGap_of_not_isGap (by simpa using noGap)
  apply Correspondence.readings_token
  · rw [stays, stays]
    have before : offset < change.front.length := by
      rw [List.length_cons] at stands
      omega
    exact .ahead before
  · rw [stays, stays]
    by_cases atEnd : kind = .finish
    · subst atEnd
      simp only [Token.take?, List.cons_append, List.isEmpty_cons, Bool.false_eq_true, if_false]
      exact .none
    · rw [Token.take?_closed closed ends atEnd, Token.take?_closed closed ends' atEnd]
      cases taken : kind.take? (c :: text) with
      | none => exact .none
      | some split =>
          have takes := Token.takes_of_take? taken atEnd
          have split_eq := takes.split
          have lengths := congrArg List.length split_eq
          rw [List.length_append] at lengths
          have next_stands : offset + split.1.length + split.2.length = change.front.length := by
            omega
          refine .some ⟨rfl, .ahead next_stands ?_⟩
          rw [split_eq, List.count_append] at closed
          rcases takes.form.count_quote with even | empty
          · omega
          · simp [empty]

/-- Every token is read alike before and after the change. -/
theorem respectsTokens_places (change : GapChange) : change.places.RespectsTokens := by
  intro kind
  constructor
  rintro _ _ (⟨stands, closed⟩ | ⟨distance, rest⟩)
  case behind => exact readings_behind kind distance rest
  case ahead offset text =>
    -- The text up to the change may begin with another gap, or be one.
    obtain ⟨gap, more, rfl, gaps, noGap⟩ := Cursor.exists_gap_append text
    have skipped (after : List Char) : token kind ⟨offset, gap ++ more ++ after⟩ =
        token kind ⟨offset + gap.length, more ++ after⟩ :=
      token_congr kind (List.append_assoc gap more after ▸ Cursor.skipGap_append gaps offset _)
    rw [skipped, skipped]
    rw [List.length_append] at stands
    cases more with
    | nil =>
        have inside {run : List Char} (subset : run ⊆ change.gap ++ change.gap') :
            ∀ c ∈ run, isGap c = true := fun c member => isGap_of_mem (subset member)
        rw [List.nil_append, List.nil_append,
          token_congr kind (Cursor.skipGap_append (inside (List.subset_append_left _ _)) _ _),
          token_congr kind (Cursor.skipGap_append (inside (List.subset_append_right _ _)) _ _),
          show offset + gap.length = change.front.length by simpa using stands]
        exact readings_behind kind 0 change.back
    | cons c more =>
        have noQuote : gap.count '"' = 0 := by
          apply List.count_eq_zero_of_not_mem
          intro member
          exact absurd (gaps '"' member) (by decide)
        rw [List.count_append, noQuote, Nat.zero_add] at closed
        exact readings_ahead kind (by omega) closed (noGap c rfl)

/-- The line before and after the change has the same tree or the same error. -/
theorem parse_alike (change : GapChange) :
    (∃ node node', parse change.content = .ok node ∧ parse change.content' = .ok node' ∧
        node.bare = node'.bare) ∨
      ∃ error error', parse change.content = .error error ∧
        parse change.content' = .error error' ∧ change.SamePlace error.offset error'.offset ∧
        error.expected = error'.expected := by
  refine Correspondence.parse_alike SamePlace.lt_iff change.respectsTokens_places ?_
  rw [content, content', List.append_assoc, List.append_assoc]
  exact .ahead (Nat.zero_add _) change.closed

end GapChange

end Line

namespace SourceLine

open Line (GapChange SyntaxError)

/-- The gaps between the words of a line and at its ends do not matter: with other gaps the line is
read as the same tree but for the offsets, or is rejected with the same message at the same place.
So its node is the same but for the offsets, wherever the line stands. -/
theorem same_tree_of_gapChange (change : GapChange) :
    ((∃ node node', Line.parse change.content = .ok node ∧
          Line.parse change.content' = .ok node' ∧ node.bare = node'.bare) ∨
        ∃ error error', Line.parse change.content = .error error ∧
          Line.parse change.content' = .error error' ∧ error.message = error'.message ∧
          change.SamePlace error.offset error'.offset) ∧
      ∀ offset offset', (node ⟨offset, change.content⟩).bare =
        (node ⟨offset', change.content'⟩).bare := by
  rcases change.parse_alike with
    ⟨tree, tree', read, read', same⟩ | ⟨error, error', read, read', place, expected_eq⟩
  · refine ⟨Or.inl ⟨tree, tree', read, read', same⟩, fun offset offset' => ?_⟩
    simp only [node, read, read', Node.bare_shift, same]
  · have message_eq : error.message = error'.message := by
      rw [SyntaxError.message, SyntaxError.message, expected_eq]
    refine ⟨Or.inr ⟨error, error', read, read', message_eq, place⟩, fun offset offset' => ?_⟩
    simp only [node, read, read', Node.bare_shift, rejected, Node.bare, Node.bareList, message_eq]

/-- A gap behind a quoted blank, in front of a blank that is no gap. -/
theorem same_tree_behind_quoted_blank :
    (node ⟨0, "repo:\"a b\" x\u00a0".toList⟩).bare =
      (node ⟨9, "repo:\"a b\"\t x\u00a0".toList⟩).bare :=
  (same_tree_of_gapChange
    { front := "repo:\"a b\"".toList, gap := [' '], gap' := ['\t', ' '], back := "x\u00a0".toList
      spaces := by simp
      closed := by decide
      apart := Or.inl ⟨by decide, by decide⟩ }).2 0 9

end SourceLine

end SearchQuery
