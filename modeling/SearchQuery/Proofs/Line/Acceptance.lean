import Mathlib.Data.Nat.Find
import SearchQuery.Line.Parse
import SearchQuery.Proofs.Line.Grammar

/-!
# Which lines can be read

A line that holds more than blanks can be read unless it has a stray blank: one that is neither
space nor tab and stands outside of quotes.  The error of a line that cannot be read stands at its
first stray blank.

The invariant of the reading is that a place that is not the end of the line has an even number of
quotes in front of it, and that no place lies behind a stray blank.
-/

namespace SearchQuery.Line

open Reader
open Text (isBlank isGap)

/-- The character at an index of a line is a blank, neither space nor tab, with an even number of
quotes in front of it. -/
def IsStray (content : List Char) (index : Nat) : Prop :=
  ∃ c ∈ content[index]?, isBlank c = true ∧ c ≠ ' ' ∧ c ≠ '\t' ∧
    (content.take index).count '"' % 2 = 0

instance (content : List Char) (index : Nat) : Decidable (IsStray content index) :=
  match found : content[index]? with
  | none => isFalse (by simp [IsStray, found])
  | some c =>
      decidable_of_iff (isBlank c = true ∧ c ≠ ' ' ∧ c ≠ '\t' ∧
        (content.take index).count '"' % 2 = 0) (by simp [IsStray, found])

/-- The invariant of a reading: quotes are closed, unless the line is at its end, and the place is
not behind `limit`. -/
structure Cursor.Sound (content : List Char) (limit : Nat) (cursor : Cursor) : Prop where
  /-- The cursor stands in the line. -/
  on : cursor.On content
  /-- The quotes in front of the place are closed. -/
  quotes : (content.take cursor.offset).count '"' % 2 = 0 ∨ cursor.rest = []
  /-- The place is not behind the limit. -/
  le_limit : cursor.offset ≤ limit

/-- No token can reach over the index: it is the end of the line, or a blank outside of quotes that
is no gap. -/
def IsLimit (content : List Char) (limit : Nat) : Prop :=
  ∀ c, content[limit]? = some c →
    isBlank c = true ∧ isGap c = false ∧ (content.take limit).count '"' % 2 = 0

theorem isLimit_length (content : List Char) : IsLimit content content.length := by
  intro c at_limit
  simp at at_limit

section Limit

variable {content : List Char} {limit : Nat} (isLimit : IsLimit content limit)

include isLimit

/-- The gap after a place does not reach over the limit. -/
theorem Cursor.Sound.skipGap {cursor : Cursor} (sound : cursor.Sound content limit) :
    cursor.skipGap.Sound content limit := by
  refine ⟨sound.on.skipGap, ?_, ?_⟩
  · have noQuotes : cursor.gap.count '"' = 0 := by
      apply List.count_eq_zero_of_not_mem
      intro member
      exact absurd (Cursor.isGap_of_mem_gap member) (by decide)
    rcases sound.quotes with closed | atEnd
    · left
      change (content.take (cursor.offset + cursor.gap.length)).count '"' % 2 = 0
      rw [sound.on.take_append cursor.gap_append, List.count_append, noQuotes]
      exact closed
    · right
      simp [Cursor.skipGap, atEnd]
  · change cursor.offset + cursor.gap.length ≤ limit
    have := sound.le_limit
    apply Nat.le_of_not_lt
    intro behind
    obtain ⟨index, rfl⟩ : ∃ index, limit = cursor.offset + index :=
      ⟨limit - cursor.offset, by omega⟩
    have inside : index < cursor.gap.length := by omega
    have at_limit : content[cursor.offset + index]? = some cursor.gap[index] := by
      rw [sound.on.getElem?_add, cursor.gap_append, List.getElem?_append_left inside,
        List.getElem?_eq_getElem inside]
    have gap := Cursor.isGap_of_mem_gap (List.getElem_mem inside)
    rw [(isLimit _ at_limit).2.1] at gap
    simp at gap

/-- The text of a token does not reach over the limit. -/
private theorem text_le_limit {place : Cursor} {text after : List Char}
    (sound : place.Sound content limit) (split : place.rest = text ++ after)
    (form : TokenText text after) : place.offset + text.length ≤ limit := by
  have := sound.le_limit
  apply Nat.le_of_not_lt
  intro behind
  obtain ⟨index, rfl⟩ : ∃ index, limit = place.offset + index :=
    ⟨limit - place.offset, by omega⟩
  have inside : index < text.length := by omega
  have text_eq : text = text.take index ++ text[index] :: text.drop (index + 1) := by
    rw [List.getElem_cons_drop, List.take_append_drop]
  have at_limit : content[place.offset + index]? = some text[index] := by
    rw [sound.on.getElem?_add, split, List.getElem?_append_left inside,
      List.getElem?_eq_getElem inside]
  obtain ⟨blank, _, closed⟩ := isLimit _ at_limit
  have opened : (text.take index).count '"' % 2 = 1 := by
    rw [text_eq] at form
    exact form.count_quote_before_blank blank
  have front : content.take (place.offset + index) =
      content.take place.offset ++ text.take index := by
    rw [List.take_add, ← sound.on.rest_eq, split, List.take_append_of_le_length (by omega)]
  rw [front, List.count_append] at closed
  rcases sound.quotes with closedBefore | atEnd
  · omega
  · rw [split] at atEnd
    simp [(List.append_eq_nil_iff.mp atEnd).1] at inside

/-- Every token preserves the invariant. -/
theorem keptByTokens_sound : KeptByTokens (Cursor.Sound content limit) := by
  intro kind cursor next lexeme sound finds
  have place := sound.skipGap isLimit
  obtain ⟨split, form, offset_eq⟩ := split_of_finds_token finds
  obtain ⟨offset, after⟩ := next
  obtain rfl : offset = cursor.skipGap.offset + lexeme.chars.length := offset_eq
  refine ⟨place.on.move split, ?_, text_le_limit isLimit place split form⟩
  rcases form.count_quote with even | nothing
  · rcases place.quotes with closed | nothing
    · left
      rw [place.on.take_append split, List.count_append]
      omega
    · right
      rw [split] at nothing
      exact (List.append_eq_nil_iff.mp nothing).2
  · exact Or.inr nothing

end Limit

/-! ## Where a reading ends -/

/-- At the end of a definition or query no further item is found. -/
theorem misses_item_of_finds {cursor next : Cursor} {node : Node}
    (finds : (orElse definition query).Finds cursor node next) : item.Misses next := by
  rcases (finds_orElse_iff ..).mp finds with found | ⟨_, found⟩
  · obtain ⟨_, _, _, _, _, _, _, repeats, _⟩ := finds_definition_iff.mp found
    exact repeats.misses_final
  · obtain ⟨_, _, repeats, _⟩ := finds_query_iff.mp found
    exact repeats.misses_final

/-- Where neither a definition nor a query is found, no item is. -/
theorem misses_item_of_misses {cursor : Cursor} (misses : (orElse definition query).Misses cursor) :
    item.Misses cursor := by
  rcases item.misses_or_finds cursor with noItem | ⟨node, next, finds⟩
  · exact noItem
  · obtain ⟨others, final, repeats⟩ := exists_repeats advances_item next
    have found : query.Finds cursor (queryOf node others) final :=
      finds_query_iff.mpr ⟨node, others, .more finds repeats, rfl⟩
    exact absurd ((misses_orElse_iff ..).mp misses).2 found.not_misses

theorem misses_finish_iff {cursor : Cursor} :
    (token .finish).Misses cursor ↔ cursor.skipGap.rest ≠ [] := by
  rw [misses_token_iff]
  simp [Token.take?]

/-- At a place where no item is found the line ends, but for a gap, or a stray blank follows. -/
theorem Cursor.Sound.end_or_stray {content : List Char} {limit : Nat} {cursor : Cursor}
    (isLimit : IsLimit content limit) (sound : cursor.Sound content limit)
    (misses : item.Misses cursor) :
    cursor.skipGap.rest = [] ∨ IsStray content cursor.skipGap.offset := by
  have place := sound.skipGap isLimit
  cases rest_eq : cursor.skipGap.rest with
  | nil => exact Or.inl rfl
  | cons c rest =>
      right
      have found : content[cursor.skipGap.offset]? = some c := by
        have := place.on.getElem?_add 0
        simpa [rest_eq] using this
      have blank : isBlank c = true := by
        rw [← Bool.not_eq_false]
        intro notBlank
        exact not_misses_item rest_eq notBlank misses
      have noGap := Cursor.isGap_eq_false_of_skipGap rest_eq
      refine ⟨c, found, blank, ?_, ?_, ?_⟩
      · rintro rfl
        exact absurd noGap (by decide)
      · rintro rfl
        exact absurd noGap (by decide)
      · exact place.quotes.resolve_right (by simp [rest_eq])

theorem Cursor.sound_start (content : List Char) (limit : Nat) :
    Cursor.Sound content limit ⟨0, content⟩ :=
  ⟨Cursor.on_start content, Or.inl (by simp), Nat.zero_le limit⟩

/-- A line without stray blanks that holds more than blanks is read up to its end. -/
theorem exists_finds_line {content : List Char} (visible : ∃ c ∈ content, isBlank c = false)
    (noStray : ∀ index, ¬ IsStray content index) :
    ∃ node, line.Finds ⟨0, content⟩ node ⟨content.length, []⟩ := by
  have isLimit := isLimit_length content
  have kept := keptByTokens_sound isLimit
  have start := Cursor.sound_start content content.length
  rcases (orElse definition query).misses_or_finds ⟨0, content⟩ with misses | ⟨node, back, finds⟩
  · have noItem := misses_item_of_misses misses
    have atEnd := (start.end_or_stray isLimit noItem).resolve_right (noStray _)
    obtain ⟨c, member, notBlank⟩ := visible
    have allGap : content = Cursor.gap ⟨0, content⟩ := by
      have := Cursor.gap_append ⟨0, content⟩
      rwa [atEnd, List.append_nil] at this
    rw [allGap] at member
    rw [Text.isBlank_of_isGap (Cursor.isGap_of_mem_gap member)] at notBlank
    simp at notBlank
  · have sound := ((keeps_definition kept).orElse (keeps_query kept)).next start finds
    have atEnd := (sound.end_or_stray isLimit (misses_item_of_finds finds)).resolve_right
      (noStray _)
    have offset_eq := (sound.skipGap isLimit).on.offset_eq_length atEnd
    refine ⟨node, finds_line_iff.mpr ⟨back, (finds_orElse_iff ..).mp finds,
      ⟨content.length, []⟩, ?_⟩⟩
    rw [finds_token_iff, atEnd, offset_eq]
    simp [Token.take?, Lexeme.stop]

private theorem le_foldl_max (offsets : List Nat) (initial : Nat) :
    initial ≤ offsets.foldl max initial ∧
      ∀ offset ∈ offsets, offset ≤ offsets.foldl max initial := by
  induction offsets generalizing initial with
  | nil => simp
  | cons offset offsets induction =>
      obtain ⟨above, members⟩ := induction (max initial offset)
      simp only [List.foldl_cons, List.forall_mem_cons]
      exact ⟨by omega, by omega, members⟩

private theorem foldl_max_le (offsets : List Nat) (initial bound : Nat)
    (initial_le : initial ≤ bound) (members_le : ∀ offset ∈ offsets, offset ≤ bound) :
    offsets.foldl max initial ≤ bound := by
  induction offsets generalizing initial with
  | nil => exact initial_le
  | cons offset offsets induction =>
      rw [List.forall_mem_cons] at members_le
      exact induction (max initial offset) (by omega) members_le.2

/-- The error stands behind no bound of the failures. -/
theorem SyntaxError.offset_ofFailures_le {failures : List Failure} {bound : Nat}
    (bounded : ∀ failure ∈ failures, failure.offset ≤ bound) :
    (SyntaxError.ofFailures failures).offset ≤ bound := by
  apply foldl_max_le _ _ _ (Nat.zero_le _)
  simpa using bounded

/-- The error stands at the farthest of the failures. -/
theorem SyntaxError.offset_ofFailures {failures : List Failure} {farthest : Nat}
    (reached : ∃ failure ∈ failures, failure.offset = farthest)
    (bounded : ∀ failure ∈ failures, failure.offset ≤ farthest) :
    (SyntaxError.ofFailures failures).offset = farthest := by
  obtain ⟨failure, member, rfl⟩ := reached
  apply Nat.le_antisymm
  · exact SyntaxError.offset_ofFailures_le bounded
  · exact (le_foldl_max _ 0).2 _ (List.mem_map_of_mem member)

/-- A reading that does not reach the end of the line has failed where it ended. -/
private theorem misses_line_of_finds {start back : Cursor} {node : Node}
    (finds : (orElse definition query).Finds start node back) (more : back.skipGap.rest ≠ []) :
    line.Misses start ∧
      ∃ failure ∈ (line start).failures, failure.offset = back.skipGap.offset := by
  have noFinish := misses_finish_iff.mpr more
  constructor
  · rw [line, misses_bind_iff]
    exact Or.inr ⟨node, back, finds, (misses_bind_iff ..).mpr (Or.inl noFinish)⟩
  · refine ⟨⟨back.skipGap.offset, .finish⟩, ?_, rfl⟩
    apply mem_failures_bind_right finds
    apply mem_failures_bind_left
    simp [failures_of_misses_token noFinish]

/-- A reading that does not find any item has failed where it began. -/
private theorem misses_line_of_misses {start : Cursor}
    (misses : (orElse definition query).Misses start) :
    line.Misses start ∧
      ∃ failure ∈ (line start).failures, failure.offset = start.skipGap.offset := by
  have noVariable : (token .variable).Misses start := by
    have noItem := misses_item_of_misses misses
    rw [item, misses_firstOf_iff] at noItem
    exact (misses_map_iff ..).mp (noItem variableName (by simp))
  constructor
  · rw [line, misses_bind_iff]
    exact Or.inl misses
  · refine ⟨⟨start.skipGap.offset, .variable⟩, ?_, rfl⟩
    apply mem_failures_bind_left
    apply mem_failures_orElse_left
    apply mem_failures_bind_left
    simp [failures_of_misses_token noVariable]

/-- A line that is missed has failed somewhere. -/
theorem failures_ne_nil_of_misses_line {start : Cursor} (misses : line.Misses start) :
    (line start).failures ≠ [] := by
  rcases (orElse definition query).misses_or_finds start with noNode | ⟨node, back, finds⟩
  · obtain ⟨_, failure, member, _⟩ := misses_line_of_misses noNode
    exact List.ne_nil_of_mem member
  · by_cases atEnd : back.skipGap.rest = []
    · have finish : (token .finish).Finds back ⟨back.skipGap.offset, []⟩
          ⟨back.skipGap.offset, []⟩ := by
        rw [finds_token_iff, atEnd]
        exact ⟨rfl, rfl, rfl⟩
      have found : line.Finds start node ⟨back.skipGap.offset, []⟩ :=
        finds_line_iff.mpr ⟨back, (finds_orElse_iff ..).mp finds, _, finish⟩
      exact absurd misses found.not_misses
    · obtain ⟨_, failure, member, _⟩ := misses_line_of_finds finds atEnd
      exact List.ne_nil_of_mem member

theorem IsStray.isLimit {content : List Char} {index : Nat} (stray : IsStray content index)
    (noBreak : '\r' ∉ content ∧ '\n' ∉ content) : IsLimit content index := by
  obtain ⟨d, found, blank, noSpace, noTab, closed⟩ := stray
  intro c at_index
  obtain rfl : c = d := by simpa [at_index] using found
  have member : c ∈ content := List.mem_of_getElem? at_index
  refine ⟨blank, ?_, closed⟩
  simp only [isGap, Bool.or_eq_false_iff, beq_eq_false_iff_ne]
  refine ⟨⟨⟨noSpace, noTab⟩, ?_⟩, ?_⟩
  · rintro rfl
    exact noBreak.1 member
  · rintro rfl
    exact noBreak.2 member

/-- The farthest place that a reading can reach: the first stray blank, or the end of the line. -/
structure IsFarthest (content : List Char) (limit : Nat) : Prop where
  /-- No token reaches over it. -/
  isLimit : IsLimit content limit
  /-- It lies in the line. -/
  le_length : limit ≤ content.length
  /-- No stray blank stands in front of it. -/
  least : ∀ earlier < limit, ¬ IsStray content earlier

theorem IsStray.isFarthest {content : List Char} {first : Nat} (stray : IsStray content first)
    (noBreak : '\r' ∉ content ∧ '\n' ∉ content)
    (least : ∀ earlier < first, ¬ IsStray content earlier) : IsFarthest content first := by
  refine ⟨stray.isLimit noBreak, ?_, least⟩
  obtain ⟨c, found, _⟩ := stray
  exact Nat.le_of_lt (List.getElem?_eq_some_iff.mp found).1

theorem exists_isFarthest {content : List Char} (noBreak : '\r' ∉ content ∧ '\n' ∉ content) :
    ∃ limit, IsFarthest content limit := by
  by_cases strays : ∃ index, IsStray content index
  · exact ⟨Nat.find strays, (Nat.find_spec strays).isFarthest noBreak
      fun earlier before => Nat.find_min strays before⟩
  · exact ⟨content.length, isLimit_length content, Nat.le_refl _,
      fun earlier _ stray => strays ⟨earlier, stray⟩⟩

section Farthest

variable {content : List Char} {limit : Nat} (farthest : IsFarthest content limit)

include farthest

/-- A place where no item is found lies at the farthest place, since it cannot lie behind. -/
theorem Cursor.Sound.offset_eq_farthest {cursor : Cursor} (sound : cursor.Sound content limit)
    (noItem : item.Misses cursor) : cursor.skipGap.offset = limit := by
  have place := sound.skipGap farthest.isLimit
  apply Nat.le_antisymm place.le_limit
  rcases sound.end_or_stray farthest.isLimit noItem with atEnd | stray
  · rw [place.on.offset_eq_length atEnd]
    exact farthest.le_length
  · exact Nat.le_of_not_lt fun earlier => farthest.least _ earlier stray

/-- Where the items of a line end. -/
theorem Cursor.Sound.of_finds {back : Cursor} {node : Node}
    (finds : (orElse definition query).Finds ⟨0, content⟩ node back) :
    back.Sound content limit := by
  have kept := keptByTokens_sound farthest.isLimit
  exact ((keeps_definition kept).orElse (keeps_query kept)).next
    (Cursor.sound_start content limit) finds

theorem IsFarthest.offset_le {failure : Failure}
    (member : failure ∈ (line ⟨0, content⟩).failures) : failure.offset ≤ limit := by
  have kept := keptByTokens_sound farthest.isLimit
  obtain ⟨place, sound, offset_eq⟩ :=
    (keeps_line kept).failure (Cursor.sound_start content limit) member
  rw [offset_eq]
  exact (sound.skipGap farthest.isLimit).le_limit

end Farthest

/-- A line with a stray blank cannot be read, and fails farthest at the first of them. -/
theorem misses_line_of_isStray {content : List Char} {first : Nat}
    (noBreak : '\r' ∉ content ∧ '\n' ∉ content) (stray : IsStray content first)
    (least : ∀ earlier < first, ¬ IsStray content earlier) :
    line.Misses ⟨0, content⟩ ∧
      (SyntaxError.ofFailures (line ⟨0, content⟩).failures).offset = first := by
  have farthest := stray.isFarthest noBreak least
  have bounded : ∀ failure ∈ (line ⟨0, content⟩).failures, failure.offset ≤ first :=
    fun _ member => farthest.offset_le member
  rcases (orElse definition query).misses_or_finds ⟨0, content⟩ with misses | ⟨node, back, finds⟩
  · have offset_eq := (Cursor.sound_start content first).offset_eq_farthest farthest
      (misses_item_of_misses misses)
    obtain ⟨lineMisses, reached⟩ := misses_line_of_misses misses
    exact ⟨lineMisses, SyntaxError.offset_ofFailures (offset_eq ▸ reached) bounded⟩
  · have sound := Cursor.Sound.of_finds farthest finds
    have offset_eq := sound.offset_eq_farthest farthest (misses_item_of_finds finds)
    have notEnd : back.skipGap.rest ≠ [] := by
      intro atEnd
      have at_length := (sound.skipGap farthest.isLimit).on.offset_eq_length atEnd
      obtain ⟨c, found, _⟩ := stray
      have := (List.getElem?_eq_some_iff.mp found).1
      omega
    obtain ⟨lineMisses, reached⟩ := misses_line_of_finds finds notEnd
    exact ⟨lineMisses, SyntaxError.offset_ofFailures (offset_eq ▸ reached) bounded⟩

/-- What reading a line gives where the line is found. -/
theorem parse_of_finds {content : List Char} {node : Node} {next : Cursor}
    (finds : line.Finds ⟨0, content⟩ node next) : parse content = .ok node := by
  rw [Finds] at finds
  simp [parse, finds]

/-- What reading a line gives where it is missed. -/
theorem parse_of_misses {content : List Char} (misses : line.Misses ⟨0, content⟩) :
    parse content = .error (.ofFailures (line ⟨0, content⟩).failures) := by
  rw [Misses] at misses
  simp [parse, misses]

end SearchQuery.Line
