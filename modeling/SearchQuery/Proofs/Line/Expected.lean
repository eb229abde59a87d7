import SearchQuery.Proofs.Line.Attempts
import SearchQuery.Proofs.Line.FreeText
import SearchQuery.Proofs.Repetition

/-!
# What could have stood at an error

A line fails in one of a few ways: the sign of a definition is absent behind its variable, no item
is found where the line begins, or the line does not end behind its items.  The farthest place is
always one where no item is found, so all tokens that begin items are expected there.  The sign is
expected with them if nothing but a variable stands in front of the place, and the end of the line
if anything but a gap does.
-/

namespace SearchQuery.Line

open Reader
open Text (isBlank isGap isNameChar)

/-! ## The tokens of an error -/

namespace SyntaxError

/-- The tokens of an error are those that were looked for in vain at its place. -/
theorem mem_expected_iff {failures : List Failure} {kind : Token} :
    kind ∈ (ofFailures failures).expected ↔
      ⟨(ofFailures failures).offset, kind⟩ ∈ failures := by
  simp only [ofFailures, List.mem_eraseDups, List.mem_map, List.mem_filter, beq_iff_eq]
  constructor
  · rintro ⟨⟨offset, _⟩, ⟨member, rfl⟩, rfl⟩
    exact member
  · intro member
    exact ⟨_, ⟨member, rfl⟩, rfl⟩

/-- No token is named twice. -/
theorem nodup_expected (failures : List Failure) : (ofFailures failures).expected.Nodup :=
  nodup_eraseDups _

/-- What was looked for first of all is named first. -/
theorem head?_expected {first : Failure} {failures : List Failure}
    (reached : first.offset = (ofFailures (first :: failures)).offset) :
    (ofFailures (first :: failures)).expected.head? = some first.token := by
  simp only [ofFailures] at reached ⊢
  generalize List.foldl max 0 _ = farthest at reached ⊢
  simp [reached, List.eraseDups_cons]

/-- What was looked for last of all, and not before, is named last. -/
theorem getLast?_expected {failures : List Failure} {last : Failure}
    (reached : last.offset = (ofFailures (failures ++ [last])).offset)
    (apart : ∀ failure ∈ failures, failure.token ≠ last.token) :
    (ofFailures (failures ++ [last])).expected.getLast? = some last.token := by
  simp only [ofFailures] at reached ⊢
  generalize List.foldl max 0 _ = farthest at reached ⊢
  have alone : [last].filter (·.offset == farthest) = [last] := by simp [reached]
  rw [List.filter_append, alone, List.map_append, List.map_singleton, eraseDups_append_of_disjoint]
  · simp [List.eraseDups_cons]
  · intro kind kind_mem member
    obtain rfl := List.mem_singleton.mp kind_mem
    obtain ⟨failure, failure_mem, same⟩ := List.mem_map.mp member
    exact apart failure (List.mem_filter.mp failure_mem).1 same

end SyntaxError

/-! ## The ways in which a line fails -/

theorem seeksAt_query (start : Cursor) : query.SeeksAt itemTokens start :=
  (seeksAt_item start).bind fun _ middle _ => (seeksAt_many seeksAt_item middle).map _

/-- A variable without the sign of a definition behind it. -/
def LacksSign (start front : Cursor) : Prop :=
  ∃ name, (token .variable).Finds start name front ∧ (token .equals).Misses front

/-- The sign of a definition is looked for in vain behind a variable, if there is one. -/
def SignFailures (start : Cursor) (signs : List Failure) : Prop :=
  (∃ front, LacksSign start front ∧ signs = [⟨front.skipGap.offset, .equals⟩]) ∨
    (∀ front, ¬ LacksSign start front) ∧ signs = []

/-- A definition fails with its sign, or it looks for nothing but items. -/
theorem failures_definition (start : Cursor) :
    (∃ front, LacksSign start front ∧
        (definition start).failures = [⟨front.skipGap.offset, .equals⟩]) ∨
      (∀ front, ¬ LacksSign start front) ∧ definition.SeeksAt itemTokens start := by
  rcases (token .variable).misses_or_finds start with misses | ⟨name, front, name_found⟩
  · refine Or.inr ⟨fun front ⟨_, finds, _⟩ => finds.not_misses misses, ?_⟩
    rw [SeeksAt, definition, failures_bind_of_misses _ misses]
    exact seeksAt_token (by decide)
  · rw [SeeksAt, definition, failures_bind_of_finds _ name_found,
      failures_token_of_finds name_found, List.nil_append]
    rcases (token .equals).misses_or_finds front with misses | ⟨sign, back, sign_found⟩
    · rw [failures_bind_of_misses _ misses, failures_of_misses_token misses]
      exact Or.inl ⟨front, ⟨name, name_found, misses⟩, rfl⟩
    · rw [failures_bind_of_finds _ sign_found, failures_token_of_finds sign_found,
        List.nil_append]
      refine Or.inr ⟨?_, (seeksAt_many seeksAt_item back).map _⟩
      rintro _ ⟨_, finds, misses⟩
      obtain ⟨_, rfl⟩ := finds.unique name_found
      exact sign_found.not_misses misses

/-- Where a definition ends, every token that an item can begin with was looked for. -/
theorem mem_failures_definition {start back : Cursor} {node : Node}
    (finds : definition.Finds start node back) :
    ∀ kind ∈ itemTokens, ⟨back.skipGap.offset, kind⟩ ∈ (definition start).failures := by
  intro kind member
  obtain ⟨name, front, name_found, sign, middle, sign_found, items, repeats, _⟩ :=
    finds_definition_iff.mp finds
  have looked := repeats.mem_failures advances_item
    (mem_failures_item repeats.misses_final kind member)
  exact mem_failures_bind_right name_found (mem_failures_bind_right sign_found
    (mem_failures_bind_left _ looked))

/-- Where a query ends, every token that an item can begin with was looked for. -/
theorem mem_failures_query {start back : Cursor} {node : Node}
    (finds : query.Finds start node back) :
    ∀ kind ∈ itemTokens, ⟨back.skipGap.offset, kind⟩ ∈ (query start).failures := by
  intro kind member
  obtain ⟨first, others, repeats, _⟩ := finds_query_iff.mp finds
  cases repeats with
  | more found later =>
      have looked := later.mem_failures advances_item
        (mem_failures_item later.misses_final kind member)
      exact mem_failures_bind_right found (mem_failures_bind_left _ looked)

/-- How the reading of a line fails at a place: with the sign of a definition, then with items, and
at last with the end of the line. -/
structure Fails (start back : Cursor) (signs attempts ends : List Failure) : Prop where
  /-- All that was looked for in vain. -/
  failures : (line start).failures = signs ++ attempts ++ ends
  /-- The sign was looked for behind a variable. -/
  sign : SignFailures start signs
  /-- Only tokens that items begin with were looked for as items. -/
  seeks : ∀ failure ∈ attempts, failure.token ∈ itemTokens
  /-- All of them were looked for at the place. -/
  looked : ∀ kind ∈ itemTokens, ⟨back.skipGap.offset, kind⟩ ∈ attempts
  /-- No item is found at the place. -/
  noItem : item.Misses back
  /-- The end of the line was looked for behind what was read. -/
  finish : (∃ node, (orElse definition query).Finds start node back ∧
      ends = [⟨back.skipGap.offset, .finish⟩]) ∨
    back = start ∧ ends = []

/-- What was looked for in vain in front of the end of a line. -/
private theorem failures_orElse_definition {start back : Cursor}
    (looked : (∃ node, definition.Finds start node back) ∨
      definition.Misses start ∧
        ∀ kind ∈ itemTokens, ⟨back.skipGap.offset, kind⟩ ∈ (query start).failures) :
    ∃ signs attempts, (orElse definition query start).failures = signs ++ attempts ∧
      SignFailures start signs ∧ (∀ failure ∈ attempts, failure.token ∈ itemTokens) ∧
      ∀ kind ∈ itemTokens, ⟨back.skipGap.offset, kind⟩ ∈ attempts := by
  rcases looked with ⟨node, finds⟩ | ⟨misses, looked⟩
  · rw [failures_orElse_of_finds _ finds]
    rcases failures_definition start with ⟨front, ⟨name, name_found, noSign⟩, _⟩ | ⟨hasSign, seeks⟩
    · have noDefinition : definition.Misses start := misses_definition_iff.mpr
        (Or.inr ⟨name, front, name_found, (misses_token_iff ..).mp noSign⟩)
      exact absurd noDefinition finds.not_misses
    · exact ⟨[], _, rfl, Or.inr ⟨hasSign, rfl⟩, seeks, mem_failures_definition finds⟩
  · rw [failures_orElse_of_misses _ misses]
    rcases failures_definition start with ⟨front, lacks, failures_eq⟩ | ⟨hasSign, seeks⟩
    · exact ⟨_, _, rfl, Or.inl ⟨front, lacks, failures_eq⟩, seeksAt_query start, looked⟩
    · refine ⟨[], _, rfl, Or.inr ⟨hasSign, rfl⟩, ?_, fun kind member =>
        List.mem_append_right _ (looked kind member)⟩
      exact List.forall_mem_append.mpr ⟨seeks, seeksAt_query start⟩

theorem exists_fails {start : Cursor} (misses : line.Misses start) :
    ∃ back signs attempts ends, Fails start back signs attempts ends := by
  rcases (orElse definition query).misses_or_finds start with noNode | ⟨node, back, finds⟩
  · have noItem := misses_item_of_misses noNode
    have tried : ∀ kind ∈ itemTokens, ⟨start.skipGap.offset, kind⟩ ∈ (query start).failures :=
      fun kind member => mem_failures_bind_left _ (mem_failures_item noItem kind member)
    obtain ⟨signs, attempts, failures_eq, sign, seeks, looked⟩ :=
      failures_orElse_definition (Or.inr ⟨((misses_orElse_iff ..).mp noNode).1, tried⟩)
    refine ⟨start, signs, attempts, [], ?_, sign, seeks, looked, noItem, Or.inr ⟨rfl, rfl⟩⟩
    rw [line, failures_bind_of_misses _ noNode, failures_eq, List.append_nil]
  · have noFinish : (token .finish).Misses back := by
      rcases (token .finish).misses_or_finds back with noFinish | ⟨lexeme, next, found⟩
      · exact noFinish
      · have read : line.Finds start node next :=
          finds_line_iff.mpr ⟨back, (finds_orElse_iff ..).mp finds, lexeme, found⟩
        exact absurd misses read.not_misses
    have tried : (∃ node, definition.Finds start node back) ∨ definition.Misses start ∧
        ∀ kind ∈ itemTokens, ⟨back.skipGap.offset, kind⟩ ∈ (query start).failures :=
      ((finds_orElse_iff ..).mp finds).imp (fun found => ⟨node, found⟩)
        fun found => ⟨found.1, mem_failures_query found.2⟩
    obtain ⟨signs, attempts, failures_eq, sign, seeks, looked⟩ := failures_orElse_definition tried
    refine ⟨back, signs, attempts, _, ?_, sign, seeks, looked, misses_item_of_finds finds,
      Or.inl ⟨node, finds, rfl⟩⟩
    rw [line, failures_bind_of_finds _ finds, failures_map, failures_of_misses_token noFinish,
      failures_eq]

/-! ## What stands in front of the error -/

/-- The text is one variable, but for spaces and tabs around it. -/
def IsLoneVariable (text : List Char) : Prop :=
  ∃ gap first run gap', text = gap ++ '$' :: first :: run ++ gap' ∧
    (∀ c ∈ gap ++ gap', c = ' ' ∨ c = '\t') ∧ startsVariable first = true ∧
    ∀ c ∈ run, isNameChar c = true

/-- What stands in front of the first token of a line. -/
theorem take_gap (content : List Char) :
    content.take (Cursor.skipGap ⟨0, content⟩).offset = Cursor.gap ⟨0, content⟩ :=
  (Cursor.on_start content).take_append (Cursor.gap_append _)

section Content

variable {content : List Char}

/-- A variable behind which the reading stops is all that stands there. -/
theorem isLoneVariable_of_finds (noBreak : '\r' ∉ content ∧ '\n' ∉ content) {name : Lexeme}
    {front : Cursor} (finds : (token .variable).Finds ⟨0, content⟩ name front) :
    IsLoneVariable (content.take front.skipGap.offset) := by
  obtain ⟨split, _, offset_eq⟩ := split_of_finds_token finds
  obtain ⟨first, run, name_eq, starts, inside, _⟩ :=
    takeVariable?_eq_some ((finds_token_iff ..).mp finds).1
  dsimp only at name_eq
  have start := Cursor.on_start content
  have on : front.On content := kept_on content start finds
  have take_eq : content.take front.skipGap.offset =
      Cursor.gap ⟨0, content⟩ ++ '$' :: first :: run ++ front.gap := calc
    content.take (front.offset + front.gap.length)
      = content.take front.offset ++ front.gap := on.take_append front.gap_append
    _ = content.take (Cursor.skipGap ⟨0, content⟩).offset ++ name.chars ++ front.gap := by
      rw [offset_eq, start.skipGap.take_append split]
    _ = Cursor.gap ⟨0, content⟩ ++ '$' :: first :: run ++ front.gap := by
      rw [name_eq, take_gap]
  refine ⟨_, first, run, _, take_eq, fun c member => ?_, starts, inside⟩
  have gap : isGap c = true :=
    (List.mem_append.mp member).elim Cursor.isGap_of_mem_gap Cursor.isGap_of_mem_gap
  refine eq_space_or_tab_of_isGap noBreak (List.mem_of_mem_take (i := front.skipGap.offset) ?_) gap
  rw [take_eq]
  simp only [List.mem_append] at member ⊢
  tauto

variable {limit : Nat} (farthest : IsFarthest content limit)

include farthest

/-- Behind a variable that is all that stands in front of the farthest place, the sign of a
definition is looked for at that place. -/
theorem IsLoneVariable.lacksSign (alone : IsLoneVariable (content.take limit)) :
    ∃ front, LacksSign ⟨0, content⟩ front ∧ front.skipGap.offset = limit := by
  obtain ⟨gap, first, run, gap', take_eq, spaces, starts, inside⟩ := alone
  have content_eq : gap ++ '$' :: first :: run ++ gap' ++ content.drop limit = content := by
    rw [← take_eq, List.take_append_drop]
  have gaps : ∀ c ∈ gap ++ gap', isGap c = true := by
    intro c member
    rcases spaces c member with rfl | rfl <;> decide
  have stops : ∀ c ∈ (content.drop limit).head?, isBlank c = true ∧ isGap c = false := by
    intro c head
    rw [List.head?_drop] at head
    exact ⟨(farthest.isLimit c head).1, (farthest.isLimit c head).2.1⟩
  obtain ⟨name, front, found, rest_eq⟩ := exists_finds_variable gaps starts inside fun c head =>
    ⟨isNameChar_eq_false_of_isBlank (stops c head).1, (stops c head).2⟩
  rw [content_eq] at found
  refine ⟨front, ⟨name, found, ?_⟩, ?_⟩
  · rw [misses_token_iff, rest_eq]
    exact Token.take?_eq_none_of_blank (by simp) fun c head => (stops c head).1
  · have on : front.skipGap.On content := (kept_on content (Cursor.on_start content) found).skipGap
    have lengths := congrArg List.length (rest_eq.symm.trans on.rest_eq)
    rw [List.length_drop, List.length_drop] at lengths
    have := on.offset_le
    have := farthest.le_length
    omega

/-- Where a line does not begin with a blank that stops the reading, something that is no gap
stands in front of the farthest place. -/
theorem exists_visible_before (starts : ¬ item.Misses ⟨0, content⟩) :
    ∃ c ∈ content.take limit, c ≠ ' ' ∧ c ≠ '\t' := by
  have sound := (Cursor.sound_start content limit).skipGap farthest.isLimit
  have noBlank : ∃ c rest, (Cursor.skipGap ⟨0, content⟩).rest = c :: rest ∧ isBlank c = false := by
    by_contra noBlank
    refine starts (misses_item_of_blank fun c head => ?_)
    obtain ⟨rest, rest_eq⟩ := List.head?_eq_some_iff.mp head
    exact Bool.not_eq_false _ ▸ fun notBlank => noBlank ⟨c, rest, rest_eq, notBlank⟩
  obtain ⟨c, rest, rest_eq, notBlank⟩ := noBlank
  have found : content[(Cursor.skipGap ⟨0, content⟩).offset]? = some c := by
    have := sound.on.getElem?_add 0
    simpa [rest_eq] using this
  have before : (Cursor.skipGap ⟨0, content⟩).offset < limit := by
    refine Nat.lt_of_le_of_ne sound.le_limit fun same => ?_
    rw [(farthest.isLimit c (same ▸ found)).1] at notBlank
    cases notBlank
  have noGap := Cursor.isGap_eq_false_of_skipGap rest_eq
  refine ⟨c, List.mem_of_getElem? ((List.getElem?_take_of_lt before).trans found), ?_, ?_⟩
  · rintro rfl
    exact absurd noGap (by decide)
  · rintro rfl
    exact absurd noGap (by decide)

end Content

/-! ## What is expected at the error -/

namespace Fails

variable {content : List Char} {limit : Nat} {back : Cursor} {signs attempts ends : List Failure}
  (fails : Fails ⟨0, content⟩ back signs attempts ends)

include fails

theorem signs_eq {failure : Failure} (member : failure ∈ signs) : signs = [failure] := by
  rcases fails.sign with ⟨front, _, rfl⟩ | ⟨_, rfl⟩
  · rw [List.mem_singleton.mp member]
  · cases member

theorem token_of_mem_signs {failure : Failure} (member : failure ∈ signs) :
    failure.token = .equals := by
  rcases fails.sign with ⟨front, _, rfl⟩ | ⟨_, rfl⟩
  · rw [List.mem_singleton.mp member]
  · cases member

theorem ends_eq {failure : Failure} (member : failure ∈ ends) : ends = [failure] := by
  rcases fails.finish with ⟨_, _, rfl⟩ | ⟨_, rfl⟩
  · rw [List.mem_singleton.mp member]
  · cases member

/-- The reading fails farthest where no item is found. -/
theorem offset_eq (farthest : IsFarthest content limit) : back.skipGap.offset = limit := by
  rcases fails.finish with ⟨_, finds, _⟩ | ⟨rfl, _⟩
  · exact (Cursor.Sound.of_finds farthest finds).offset_eq_farthest farthest fails.noItem
  · exact (Cursor.sound_start content limit).offset_eq_farthest farthest fails.noItem

theorem mem_attempts_iff (farthest : IsFarthest content limit) {kind : Token} :
    ⟨limit, kind⟩ ∈ attempts ↔ kind ∈ itemTokens := by
  constructor
  · exact fails.seeks _
  · intro member
    rw [← fails.offset_eq farthest]
    exact fails.looked kind member

theorem mem_signs_iff (noBreak : '\r' ∉ content ∧ '\n' ∉ content)
    (farthest : IsFarthest content limit) {kind : Token} :
    ⟨limit, kind⟩ ∈ signs ↔ kind = .equals ∧ IsLoneVariable (content.take limit) := by
  constructor
  · intro member
    rcases fails.sign with ⟨front, ⟨name, finds, _⟩, rfl⟩ | ⟨_, rfl⟩
    · obtain ⟨rfl, rfl⟩ := Failure.mk.inj (List.mem_singleton.mp member)
      exact ⟨rfl, isLoneVariable_of_finds noBreak finds⟩
    · cases member
  · rintro ⟨rfl, alone⟩
    obtain ⟨front, lacks, offset_eq⟩ := alone.lacksSign farthest
    rcases fails.sign with ⟨other, ⟨_, finds, _⟩, rfl⟩ | ⟨hasSign, _⟩
    · obtain ⟨_, found, _⟩ := lacks
      obtain ⟨_, rfl⟩ := found.unique finds
      simp [offset_eq]
    · exact absurd lacks (hasSign front)

theorem mem_ends_iff (noBreak : '\r' ∉ content ∧ '\n' ∉ content)
    (farthest : IsFarthest content limit) {kind : Token} :
    ⟨limit, kind⟩ ∈ ends ↔
      kind = .finish ∧ ∃ c ∈ content.take limit, c ≠ ' ' ∧ c ≠ '\t' := by
  have offset_eq := fails.offset_eq farthest
  rcases fails.finish with ⟨node, finds, rfl⟩ | ⟨rfl, rfl⟩
  · have starts : ¬ item.Misses ⟨0, content⟩ := by
      intro misses
      have noVariable : (token .variable).Misses ⟨0, content⟩ :=
        misses_token_of_misses_item misses (by simp)
      rcases (finds_orElse_iff ..).mp finds with found | ⟨_, found⟩
      · exact found.not_misses ((misses_bind_iff ..).mpr (Or.inl noVariable))
      · exact found.not_misses ((misses_bind_iff ..).mpr (Or.inl misses))
    simp only [offset_eq, List.mem_singleton, Failure.mk.injEq, true_and]
    exact (and_iff_left (exists_visible_before farthest starts)).symm
  · refine iff_of_false List.not_mem_nil ?_
    rintro ⟨_, c, member, noSpace, noTab⟩
    have gap : c ∈ Cursor.gap ⟨0, content⟩ := by rwa [← take_gap, offset_eq]
    exact (eq_space_or_tab_of_isGap noBreak (List.mem_of_mem_take member)
      (Cursor.isGap_of_mem_gap gap)).elim noSpace noTab

end Fails

/-- What the error of a line that is missed expects: all tokens that an item can begin with, the
end of the line unless it stands behind a mere gap, and the sign of a definition behind a lone
variable.  The sign is named first and the end of the line last. -/
theorem mem_expected_of_misses {content : List Char} (noBreak : '\r' ∉ content ∧ '\n' ∉ content)
    (misses : line.Misses ⟨0, content⟩) :
    let error := SyntaxError.ofFailures (line ⟨0, content⟩).failures
    let before := content.take error.offset
    (∀ kind, kind ∈ error.expected ↔ kind ∈ itemTokens ∨
        (kind = .finish ∧ ∃ c ∈ before, c ≠ ' ' ∧ c ≠ '\t') ∨
        (kind = .equals ∧ IsLoneVariable before)) ∧
      (.equals ∈ error.expected → error.expected.head? = some .equals) ∧
      (.finish ∈ error.expected → error.expected.getLast? = some .finish) := by
  obtain ⟨limit, farthest⟩ := exists_isFarthest noBreak
  obtain ⟨back, signs, attempts, ends, fails⟩ := exists_fails misses
  have offset_eq : (SyntaxError.ofFailures (line ⟨0, content⟩).failures).offset = limit := by
    refine SyntaxError.offset_ofFailures ⟨⟨limit, .orWord⟩, ?_, rfl⟩ fun failure member =>
      farthest.offset_le member
    rw [fails.failures]
    exact List.mem_append_left _ (List.mem_append_right _
      ((fails.mem_attempts_iff farthest).mpr (by decide)))
  have mem_iff (kind : Token) :
      kind ∈ (SyntaxError.ofFailures (line ⟨0, content⟩).failures).expected ↔
        ⟨limit, kind⟩ ∈ signs ∨ ⟨limit, kind⟩ ∈ attempts ∨ ⟨limit, kind⟩ ∈ ends := by
    rw [SyntaxError.mem_expected_iff, offset_eq, fails.failures, List.mem_append, List.mem_append,
      or_assoc]
  have noSign : .equals ∉ itemTokens := by decide
  have noFinish : .finish ∉ itemTokens := by decide
  refine ⟨fun kind => ?_, fun expected => ?_, fun expected => ?_⟩
  · rw [mem_iff, fails.mem_attempts_iff farthest, fails.mem_signs_iff noBreak farthest,
      fails.mem_ends_iff noBreak farthest, offset_eq, or_comm, or_assoc]
  · have member : ⟨limit, .equals⟩ ∈ signs := by
      rcases (mem_iff .equals).mp expected with found | found | found
      · exact found
      · exact absurd (fails.seeks _ found) noSign
      · cases ((fails.mem_ends_iff noBreak farthest).mp found).1
    rw [fails.failures, fails.signs_eq member] at offset_eq ⊢
    exact SyntaxError.head?_expected offset_eq.symm
  · have member : ⟨limit, .finish⟩ ∈ ends := by
      rcases (mem_iff .finish).mp expected with found | found | found
      · cases ((fails.mem_signs_iff noBreak farthest).mp found).1
      · exact absurd (fails.seeks _ found) noFinish
      · exact found
    rw [fails.failures, fails.ends_eq member] at offset_eq ⊢
    refine SyntaxError.getLast?_expected offset_eq.symm ?_
    rw [List.forall_mem_append]
    constructor
    · intro failure found
      rw [fails.token_of_mem_signs found]
      simp
    · intro failure found same
      have begins := fails.seeks failure found
      rw [same] at begins
      exact noFinish begins

end SearchQuery.Line
