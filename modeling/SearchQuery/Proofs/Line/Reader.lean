import SearchQuery.Line.Grammar
import SearchQuery.Proofs.Line.Token

/-!
# What a reader finds

A reader finds a value at a place of a line and ends at another place, or it misses.  These two
outcomes of the combinators are those of their parts.  Two principles carry over from tokens to all
readers: a property of places that every token preserves is preserved, and tokens are looked for
only behind gaps that follow such places.
-/

namespace SearchQuery.Line

namespace Reader

variable {α β : Type}

/-- The reader finds a value at a place and ends at another place. -/
def Finds (reader : Reader α) (cursor : Cursor) (value : α) (next : Cursor) : Prop :=
  (reader cursor).found = some (value, next)

/-- The reader does not find what it looks for at a place. -/
def Misses (reader : Reader α) (cursor : Cursor) : Prop := (reader cursor).found = none

theorem misses_or_finds (reader : Reader α) (cursor : Cursor) :
    reader.Misses cursor ∨ ∃ value next, reader.Finds cursor value next := by
  cases found : (reader cursor).found with
  | none => exact Or.inl found
  | some pair => exact Or.inr ⟨pair.1, pair.2, found⟩

theorem Finds.not_misses {reader : Reader α} {cursor next : Cursor} {value : α}
    (finds : reader.Finds cursor value next) : ¬ reader.Misses cursor := by
  intro misses
  rw [Finds, misses] at finds
  simp at finds

/-- What a reader finds is determined by the place. -/
theorem Finds.unique {reader : Reader α} {cursor next next' : Cursor} {value value' : α}
    (finds : reader.Finds cursor value next) (finds' : reader.Finds cursor value' next') :
    value = value' ∧ next = next' := by
  rw [Finds, finds, Option.some.injEq, Prod.mk.injEq] at finds'
  exact finds'

/-! ## Outcomes of the combinators -/

theorem finds_pure_iff (value found : α) (cursor next : Cursor) :
    Finds (Pure.pure value : Reader α) cursor found next ↔ found = value ∧ next = cursor := by
  change some (value, cursor) = some (found, next) ↔ _
  simp [eq_comm]

theorem finds_bind_iff (first : Reader α) (rest : α → Reader β) (cursor next : Cursor)
    (value : β) :
    Finds (first >>= rest) cursor value next ↔
      ∃ found middle, first.Finds cursor found middle ∧ (rest found).Finds middle value next := by
  change (Reader.bind first rest cursor).found = _ ↔ _
  cases outcome : (first cursor).found with
  | none => simp [Reader.bind, Finds, outcome]
  | some pair =>
      obtain ⟨found, middle⟩ := pair
      simp [Reader.bind, Finds, outcome, and_assoc]

/-- What two readings in a row find, given what the second of them finds. -/
theorem finds_bind_congr {first : Reader α} {rest : α → Reader β} {cursor next : Cursor}
    {value : β} {later : α → Cursor → Prop}
    (finds_rest : ∀ found middle, (rest found).Finds middle value next ↔ later found middle) :
    Finds (first >>= rest) cursor value next ↔
      ∃ found middle, first.Finds cursor found middle ∧ later found middle := by
  simp only [finds_bind_iff, finds_rest]

theorem misses_bind_iff (first : Reader α) (rest : α → Reader β) (cursor : Cursor) :
    Misses (first >>= rest) cursor ↔
      first.Misses cursor ∨
        ∃ found middle, first.Finds cursor found middle ∧ (rest found).Misses middle := by
  change (Reader.bind first rest cursor).found = _ ↔ _
  cases outcome : (first cursor).found with
  | none => simp [Reader.bind, Finds, Misses, outcome]
  | some pair =>
      obtain ⟨found, middle⟩ := pair
      simp [Reader.bind, Finds, Misses, outcome, and_assoc]

/-- Where two readings in a row miss, given where the second of them misses. -/
theorem misses_bind_congr {first : Reader α} {rest : α → Reader β} {cursor : Cursor}
    {later : α → Cursor → Prop}
    (misses_rest : ∀ found middle, (rest found).Misses middle ↔ later found middle) :
    Misses (first >>= rest) cursor ↔
      first.Misses cursor ∨
        ∃ found middle, first.Finds cursor found middle ∧ later found middle := by
  simp only [misses_bind_iff, misses_rest]

theorem not_misses_pure (value : α) (cursor : Cursor) :
    ¬ Misses (Pure.pure value : Reader α) cursor :=
  Finds.not_misses ((finds_pure_iff value value cursor cursor).mpr ⟨rfl, rfl⟩)

/-- A reader that passes its value on finds it where the first part does. -/
theorem finds_map_iff (first : Reader α) (build : α → β) (cursor next : Cursor) (value : β) :
    Finds (first >>= fun found => Pure.pure (build found)) cursor value next ↔
      ∃ found, first.Finds cursor found next ∧ value = build found := by
  rw [finds_bind_iff]
  constructor
  · rintro ⟨found, middle, finds, built⟩
    obtain ⟨rfl, rfl⟩ := (finds_pure_iff _ _ _ _).mp built
    exact ⟨found, finds, rfl⟩
  · rintro ⟨found, finds, rfl⟩
    exact ⟨found, next, finds, (finds_pure_iff _ _ _ _).mpr ⟨rfl, rfl⟩⟩

theorem misses_map_iff (first : Reader α) (build : α → β) (cursor : Cursor) :
    Misses (first >>= fun found => Pure.pure (build found)) cursor ↔ first.Misses cursor := by
  rw [misses_bind_iff]
  simp [not_misses_pure]

theorem finds_orElse_iff (first second : Reader α) (cursor next : Cursor) (value : α) :
    (first.orElse second).Finds cursor value next ↔
      first.Finds cursor value next ∨ first.Misses cursor ∧ second.Finds cursor value next := by
  cases outcome : (first cursor).found with
  | none => simp [orElse, Finds, Misses, outcome]
  | some pair => simp [orElse, Finds, Misses, outcome]

theorem misses_orElse_iff (first second : Reader α) (cursor : Cursor) :
    (first.orElse second).Misses cursor ↔ first.Misses cursor ∧ second.Misses cursor := by
  cases outcome : (first cursor).found with
  | none => simp [orElse, Misses, outcome]
  | some pair => simp [orElse, Misses, outcome]

theorem finds_firstOf_cons_iff (reader : Reader α) (readers : List (Reader α))
    (cursor next : Cursor) (value : α) :
    (firstOf (reader :: readers)).Finds cursor value next ↔
      reader.Finds cursor value next ∨
        reader.Misses cursor ∧ (firstOf readers).Finds cursor value next :=
  finds_orElse_iff reader (firstOf readers) cursor next value

theorem not_finds_firstOf_nil (cursor next : Cursor) (value : α) :
    ¬ (firstOf []).Finds cursor value next := by
  simp [firstOf, Finds]

theorem misses_firstOf_iff (readers : List (Reader α)) (cursor : Cursor) :
    (firstOf readers).Misses cursor ↔ ∀ reader ∈ readers, reader.Misses cursor := by
  induction readers with
  | nil => simp [firstOf, Misses]
  | cons reader readers induction =>
      rw [firstOf, misses_orElse_iff, induction, List.forall_mem_cons]

/-- What the first construct of a list finds, one of the constructs finds. -/
theorem exists_of_finds_firstOf {readers : List (Reader α)} {cursor next : Cursor} {value : α}
    (finds : (firstOf readers).Finds cursor value next) :
    ∃ reader ∈ readers, reader.Finds cursor value next := by
  induction readers with
  | nil => exact absurd finds (not_finds_firstOf_nil cursor next value)
  | cons reader readers induction =>
      rcases (finds_firstOf_cons_iff ..).mp finds with found | ⟨_, later⟩
      · exact ⟨reader, List.mem_cons_self, found⟩
      · obtain ⟨other, member, found⟩ := induction later
        exact ⟨other, List.mem_cons_of_mem reader member, found⟩

/-- Where the last of some constructs is found, and not as one of the others, these are missed. -/
theorem misses_of_finds_last {others : List (Reader α)} {last : Reader α} {cursor next : Cursor}
    {value : α} (finds : (firstOf (others ++ [last])).Finds cursor value next)
    (apart : ∀ reader ∈ others, ¬ reader.Finds cursor value next) :
    (∀ reader ∈ others, reader.Misses cursor) ∧ last.Finds cursor value next := by
  induction others with
  | nil =>
      obtain ⟨reader, member, found⟩ := exists_of_finds_firstOf finds
      obtain rfl := List.mem_singleton.mp member
      exact ⟨by simp, found⟩
  | cons reader others induction =>
      rw [List.forall_mem_cons] at apart
      obtain ⟨misses, later⟩ := ((finds_firstOf_cons_iff ..).mp finds).resolve_left apart.1
      obtain ⟨others_miss, found⟩ := induction later apart.2
      exact ⟨List.forall_mem_cons.mpr ⟨misses, others_miss⟩, found⟩

theorem finds_optional_iff (reader : Reader α) (cursor next : Cursor) (value : Option α) :
    (optional reader).Finds cursor value next ↔
      (∃ found, value = some found ∧ reader.Finds cursor found next) ∨
        value = none ∧ next = cursor ∧ reader.Misses cursor := by
  cases outcome : (reader cursor).found with
  | none =>
      simp only [optional, Finds, Misses, outcome, Option.some.injEq, Prod.mk.injEq]
      simp [eq_comm]
  | some pair =>
      simp only [optional, Finds, Misses, outcome, Option.some.injEq, Prod.mk.injEq]
      constructor
      · rintro ⟨rfl, rfl⟩
        exact Or.inl ⟨pair.1, rfl, rfl⟩
      · rintro (⟨found, rfl, rfl⟩ | ⟨_, _, impossible⟩)
        · exact ⟨rfl, rfl⟩
        · simp at impossible

theorem finds_optional_some_iff (reader : Reader α) (cursor next : Cursor) (value : α) :
    (optional reader).Finds cursor (some value) next ↔ reader.Finds cursor value next := by
  simp [finds_optional_iff]

theorem not_misses_optional (reader : Reader α) (cursor : Cursor) :
    ¬ (optional reader).Misses cursor := by
  cases outcome : (reader cursor).found with
  | none => simp [optional, Misses, outcome]
  | some pair => simp [optional, Misses, outcome]

theorem finds_token_iff (kind : Token) (cursor next : Cursor) (lexeme : Lexeme) :
    (token kind).Finds cursor lexeme next ↔
      kind.take? cursor.skipGap.rest = some (lexeme.chars, next.rest) ∧
        lexeme.start = cursor.skipGap.offset ∧ next.offset = lexeme.stop := by
  obtain ⟨start, chars⟩ := lexeme
  obtain ⟨offset, rest⟩ := next
  cases taken : kind.take? cursor.skipGap.rest with
  | none => simp [token, Finds, taken]
  | some split =>
      simp only [token, Finds, taken, Option.some.injEq, Prod.mk.injEq, Lexeme.mk.injEq,
        Cursor.mk.injEq, Lexeme.stop]
      constructor
      · rintro ⟨⟨rfl, rfl⟩, rfl, rfl⟩
        exact ⟨rfl, rfl, rfl⟩
      · rintro ⟨rfl, rfl, rfl⟩
        exact ⟨⟨rfl, rfl⟩, rfl, rfl⟩

theorem misses_token_iff (kind : Token) (cursor : Cursor) :
    (token kind).Misses cursor ↔ kind.take? cursor.skipGap.rest = none := by
  cases taken : kind.take? cursor.skipGap.rest with
  | none => simp [token, Misses, taken]
  | some split => simp [token, Misses, taken]

/-- Places with the same place behind their gaps. -/
theorem token_congr (kind : Token) {cursor cursor' : Cursor}
    (same : cursor.skipGap = cursor'.skipGap) : token kind cursor = token kind cursor' := by
  simp only [token, same]

/-- A token that is missed is one that was looked for in vain behind the gap. -/
theorem failures_of_misses_token {kind : Token} {cursor : Cursor}
    (misses : (token kind).Misses cursor) :
    (token kind cursor).failures = [⟨cursor.skipGap.offset, kind⟩] := by
  rw [misses_token_iff] at misses
  simp [token, misses]

theorem mem_failures_bind_left {first : Reader α} (rest : α → Reader β) {cursor : Cursor}
    {failure : Failure} (member : failure ∈ (first cursor).failures) :
    failure ∈ ((first >>= rest) cursor).failures := by
  change failure ∈ (Reader.bind first rest cursor).failures
  cases outcome : (first cursor).found with
  | none => simpa [Reader.bind, outcome] using member
  | some pair => simp [Reader.bind, outcome, member]

theorem mem_failures_bind_right {first : Reader α} {rest : α → Reader β} {cursor middle : Cursor}
    {found : α} {failure : Failure} (finds : first.Finds cursor found middle)
    (member : failure ∈ (rest found middle).failures) :
    failure ∈ ((first >>= rest) cursor).failures := by
  change failure ∈ (Reader.bind first rest cursor).failures
  rw [Finds] at finds
  simp [Reader.bind, finds, member]

theorem mem_failures_orElse_left {first : Reader α} (second : Reader α) {cursor : Cursor}
    {failure : Failure} (member : failure ∈ (first cursor).failures) :
    failure ∈ (first.orElse second cursor).failures := by
  cases outcome : (first cursor).found with
  | none => simp [orElse, outcome, member]
  | some pair => simpa [orElse, outcome] using member

/-! ## Repetition -/

/-- The values that a reader finds one after the other, until it misses. -/
inductive Repeats (reader : Reader α) : Cursor → List α → Cursor → Prop
  | stop {cursor : Cursor} (misses : reader.Misses cursor) : Repeats reader cursor [] cursor
  | more {cursor middle final : Cursor} {value : α} {values : List α}
      (finds : reader.Finds cursor value middle) (others : Repeats reader middle values final) :
      Repeats reader cursor (value :: values) final

theorem Repeats.misses_final {reader : Reader α} {cursor final : Cursor} {values : List α}
    (repeats : Repeats reader cursor values final) : reader.Misses final := by
  induction repeats with
  | stop misses => exact misses
  | more _ _ induction => exact induction

theorem Repeats.forall_mem {reader : Reader α} {property : α → Prop} {cursor final : Cursor}
    {values : List α} (repeats : Repeats reader cursor values final)
    (each : ∀ {cursor value next}, reader.Finds cursor value next → property value) :
    ∀ value ∈ values, property value := by
  induction repeats with
  | stop => simp
  | more finds _ induction => exact List.forall_mem_cons.mpr ⟨each finds, induction⟩

/-- A reader that takes at least one character whenever it finds something. -/
def Advances (reader : Reader α) : Prop :=
  ∀ {cursor value next}, reader.Finds cursor value next → next.rest.length < cursor.rest.length

theorem finds_many_of_repeats {reader : Reader α} (advances : reader.Advances)
    {cursor final : Cursor} {values : List α} (repeats : Repeats reader cursor values final) :
    Finds (many reader) cursor values final := by
  induction repeats with
  | stop misses =>
      change (reader _).found = none at misses
      change (many reader _).found = _
      rw [many]
      simp [misses]
  | more finds _ induction =>
      have shorter := advances finds
      change (reader _).found = _ at finds
      change (many reader _).found = _ at induction ⊢
      rw [many]
      simp [finds, shorter, induction]

theorem exists_repeats {reader : Reader α} (advances : reader.Advances) (cursor : Cursor) :
    ∃ values final, Repeats reader cursor values final := by
  induction length_eq : cursor.rest.length using Nat.strongRecOn generalizing cursor with
  | ind length induction =>
      rcases reader.misses_or_finds cursor with misses | ⟨value, next, finds⟩
      · exact ⟨[], cursor, .stop misses⟩
      · have shorter := advances finds
        obtain ⟨values, final, others⟩ := induction _ (length_eq ▸ shorter) next rfl
        exact ⟨value :: values, final, .more finds others⟩

theorem repeats_of_finds_many {reader : Reader α} (advances : reader.Advances)
    {cursor final : Cursor} {values : List α} (finds : Finds (many reader) cursor values final) :
    Repeats reader cursor values final := by
  obtain ⟨values', final', repeats⟩ := exists_repeats advances cursor
  obtain ⟨rfl, rfl⟩ := finds.unique (finds_many_of_repeats advances repeats)
  exact repeats

/-! ## What all tokens preserve -/

/-- Every token leads from a place with a property to another one. -/
def KeptByTokens (valid : Cursor → Prop) : Prop :=
  ∀ ⦃kind : Token⦄ ⦃cursor next : Cursor⦄ ⦃lexeme : Lexeme⦄,
    valid cursor → (token kind).Finds cursor lexeme next → valid next

/-- From a place with a property, a reader ends at such a place and looks for tokens in vain only
behind the gaps after such places. -/
structure Keeps (valid : Cursor → Prop) (reader : Reader α) : Prop where
  /-- The places where readings end. -/
  next : ∀ {cursor value next}, valid cursor → reader.Finds cursor value next → valid next
  /-- The places where tokens are looked for in vain. -/
  failure : ∀ {cursor failure}, valid cursor → failure ∈ (reader cursor).failures →
    ∃ place, valid place ∧ failure.offset = place.skipGap.offset

variable {valid : Cursor → Prop}

theorem keeps_token (kept : KeptByTokens valid) (kind : Token) : (token kind).Keeps valid where
  next := fun atValid finds => kept atValid finds
  failure := by
    intro cursor failure atValid member
    rcases (token kind).misses_or_finds cursor with misses | ⟨lexeme, next, finds⟩
    · rw [failures_of_misses_token misses, List.mem_singleton] at member
      exact ⟨cursor, atValid, by rw [member]⟩
    · rw [finds_token_iff] at finds
      simp [token, finds.1] at member

theorem keeps_pure (value : α) : Keeps valid (Pure.pure value : Reader α) where
  next := by
    intro cursor found next atValid finds
    obtain ⟨_, rfl⟩ := (finds_pure_iff ..).mp finds
    exact atValid
  failure := by
    intro cursor failure _ member
    change failure ∈ ([] : List Failure) at member
    simp at member

theorem Keeps.bind {first : Reader α} {rest : α → Reader β} (keepsFirst : first.Keeps valid)
    (keepsRest : ∀ found, (rest found).Keeps valid) : Keeps valid (first >>= rest) where
  next := by
    intro cursor value next atValid finds
    obtain ⟨found, middle, found_first, found_rest⟩ := (finds_bind_iff ..).mp finds
    exact (keepsRest found).next (keepsFirst.next atValid found_first) found_rest
  failure := by
    intro cursor failure atValid member
    change failure ∈ (Reader.bind first rest cursor).failures at member
    cases outcome : (first cursor).found with
    | none =>
        simp only [Reader.bind, outcome] at member
        exact keepsFirst.failure atValid member
    | some pair =>
        simp only [Reader.bind, outcome, List.mem_append] at member
        rcases member with member | member
        · exact keepsFirst.failure atValid member
        · exact (keepsRest _).failure (keepsFirst.next atValid outcome) member

theorem Keeps.orElse {first second : Reader α} (keepsFirst : first.Keeps valid)
    (keepsSecond : second.Keeps valid) : (first.orElse second).Keeps valid where
  next := by
    intro cursor value next atValid finds
    rcases (finds_orElse_iff ..).mp finds with found | ⟨_, found⟩
    · exact keepsFirst.next atValid found
    · exact keepsSecond.next atValid found
  failure := by
    intro cursor failure atValid member
    cases outcome : (first cursor).found with
    | none =>
        simp only [Reader.orElse, outcome, List.mem_append] at member
        rcases member with member | member
        · exact keepsFirst.failure atValid member
        · exact keepsSecond.failure atValid member
    | some pair =>
        simp only [Reader.orElse, outcome] at member
        exact keepsFirst.failure atValid member

theorem keeps_firstOf {readers : List (Reader α)} (keeps : ∀ reader ∈ readers, reader.Keeps valid) :
    (firstOf readers).Keeps valid := by
  induction readers with
  | nil =>
      constructor
      · intro cursor value next _ finds
        exact absurd finds (not_finds_firstOf_nil cursor next value)
      · intro cursor failure _ member
        simp [firstOf] at member
  | cons reader readers induction =>
      rw [List.forall_mem_cons] at keeps
      exact keeps.1.orElse (induction keeps.2)

theorem Keeps.optional {reader : Reader α} (keeps : reader.Keeps valid) :
    (Reader.optional reader).Keeps valid where
  next := by
    intro cursor value next atValid finds
    rcases (finds_optional_iff ..).mp finds with ⟨found, _, finds⟩ | ⟨_, rfl, _⟩
    · exact keeps.next atValid finds
    · exact atValid
  failure := by
    intro cursor failure atValid member
    refine keeps.failure atValid ?_
    cases outcome : (reader cursor).found with
    | none => simpa [Reader.optional, outcome] using member
    | some pair => simpa [Reader.optional, outcome] using member

theorem Keeps.many {reader : Reader α} (keeps : reader.Keeps valid) :
    Keeps valid (Reader.many reader) where
  next := by
    intro cursor values final atValid finds
    change (Reader.many reader cursor).found = _ at finds
    fun_induction Reader.many reader cursor generalizing values final with
    | case1 cursor =>
        simp only [Option.some.injEq, Prod.mk.injEq] at finds
        exact finds.2 ▸ atValid
    | case2 cursor reading value next found =>
        rename_i others induction
        obtain ⟨pair, pair_found, pair_eq⟩ := Option.map_eq_some_iff.mp finds
        obtain rfl := (Prod.mk.inj pair_eq).2
        exact induction (keeps.next atValid found) pair_found
    | case3 cursor reading value next found =>
        simp only [Option.some.injEq, Prod.mk.injEq] at finds
        exact finds.2 ▸ keeps.next atValid found
  failure := by
    intro cursor failure atValid member
    fun_induction Reader.many reader cursor with
    | case1 cursor => exact keeps.failure atValid member
    | case2 cursor reading value next found _ others induction =>
        rcases List.mem_append.mp member with member | member
        · exact keeps.failure atValid member
        · exact induction (keeps.next atValid found) member
    | case3 cursor => exact keeps.failure atValid member

/-- Each value of a repetition is found at a place with the property. -/
theorem Repeats.exists_place {reader : Reader α} {cursor final : Cursor} {values : List α}
    (repeats : Repeats reader cursor values final) (keeps : reader.Keeps valid)
    (atValid : valid cursor) :
    ∀ value ∈ values, ∃ place next, valid place ∧ reader.Finds place value next := by
  induction repeats with
  | stop => simp
  | more finds _ induction =>
      exact List.forall_mem_cons.mpr
        ⟨⟨_, _, atValid, finds⟩, induction (keeps.next atValid finds)⟩

/-! ## The tokens that begin a construct -/

/-- Where none of the tokens is found, the reader misses. -/
def Begins (tokens : List Token) (reader : Reader α) : Prop :=
  ∀ cursor, (∀ kind ∈ tokens, (token kind).Misses cursor) → reader.Misses cursor

theorem begins_token (kind : Token) : (token kind).Begins [kind] :=
  fun _ misses => misses kind (List.mem_singleton_self kind)

theorem Begins.mono {tokens more : List Token} {reader : Reader α} (begins : reader.Begins tokens)
    (subset : tokens ⊆ more := by decide) : reader.Begins more :=
  fun cursor misses => begins cursor fun kind member => misses kind (subset member)

theorem Begins.bind {tokens : List Token} {first : Reader α} {rest : α → Reader β}
    (begins : first.Begins tokens) : Begins tokens (first >>= rest) :=
  fun cursor misses => (misses_bind_iff ..).mpr (Or.inl (begins cursor misses))

/-- What follows an optional construct begins the whole as well. -/
theorem Begins.bind_optional {tokens others : List Token} {first : Reader α}
    {rest : Option α → Reader β} (beginsFirst : first.Begins tokens)
    (beginsRest : ∀ found, (rest found).Begins others) :
    Begins (tokens ++ others) (optional first >>= rest) := by
  intro cursor misses
  rw [misses_bind_iff]
  refine Or.inr ⟨none, cursor, (finds_optional_iff ..).mpr (Or.inr ⟨rfl, rfl, ?_⟩), ?_⟩
  · exact beginsFirst cursor fun kind member => misses kind (List.mem_append_left others member)
  · exact beginsRest none cursor fun kind member =>
      misses kind (List.mem_append_right tokens member)

theorem begins_firstOf {tokens : List Token} {readers : List (Reader α)}
    (begins : ∀ reader ∈ readers, reader.Begins tokens) : (firstOf readers).Begins tokens :=
  fun cursor misses =>
    (misses_firstOf_iff ..).mpr fun reader member => begins reader member cursor misses

end Reader

end SearchQuery.Line
