import SearchQuery.Proofs.Line.Acceptance

/-!
# What is looked for in vain

Every token that is looked for in vain counts, those of absent parts and of abandoned constructs
too.  An item looks for nothing but the tokens that items begin with, whatever it is made of and
wherever it ends.  Where no item is found, it has looked for each of them.
-/

namespace SearchQuery.Line

namespace Reader

variable {α β : Type}

/-! ## The failures of the combinators -/

theorem failures_bind_of_misses {first : Reader α} (rest : α → Reader β) {cursor : Cursor}
    (misses : first.Misses cursor) :
    ((first >>= rest) cursor).failures = (first cursor).failures := by
  change (Reader.bind first rest cursor).failures = _
  rw [Misses] at misses
  simp [Reader.bind, misses]

theorem failures_bind_of_finds {first : Reader α} (rest : α → Reader β) {cursor middle : Cursor}
    {found : α} (finds : first.Finds cursor found middle) :
    ((first >>= rest) cursor).failures =
      (first cursor).failures ++ (rest found middle).failures := by
  change (Reader.bind first rest cursor).failures = _
  rw [Finds] at finds
  simp [Reader.bind, finds]

/-- A reader that passes its value on fails as its first part does. -/
theorem failures_map (first : Reader α) (build : α → β) (cursor : Cursor) :
    ((first >>= fun found => Pure.pure (build found)) cursor).failures =
      (first cursor).failures := by
  rcases first.misses_or_finds cursor with misses | ⟨found, middle, finds⟩
  · exact failures_bind_of_misses _ misses
  · exact (failures_bind_of_finds _ finds).trans (List.append_nil _)

theorem failures_orElse_of_misses {first : Reader α} (second : Reader α) {cursor : Cursor}
    (misses : first.Misses cursor) :
    (first.orElse second cursor).failures =
      (first cursor).failures ++ (second cursor).failures := by
  rw [Misses] at misses
  simp [orElse, misses]

theorem failures_orElse_of_finds {first : Reader α} (second : Reader α) {cursor next : Cursor}
    {value : α} (finds : first.Finds cursor value next) :
    (first.orElse second cursor).failures = (first cursor).failures := by
  rw [Finds] at finds
  simp [orElse, finds]

theorem failures_optional (reader : Reader α) (cursor : Cursor) :
    (optional reader cursor).failures = (reader cursor).failures := by
  cases outcome : (reader cursor).found with
  | none => simp [optional, outcome]
  | some pair => simp [optional, outcome]

theorem failures_token_of_finds {kind : Token} {cursor next : Cursor} {lexeme : Lexeme}
    (finds : (token kind).Finds cursor lexeme next) : (token kind cursor).failures = [] := by
  simp [token, ((finds_token_iff ..).mp finds).1]

/-- Where all constructs of a list are missed, the failures of each of them count. -/
theorem mem_failures_firstOf {readers : List (Reader α)} {cursor : Cursor}
    (misses : (firstOf readers).Misses cursor) {reader : Reader α} (reader_mem : reader ∈ readers)
    {failure : Failure} (member : failure ∈ (reader cursor).failures) :
    failure ∈ (firstOf readers cursor).failures := by
  induction readers with
  | nil => cases reader_mem
  | cons first readers induction =>
      obtain ⟨first_misses, others_miss⟩ := (misses_orElse_iff ..).mp misses
      rw [firstOf, failures_orElse_of_misses _ first_misses, List.mem_append]
      rcases List.mem_cons.mp reader_mem with rfl | later
      · exact Or.inl member
      · exact Or.inr (induction others_miss later)

/-- A repetition ends with the failures of the place where nothing more is found. -/
theorem Repeats.mem_failures {reader : Reader α} (advances : reader.Advances)
    {cursor final : Cursor} {values : List α} (repeats : Repeats reader cursor values final)
    {failure : Failure} (member : failure ∈ (reader final).failures) :
    failure ∈ (many reader cursor).failures := by
  induction repeats with
  | stop misses =>
      rw [Misses] at misses
      rw [many]
      simpa [misses] using member
  | more finds _ induction =>
      have shorter := advances finds
      rw [Finds] at finds
      rw [many]
      simp [finds, shorter, induction member]

/-! ## What a reader looks for -/

/-- Whatever the reader looks for in vain from a place on is one of the tokens. -/
def SeeksAt (tokens : List Token) (reader : Reader α) (cursor : Cursor) : Prop :=
  ∀ failure ∈ (reader cursor).failures, failure.token ∈ tokens

variable {tokens : List Token} {cursor : Cursor}

theorem seeksAt_token {kind : Token} (member : kind ∈ tokens) :
    (token kind).SeeksAt tokens cursor := by
  rcases (token kind).misses_or_finds cursor with misses | ⟨lexeme, next, finds⟩
  · rw [SeeksAt, failures_of_misses_token misses]
    simpa using member
  · rw [SeeksAt, failures_token_of_finds finds]
    simp

theorem SeeksAt.map {first : Reader α} (build : α → β) (seeks : first.SeeksAt tokens cursor) :
    SeeksAt tokens (first >>= fun found => Pure.pure (build found)) cursor := by
  rw [SeeksAt, failures_map]
  exact seeks

theorem SeeksAt.bind {first : Reader α} {rest : α → Reader β}
    (seeks : first.SeeksAt tokens cursor)
    (goesOn : ∀ found middle, first.Finds cursor found middle →
      (rest found).SeeksAt tokens middle) :
    SeeksAt tokens (first >>= rest) cursor := by
  rcases first.misses_or_finds cursor with misses | ⟨found, middle, finds⟩
  · rw [SeeksAt, failures_bind_of_misses _ misses]
    exact seeks
  · rw [SeeksAt, failures_bind_of_finds _ finds, List.forall_mem_append]
    exact ⟨seeks, goesOn found middle finds⟩

theorem SeeksAt.optional {reader : Reader α} (seeks : reader.SeeksAt tokens cursor) :
    (Reader.optional reader).SeeksAt tokens cursor := by
  rw [SeeksAt, failures_optional]
  exact seeks

theorem seeksAt_firstOf {readers : List (Reader α)}
    (seeks : ∀ reader ∈ readers, reader.SeeksAt tokens cursor) :
    (firstOf readers).SeeksAt tokens cursor := by
  induction readers with
  | nil => simp [SeeksAt, firstOf]
  | cons reader readers induction =>
      rw [List.forall_mem_cons] at seeks
      rw [firstOf]
      rcases reader.misses_or_finds cursor with misses | ⟨value, next, finds⟩
      · rw [SeeksAt, failures_orElse_of_misses _ misses, List.forall_mem_append]
        exact ⟨seeks.1, induction seeks.2⟩
      · rw [SeeksAt, failures_orElse_of_finds _ finds]
        exact seeks.1

theorem seeksAt_many {reader : Reader α} (seeks : ∀ cursor, reader.SeeksAt tokens cursor)
    (cursor : Cursor) : SeeksAt tokens (many reader) cursor := by
  intro failure member
  fun_induction many reader cursor with
  | case1 cursor => exact seeks cursor failure member
  | case2 cursor reading value next found _ others induction =>
      rcases List.mem_append.mp member with member | member
      · exact seeks cursor failure member
      · exact induction member
  | case3 cursor => exact seeks cursor failure member

end Reader

open Reader

/-! ## What an item looks for -/

section Items

variable (cursor : Cursor)

private theorem seeksAt_token_map {α : Type} {kind : Token} (build : Lexeme → α)
    (member : kind ∈ itemTokens := by decide) :
    SeeksAt itemTokens (token kind >>= fun lexeme => Pure.pure (build lexeme)) cursor :=
  (seeksAt_token member).map _

theorem seeksAt_date : date.SeeksAt itemTokens cursor := seeksAt_token_map cursor _

theorem seeksAt_number : number.SeeksAt itemTokens cursor := seeksAt_token_map cursor _

theorem seeksAt_variableName : variableName.SeeksAt itemTokens cursor := seeksAt_token_map cursor _

theorem seeksAt_literal : literal.SeeksAt itemTokens cursor := seeksAt_token_map cursor _

theorem seeksAt_boundary : boundary.SeeksAt itemTokens cursor := by
  apply seeksAt_firstOf
  simp only [List.forall_mem_cons]
  exact ⟨(seeksAt_date cursor).map _, (seeksAt_number cursor).map _,
    (seeksAt_variableName cursor).map _, seeksAt_token_map cursor _, by simp⟩

theorem seeksAt_range : range.SeeksAt itemTokens cursor :=
  (seeksAt_boundary cursor).optional.bind fun _ _ _ => (seeksAt_token (by decide)).bind
    fun _ back _ => (seeksAt_boundary back).optional.map _

theorem seeksAt_comparison : comparison.SeeksAt itemTokens cursor := by
  refine (seeksAt_token (by decide)).bind fun _ front _ => (seeksAt_firstOf ?_).optional.map _
  simp only [List.forall_mem_cons]
  exact ⟨seeksAt_date front, seeksAt_number front, seeksAt_variableName front,
    seeksAt_literal front, by simp⟩

theorem seeksAt_qualifierValue : qualifierValue.SeeksAt itemTokens cursor := by
  apply seeksAt_firstOf
  simp only [List.forall_mem_cons]
  exact ⟨seeksAt_range cursor, seeksAt_comparison cursor, seeksAt_date cursor,
    seeksAt_number cursor, seeksAt_variableName cursor, seeksAt_literal cursor, by simp⟩

/-- The colon behind a name or keyword is not looked for in vain. -/
private theorem seeksAt_colon {place : Cursor} (colon : ∃ after, place.rest = ':' :: after) :
    (token .colon).SeeksAt itemTokens place := by
  obtain ⟨after, rest_eq⟩ := colon
  have noGap : place.skipGap = place :=
    Cursor.skipGap_of_not_isGap (by simp [rest_eq, Text.isGap])
  have taken : Token.colon.take? place.skipGap.rest = some ([':'], after) := by
    rw [noGap, rest_eq]
    exact takeWord?_append [':'] after
  simp [SeeksAt, token, taken]

theorem seeksAt_qualifiedValue : qualifiedValue.SeeksAt itemTokens cursor :=
  (seeksAt_token (by decide)).optional.bind fun _ _ _ => (seeksAt_token (by decide)).bind
    fun _ _ finds => (seeksAt_colon (exists_colon_of_finds_name finds)).bind
      fun _ back _ => (seeksAt_qualifierValue back).optional.map _

theorem seeksAt_sortDirective : sortDirective.SeeksAt itemTokens cursor := by
  refine (seeksAt_token (by decide)).bind fun _ _ finds =>
    (seeksAt_colon (exists_colon_of_finds_sortWord finds)).bind fun _ back _ =>
      (seeksAt_firstOf ?_).optional.map _
  simp only [List.forall_mem_cons]
  exact ⟨seeksAt_variableName back, seeksAt_literal back, by simp⟩

/-- An item looks for nothing but the tokens that an item can begin with. -/
theorem seeksAt_item : item.SeeksAt itemTokens cursor := by
  apply seeksAt_firstOf
  simp only [List.forall_mem_cons]
  exact ⟨seeksAt_token_map cursor _, seeksAt_sortDirective cursor, seeksAt_qualifiedValue cursor,
    seeksAt_range cursor, seeksAt_comparison cursor, seeksAt_date cursor, seeksAt_number cursor,
    seeksAt_variableName cursor, seeksAt_literal cursor, by simp⟩

end Items

/-- Where no item is found, no token is but the end of the line. -/
theorem misses_token_of_misses_item {cursor : Cursor} (misses : item.Misses cursor) {kind : Token}
    (not_finish : kind ≠ .finish) : (token kind).Misses cursor := by
  rw [misses_token_iff]
  apply Token.take?_eq_none_of_blank not_finish
  intro c head
  obtain ⟨rest, rest_eq⟩ := List.head?_eq_some_iff.mp head
  rw [← Bool.not_eq_false]
  intro notBlank
  exact not_misses_item rest_eq notBlank misses

/-- Where no item is found, every token that an item can begin with was looked for. -/
theorem mem_failures_item {cursor : Cursor} (misses : item.Misses cursor) :
    ∀ kind ∈ itemTokens, ⟨cursor.skipGap.offset, kind⟩ ∈ (item cursor).failures := by
  have looked {kind : Token} (not_finish : kind ≠ .finish := by simp) :
      ⟨cursor.skipGap.offset, kind⟩ ∈ (token kind cursor).failures := by
    simp [failures_of_misses_token (misses_token_of_misses_item misses not_finish)]
  have inItem (reader : Reader Node) {kind : Token}
      (member : ⟨cursor.skipGap.offset, kind⟩ ∈ (reader cursor).failures)
      (reader_mem : reader ∈ [orWord, sortDirective, qualifiedValue, range, comparison, date,
        number, variableName, literal] := by simp) :
      ⟨cursor.skipGap.offset, kind⟩ ∈ (item cursor).failures :=
    mem_failures_firstOf misses reader_mem member
  -- A name is looked for behind the absent hyphen, and the dots behind the absent boundary.
  have noDash : (optional (token .dash)).Finds cursor none cursor :=
    (finds_optional_iff ..).mpr
      (Or.inr ⟨rfl, rfl, misses_token_of_misses_item misses (by simp)⟩)
  have noBoundary : boundary.Misses cursor := by
    apply begins_boundary
    intro kind member
    apply misses_token_of_misses_item misses
    rintro rfl
    simp [boundaryTokens] at member
  have noLower : (optional boundary).Finds cursor none cursor :=
    (finds_optional_iff ..).mpr (Or.inr ⟨rfl, rfl, noBoundary⟩)
  have starred : ⟨cursor.skipGap.offset, .star⟩ ∈ (star cursor).failures :=
    mem_failures_bind_left _ looked
  have bounded : ⟨cursor.skipGap.offset, .star⟩ ∈ (boundary cursor).failures :=
    mem_failures_firstOf noBoundary (by simp) starred
  simp only [itemTokens, valueTokens, boundaryTokens, List.cons_append, List.nil_append,
    List.forall_mem_cons]
  exact ⟨inItem orWord (mem_failures_bind_left _ looked),
    inItem sortDirective (mem_failures_bind_left _ looked),
    inItem qualifiedValue (mem_failures_bind_left _ (failures_optional (token .dash) _ ▸ looked)),
    inItem qualifiedValue (mem_failures_bind_right noDash (mem_failures_bind_left _ looked)),
    inItem date (mem_failures_bind_left _ looked),
    inItem number (mem_failures_bind_left _ looked),
    inItem variableName (mem_failures_bind_left _ looked),
    inItem range (mem_failures_bind_left _ (failures_optional boundary _ ▸ bounded)),
    inItem range (mem_failures_bind_right noLower (mem_failures_bind_left _ looked)),
    inItem comparison (mem_failures_bind_left _ looked),
    inItem literal (mem_failures_bind_left _ looked), by simp⟩

end SearchQuery.Line
