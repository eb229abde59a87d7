import Mathlib.Data.List.Forall2
import SearchQuery.Proofs.Line.Acceptance
import SearchQuery.Proofs.Line.Bare

/-!
# Lines that are read alike

A correspondence tells which places of one line answer which places of another.  If every token
looked for at places that answer each other is found in both lines or in neither, with the same
characters, then so is every construct: it is found in both lines or in neither, with the same
shape, and the tokens looked for in vain are the same at offsets that answer each other.  Lines that
correspond from their beginnings have the same tree or the same error.
-/

namespace SearchQuery.Line

/-- The places of two lines that answer each other. -/
structure Correspondence where
  /-- The places from which both lines are read on. -/
  Cursors : Cursor → Cursor → Prop
  /-- The offsets at which tokens are looked for in both lines. -/
  Offsets : Nat → Nat → Prop

namespace Correspondence

open Reader

variable {α β κ ι : Type}

/-- The same token, looked for in vain at offsets that answer each other. -/
structure Failures (lines : Correspondence) (left right : Failure) : Prop where
  token : left.token = right.token
  offset : lines.Offsets left.offset right.offset

/-- Values of the same shape, found up to places that answer each other. -/
structure Found (lines : Correspondence) (shape : α → κ) (left right : α × Cursor) : Prop where
  shape : shape left.1 = shape right.1
  next : lines.Cursors left.2 right.2

/-- Readings that look for the same tokens in vain and find the same, or nothing. -/
structure Readings (lines : Correspondence) (shape : α → κ) (left right : Reading α) : Prop where
  failures : List.Forall₂ lines.Failures left.failures right.failures
  found : Option.Rel (lines.Found shape) left.found right.found

/-- Readers that read alike from all places that answer each other. -/
structure Readers (lines : Correspondence) (shape : α → κ) (left right : Reader α) : Prop where
  read : ∀ {cursor cursor'}, lines.Cursors cursor cursor' →
    lines.Readings shape (left cursor) (right cursor')

/-- Every token is read alike. -/
def RespectsTokens (lines : Correspondence) : Prop :=
  ∀ kind, lines.Readers Lexeme.chars (token kind) (token kind)

/-- A token is read alike where it is found in both lines or in neither. -/
theorem readings_token {lines : Correspondence} {kind : Token} {cursor cursor' : Cursor}
    (offsets : lines.Offsets cursor.skipGap.offset cursor'.skipGap.offset)
    (splits : Option.Rel
      (fun split split' : Split => split.1 = split'.1 ∧
        lines.Cursors ⟨cursor.skipGap.offset + split.1.length, split.2⟩
          ⟨cursor'.skipGap.offset + split'.1.length, split'.2⟩)
      (kind.take? cursor.skipGap.rest) (kind.take? cursor'.skipGap.rest)) :
    lines.Readings Lexeme.chars (token kind cursor) (token kind cursor') := by
  simp only [token]
  generalize kind.take? cursor.skipGap.rest = taken at splits ⊢
  generalize kind.take? cursor'.skipGap.rest = taken' at splits ⊢
  cases splits with
  | none => exact ⟨.cons ⟨rfl, offsets⟩ .nil, .none⟩
  | some same => exact ⟨.nil, .some ⟨same.1, same.2⟩⟩

/-! ## Combinators -/

section Combinators

variable {lines : Correspondence} {shape : α → κ}

theorem Readings.misses_or_finds {left right : Reading α}
    (alike : lines.Readings shape left right) :
    left.found = none ∧ right.found = none ∨
      ∃ value next value' next', left.found = some (value, next) ∧
        right.found = some (value', next') ∧ shape value = shape value' ∧
        lines.Cursors next next' := by
  have found := alike.found
  generalize left.found = outcome, right.found = outcome' at found
  cases found with
  | none => exact Or.inl ⟨rfl, rfl⟩
  | some same => exact Or.inr ⟨_, _, _, _, rfl, rfl, same.shape, same.next⟩

theorem readers_pure {value value' : α} (same : shape value = shape value') :
    lines.Readers shape (Pure.pure value) (Pure.pure value') :=
  ⟨fun cursors => ⟨.nil, .some ⟨same, cursors⟩⟩⟩

theorem Readers.bind {first first' : Reader α} {rest rest' : α → Reader β} {final : β → ι}
    (firsts : lines.Readers shape first first')
    (rests : ∀ {value value'}, shape value = shape value' →
      lines.Readers final (rest value) (rest' value')) :
    lines.Readers final (first >>= rest) (first' >>= rest') := by
  constructor
  intro cursor cursor' cursors
  have alike := firsts.read cursors
  change lines.Readings final (Reader.bind first rest cursor) (Reader.bind first' rest' cursor')
  rcases alike.misses_or_finds with
    ⟨none, none'⟩ | ⟨value, next, value', next', found, found', same, nexts⟩
  · simp only [Reader.bind, none, none']
    exact ⟨alike.failures, .none⟩
  · simp only [Reader.bind, found, found']
    have later := (rests same).read nexts
    exact ⟨List.rel_append alike.failures later.failures, later.found⟩

theorem Readers.orElse {first first' second second' : Reader α}
    (firsts : lines.Readers shape first first') (seconds : lines.Readers shape second second') :
    lines.Readers shape (first.orElse second) (first'.orElse second') := by
  constructor
  intro cursor cursor' cursors
  have alike := firsts.read cursors
  rcases alike.misses_or_finds with
    ⟨none, none'⟩ | ⟨value, next, value', next', found, found', same, nexts⟩
  · simp only [Reader.orElse, none, none']
    have later := seconds.read cursors
    exact ⟨List.rel_append alike.failures later.failures, later.found⟩
  · simp only [Reader.orElse, found, found']
    exact ⟨alike.failures, .some ⟨same, nexts⟩⟩

theorem readers_firstOf {readers : List (Reader α)}
    (alike : ∀ reader ∈ readers, lines.Readers shape reader reader) :
    lines.Readers shape (firstOf readers) (firstOf readers) := by
  induction readers with
  | nil => exact ⟨fun _ => ⟨.nil, .none⟩⟩
  | cons reader readers induction =>
      rw [List.forall_mem_cons] at alike
      exact alike.1.orElse (induction alike.2)

theorem Readers.optional {reader reader' : Reader α} (alike : lines.Readers shape reader reader') :
    lines.Readers (Option.map shape) (Reader.optional reader) (Reader.optional reader') := by
  constructor
  intro cursor cursor' cursors
  have alike := alike.read cursors
  rcases alike.misses_or_finds with
    ⟨none, none'⟩ | ⟨value, next, value', next', found, found', same, nexts⟩
  · simp only [Reader.optional, none, none']
    exact ⟨alike.failures, .some ⟨rfl, cursors⟩⟩
  · simp only [Reader.optional, found, found']
    exact ⟨alike.failures, .some ⟨congrArg some same, nexts⟩⟩

theorem Readers.many {reader : Reader α} (advances : reader.Advances)
    (alike : lines.Readers shape reader reader) :
    lines.Readers (List.map shape) (Reader.many reader) (Reader.many reader) := by
  constructor
  intro cursor cursor' cursors
  induction length_eq : cursor.rest.length using Nat.strongRecOn generalizing cursor cursor' with
  | ind length induction =>
      have once := alike.read cursors
      rw [Reader.many, Reader.many]
      rcases once.misses_or_finds with
        ⟨none, none'⟩ | ⟨value, next, value', next', found, found', same, nexts⟩
      · simp only [none, none']
        exact ⟨once.failures, .some ⟨rfl, cursors⟩⟩
      · have shorter : next.rest.length < cursor.rest.length := advances found
        have shorter' : next'.rest.length < cursor'.rest.length := advances found'
        have later := induction _ (length_eq ▸ shorter) nexts rfl
        simp only [found, found', shorter, shorter', if_true]
        refine ⟨List.rel_append once.failures later.failures, ?_⟩
        rcases later.misses_or_finds with
          ⟨none, none'⟩ | ⟨values, final, values', final', found, found', sames, finals⟩
        · simp only [none, none']
          exact .none
        · simp only [found, found', Option.map_some]
          exact .some ⟨congrArg₂ List.cons same sames, finals⟩

end Combinators

/-! ## Constructs -/

section Constructs

variable {lines : Correspondence} (tokens : lines.RespectsTokens)

include tokens

private theorem readers_token_map {kind : Token} {build : Lexeme → α} {shape : α → κ}
    (same : ∀ {lexeme lexeme'}, lexeme.chars = lexeme'.chars →
      shape (build lexeme) = shape (build lexeme')) :
    lines.Readers shape (token kind >>= fun lexeme => Pure.pure (build lexeme))
      (token kind >>= fun lexeme => Pure.pure (build lexeme)) :=
  (tokens kind).bind fun chars_eq => readers_pure (same chars_eq)

theorem readers_date : lines.Readers Node.bare date date :=
  readers_token_map tokens fun chars_eq => by simp [Node.bare, Lexeme.text, chars_eq]

theorem readers_number : lines.Readers Node.bare number number :=
  readers_token_map tokens fun chars_eq => by simp [Node.bare, Lexeme.text, chars_eq]

theorem readers_variableName : lines.Readers Node.bare variableName variableName :=
  readers_token_map tokens fun chars_eq => by simp [Node.bare, Lexeme.text, chars_eq]

theorem readers_literal : lines.Readers Node.bare literal literal :=
  readers_token_map tokens fun chars_eq => by simp [Node.bare, chars_eq]

theorem readers_orWord : lines.Readers Node.bare orWord orWord :=
  readers_token_map tokens fun _ => by simp [Node.bare]

theorem readers_boundary : lines.Readers Boundary.shape boundary boundary := by
  have readers_bounding {reader : Reader Node} (alike : lines.Readers Node.bare reader reader) :
      lines.Readers Boundary.shape (bounding reader) (bounding reader) :=
    alike.bind fun same => readers_pure (by simp [Boundary.shape, Boundary.ofNode, same])
  apply readers_firstOf
  simp only [List.forall_mem_cons]
  exact ⟨readers_bounding (readers_date tokens), readers_bounding (readers_number tokens),
    readers_bounding (readers_variableName tokens), readers_token_map tokens fun _ => rfl, by simp⟩

theorem readers_range : lines.Readers Node.bare range range :=
  (readers_boundary tokens).optional.bind fun lower_same => (tokens .dots).bind fun _ =>
    (readers_boundary tokens).optional.bind fun upper_same => readers_pure (by
      have shape_eq {bound bound' : Option Boundary}
          (same : bound.map Boundary.shape = bound'.map Boundary.shape) :
          bound.bind Boundary.shape = bound'.bind Boundary.shape := by
        cases bound <;> cases bound' <;> simp_all
      simp only [Node.bare, Node.bareOption_eq_map, map_bare_bind_node, shape_eq lower_same,
        shape_eq upper_same])

theorem readers_comparison : lines.Readers Node.bare comparison comparison := by
  have readers_value : lines.Readers Node.bare (firstOf [date, number, variableName, literal])
      (firstOf [date, number, variableName, literal]) := by
    apply readers_firstOf
    simp only [List.forall_mem_cons]
    exact ⟨readers_date tokens, readers_number tokens, readers_variableName tokens,
      readers_literal tokens, by simp⟩
  exact (tokens .comparison).bind fun operator_same => readers_value.optional.bind fun same =>
    readers_pure (by
      simp only [Node.bare, Lexeme.text, operator_same]
      exact congrArg _ (bare_orMissing same _ _ _))

theorem readers_qualifierValue : lines.Readers Node.bare qualifierValue qualifierValue := by
  apply readers_firstOf
  simp only [List.forall_mem_cons]
  exact ⟨readers_range tokens, readers_comparison tokens, readers_date tokens,
    readers_number tokens, readers_variableName tokens, readers_literal tokens, by simp⟩

theorem readers_qualifiedValue : lines.Readers Node.bare qualifiedValue qualifiedValue :=
  (tokens .dash).optional.bind fun dash_same => (tokens .name).bind fun name_same =>
    (tokens .colon).bind fun _ => (readers_qualifierValue tokens).optional.bind fun same =>
      readers_pure (by
        have isSome_eq := congrArg Option.isSome dash_same
        simp only [Option.isSome_map] at isSome_eq
        simp only [Node.bare, Lexeme.text, name_same, isSome_eq]
        exact congrArg _ (bare_orMissing same _ _ _))

theorem readers_sortDirective : lines.Readers Node.bare sortDirective sortDirective := by
  have readers_criteria : lines.Readers Node.bare (firstOf [variableName, literal])
      (firstOf [variableName, literal]) := by
    apply readers_firstOf
    simp only [List.forall_mem_cons]
    exact ⟨readers_variableName tokens, readers_literal tokens, by simp⟩
  exact (tokens .sortWord).bind fun keyword_same => (tokens .colon).bind fun _ =>
    readers_criteria.optional.bind fun same => readers_pure (by
      simp only [Node.bare, Lexeme.text, keyword_same]
      exact congrArg _ (bare_orMissing same _ _ _))

theorem readers_item : lines.Readers Node.bare item item := by
  apply readers_firstOf
  simp only [List.forall_mem_cons]
  exact ⟨readers_orWord tokens, readers_sortDirective tokens, readers_qualifiedValue tokens,
    readers_range tokens, readers_comparison tokens, readers_date tokens, readers_number tokens,
    readers_variableName tokens, readers_literal tokens, by simp⟩

theorem readers_definition : lines.Readers Node.bare definition definition :=
  (tokens .variable).bind fun name_same => (tokens .equals).bind fun _ =>
    ((readers_item tokens).many advances_item).bind fun same => readers_pure (by
      simp only [Node.bare, Lexeme.text, name_same]
      exact congrArg (Node.definition _ _ · _) (bare_definedValue same _ _))

theorem readers_query : lines.Readers Node.bare query query :=
  (readers_item tokens).bind fun first_same =>
    ((readers_item tokens).many advances_item).bind fun same => readers_pure (by
      rw [bare_queryOf, bare_queryOf, List.map_cons, List.map_cons, first_same, same])

/-- Lines whose tokens are read alike are read alike. -/
theorem readers_line : lines.Readers Node.bare line line :=
  ((readers_definition tokens).orElse (readers_query tokens)).bind fun same =>
    (tokens .finish).bind fun _ => readers_pure same

end Constructs

/-! ## Errors -/

section Errors

variable {lines : Correspondence}
  (ordered : ∀ {left left' right right'}, lines.Offsets left left' → lines.Offsets right right' →
    (left < right ↔ left' < right'))

include ordered

/-- Among failures that answer each other, two that answer each other are the farthest. -/
private theorem exists_farthest {failures failures' : List Failure}
    (alike : List.Forall₂ lines.Failures failures failures') (nonempty : failures ≠ []) :
    ∃ last ∈ failures, ∃ last' ∈ failures', lines.Failures last last' ∧
      (∀ failure ∈ failures, failure.offset ≤ last.offset) ∧
      ∀ failure ∈ failures', failure.offset ≤ last'.offset := by
  induction alike with
  | nil => exact absurd rfl nonempty
  | @cons first first' others others' same later induction =>
      simp only [List.forall_mem_cons]
      by_cases single : others = []
      · subst single
        cases later
        exact ⟨first, List.mem_cons_self, first', List.mem_cons_self, same, by simp, by simp⟩
      · obtain ⟨last, member, last', member', lasts, bound, bound'⟩ := induction single
        have order := ordered lasts.offset same.offset
        by_cases farther : last.offset < first.offset
        · have farther' := order.mp farther
          refine ⟨first, List.mem_cons_self, first', List.mem_cons_self, same,
            ⟨le_rfl, fun failure member => ?_⟩, le_rfl, fun failure member => ?_⟩
          · exact (bound failure member).trans farther.le
          · exact (bound' failure member).trans farther'.le
        · have nearer' := order.not.mp farther
          exact ⟨last, List.mem_cons_of_mem first member, last',
            List.mem_cons_of_mem first' member', lasts, ⟨by omega, bound⟩, by omega, bound'⟩

/-- Failures that answer each other amount to the same error. -/
theorem ofFailures_alike {failures failures' : List Failure}
    (alike : List.Forall₂ lines.Failures failures failures') (nonempty : failures ≠ []) :
    lines.Offsets (SyntaxError.ofFailures failures).offset
        (SyntaxError.ofFailures failures').offset ∧
      (SyntaxError.ofFailures failures).expected = (SyntaxError.ofFailures failures').expected := by
  obtain ⟨last, member, last', member', lasts, bound, bound'⟩ :=
    exists_farthest ordered alike nonempty
  have offset_eq := SyntaxError.offset_ofFailures ⟨last, member, rfl⟩ bound
  have offset_eq' := SyntaxError.offset_ofFailures ⟨last', member', rfl⟩ bound'
  refine ⟨offset_eq ▸ offset_eq' ▸ lasts.offset, ?_⟩
  have filtered : List.Forall₂ lines.Failures (failures.filter (·.offset == last.offset))
      (failures'.filter (·.offset == last'.offset)) := by
    refine List.rel_filter (fun failure failure' same => ?_) alike
    have before := ordered same.offset lasts.offset
    have behind := ordered lasts.offset same.offset
    simp only [beq_iff_eq]
    omega
  have tokens_eq : (failures.filter (·.offset == last.offset)).map (·.token) =
      (failures'.filter (·.offset == last'.offset)).map (·.token) := by
    rw [← List.forall₂_eq_eq_eq, List.forall₂_map_left_iff, List.forall₂_map_right_iff]
    exact filtered.imp fun _ _ same => same.token
  change ((failures.filter (·.offset == (SyntaxError.ofFailures failures).offset)).map
    (·.token)).eraseDups = ((failures'.filter (·.offset ==
      (SyntaxError.ofFailures failures').offset)).map (·.token)).eraseDups
  rw [offset_eq, offset_eq', tokens_eq]

/-- Lines that correspond from their beginnings have the same tree or the same error. -/
theorem parse_alike (tokens : lines.RespectsTokens) {content content' : List Char}
    (start : lines.Cursors ⟨0, content⟩ ⟨0, content'⟩) :
    (∃ node node', parse content = .ok node ∧ parse content' = .ok node' ∧
        node.bare = node'.bare) ∨
      ∃ error error', parse content = .error error ∧ parse content' = .error error' ∧
        lines.Offsets error.offset error'.offset ∧ error.expected = error'.expected := by
  have alike := (readers_line tokens).read start
  rcases alike.misses_or_finds with
    ⟨none, none'⟩ | ⟨node, next, node', next', found, found', same, _⟩
  · exact Or.inr ⟨_, _, parse_of_misses none, parse_of_misses none',
      ofFailures_alike ordered alike.failures (failures_ne_nil_of_misses_line none)⟩
  · exact Or.inl ⟨node, node', parse_of_finds found, parse_of_finds found', same⟩

end Errors

end Correspondence

end SearchQuery.Line
