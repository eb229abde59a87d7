import SearchQuery.Proofs.Line.Bare
import SearchQuery.Proofs.Line.Grammar
import SearchQuery.Proofs.Line.Locality

/-!
# Reading in another context

What a reader does at a place depends on the text behind the gap there, and on nothing else.  Where
a bare word is read again in front of another text, a construct that was missed before is missed
again, if the other text begins no more constructs than the first did.
-/

namespace SearchQuery.Line

open Text (isBlank isGap)

/-- A text without the gap at its beginning. -/
def ungap (text : List Char) : List Char := text.dropWhile isGap

theorem Cursor.skipGap_rest (cursor : Cursor) : cursor.skipGap.rest = ungap cursor.rest := rfl

theorem ungap_cons {c : Char} (visible : isBlank c = false) (text : List Char) :
    ungap (c :: text) = c :: text := by
  have noGap : isGap c = false := by
    rw [← Bool.not_eq_true]
    intro gap
    simp [Text.isBlank_of_isGap gap] at visible
  simp [ungap, noGap]

namespace Reader

variable {α β : Type}

/-- The reader misses wherever the text stands behind the gap. -/
def MissesAt (reader : Reader α) (text : List Char) : Prop :=
  ∀ cursor, cursor.skipGap.rest = text → reader.Misses cursor

/-- Wherever the text stands behind the gap, the reader finds a value with the property and leaves
the other text behind the next gap. -/
def FindsAt (reader : Reader α) (text after : List Char) (property : α → Prop) : Prop :=
  ∀ cursor, cursor.skipGap.rest = text →
    ∃ value next, reader.Finds cursor value next ∧ next.skipGap.rest = after ∧ property value

theorem missesAt_token {kind : Token} {text : List Char} (none : kind.take? text = none) :
    (token kind).MissesAt text :=
  fun cursor text_eq => (misses_token_iff kind cursor).mpr (text_eq ▸ none)

theorem findsAt_token {kind : Token} {text chars after : List Char}
    (taken : kind.take? text = some (chars, after)) :
    (token kind).FindsAt text (ungap after) fun lexeme => lexeme.chars = chars := by
  intro cursor text_eq
  refine ⟨⟨cursor.skipGap.offset, chars⟩, ⟨cursor.skipGap.offset + chars.length, after⟩, ?_, rfl,
    rfl⟩
  rw [finds_token_iff, text_eq]
  exact ⟨taken, rfl, rfl⟩

theorem findsAt_pure {value : α} {text : List Char} {property : α → Prop} (holds : property value) :
    FindsAt (Pure.pure value) text text property :=
  fun cursor text_eq => ⟨value, cursor, (finds_pure_iff ..).mpr ⟨rfl, rfl⟩, text_eq, holds⟩

theorem FindsAt.bind {first : Reader α} {rest : α → Reader β} {text middle after : List Char}
    {property : α → Prop} {later : β → Prop} (finds : first.FindsAt text middle property)
    (continues : ∀ value, property value → (rest value).FindsAt middle after later) :
    FindsAt (first >>= rest) text after later := by
  intro cursor text_eq
  obtain ⟨value, place, found, place_eq, holds⟩ := finds cursor text_eq
  obtain ⟨result, next, found_rest, next_eq, result_holds⟩ := continues value holds place place_eq
  exact ⟨result, next, (finds_bind_iff ..).mpr ⟨value, place, found, found_rest⟩, next_eq,
    result_holds⟩

theorem FindsAt.map {first : Reader α} {build : α → β} {text after : List Char}
    {property : α → Prop} {later : β → Prop} (finds : first.FindsAt text after property)
    (builds : ∀ value, property value → later (build value)) :
    FindsAt (first >>= fun value => Pure.pure (build value)) text after later :=
  finds.bind fun value holds => findsAt_pure (builds value holds)

theorem MissesAt.bind {first : Reader α} {rest : α → Reader β} {text : List Char}
    (misses : first.MissesAt text) : MissesAt (first >>= rest) text :=
  fun cursor text_eq => (misses_bind_iff ..).mpr (Or.inl (misses cursor text_eq))

theorem FindsAt.bind_misses {first : Reader α} {rest : α → Reader β} {text middle : List Char}
    {property : α → Prop} (finds : first.FindsAt text middle property)
    (misses : ∀ value, (rest value).MissesAt middle) : MissesAt (first >>= rest) text := by
  intro cursor text_eq
  obtain ⟨value, place, found, place_eq, _⟩ := finds cursor text_eq
  exact (misses_bind_iff ..).mpr (Or.inr ⟨value, place, found, misses value place place_eq⟩)

theorem FindsAt.optional {reader : Reader α} {text after : List Char} {property : α → Prop}
    (finds : reader.FindsAt text after property) :
    (Reader.optional reader).FindsAt text after fun found =>
      ∃ value, found = some value ∧ property value := by
  intro cursor text_eq
  obtain ⟨value, next, found, next_eq, holds⟩ := finds cursor text_eq
  exact ⟨some value, next, (finds_optional_iff ..).mpr (Or.inl ⟨value, rfl, found⟩), next_eq, value,
    rfl, holds⟩

theorem MissesAt.optional {reader : Reader α} {text : List Char} (misses : reader.MissesAt text) :
    (Reader.optional reader).FindsAt text text fun found => found = none :=
  fun cursor text_eq => ⟨none, cursor,
    (finds_optional_iff ..).mpr (Or.inr ⟨rfl, rfl, misses cursor text_eq⟩), text_eq, rfl⟩

theorem FindsAt.firstOf_head {reader : Reader α} {readers : List (Reader α)}
    {text after : List Char} {property : α → Prop} (finds : reader.FindsAt text after property) :
    (firstOf (reader :: readers)).FindsAt text after property := by
  intro cursor text_eq
  obtain ⟨value, next, found, facts⟩ := finds cursor text_eq
  exact ⟨value, next, (finds_firstOf_cons_iff ..).mpr (Or.inl found), facts⟩

theorem FindsAt.firstOf_tail {reader : Reader α} {readers : List (Reader α)}
    {text after : List Char} {property : α → Prop}
    (finds : (firstOf readers).FindsAt text after property) (misses : reader.MissesAt text) :
    (firstOf (reader :: readers)).FindsAt text after property := by
  intro cursor text_eq
  obtain ⟨value, next, found, facts⟩ := finds cursor text_eq
  exact ⟨value, next,
    (finds_firstOf_cons_iff ..).mpr (Or.inr ⟨misses cursor text_eq, found⟩), facts⟩

theorem FindsAt.mono {reader : Reader α} {text after : List Char} {property weaker : α → Prop}
    (finds : reader.FindsAt text after property)
    (weakens : ∀ value, property value → weaker value) :
    reader.FindsAt text after weaker := by
  intro cursor text_eq
  obtain ⟨value, next, found, next_eq, holds⟩ := finds cursor text_eq
  exact ⟨value, next, found, next_eq, weakens value holds⟩

theorem Begins.missesAt {tokens : List Token} {reader : Reader α} (begins : reader.Begins tokens)
    {text : List Char} (none : ∀ kind ∈ tokens, kind.take? text = none) : reader.MissesAt text :=
  fun cursor text_eq =>
    begins cursor fun kind member => missesAt_token (none kind member) cursor text_eq

/-- A reader misses in front of a character that none of its first tokens begins with. -/
theorem Begins.missesAt_cons {tokens : List Token} {reader : Reader α}
    (begins : reader.Begins tokens) {c : Char} (text : List Char)
    (other : (tokens.all fun kind => !kind.begins c) = true := by decide) :
    reader.MissesAt (c :: text) := by
  apply begins.missesAt
  intro kind member
  apply Token.take?_eq_none_of_begins
  simpa using List.all_eq_true.mp other kind member

end Reader

open Reader

/-! ## Constructs of one token -/

section Tokens

variable {text chars after : List Char}

theorem findsAt_date (taken : Token.date.take? text = some (chars, after)) :
    date.FindsAt text (ungap after)
      fun node => node.bare = .date (.point 0) (String.ofList chars) :=
  (findsAt_token taken).map fun lexeme chars_eq => by simp [Node.bare, Lexeme.text, chars_eq]

theorem findsAt_number (taken : Token.number.take? text = some (chars, after)) :
    number.FindsAt text (ungap after) fun node =>
      node.bare = .number (.point 0) (String.ofList chars) :=
  (findsAt_token taken).map fun lexeme chars_eq => by simp [Node.bare, Lexeme.text, chars_eq]

theorem findsAt_variableName (taken : Token.variable.take? text = some (chars, after)) :
    variableName.FindsAt text (ungap after) fun node =>
      node.bare = .variable (.point 0) (String.ofList chars) none :=
  (findsAt_token taken).map fun lexeme chars_eq => by simp [Node.bare, Lexeme.text, chars_eq]

theorem findsAt_literal (taken : Token.text.take? text = some (chars, after)) :
    literal.FindsAt text (ungap after) fun node =>
      node.bare = .literal (.point 0) (String.ofList (unquote chars)) :=
  (findsAt_token taken).map fun lexeme chars_eq => by simp [Node.bare, chars_eq]

theorem findsAt_orWord (taken : Token.orWord.take? text = some (chars, after)) :
    orWord.FindsAt text (ungap after) fun node => node.bare = .mark (.point 0) .orWord :=
  (findsAt_token taken).map fun lexeme _ => by simp [Node.bare]

theorem findsAt_bounding {reader : Reader Node} {node : Node}
    (finds : reader.FindsAt text after fun found => found.bare = node) :
    (bounding reader).FindsAt text after fun bound => bound.shape = some node :=
  finds.map fun found bare_eq => by simp [Boundary.shape, Boundary.ofNode, bare_eq]

theorem missesAt_bounding {reader : Reader Node} (misses : reader.MissesAt text) :
    (bounding reader).MissesAt text := misses.bind

theorem missesAt_date (noToken : Token.date.take? text = none) : date.MissesAt text :=
  (missesAt_token noToken).bind

theorem missesAt_number (noToken : Token.number.take? text = none) : number.MissesAt text :=
  (missesAt_token noToken).bind

theorem missesAt_variableName (noToken : Token.variable.take? text = none) :
    variableName.MissesAt text :=
  (missesAt_token noToken).bind

theorem boundary_findsAt_date (taken : Token.date.take? text = some (chars, after)) :
    boundary.FindsAt text (ungap after) fun bound =>
      bound.shape = some (.date (.point 0) (String.ofList chars)) :=
  (findsAt_bounding (findsAt_date taken)).firstOf_head

theorem boundary_findsAt_number (noDate : Token.date.take? text = none)
    (taken : Token.number.take? text = some (chars, after)) :
    boundary.FindsAt text (ungap after) fun bound =>
      bound.shape = some (.number (.point 0) (String.ofList chars)) :=
  (findsAt_bounding (findsAt_number taken)).firstOf_head.firstOf_tail
    (missesAt_bounding (missesAt_date noDate))

theorem boundary_findsAt_variable (noDate : Token.date.take? text = none)
    (noNumber : Token.number.take? text = none)
    (taken : Token.variable.take? text = some (chars, after)) :
    boundary.FindsAt text (ungap after) fun bound =>
      bound.shape = some (.variable (.point 0) (String.ofList chars) none) :=
  ((findsAt_bounding (findsAt_variableName taken)).firstOf_head.firstOf_tail
    (missesAt_bounding (missesAt_number noNumber))).firstOf_tail
      (missesAt_bounding (missesAt_date noDate))

theorem boundary_findsAt_star (noDate : Token.date.take? text = none)
    (noNumber : Token.number.take? text = none) (noVariable : Token.variable.take? text = none)
    (taken : Token.star.take? text = some (chars, after)) :
    boundary.FindsAt text (ungap after) fun bound => bound.shape = none := by
  have found : star.FindsAt text (ungap after) fun bound => bound.shape = none :=
    (findsAt_token taken).map fun lexeme _ => rfl
  exact ((found.firstOf_head.firstOf_tail (missesAt_bounding (missesAt_variableName noVariable))
    ).firstOf_tail (missesAt_bounding (missesAt_number noNumber))).firstOf_tail
      (missesAt_bounding (missesAt_date noDate))

end Tokens

/-! ## What follows a word -/

/-- A text begins no more than another one does. -/
structure Quieter (before after : List Char) : Prop where
  boundary : (∀ kind ∈ boundaryTokens, kind.take? before = none) →
    ∀ kind ∈ boundaryTokens, kind.take? after = none
  others : ∀ kind ∈ [Token.dots, .text, .name, .equals],
    kind.take? before = none → kind.take? after = none
  comment : takeWord? ['/', '/'] before = none → takeWord? ['/', '/'] after = none

/-- A word ends in front of both texts, and the second of them begins no more than the first. -/
structure Follows (before after : List Char) : Prop where
  ends : endsWord before = true
  ends' : endsWord after = true
  nil : before = [] → after = []
  quieter : Quieter (ungap before) (ungap after)

theorem Quieter.refl (text : List Char) : Quieter text text :=
  ⟨id, fun _ _ => id, id⟩

/-- Without a text, no value of a qualifier can begin. -/
theorem take?_eq_none_of_no_text {text : List Char} (noText : Token.text.take? text = none) :
    ∀ kind ∈ valueTokens, kind.take? text = none := by
  intro kind member
  have not_finish : kind ≠ .finish := by
    rintro rfl
    exact absurd member (by decide)
  cases text with
  | nil => exact Token.take?_nil not_finish
  | cons c text =>
      by_cases blank : isBlank c = true
      · exact Token.take?_eq_none_of_blank not_finish (by simpa using blank)
      · cases name : takeName? (c :: text) with
        | none => exact absurd noText (takeText?_ne_none (by simpa using blank) name)
        | some split =>
            obtain ⟨first, run, _, chars_eq, letter, _, _, text_eq⟩ := takeName?_eq_some name
            rw [chars_eq, List.cons_append, List.cons.injEq] at text_eq
            obtain rfl := text_eq.1
            by_cases isText : kind = .text
            · rw [isText]
              exact noText
            · have others : ∀ kind ∈ valueTokens, kind ≠ .text →
                  kind ∉ [.orWord, .sortWord, .name, .text] := by decide
              apply Token.take?_eq_none_of_begins
              exact Token.begins_eq_false_of_isAlpha letter (others kind member isText)

namespace Follows

variable {before after word : List Char} (follows : Follows before after)
  (isWord : IsBareWord word)

include follows isWord

/-- A token that no word begins with in front of one text does not in front of the other. -/
theorem take?_eq_none {kind : Token} (noToken : kind.take? (word ++ before) = none)
    (not_finish : kind ≠ .finish := by simp) : kind.take? (word ++ after) = none := by
  rw [Token.take?_local follows.ends isWord not_finish, Option.map_eq_none_iff] at noToken
  rw [Token.take?_local follows.ends' isWord not_finish, noToken]
  rfl

/-- A token behind a word and the gap that may follow it. -/
theorem take?_ungap_eq_none {kind : Token} (member : kind ∈ [Token.dots, .text, .name, .equals])
    (noToken : kind.take? (ungap (word ++ before)) = none) :
    kind.take? (ungap (word ++ after)) = none := by
  have not_finish : kind ≠ .finish := by
    rintro rfl
    exact absurd member (by decide)
  cases word with
  | nil => exact follows.quieter.others kind member noToken
  | cons c word =>
      have visible : isBlank c = false :=
        isBlank_eq_false_of_isBare (isWord c List.mem_cons_self)
      rw [List.cons_append, ungap_cons visible] at noToken ⊢
      exact follows.take?_eq_none isWord noToken not_finish

/-- What a token takes from a word, it takes from it in front of another text. -/
theorem take?_eq_some {kind : Token} {cursor next : Cursor} {lexeme : Lexeme}
    (text_eq : cursor.skipGap.rest = word ++ before)
    (finds : (token kind).Finds cursor lexeme next) (not_finish : kind ≠ .finish := by simp) :
    ∃ tail, IsBareWord tail ∧ next.rest = tail ++ before ∧
      kind.take? (word ++ after) = some (lexeme.chars, tail ++ after) := by
  have taken := ((finds_token_iff ..).mp finds).1
  rw [text_eq, Token.take?_local follows.ends isWord not_finish, Option.map_eq_some_iff] at taken
  obtain ⟨split, inner_taken, split_eq⟩ := taken
  obtain ⟨chars_eq, rest_eq⟩ := Prod.mk.inj split_eq
  have word_eq := (Token.takes_of_take? inner_taken not_finish).split
  refine ⟨split.2, ?_, rest_eq.symm, ?_⟩
  · intro c member
    exact isWord c (by rw [word_eq]; exact List.mem_append_right _ member)
  · rw [Token.take?_local follows.ends' isWord not_finish, inner_taken, ← chars_eq]
    rfl

/-- A boundary in a word is one in front of another text. -/
theorem findsAt_boundary {cursor next : Cursor} {bound : Boundary}
    (text_eq : cursor.skipGap.rest = word ++ before) (finds : boundary.Finds cursor bound next) :
    ∃ tail, IsBareWord tail ∧ next.rest = tail ++ before ∧
      boundary.FindsAt (word ++ after) (ungap (tail ++ after)) fun _ => True := by
  have missed {kind : Token} (misses : kind.take? cursor.skipGap.rest = none)
      (not_finish : kind ≠ .finish := by simp) : kind.take? (word ++ after) = none :=
    follows.take?_eq_none isWord (text_eq ▸ misses) not_finish
  rcases finds_boundary_iff.mp finds with ⟨_, found, _⟩ | ⟨noDate, ⟨_, found, _⟩ | ⟨noNumber,
    ⟨_, found, _⟩ | ⟨noVariable, _, found, _⟩⟩⟩
  · obtain ⟨lexeme, found, _⟩ := finds_date_iff.mp found
    obtain ⟨tail, tail_bare, next_eq, taken⟩ := follows.take?_eq_some isWord text_eq found
    exact ⟨tail, tail_bare, next_eq, (boundary_findsAt_date taken).mono fun _ _ => trivial⟩
  · obtain ⟨lexeme, found, _⟩ := finds_number_iff.mp found
    obtain ⟨tail, tail_bare, next_eq, taken⟩ := follows.take?_eq_some isWord text_eq found
    exact ⟨tail, tail_bare, next_eq, (boundary_findsAt_number
      (missed (misses_date_iff.mp noDate)) taken).mono fun _ _ => trivial⟩
  · obtain ⟨lexeme, found, _⟩ := finds_variableName_iff.mp found
    obtain ⟨tail, tail_bare, next_eq, taken⟩ := follows.take?_eq_some isWord text_eq found
    exact ⟨tail, tail_bare, next_eq, (boundary_findsAt_variable
      (missed (misses_date_iff.mp noDate))
      (missed (misses_number_iff.mp noNumber)) taken).mono fun _ _ => trivial⟩
  · obtain ⟨tail, tail_bare, next_eq, taken⟩ := follows.take?_eq_some isWord text_eq found
    exact ⟨tail, tail_bare, next_eq, (boundary_findsAt_star
      (missed (misses_date_iff.mp noDate))
      (missed (misses_number_iff.mp noNumber))
      (missed (misses_variableName_iff.mp noVariable)) taken).mono fun _ _ => trivial⟩

/-- What is missed at a word is missed there in front of another text. -/
theorem missesAt_of_misses {cursor : Cursor} {other : Reader Node}
    (text_eq : cursor.skipGap.rest = word ++ before)
    (member : other ∈ [definition, orWord, sortDirective, qualifiedValue, range, comparison, date,
      number, variableName])
    (misses : other.Misses cursor) : other.MissesAt (word ++ after) := by
  have missed {kind : Token} (noToken : kind.take? cursor.skipGap.rest = none)
      (not_finish : kind ≠ .finish := by simp) : kind.take? (word ++ after) = none :=
    follows.take?_eq_none isWord (text_eq ▸ noToken) not_finish
  simp only [List.mem_cons, List.not_mem_nil, or_false] at member
  rcases member with rfl | rfl | rfl | rfl | rfl | rfl | rfl | rfl | rfl
  · rcases misses_definition_iff.mp misses with noVariable | ⟨name, front, found, noSign⟩
    · exact (missesAt_token (missed noVariable)).bind
    · obtain ⟨tail, tail_bare, front_eq, taken⟩ :=
        follows.take?_eq_some isWord text_eq found
      rw [Cursor.skipGap_rest, front_eq] at noSign
      exact (findsAt_token taken).bind_misses fun _ =>
        (missesAt_token (follows.take?_ungap_eq_none tail_bare (by simp) noSign)).bind
  · exact (missesAt_token (missed (misses_orWord_iff.mp misses))).bind
  · exact (missesAt_token (missed (misses_sortDirective_iff.mp misses))).bind
  · obtain ⟨dash, front, found, noName⟩ := misses_qualifiedValue_iff.mp misses
    rcases (finds_optional_iff ..).mp found with ⟨lexeme, _, found⟩ | ⟨_, rfl, noDash⟩
    · obtain ⟨tail, tail_bare, front_eq, taken⟩ :=
        follows.take?_eq_some isWord text_eq found
      rw [Cursor.skipGap_rest, front_eq] at noName
      exact (findsAt_token taken).optional.bind_misses fun _ =>
        (missesAt_token (follows.take?_ungap_eq_none tail_bare (by simp) noName)).bind
    · have noDash := missesAt_token (missed ((misses_token_iff ..).mp noDash))
      exact noDash.optional.bind_misses fun _ =>
        (missesAt_token (missed noName)).bind
  · obtain ⟨lower, front, found, noDots⟩ := misses_range_iff.mp misses
    rcases (finds_optional_iff ..).mp found with ⟨bound, _, found⟩ | ⟨_, rfl, noBoundary⟩
    · obtain ⟨tail, tail_bare, front_eq, findsAt⟩ := follows.findsAt_boundary isWord text_eq found
      rw [Cursor.skipGap_rest, front_eq] at noDots
      exact findsAt.optional.bind_misses fun _ =>
        (missesAt_token (follows.take?_ungap_eq_none tail_bare (by simp) noDots)).bind
    · obtain ⟨noDate, noNumber, noVariable, noStar⟩ := misses_boundary_iff.mp noBoundary
      have noBoundary : boundary.MissesAt (word ++ after) := by
        apply begins_boundary.missesAt
        simp only [boundaryTokens, List.forall_mem_cons]
        exact ⟨missed (misses_date_iff.mp noDate),
          missed (misses_number_iff.mp noNumber),
          missed (misses_variableName_iff.mp noVariable),
          missed ((misses_token_iff ..).mp noStar), by simp⟩
      exact noBoundary.optional.bind_misses fun _ =>
        (missesAt_token (missed noDots)).bind
  · exact (missesAt_token (missed (misses_comparison_iff.mp misses))).bind
  · exact missesAt_date (missed (misses_date_iff.mp misses))
  · exact missesAt_number (missed (misses_number_iff.mp misses))
  · exact missesAt_variableName (missed (misses_variableName_iff.mp misses))

/-- A word begins no more in front of one text than in front of the other. -/
theorem quieter_word : Quieter (word ++ before) (word ++ after) where
  boundary := by
    intro noToken kind member
    refine follows.take?_eq_none isWord (noToken kind member) ?_
    rintro rfl
    exact absurd member (by decide)
  others := by
    intro kind member noToken
    refine follows.take?_eq_none isWord noToken ?_
    rintro rfl
    exact absurd member (by decide)
  comment := by
    intro noComment
    rw [takeWord?_local follows.ends (by decide), Option.map_eq_none_iff] at noComment
    rw [takeWord?_local follows.ends' (by decide), noComment]
    rfl

end Follows

end SearchQuery.Line
