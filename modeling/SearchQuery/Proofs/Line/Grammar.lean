import SearchQuery.Proofs.Line.Cursor
import SearchQuery.Proofs.Line.Reader

/-!
# What the constructs of a line are made of

Each construct is found exactly where its tokens are, one after the other.  A property of places
that all tokens preserve is preserved by every construct, and an item takes at least one character.
At a character that is not blank some item is always found.
-/

namespace SearchQuery.Line

open Reader

section Keeps

variable {valid : Cursor → Prop} (kept : KeptByTokens valid)

include kept

private theorem keeps_token_map {α : Type} (kind : Token) (build : Lexeme → α) :
    Keeps valid (token kind >>= fun lexeme => Pure.pure (build lexeme)) :=
  (keeps_token kept kind).bind fun _ => keeps_pure _

theorem keeps_date : date.Keeps valid := keeps_token_map kept .date _

theorem keeps_number : number.Keeps valid := keeps_token_map kept .number _

theorem keeps_variableName : variableName.Keeps valid := keeps_token_map kept .variable _

theorem keeps_literal : literal.Keeps valid := keeps_token_map kept .text _

theorem keeps_orWord : orWord.Keeps valid := keeps_token_map kept .orWord _

theorem keeps_boundary : boundary.Keeps valid := by
  have bounding {reader : Reader Node} (keeps : reader.Keeps valid) :
      (bounding reader).Keeps valid := keeps.bind fun _ => keeps_pure _
  apply keeps_firstOf
  simp only [List.forall_mem_cons]
  exact ⟨bounding (keeps_date kept), bounding (keeps_number kept),
    bounding (keeps_variableName kept), keeps_token_map kept .star _, by simp⟩

theorem keeps_range : range.Keeps valid :=
  (keeps_boundary kept).optional.bind fun _ => (keeps_token kept .dots).bind fun _ =>
    (keeps_boundary kept).optional.bind fun _ => keeps_pure _

theorem keeps_compareValue :
    (firstOf [date, number, variableName, literal]).Keeps valid := by
  apply keeps_firstOf
  simp only [List.forall_mem_cons]
  exact ⟨keeps_date kept, keeps_number kept, keeps_variableName kept, keeps_literal kept, by simp⟩

theorem keeps_comparison : comparison.Keeps valid :=
  (keeps_token kept .comparison).bind fun _ =>
    (keeps_compareValue kept).optional.bind fun _ => keeps_pure _

theorem keeps_qualifierValue : qualifierValue.Keeps valid := by
  apply keeps_firstOf
  simp only [List.forall_mem_cons]
  exact ⟨keeps_range kept, keeps_comparison kept, keeps_date kept, keeps_number kept,
    keeps_variableName kept, keeps_literal kept, by simp⟩

theorem keeps_qualifiedValue : qualifiedValue.Keeps valid :=
  (keeps_token kept .dash).optional.bind fun _ => (keeps_token kept .name).bind fun _ =>
    (keeps_token kept .colon).bind fun _ =>
      (keeps_qualifierValue kept).optional.bind fun _ => keeps_pure _

theorem keeps_criteria : (firstOf [variableName, literal]).Keeps valid := by
  apply keeps_firstOf
  simp only [List.forall_mem_cons]
  exact ⟨keeps_variableName kept, keeps_literal kept, by simp⟩

theorem keeps_sortDirective : sortDirective.Keeps valid :=
  (keeps_token kept .sortWord).bind fun _ => (keeps_token kept .colon).bind fun _ =>
    (keeps_criteria kept).optional.bind fun _ => keeps_pure _

theorem keeps_item : item.Keeps valid := by
  apply keeps_firstOf
  simp only [List.forall_mem_cons]
  exact ⟨keeps_orWord kept, keeps_sortDirective kept, keeps_qualifiedValue kept, keeps_range kept,
    keeps_comparison kept, keeps_date kept, keeps_number kept, keeps_variableName kept,
    keeps_literal kept, by simp⟩

theorem keeps_definition : definition.Keeps valid :=
  (keeps_token kept .variable).bind fun _ => (keeps_token kept .equals).bind fun _ =>
    (keeps_item kept).many.bind fun _ => keeps_pure _

theorem keeps_query : query.Keeps valid :=
  (keeps_item kept).bind fun _ => (keeps_item kept).many.bind fun _ => keeps_pure _

/-- What all tokens preserve, the reading of a line preserves. -/
theorem keeps_line : line.Keeps valid :=
  ((keeps_definition kept).orElse (keeps_query kept)).bind fun _ =>
    (keeps_token kept .finish).bind fun _ => keeps_pure _

end Keeps

/-! ## Progress -/

theorem takes_of_finds_token {kind : Token} {cursor next : Cursor} {lexeme : Lexeme}
    (finds : (token kind).Finds cursor lexeme next)
    (not_finish : kind ≠ .finish := by simp) :
    kind.Takes cursor.skipGap.rest lexeme.chars next.rest :=
  Token.takes_of_take? ((finds_token_iff ..).mp finds).1 not_finish

theorem take?_of_finds_token {kind : Token} {cursor next : Cursor} {lexeme : Lexeme}
    (finds : (token kind).Finds cursor lexeme next) (not_finish : kind ≠ .finish := by simp) :
    kind.take? (lexeme.chars ++ next.rest) = some (lexeme.chars, next.rest) := by
  rw [← (takes_of_finds_token finds not_finish).split]
  exact ((finds_token_iff ..).mp finds).1

/-- A token is found behind the gap, and the reading goes on behind it. -/
theorem split_of_finds_token {kind : Token} {cursor next : Cursor} {lexeme : Lexeme}
    (finds : (token kind).Finds cursor lexeme next) :
    cursor.skipGap.rest = lexeme.chars ++ next.rest ∧ TokenText lexeme.chars next.rest ∧
      next.offset = cursor.skipGap.offset + lexeme.chars.length := by
  obtain ⟨taken, start_eq, offset_eq⟩ := (finds_token_iff ..).mp finds
  rw [offset_eq, Lexeme.stop, start_eq]
  by_cases atEnd : kind = .finish
  · subst atEnd
    obtain ⟨rest_eq, split_eq⟩ := Token.take?_finish_eq_some taken
    obtain ⟨chars_eq, after_eq⟩ := Prod.mk.inj split_eq
    rw [rest_eq, chars_eq, after_eq]
    exact ⟨rfl, .bare (by simp [IsBareWord]), rfl⟩
  · have takes := Token.takes_of_take? taken atEnd
    exact ⟨takes.split, takes.form, rfl⟩

theorem length_lt_of_finds_token {kind : Token} {cursor next : Cursor} {lexeme : Lexeme}
    (finds : (token kind).Finds cursor lexeme next) (not_finish : kind ≠ .finish) :
    next.rest.length < cursor.rest.length := by
  have takes := takes_of_finds_token finds not_finish
  have nonempty : 0 < lexeme.chars.length := by
    obtain ⟨c, tail, text_eq, _⟩ := takes.head
    rw [text_eq]
    simp
  have lengths := congrArg List.length takes.split
  rw [List.length_append] at lengths
  have shorter : cursor.skipGap.rest.length ≤ cursor.rest.length :=
    (List.dropWhile_suffix _).length_le
  omega

/-- No token moves a place to the left. -/
theorem kept_length_le (length : Nat) : KeptByTokens fun cursor => cursor.rest.length ≤ length := by
  intro kind cursor next lexeme atMost finds
  have lengths := congrArg List.length (split_of_finds_token finds).1
  rw [List.length_append] at lengths
  have shorter : cursor.skipGap.rest.length ≤ cursor.rest.length :=
    (List.dropWhile_suffix _).length_le
  omega

theorem advances_token (kind : Token) (not_finish : kind ≠ .finish := by simp) :
    (token kind).Advances :=
  fun finds => length_lt_of_finds_token finds not_finish

/-- A reader whose first part takes a character takes one. -/
theorem advances_bind_left {α β : Type} {first : Reader α} {rest : α → Reader β}
    (advances : first.Advances)
    (keeps : ∀ found length, (rest found).Keeps fun cursor => cursor.rest.length ≤ length) :
    Advances (first >>= rest) := by
  intro cursor value next finds
  obtain ⟨found, middle, found_first, found_rest⟩ := (finds_bind_iff ..).mp finds
  exact Nat.lt_of_le_of_lt ((keeps found _).next (Nat.le_refl _) found_rest) (advances found_first)

/-- A reader whose second part takes a character takes one. -/
theorem advances_bind_right {α β : Type} {first : Reader α} {rest : α → Reader β}
    (keeps : ∀ length, first.Keeps fun cursor => cursor.rest.length ≤ length)
    (advances : ∀ found, (rest found).Advances) : Advances (first >>= rest) := by
  intro cursor value next finds
  obtain ⟨found, middle, found_first, found_rest⟩ := (finds_bind_iff ..).mp finds
  exact Nat.lt_of_lt_of_le (advances found found_rest)
    ((keeps _).next (Nat.le_refl _) found_first)

theorem advances_firstOf {α : Type} {readers : List (Reader α)}
    (advances : ∀ reader ∈ readers, reader.Advances) : (firstOf readers).Advances := by
  intro cursor value next finds
  obtain ⟨reader, member, found⟩ := exists_of_finds_firstOf finds
  exact advances reader member found

private theorem advances_token_map {α : Type} (kind : Token) (build : Lexeme → α)
    (not_finish : kind ≠ .finish := by simp) :
    Advances (token kind >>= fun lexeme => Pure.pure (build lexeme)) :=
  advances_bind_left (advances_token kind not_finish) fun _ _ => keeps_pure _

theorem advances_item : item.Advances := by
  have kept := kept_length_le
  have sorts : sortDirective.Advances :=
    advances_bind_left (advances_token .sortWord) fun _ length =>
      (keeps_token (kept length) .colon).bind fun _ =>
        (keeps_criteria (kept length)).optional.bind fun _ => keeps_pure _
  have qualifies : qualifiedValue.Advances :=
    advances_bind_right (fun length => (keeps_token (kept length) .dash).optional) fun _ =>
      advances_bind_left (advances_token .name) fun _ length =>
        (keeps_token (kept length) .colon).bind fun _ =>
          (keeps_qualifierValue (kept length)).optional.bind fun _ => keeps_pure _
  have ranges : range.Advances :=
    advances_bind_right (fun length => (keeps_boundary (kept length)).optional) fun _ =>
      advances_bind_left (advances_token .dots) fun _ length =>
        (keeps_boundary (kept length)).optional.bind fun _ => keeps_pure _
  have compares : comparison.Advances :=
    advances_bind_left (advances_token .comparison) fun _ length =>
      (keeps_compareValue (kept length)).optional.bind fun _ => keeps_pure _
  apply advances_firstOf
  simp only [List.forall_mem_cons]
  exact ⟨advances_token_map .orWord _, sorts, qualifies, ranges, compares,
    advances_token_map .date _, advances_token_map .number _,
    advances_token_map .variable _, advances_token_map .text _, by simp⟩

/-! ## What the constructs find -/

theorem finds_date_iff {cursor next : Cursor} {node : Node} :
    date.Finds cursor node next ↔
      ∃ lexeme, (token .date).Finds cursor lexeme next ∧ node = .date lexeme.span lexeme.text :=
  finds_map_iff ..

theorem finds_number_iff {cursor next : Cursor} {node : Node} :
    number.Finds cursor node next ↔
      ∃ lexeme, (token .number).Finds cursor lexeme next ∧
        node = .number lexeme.span lexeme.text :=
  finds_map_iff ..

theorem finds_variableName_iff {cursor next : Cursor} {node : Node} :
    variableName.Finds cursor node next ↔
      ∃ lexeme, (token .variable).Finds cursor lexeme next ∧
        node = .variable lexeme.span lexeme.text none :=
  finds_map_iff ..

theorem finds_literal_iff {cursor next : Cursor} {node : Node} :
    literal.Finds cursor node next ↔
      ∃ lexeme, (token .text).Finds cursor lexeme next ∧
        node = .literal lexeme.span (String.ofList (unquote lexeme.chars)) :=
  finds_map_iff ..

theorem finds_orWord_iff {cursor next : Cursor} {node : Node} :
    orWord.Finds cursor node next ↔
      ∃ lexeme, (token .orWord).Finds cursor lexeme next ∧ node = .mark lexeme.span .orWord :=
  finds_map_iff ..

theorem finds_boundary_iff {cursor next : Cursor} {bound : Boundary} :
    boundary.Finds cursor bound next ↔
      (∃ node, date.Finds cursor node next ∧ bound = .ofNode node) ∨
      date.Misses cursor ∧ ((∃ node, number.Finds cursor node next ∧ bound = .ofNode node) ∨
      number.Misses cursor ∧ ((∃ node, variableName.Finds cursor node next ∧ bound = .ofNode node) ∨
      variableName.Misses cursor ∧
        ∃ lexeme, (token .star).Finds cursor lexeme next ∧ bound = ⟨lexeme.span, none⟩)) := by
  have bounding_iff (reader : Reader Node) :
      (bounding reader).Finds cursor bound next ↔
        ∃ node, reader.Finds cursor node next ∧ bound = .ofNode node := finds_map_iff ..
  have star_iff :
      star.Finds cursor bound next ↔
        ∃ lexeme, (token .star).Finds cursor lexeme next ∧ bound = ⟨lexeme.span, none⟩ :=
    finds_map_iff ..
  have misses_iff (reader : Reader Node) : (bounding reader).Misses cursor ↔ reader.Misses cursor :=
    misses_map_iff ..
  simp only [boundary, finds_firstOf_cons_iff, not_finds_firstOf_nil, bounding_iff, star_iff,
    misses_iff, and_false, or_false]

theorem finds_range_iff {cursor next : Cursor} {node : Node} :
    range.Finds cursor node next ↔
      ∃ lower front, (optional boundary).Finds cursor lower front ∧
        ∃ dots back, (token .dots).Finds front dots back ∧
          ∃ upper, (optional boundary).Finds back upper next ∧
            node = .range ⟨(lower.map (·.span.start)).getD dots.span.start,
              (upper.map (·.span.stop)).getD dots.span.stop⟩
              (lower.bind (·.node)) (upper.bind (·.node)) :=
  finds_bind_congr fun _ _ => finds_bind_congr fun _ _ => finds_map_iff ..

theorem finds_comparison_iff {cursor next : Cursor} {node : Node} :
    comparison.Finds cursor node next ↔
      ∃ operator front, (token .comparison).Finds cursor operator front ∧
        ∃ value, (optional (firstOf [date, number, variableName, literal])).Finds front value next ∧
          node = .compare ⟨operator.span.start, (value.map (·.stop)).getD operator.span.stop⟩
            operator.text (orMissing value ((value.map (·.stop)).getD operator.span.stop)
              missingValue) :=
  finds_bind_congr fun _ _ => finds_map_iff ..

theorem finds_qualifiedValue_iff {cursor next : Cursor} {node : Node} :
    qualifiedValue.Finds cursor node next ↔
      ∃ dash front, (optional (token .dash)).Finds cursor dash front ∧
        ∃ name middle, (token .name).Finds front name middle ∧
          ∃ colon back, (token .colon).Finds middle colon back ∧
            ∃ value, (optional qualifierValue).Finds back value next ∧
              node = .qualified ⟨(dash.map (·.span.start)).getD name.span.start,
                (value.map (·.stop)).getD colon.span.stop⟩ dash.isSome
                (.literal name.span name.text)
                (orMissing value ((value.map (·.stop)).getD colon.span.stop) missingValue) :=
  finds_bind_congr fun _ _ => finds_bind_congr fun _ _ => finds_bind_congr fun _ _ =>
    finds_map_iff ..

theorem finds_sortDirective_iff {cursor next : Cursor} {node : Node} :
    sortDirective.Finds cursor node next ↔
      ∃ keyword front, (token .sortWord).Finds cursor keyword front ∧
        ∃ colon back, (token .colon).Finds front colon back ∧
          ∃ criteria, (optional (firstOf [variableName, literal])).Finds back criteria next ∧
            node = .sort ⟨keyword.span.start, (criteria.map (·.stop)).getD colon.span.stop⟩
              (.literal keyword.span keyword.text)
              (orMissing criteria ((criteria.map (·.stop)).getD colon.span.stop)
                missingCriteria) :=
  finds_bind_congr fun _ _ => finds_bind_congr fun _ _ => finds_map_iff ..

/-- A definition is a variable, its sign and items up to a place where none is found. -/
theorem finds_definition_iff {cursor next : Cursor} {node : Node} :
    definition.Finds cursor node next ↔
      ∃ name front, (token .variable).Finds cursor name front ∧
        ∃ sign back, (token .equals).Finds front sign back ∧
          ∃ items, Repeats item back items next ∧
            node = .definition ⟨name.span.start, (definedValue items sign.span.stop).stop⟩
              (.variable name.span name.text none) (definedValue items sign.span.stop) none := by
  have many_iff {back : Cursor} {items : List Node} :
      Finds (many item) back items next ↔ Repeats item back items next :=
    ⟨repeats_of_finds_many advances_item, finds_many_of_repeats advances_item⟩
  simp only [← many_iff]
  exact finds_bind_congr fun _ _ => finds_bind_congr fun _ _ => finds_map_iff ..

/-- A query is one item or more, up to a place where none is found. -/
theorem finds_query_iff {cursor next : Cursor} {node : Node} :
    query.Finds cursor node next ↔
      ∃ first others, Repeats item cursor (first :: others) next ∧ node = queryOf first others := by
  have split : query.Finds cursor node next ↔
      ∃ first middle, item.Finds cursor first middle ∧
        ∃ others, Finds (many item) middle others next ∧ node = queryOf first others :=
    finds_bind_congr fun _ _ => finds_map_iff ..
  rw [split]
  constructor
  · rintro ⟨first, middle, finds, others, found, rfl⟩
    exact ⟨first, others, .more finds (repeats_of_finds_many advances_item found), rfl⟩
  · rintro ⟨first, others, repeats, rfl⟩
    cases repeats with
    | more finds later =>
        exact ⟨first, _, finds, others, finds_many_of_repeats advances_item later, rfl⟩

/-- A line is a definition, or else a query, that the end of the line follows. -/
theorem finds_line_iff {cursor next : Cursor} {node : Node} :
    line.Finds cursor node next ↔
      ∃ back, (definition.Finds cursor node back ∨
          definition.Misses cursor ∧ query.Finds cursor node back) ∧
        ∃ lexeme, (token .finish).Finds back lexeme next := by
  have split : line.Finds cursor node next ↔
      ∃ found back, (orElse definition query).Finds cursor found back ∧
        ∃ lexeme, (token .finish).Finds back lexeme next ∧ node = found :=
    finds_bind_congr fun _ _ => finds_map_iff ..
  rw [split]
  constructor
  · rintro ⟨_, back, finds, lexeme, finish, rfl⟩
    exact ⟨back, (finds_orElse_iff ..).mp finds, lexeme, finish⟩
  · rintro ⟨back, finds, lexeme, finish⟩
    exact ⟨node, back, (finds_orElse_iff ..).mpr finds, lexeme, finish, rfl⟩

/-- What is found as an item is one of nine constructs. -/
theorem finds_item_cases {cursor next : Cursor} {node : Node}
    (finds : item.Finds cursor node next) :
    orWord.Finds cursor node next ∨ sortDirective.Finds cursor node next ∨
      qualifiedValue.Finds cursor node next ∨ range.Finds cursor node next ∨
      comparison.Finds cursor node next ∨ date.Finds cursor node next ∨
      number.Finds cursor node next ∨ variableName.Finds cursor node next ∨
      literal.Finds cursor node next := by
  obtain ⟨reader, member, found⟩ := exists_of_finds_firstOf finds
  simp only [List.mem_cons, List.not_mem_nil, or_false] at member
  rcases member with rfl | rfl | rfl | rfl | rfl | rfl | rfl | rfl | rfl <;> simp [found]

/-- An item is never a missing part. -/
theorem kind_ne_missing_of_finds_item {cursor next : Cursor} {node : Node}
    (finds : item.Finds cursor node next) : node.kind ≠ .missing := by
  rcases finds_item_cases finds with found | found | found | found | found | found | found |
    found | found
  · obtain ⟨_, _, rfl⟩ := finds_orWord_iff.mp found
    simp [Node.kind]
  · obtain ⟨_, _, _, _, _, _, _, _, rfl⟩ := finds_sortDirective_iff.mp found
    simp [Node.kind]
  · obtain ⟨_, _, _, _, _, _, _, _, _, _, _, rfl⟩ := finds_qualifiedValue_iff.mp found
    simp [Node.kind]
  · obtain ⟨_, _, _, _, _, _, _, _, rfl⟩ := finds_range_iff.mp found
    simp [Node.kind]
  · obtain ⟨_, _, _, _, _, rfl⟩ := finds_comparison_iff.mp found
    simp [Node.kind]
  · obtain ⟨_, _, rfl⟩ := finds_date_iff.mp found
    simp [Node.kind]
  · obtain ⟨_, _, rfl⟩ := finds_number_iff.mp found
    simp [Node.kind]
  · obtain ⟨_, _, rfl⟩ := finds_variableName_iff.mp found
    simp [Node.kind]
  · obtain ⟨_, _, rfl⟩ := finds_literal_iff.mp found
    simp [Node.kind]

/-! ## What the constructs miss -/

theorem misses_date_iff {cursor : Cursor} :
    date.Misses cursor ↔ Token.date.take? cursor.skipGap.rest = none :=
  (misses_map_iff ..).trans (misses_token_iff ..)

theorem misses_number_iff {cursor : Cursor} :
    number.Misses cursor ↔ Token.number.take? cursor.skipGap.rest = none :=
  (misses_map_iff ..).trans (misses_token_iff ..)

theorem misses_variableName_iff {cursor : Cursor} :
    variableName.Misses cursor ↔ Token.variable.take? cursor.skipGap.rest = none :=
  (misses_map_iff ..).trans (misses_token_iff ..)

theorem misses_literal_iff {cursor : Cursor} :
    literal.Misses cursor ↔ Token.text.take? cursor.skipGap.rest = none :=
  (misses_map_iff ..).trans (misses_token_iff ..)

theorem misses_orWord_iff {cursor : Cursor} :
    orWord.Misses cursor ↔ Token.orWord.take? cursor.skipGap.rest = none :=
  (misses_map_iff ..).trans (misses_token_iff ..)

theorem misses_boundary_iff {cursor : Cursor} :
    boundary.Misses cursor ↔ date.Misses cursor ∧ number.Misses cursor ∧
      variableName.Misses cursor ∧ (token .star).Misses cursor := by
  have bounding_iff (reader : Reader Node) :
      (bounding reader).Misses cursor ↔ reader.Misses cursor := misses_map_iff ..
  have star_iff : star.Misses cursor ↔ (token .star).Misses cursor := misses_map_iff ..
  rw [boundary, misses_firstOf_iff]
  simp [bounding_iff, star_iff]

/-- A construct that can only be missed at its first token. -/
private theorem misses_token_bind_iff {α : Type} {kind : Token} {rest : Lexeme → Reader α}
    (goesOn : ∀ lexeme cursor next, (token kind).Finds cursor lexeme next →
      ¬ (rest lexeme).Misses next) {cursor : Cursor} :
    Misses (token kind >>= rest) cursor ↔ kind.take? cursor.skipGap.rest = none := by
  rw [misses_bind_iff, misses_token_iff]
  constructor
  · rintro (misses | ⟨lexeme, next, finds, misses⟩)
    · exact misses
    · exact absurd misses (goesOn lexeme cursor next finds)
  · exact Or.inl

private theorem not_misses_optional_map {α β : Type} (reader : Reader α) (build : Option α → β)
    (cursor : Cursor) :
    ¬ Misses (optional reader >>= fun found => Pure.pure (build found)) cursor := by
  rw [misses_map_iff]
  exact not_misses_optional reader cursor

theorem misses_comparison_iff {cursor : Cursor} :
    comparison.Misses cursor ↔ Token.comparison.take? cursor.skipGap.rest = none :=
  misses_token_bind_iff fun _ _ _ _ => not_misses_optional_map _ _ _

/-- The colon that a name or keyword stands in front of is found. -/
private theorem not_misses_colon {α : Type} {rest : Lexeme → Reader α} {cursor : Cursor}
    {after : List Char} (rest_eq : cursor.rest = ':' :: after)
    (goesOn : ∀ lexeme next, ¬ (rest lexeme).Misses next) :
    ¬ Misses (token .colon >>= rest) cursor := by
  rw [misses_token_bind_iff fun lexeme _ next _ => goesOn lexeme next,
    Cursor.skipGap_of_not_isGap (by simp [rest_eq, Text.isGap]), rest_eq]
  simp [Token.take?, takeWord?]

/-- The keyword of a sort directive stands in front of a colon. -/
theorem exists_colon_of_finds_sortWord {cursor next : Cursor} {lexeme : Lexeme}
    (finds : (token .sortWord).Finds cursor lexeme next) : ∃ after, next.rest = ':' :: after := by
  have taken := ((finds_token_iff ..).mp finds).1
  rw [Token.take?] at taken
  have follows := (takeWordBefore?_eq_some taken).2.2
  exact List.head?_eq_some_iff.mp (by simpa using follows)

/-- The name of a qualifier stands in front of a colon. -/
theorem exists_colon_of_finds_name {cursor next : Cursor} {lexeme : Lexeme}
    (finds : (token .name).Finds cursor lexeme next) : ∃ after, next.rest = ':' :: after := by
  obtain ⟨_, _, after, _, _, _, rest_eq, _⟩ := takeName?_eq_some ((finds_token_iff ..).mp finds).1
  exact ⟨after, rest_eq⟩

theorem misses_sortDirective_iff {cursor : Cursor} :
    sortDirective.Misses cursor ↔ Token.sortWord.take? cursor.skipGap.rest = none := by
  apply misses_token_bind_iff
  intro lexeme cursor next finds
  obtain ⟨after, rest_eq⟩ := exists_colon_of_finds_sortWord finds
  exact not_misses_colon rest_eq fun _ _ => not_misses_optional_map _ _ _

theorem misses_qualifiedValue_iff {cursor : Cursor} :
    qualifiedValue.Misses cursor ↔
      ∃ dash front, (optional (token .dash)).Finds cursor dash front ∧
        Token.name.take? front.skipGap.rest = none := by
  have split : qualifiedValue.Misses cursor ↔ (optional (token .dash)).Misses cursor ∨
      ∃ dash front, (optional (token .dash)).Finds cursor dash front ∧
        Token.name.take? front.skipGap.rest = none := by
    apply misses_bind_congr
    intro dash front
    apply misses_token_bind_iff
    intro lexeme cursor next finds
    obtain ⟨after, rest_eq⟩ := exists_colon_of_finds_name finds
    exact not_misses_colon rest_eq fun _ _ => not_misses_optional_map _ _ _
  simp [split, not_misses_optional]

theorem misses_range_iff {cursor : Cursor} :
    range.Misses cursor ↔
      ∃ lower front, (optional boundary).Finds cursor lower front ∧
        Token.dots.take? front.skipGap.rest = none := by
  have split : range.Misses cursor ↔ (optional boundary).Misses cursor ∨
      ∃ lower front, (optional boundary).Finds cursor lower front ∧
        Token.dots.take? front.skipGap.rest = none := by
    apply misses_bind_congr
    intro lower front
    apply misses_token_bind_iff
    exact fun _ _ _ _ => not_misses_optional_map _ _ _
  simp [split, not_misses_optional]

theorem misses_definition_iff {cursor : Cursor} :
    definition.Misses cursor ↔ Token.variable.take? cursor.skipGap.rest = none ∨
      ∃ name front, (token .variable).Finds cursor name front ∧
        Token.equals.take? front.skipGap.rest = none := by
  rw [← misses_token_iff]
  apply misses_bind_congr
  intro name front
  apply misses_token_bind_iff
  intro sign cursor next _
  obtain ⟨items, final, repeats⟩ := exists_repeats advances_item next
  have found : ¬ Misses (many item) next := (finds_many_of_repeats advances_item repeats).not_misses
  exact fun misses => found ((misses_map_iff (many item) _ next).mp misses)

/-! ## The tokens that begin the constructs -/

/-- The tokens that a boundary can begin with. -/
def boundaryTokens : List Token := [.date, .number, .variable, .star]

/-- The tokens that a value of a qualifier can begin with. -/
def valueTokens : List Token := boundaryTokens ++ [.dots, .comparison, .text]

/-- The tokens that an item can begin with. -/
def itemTokens : List Token := [.orWord, .sortWord, .dash, .name] ++ valueTokens

private theorem begins_token_map {α : Type} {kind : Token} {tokens : List Token}
    (build : Lexeme → α) (member : kind ∈ tokens := by decide) :
    Begins tokens (token kind >>= fun lexeme => Pure.pure (build lexeme)) :=
  ((begins_token kind).bind).mono (by simpa using member)

theorem begins_date : date.Begins [.date] := begins_token_map _

theorem begins_number : number.Begins [.number] := begins_token_map _

theorem begins_variableName : variableName.Begins [.variable] := begins_token_map _

theorem begins_literal : literal.Begins [.text] := begins_token_map _

theorem begins_orWord : orWord.Begins [.orWord] := begins_token_map _

theorem begins_boundary : boundary.Begins boundaryTokens := by
  apply begins_firstOf
  simp only [List.forall_mem_cons]
  exact ⟨begins_date.bind.mono, begins_number.bind.mono,
    begins_variableName.bind.mono, begins_token_map _, by simp⟩

theorem begins_range : range.Begins (boundaryTokens ++ [.dots]) :=
  begins_boundary.bind_optional fun _ => (begins_token .dots).bind

theorem begins_comparison : comparison.Begins [.comparison] := (begins_token .comparison).bind

theorem begins_sortDirective : sortDirective.Begins [.sortWord] := (begins_token .sortWord).bind

theorem begins_qualifiedValue : qualifiedValue.Begins [.dash, .name] :=
  (begins_token .dash).bind_optional fun _ => (begins_token .name).bind

theorem begins_definition : definition.Begins [.variable] := (begins_token .variable).bind

theorem begins_criteria : (firstOf [variableName, literal]).Begins valueTokens := by
  apply begins_firstOf
  simp only [List.forall_mem_cons]
  exact ⟨begins_variableName.mono, begins_literal.mono, by simp⟩

theorem begins_compareValue :
    (firstOf [date, number, variableName, literal]).Begins valueTokens := by
  apply begins_firstOf
  simp only [List.forall_mem_cons]
  exact ⟨begins_date.mono, begins_number.mono,
    begins_variableName.mono, begins_literal.mono, by simp⟩

theorem begins_qualifierValue : qualifierValue.Begins valueTokens := by
  apply begins_firstOf
  simp only [List.forall_mem_cons]
  exact ⟨begins_range.mono, begins_comparison.mono,
    begins_date.mono, begins_number.mono,
    begins_variableName.mono, begins_literal.mono, by simp⟩

theorem begins_item : item.Begins itemTokens := by
  apply begins_firstOf
  simp only [List.forall_mem_cons]
  exact ⟨begins_orWord.mono, begins_sortDirective.mono,
    begins_qualifiedValue.mono, begins_range.mono,
    begins_comparison.mono, begins_date.mono,
    begins_number.mono, begins_variableName.mono,
    begins_literal.mono, by simp⟩

/-! ## Where items are found -/

/-- No item is found at the end of a line or in front of a blank that is no gap. -/
theorem misses_item_of_blank {cursor : Cursor}
    (blank : ∀ c ∈ cursor.skipGap.rest.head?, Text.isBlank c = true) : item.Misses cursor := by
  apply begins_item
  intro kind member
  rw [misses_token_iff]
  apply Token.take?_eq_none_of_blank _ blank
  rintro rfl
  exact absurd member (by decide)

/-- A qualifier with its colon is found, with or without a value. -/
theorem not_misses_qualifiedValue {cursor : Cursor} {split : Split}
    (name : takeName? cursor.skipGap.rest = some split) : ¬ qualifiedValue.Misses cursor := by
  obtain ⟨first, run, _, text_eq, letter, _, _, rest_eq⟩ := takeName?_eq_some name
  intro misses
  obtain ⟨dash, front, dash_found, noName⟩ := misses_qualifiedValue_iff.mp misses
  have noDash : (token .dash).Misses cursor := by
    rw [misses_token_iff, rest_eq, text_eq]
    apply Token.take?_eq_none_of_begins
    rw [← Bool.not_eq_true]
    intro begins
    obtain rfl := by simpa [Token.begins] using begins
    simp at letter
  rcases (finds_optional_iff ..).mp dash_found with ⟨lexeme, _, found⟩ | ⟨_, rfl, _⟩
  · exact found.not_misses noDash
  · simp [Token.take?, name] at noName

/-- In front of a character that is not blank an item is found. -/
theorem not_misses_item {cursor : Cursor} {c : Char} {rest : List Char}
    (rest_eq : cursor.skipGap.rest = c :: rest) (notBlank : Text.isBlank c = false) :
    ¬ item.Misses cursor := by
  intro misses
  rw [item, misses_firstOf_iff] at misses
  cases name : takeName? cursor.skipGap.rest with
  | some split => exact not_misses_qualifiedValue name (misses qualifiedValue (by simp))
  | none =>
      have noText := misses literal (by simp)
      rw [literal, misses_map_iff, misses_token_iff, rest_eq] at noText
      exact takeText?_ne_none notBlank (rest_eq ▸ name) noText

end SearchQuery.Line
