import SearchQuery.Proofs.Line.Placement
import SearchQuery.Proofs.Line.Rereading
import SearchQuery.Proofs.Line.Shape

/-!
# Free text

A text is tried last of all items, and a bare word could be taken almost anywhere.  So an item that
is a bare word stands where nothing else begins: no qualifier, no range, no comparison and no
variable, and what has the form of a date, a number or the word `OR` is one of them unless a quote
adjoins it.
-/

namespace SearchQuery.Line

open Text (isBlank isGap isNameChar)
open Reader

/-- What can stand in front of a range operator, but for a variable. -/
def IsLower (word : List Char) : Prop := word = [] ∨ word = ['*'] ∨ IsNumber word ∨ IsDate word

/-- A bare word, in front of what follows it, that nothing but a text begins with. -/
structure IsFreeText (word after : List Char) : Prop where
  /-- The word holds neither blanks nor quotes. -/
  isBareWord : IsBareWord word
  /-- The word cannot be extended. -/
  ends : ∀ c ∈ after.head?, isBlank c = true ∨ c = '"'
  /-- The word does not begin with a qualifier, negated or not. -/
  noQualifier : ∀ name more, IsName name →
    word ≠ name ++ ':' :: more ∧ word ≠ '-' :: name ++ ':' :: more
  /-- The word does not begin with a variable. -/
  noVariable : ∀ first more, startsVariable first = true → word ≠ '$' :: first :: more
  /-- The word does not begin with a comparison operator. -/
  noComparison : ∀ more, word ≠ '<' :: more ∧ word ≠ '>' :: more
  /-- The word does not begin with a range. -/
  noRange : ∀ lower more, IsLower lower → word ≠ lower ++ '.' :: '.' :: more
  /-- The whole word is no other token, unless a quote adjoins it. -/
  quoteAdjoins : word = "OR".toList ∨ IsNumber word ∨ IsDate word → after.head? = some '"'

/-! ## What is found where other constructs begin -/

section Places

variable {cursor : Cursor}

/-- A hyphen with a name and its colon begins a qualified value. -/
theorem not_misses_negatedValue {name more : List Char} (isName : IsName name)
    (text_eq : cursor.skipGap.rest = '-' :: name ++ ':' :: more) :
    ¬ qualifiedValue.Misses cursor := by
  intro misses
  obtain ⟨first, run, rfl, letter, inside⟩ := isName
  have taken : Token.dash.take? ('-' :: (first :: run) ++ ':' :: more) =
      some (['-'], first :: run ++ ':' :: more) := takeWord?_append ['-'] _
  obtain ⟨_, place, found, place_eq, _⟩ := (findsAt_token taken).optional cursor text_eq
  obtain ⟨dash, front, dash_found, noName⟩ := misses_qualifiedValue_iff.mp misses
  obtain ⟨_, rfl⟩ := dash_found.unique found
  rw [place_eq, List.cons_append, ungap_cons (Text.isBlank_eq_false_of_isAlpha letter),
    ← List.cons_append, Token.take?, takeName?_append letter inside] at noName
  cases noName

/-- What can stand in front of a range operator is found there. -/
theorem IsLower.exists_findsAt {lower : List Char} (isLower : IsLower lower) (more : List Char) :
    ∃ property, (optional boundary).FindsAt (lower ++ '.' :: '.' :: more) ('.' :: '.' :: more)
      property := by
  have ends : endsBoundary ('.' :: '.' :: more) = true := rfl
  have point : ungap ('.' :: '.' :: more) = '.' :: '.' :: more := ungap_cons (by decide) _
  rcases isLower with rfl | rfl | isNumber | isDate
  · exact ⟨_, (begins_boundary.missesAt_cons _).optional⟩
  · have other {kind : Token} (noStar : kind.begins '*' = false) :
        kind.take? ('*' :: '.' :: '.' :: more) = none := Token.take?_eq_none_of_begins noStar
    have taken : Token.star.take? ('*' :: '.' :: '.' :: more) =
        some (['*'], '.' :: '.' :: more) := takeWord?_append ['*'] _
    have finds := boundary_findsAt_star (other rfl) (other rfl) (other rfl) taken
    exact ⟨_, (point ▸ finds).optional⟩
  · have finds := boundary_findsAt_number (takeDate?_eq_none_of_isNumber ends isNumber)
      (takeNumber?_of_isNumber ends isNumber)
    exact ⟨_, (point ▸ finds).optional⟩
  · have finds := boundary_findsAt_date (takeDate?_of_isDate ends isDate)
    exact ⟨_, (point ▸ finds).optional⟩

theorem not_misses_range {lower more : List Char} (isLower : IsLower lower)
    (text_eq : cursor.skipGap.rest = lower ++ '.' :: '.' :: more) : ¬ range.Misses cursor := by
  intro misses
  obtain ⟨_, findsAt⟩ := isLower.exists_findsAt more
  obtain ⟨_, place, found, place_eq, _⟩ := findsAt cursor text_eq
  obtain ⟨bound, front, bound_found, noDots⟩ := misses_range_iff.mp misses
  obtain ⟨_, rfl⟩ := bound_found.unique found
  have dots : Token.dots.take? ('.' :: '.' :: more) = some (['.', '.'], more) :=
    takeWord?_append ['.', '.'] more
  rw [place_eq, dots] at noDots
  cases noDots

end Places

/-! ## Items that are texts -/

/-- The constructs that are tried before a text. -/
def structuredItems : List (Reader Node) :=
  [orWord, sortDirective, qualifiedValue, range, comparison, date, number, variableName]

/-- Where an item is a text, all other constructs are missed. -/
theorem misses_of_literal_item {cursor next : Cursor} {node : Node}
    (finds : item.Finds cursor node next) (kind : node.kind = .literal) :
    (∀ reader ∈ structuredItems, reader.Misses cursor) ∧ literal.Finds cursor node next := by
  have yields : ∀ reader ∈ structuredItems, Yields reader
      [.mark, .sort, .qualified, .range, .compare, .date, .number, .variable] := by
    simp only [structuredItems, List.forall_mem_cons]
    exact ⟨yields_orWord.mono (by decide), yields_sortDirective.mono (by decide),
      yields_qualifiedValue.mono (by decide), yields_range.mono (by decide),
      yields_comparison.mono (by decide), yields_date.mono (by decide),
      yields_number.mono (by decide), yields_variableName.mono (by decide), by simp⟩
  refine misses_of_finds_last finds fun reader member found => ?_
  have kind_mem := (yields reader member found).1
  rw [kind] at kind_mem
  exact absurd kind_mem (by decide)

/-- A text that is taken without a quote is a bare word that cannot be extended and in which no
qualifier begins. -/
theorem bareWord_of_takeText? {word after : List Char}
    (taken : takeText? (word ++ after) = some (word, after)) (noQuote : word.head? ≠ some '"') :
    IsBareWord word ∧ (∀ c ∈ after.head?, isBare c = false) ∧ takeName? (word ++ after) = none := by
  have nonempty : word ≠ [] := (takeText?_eq_some taken).2.1
  rw [takeText?_of_head (by rwa [List.head?_append_of_ne_nil _ nonempty])] at taken
  simp only [Option.ite_none_left_eq_some, Bool.or_eq_true, not_or, Option.some.injEq,
    Bool.not_eq_true, Option.isSome_eq_false_iff, Option.isNone_iff_eq_none] at taken
  obtain ⟨⟨_, noName⟩, run_eq⟩ := taken
  obtain ⟨word_eq, after_eq⟩ := Prod.mk.inj run_eq
  refine ⟨fun c member => ?_, fun c member => ?_, noName⟩
  · rw [← word_eq] at member
    exact List.all_eq_true.mp List.all_takeWhile c member
  · have head := List.head?_dropWhile_not isBare (word ++ after)
    rw [after_eq, Option.mem_def.mp member] at head
    simpa using head

/-- Where all other constructs are missed, a text that is taken without a quote is free. -/
theorem isFreeText_of_misses {cursor : Cursor} {word after : List Char}
    (text_eq : cursor.skipGap.rest = word ++ after)
    (misses : ∀ reader ∈ structuredItems, reader.Misses cursor)
    (taken : takeText? (word ++ after) = some (word, after)) (noQuote : word.head? ≠ some '"') :
    IsFreeText word after := by
  obtain ⟨isBareWord, outside, noName⟩ := bareWord_of_takeText? taken noQuote
  have ends : ∀ c ∈ after.head?, isBlank c = true ∨ c = '"' := by
    intro c member
    have notBare := outside c member
    rw [isBare, Bool.and_eq_false_iff, Bool.not_eq_false', bne_eq_false_iff_eq] at notBare
    exact notBare
  simp only [structuredItems, List.forall_mem_cons] at misses
  obtain ⟨noOr, -, noQualified, noRange, noComparison, noDate, noNumber, noVariable, -⟩ := misses
  rw [misses_orWord_iff, text_eq] at noOr
  rw [misses_comparison_iff, text_eq] at noComparison
  rw [misses_date_iff, text_eq] at noDate
  rw [misses_number_iff, text_eq] at noNumber
  rw [misses_variableName_iff, text_eq] at noVariable
  constructor
  case isBareWord => exact isBareWord
  case ends => exact ends
  case noQualifier =>
    intro name more isName
    constructor
    · rintro rfl
      obtain ⟨first, run, rfl, letter, inside⟩ := isName
      have name := takeName?_append letter inside (more ++ after)
      rw [← List.cons_append, ← List.append_assoc, noName] at name
      cases name
    · rintro rfl
      have begins : cursor.skipGap.rest = '-' :: name ++ ':' :: (more ++ after) := by simp [text_eq]
      exact not_misses_negatedValue isName begins noQualified
  case noVariable =>
    rintro first more starts rfl
    simp [Token.take?, takeVariable?, starts] at noVariable
  case noComparison =>
    have noSign {sign : Char} (isSign : sign = '<' ∨ sign = '>') (more : List Char) :
        word ≠ sign :: more := by
      rintro rfl
      rw [List.cons_append, Token.take?, takeComparison?_cons _ _ isSign] at noComparison
      split at noComparison <;> cases noComparison
    exact fun more => ⟨noSign (Or.inl rfl) more, noSign (Or.inr rfl) more⟩
  case noRange =>
    rintro lower more isLower rfl
    have begins : cursor.skipGap.rest = lower ++ '.' :: '.' :: (more ++ after) := by simp [text_eq]
    exact not_misses_range isLower begins noRange
  case quoteAdjoins =>
    intro form
    by_contra apart
    have endsHere : endsWord after = true := by
      cases after with
      | nil => rfl
      | cons c after => exact (ends c rfl).resolve_right fun quote => apart (congrArg some quote)
    have boundaryEnds := endsBoundary_of_endsWord endsHere
    rcases form with rfl | isNumber | isDate
    · rw [Token.take?, takeWordBefore?_append "OR" endsHere] at noOr
      cases noOr
    · rw [Token.take?, takeNumber?_of_isNumber boundaryEnds isNumber] at noNumber
      cases noNumber
    · rw [Token.take?, takeDate?_of_isDate boundaryEnds isDate] at noDate
      cases noDate

/-- Where a text stands in its line, if it is an item of a query. -/
theorem exists_isFreeText {content : List Char} {place next : Cursor} {node : Node}
    (on : place.On content) (finds : item.Finds place node next) (kind : node.kind = .literal) :
    ∃ front word after, content = front ++ word ++ after ∧
      node.span = spanOf front.length (front.length + word.length) ∧
      (word.head? ≠ some '"' → IsFreeText word after) := by
  obtain ⟨misses, found⟩ := misses_of_literal_item finds kind
  obtain ⟨lexeme, token_found, rfl⟩ := finds_literal_iff.mp found
  obtain ⟨text_eq, _, _⟩ := split_of_finds_token token_found
  obtain ⟨_, start_eq, _⟩ := (finds_token_iff ..).mp token_found
  have length_eq : (content.take lexeme.start).length = lexeme.start :=
    List.length_take_of_le (start_eq ▸ on.skipGap.offset_le)
  refine ⟨content.take lexeme.start, lexeme.chars, next.rest, ?_, ?_, fun noQuote => ?_⟩
  · rw [List.append_assoc, ← text_eq, on.skipGap.rest_eq, ← start_eq, List.take_append_drop]
  · rw [length_eq]
    rfl
  · exact isFreeText_of_misses text_eq misses (take?_of_finds_token token_found) noQuote

/-- Each item of a query of a line is found at some place. -/
theorem exists_place_of_item {content : List Char} {root query part : Node} {final : Cursor}
    (finds : line.Finds ⟨0, content⟩ root final) (query_mem : query ∈ root.preorder)
    (kind : query.kind = .query) (part_mem : part ∈ query.partNodes)
    (present : part.kind ≠ .missing) :
    ∃ place next, place.On content ∧ item.Finds place part next := by
  have kept := kept_on content
  have start := Cursor.on_start content
  have shaped := (yields_line finds).2
  obtain ⟨_, found | ⟨_, found⟩, _⟩ := finds_line_iff.mp finds
  · obtain ⟨name, front, name_found, sign, back, sign_found, items, repeats, rfl⟩ :=
      finds_definition_iff.mp found
    have on : back.On content := kept (kept start name_found) sign_found
    rw [Node.forall_mem_preorder_iff, Node.partNodes_definition, List.forall_mem_cons,
      List.forall_mem_singleton] at shaped
    obtain ⟨definition_shaped, name_shaped, value_shaped⟩ := shaped
    rw [Node.preorder_eq, Node.partNodes_definition, List.flatMap_cons, List.flatMap_singleton,
      List.mem_cons, List.mem_append] at query_mem
    rcases query_mem with rfl | name_mem | value_mem
    · cases kind
    · have name_kind := Node.kind_of_mem_preorder name_shaped (by simp [Node.kind]) query name_mem
      exact absurd kind name_kind.1
    · obtain rfl := Node.eq_root_of_kind value_shaped definition_shaped.2.1 value_mem kind
      cases items with
      | nil =>
          obtain rfl := by simpa [definedValue] using part_mem
          exact absurd rfl present
      | cons first others =>
          rw [definedValue, queryOf, Node.partNodes_query] at part_mem
          exact repeats.exists_place (keeps_item kept) on part part_mem
  · obtain ⟨first, others, repeats, rfl⟩ := finds_query_iff.mp found
    obtain rfl := Node.eq_root_of_kind shaped rfl query_mem kind
    rw [queryOf, Node.partNodes_query] at part_mem
    exact repeats.exists_place (keeps_item kept) start part part_mem

/-! ## Lines that are definitions -/

/-- The line begins with a variable and the sign of a definition, but for spaces and tabs. -/
def BeginsDefinition (content : List Char) : Prop :=
  ∃ gap first run gap' rest, content = gap ++ '$' :: first :: run ++ gap' ++ '=' :: rest ∧
    (∀ c ∈ gap ++ gap', c = ' ' ∨ c = '\t') ∧ startsVariable first = true ∧
    ∀ c ∈ run, isNameChar c = true

/-- A variable between gaps is found, whatever follows that it could not go on with. -/
theorem exists_finds_variable {gap run gap' rest : List Char} {first : Char}
    (gaps : ∀ c ∈ gap ++ gap', isGap c = true) (starts : startsVariable first = true)
    (inside : ∀ c ∈ run, isNameChar c = true)
    (stops : ∀ c ∈ rest.head?, isNameChar c = false ∧ isGap c = false) :
    ∃ name front,
      (token .variable).Finds ⟨0, gap ++ '$' :: first :: run ++ gap' ++ rest⟩ name front ∧
      front.skipGap.rest = rest := by
  rw [List.forall_mem_append] at gaps
  have outside : ∀ c ∈ (gap' ++ rest).head?, isNameChar c = false := by
    intro c member
    cases gap' with
    | nil => exact (stops c member).1
    | cons d gap' =>
        obtain rfl := Option.some.inj member
        exact isNameChar_eq_false_of_isBlank (Text.isBlank_of_isGap (gaps.2 d List.mem_cons_self))
  have taken : Token.variable.take? ('$' :: first :: (run ++ (gap' ++ rest))) =
      some ('$' :: first :: run, gap' ++ rest) := by
    simp [Token.take?, takeVariable?, takeRun_of_boundary inside outside, starts]
  have text_eq : (Cursor.mk 0 (gap ++ '$' :: first :: run ++ gap' ++ rest)).skipGap.rest =
      '$' :: first :: (run ++ (gap' ++ rest)) := by
    rw [Cursor.skipGap_rest, ungap, List.append_assoc, List.append_assoc,
      List.dropWhile_append_of_pos gaps.1]
    exact ungap_cons (by decide) _
  obtain ⟨name, front, found, front_eq, _⟩ := findsAt_token taken _ text_eq
  refine ⟨name, front, found, front_eq.trans ?_⟩
  rw [ungap, List.dropWhile_append_of_pos gaps.2]
  cases rest with
  | nil => rfl
  | cons c rest => simp [(stops c rfl).2]

theorem not_misses_definition {content : List Char} (begins : BeginsDefinition content) :
    ¬ definition.Misses ⟨0, content⟩ := by
  obtain ⟨gap, first, run, gap', rest, rfl, spaces, starts, inside⟩ := begins
  have gaps : ∀ c ∈ gap ++ gap', isGap c = true := by
    intro c member
    rcases spaces c member with rfl | rfl <;> decide
  have stops : ∀ c ∈ ('=' :: rest).head?, isNameChar c = false ∧ isGap c = false := by
    intro c member
    obtain rfl := Option.some.inj member
    exact ⟨Text.isNameChar_eq_false_of_sign, by decide⟩
  obtain ⟨name, front, found, front_eq⟩ := exists_finds_variable gaps starts inside stops
  have sign : Token.equals.take? ('=' :: rest) = some (['='], rest) := takeWord?_append ['='] rest
  intro misses
  rcases misses_definition_iff.mp misses with noVariable | ⟨_, _, name_found, noSign⟩
  · exact found.not_misses ((misses_token_iff ..).mpr noVariable)
  · obtain ⟨_, rfl⟩ := name_found.unique found
    rw [front_eq, sign] at noSign
    cases noSign

/-- A gap of a line without breaks is made of spaces and tabs. -/
theorem eq_space_or_tab_of_isGap {content : List Char} (noBreak : '\r' ∉ content ∧ '\n' ∉ content)
    {c : Char} (member : c ∈ content) (gap : isGap c = true) : c = ' ' ∨ c = '\t' := by
  simp only [isGap, Bool.or_eq_true, beq_iff_eq] at gap
  rcases gap with ((space | tab) | rfl) | rfl
  · exact Or.inl space
  · exact Or.inr tab
  · exact absurd member noBreak.1
  · exact absurd member noBreak.2

theorem beginsDefinition_of_finds {content : List Char}
    (noBreak : '\r' ∉ content ∧ '\n' ∉ content) {node : Node} {next : Cursor}
    (finds : definition.Finds ⟨0, content⟩ node next) : BeginsDefinition content := by
  obtain ⟨name, front, name_found, sign, back, sign_found, _⟩ := finds_definition_iff.mp finds
  obtain ⟨name_split, _, _⟩ := split_of_finds_token name_found
  obtain ⟨sign_split, _, _⟩ := split_of_finds_token sign_found
  obtain ⟨first, run, name_eq, starts, inside, _⟩ :=
    takeVariable?_eq_some ((finds_token_iff ..).mp name_found).1
  have sign_eq : sign.chars = ['='] :=
    (takeWord?_eq_some ((finds_token_iff ..).mp sign_found).1).1
  dsimp only at name_eq
  have content_eq := calc
    content = Cursor.gap ⟨0, content⟩ ++ Cursor.rest (Cursor.skipGap ⟨0, content⟩) :=
      Cursor.gap_append ⟨0, content⟩
    _ = Cursor.gap ⟨0, content⟩ ++ '$' :: first :: run ++ front.gap ++ '=' :: back.rest := by
      rw [name_split, name_eq, front.gap_append, sign_split, sign_eq]
      simp
  refine ⟨_, first, run, _, back.rest, content_eq, fun c member => ?_, starts, inside⟩
  have gap : isGap c = true :=
    (List.mem_append.mp member).elim Cursor.isGap_of_mem_gap Cursor.isGap_of_mem_gap
  have content_mem : c ∈ content := by
    rw [content_eq]
    simp only [List.mem_append] at member ⊢
    tauto
  exact eq_space_or_tab_of_isGap noBreak content_mem gap

/-- A line that is read is a definition exactly if it begins as one. -/
theorem kind_eq_definition_iff {content : List Char} (noBreak : '\r' ∉ content ∧ '\n' ∉ content)
    {node : Node} {next : Cursor} (finds : line.Finds ⟨0, content⟩ node next) :
    node.kind = .definition ↔ BeginsDefinition content := by
  obtain ⟨_, found | ⟨misses, found⟩, _⟩ := finds_line_iff.mp finds
  · have kind : node.kind = .definition := List.mem_singleton.mp (yields_definition found).1
    exact iff_of_true kind (beginsDefinition_of_finds noBreak found)
  · have kind : node.kind = .query := List.mem_singleton.mp (yields_query found).1
    exact iff_of_false (by simp [kind]) fun begins => not_misses_definition begins misses

end SearchQuery.Line
