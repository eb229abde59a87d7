import SearchQuery.Proofs.Line.ReprintParts

/-!
# Reading ranges again

A range is printed as its boundaries with the operator between them.  A boundary is read again in
front of the operator, and behind it an absent one is absent again; only a star would be lost.
-/

namespace SearchQuery.Line

open Text (isBlank isDigit)
open Reader

section Ranges

variable {before : List (Reader Node)} {content : List Char} {cursor next : Cursor}
  (on : cursor.On content)

include on

/-- A boundary that was found, and the word that it is printed as. -/
structure BoundaryReprints (content : List Char) (cursor next : Cursor) (bound : Boundary)
    (word : List Char) : Prop where
  printed : Node.printOption content some bound.node = .ok (String.ofList word)
  split : cursor.skipGap.rest = word ++ next.rest
  isWord : IsBareWord word
  head : ∃ c tail, word = c :: tail ∧ (isDigit c = true ∨ c = '$')
  token : ∃ kind ∈ boundaryTokens, kind.take? (word ++ next.rest) ≠ none
  findsAt : ∀ {after}, endsBoundary after = true →
    boundary.FindsAt (word ++ after) (ungap after) fun found => found.shape = bound.shape
  missesAt : ∀ {after}, definition.MissesAt (word ++ '.' :: '.' :: after)

private theorem boundaryReprints_of_token {kind : Token} {lexeme : Lexeme} {node : Node}
    (found : (token kind).Finds cursor lexeme next)
    (heads : ∀ {c}, kind.begins c = true → isDigit c = true ∨ c = '$')
    (printed : node.print content some = .ok (String.ofList (lexeme.span.slice content)))
    (findsAt : ∀ {after}, endsBoundary after = true →
      boundary.FindsAt (lexeme.chars ++ after) (ungap after) fun found =>
        found.shape = some node.bare)
    (missesAt : ∀ {after}, definition.MissesAt (lexeme.chars ++ '.' :: '.' :: after))
    (member : kind ∈ boundaryTokens := by decide) (noQuote : kind.begins '"' = false := by decide) :
    BoundaryReprints content cursor next (.ofNode node) lexeme.chars := by
  have not_finish : kind ≠ .finish := by
    rintro rfl
    exact absurd member (by decide)
  have between := between_of_finds_token on found not_finish
  have takes := takes_of_finds_token found not_finish
  obtain ⟨c, tail, chars_eq, begins⟩ := takes.head
  refine ⟨?_, takes.split, takes.isBareWord noQuote, ⟨c, tail, chars_eq, heads begins⟩,
    ⟨kind, member, ?_⟩, findsAt, missesAt⟩
  · rw [← between.slice_eq]
    exact printed
  · rw [take?_of_finds_token found not_finish]
    exact Option.some_ne_none _

omit on in
private theorem definition_missesAt_digit {kind : Token} {lexeme : Lexeme}
    (found : (token kind).Finds cursor lexeme next)
    (digits : ∀ {c}, kind.begins c = true → isDigit c = true) (after : List Char)
    (not_finish : kind ≠ .finish := by simp) : definition.MissesAt (lexeme.chars ++ after) := by
  obtain ⟨c, tail, chars_eq, begins⟩ := (takes_of_finds_token found not_finish).head
  rw [chars_eq]
  refine begins_definition.missesAt_cons _ ?_
  simp [Token.begins_eq_false_of_isDigit (digits begins)]

theorem boundaryReprints_date {lexeme : Lexeme} (found : (token .date).Finds cursor lexeme next) :
    BoundaryReprints content cursor next (.ofNode (.date lexeme.span lexeme.text))
      lexeme.chars := by
  refine boundaryReprints_of_token on found Or.inl rfl ?_ (definition_missesAt_digit found id _)
  intro after ends
  have isDate := isDate_of_takeDate? ((finds_token_iff ..).mp found).1
  exact boundary_findsAt_date (takeDate?_of_isDate ends isDate)

theorem boundaryReprints_number {lexeme : Lexeme}
    (found : (token .number).Finds cursor lexeme next) :
    BoundaryReprints content cursor next (.ofNode (.number lexeme.span lexeme.text))
      lexeme.chars := by
  refine boundaryReprints_of_token on found Or.inl rfl ?_ (definition_missesAt_digit found id _)
  intro after ends
  have isNumber := (takeNumber?_eq_some ((finds_token_iff ..).mp found).1).1
  exact boundary_findsAt_number (takeDate?_eq_none_of_isNumber ends isNumber)
    (takeNumber?_of_isNumber ends isNumber)

theorem boundaryReprints_variable {lexeme : Lexeme}
    (found : (token .variable).Finds cursor lexeme next) :
    BoundaryReprints content cursor next (.ofNode (.variable lexeme.span lexeme.text none))
      lexeme.chars := by
  have again {after : List Char} (ends : endsBoundary after = true) :
      Token.variable.take? (lexeme.chars ++ after) = some (lexeme.chars, after) :=
    takeVariable?_of_boundary ends (take?_of_finds_token found)
  obtain ⟨c, tail, chars_eq, begins⟩ := (takes_of_finds_token found).head
  obtain rfl : c = '$' := by simpa [Token.begins] using begins
  have other {kind : Token} (noDollar : kind.begins '$' = false) (after : List Char) :
      kind.take? (lexeme.chars ++ after) = none := by
    rw [chars_eq]
    exact Token.take?_eq_none_of_begins noDollar
  refine boundaryReprints_of_token on found ?_ ?_ ?_ ?_
  · exact fun begins => Or.inr (by simpa [Token.begins] using begins)
  · rw [(between_of_finds_token on found).slice_eq]
    rfl
  · intro after ends
    exact boundary_findsAt_variable (other (by decide) after) (other (by decide) after) (again ends)
  · intro after
    refine (findsAt_token (again rfl)).bind_misses fun _ => (missesAt_token ?_).bind
    rw [ungap_cons (by decide)]
    exact Token.take?_eq_none_of_begins (by decide)

/-- A boundary that is no star is printed and read again. -/
theorem exists_boundaryReprints {bound : Boundary} (finds : boundary.Finds cursor bound next)
    (noStar : bound.span.slice content ≠ ['*']) :
    ∃ word, BoundaryReprints content cursor next bound word := by
  rcases finds_boundary_iff.mp finds with ⟨_, dated, rfl⟩ | ⟨_, ⟨_, numbered, rfl⟩ | ⟨_,
    ⟨_, named, rfl⟩ | ⟨_, lexeme, found, rfl⟩⟩⟩
  · obtain ⟨lexeme, found, rfl⟩ := finds_date_iff.mp dated
    exact ⟨lexeme.chars, boundaryReprints_date on found⟩
  · obtain ⟨lexeme, found, rfl⟩ := finds_number_iff.mp numbered
    exact ⟨lexeme.chars, boundaryReprints_number on found⟩
  · obtain ⟨lexeme, found, rfl⟩ := finds_variableName_iff.mp named
    exact ⟨lexeme.chars, boundaryReprints_variable on found⟩
  · have between := between_of_finds_token on found
    exact absurd (between.slice_eq.trans (takeWord?_eq_some ((finds_token_iff ..).mp found).1).1)
      noStar

/-- What is read in front of the range operator, and what it is printed as. -/
structure LowerReprints (content : List Char) (cursor : Cursor) (lower : Option Boundary)
    (word : List Char) : Prop where
  printed : Node.printOption content some (lower.bind (·.node)) = .ok (String.ofList word)
  isWord : IsBareWord word
  quieter : ∀ after, Quieter cursor.skipGap.rest (word ++ '.' :: '.' :: after)
  findsAt : ∀ after, (optional boundary).FindsAt (word ++ '.' :: '.' :: after) ('.' :: '.' :: after)
    fun found => found.bind Boundary.shape = lower.bind Boundary.shape
  missesAt : ∀ other ∈ [definition, orWord, sortDirective, qualifiedValue],
    ∀ after, other.MissesAt (word ++ '.' :: '.' :: after)

/-- What is read behind the range operator, and what it is printed as. -/
structure UpperReprints (content : List Char) (next : Cursor) (upper : Option Boundary)
    (word : List Char) : Prop where
  printed : Node.printOption content some (upper.bind (·.node)) = .ok (String.ofList word)
  isWord : IsBareWord word
  findsAt : ∀ {after}, Follows next.rest after →
    (optional boundary).FindsAt (ungap (word ++ after)) (ungap after) fun found =>
      found.bind Boundary.shape = upper.bind Boundary.shape

omit on in
theorem lowerReprints_boundary {front : Cursor} {bound : Boundary} {word : List Char}
    (reprints : BoundaryReprints content cursor front bound word) :
    LowerReprints content cursor (some bound) word := by
  obtain ⟨c, tail, word_eq, head⟩ := reprints.head
  refine ⟨reprints.printed, reprints.isWord, ?_, ?_, ?_⟩
  · intro after
    have visible := isBlank_eq_false_of_isBare (reprints.isWord c (by simp [word_eq]))
    have noSign : c.isAlpha = false ∧ c ≠ '/' ∧ c ≠ '.' ∧ c ≠ '=' := by
      rcases head with digit | rfl
      · refine ⟨(Text.isAlpha_eq_false_of_isDigit digit).1, ?_, ?_, ?_⟩ <;> rintro rfl <;>
          exact absurd digit (by decide)
      · decide
    obtain ⟨noLetter, noSlash, noPoint, noEquals⟩ := noSign
    have token := reprints.token
    rw [reprints.split]
    rw [word_eq] at token ⊢
    exact quieter_sign (Or.inr token) (Or.inl noPoint) visible noLetter noSlash noEquals
  · intro after
    have again : boundary.FindsAt (word ++ '.' :: '.' :: after) (ungap ('.' :: '.' :: after))
        fun found => found.shape = bound.shape := reprints.findsAt rfl
    rw [ungap_cons (by decide)] at again
    refine again.optional.mono ?_
    rintro _ ⟨found, rfl, shape_eq⟩
    exact shape_eq
  · intro other member after
    have others : ∀ other ∈ [orWord, sortDirective, qualifiedValue],
        other.Begins [.orWord, .sortWord, .dash, .name] := by
      simp only [List.forall_mem_cons]
      exact ⟨begins_orWord.mono, begins_sortDirective.mono, begins_qualifiedValue.mono, by simp⟩
    rcases List.mem_cons.mp member with rfl | member
    · exact reprints.missesAt
    · rw [word_eq]
      rcases head with digit | rfl
      · refine (others other member).missesAt_cons _ ?_
        simp [Token.begins_eq_false_of_isDigit digit]
      · exact (others other member).missesAt_cons _

omit on in
theorem lowerReprints_none {back : Cursor} {dots : Lexeme}
    (dots_found : (token .dots).Finds cursor dots back) : LowerReprints content cursor none [] := by
  refine ⟨rfl, by simp [IsBareWord], ?_, ?_, ?_⟩
  · intro after
    have taken := ((finds_token_iff ..).mp dots_found).1
    have rest_eq := (takeWord?_eq_some taken).2
    rw [rest_eq] at taken ⊢
    refine quieter_sign (Or.inl (by decide)) (Or.inr ?_)
    exact fun missed => absurd (taken.symm.trans missed) (Option.some_ne_none _)
  · intro after
    refine (begins_boundary.missesAt_cons _).optional.mono ?_
    rintro _ rfl
    rfl
  · intro other member after
    have others : ∀ other ∈ [definition, orWord, sortDirective, qualifiedValue],
        other.Begins [.variable, .orWord, .sortWord, .dash, .name] := by
      simp only [List.forall_mem_cons]
      exact ⟨begins_definition.mono, begins_orWord.mono, begins_sortDirective.mono,
        begins_qualifiedValue.mono, by simp⟩
    exact (others other member).missesAt_cons _

theorem exists_lowerReprints {front back : Cursor} {lower : Option Boundary} {dots : Lexeme}
    (finds : (optional boundary).Finds cursor lower front)
    (dots_found : (token .dots).Finds front dots back)
    (noStar : ∀ bound ∈ lower, bound.span.slice content ≠ ['*']) :
    ∃ word, LowerReprints content cursor lower word := by
  rcases (finds_optional_iff ..).mp finds with ⟨bound, rfl, found⟩ | ⟨rfl, rfl, _⟩
  · obtain ⟨word, reprints⟩ := exists_boundaryReprints on found (noStar bound rfl)
    exact ⟨word, lowerReprints_boundary reprints⟩
  · exact ⟨[], lowerReprints_none dots_found⟩

theorem exists_upperReprints {upper : Option Boundary}
    (finds : (optional boundary).Finds cursor upper next)
    (noStar : ∀ bound ∈ upper, bound.span.slice content ≠ ['*']) :
    ∃ word, UpperReprints content next upper word := by
  rcases (finds_optional_iff ..).mp finds with ⟨bound, rfl, found⟩ | ⟨rfl, rfl, missed⟩
  · obtain ⟨word, reprints⟩ := exists_boundaryReprints on found (noStar bound rfl)
    refine ⟨word, reprints.printed, reprints.isWord, ?_⟩
    intro after follows
    obtain ⟨c, tail, word_eq, _⟩ := reprints.head
    have visible := isBlank_eq_false_of_isBare (reprints.isWord c (by simp [word_eq]))
    have noGap : ungap (word ++ after) = word ++ after := by
      rw [word_eq, List.cons_append, ungap_cons visible]
    rw [noGap]
    refine (reprints.findsAt (endsBoundary_of_endsWord follows.ends')).optional.mono ?_
    rintro _ ⟨found, rfl, shape_eq⟩
    exact shape_eq
  · refine ⟨[], rfl, by simp [IsBareWord], ?_⟩
    intro after follows
    obtain ⟨noDate, noNumber, noVariable, noStar⟩ := misses_boundary_iff.mp missed
    have noBoundary : ∀ kind ∈ boundaryTokens, kind.take? (ungap next.rest) = none := by
      simp only [boundaryTokens, List.forall_mem_cons]
      exact ⟨misses_date_iff.mp noDate, misses_number_iff.mp noNumber,
        misses_variableName_iff.mp noVariable, (misses_token_iff ..).mp noStar, by simp⟩
    have missesAt := begins_boundary.missesAt (follows.quieter.boundary noBoundary)
    refine missesAt.optional.mono ?_
    rintro _ rfl
    rfl

/-- A range that does not begin with a star has no star in front of its operator. -/
private theorem slice_lower_ne {bound : Boundary} (found : boundary.Finds cursor bound next)
    {stop : Int} (longer : next.offset ≤ stop)
    (noStar : (Span.slice ⟨bound.span.start, stop⟩ content).head? ≠ some '*') :
    bound.span.slice content ≠ ['*'] := by
  intro star
  have between := boundaryBetween_of_finds on found
  have start_eq := between.start_eq
  have stop_eq := between.stop_eq
  have nonempty := between.nonempty
  have slice_prefix : bound.span.slice content <+: Span.slice ⟨bound.span.start, stop⟩ content :=
    @Text.slice_prefix content bound.span.start bound.span.stop stop
      (by omega) (by omega) (by omega)
  rw [star] at slice_prefix
  obtain ⟨rest, slice_eq⟩ := slice_prefix
  simp [← slice_eq] at noStar

/-- A range that does not end with a star has no star behind its operator. -/
private theorem slice_upper_ne {bound : Boundary} (found : boundary.Finds cursor bound next)
    {start : Int} (nonneg : 0 ≤ start) (longer : start ≤ cursor.offset)
    (noStar : (Span.slice ⟨start, bound.span.stop⟩ content).getLast? ≠ some '*') :
    bound.span.slice content ≠ ['*'] := by
  intro star
  have between := boundaryBetween_of_finds on found
  have start_eq := between.start_eq
  have stop_eq := between.stop_eq
  have nonempty := between.nonempty
  have := cursor.le_skipGap
  have slice_suffix : bound.span.slice content <:+ Span.slice ⟨start, bound.span.stop⟩ content :=
    @Text.slice_suffix content start bound.span.start bound.span.stop nonneg (by omega) (by omega)
  rw [star] at slice_suffix
  obtain ⟨rest, slice_eq⟩ := slice_suffix
  simp [← slice_eq] at noStar

theorem reprintable_range (tried : before ⊆ [definition, orWord, sortDirective, qualifiedValue]) :
    Reprintable before content range cursor next := by
  intro node finds plain
  have next_on : next.On content := (nodeBetween_range on finds).on
  obtain ⟨lower, front, lower_found, dots, back, dots_found, upper, upper_found, rfl⟩ :=
    finds_range_iff.mp finds
  have front_on : front.On content :=
    (keeps_boundary (kept_on content)).optional.next on lower_found
  have sign := between_of_finds_token front_on dots_found
  have sign_start := sign.start_eq
  have sign_stop := sign.stop_eq
  have sign_nonempty := sign.nonempty
  obtain ⟨start_eq, before_dots, _⟩ := lower_of_finds on lower_found sign.start_eq
  obtain ⟨stop_eq, behind_dots, _⟩ := upper_of_finds sign.on upper_found sign.stop_eq
  have root := plain _ (Node.self_mem_preorder _)
  have noLower : ∀ bound ∈ lower, bound.span.slice content ≠ ['*'] := by
    rintro bound ⟨⟩
    refine slice_lower_ne on ((finds_optional_some_iff ..).mp lower_found) ?_ root.1
    have := front.le_skipGap
    omega
  have noUpper : ∀ bound ∈ upper, bound.span.slice content ≠ ['*'] := by
    rintro bound ⟨⟩
    refine slice_upper_ne sign.on ((finds_optional_some_iff ..).mp upper_found) ?_ ?_ root.2 <;>
      omega
  obtain ⟨word, first⟩ := exists_lowerReprints on lower_found dots_found noLower
  obtain ⟨word', last⟩ := exists_upperReprints sign.on upper_found noUpper
  have text_eq (after : List Char) :
      word ++ '.' :: '.' :: word' ++ after = word ++ '.' :: '.' :: (word' ++ after) := by simp
  have isWord : IsBareWord (word ++ '.' :: '.' :: word') := by
    intro c member
    simp only [List.mem_append, List.mem_cons] at member
    rcases member with member | rfl | rfl | member
    · exact first.isWord c member
    · decide
    · decide
    · exact last.isWord c member
  refine ⟨word ++ '.' :: '.' :: word', ?_⟩
  constructor
  · rw [Node.print, first.printed, last.printed,
      show word ++ '.' :: '.' :: word' = word ++ ['.', '.'] ++ word' by simp, String.ofList_append,
      String.ofList_append]
    rfl
  · obtain ⟨c, tail, text_eq⟩ := List.exists_cons_of_ne_nil
      (show word ++ '.' :: '.' :: word' ≠ [] by simp)
    exact ⟨c, tail, text_eq, isBlank_eq_false_of_isBare (isWord c (by simp [text_eq]))⟩
  · refine ⟨word ++ '.' :: '.' :: word', [], by simp, ?_, ?_⟩
    · exact fun c member => isBlank_eq_false_of_isBare (isWord c member)
    · rw [List.nil_append, next_on.rest_eq]
      exact List.drop_suffix _ _
  · intro after _
    rw [text_eq]
    exact first.quieter _
  · intro after follows
    rw [text_eq]
    refine (first.findsAt _).bind fun lower' lower_same => ?_
    have dots_taken : Token.dots.take? ('.' :: '.' :: (word' ++ after)) =
        some (['.', '.'], word' ++ after) := by
      simp [Token.take?, takeWord?]
    refine (findsAt_token dots_taken).bind fun dots' _ =>
      (last.findsAt follows).map fun upper' upper_same => ?_
    simp only [Node.bare, Node.bareOption_eq_map, map_bare_bind_node, lower_same, upper_same]
  · intro other member _ after _
    rw [text_eq]
    exact first.missesAt other (tried member) _

end Ranges

end SearchQuery.Line
