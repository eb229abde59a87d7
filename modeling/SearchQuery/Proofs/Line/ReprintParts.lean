import SearchQuery.Proofs.Line.Reprint

/-!
# Reading constructs with a last part again

A construct is printed as its first tokens and its last part, without the gaps between them.  The
first tokens are those that were read, whatever part follows them, so that the readers tried before
miss again and the last part is read again behind them.
-/

namespace SearchQuery.Line

open Text (isBlank isDigit isNameChar)
open Reader

/-! ## Beginnings -/

/-- In front of a sign a text begins no more than another one with the same sign. -/
theorem quieter_sign {c : Char} {text text' : List Char}
    (boundary : (boundaryTokens.all fun kind => !kind.begins c) = true ∨
      ∃ kind ∈ boundaryTokens, kind.take? (c :: text) ≠ none)
    (dots : c ≠ '.' ∨ Token.dots.take? (c :: text) ≠ none)
    (visible : isBlank c = false := by decide) (noLetter : c.isAlpha = false := by decide)
    (noSlash : c ≠ '/' := by decide) (noEquals : c ≠ '=' := by decide) :
    Quieter (c :: text) (c :: text') := by
  apply quieter_cons noSlash boundary
  have noName : takeName? (c :: text) = none :=
    @Token.take?_eq_none_of_begins .name c text noLetter
  have hasText : Token.text.take? (c :: text) ≠ none := takeText?_ne_none visible noName
  have dotsOr : Token.dots.begins c = false ∨ Token.dots.take? (c :: text) ≠ none :=
    dots.imp_left fun other => by simpa [Token.begins] using other
  simp only [List.forall_mem_cons]
  refine ⟨dotsOr.imp_right Or.inl, Or.inr (Or.inl hasText), Or.inl noLetter, Or.inl ?_, by simp⟩
  simpa [Token.begins] using noEquals

/-- Behind a name and its colon anything can follow. -/
theorem quieter_name {first : Char} {run : List Char} (letter : first.isAlpha = true)
    (inside : ∀ c ∈ run, isNameChar c = true) (after after' : List Char) :
    Quieter (first :: run ++ ':' :: after) (first :: run ++ ':' :: after') := by
  have name (rest : List Char) : takeName? (first :: run ++ ':' :: rest) ≠ none := by
    rw [takeName?_append letter inside rest]
    exact Option.some_ne_none _
  have noToken {kind : Token} (other : kind ∉ [.orWord, .sortWord, .name, .text]) :
      kind.begins first = false := Token.begins_eq_false_of_isAlpha letter other
  have noSlash : first ≠ '/' := by
    rintro rfl
    exact absurd letter (by decide)
  apply quieter_cons noSlash
  · left
    simp [boundaryTokens, noToken]
  · simp only [List.forall_mem_cons]
    exact ⟨Or.inl (noToken (by decide)), Or.inr (Or.inr (takeText?_eq_none_of_name (name after'))),
      Or.inr (Or.inl (name after)), Or.inl (noToken (by decide)), by simp⟩

/-- A construct that is printed as some leading characters and its last part is read again if it is
read again in front of that part. -/
theorem PartReprints.reprints {before : List (Reader Node)} {content : List Char}
    {reader last : Reader Node} {cursor next : Cursor} {node : Node} {value : Option Node}
    {message : String} {lead text : List Char}
    (part : PartReprints content last next value message text) (nonempty : lead ≠ [])
    (leads : ∀ c ∈ lead, isBlank c = false)
    (printed : node.print content some = .ok (String.ofList (lead ++ text)))
    (quieter : ∀ after, Quieter cursor.skipGap.rest (lead ++ after))
    (findsAt : ∀ {after}, Follows next.rest after →
      reader.FindsAt (lead ++ (text ++ after)) (ungap after) fun found => found.bare = node.bare)
    (missesAt : ∀ other ∈ before, other.Misses cursor →
      ∀ after, other.MissesAt (lead ++ after)) :
    Reprints before content reader cursor next node (lead ++ text) := by
  constructor
  · exact printed
  · obtain ⟨c, tail, lead_eq⟩ := List.exists_cons_of_ne_nil nonempty
    exact ⟨c, tail ++ text, by rw [lead_eq, List.cons_append], leads c (by simp [lead_eq])⟩
  · obtain ⟨front, back, text_eq, inside, stands⟩ := part.unbroken
    refine ⟨lead ++ front, back, by rw [text_eq, List.append_assoc], ?_, stands⟩
    intro c member
    rcases List.mem_append.mp member with member | member
    · exact leads c member
    · exact inside c member
  · intro after _
    rw [List.append_assoc]
    exact quieter _
  · intro after follows
    rw [List.append_assoc]
    exact findsAt follows
  · intro other member missed after _
    rw [List.append_assoc]
    exact missesAt other member missed _

theorem findsAt_colon (text : List Char) :
    (token .colon).FindsAt (ungap (':' :: text)) (ungap text) fun _ => True := by
  have taken : Token.colon.take? (':' :: text) = some ([':'], text) := takeWord?_append _ _
  rw [ungap_cons (by decide)]
  exact (findsAt_token taken).mono fun _ _ => trivial

/-! ## Constructs -/

section Constructs

variable {before : List (Reader Node)} {content : List Char} {cursor next : Cursor}
  (on : cursor.On content)

include on

theorem reprintable_sortDirective (tried : before ⊆ [definition, orWord]) :
    Reprintable before content sortDirective cursor next := by
  intro node finds plain
  obtain ⟨keyword, front, keyword_found, colon, back, colon_found, criteria, criteria_found, rfl⟩ :=
    finds_sortDirective_iff.mp finds
  have word := between_of_finds_token on keyword_found
  have sign := between_of_finds_token word.on colon_found
  have keyword_eq : keyword.chars = ['s', 'o', 'r', 't'] ∧
      ∃ after, cursor.skipGap.rest = ['s', 'o', 'r', 't'] ++ ':' :: after := by
    have taken := ((finds_token_iff ..).mp keyword_found).1
    rw [Token.take?] at taken
    obtain ⟨chars_eq, rest_eq, colon⟩ := takeWordBefore?_eq_some taken
    obtain ⟨after, after_eq⟩ := List.head?_eq_some_iff.mp (by simpa using colon)
    exact ⟨chars_eq, after, by rw [rest_eq, after_eq]; rfl⟩
  obtain ⟨chars_eq, rest, rest_eq⟩ := keyword_eq
  obtain ⟨text, part⟩ := exists_partReprints missingCriteria sign.on begins_criteria
    (fun misses => (misses_firstOf_iff ..).mp misses literal (by simp))
    (reprintable_criteria sign.on (List.nil_subset _)) criteria_found (by
      rintro _ rfl
      exact plain.part (by simp [orMissing]))
  refine ⟨['s', 'o', 'r', 't', ':'] ++ text, part.reprints (by simp) (by simp; decide) ?_ ?_ ?_ ?_⟩
  · have printed := part.printed ((criteria.map (·.stop)).getD colon.span.stop)
    rw [Node.print, Node.print, word.slice_eq, chars_eq, printed, String.ofList_append]
    rfl
  · intro after
    rw [rest_eq]
    have letters : ∀ c ∈ "ort".toList, c.isAlpha = true := List.all_eq_true.mp (by decide)
    exact quieter_name (by decide) (fun c member => Text.isNameChar_of_isAlpha (letters c member))
      rest after
  · intro after follows
    have taken : Token.sortWord.take? (['s', 'o', 'r', 't', ':'] ++ (text ++ after)) =
        some (['s', 'o', 'r', 't'], ':' :: (text ++ after)) := by
      simp [Token.take?, takeWordBefore?, takeWord?]
    refine (findsAt_token taken).bind fun keyword' keyword_eq => (findsAt_colon _).bind
      fun colon' _ => (part.findsAt follows).map fun criteria' same => ?_
    simp only [Node.bare, Lexeme.text, keyword_eq, chars_eq]
    exact congrArg _ (bare_orMissing same _ _ _)
  · intro other member _ after
    have others : ∀ other ∈ [definition, orWord], other.Begins [.variable, .orWord] := by
      simp only [List.forall_mem_cons]
      exact ⟨begins_definition.mono, begins_orWord.mono, by simp⟩
    exact (others other (tried member)).missesAt_cons _

omit on in
/-- Of the values of a comparison only a literal can begin with a sign of equality. -/
private theorem eq_literal_of_equals {node : Node} {message : String} {text after : List Char}
    (part : PartReprints content (firstOf [date, number, variableName, literal]) next (some node)
      message text)
    (follows : Follows next.rest after) (equals : text.head? = some '=') :
    ∃ span word, node = .literal span word ∧ span.slice content = text := by
  obtain ⟨tail, rfl⟩ := List.head?_eq_some_iff.mp equals
  have place_eq : (Cursor.mk 0 ('=' :: tail ++ after)).skipGap.rest = '=' :: (tail ++ after) :=
    ungap_cons (show isBlank '=' = false by decide) (tail ++ after)
  obtain ⟨found, place, finds, _, same⟩ := part.findsAt follows ⟨0, '=' :: tail ++ after⟩ rfl
  obtain ⟨node', rfl, bare_eq⟩ := Option.map_eq_some_iff.mp same
  rcases (finds_optional_iff ..).mp finds with ⟨_, found_eq, found⟩ | ⟨impossible, _⟩
  · obtain rfl := Option.some.inj found_eq
    obtain ⟨reader, member, found⟩ := exists_of_finds_firstOf found
    simp only [List.mem_cons, List.not_mem_nil, or_false] at member
    rcases member with rfl | rfl | rfl | rfl
    · exact absurd ((begins_date.missesAt_cons _) _ place_eq) found.not_misses
    · exact absurd ((begins_number.missesAt_cons _) _ place_eq) found.not_misses
    · exact absurd ((begins_variableName.missesAt_cons _) _ place_eq) found.not_misses
    · obtain ⟨lexeme, _, rfl⟩ := finds_literal_iff.mp found
      cases node with
      | literal span word =>
          have printed := part.printed 0
          rw [orMissing, Option.getD_some, Node.print, Except.ok.injEq] at printed
          exact ⟨span, word, rfl, String.ofList_injective printed⟩
      | _ => simp [Node.bare] at bare_eq
  · simp at impossible

omit on in
/-- No sign of equality follows the operator of a plain comparison that has one sign. -/
private theorem head?_ne_of_isPlain {span : Span} {operator : Lexeme} {value : Option Node}
    {stop : Int} {text after : List Char}
    (part : PartReprints content (firstOf [date, number, variableName, literal]) next value
      missingValue text)
    (plain : (Node.compare span operator.text (orMissing value stop missingValue)).IsPlain content)
    (follows : Follows next.rest after)
    (single : operator.chars = ['<'] ∨ operator.chars = ['>']) :
    (text ++ after).head? ≠ some '=' := by
  rw [ne_eq, head?_append_eq_iff follows.ends' (by decide)]
  intro equals
  cases value with
  | none =>
      have empty : text = [] := String.ofList_injective (Except.ok.inj (part.printed 0)).symm
      simp [empty] at equals
  | some operand =>
      obtain ⟨span, word, rfl, slice_eq⟩ := eq_literal_of_equals part follows equals
      rw [orMissing, Option.getD_some, Node.IsPlain, slice_eq] at plain
      refine plain ?_ equals
      rcases single with one | one <;> simp [Lexeme.text, one]

theorem reprintable_comparison
    (tried : before ⊆ [definition, orWord, sortDirective, qualifiedValue, range]) :
    Reprintable before content comparison cursor next := by
  intro node finds plain
  obtain ⟨operator, front, operator_found, value, value_found, rfl⟩ := finds_comparison_iff.mp finds
  have sign := between_of_finds_token on operator_found
  have takes := takes_of_finds_token operator_found
  obtain ⟨c, tail, chars_eq, begins⟩ := takes.head
  have isSign : c = '<' ∨ c = '>' := by simpa [Token.begins] using begins
  obtain ⟨text, part⟩ := exists_partReprints missingValue sign.on begins_compareValue
    (fun misses => (misses_firstOf_iff ..).mp misses literal (by simp))
    (reprintable_compareValue sign.on (List.nil_subset _)) value_found (by
      rintro _ rfl
      exact plain.part (by simp [orMissing]))
  refine ⟨operator.chars ++ text, part.reprints (by simp [chars_eq]) ?_ ?_ ?_ ?_ ?_⟩
  · exact fun c member => isBlank_eq_false_of_isBare (takes.isBareWord (by decide) c member)
  · rw [Node.print, part.printed, String.ofList_append]
    rfl
  · intro after
    rw [takes.split, chars_eq]
    rcases isSign with rfl | rfl <;> exact quieter_sign (Or.inl (by decide)) (Or.inl (by decide))
  · intro after follows
    have again : Token.comparison.take? (operator.chars ++ (text ++ after)) =
        some (operator.chars, text ++ after) :=
      takeComparison?_append (takeComparison?_eq_some (take?_of_finds_token operator_found)).1
        (head?_ne_of_isPlain part (plain _ (Node.self_mem_preorder _)) follows)
    refine (findsAt_token again).bind fun operator' operator_eq =>
      (part.findsAt follows).map fun value' same => ?_
    simp only [Node.bare, Lexeme.text, operator_eq]
    exact congrArg _ (bare_orMissing same _ _ _)
  · intro other member _ after
    have others : ∀ other ∈ [definition, orWord, sortDirective, qualifiedValue, range],
        other.Begins ([.orWord, .sortWord, .dash, .name, .dots] ++ boundaryTokens) := by
      simp only [List.forall_mem_cons]
      exact ⟨begins_definition.mono, begins_orWord.mono, begins_sortDirective.mono,
        begins_qualifiedValue.mono, begins_range.mono, by simp⟩
    rw [chars_eq]
    rcases isSign with rfl | rfl <;> exact (others other (tried member)).missesAt_cons _

end Constructs

end SearchQuery.Line
