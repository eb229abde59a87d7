import SearchQuery.Proofs.Line.Movement
import SearchQuery.Proofs.Line.Rereading
import SearchQuery.Proofs.Line.ReprintItem
import SearchQuery.Proofs.Line.Shape

/-!
# Values that are left out

A bare word that looks like the beginning of a qualified value is no text.  So a qualifier, a sort
directive or a comparison that lacks its value leaves alone what follows it, if that is a name with
a colon.  The hyphen of a negated qualified value hides the name: the word is taken for the value.
-/

namespace SearchQuery.Line

open Text (isGap isNameChar)
open Reader

/-! ## What stands in front of the gap -/

/-- A place at a character that is no gap. -/
theorem skipGap_of_cons {offset : Nat} {c : Char} {rest : List Char} (noGap : isGap c = false) :
    (Cursor.mk offset (c :: rest)).skipGap = ⟨offset, c :: rest⟩ :=
  Cursor.skipGap_of_not_isGap (by simpa using noGap)

theorem finds_token_of_cons {kind : Token} {offset : Nat} {c : Char} {chars rest after : List Char}
    (noGap : isGap c = false) (taken : kind.take? (c :: rest) = some (chars, after)) :
    (token kind).Finds ⟨offset, c :: rest⟩ ⟨offset, chars⟩ ⟨offset + chars.length, after⟩ := by
  rw [finds_token_iff, skipGap_of_cons noGap]
  exact ⟨taken, rfl, rfl⟩

theorem finds_colon (offset : Nat) (after : List Char) :
    (token .colon).Finds ⟨offset, ':' :: after⟩ ⟨offset, [':']⟩ ⟨offset + 1, after⟩ :=
  finds_token_of_cons (by decide) (takeWord?_append [':'] after)

theorem isGap_eq_false_of_isAlpha {c : Char} (letter : c.isAlpha = true) : isGap c = false := by
  rw [← Bool.not_eq_true]
  intro gap
  have blank := Text.isBlank_of_isGap gap
  simp [Text.isBlank_eq_false_of_isAlpha letter] at blank

section Names

variable {word : List Char} (isName : IsName word)

include isName

theorem IsName.finds_name (after : List Char) :
    (token .name).Finds ⟨0, word ++ ':' :: after⟩ ⟨0, word⟩ ⟨word.length, ':' :: after⟩ := by
  obtain ⟨first, run, rfl, letter, inside⟩ := isName
  have found := @finds_token_of_cons .name 0 first _ _ _ (isGap_eq_false_of_isAlpha letter)
    (takeName?_append letter inside after)
  rwa [Nat.zero_add] at found

/-- No token but a name or a keyword begins with the name. -/
theorem IsName.missesAt {α : Type} {reader : Reader α} {tokens : List Token}
    (begins : reader.Begins tokens) (after : List Char)
    (others : ∀ kind ∈ tokens, kind ∉ [.orWord, .sortWord, .name, .text] := by decide) :
    reader.Misses ⟨0, word ++ after⟩ := by
  obtain ⟨first, run, rfl, letter, inside⟩ := isName
  refine begins.missesAt (fun kind member => ?_) _
    (by rw [List.cons_append, skipGap_of_cons (isGap_eq_false_of_isAlpha letter)])
  exact Token.take?_eq_none_of_begins
    (Token.begins_eq_false_of_isAlpha letter (others kind member))

/-- The word `OR` is not found where a name with its colon stands. -/
theorem IsName.misses_orWord (after : List Char) : orWord.Misses ⟨0, word ++ ':' :: after⟩ := by
  obtain ⟨first, run, rfl, letter, inside⟩ := isName
  rw [misses_orWord_iff, List.cons_append, skipGap_of_cons (isGap_eq_false_of_isAlpha letter)]
  exact take?_orWord_name inside after

/-- A qualified value is found as an item, unless its name is the keyword. -/
theorem IsName.finds_item (other : word ≠ "sort".toList) {after : List Char} {node : Node}
    {next : Cursor} (finds : qualifiedValue.Finds ⟨0, word ++ ':' :: after⟩ node next) :
    item.Finds ⟨0, word ++ ':' :: after⟩ node next := by
  have noOr := isName.misses_orWord after
  have noSort : sortDirective.Misses ⟨0, word ++ ':' :: after⟩ := by
    obtain ⟨first, run, rfl, letter, inside⟩ := isName
    have noColon : ':' ∉ first :: run := by
      rw [List.mem_cons, not_or]
      exact ⟨fun same => by simp [← same] at letter,
        fun member => (Text.ne_punctuation_of_isNameChar (inside ':' member)).2.2.2.2.1 rfl⟩
    rw [misses_sortDirective_iff, List.cons_append,
      skipGap_of_cons (isGap_eq_false_of_isAlpha letter)]
    exact not_not.mp fun found => other ((take?_sortWord_name noColon after).mp found)
  exact (finds_firstOf_cons_iff ..).mpr (Or.inr ⟨noOr,
    (finds_firstOf_cons_iff ..).mpr (Or.inr ⟨noSort,
      (finds_firstOf_cons_iff ..).mpr (Or.inl finds)⟩)⟩)

/-- What stands behind a name and its colon is read as its value, or is no value. -/
theorem IsName.finds_qualifiedValue {after : List Char} {value : Option Node} {next : Cursor}
    (finds : (optional qualifierValue).Finds ⟨word.length + 1, after⟩ value next) :
    qualifiedValue.Finds ⟨0, word ++ ':' :: after⟩
      (.qualified ⟨0, (value.map (·.stop)).getD (word.length + 1)⟩ false
        (.literal (spanOf 0 word.length) (String.ofList word))
        (orMissing value ((value.map (·.stop)).getD (word.length + 1)) missingValue)) next := by
  have noDash : (token .dash).Misses ⟨0, word ++ ':' :: after⟩ :=
    isName.missesAt (begins_token .dash) _
  refine finds_qualifiedValue_iff.mpr ⟨none, _, (finds_optional_iff ..).mpr
    (Or.inr ⟨rfl, rfl, noDash⟩), _, _, isName.finds_name after, _, _, finds_colon .., value, finds,
    ?_⟩
  simp [Lexeme.span, Lexeme.stop, Lexeme.text, spanOf]

end Names

/-- A word of letters is a name. -/
theorem isName_of_letters {word : List Char} (nonempty : word ≠ [])
    (letters : word.all Char.isAlpha = true) : IsName word := by
  obtain ⟨first, run, rfl⟩ := List.exists_cons_of_ne_nil nonempty
  rw [List.all_cons, Bool.and_eq_true, List.all_eq_true] at letters
  exact ⟨first, run, rfl, letters.1,
    fun c member => Text.isNameChar_of_isAlpha (letters.2 c member)⟩

theorem isName_sort : IsName "sort".toList := isName_of_letters (by decide) (by decide)

/-- The keyword without criteria is found as an item. -/
theorem finds_sortDirective {after : List Char}
    (noCriteria : (firstOf [variableName, literal]).Misses ⟨5, after⟩) :
    item.Finds ⟨0, "sort".toList ++ ':' :: after⟩
      (.sort (spanOf 0 5) (.literal (spanOf 0 4) "sort") (.missing (.point 5) missingCriteria))
      ⟨5, after⟩ := by
  have taken : Token.sortWord.take? ("sort".toList ++ ':' :: after) =
      some ("sort".toList, ':' :: after) := by
    rw [Token.take?]
    exact takeWordBefore?_append "sort" rfl
  have keyword : (token .sortWord).Finds ⟨0, "sort".toList ++ ':' :: after⟩ ⟨0, "sort".toList⟩
      ⟨4, ':' :: after⟩ := finds_token_of_cons (by decide) taken
  refine (finds_firstOf_cons_iff ..).mpr (Or.inr ⟨isName_sort.misses_orWord after,
    (finds_firstOf_cons_iff ..).mpr (Or.inl ?_)⟩)
  exact finds_sortDirective_iff.mpr ⟨_, _, keyword, _, _, finds_colon 4 after, none,
    (finds_optional_iff ..).mpr (Or.inr ⟨rfl, rfl, noCriteria⟩), rfl⟩

/-- A comparison without a value is found as the value of a qualifier. -/
theorem finds_comparison {operator after : List Char}
    (member : operator ∈ [['<', '='], ['>', '='], ['<'], ['>']]) (noSign : after.head? ≠ some '=')
    {offset : Nat} (noValue : (firstOf [date, number, variableName, literal]).Misses
      ⟨offset + operator.length, after⟩) :
    qualifierValue.Finds ⟨offset, operator ++ after⟩
      (.compare (spanOf offset (offset + operator.length)) (String.ofList operator)
        (.missing (.point (offset + operator.length : Nat)) missingValue))
      ⟨offset + operator.length, after⟩ := by
  have taken := takeComparison?_append member fun _ => noSign
  obtain ⟨sign, signs, rfl, noGap, noRange⟩ : ∃ sign signs, operator = sign :: signs ∧
      isGap sign = false ∧ range.MissesAt (sign :: signs ++ after) := by
    simp only [List.mem_cons, List.not_mem_nil, or_false] at member
    rcases member with rfl | rfl | rfl | rfl <;>
      exact ⟨_, _, rfl, by decide, begins_range.missesAt_cons _⟩
  have place : (Cursor.mk offset (sign :: signs ++ after)).skipGap =
      ⟨offset, sign :: signs ++ after⟩ := skipGap_of_cons noGap
  refine (finds_firstOf_cons_iff ..).mpr (Or.inr ⟨noRange _ (by rw [place]),
    (finds_firstOf_cons_iff ..).mpr (Or.inl ?_)⟩)
  exact finds_comparison_iff.mpr ⟨_, _, finds_token_of_cons noGap taken, none,
    (finds_optional_iff ..).mpr (Or.inr ⟨rfl, rfl, noValue⟩), rfl⟩

/-! ## What stands behind the gap -/

/-- An item that is a qualified value was found as one. -/
theorem finds_qualifiedValue_of_item {cursor next : Cursor} {node : Node}
    (finds : item.Finds cursor node next) (kind : node.kind = .qualified) :
    qualifiedValue.Finds cursor node next := by
  have other {reader : Reader Node} {kinds : List Kind} (yields : Yields reader kinds)
      (found : reader.Finds cursor node next) (apart : Kind.qualified ∉ kinds) :
      qualifiedValue.Finds cursor node next :=
    absurd (kind ▸ (yields found).1) apart
  rcases finds_item_cases finds with found | found | found | found | found | found | found |
    found | found
  · exact other yields_orWord found (by decide)
  · exact other yields_sortDirective found (by decide)
  · exact found
  · exact other yields_range found (by decide)
  · exact other yields_comparison found (by decide)
  · exact other yields_date found (by decide)
  · exact other yields_number found (by decide)
  · exact other yields_variableName found (by decide)
  · exact other yields_literal found (by decide)

/-- A text that is a single qualified value without a hyphen begins with a name. -/
theorem takeName?_ne_none_of_parse {rest : List Char} {span place : Span} {qualifier value : Node}
    (parsed : parse rest = .ok (.query span [.qualified place false qualifier value])) :
    takeName? (ungap rest) ≠ none := by
  obtain ⟨_, finds⟩ := exists_finds_of_parse_eq_ok parsed
  obtain ⟨_, definition_found | ⟨_, query_found⟩, _⟩ := finds_line_iff.mp finds
  · obtain ⟨_, _, _, _, _, _, _, _, node_eq⟩ := finds_definition_iff.mp definition_found
    cases node_eq
  · obtain ⟨first, others, repeats, node_eq⟩ := finds_query_iff.mp query_found
    injection node_eq with _ items_eq
    obtain ⟨rfl, rfl⟩ := List.cons.inj items_eq
    cases repeats with
    | more found _ =>
        obtain ⟨dash, front, dash_found, name, middle, name_found, _, _, _, _, _, item_eq⟩ :=
          finds_qualifiedValue_iff.mp (finds_qualifiedValue_of_item found rfl)
        injection item_eq with _ negated_eq
        obtain ⟨_, rfl, _⟩ | ⟨_, rfl, _⟩ := (finds_optional_iff ..).mp dash_found
        · cases negated_eq
        · have taken : takeName? (ungap rest) = some _ := ((finds_token_iff ..).mp name_found).1
          rw [taken]
          exact Option.some_ne_none _

/-- No value begins in front of a name with a colon. -/
theorem misses_of_name {α : Type} {reader : Reader α} (begins : reader.Begins valueTokens)
    {gap rest : List Char} (gaps : ∀ c ∈ gap, isGap c = true) (name : takeName? (ungap rest) ≠ none)
    (offset : Nat) : reader.Misses ⟨offset, gap ++ rest⟩ := by
  have rest_eq : (Cursor.mk offset (gap ++ rest)).skipGap.rest = ungap rest :=
    List.dropWhile_append_of_pos gaps
  exact begins.missesAt (take?_eq_none_of_no_text (takeText?_eq_none_of_name name)) _ rest_eq

/-! ## Whole lines -/

section Lines

variable {gap rest : List Char} {span place : Span} {qualifier value : Node}

/-- A qualifier, a comparison or a sort directive without a value does not take the qualified value
behind it for its value, unless that is negated: what is missing is reported, and the text behind
the gap is read as it is by itself. -/
theorem parse_of_missing_value (nonempty : gap ≠ []) (gaps : ∀ c ∈ gap, isGap c = true)
    (parsed : parse rest = .ok (.query span [.qualified place false qualifier value])) :
    (∀ word, IsName word → word ≠ "sort".toList →
      (let stop := word.length + 1
       let second := (Node.qualified place false qualifier value).shift (stop + gap.length : Nat)
       parse (word ++ ':' :: (gap ++ rest)) =
        .ok (.query ⟨0, second.stop⟩
          [.qualified (spanOf 0 stop) false (.literal (spanOf 0 word.length) (String.ofList word))
            (.missing (.point stop) "Expected value"), second])) ∧
      ∀ operator ∈ [['<', '='], ['>', '='], ['<'], ['>']],
        let stop := word.length + 1 + operator.length
        let second := (Node.qualified place false qualifier value).shift (stop + gap.length : Nat)
        parse (word ++ ':' :: (operator ++ (gap ++ rest))) =
          .ok (.query ⟨0, second.stop⟩
            [.qualified (spanOf 0 stop) false (.literal (spanOf 0 word.length) (String.ofList word))
              (.compare (spanOf (word.length + 1) stop) (String.ofList operator)
                (.missing (.point stop) "Expected value")), second])) ∧
      (let second := (Node.qualified place false qualifier value).shift (5 + gap.length : Nat)
       parse ("sort".toList ++ ':' :: (gap ++ rest)) =
        .ok (.query ⟨0, second.stop⟩
          [.sort (spanOf 0 5) (.literal (spanOf 0 4) "sort")
            (.missing (.point 5) "Expected sort criteria"), second])) := by
  have name := takeName?_ne_none_of_parse parsed
  refine ⟨fun word isName other => ⟨?_, fun operator member => ?_⟩, ?_⟩
  · have noValue := misses_of_name begins_qualifierValue gaps name (word.length + 1)
    have found := isName.finds_item other (isName.finds_qualifiedValue
      ((finds_optional_iff ..).mpr (Or.inr ⟨rfl, rfl, noValue⟩)))
    exact parse_in_front (isName.missesAt begins_definition _) found gaps parsed
  · have noSign : (gap ++ rest).head? ≠ some '=' := by
      obtain ⟨c, more, rfl⟩ := List.exists_cons_of_ne_nil nonempty
      have gap_char := gaps c List.mem_cons_self
      rintro same
      obtain rfl : c = '=' := Option.some.inj same
      exact absurd gap_char (by decide)
    have noValue := misses_of_name begins_compareValue gaps name
      (word.length + 1 + operator.length)
    have found := isName.finds_item other (isName.finds_qualifiedValue
      ((finds_optional_some_iff ..).mpr (finds_comparison member noSign noValue)))
    exact parse_in_front (isName.missesAt begins_definition _) found gaps parsed
  · have found := finds_sortDirective (misses_of_name begins_criteria gaps name 5)
    exact parse_in_front (isName_sort.missesAt begins_definition _) found gaps parsed

/-- Whether the only item of a line is a negated qualified value, if it is a qualified value. -/
def negation? : Except SyntaxError Node → Option Bool
  | .ok (.query _ [.qualified _ negated _ _]) => some negated
  | _ => none

theorem exists_of_negation? {content : List Char} {negated : Bool}
    (negation_eq : negation? (parse content) = some negated) :
    ∃ span place qualifier value,
      parse content = .ok (.query span [.qualified place negated qualifier value]) := by
  generalize parse content = parsed at negation_eq ⊢
  unfold negation? at negation_eq
  split at negation_eq
  · obtain rfl := Option.some.inj negation_eq
    exact ⟨_, _, _, _, rfl⟩
  · cases negation_eq

theorem isName_is : IsName "is".toList := isName_of_letters (by decide) (by decide)

/-- A qualifier without a value in front of another qualified value. -/
theorem parse_of_missing_value_label :
    ∃ span place qualifier value,
      parse "label:bug".toList = .ok (.query span [.qualified place false qualifier value]) ∧
        let second := (Node.qualified place false qualifier value).shift 4
        parse "is: label:bug".toList = .ok (.query ⟨0, second.stop⟩
          [.qualified ⟨0, 3⟩ false (.literal ⟨0, 2⟩ "is") (.missing ⟨3, 3⟩ "Expected value"),
            second]) := by
  obtain ⟨span, place, qualifier, value, parsed⟩ :=
    exists_of_negation? (show negation? (parse "label:bug".toList) = some false by decide +kernel)
  refine ⟨span, place, qualifier, value, parsed, ?_⟩
  have gaps : ∀ c ∈ [' '], isGap c = true := by simp [isGap]
  exact ((parse_of_missing_value (List.cons_ne_nil _ _) gaps parsed).1 "is".toList isName_is
    (by decide)).1

/-- A hyphen behind a colon and a gap begins a bare word, whatever follows it. -/
theorem finds_dash (gaps : ∀ c ∈ gap, isGap c = true) (offset : Nat) :
    let start := offset + gap.length
    let run := '-' :: rest.takeWhile isBare
    qualifierValue.Finds ⟨offset, gap ++ '-' :: rest⟩
      (.literal (spanOf start (start + run.length)) (String.ofList run))
      ⟨start + run.length, rest.dropWhile isBare⟩ := by
  intro start run
  have place : (Cursor.mk offset (gap ++ '-' :: rest)).skipGap = ⟨start, '-' :: rest⟩ :=
    (Cursor.skipGap_append gaps offset _).trans (skipGap_of_cons (by decide))
  have taken : Token.text.take? ('-' :: rest) = some (run, rest.dropWhile isBare) := by
    have bare : isBare '-' = true := by decide
    simp [Token.take?, takeText?, takeRun, takeName?, bare, run]
  have found : literal.Finds ⟨offset, gap ++ '-' :: rest⟩
      (.literal (spanOf start (start + run.length)) (String.ofList run))
      ⟨start + run.length, rest.dropWhile isBare⟩ :=
    finds_literal_iff.mpr ⟨⟨start, run⟩, (finds_token_iff ..).mpr ⟨by rw [place]; exact taken,
      by rw [place], rfl⟩, rfl⟩
  have missed {reader : Reader Node} (misses : reader.MissesAt ('-' :: rest)) :
      reader.Misses ⟨offset, gap ++ '-' :: rest⟩ := misses _ (by rw [place])
  simp only [qualifierValue, finds_firstOf_cons_iff]
  exact Or.inr ⟨missed (begins_range.missesAt_cons _), Or.inr ⟨missed
    (begins_comparison.missesAt_cons _), Or.inr ⟨missed (begins_date.missesAt_cons _), Or.inr
      ⟨missed (begins_number.missesAt_cons _), Or.inr ⟨missed
        (begins_variableName.missesAt_cons _), Or.inl found⟩⟩⟩⟩⟩

/-- The word that a negated qualified value begins with is taken for the value of a qualifier in
front of it. -/
theorem parse_of_negated_value {word : List Char} (isName : IsName word)
    (other : word ≠ "sort".toList) (gaps : ∀ c ∈ gap, isGap c = true) {tree : Node}
    (parsed : parse (word ++ ':' :: (gap ++ '-' :: rest)) = .ok tree) :
    let start := word.length + 1 + gap.length
    let run := '-' :: rest.takeWhile isBare
    ∃ whole others, tree = .query whole
      (.qualified (spanOf 0 (start + run.length)) false
        (.literal (spanOf 0 word.length) (String.ofList word))
        (.literal (spanOf start (start + run.length)) (String.ofList run)) :: others) := by
  intro start run
  have found := isName.finds_item other (isName.finds_qualifiedValue
    ((finds_optional_some_iff ..).mpr (@finds_dash gap rest gaps (word.length + 1))))
  obtain ⟨_, finds⟩ := exists_finds_of_parse_eq_ok parsed
  obtain ⟨_, definition_found | ⟨_, query_found⟩, _⟩ := finds_line_iff.mp finds
  · exact absurd (isName.missesAt begins_definition _) definition_found.not_misses
  · obtain ⟨first, others, repeats, rfl⟩ := finds_query_iff.mp query_found
    cases repeats with
    | more first_found _ =>
        obtain ⟨rfl, _⟩ := first_found.unique found
        exact ⟨_, others, rfl⟩

/-- Not every qualified value behind a qualifier without a value is read as it is by itself. -/
theorem not_parse_of_missing_value_negated :
    ¬ ∀ (word gap rest : List Char) (span place : Span) (negated : Bool) (qualifier value : Node),
      IsName word → word ≠ "sort".toList → gap ≠ [] → (∀ c ∈ gap, isGap c = true) →
      parse rest = .ok (.query span [.qualified place negated qualifier value]) →
      ∃ whole own name absent others, parse (word ++ ':' :: (gap ++ rest)) =
        .ok (.query whole (.qualified own false name (.missing absent "Expected value") ::
          others)) := by
  intro reported
  obtain ⟨span, place, qualifier, value, parsed⟩ :=
    exists_of_negation? (show negation? (parse "-label:bug".toList) = some true by decide +kernel)
  have gaps : ∀ c ∈ [' '], isGap c = true := by simp [isGap]
  obtain ⟨_, _, _, _, _, missing⟩ := reported "is".toList [' '] "-label:bug".toList span place true
    qualifier value isName_is (by decide) (List.cons_ne_nil _ _) gaps parsed
  obtain ⟨_, _, swallowed⟩ := @parse_of_negated_value [' '] "label:bug".toList _ isName_is
    (by decide) gaps _ missing
  injection swallowed with _ items_eq
  injection items_eq with first_eq
  injection first_eq with _ _ _ value_eq
  cases value_eq

end Lines

end SearchQuery.Line
