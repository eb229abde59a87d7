import SearchQuery.Proofs.Line.ReprintRange

/-!
# Reading items again

A qualifier is printed with its hyphen, its name and its colon in front of its value.  With it all
constructs that an item can be are read again, each after the same readers have missed.
-/

namespace SearchQuery.Line

open Text (isBlank isNameChar)
open Reader

/-! ## Names -/

/-- A word that is a keyword in front of its colon is the whole name there. -/
theorem take?_sortWord_name {name : List Char} (noColon : ':' ∉ name) (after : List Char) :
    Token.sortWord.take? (name ++ ':' :: after) ≠ none ↔ name = "sort".toList := by
  constructor
  · intro found
    obtain ⟨split, taken⟩ := Option.ne_none_iff_exists'.mp found
    rw [Token.take?] at taken
    obtain ⟨_, text_eq, colon⟩ := takeWordBefore?_eq_some taken
    obtain ⟨rest, rest_eq⟩ := List.head?_eq_some_iff.mp (by simpa using colon)
    rw [rest_eq] at text_eq
    have outside (rest : List Char) : ∀ c ∈ (':' :: rest).head?, (c != ':') = false := by simp
    have names := @takeRun_of_boundary (· != ':') _ _
      (fun c member => bne_iff_ne.mpr fun same => noColon (same ▸ member)) (outside after)
    have keywords := @takeRun_of_boundary (· != ':') _ _
      (List.all_eq_true.mp (show "sort".toList.all (· != ':') = true by decide)) (outside rest)
    rw [text_eq, keywords] at names
    exact (Prod.mk.inj names).1.symm
  · rintro rfl
    simp [Token.take?, takeWordBefore?, takeWord?]

/-- A name is not the word `OR`. -/
theorem take?_orWord_name {first : Char} {run : List Char} (inside : ∀ c ∈ run, isNameChar c = true)
    (after : List Char) : Token.orWord.take? (first :: run ++ ':' :: after) = none := by
  rw [Option.eq_none_iff_forall_ne_some]
  intro split taken
  rw [Token.take?] at taken
  obtain ⟨_, text_eq, ends⟩ := takeWordBefore?_eq_some taken
  rw [List.cons_append] at text_eq
  have run_eq : run ++ ':' :: after = 'R' :: split.2 := (List.cons.inj text_eq).2
  cases run with
  | nil => simp at run_eq
  | cons c run =>
      rw [List.forall_mem_cons] at inside
      have rest_eq : run ++ ':' :: after = split.2 := (List.cons.inj run_eq).2
      rw [← rest_eq] at ends
      cases run with
      | nil =>
          have blank : isBlank ':' = true := ends
          exact absurd blank (by decide)
      | cons d run =>
          have blank : isBlank d = true := ends
          simp [Text.isBlank_eq_false_of_isNameChar (inside.2 d List.mem_cons_self)] at blank

section Dashes

variable {cursor : Cursor}

/-- The hyphen that may stand in front of a name, and what it is printed as. -/
structure DashReprints (cursor : Cursor) (dash : Option Lexeme) (name lead : List Char) :
    Prop where
  printed : (if dash.isSome then "-" else "") = String.ofList lead
  visible : ∀ c ∈ lead, isBlank c = false
  quieter : ∀ after, Quieter cursor.skipGap.rest (lead ++ (name ++ ':' :: after))
  findsAt : ∀ after, (optional (token .dash)).FindsAt (lead ++ (name ++ ':' :: after))
    (name ++ ':' :: after) fun found => found.isSome = dash.isSome
  missesAt : ∀ other ∈ [definition, orWord, sortDirective], other.Misses cursor →
    ∀ after, other.MissesAt (lead ++ (name ++ ':' :: after))

section Names

variable {first : Char} {run : List Char} (letter : first.isAlpha = true)
  (inside : ∀ c ∈ run, isNameChar c = true)

include letter

theorem dashReprints_hyphen {front : Cursor} {hyphen : Lexeme}
    (found : (token .dash).Finds cursor hyphen front) :
    DashReprints cursor (some hyphen) (first :: run) ['-'] := by
  have hyphen_eq := (takeWord?_eq_some ((finds_token_iff ..).mp found).1).2
  refine ⟨rfl, by simp; decide, ?_, ?_, ?_⟩
  · intro after
    rw [hyphen_eq]
    exact quieter_sign (Or.inl (by decide)) (Or.inl (by decide))
  · intro after
    have taken : Token.dash.take? (['-'] ++ (first :: run ++ ':' :: after)) =
        some (['-'], first :: run ++ ':' :: after) := takeWord?_append _ _
    have noGap : ungap (first :: run ++ ':' :: after) = first :: run ++ ':' :: after :=
      ungap_cons (Text.isBlank_eq_false_of_isAlpha letter) _
    have again := (findsAt_token taken).optional
    rw [noGap] at again
    refine again.mono ?_
    rintro _ ⟨_, rfl, _⟩
    rfl
  · intro other member _ after
    have others : ∀ other ∈ [definition, orWord, sortDirective],
        other.Begins [.variable, .orWord, .sortWord] := by
      simp only [List.forall_mem_cons]
      exact ⟨begins_definition.mono, begins_orWord.mono, begins_sortDirective.mono, by simp⟩
    exact (others other member).missesAt_cons _

include inside

theorem dashReprints_none {rest : List Char}
    (rest_eq : cursor.skipGap.rest = first :: run ++ ':' :: rest) :
    DashReprints cursor none (first :: run) [] := by
  have noToken {kind : Token} (other : kind ∉ [.orWord, .sortWord, .name, .text]) :
      kind.begins first = false := Token.begins_eq_false_of_isAlpha letter other
  have noColon : ':' ∉ first :: run := by
    intro member
    rcases List.mem_cons.mp member with rfl | member
    · exact absurd letter (by decide)
    · exact (Text.ne_punctuation_of_isNameChar (inside ':' member)).2.2.2.2.1 rfl
  refine ⟨rfl, by simp, ?_, ?_, ?_⟩
  · intro after
    rw [rest_eq]
    exact quieter_name letter inside rest after
  · intro after
    have noDash : Token.dash.take? (first :: run ++ ':' :: after) = none :=
      Token.take?_eq_none_of_begins (noToken (by decide))
    refine (missesAt_token noDash).optional.mono ?_
    rintro _ rfl
    rfl
  · intro other member missed after
    simp only [List.mem_cons, List.not_mem_nil, or_false] at member
    rcases member with rfl | rfl | rfl
    · exact begins_definition.missesAt_cons _ (by simp [noToken])
    · exact begins_orWord.missesAt (by simpa using take?_orWord_name inside after)
    · rw [misses_sortDirective_iff, rest_eq] at missed
      have noSort : Token.sortWord.take? (first :: run ++ ':' :: after) = none := by
        by_contra found
        exact (take?_sortWord_name noColon rest).mpr
          ((take?_sortWord_name noColon after).mp found) missed
      exact begins_sortDirective.missesAt (by simpa using noSort)

end Names

theorem exists_dashReprints {front middle : Cursor} {dash : Option Lexeme} {name : Lexeme}
    (dash_found : (optional (token .dash)).Finds cursor dash front)
    (name_found : (token .name).Finds front name middle) :
    ∃ lead, DashReprints cursor dash name.chars lead := by
  obtain ⟨first, run, rest, chars_eq, letter, inside, middle_eq, split⟩ :=
    takeName?_eq_some ((finds_token_iff ..).mp name_found).1
  replace chars_eq : name.chars = first :: run := chars_eq
  replace middle_eq : middle.rest = ':' :: rest := middle_eq
  rw [chars_eq]
  rcases (finds_optional_iff ..).mp dash_found with ⟨hyphen, rfl, found⟩ | ⟨rfl, rfl, _⟩
  · exact ⟨['-'], dashReprints_hyphen letter found⟩
  · exact ⟨[], dashReprints_none letter inside (by rw [split, chars_eq, middle_eq])⟩

end Dashes

/-! ## Items -/

section Items

variable {before : List (Reader Node)} {content : List Char} {cursor next : Cursor}
  (on : cursor.On content)

include on

theorem reprintable_qualifierValue : Reprintable [] content qualifierValue cursor next :=
  (reprintable_range on (List.nil_subset _)).cons ((reprintable_comparison on (by simp)).cons
    (reprintable_compareValue on (by simp [earlierReaders])))

theorem reprintable_qualifiedValue (tried : before ⊆ [definition, orWord, sortDirective]) :
    Reprintable before content qualifiedValue cursor next := by
  intro node finds plain
  obtain ⟨dash, front, dash_found, name, middle, name_found, colon, back, colon_found, value,
    value_found, rfl⟩ := finds_qualifiedValue_iff.mp finds
  have front_on : front.On content :=
    (keeps_token (kept_on content) .dash).optional.next on dash_found
  have word := between_of_finds_token front_on name_found
  have sign := between_of_finds_token word.on colon_found
  obtain ⟨lead, leading⟩ := exists_dashReprints dash_found name_found
  have named (after : List Char) : Token.name.take? (name.chars ++ ':' :: after) =
      some (name.chars, ':' :: after) := by
    obtain ⟨first, run, _, chars_eq, letter, inside, _⟩ :=
      takeName?_eq_some ((finds_token_iff ..).mp name_found).1
    rw [show name.chars = first :: run from chars_eq]
    exact takeName?_append letter inside after
  obtain ⟨text, part⟩ := exists_partReprints missingValue sign.on begins_qualifierValue
    (fun misses => (misses_firstOf_iff ..).mp misses literal (by simp))
    (reprintable_qualifierValue sign.on) value_found (by
      rintro _ rfl
      exact plain.part (by simp [orMissing]))
  have lead_eq (after : List Char) :
      lead ++ name.chars ++ [':'] ++ after = lead ++ (name.chars ++ ':' :: after) := by simp
  refine ⟨lead ++ name.chars ++ [':'] ++ text, part.reprints (by simp) ?_ ?_ ?_ ?_ ?_⟩
  · intro c member
    simp only [List.mem_append, List.mem_singleton] at member
    rcases member with (member | member) | rfl
    · exact leading.visible c member
    · have takes := takes_of_finds_token name_found
      exact isBlank_eq_false_of_isBare (takes.isBareWord (by decide) c member)
    · decide
  · rw [Node.print, Node.print, word.slice_eq, part.printed, leading.printed,
      String.ofList_append, String.ofList_append, String.ofList_append]
    rfl
  · intro after
    rw [lead_eq]
    exact leading.quieter after
  · intro after follows
    rw [lead_eq]
    refine (leading.findsAt _).bind fun dash' dash_same => (findsAt_token (named _)).bind
      fun name' name_eq => (findsAt_colon _).bind fun colon' _ =>
        (part.findsAt follows).map fun value' same => ?_
    simp only [Node.bare, Lexeme.text, name_eq, dash_same]
    exact congrArg _ (bare_orMissing same _ _ _)
  · intro other member missed after
    rw [lead_eq]
    exact leading.missesAt other (tried member) missed after

/-- Whatever is found as an item is printed and read again.  At the beginning of a query the reader
of definitions was tried before it. -/
theorem reprintable_item (tried : before ⊆ [definition]) :
    Reprintable before content item cursor next := by
  have triedSort : orWord :: before ⊆ [definition, orWord] :=
    List.cons_subset.mpr ⟨by simp, List.Subset.trans tried (by simp)⟩
  have triedQualified : sortDirective :: orWord :: before ⊆ [definition, orWord, sortDirective] :=
    List.cons_subset.mpr ⟨by simp, List.Subset.trans triedSort (by simp)⟩
  have triedRange : qualifiedValue :: sortDirective :: orWord :: before ⊆
      [definition, orWord, sortDirective, qualifiedValue] :=
    List.cons_subset.mpr ⟨by simp, List.Subset.trans triedQualified (by simp)⟩
  have triedComparison : range :: qualifiedValue :: sortDirective :: orWord :: before ⊆
      [definition, orWord, sortDirective, qualifiedValue, range] :=
    List.cons_subset.mpr ⟨by simp, List.Subset.trans triedRange (by simp)⟩
  have triedValue : comparison :: range :: qualifiedValue :: sortDirective :: orWord :: before ⊆
      earlierReaders :=
    List.cons_subset.mpr ⟨by simp [earlierReaders],
      List.Subset.trans triedComparison (by simp [earlierReaders])⟩
  exact (reprintable_orWord on (List.Subset.trans tried (by simp [earlierReaders]))).cons
    ((reprintable_sortDirective on triedSort).cons
      ((reprintable_qualifiedValue on triedQualified).cons
        ((reprintable_range on triedRange).cons
          ((reprintable_comparison on triedComparison).cons
            (reprintable_compareValue on triedValue)))))

end Items

end SearchQuery.Line
