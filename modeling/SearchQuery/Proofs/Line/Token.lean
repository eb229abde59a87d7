import Mathlib.Data.List.Forall2
import SearchQuery.Proofs.Text.Classes

/-!
# What a token takes

A token takes a beginning of the text in front of it.  Except for a quoted text, which may hold
blanks, it takes nonblank characters other than the double quote, and whether it takes them depends
only on the word that it stands in.
-/

namespace SearchQuery.Line

open Text (isBlank isDigit isNameChar)

/-! ## Beginnings of a text -/

theorem takeWord?_append (word rest : List Char) :
    takeWord? word (word ++ rest) = some (word, rest) := by
  induction word with
  | nil => simp [takeWord?]
  | cons letter word induction => simp [takeWord?, induction]

theorem takeWord?_eq_some {word rest : List Char} {split : Split}
    (taken : takeWord? word rest = some split) : split.1 = word ∧ rest = word ++ split.2 := by
  induction word generalizing rest split with
  | nil =>
      obtain rfl := by simpa [takeWord?] using taken
      exact ⟨rfl, rfl⟩
  | cons letter word induction =>
      cases rest with
      | nil => simp [takeWord?] at taken
      | cons c rest =>
          rw [takeWord?] at taken
          split at taken
          case isFalse => simp at taken
          case isTrue same =>
            obtain ⟨tail, tail_taken, rfl⟩ := Option.map_eq_some_iff.mp taken
            obtain ⟨word_eq, rest_eq⟩ := induction tail_taken
            simp [same, word_eq, ← rest_eq]

theorem isSome_takeWord? (word rest : List Char) :
    (takeWord? word rest).isSome = word.isPrefixOf rest := by
  induction word generalizing rest with
  | nil => simp [takeWord?]
  | cons letter word induction =>
      cases rest with
      | nil => simp [takeWord?]
      | cons c rest =>
          rw [takeWord?, List.isPrefixOf, ← induction]
          by_cases same : c = letter
          · simp [same]
          · simp [same, Ne.symm same]

theorem takeRun_append (inClass : Char → Bool) (rest : List Char) :
    (takeRun inClass rest).1 ++ (takeRun inClass rest).2 = rest :=
  List.takeWhile_append_dropWhile

theorem inClass_of_mem_takeRun {inClass : Char → Bool} {rest : List Char} {c : Char}
    (member : c ∈ (takeRun inClass rest).1) : inClass c = true :=
  List.all_eq_true.mp List.all_takeWhile c member

/-- A run that is followed by a character outside of the class is taken as a whole. -/
theorem takeRun_of_boundary {inClass : Char → Bool} {run rest : List Char}
    (inside : ∀ c ∈ run, inClass c = true) (outside : ∀ c ∈ rest.head?, inClass c = false) :
    takeRun inClass (run ++ rest) = (run, rest) := by
  have stops : rest.takeWhile inClass = [] ∧ rest.dropWhile inClass = rest := by
    cases rest with
    | nil => exact ⟨rfl, rfl⟩
    | cons c rest =>
        have := outside c rfl
        simp [this]
  rw [takeRun, List.takeWhile_append_of_pos inside, List.dropWhile_append_of_pos inside, stops.1,
    stops.2, List.append_nil]

/-- Whether a character fits a slot of a mask. -/
def Fits (slot c : Char) : Prop := if slot = '0' then isDigit c = true else c = slot

instance (slot c : Char) : Decidable (Fits slot c) :=
  inferInstanceAs (Decidable (if slot = '0' then isDigit c = true else c = slot))

theorem takeMask?_cons_cons (slot : Char) (mask : List Char) (c : Char) (rest : List Char) :
    takeMask? (slot :: mask) (c :: rest) =
      if Fits slot c then (takeMask? mask rest).map fun split => (c :: split.1, split.2)
      else none := by
  by_cases digit : slot = '0' <;> simp [takeMask?, Fits, digit]

theorem takeMask?_cons_eq_some {slot : Char} {mask rest : List Char} {split : Split}
    (taken : takeMask? (slot :: mask) rest = some split) :
    ∃ c others tail, rest = c :: others ∧ Fits slot c ∧ takeMask? mask others = some tail ∧
      split = (c :: tail.1, tail.2) := by
  cases rest with
  | nil => simp [takeMask?] at taken
  | cons c others =>
      rw [takeMask?_cons_cons] at taken
      simp only [Option.ite_none_right_eq_some, Option.map_eq_some_iff] at taken
      obtain ⟨fits, tail, tail_taken, rfl⟩ := taken
      exact ⟨c, others, tail, rfl, fits, tail_taken, rfl⟩

/-- A mask takes as many characters as it has slots, if they fit. -/
theorem takeMask?_eq_some_iff {mask rest : List Char} {split : Split} :
    takeMask? mask rest = some split ↔
      rest = split.1 ++ split.2 ∧ List.Forall₂ Fits mask split.1 := by
  induction mask generalizing rest split with
  | nil =>
      obtain ⟨word, after⟩ := split
      simp only [takeMask?, Option.some.injEq, Prod.mk.injEq, List.forall₂_nil_left_iff]
      constructor
      · rintro ⟨rfl, rfl⟩
        exact ⟨rfl, rfl⟩
      · rintro ⟨rfl, rfl⟩
        exact ⟨rfl, rfl⟩
  | cons slot mask induction =>
      constructor
      · intro taken
        obtain ⟨c, others, tail, rfl, fits, tail_taken, rfl⟩ := takeMask?_cons_eq_some taken
        obtain ⟨rfl, tail_fits⟩ := induction.mp tail_taken
        exact ⟨rfl, .cons fits tail_fits⟩
      · obtain ⟨word, after⟩ := split
        rintro ⟨rfl, all_fit⟩
        obtain ⟨c, tail, fits, tail_fits, rfl⟩ := List.forall₂_cons_left_iff.mp all_fit
        have tail_taken : takeMask? mask (tail ++ after) = some (tail, after) :=
          induction.mpr ⟨rfl, tail_fits⟩
        simp [takeMask?_cons_cons, fits, tail_taken]

/-- What the forms of a date consist of besides digits. -/
def isDateSign (c : Char) : Bool := c == '-' || c == 'T' || c == ':' || c == 'Z' || c == '+'

/-- Whether the slots of a mask stand for digits and the signs of a date. -/
def isDateMask (mask : List Char) : Bool := mask.all fun slot => slot == '0' || isDateSign slot

theorem mem_takeMask? {mask rest : List Char} {split : Split} (isMask : isDateMask mask = true)
    (taken : takeMask? mask rest = some split) :
    ∀ c ∈ split.1, isDigit c = true ∨ isDateSign c = true := by
  induction mask generalizing rest split with
  | nil =>
      obtain rfl := by simpa [takeMask?] using taken
      simp
  | cons slot mask induction =>
      simp only [isDateMask, List.all_cons, Bool.and_eq_true, Bool.or_eq_true,
        beq_iff_eq] at isMask
      obtain ⟨c, others, tail, rfl, fits, tail_taken, rfl⟩ := takeMask?_cons_eq_some taken
      intro d member
      rcases List.mem_cons.mp member with rfl | member
      · rw [Fits] at fits
        split at fits
        · exact Or.inl fits
        · obtain rfl := fits
          exact Or.inr (isMask.1.resolve_left ‹_›)
      · exact induction isMask.2 tail_taken d member

theorem isDateMask_of_mem : ∀ mask ∈ dateMasks, isDateMask mask.toList = true := by decide

theorem dateMask_head : ∀ mask ∈ dateMasks, ∃ slots, mask.toList = '0' :: slots := by
  simp [dateMasks]

theorem takeDate?_eq_some {rest : List Char} {split : Split} (taken : takeDate? rest = some split) :
    ∃ mask ∈ dateMasks, takeMask? mask.toList rest = some split ∧
      endsBoundary split.2 = true := by
  obtain ⟨mask, mask_mem, found⟩ := List.exists_of_findSome?_eq_some taken
  have := Option.filter_eq_some_iff.mp found
  exact ⟨mask, mask_mem, this⟩

/-- A date, possibly with a time. -/
def IsDate (word : List Char) : Prop := ∃ mask ∈ dateMasks, List.Forall₂ Fits mask.toList word

theorem isDate_of_takeDate? {rest : List Char} {split : Split}
    (taken : takeDate? rest = some split) : IsDate split.1 := by
  obtain ⟨mask, mask_mem, mask_taken, _⟩ := takeDate?_eq_some taken
  exact ⟨mask, mask_mem, (takeMask?_eq_some_iff.mp mask_taken).2⟩

theorem takeFraction?_eq_some {rest : List Char} {split : Split}
    (taken : takeFraction? rest = some split) :
    ∃ digits, digits ≠ [] ∧ (∀ c ∈ digits, isDigit c = true) ∧
      split.1 = '.' :: digits ∧ rest = split.1 ++ split.2 := by
  unfold takeFraction? at taken
  split at taken
  case h_2 => simp at taken
  case h_1 rest =>
    simp only [Option.ite_none_left_eq_some, Option.some.injEq] at taken
    obtain ⟨nonempty, rfl⟩ := taken
    refine ⟨(takeRun isDigit rest).1, by simpa using nonempty, ?_, rfl, ?_⟩
    · exact fun c member => inClass_of_mem_takeRun member
    · simp [takeRun_append]

/-- A number has digits, and after a point more digits. -/
def IsNumber (word : List Char) : Prop :=
  ∃ digits fraction, word = digits ++ fraction ∧ digits ≠ [] ∧
    (∀ c ∈ digits, isDigit c = true) ∧
    (fraction = [] ∨ ∃ more, more ≠ [] ∧ (∀ c ∈ more, isDigit c = true) ∧ fraction = '.' :: more)

theorem takeNumber?_eq_some {rest : List Char} {split : Split}
    (taken : takeNumber? rest = some split) :
    IsNumber split.1 ∧ rest = split.1 ++ split.2 ∧ endsBoundary split.2 = true := by
  unfold takeNumber? at taken
  have inside : ∀ c ∈ (takeRun isDigit rest).1, isDigit c = true :=
    fun c member => inClass_of_mem_takeRun member
  have whole := takeRun_append isDigit rest
  generalize takeRun isDigit rest = run at taken inside whole
  obtain ⟨digits, after⟩ := run
  simp only [Option.ite_none_left_eq_some] at taken
  obtain ⟨nonempty, taken⟩ := taken
  replace nonempty : digits ≠ [] := by simpa using nonempty
  split at taken
  case h_1 fraction left found =>
    obtain rfl := Option.some.inj taken
    obtain ⟨fraction_taken, ends⟩ := Option.filter_eq_some_iff.mp found
    obtain ⟨more, more_ne, more_digits, fraction_eq, after_eq⟩ :=
      takeFraction?_eq_some fraction_taken
    refine ⟨⟨digits, fraction, rfl, nonempty, inside, Or.inr ⟨more, more_ne, more_digits,
      fraction_eq⟩⟩, ?_, ends⟩
    rw [← whole, after_eq, List.append_assoc]
  case h_2 =>
    split at taken
    case isFalse => simp at taken
    case isTrue ends =>
      obtain rfl := Option.some.inj taken
      exact ⟨⟨digits, [], by simp, nonempty, inside, Or.inl rfl⟩, whole.symm, ends⟩

/-- The word can be the name of a qualifier. -/
def IsName (word : List Char) : Prop :=
  ∃ first run, word = first :: run ∧ first.isAlpha = true ∧ ∀ c ∈ run, isNameChar c = true

/-- A name begins with a letter and stands in front of a colon. -/
theorem takeName?_eq_some {rest : List Char} {split : Split}
    (taken : takeName? rest = some split) :
    ∃ first run others, split.1 = first :: run ∧ first.isAlpha = true ∧
      (∀ c ∈ run, isNameChar c = true) ∧ split.2 = ':' :: others ∧ rest = split.1 ++ split.2 := by
  cases rest with
  | nil => simp [takeName?] at taken
  | cons first rest =>
      simp only [takeName?, Option.ite_none_right_eq_some, Option.some.injEq] at taken
      obtain ⟨⟨letter, colon⟩, rfl⟩ := taken
      obtain ⟨others, others_eq⟩ := List.head?_eq_some_iff.mp colon
      exact ⟨first, _, others, rfl, letter, fun c member => inClass_of_mem_takeRun member,
        others_eq, by simp [takeRun_append]⟩

/-- A variable has a dollar in front and a name that goes on as far as it can. -/
theorem takeVariable?_eq_some {rest : List Char} {split : Split}
    (taken : takeVariable? rest = some split) :
    ∃ first run, split.1 = '$' :: first :: run ∧ startsVariable first = true ∧
      (∀ c ∈ run, isNameChar c = true) ∧ rest = split.1 ++ split.2 := by
  unfold takeVariable? at taken
  split at taken
  case h_2 => simp at taken
  case h_1 first rest =>
    simp only [Option.ite_none_right_eq_some, Option.some.injEq] at taken
    obtain ⟨starts, rfl⟩ := taken
    exact ⟨first, _, rfl, starts, fun c member => inClass_of_mem_takeRun member,
      by simp [takeRun_append]⟩

theorem takeComparison?_eq_some {rest : List Char} {split : Split}
    (taken : takeComparison? rest = some split) :
    split.1 ∈ [['<', '='], ['>', '='], ['<'], ['>']] ∧ rest = split.1 ++ split.2 := by
  unfold takeComparison? at taken
  split at taken
  case h_5 => simp at taken
  all_goals
    obtain rfl := Option.some.inj taken
    simp

/-! ## The text of a token -/

/-- Words without blanks and quotes. -/
def IsBareWord (word : List Char) : Prop := ∀ c ∈ word, isBare c = true

/-- What the text of a token can be, and what can follow it: a bare word, or a quoted text, which
reaches the end of the line if its closing quote is absent. -/
inductive TokenText : List Char → List Char → Prop
  | bare {word rest : List Char} (isWord : IsBareWord word) : TokenText word rest
  | closed {run rest : List Char} (inside : '"' ∉ run) : TokenText ('"' :: run ++ ['"']) rest
  | unclosed {run : List Char} (inside : '"' ∉ run) : TokenText ('"' :: run) []

theorem isBlank_eq_false_of_isBare {c : Char} (bare : isBare c = true) : isBlank c = false := by
  simp only [isBare, Bool.and_eq_true, Bool.not_eq_true'] at bare
  exact bare.1

theorem isBare_of_isNameChar {c : Char} (name : isNameChar c = true) : isBare c = true := by
  simp [isBare, Text.isBlank_eq_false_of_isNameChar name,
    (Text.ne_punctuation_of_isNameChar name).1]

theorem isBare_of_isAlpha {c : Char} (letter : c.isAlpha = true) : isBare c = true :=
  isBare_of_isNameChar (Text.isNameChar_of_isAlpha letter)

theorem isBare_of_isDigit {c : Char} (digit : isDigit c = true) : isBare c = true := by
  simp [isBare, Text.isBlank_eq_false_of_isDigit digit, (Text.ne_punctuation_of_isDigit digit).1]

theorem isBare_of_isDateSign {c : Char} (sign : isDateSign c = true) : isBare c = true := by
  simp only [isDateSign, Bool.or_eq_true, beq_iff_eq] at sign
  rcases sign with (((rfl | rfl) | rfl) | rfl) | rfl <;> decide

theorem isBare_of_startsVariable {c : Char} (starts : startsVariable c = true) :
    isBare c = true := by
  simp only [startsVariable, Bool.or_eq_true, beq_iff_eq] at starts
  rcases starts with letter | rfl
  · exact isBare_of_isAlpha letter
  · decide

/-- In front of no quote a bare word is taken, unless a qualifier begins. -/
theorem takeText?_of_head {rest : List Char} (noQuote : rest.head? ≠ some '"') :
    takeText? rest = if (takeRun isBare rest).1.isEmpty || (takeName? rest).isSome then none
      else some (takeRun isBare rest) := by
  unfold takeText?
  split
  · exact absurd rfl noQuote
  · rfl

theorem takeText?_eq_some {rest : List Char} {split : Split}
    (taken : takeText? rest = some split) :
    rest = split.1 ++ split.2 ∧ split.1 ≠ [] ∧ TokenText split.1 split.2 := by
  unfold takeText? at taken
  split at taken
  case h_1 rest =>
    have inside : '"' ∉ (takeRun (· != '"') rest).1 := by
      intro member
      simpa using inClass_of_mem_takeRun member
    have whole := takeRun_append (· != '"') rest
    have outside : ∀ c ∈ (takeRun (· != '"') rest).2.head?, c = '"' := by
      intro c member
      have := List.head?_dropWhile_not (p := (· != '"')) (l := rest)
      rw [takeRun] at member
      simp_all
    generalize takeRun (· != '"') rest = run at taken inside whole outside
    obtain ⟨run, after⟩ := run
    cases after with
    | nil =>
        obtain rfl := Option.some.inj taken
        simp only [List.append_nil] at whole
        exact ⟨by simp [whole], by simp, .unclosed inside⟩
    | cons quote after =>
        obtain rfl := outside quote rfl
        obtain rfl := Option.some.inj taken
        exact ⟨by simp [← whole], by simp, .closed inside⟩
  case h_2 =>
    simp only [Option.ite_none_left_eq_some, Bool.or_eq_true, not_or, Option.some.injEq] at taken
    obtain ⟨⟨nonempty, _⟩, rfl⟩ := taken
    refine ⟨(takeRun_append isBare rest).symm, by simpa using nonempty, .bare ?_⟩
    exact fun c member => inClass_of_mem_takeRun member

theorem takeWordBefore?_append (word : String) {follows : List Char → Bool} {after : List Char}
    (fits : follows after = true) :
    takeWordBefore? word follows (word.toList ++ after) = some (word.toList, after) := by
  simp [takeWordBefore?, takeWord?_append, Option.filter_some, fits]

theorem takeWordBefore?_eq_some {word : String} {follows : List Char → Bool} {rest : List Char}
    {split : Split} (taken : takeWordBefore? word follows rest = some split) :
    split.1 = word.toList ∧ rest = word.toList ++ split.2 ∧ follows split.2 = true := by
  obtain ⟨word_taken, fits⟩ := Option.filter_eq_some_iff.mp taken
  obtain ⟨word_eq, rest_eq⟩ := takeWord?_eq_some word_taken
  exact ⟨word_eq, rest_eq, fits⟩

/-- Whether a token can begin with a character. -/
def Token.begins : Token → Char → Bool
  | .orWord, c => c == 'O'
  | .sortWord, c => c == 's'
  | .dash, c => c == '-'
  | .name, c => c.isAlpha
  | .colon, c => c == ':'
  | .date, c => isDigit c
  | .number, c => isDigit c
  | .variable, c => c == '$'
  | .star, c => c == '*'
  | .dots, c => c == '.'
  | .comparison, c => c == '<' || c == '>'
  | .text, c => !isBlank c
  | .equals, c => c == '='
  | .finish, _ => false

/-- A letter begins a keyword, a name or a text. -/
theorem Token.begins_eq_false_of_isAlpha {token : Token} {c : Char} (letter : c.isAlpha = true)
    (other : token ∉ [.orWord, .sortWord, .name, .text]) : token.begins c = false := by
  have noSign {sign : Char} (noLetter : sign.isAlpha = false) : c ≠ sign := by
    rintro rfl
    simp [noLetter] at letter
  cases token with
  | date | number => exact Text.isDigit_eq_false_of_isAlpha letter
  | dash | colon | «variable» | star | dots | equals =>
      exact beq_false_of_ne (noSign (by decide))
  | comparison =>
      exact Bool.or_eq_false_iff.mpr ⟨beq_false_of_ne (noSign (by decide)),
        beq_false_of_ne (noSign (by decide))⟩
  | finish => rfl
  | orWord | sortWord | name | text => simp at other

/-- A digit begins a date, a number or a text. -/
theorem Token.begins_eq_false_of_isDigit {token : Token} {c : Char} (digit : isDigit c = true)
    (other : token ∉ [.date, .number, .text]) : token.begins c = false := by
  have noSign {sign : Char} (noDigit : isDigit sign = false) : c ≠ sign := by
    rintro rfl
    simp [noDigit] at digit
  cases token with
  | name => exact (Text.isAlpha_eq_false_of_isDigit digit).1
  | orWord | sortWord | dash | colon | «variable» | star | dots | equals =>
      exact beq_false_of_ne (noSign (by decide))
  | comparison =>
      exact Bool.or_eq_false_iff.mpr ⟨beq_false_of_ne (noSign (by decide)),
        beq_false_of_ne (noSign (by decide))⟩
  | finish => rfl
  | date | number | text => simp at other

/-- What holds of the text of a token and of what follows it. -/
structure Token.Takes (token : Token) (rest text after : List Char) : Prop where
  /-- The token takes a beginning. -/
  split : rest = text ++ after
  /-- The text has the form that the texts of tokens have. -/
  form : TokenText text after
  /-- The first character is one that the token can begin with. -/
  head : ∃ c tail, text = c :: tail ∧ token.begins c = true

/-- A token that does not begin with a quote takes a bare word. -/
theorem Token.Takes.isBareWord {token : Token} {rest text after : List Char}
    (takes : token.Takes rest text after) (noQuote : token.begins '"' = false) :
    IsBareWord text := by
  obtain ⟨c, tail, text_eq, begins⟩ := takes.head
  have form := takes.form
  rw [text_eq] at form ⊢
  generalize word_eq : c :: tail = word at form
  cases form with
  | bare isWord => exact isWord
  | closed | unclosed =>
      obtain rfl := (List.cons.inj word_eq).1
      simp [noQuote] at begins

private theorem takes_word {token : Token} {word rest : List Char} {split : Split}
    (isWord : word.all isBare = true) (head : word.head?.any token.begins = true)
    (facts : split.1 = word ∧ rest = word ++ split.2) : token.Takes rest split.1 split.2 := by
  obtain ⟨word_eq, rest_eq⟩ := facts
  rw [word_eq]
  refine ⟨rest_eq, .bare (List.all_eq_true.mp isWord), ?_⟩
  cases word with
  | nil => simp at head
  | cons c word => exact ⟨c, word, rfl, by simpa using head⟩

private theorem takes_name {rest : List Char} {split : Split}
    (taken : takeName? rest = some split) : Token.name.Takes rest split.1 split.2 := by
  obtain ⟨first, run, others, text_eq, letter, inside, _, rest_eq⟩ := takeName?_eq_some taken
  refine ⟨rest_eq, .bare ?_, first, run, text_eq, letter⟩
  rw [text_eq]
  intro c member
  rcases List.mem_cons.mp member with rfl | member
  · exact isBare_of_isAlpha letter
  · exact isBare_of_isNameChar (inside c member)

private theorem takes_date {rest : List Char} {split : Split}
    (taken : takeDate? rest = some split) : Token.date.Takes rest split.1 split.2 := by
  obtain ⟨mask, mask_mem, mask_taken, _⟩ := takeDate?_eq_some taken
  refine ⟨(takeMask?_eq_some_iff.mp mask_taken).1, .bare ?_, ?_⟩
  · intro c member
    rcases mem_takeMask? (isDateMask_of_mem mask mask_mem) mask_taken c member with digit | sign
    · exact isBare_of_isDigit digit
    · exact isBare_of_isDateSign sign
  · obtain ⟨slots, slots_eq⟩ := dateMask_head mask mask_mem
    rw [slots_eq] at mask_taken
    obtain ⟨c, others, tail, rfl, fits, _, rfl⟩ := takeMask?_cons_eq_some mask_taken
    rw [Fits, if_pos rfl] at fits
    exact ⟨c, tail.1, rfl, fits⟩

private theorem takes_number {rest : List Char} {split : Split}
    (taken : takeNumber? rest = some split) : Token.number.Takes rest split.1 split.2 := by
  obtain ⟨⟨digits, fraction, text_eq, nonempty, inside, fraction_form⟩, rest_eq, _⟩ :=
    takeNumber?_eq_some taken
  refine ⟨rest_eq, .bare ?_, ?_⟩
  · rw [text_eq]
    intro c member
    rcases List.mem_append.mp member with member | member
    · exact isBare_of_isDigit (inside c member)
    · rcases fraction_form with rfl | ⟨more, _, more_digits, rfl⟩
      · simp at member
      · rcases List.mem_cons.mp member with rfl | member
        · decide
        · exact isBare_of_isDigit (more_digits c member)
  · obtain ⟨c, tail, rfl⟩ := List.exists_cons_of_ne_nil nonempty
    exact ⟨c, tail ++ fraction, text_eq, inside c (by simp)⟩

private theorem takes_variable {rest : List Char} {split : Split}
    (taken : takeVariable? rest = some split) : Token.variable.Takes rest split.1 split.2 := by
  obtain ⟨first, run, text_eq, starts, inside, rest_eq⟩ := takeVariable?_eq_some taken
  refine ⟨rest_eq, .bare ?_, '$', first :: run, text_eq, by decide⟩
  rw [text_eq]
  intro c member
  simp only [List.mem_cons] at member
  rcases member with rfl | rfl | member
  · decide
  · exact isBare_of_startsVariable starts
  · exact isBare_of_isNameChar (inside c member)

private theorem takes_comparison {rest : List Char} {split : Split}
    (taken : takeComparison? rest = some split) :
    Token.comparison.Takes rest split.1 split.2 := by
  obtain ⟨text_mem, rest_eq⟩ := takeComparison?_eq_some taken
  simp only [List.mem_cons, List.not_mem_nil, or_false] at text_mem
  rcases text_mem with text_eq | text_eq | text_eq | text_eq <;>
    exact takes_word (by decide) (by decide) ⟨text_eq, text_eq ▸ rest_eq⟩

private theorem takes_text {rest : List Char} {split : Split}
    (taken : takeText? rest = some split) : Token.text.Takes rest split.1 split.2 := by
  obtain ⟨rest_eq, nonempty, form⟩ := takeText?_eq_some taken
  refine ⟨rest_eq, form, ?_⟩
  obtain ⟨c, tail, text_eq⟩ := List.exists_cons_of_ne_nil nonempty
  refine ⟨c, tail, text_eq, ?_⟩
  rw [text_eq] at form
  generalize split.2 = after at form
  cases form with
  | bare isWord =>
      have bare := isWord c (by simp)
      simp only [isBare, Bool.and_eq_true] at bare
      exact bare.1
  | closed => decide
  | unclosed => decide

/-- Every token but the end of the line takes some characters. -/
theorem Token.takes_of_take? {token : Token} {rest : List Char} {split : Split}
    (taken : token.take? rest = some split) (not_finish : token ≠ .finish) :
    token.Takes rest split.1 split.2 := by
  cases token with
  | orWord =>
      obtain ⟨word_eq, rest_eq, _⟩ := takeWordBefore?_eq_some taken
      exact takes_word (by decide) (by decide) ⟨word_eq, rest_eq⟩
  | sortWord =>
      rw [Token.take?] at taken
      obtain ⟨word_eq, rest_eq, _⟩ := takeWordBefore?_eq_some taken
      exact takes_word (by decide) (by decide) ⟨word_eq, rest_eq⟩
  | dash => exact takes_word (by decide) (by decide) (takeWord?_eq_some taken)
  | name => exact takes_name taken
  | colon => exact takes_word (by decide) (by decide) (takeWord?_eq_some taken)
  | date => exact takes_date taken
  | number => exact takes_number taken
  | «variable» => exact takes_variable taken
  | star => exact takes_word (by decide) (by decide) (takeWord?_eq_some taken)
  | dots => exact takes_word (by decide) (by decide) (takeWord?_eq_some taken)
  | comparison => exact takes_comparison taken
  | text => exact takes_text taken
  | equals => exact takes_word (by decide) (by decide) (takeWord?_eq_some taken)
  | finish => exact absurd rfl not_finish

/-- The end of a line takes nothing and leaves nothing. -/
theorem Token.take?_finish_eq_some {rest : List Char} {split : Split}
    (taken : Token.finish.take? rest = some split) : rest = [] ∧ split = ([], []) := by
  simp only [Token.take?, Option.ite_none_right_eq_some, Option.some.injEq] at taken
  exact ⟨by simpa using taken.1, taken.2.symm⟩

/-- A token that begins otherwise is not there. -/
theorem Token.take?_eq_none_of_begins {token : Token} {c : Char} {rest : List Char}
    (other : token.begins c = false) : token.take? (c :: rest) = none := by
  rw [Option.eq_none_iff_forall_ne_some]
  intro split taken
  by_cases atEnd : token = .finish
  · subst atEnd
    exact absurd (take?_finish_eq_some taken).1 (by simp)
  · have takes := takes_of_take? taken atEnd
    obtain ⟨d, tail, text_eq, begins⟩ := takes.head
    have rest_eq := takes.split
    rw [text_eq, List.cons_append, List.cons.injEq] at rest_eq
    rw [← rest_eq.1, other] at begins
    simp at begins

/-- Nothing is found at the end of a text but that end. -/
theorem Token.take?_nil {token : Token} (not_finish : token ≠ .finish) :
    token.take? [] = none := by
  rw [Option.eq_none_iff_forall_ne_some]
  intro split taken
  obtain ⟨c, tail, text_eq, _⟩ := (takes_of_take? taken not_finish).head
  have rest_eq := (takes_of_take? taken not_finish).split
  simp [text_eq] at rest_eq

/-- No token begins with a blank. -/
theorem Token.isBlank_eq_false_of_begins {token : Token} {c : Char}
    (begins : token.begins c = true) : isBlank c = false := by
  cases token with
  | name => exact Text.isBlank_eq_false_of_isAlpha begins
  | date => exact Text.isBlank_eq_false_of_isDigit begins
  | number => exact Text.isBlank_eq_false_of_isDigit begins
  | text => simpa [Token.begins] using begins
  | finish => simp [Token.begins] at begins
  | comparison =>
      simp only [Token.begins, Bool.or_eq_true, beq_iff_eq] at begins
      rcases begins with rfl | rfl <;> decide
  | orWord | sortWord | dash | colon | «variable» | star | dots | equals =>
      obtain rfl := by simpa [Token.begins] using begins
      decide

/-- In front of a blank and at the end of a text no token is found but that end. -/
theorem Token.take?_eq_none_of_blank {token : Token} {rest : List Char}
    (not_finish : token ≠ .finish) (blank : ∀ c ∈ rest.head?, isBlank c = true) :
    token.take? rest = none := by
  cases rest with
  | nil => exact take?_nil not_finish
  | cons c rest =>
      apply take?_eq_none_of_begins
      rw [← Bool.not_eq_true]
      intro begins
      have := isBlank_eq_false_of_begins begins
      simp [blank c rfl] at this

/-- In front of a character that is not blank there is a word, unless a qualifier begins. -/
theorem takeText?_ne_none {c : Char} {rest : List Char} (notBlank : isBlank c = false)
    (noName : takeName? (c :: rest) = none) : takeText? (c :: rest) ≠ none := by
  unfold takeText?
  split
  case h_1 => split <;> simp
  case h_2 notQuote =>
    have bare : isBare c = true := by
      simp only [isBare, notBlank, Bool.not_false, Bool.true_and, bne_iff_ne]
      rintro rfl
      exact notQuote rest rfl
    simp [takeRun, bare, noName]

/-! ## Blanks inside of a token -/

private theorem count_quote_eq_zero {text : List Char} (inside : '"' ∉ text) :
    text.count '"' = 0 :=
  List.count_eq_zero_of_not_mem inside

/-- A token leaves the number of quotes even, unless it reaches the end of the line. -/
theorem TokenText.count_quote {text after : List Char} (form : TokenText text after) :
    text.count '"' % 2 = 0 ∨ after = [] := by
  cases form with
  | bare isWord =>
      left
      rw [count_quote_eq_zero]
      intro member
      exact absurd (isWord _ member) (by decide)
  | closed inside => simp [count_quote_eq_zero inside]
  | unclosed => exact Or.inr rfl

/-- A blank in a token stands behind an odd number of the token's quotes. -/
theorem TokenText.count_quote_before_blank {front back after : List Char} {c : Char}
    (form : TokenText (front ++ c :: back) after) (blank : isBlank c = true) :
    front.count '"' % 2 = 1 := by
  have not_quote : c ≠ '"' := by
    rintro rfl
    exact absurd blank (by decide)
  generalize text_eq : front ++ c :: back = text at form
  cases form with
  | bare isWord =>
      have bare := isWord c (by simp [← text_eq])
      simp [isBare, blank] at bare
  | @closed run _ inside =>
      cases front with
      | nil => simp [not_quote] at text_eq
      | cons quote front =>
          rw [List.cons_append, List.cons_append, List.cons.injEq] at text_eq
          have front_begins : front <+: run := by
            have longer : front.length ≤ run.length := by
              have lengths := congrArg List.length text_eq.2
              simp only [List.length_append, List.length_cons, List.length_nil] at lengths
              omega
            exact List.prefix_of_prefix_length_le ⟨_, text_eq.2⟩ ⟨_, rfl⟩ longer
          have front_inside : '"' ∉ front := fun member => inside (front_begins.subset member)
          simp [text_eq.1, count_quote_eq_zero front_inside]
  | unclosed inside =>
      cases front with
      | nil => simp [not_quote] at text_eq
      | cons quote front =>
          rw [List.cons_append, List.cons.injEq] at text_eq
          have front_inside : '"' ∉ front := by
            intro member
            exact inside (text_eq.2 ▸ List.mem_append_left _ member)
          simp [text_eq.1, count_quote_eq_zero front_inside]

end SearchQuery.Line
