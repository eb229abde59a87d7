import SearchQuery.Proofs.Line.Token

/-!
# Words in another context

Which token a text begins with, and where the token ends, does not depend on what stands behind the
text, as long as a word ends there and no quote is open.  A date, a number or a variable can also be
followed by a range operator instead.
-/

namespace SearchQuery.Line

open Text (isBlank isDigit isNameChar)

/-- The split of a longer text. -/
def Split.append (split : Split) (after : List Char) : Split := (split.1, split.2 ++ after)

theorem isBlank_of_endsWord {c : Char} {rest : List Char} (ends : endsWord (c :: rest) = true) :
    isBlank c = true := ends

theorem endsBoundary_of_endsWord {rest : List Char} (ends : endsWord rest = true) :
    endsBoundary rest = true := by
  unfold endsBoundary
  split
  · rfl
  · exact ends

theorem isDigit_eq_false_of_isBlank {c : Char} (blank : isBlank c = true) : isDigit c = false := by
  rw [← Bool.not_eq_true]
  intro digit
  simp [Text.isBlank_eq_false_of_isDigit digit] at blank

theorem isNameChar_eq_false_of_isBlank {c : Char} (blank : isBlank c = true) :
    isNameChar c = false := by
  rw [← Bool.not_eq_true]
  intro name
  simp [Text.isBlank_eq_false_of_isNameChar name] at blank

theorem isDateSign_eq_false_of_isBlank {c : Char} (blank : isBlank c = true) :
    isDateSign c = false := by
  rw [← Bool.not_eq_true]
  intro sign
  have bare := isBare_of_isDateSign sign
  simp [isBare, blank] at bare

/-! ## Parts of tokens -/

section Word

variable {after : List Char} (ends : endsWord after = true)

include ends

theorem takeWord?_local {letters : List Char} (visible : letters.all (!isBlank ·) = true)
    (word : List Char) :
    takeWord? letters (word ++ after) = (takeWord? letters word).map (·.append after) := by
  induction letters generalizing word with
  | nil => simp [takeWord?, Split.append]
  | cons letter letters induction =>
      simp only [List.all_cons, Bool.and_eq_true, Bool.not_eq_true'] at visible
      cases word with
      | nil =>
          cases after with
          | nil => rfl
          | cons c rest =>
              have other : c ≠ letter := by
                rintro rfl
                simp [isBlank_of_endsWord ends] at visible
              simp [takeWord?, other]
      | cons c word =>
          rw [List.cons_append, takeWord?, takeWord?, induction visible.2]
          split
          · simp [Function.comp_def, Split.append]
          · rfl

omit ends in
/-- A run that could not go on behind a word does not. -/
theorem takeRun_append_of_outside {inClass : Char → Bool}
    (outside : ∀ c ∈ after.head?, inClass c = false) (word : List Char) :
    takeRun inClass (word ++ after) = (takeRun inClass word).append after := by
  have stops : ∀ c ∈ ((takeRun inClass word).2 ++ after).head?, inClass c = false := by
    intro c member
    cases left_eq : (takeRun inClass word).2 with
    | nil =>
        rw [left_eq, List.nil_append] at member
        exact outside c member
    | cons d left =>
        rw [left_eq, List.cons_append, List.head?_cons, Option.mem_some_iff] at member
        have := List.head?_dropWhile_not inClass word
        rw [show word.dropWhile inClass = d :: left from left_eq] at this
        simpa [member] using this
  have inside : ∀ c ∈ (takeRun inClass word).1, inClass c = true :=
    fun c member => inClass_of_mem_takeRun member
  have whole := takeRun_of_boundary inside stops
  rwa [← List.append_assoc, takeRun_append] at whole

theorem takeRun_local {inClass : Char → Bool} (visible : ∀ c, isBlank c = true → inClass c = false)
    (word : List Char) : takeRun inClass (word ++ after) = (takeRun inClass word).append after := by
  apply takeRun_append_of_outside
  intro c member
  obtain ⟨rest, rfl⟩ := List.head?_eq_some_iff.mp member
  exact visible c ends

theorem endsWord_append_iff (word : List Char) : endsWord (word ++ after) = endsWord word := by
  cases word with
  | nil => exact ends
  | cons c word => rfl

theorem endsBoundary_append_iff (word : List Char) :
    endsBoundary (word ++ after) = endsBoundary word := by
  cases word with
  | nil => exact endsBoundary_of_endsWord ends
  | cons c word =>
      cases word with
      | nil =>
          cases after with
          | nil => rfl
          | cons d rest =>
              have blank := isBlank_of_endsWord ends
              have noDots : d ≠ '.' := by
                rintro rfl
                exact absurd blank (by decide)
              simp [endsBoundary, noDots, endsWord]
      | cons d word =>
          by_cases dots : c = '.' ∧ d = '.'
          · obtain ⟨rfl, rfl⟩ := dots
            rfl
          · rw [List.cons_append, List.cons_append, endsBoundary, endsBoundary]
            · rfl
            · rintro rest ⟨rfl, rfl, rfl⟩
              exact dots ⟨rfl, rfl⟩
            · rintro rest ⟨rfl, rfl, rfl⟩
              exact dots ⟨rfl, rfl⟩

omit ends in
/-- A form of a date that could not go on behind a word does not. -/
theorem takeMask?_append_of_outside {mask : List Char} (isMask : isDateMask mask = true)
    (outside : ∀ c ∈ after.head?, isDigit c = false ∧ isDateSign c = false) (word : List Char) :
    takeMask? mask (word ++ after) = (takeMask? mask word).map (·.append after) := by
  induction mask generalizing word with
  | nil => simp [takeMask?, Split.append]
  | cons slot mask induction =>
      simp only [isDateMask, List.all_cons, Bool.and_eq_true, Bool.or_eq_true, beq_iff_eq] at isMask
      cases word with
      | nil =>
          cases after with
          | nil => rfl
          | cons c rest =>
              have noFit : ¬ Fits slot c := by
                obtain ⟨noDigit, noSign⟩ := outside c rfl
                rw [Fits]
                split
                · simp [noDigit]
                · rintro rfl
                  simp_all
              rw [List.nil_append, takeMask?_cons_cons, if_neg noFit]
              rfl
      | cons c word =>
          rw [List.cons_append, takeMask?_cons_cons, takeMask?_cons_cons, induction isMask.2]
          split
          · simp [Function.comp_def, Split.append]
          · rfl

omit ends in
private theorem findSome?_congr {α β : Type} {list : List α} {left right : α → Option β}
    (same : ∀ item ∈ list, left item = right item) :
    list.findSome? left = list.findSome? right := by
  induction list with
  | nil => rfl
  | cons item list induction =>
      rw [List.forall_mem_cons] at same
      rw [List.findSome?_cons, List.findSome?_cons, same.1, induction same.2]

theorem takeDate?_local (word : List Char) :
    takeDate? (word ++ after) = (takeDate? word).map (·.append after) := by
  rw [takeDate?, takeDate?, List.map_findSome?]
  apply findSome?_congr
  intro mask member
  have outside : ∀ c ∈ after.head?, isDigit c = false ∧ isDateSign c = false := by
    intro c head
    obtain ⟨rest, rfl⟩ := List.head?_eq_some_iff.mp head
    exact ⟨isDigit_eq_false_of_isBlank ends, isDateSign_eq_false_of_isBlank ends⟩
  rw [takeMask?_append_of_outside (isDateMask_of_mem mask member) outside, Option.filter_map]
  simp [Function.comp_def, Split.append, endsBoundary_append_iff ends]

/-- Behind its end a word does not go on with a certain character. -/
theorem head?_append_eq_iff {c : Char} (visible : isBlank c = false) (word : List Char) :
    (word ++ after).head? = some c ↔ word.head? = some c := by
  cases word with
  | nil =>
      cases after with
      | nil => rfl
      | cons d rest =>
          simp only [List.nil_append, List.head?_cons, List.head?_nil, Option.some.injEq,
            reduceCtorEq, iff_false]
          rintro rfl
          simp [isBlank_of_endsWord ends] at visible
  | cons d word => rfl

theorem takeFraction?_local (word : List Char) :
    takeFraction? (word ++ after) = (takeFraction? word).map (·.append after) := by
  have noPoint {rest : List Char} (other : rest.head? ≠ some '.') : takeFraction? rest = none := by
    unfold takeFraction?
    split
    · exact absurd rfl other
    · rfl
  by_cases point : word.head? = some '.'
  · obtain ⟨rest, rfl⟩ := List.head?_eq_some_iff.mp point
    rw [List.cons_append, takeFraction?, takeFraction?,
      takeRun_local ends fun c => isDigit_eq_false_of_isBlank]
    by_cases empty : (takeRun isDigit rest).1.isEmpty = true <;> simp [Split.append, empty]
  · rw [noPoint point, noPoint (point ∘ (head?_append_eq_iff ends (by decide) word).mp)]
    rfl

theorem takeNumber?_local (word : List Char) :
    takeNumber? (word ++ after) = (takeNumber? word).map (·.append after) := by
  rw [takeNumber?, takeNumber?, takeRun_local ends fun c => isDigit_eq_false_of_isBlank]
  simp only [Split.append, takeFraction?_local ends, Option.filter_map, Function.comp_def,
    endsBoundary_append_iff ends]
  split
  · rfl
  · cases ((takeFraction? (takeRun isDigit word).2).filter fun split => endsBoundary split.2) with
    | some split => rfl
    | none =>
        simp only [Option.map_none]
        split <;> rfl

theorem takeName?_local (word : List Char) :
    takeName? (word ++ after) = (takeName? word).map (·.append after) := by
  cases word with
  | nil =>
      cases after with
      | nil => rfl
      | cons c rest =>
          have noLetter : c.isAlpha = false := by
            rw [← Bool.not_eq_true]
            intro letter
            simpa [Text.isBlank_eq_false_of_isAlpha letter] using isBlank_of_endsWord ends
          simp [takeName?, noLetter]
  | cons first word =>
      rw [List.cons_append, takeName?, takeName?,
        takeRun_local ends fun c => isNameChar_eq_false_of_isBlank]
      simp only [Split.append, head?_append_eq_iff ends (show isBlank ':' = false by decide)]
      split <;> rfl

theorem takeVariable?_local (word : List Char) :
    takeVariable? (word ++ after) = (takeVariable? word).map (·.append after) := by
  have noDollar {rest : List Char} (other : rest.head? ≠ some '$') : takeVariable? rest = none := by
    unfold takeVariable?
    split
    · exact absurd rfl other
    · rfl
  by_cases dollar : word.head? = some '$'
  · obtain ⟨name, rfl⟩ := List.head?_eq_some_iff.mp dollar
    cases name with
    | nil =>
        cases after with
        | nil => rfl
        | cons c rest =>
            have noStart : startsVariable c = false := by
              rw [← Bool.not_eq_true]
              intro starts
              have bare := isBare_of_startsVariable starts
              simp [isBare, isBlank_of_endsWord ends] at bare
            simp [takeVariable?, noStart]
    | cons first name =>
        rw [List.cons_append, List.cons_append, takeVariable?, takeVariable?,
          takeRun_local ends fun c => isNameChar_eq_false_of_isBlank]
        by_cases starts : startsVariable first = true <;> simp [Split.append, starts]
  · rw [noDollar dollar, noDollar (dollar ∘ (head?_append_eq_iff ends (by decide) word).mp)]
    rfl

omit ends in
theorem takeComparison?_cons (sign : Char) (rest : List Char) (isSign : sign = '<' ∨ sign = '>') :
    takeComparison? (sign :: rest) =
      if rest.head? = some '=' then some ([sign, '='], rest.drop 1) else some ([sign], rest) := by
  by_cases equals : rest.head? = some '='
  · obtain ⟨tail, rfl⟩ := List.head?_eq_some_iff.mp equals
    rcases isSign with rfl | rfl <;> rfl
  · rw [if_neg equals]
    rcases isSign with rfl | rfl <;> unfold takeComparison? <;> split <;> simp_all

theorem takeComparison?_local (word : List Char) :
    takeComparison? (word ++ after) = (takeComparison? word).map (·.append after) := by
  have noSign {rest : List Char} (other : ∀ c ∈ rest.head?, c ≠ '<' ∧ c ≠ '>') :
      takeComparison? rest = none := by
    cases rest with
    | nil => rfl
    | cons c rest =>
        apply @Token.take?_eq_none_of_begins .comparison
        simpa [Token.begins] using other c rfl
  by_cases sign : word.head? = some '<' ∨ word.head? = some '>'
  · obtain ⟨c, rest, rfl, isSign⟩ : ∃ c rest, word = c :: rest ∧ (c = '<' ∨ c = '>') := by
      cases word with
      | nil => simp at sign
      | cons c rest => exact ⟨c, rest, rfl, by simpa using sign⟩
    rw [List.cons_append, takeComparison?_cons _ _ isSign, takeComparison?_cons _ _ isSign]
    simp only [head?_append_eq_iff ends (show isBlank '=' = false by decide)]
    by_cases equals : rest.head? = some '='
    · obtain ⟨tail, rfl⟩ := List.head?_eq_some_iff.mp equals
      simp [Split.append]
    · simp [Split.append, equals]
  · rw [not_or] at sign
    rw [noSign, noSign]
    · rfl
    · rintro c member
      constructor <;> rintro rfl
      · exact sign.1 member
      · exact sign.2 member
    · rintro c member
      constructor <;> rintro rfl
      · exact sign.1 ((head?_append_eq_iff ends (by decide) word).mp member)
      · exact sign.2 ((head?_append_eq_iff ends (by decide) word).mp member)

theorem takeWordBefore?_local (letters : String) (follows : List Char → Bool)
    (visible : letters.toList.all (!isBlank ·) = true)
    (same : ∀ rest, follows (rest ++ after) = follows rest) (word : List Char) :
    takeWordBefore? letters follows (word ++ after) =
      (takeWordBefore? letters follows word).map (·.append after) := by
  rw [takeWordBefore?, takeWordBefore?, takeWord?_local ends visible, Option.filter_map]
  simp [Function.comp_def, Split.append, same]

theorem takeText?_local {text : List Char} (noQuote : text.head? ≠ some '"') :
    takeText? (text ++ after) = (takeText? text).map (·.append after) := by
  have blankNotBare : ∀ c, isBlank c = true → isBare c = false := by
    intro c blank
    simp [isBare, blank]
  rw [takeText?_of_head noQuote,
    takeText?_of_head (noQuote ∘ (head?_append_eq_iff ends (by decide) text).mp),
    takeRun_local ends blankNotBare, takeName?_local ends]
  simp only [Split.append, Option.isSome_map]
  split <;> rfl

/-- A token at the beginning of a text that does not begin with a quote. -/
theorem Token.take?_append {token : Token} {text : List Char} (noQuote : text.head? ≠ some '"')
    (not_finish : token ≠ .finish) :
    token.take? (text ++ after) = (token.take? text).map (·.append after) := by
  have colon (rest : List Char) :
      ((rest ++ after).head? == some ':') = (rest.head? == some ':') := by
    rw [Bool.eq_iff_iff, beq_iff_eq, beq_iff_eq, head?_append_eq_iff ends (by decide)]
  cases token with
  | orWord =>
      exact takeWordBefore?_local ends "OR" endsWord (by decide) (endsWord_append_iff ends) text
  | sortWord =>
      exact takeWordBefore?_local ends "sort" (fun rest => rest.head? == some ':') (by decide) colon
        text
  | dash => exact takeWord?_local ends (by decide) text
  | colon => exact takeWord?_local ends (by decide) text
  | star => exact takeWord?_local ends (by decide) text
  | dots => exact takeWord?_local ends (by decide) text
  | equals => exact takeWord?_local ends (by decide) text
  | name => exact takeName?_local ends text
  | date => exact takeDate?_local ends text
  | number => exact takeNumber?_local ends text
  | «variable» => exact takeVariable?_local ends text
  | comparison => exact takeComparison?_local ends text
  | text => exact takeText?_local ends noQuote
  | finish => exact absurd rfl not_finish

/-- A token in a bare word does not depend on what stands behind the word. -/
theorem Token.take?_local {token : Token} {word : List Char} (isWord : IsBareWord word)
    (not_finish : token ≠ .finish) :
    token.take? (word ++ after) = (token.take? word).map (·.append after) := by
  refine take?_append ends ?_ not_finish
  intro quote
  exact absurd (isWord '"' (List.mem_of_mem_head? quote)) (by decide)

end Word

/-! ## Boundaries -/

theorem hyphen_mem_of_mem_dateMasks : ∀ mask ∈ dateMasks, '-' ∈ mask.toList := by
  simp [dateMasks]

/-- A sign of a mask is one of what the mask takes. -/
theorem mem_takeMask?_of_mem {mask rest : List Char} {split : Split} {sign : Char}
    (member : sign ∈ mask) (noDigit : sign ≠ '0') (taken : takeMask? mask rest = some split) :
    sign ∈ split.1 := by
  induction mask generalizing rest split with
  | nil => simp at member
  | cons slot mask induction =>
      obtain ⟨c, others, tail, rfl, fits, tail_taken, rfl⟩ := takeMask?_cons_eq_some taken
      rcases List.mem_cons.mp member with rfl | member
      · rw [Fits, if_neg noDigit] at fits
        simp [fits]
      · exact List.mem_cons_of_mem c (induction member tail_taken)

section Boundary

variable {after : List Char} (ends : endsBoundary after = true)

include ends

theorem head_of_endsBoundary : ∀ c ∈ after.head?, c = '.' ∨ isBlank c = true := by
  intro c member
  unfold endsBoundary at ends
  split at ends
  · exact Or.inl (by simpa [eq_comm] using member)
  · obtain ⟨rest, rfl⟩ := List.head?_eq_some_iff.mp member
    exact Or.inr ends

theorem outside_of_endsBoundary :
    ∀ c ∈ after.head?, isDigit c = false ∧ isDateSign c = false ∧ isNameChar c = false := by
  intro c member
  rcases head_of_endsBoundary ends c member with rfl | blank
  · exact ⟨by decide, by decide, Text.isNameChar_eq_false_of_sign⟩
  · exact ⟨isDigit_eq_false_of_isBlank blank, isDateSign_eq_false_of_isBlank blank,
      isNameChar_eq_false_of_isBlank blank⟩

/-- The form of a date that a boundary has. -/
private theorem filter_takeMask? {mask word : List Char} (isMask : isDateMask mask = true)
    (isDate : ∀ c ∈ word, isDigit c = true ∨ isDateSign c = true) :
    ((takeMask? mask (word ++ after)).filter fun split => endsBoundary split.2) =
      if takeMask? mask word = some (word, []) then some (word, after) else none := by
  have outside : ∀ c ∈ after.head?, isDigit c = false ∧ isDateSign c = false := fun c member =>
    ⟨(outside_of_endsBoundary ends c member).1, (outside_of_endsBoundary ends c member).2.1⟩
  rw [takeMask?_append_of_outside isMask outside]
  cases taken : takeMask? mask word with
  | none => rfl
  | some split =>
      obtain ⟨front, back⟩ := split
      have split_eq : word = front ++ back := (takeMask?_eq_some_iff.mp taken).1
      cases back with
      | nil =>
          have front_eq : front = word := by simpa using split_eq.symm
          simp [Split.append, front_eq, ends]
      | cons c back =>
          have noEnd : endsBoundary (c :: (back ++ after)) = false := by
            have isDateChar := isDate c (by simp [split_eq])
            have bare : isBlank c = false := by
              rcases isDateChar with digit | sign
              · exact Text.isBlank_eq_false_of_isDigit digit
              · exact isBlank_eq_false_of_isBare (isBare_of_isDateSign sign)
            rw [endsBoundary]
            · exact bare
            · intro rest shape
              obtain rfl := (List.cons.inj shape).1
              exact absurd isDateChar (by decide)
          simp [Split.append, noEnd]

/-- A date is taken as a whole in front of anything that ends a boundary. -/
theorem takeDate?_of_isDate {word : List Char} (isDate : IsDate word) :
    takeDate? (word ++ after) = some (word, after) := by
  obtain ⟨mask, mask_mem, fits⟩ := isDate
  have whole : takeMask? mask.toList word = some (word, []) :=
    takeMask?_eq_some_iff.mpr ⟨(List.append_nil word).symm, fits⟩
  have isDate := mem_takeMask? (isDateMask_of_mem mask mask_mem) whole
  have forms : takeDate? (word ++ after) = dateMasks.findSome? fun mask =>
      if takeMask? mask.toList word = some (word, []) then some (word, after) else none :=
    findSome?_congr fun mask member => filter_takeMask? ends (isDateMask_of_mem mask member) isDate
  rw [forms]
  cases outcome : (dateMasks.findSome? fun mask =>
    if takeMask? mask.toList word = some (word, []) then some (word, after) else none) with
  | none => simpa [whole] using List.findSome?_eq_none_iff.mp outcome mask mask_mem
  | some split =>
      obtain ⟨_, _, split_eq⟩ := List.exists_of_findSome?_eq_some outcome
      exact (Option.ite_none_right_eq_some.mp split_eq).2.symm

/-- The points of a range operator are not those of a fraction. -/
theorem takeFraction?_eq_none_of_boundary : takeFraction? after = none := by
  have noDigit : isDigit '.' = false := by decide
  unfold takeFraction?
  split
  case h_2 => rfl
  case h_1 rest =>
    cases rest with
    | nil => simp [takeRun]
    | cons d rest =>
        by_cases dot : d = '.'
        · simp [dot, takeRun, noDigit]
        · rw [endsBoundary] at ends
          · change Text.isBlank '.' = true at ends
            exact absurd ends (by decide)
          · intro tail shape
            exact dot (List.cons.inj (List.cons.inj shape).2).1

/-- A number is taken as a whole in front of anything that ends a boundary. -/
theorem takeNumber?_of_isNumber {word : List Char} (isNumber : IsNumber word) :
    takeNumber? (word ++ after) = some (word, after) := by
  obtain ⟨digits, fraction, rfl, nonempty, inside, form⟩ := isNumber
  have noDigit : ∀ c ∈ after.head?, isDigit c = false :=
    fun c member => (outside_of_endsBoundary ends c member).1
  have noFraction := takeFraction?_eq_none_of_boundary ends
  rcases form with rfl | ⟨more, more_ne, more_digits, rfl⟩
  · have run := takeRun_of_boundary inside noDigit
    rw [List.append_nil, takeNumber?, run]
    simp [nonempty, noFraction, ends]
  · have run :
        takeRun isDigit (digits ++ ('.' :: more ++ after)) = (digits, '.' :: more ++ after) :=
      takeRun_of_boundary inside (by simp; decide)
    have moreRun := takeRun_of_boundary more_digits noDigit
    rw [List.append_assoc, takeNumber?, run]
    simp [nonempty, takeFraction?, moreRun, more_ne, ends, Option.filter_some]

/-- In front of anything that ends a boundary, a word without a hyphen is no date. -/
theorem takeDate?_eq_none_of_boundary {word : List Char} (noHyphen : '-' ∉ word) :
    takeDate? (word ++ after) = none := by
  rw [Option.eq_none_iff_forall_ne_some]
  intro split taken
  obtain ⟨mask, mask_mem, mask_taken, _⟩ := takeDate?_eq_some taken
  have outside : ∀ c ∈ after.head?, isDigit c = false ∧ isDateSign c = false := fun c member =>
    ⟨(outside_of_endsBoundary ends c member).1, (outside_of_endsBoundary ends c member).2.1⟩
  rw [takeMask?_append_of_outside (isDateMask_of_mem mask mask_mem) outside] at mask_taken
  obtain ⟨inner, inner_taken, _⟩ := Option.map_eq_some_iff.mp mask_taken
  have hyphen := mem_takeMask?_of_mem (hyphen_mem_of_mem_dateMasks mask mask_mem) (by decide)
    inner_taken
  apply noHyphen
  rw [(takeMask?_eq_some_iff.mp inner_taken).1]
  exact List.mem_append_left _ hyphen

/-- A number is no date. -/
theorem takeDate?_eq_none_of_isNumber {word : List Char} (isNumber : IsNumber word) :
    takeDate? (word ++ after) = none := by
  obtain ⟨digits, fraction, rfl, _, inside, form⟩ := isNumber
  have outside {run : List Char} (inside : ∀ c ∈ run, isDigit c = true) : '-' ∉ run :=
    fun member => (Text.isAlpha_eq_false_of_isDigit (inside '-' member)).2 rfl
  apply takeDate?_eq_none_of_boundary ends
  rcases form with rfl | ⟨more, _, more_digits, rfl⟩
  · simpa using outside inside
  · simp [outside inside, outside more_digits]

omit ends in
/-- A variable is one in front of anything that its name could not go on with. -/
theorem takeVariable?_of_outside {word rest : List Char}
    (outside : ∀ c ∈ after.head?, isNameChar c = false)
    (taken : takeVariable? (word ++ rest) = some (word, rest)) :
    takeVariable? (word ++ after) = some (word, after) := by
  obtain ⟨first, run, word_eq, starts, inside, _⟩ := takeVariable?_eq_some taken
  obtain rfl : word = '$' :: first :: run := word_eq
  have whole := takeRun_of_boundary inside outside
  simp [takeVariable?, whole, starts]

theorem takeVariable?_of_boundary {word rest : List Char}
    (taken : takeVariable? (word ++ rest) = some (word, rest)) :
    takeVariable? (word ++ after) = some (word, after) :=
  takeVariable?_of_outside (fun c member => (outside_of_endsBoundary ends c member).2.2) taken

end Boundary

/-! ## Comparisons -/

/-- An operator of one sign is one in front of anything but a sign of equality, and an operator of
two signs in front of anything. -/
theorem takeComparison?_append {operator after : List Char}
    (form : operator ∈ [['<', '='], ['>', '='], ['<'], ['>']])
    (noEquals : operator = ['<'] ∨ operator = ['>'] → after.head? ≠ some '=') :
    takeComparison? (operator ++ after) = some (operator, after) := by
  have single {sign : Char} (isSign : sign = '<' ∨ sign = '>') (other : after.head? ≠ some '=') :
      takeComparison? ([sign] ++ after) = some ([sign], after) := by
    rw [List.singleton_append, takeComparison?_cons _ _ isSign, if_neg other]
  simp only [List.mem_cons, List.not_mem_nil, or_false] at form
  rcases form with rfl | rfl | rfl | rfl
  · rfl
  · rfl
  · exact single (Or.inl rfl) (noEquals (Or.inl rfl))
  · exact single (Or.inr rfl) (noEquals (Or.inr rfl))

/-! ## Names -/

theorem takeName?_append {first : Char} {run : List Char} (letter : first.isAlpha = true)
    (inside : ∀ c ∈ run, isNameChar c = true) (after : List Char) :
    takeName? (first :: run ++ ':' :: after) = some (first :: run, ':' :: after) := by
  have noName : isNameChar ':' = false := Text.isNameChar_eq_false_of_sign
  have whole : takeRun isNameChar (run ++ ':' :: after) = (run, ':' :: after) :=
    takeRun_of_boundary inside (by simpa using noName)
  rw [List.cons_append, takeName?, whole]
  simp [letter]

/-- In front of a name and its colon there is no text. -/
theorem takeText?_eq_none_of_name {text : List Char} (name : takeName? text ≠ none) :
    takeText? text = none := by
  unfold takeText?
  split
  · exact absurd rfl name
  · have isName : (takeName? text).isSome = true := Option.isSome_iff_ne_none.mpr name
    simp [isName]

/-! ## Quoted texts -/

theorem takeText?_closed {run : List Char} (inside : '"' ∉ run) (after : List Char) :
    takeText? ('"' :: run ++ ['"'] ++ after) = some ('"' :: run ++ ['"'], after) := by
  have noQuote : ∀ c ∈ run, (c != '"') = true := by
    intro c member
    rw [bne_iff_ne]
    rintro rfl
    exact inside member
  have whole : takeRun (· != '"') (run ++ '"' :: after) = (run, '"' :: after) :=
    takeRun_of_boundary noQuote (by simp)
  have text_eq : '"' :: run ++ ['"'] ++ after = '"' :: (run ++ '"' :: after) := by simp
  rw [text_eq, takeText?, whole]

theorem takeText?_unclosed {run : List Char} (inside : '"' ∉ run) :
    takeText? ('"' :: run) = some ('"' :: run, []) := by
  have noQuote : ∀ c ∈ run, (c != '"') = true := by
    intro c member
    rw [bne_iff_ne]
    rintro rfl
    exact inside member
  have whole : takeRun (· != '"') (run ++ []) = (run, []) := takeRun_of_boundary noQuote (by simp)
  rw [List.append_nil] at whole
  rw [takeText?, whole]

/-- A token at the beginning of a text in which all quotes are closed does not depend on what stands
behind the text, if a word ends there. -/
theorem Token.take?_closed {token : Token} {text after : List Char}
    (closed : text.count '"' % 2 = 0) (ends : endsWord after = true)
    (not_finish : token ≠ .finish) :
    token.take? (text ++ after) = (token.take? text).map (·.append after) := by
  by_cases quote : text.head? = some '"'
  · obtain ⟨rest, rfl⟩ := List.head?_eq_some_iff.mp quote
    by_cases isText : token = .text
    · subst isText
      have again : '"' ∈ rest := by
        rw [List.count_cons_self] at closed
        apply List.count_pos_iff.mp
        omega
      obtain ⟨run, more, rfl, inside⟩ := List.eq_append_cons_of_mem again
      have first (later : List Char) : takeText? ('"' :: (run ++ '"' :: later)) =
          some ('"' :: run ++ ['"'], later) := by
        simpa using takeText?_closed inside later
      rw [List.cons_append, List.append_assoc, List.cons_append]
      simp only [take?, first, Option.map_some, Split.append]
    · have noQuote : token.begins '"' = false := by
        cases token with
        | text => exact absurd rfl isText
        | _ => rfl
      rw [List.cons_append, take?_eq_none_of_begins noQuote, take?_eq_none_of_begins noQuote]
      rfl
  · exact take?_append ends quote not_finish

end SearchQuery.Line
