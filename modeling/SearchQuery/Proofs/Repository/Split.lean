import SearchQuery.Line.Grammar
import SearchQuery.Repository

/-!
# Splitting a value

A value names a repository exactly if it holds the separator behind its first character.  It is then
split at the first separator, so that nothing of the separator is left to be found in the owner.

What is split is the value without a pair of quotes around it.  This is the text of a literal, but
for a literal whose closing quote is absent: there the opening quote is part of the owner.
-/

namespace SearchQuery.Repository

/-- The text is split at the first occurrence of the separator. -/
structure IsFirstSplit (separator text owner name : List Char) : Prop where
  /-- Nothing but the separator is lost. -/
  text_eq : text = owner ++ separator ++ name
  /-- The separator does not occur before. -/
  first : ∀ index < owner.length, ¬ separator <+: text.drop index

theorem isFirstSplit_nil_iff {separator text name : List Char} :
    IsFirstSplit separator text [] name ↔ text = separator ++ name :=
  ⟨fun split => split.text_eq, fun text_eq => ⟨text_eq, by simp⟩⟩

theorem isFirstSplit_cons_iff {separator text owner name : List Char} {c d : Char} :
    IsFirstSplit separator (c :: text) (d :: owner) name ↔
      c = d ∧ ¬ separator <+: c :: text ∧ IsFirstSplit separator text owner name := by
  constructor
  · rintro ⟨text_eq, first⟩
    simp only [List.cons_append, List.cons.injEq] at text_eq
    refine ⟨text_eq.1, first 0 (Nat.zero_lt_succ _), text_eq.2, fun index bound => ?_⟩
    exact first (index + 1) (Nat.succ_lt_succ bound)
  · rintro ⟨rfl, no_prefix, text_eq, first⟩
    refine ⟨by simp [text_eq], fun index bound => ?_⟩
    cases index with
    | zero => exact no_prefix
    | succ index => exact first index (Nat.lt_of_succ_lt_succ bound)

/-- The first split is the one that is found. -/
theorem splitFirst?_eq_some_iff {separator text owner name : List Char} :
    splitFirst? separator text = some (owner, name) ↔
      IsFirstSplit separator text owner name := by
  induction text generalizing owner name with
  | nil =>
      cases owner with
      | nil => cases separator <;> cases name <;> simp [splitFirst?, isFirstSplit_nil_iff]
      | cons d owner =>
          have unsplit : ¬ IsFirstSplit separator [] (d :: owner) name := fun split => by
            simpa using split.text_eq
          simp only [unsplit, iff_false]
          rw [splitFirst?]
          split <;> simp
  | cons c text induction =>
      rw [splitFirst?]
      split
      case isTrue occurs =>
        rw [List.isPrefixOf_iff_prefix] at occurs
        cases owner with
        | nil =>
            obtain ⟨rest, rest_eq⟩ := occurs
            rw [isFirstSplit_nil_iff, ← rest_eq]
            simp
        | cons d owner => simp [isFirstSplit_cons_iff, occurs]
      case isFalse absent =>
        rw [List.isPrefixOf_iff_prefix] at absent
        cases owner with
        | nil =>
            have unsplit : c :: text ≠ separator ++ name :=
              fun text_eq => absent ⟨name, text_eq.symm⟩
            simp [isFirstSplit_nil_iff, unsplit]
        | cons d owner =>
            rw [isFirstSplit_cons_iff, ← induction]
            simp only [Option.map_eq_some_iff, Prod.exists, Prod.mk.injEq, List.cons.injEq]
            constructor
            · rintro ⟨front, back, found, ⟨rfl, rfl⟩, rfl⟩
              exact ⟨rfl, absent, found⟩
            · rintro ⟨rfl, _, found⟩
              exact ⟨owner, name, found, ⟨rfl, rfl⟩, rfl⟩

/-- A text is split at the first occurrence of a separator in one way at most. -/
theorem IsFirstSplit.eq {separator text owner name owner' name' : List Char}
    (split : IsFirstSplit separator text owner name)
    (split' : IsFirstSplit separator text owner' name') : owner = owner' ∧ name = name' := by
  have found := splitFirst?_eq_some_iff.mpr split
  rw [splitFirst?_eq_some_iff.mpr split', Option.some.injEq, Prod.mk.injEq] at found
  exact ⟨found.1.symm, found.2.symm⟩

/-- A separator that is not empty does not occur in the owner. -/
theorem IsFirstSplit.not_infix_owner {separator text owner name : List Char}
    (split : IsFirstSplit separator text owner name) (separated : separator ≠ []) :
    ¬ separator <:+: owner := by
  rintro ⟨front, back, owner_eq⟩
  have front_lt : front.length < owner.length := by
    have := List.length_pos_iff.mpr separated
    simp only [← owner_eq, List.length_append]
    omega
  refine split.first front.length front_lt ⟨back ++ separator ++ name, ?_⟩
  rw [split.text_eq, ← owner_eq]
  simp

/-- A value names the repository that it is split into, if the owner is not empty. -/
theorem ofValue?_eq_some_iff {separator value : String} {repository : Repository} :
    ofValue? separator value = some repository ↔
      repository.owner ≠ "" ∧ IsFirstSplit separator.toList (withoutQuotes value.toList)
        repository.owner.toList repository.name.toList := by
  rw [← splitFirst?_eq_some_iff, ofValue?]
  obtain ⟨owner, name⟩ := repository
  cases splitFirst? separator.toList (withoutQuotes value.toList) with
  | none => simp
  | some split =>
      obtain ⟨front, back⟩ := split
      cases front with
      | nil =>
          refine iff_of_false (by simp) fun ⟨owned, split_eq⟩ => owned ?_
          simp only [Option.some.injEq, Prod.mk.injEq] at split_eq
          exact String.toList_eq_nil_iff.mp split_eq.1.symm
      | cons first front =>
          simp only [Option.some.injEq, Repository.mk.injEq, Prod.mk.injEq]
          constructor
          · rintro ⟨rfl, rfl⟩
            simp
          · rintro ⟨_, owner_eq, name_eq⟩
            rw [owner_eq, name_eq, String.ofList_toList, String.ofList_toList]
            exact ⟨rfl, rfl⟩

/-- The text begins with a quote that no quote at its end closes. -/
def IsUnclosed (text : List Char) : Prop :=
  text.head? = some '"' ∧ text.tail.getLast? ≠ some '"'

instance (text : List Char) : Decidable (IsUnclosed text) :=
  inferInstanceAs (Decidable (_ ∧ _))

/-- What is left without a pair of quotes is the text of the literal, behind its opening quote if
that has no closing one. -/
theorem withoutQuotes_eq (text : List Char) :
    withoutQuotes text =
      if IsUnclosed text then '"' :: Line.unquote text else Line.unquote text := by
  fun_cases withoutQuotes text with
  | case1 rest last => rw [Line.unquote, if_pos last, if_neg (fun unclosed => unclosed.2 last)]
  | case2 rest last => rw [Line.unquote, if_neg last, if_pos ⟨rfl, last⟩]
  | case3 text unquoted =>
      have unopened : text.head? ≠ some '"' := fun opened => by
        obtain ⟨rest, text_eq⟩ := List.head?_eq_some_iff.mp opened
        exact unquoted rest text_eq
      rw [Line.unquote, if_neg (fun unclosed => unopened unclosed.1)]
      exact unquoted

end SearchQuery.Repository
