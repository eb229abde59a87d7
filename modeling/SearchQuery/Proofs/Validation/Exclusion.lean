import Mathlib.Data.List.Induction
import SearchQuery.Proofs.Node.Walk
import SearchQuery.Validation.Query

/-!
# Values that exclude each other

The qualified values of a query whose qualifiers have sets of values are its *uses* of sets.  The
state of a validation remembers, for each value, the latest use without a finding that excludes it.
A use is in conflict exactly if there is such a use in front of it.
-/

namespace SearchQuery.Validation

/-! ## Findings by visit -/

/-- What is found at each of some visits. -/
def checkEach (table : SymbolTable) (state : QueryState) :
    List Visit → List (Visit × List Diagnostic)
  | [] => []
  | visit :: visits =>
      let (found, next) := checkNode table state visit
      (visit, found) :: checkEach table next visits

theorem map_fst_checkEach (table : SymbolTable) (state : QueryState) (visits : List Visit) :
    (checkEach table state visits).map (·.1) = visits := by
  induction visits generalizing state with
  | nil => rfl
  | cons visit visits induction => simp [checkEach, induction]

/-- What is wrong with a query is what is found at its visits. -/
theorem flatMap_snd_checkEach (table : SymbolTable) (state : QueryState) (visits : List Visit) :
    (checkEach table state visits).flatMap (·.2) = checkVisits table state visits := by
  induction visits generalizing state with
  | nil => rfl
  | cons visit visits induction => simp [checkEach, checkVisits, induction]

/-! ## Uses of sets -/

/-- The sets that a qualified value has to be from. -/
def setsOf? (table : SymbolTable) : Node → Option ValueSets
  | .qualified _ _ qualifier _ =>
      match table.qualifierNamed? qualifier.word with
      | some ⟨_, .oneOf sets⟩ => some sets
      | _ => none
  | _ => none

/-- A qualified value that has to be from some sets, and what was found there. -/
structure SetUse where
  /-- The qualified value. -/
  node : Node
  /-- The sets of its qualifier. -/
  sets : ValueSets
  /-- What was found when it was visited. -/
  found : List Diagnostic

namespace SetUse

/-- The node of the value. -/
def value (use : SetUse) : Node :=
  match use.node with
  | .qualified _ _ _ value => value
  | node => node

/-- The value. -/
def word (use : SetUse) : String := setValue use.value

/-- Another value stands with this one in the first of the sets that has this one. -/
def Excludes (use : SetUse) (word : String) : Prop :=
  word ≠ use.word ∧ ∃ set, use.sets.find? (use.word ∈ ·) = some set ∧ word ∈ set

/-- A conflict was found. -/
def Conflicts (use : SetUse) : Prop := ∃ diagnostic ∈ use.found, diagnostic.kind = .mutualExclusion

/-- Neither a conflict nor an unknown value was found. -/
def IsClear (use : SetUse) : Prop :=
  ¬ use.Conflicts ∧ ∀ diagnostic ∈ use.found, ∀ sets, diagnostic.finding ≠ .unknownValue sets

/-- The use keeps a value from being used behind it. -/
def Bars (use : SetUse) (word : String) : Prop := use.IsClear ∧ use.Excludes word

/-- The latest of some uses that keeps a value from being used. -/
def IsLatest (uses : List SetUse) (word : String) (use : SetUse) : Prop :=
  ∃ early late, uses = early ++ use :: late ∧ use.Bars word ∧ ∀ later ∈ late, ¬ later.Bars word

theorem isLatest_concat_iff {uses : List SetUse} {word : String} {last use : SetUse} :
    IsLatest (uses ++ [last]) word use ↔
      last.Bars word ∧ use = last ∨ ¬ last.Bars word ∧ IsLatest uses word use := by
  constructor
  · rintro ⟨early, late, split, bars, noLater⟩
    rcases List.eq_nil_or_concat late with rfl | ⟨late, other, rfl⟩
    · obtain ⟨rfl, rfl⟩ : uses = early ∧ last = use := by simpa using List.append_inj' split rfl
      exact Or.inl ⟨bars, rfl⟩
    · rw [List.concat_eq_append, ← List.cons_append, ← List.append_assoc] at split
      obtain ⟨rfl, rfl⟩ : uses = early ++ use :: late ∧ last = other := by
        simpa using List.append_inj' split rfl
      rw [List.concat_eq_append, List.forall_mem_append, List.forall_mem_singleton] at noLater
      exact Or.inr ⟨noLater.2, early, late, rfl, bars, noLater.1⟩
  · rintro (⟨bars, rfl⟩ | ⟨noBar, early, late, rfl, bars, noLater⟩)
    · exact ⟨uses, [], by simp, bars, by simp⟩
    · refine ⟨early, late ++ [last], by simp, bars, ?_⟩
      rw [List.forall_mem_append, List.forall_mem_singleton]
      exact ⟨noLater, noBar⟩

/-- Some use keeps a value from being used exactly if there is a latest one. -/
theorem exists_isLatest_iff {uses : List SetUse} {word : String} :
    (∃ use, IsLatest uses word use) ↔ ∃ use ∈ uses, use.Bars word := by
  constructor
  · rintro ⟨use, early, late, rfl, bars, _⟩
    exact ⟨use, by simp, bars⟩
  · rintro ⟨use, member, bars⟩
    induction uses using List.reverseRecOn with
    | nil => simp at member
    | append_singleton uses last induction =>
        simp only [isLatest_concat_iff]
        by_cases lastBars : last.Bars word
        · exact ⟨last, Or.inl ⟨lastBars, rfl⟩⟩
        · rw [List.mem_append, List.mem_singleton] at member
          rcases member with member | rfl
          · obtain ⟨latest, isLatest⟩ := induction member
            exact ⟨latest, Or.inr ⟨lastBars, isLatest⟩⟩
          · exact absurd bars lastBars

end SetUse

/-- The use that a visit is, with what was found there. -/
def setUse? (table : SymbolTable) (checked : Visit × List Diagnostic) : Option SetUse :=
  (setsOf? table checked.1.node).map (⟨checked.1.node, ·, checked.2⟩)

/-- The uses of sets in a query. -/
def setUses (table : SymbolTable) (query : Node) : List SetUse :=
  (checkEach table .initial (query.visits false)).filterMap (setUse? table)

/-! ## What the state remembers -/

/-- The state knows the latest use that excludes a value. -/
structure Remembers (uses : List SetUse) (state : QueryState) : Prop where
  /-- The latest use that excludes a value is remembered with it. -/
  latest : ∀ {word use}, SetUse.IsLatest uses word use → state.excluder? word = some use.node
  /-- A value that no use excludes is not remembered. -/
  unknown : ∀ {word}, (∀ use ∈ uses, ¬ use.Bars word) → state.excluder? word = none

theorem remembers_initial : Remembers [] .initial where
  latest := by
    rintro word use ⟨early, late, split, _⟩
    simp at split
  unknown := by
    intro word _
    rfl

@[simp]
theorem excluded_noteReference (state : QueryState) (node : Node) :
    (state.noteReference node).excluded = state.excluded := by
  unfold QueryState.noteReference
  split <;> rfl

theorem excluder?_exclude (state : QueryState) (node : Node) (values : List String)
    (word : String) :
    (state.exclude node values).excluder? word =
      if word ∈ values then some node else state.excluder? word := by
  have lookup_map : ∀ values : List String,
      (values.map (·, node)).lookup word = if word ∈ values then some node else none := by
    intro values
    induction values with
    | nil => rfl
    | cons value values induction =>
        by_cases same : word = value
        · simp [same]
        · simp [List.lookup_cons, same, induction, beq_eq_false_iff_ne.mpr same]
  rw [QueryState.excluder?, QueryState.exclude, List.lookup_append, lookup_map]
  by_cases member : word ∈ values <;> simp [member, QueryState.excluder?]

/-! ## Steps -/

/-- What was found at a use, given the uses before it. -/
structure SetUse.IsJudged (before : List SetUse) (use : SetUse) : Prop where
  /-- An excluded value is in conflict with the latest use that excludes it. -/
  excluded : ∀ {earlier}, IsLatest before use.word earlier →
    use.found = [⟨use.node, .conflict earlier.node⟩]
  /-- Any other value is unknown exactly if it is in none of the sets. -/
  free : (∀ earlier ∈ before, ¬ earlier.Bars use.word) →
    use.found =
      if ∃ set ∈ use.sets, use.word ∈ set then [] else [⟨use.value, .unknownValue use.sets⟩]

theorem SetUse.IsJudged.conflicts_iff {before : List SetUse} {use : SetUse}
    (judged : use.IsJudged before) :
    use.Conflicts ↔ ∃ earlier ∈ before, earlier.Bars use.word := by
  constructor
  · intro conflicts
    apply Classical.byContradiction
    intro noBar
    have found_eq := judged.free fun earlier member bars => noBar ⟨earlier, member, bars⟩
    rw [Conflicts, found_eq] at conflicts
    obtain ⟨diagnostic, member, kind_eq⟩ := conflicts
    split at member
    · simp at member
    · obtain rfl := List.mem_singleton.mp member
      simp [Diagnostic.kind, Finding.kind] at kind_eq
  · intro bar
    obtain ⟨earlier, latest⟩ := exists_isLatest_iff.mpr bar
    rw [Conflicts, judged.excluded latest]
    exact ⟨_, List.mem_singleton_self _, rfl⟩

/-- A check of sets is that of the node's value. -/
theorem checkNode_of_setsOf? {table : SymbolTable} {visit : Visit} {sets : ValueSets}
    (state : QueryState) (setsOf : setsOf? table visit.node = some sets) (found : List Diagnostic) :
    ∃ next : QueryState, next.excluded = state.excluded ∧
      checkNode table state visit =
        checkSets sets next visit.node (SetUse.value ⟨visit.node, sets, found⟩) := by
  obtain ⟨node, ofQualifier⟩ := visit
  cases node with
  | qualified span negated qualifier value =>
      refine ⟨state.noteReference value, excluded_noteReference state value, ?_⟩
      simp only [setsOf?] at setsOf
      split at setsOf
      · rename_i resolved
        obtain rfl := Option.some.inj setsOf
        simp [checkNode, checkQualified, resolved, SetUse.value]
      · simp at setsOf
  | _ => simp [setsOf?] at setsOf

/-- A check without sets finds no conflict and excludes nothing. -/
theorem checkNode_of_setsOf?_eq_none {table : SymbolTable} {visit : Visit} (state : QueryState)
    (setsOf : setsOf? table visit.node = none) :
    (checkNode table state visit).2.excluded = state.excluded ∧
      ∀ diagnostic ∈ (checkNode table state visit).1, diagnostic.kind ≠ .mutualExclusion := by
  obtain ⟨node, ofQualifier⟩ := visit
  cases node with
  | qualified span negated qualifier value =>
      simp only [setsOf?] at setsOf
      simp only [checkNode, checkQualified]
      cases resolved : table.qualifierNamed? qualifier.word with
      | none => simp [Diagnostic.kind, Finding.kind]
      | some info =>
          obtain ⟨name, expects⟩ := info
          cases expects with
          | oneOf sets => simp [resolved] at setsOf
          | scalar type =>
              simp only [excluded_noteReference, checkType]
              split <;> simp [Diagnostic.kind, Finding.kind]
  | _ =>
      simp only [checkNode]
      repeat' split
      all_goals simp_all [Diagnostic.kind, Finding.kind]

/-- The state after one more use. -/
theorem Remembers.concat {uses : List SetUse} {use : SetUse} {state next : QueryState}
    (remembers : Remembers uses state)
    (barred : ∀ {word}, use.Bars word → next.excluder? word = some use.node)
    (kept : ∀ {word}, ¬ use.Bars word → next.excluder? word = state.excluder? word) :
    Remembers (uses ++ [use]) next where
  latest := by
    intro word latest isLatest
    rcases SetUse.isLatest_concat_iff.mp isLatest with ⟨bars, rfl⟩ | ⟨noBar, isLatest⟩
    · exact barred bars
    · rw [kept noBar, remembers.latest isLatest]
  unknown := by
    intro word noBar
    rw [List.forall_mem_append, List.forall_mem_singleton] at noBar
    rw [kept noBar.2, remembers.unknown noBar.1]

/-- What is found at a use of sets, and what is remembered behind it. -/
theorem Remembers.checkSets {uses : List SetUse} {state next : QueryState} {use : SetUse}
    (remembers : Remembers uses state)
    (checked : Validation.checkSets use.sets state use.node use.value = (use.found, next)) :
    use.IsJudged uses ∧ Remembers (uses ++ [use]) next := by
  have word_eq : setValue use.value = use.word := rfl
  rw [Validation.checkSets, word_eq] at checked
  cases excluder_eq : state.excluder? use.word with
  | some earlier =>
      rw [excluder_eq] at checked
      obtain ⟨found_eq, rfl⟩ : [⟨use.node, .conflict earlier⟩] = use.found ∧ state = next := by
        simpa using checked
      have conflicts : use.Conflicts := ⟨_, found_eq ▸ List.mem_singleton_self _, rfl⟩
      refine ⟨⟨?_, ?_⟩, remembers.concat (fun bars => absurd conflicts bars.1.1) fun _ => rfl⟩
      · intro latest isLatest
        rw [remembers.latest isLatest] at excluder_eq
        rw [← found_eq, Option.some.inj excluder_eq]
      · intro noBar
        simp [remembers.unknown noBar] at excluder_eq
  | none =>
      have excluded {latest : SetUse} (isLatest : SetUse.IsLatest uses use.word latest) :
          use.found = [⟨use.node, .conflict latest.node⟩] := by
        simp [remembers.latest isLatest] at excluder_eq
      rw [excluder_eq] at checked
      cases set_eq : use.sets.find? (use.word ∈ ·) with
      | some set =>
          rw [set_eq] at checked
          obtain ⟨found_eq, next_eq⟩ : [] = use.found ∧
              state.exclude use.node (set.filter (· ≠ use.word)) = next := by
            simpa using checked
          have clear : use.IsClear := by
            simp [SetUse.IsClear, SetUse.Conflicts, ← found_eq]
          have bars_iff {word : String} :
              use.Bars word ↔ word ∈ set.filter (· ≠ use.word) := by
            simp [SetUse.Bars, SetUse.Excludes, clear, set_eq, and_comm]
          have known : ∃ set ∈ use.sets, use.word ∈ set :=
            ⟨set, List.mem_of_find?_eq_some set_eq, by simpa using List.find?_some set_eq⟩
          refine ⟨⟨excluded, fun _ => by rw [if_pos known, found_eq]⟩, remembers.concat ?_ ?_⟩
          · intro word bars
            rw [← next_eq, excluder?_exclude, if_pos (bars_iff.mp bars)]
          · intro word noBar
            rw [← next_eq, excluder?_exclude, if_neg (noBar ∘ bars_iff.mpr)]
      | none =>
          rw [set_eq] at checked
          obtain ⟨found_eq, rfl⟩ : [⟨use.value, .unknownValue use.sets⟩] = use.found ∧
              state = next := by
            simpa using checked
          have unknown : ¬ ∃ set ∈ use.sets, use.word ∈ set := by
            simpa using set_eq
          refine ⟨⟨excluded, fun _ => by rw [if_neg unknown, found_eq]⟩,
            remembers.concat (fun bars => ?_) fun _ => rfl⟩
          exact absurd rfl (bars.1.2 _ (found_eq ▸ List.mem_singleton_self _) use.sets)

/-! ## Runs -/

/-- A state that has the same excluded values remembers the same uses. -/
theorem Remembers.of_excluded_eq {uses : List SetUse} {state next : QueryState}
    (remembers : Remembers uses state) (excluded_eq : next.excluded = state.excluded) :
    Remembers uses next := by
  have same (word : String) : next.excluder? word = state.excluder? word := by
    rw [QueryState.excluder?, QueryState.excluder?, excluded_eq]
  exact ⟨fun isLatest => (same _).trans (remembers.latest isLatest),
    fun noBar => (same _).trans (remembers.unknown noBar)⟩

/-- Each use of sets among some visits is judged by the uses before it. -/
theorem isJudged_of_checkEach {table : SymbolTable} {state : QueryState} {visits : List Visit}
    {uses before after : List SetUse} {use : SetUse} (remembers : Remembers uses state)
    (split : (checkEach table state visits).filterMap (setUse? table) = before ++ use :: after) :
    use.IsJudged (uses ++ before) := by
  induction visits generalizing state uses before with
  | nil => simp [checkEach] at split
  | cons visit visits induction =>
      obtain ⟨found, next, checked⟩ : ∃ found next, checkNode table state visit = (found, next) :=
        ⟨_, _, rfl⟩
      simp only [checkEach, checked] at split
      cases setsOf : setsOf? table visit.node with
      | none =>
          have keeps := (checkNode_of_setsOf?_eq_none state setsOf).1
          rw [checked] at keeps
          rw [List.filterMap_cons_none (by simp [setUse?, setsOf])] at split
          exact induction (remembers.of_excluded_eq keeps) split
      | some sets =>
          obtain ⟨noted, excluded_eq, sets_checked⟩ :=
            checkNode_of_setsOf? state setsOf found
          rw [checked] at sets_checked
          obtain ⟨judged, remembered⟩ :=
            (remembers.of_excluded_eq excluded_eq).checkSets sets_checked.symm
          have isUse : setUse? table (visit, found) = some ⟨visit.node, sets, found⟩ := by
            simp [setUse?, setsOf]
          rw [List.filterMap_cons_some isUse] at split
          cases before with
          | nil =>
              obtain ⟨rfl, _⟩ := List.cons.inj split
              simpa using judged
          | cons first before =>
              obtain ⟨rfl, others⟩ := List.cons.inj split
              simpa using induction remembered others

/-- A conflict is found at a use of sets only. -/
theorem exists_setUse_of_conflict {table : SymbolTable} {state : QueryState} {visits : List Visit}
    {diagnostic : Diagnostic} (member : diagnostic ∈ checkVisits table state visits)
    (conflict : diagnostic.kind = .mutualExclusion) :
    ∃ use ∈ (checkEach table state visits).filterMap (setUse? table), use.Conflicts := by
  induction visits generalizing state with
  | nil => simp [checkVisits] at member
  | cons visit visits induction =>
      obtain ⟨found, next, checked⟩ : ∃ found next, checkNode table state visit = (found, next) :=
        ⟨_, _, rfl⟩
      simp only [checkVisits, checked, List.mem_append] at member
      simp only [checkEach, checked]
      rcases member with member | member
      · cases setsOf : setsOf? table visit.node with
        | none =>
            have noConflict := (checkNode_of_setsOf?_eq_none state setsOf).2
            rw [checked] at noConflict
            exact absurd conflict (noConflict diagnostic member)
        | some sets =>
            have isUse : setUse? table (visit, found) = some ⟨visit.node, sets, found⟩ := by
              simp [setUse?, setsOf]
            rw [List.filterMap_cons_some isUse]
            exact ⟨_, List.mem_cons_self, diagnostic, member, conflict⟩
      · obtain ⟨use, use_mem, conflicts⟩ := induction member
        refine ⟨use, ?_, conflicts⟩
        rw [List.filterMap_cons]
        split
        · exact use_mem
        · exact List.mem_cons_of_mem _ use_mem

/-- The findings at a use are findings of the query. -/
theorem mem_checkVisits_of_mem_found {table : SymbolTable} {state : QueryState}
    {visits : List Visit} {use : SetUse}
    (use_mem : use ∈ (checkEach table state visits).filterMap (setUse? table))
    {diagnostic : Diagnostic} (member : diagnostic ∈ use.found) :
    diagnostic ∈ checkVisits table state visits := by
  obtain ⟨checked, checked_mem, use_eq⟩ := List.mem_filterMap.mp use_mem
  obtain ⟨sets, _, rfl⟩ := Option.map_eq_some_iff.mp use_eq
  rw [← flatMap_snd_checkEach]
  exact List.mem_flatMap.mpr ⟨checked, checked_mem, member⟩

/-- The uses of sets in a query are its qualified values with sets, in the order of a walk. -/
theorem map_setUses (table : SymbolTable) (query : Node) :
    (setUses table query).map (fun use => (use.node, use.sets)) =
      query.preorder.filterMap fun node => (setsOf? table node).map (node, ·) := by
  rw [setUses, Node.preorder, ← map_fst_checkEach table .initial (query.visits false),
    List.map_map, List.filterMap_map, List.map_filterMap, map_fst_checkEach]
  congr 1
  funext checked
  simp [setUse?, Function.comp_def]

/-- Without a conflict, no use excludes the value of one behind it. -/
theorem not_excludes_of_no_conflict {uses : List SetUse} {before after : List SetUse} {use : SetUse}
    (judged : ∀ before use after, uses = before ++ use :: after → use.IsJudged before)
    (noConflict : ∀ use ∈ uses, ¬ use.Conflicts) (split : uses = before ++ use :: after) :
    ∀ earlier ∈ before, ¬ earlier.Excludes use.word := by
  intro earlier member excludes
  obtain ⟨front, back, rfl⟩ := List.append_of_mem member
  have earlier_split : uses = front ++ earlier :: (back ++ use :: after) := by
    simpa using split
  have earlier_judged := judged _ _ _ earlier_split
  have earlier_free : ∀ first ∈ front, ¬ first.Bars earlier.word := fun first first_mem bars =>
    noConflict earlier (by simp [earlier_split])
      (earlier_judged.conflicts_iff.mpr ⟨first, first_mem, bars⟩)
  -- A use without a conflict that excludes a value has its own value in one of its sets.
  have clear : earlier.IsClear := by
    obtain ⟨_, set, set_eq, _⟩ := excludes
    have known : ∃ set ∈ earlier.sets, earlier.word ∈ set :=
      ⟨set, List.mem_of_find?_eq_some set_eq, by simpa using List.find?_some set_eq⟩
    have found_eq := earlier_judged.free earlier_free
    rw [if_pos known] at found_eq
    simp [SetUse.IsClear, SetUse.Conflicts, found_eq]
  exact noConflict use (by simp [split])
    ((judged _ _ _ split).conflicts_iff.mpr ⟨earlier, member, clear, excludes⟩)

/-- In a query of nodes, a use of sets is in conflict exactly if a use before it without a finding
excludes its value, and then with the latest such use; otherwise its value is unknown exactly if
none of its sets has it.  There is no conflict at all exactly if no use excludes the value of one
behind it. -/
theorem ofQuery_conflicts (table : SymbolTable) {query : Node}
    (nodes : ∀ node ∈ query.preorder, node.kind ≠ .foreign) :
    ∃ diagnostics, ofQuery table query = .ok diagnostics ∧
      diagnostics = (checkEach table .initial (query.visits false)).flatMap (·.2) ∧
      ((setUses table query).map fun use => (use.node, use.sets)) =
        (query.preorder.filterMap fun node => (setsOf? table node).map (node, ·)) ∧
      (∀ before use after, setUses table query = before ++ use :: after →
        (use.Conflicts ↔ ∃ earlier ∈ before, earlier.Bars use.word) ∧ use.IsJudged before) ∧
      ((∀ diagnostic ∈ diagnostics, diagnostic.kind ≠ .mutualExclusion) ↔
        (setUses table query).Pairwise fun earlier later => ¬ earlier.Excludes later.word) := by
  have judged : ∀ before use after, setUses table query = before ++ use :: after →
      use.IsJudged before := by
    intro before use after split
    simpa using isJudged_of_checkEach remembers_initial split
  refine ⟨checkVisits table .initial (query.visits false), ?_, (flatMap_snd_checkEach ..).symm,
    map_setUses table query, ?_, ?_, ?_⟩
  · rw [ofQuery, Node.visits?_walk nodes]
    rfl
  · intro before use after split
    exact ⟨(judged before use after split).conflicts_iff, judged before use after split⟩
  · intro noConflict
    have usesClear : ∀ use ∈ setUses table query, ¬ use.Conflicts := by
      rintro use use_mem ⟨diagnostic, member, conflict⟩
      exact noConflict diagnostic (mem_checkVisits_of_mem_found use_mem member) conflict
    rw [List.pairwise_iff_getElem]
    intro i j _ inside before
    have split : setUses table query = (setUses table query).take j ++
        (setUses table query)[j] :: (setUses table query).drop (j + 1) := by
      simp
    apply not_excludes_of_no_conflict judged usesClear split
    exact List.mem_take_iff_getElem.mpr ⟨i, by omega, rfl⟩
  · intro noneExcluded diagnostic member conflict
    obtain ⟨use, use_mem, conflicts⟩ := exists_setUse_of_conflict member conflict
    obtain ⟨before, after, split⟩ := List.append_of_mem use_mem
    obtain ⟨earlier, earlier_mem, bars⟩ :=
      (judged before use after split).conflicts_iff.mp conflicts
    rw [setUses, split, List.pairwise_append] at noneExcluded
    exact noneExcluded.2.2 earlier earlier_mem use List.mem_cons_self bars.2

/-- Two values of one set, the second of which is in conflict. -/
theorem exists_conflict_of_open_and_closed :
    let table := SymbolTable.ofList [.qualifier ⟨"is", .oneOf [["open", "closed"]]⟩]
    let query : Node := .query ⟨0, 17⟩
      [.qualified ⟨0, 7⟩ false (.literal ⟨0, 2⟩ "is") (.literal ⟨3, 7⟩ "open"),
        .qualified ⟨8, 17⟩ false (.literal ⟨8, 10⟩ "is") (.literal ⟨11, 17⟩ "closed")]
    ∃ diagnostics, ofQuery table query = .ok diagnostics ∧
      ∃ diagnostic ∈ diagnostics, diagnostic.kind = .mutualExclusion := by
  intro table query
  have nodes : ∀ node ∈ query.preorder, node.kind ≠ .foreign := by decide +kernel
  obtain ⟨diagnostics, isOk, _, _, _, noConflict_iff⟩ := ofQuery_conflicts table nodes
  refine ⟨diagnostics, isOk, ?_⟩
  apply Classical.byContradiction
  intro noConflict
  have pairwise := noConflict_iff.mp fun diagnostic member conflict =>
    noConflict ⟨diagnostic, member, conflict⟩
  have uses_eq : (setUses table query).map (fun use => (use.word, use.sets)) =
      [("open", [["open", "closed"]]), ("closed", [["open", "closed"]])] := by decide +kernel
  have mapped : ((setUses table query).map fun use => (use.word, use.sets)).Pairwise
      fun earlier later => ¬ (later.1 ≠ earlier.1 ∧
        ∃ set, earlier.2.find? (earlier.1 ∈ ·) = some set ∧ later.1 ∈ set) :=
    List.pairwise_map.mpr pairwise
  rw [uses_eq] at mapped
  simp at mapped

end SearchQuery.Validation
