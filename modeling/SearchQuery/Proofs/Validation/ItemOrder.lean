import SearchQuery.Catalog.Packaged
import SearchQuery.Proofs.Validation.References

/-!
# The order of the items of a query

Nothing is wrong with a query exactly if nothing is found at any of its nodes by itself and no use
of sets excludes the value of one behind it.  If the sets of a table are apart, two uses of known
values exclude each other or neither excludes the other, so that the order of the items is of no
consequence.
-/

namespace SearchQuery

namespace SymbolTable

/-- The sets of values of all qualifiers. -/
def valueSets (table : SymbolTable) : ValueSets :=
  table.symbols.flatMap fun symbol =>
    match symbol with
    | .qualifier ⟨_, .oneOf sets⟩ => sets
    | _ => []

/-- Two sets of values have the same values or none in common. -/
def HasApartSets (table : SymbolTable) : Prop :=
  ∀ left ∈ table.valueSets, ∀ right ∈ table.valueSets,
    left ⊆ right ∧ right ⊆ left ∨ ∀ value ∈ left, value ∉ right

instance (table : SymbolTable) : Decidable table.HasApartSets :=
  inferInstanceAs (Decidable (∀ left ∈ table.valueSets, ∀ right ∈ table.valueSets,
    left ⊆ right ∧ right ⊆ left ∨ ∀ value ∈ left, value ∉ right))

theorem mem_symbols_of_get?_eq_some {table : SymbolTable} {name : String} {symbol : Symbol}
    (found : table.get? name = some symbol) : symbol ∈ table.symbols := by
  rw [get?, getAll] at found
  cases bucket_eq : table.buckets.lookup name with
  | none => simp [bucket_eq] at found
  | some bucket =>
      rw [bucket_eq, Option.getD_some] at found
      obtain ⟨front, back, buckets_eq, _⟩ := List.lookup_eq_some_iff.mp bucket_eq
      exact List.mem_flatMap.mpr ⟨(name, bucket), by simp [buckets_eq], List.mem_of_head? found⟩

end SymbolTable

namespace Validation

theorem mem_valueSets_of_setsOf? {table : SymbolTable} {node : Node} {sets : ValueSets}
    (setsOf : setsOf? table node = some sets) : ∀ set ∈ sets, set ∈ table.valueSets := by
  intro set set_mem
  unfold setsOf? at setsOf
  split at setsOf
  case h_2 => simp at setsOf
  case h_1 qualifier _ =>
    split at setsOf
    case h_2 => simp at setsOf
    case h_1 name sets found =>
      obtain rfl := Option.some.inj setsOf
      obtain ⟨symbol, get_eq, symbol_eq⟩ := Option.bind_eq_some_iff.mp found
      refine List.mem_flatMap.mpr ⟨symbol, SymbolTable.mem_symbols_of_get?_eq_some get_eq, ?_⟩
      cases symbol with
      | qualifier info =>
          obtain rfl := Option.some.inj symbol_eq
          exact set_mem
      | «variable» info => simp [Symbol.asQualifier?] at symbol_eq

/-- The use of sets that a visit is, whatever is found there. -/
def useOf? (table : SymbolTable) (visit : Visit) : Option SetUse :=
  (setsOf? table visit.node).map (⟨visit.node, ·, []⟩)

/-- The value of the use is in one of its sets. -/
def SetUse.IsKnown (use : SetUse) : Prop := ∃ set ∈ use.sets, use.word ∈ set

theorem SetUse.exists_find?_of_isKnown {use : SetUse} (known : use.IsKnown) :
    ∃ set, use.sets.find? (use.word ∈ ·) = some set ∧ set ∈ use.sets ∧ use.word ∈ set := by
  obtain ⟨set, set_eq⟩ : ∃ set, use.sets.find? (use.word ∈ ·) = some set := by
    rw [← Option.isSome_iff_exists, List.find?_isSome]
    simpa [SetUse.IsKnown] using known
  exact ⟨set, set_eq, List.mem_of_find?_eq_some set_eq, by simpa using List.find?_some set_eq⟩

/-- Neither of two uses excludes the value of the other. -/
def SetUse.Compatible (left right : SetUse) : Prop :=
  ¬ left.Excludes right.word ∧ ¬ right.Excludes left.word

/-! ## Steps without findings -/

theorem excluder?_eq_of_excluded_eq {state next : QueryState}
    (excluded_eq : next.excluded = state.excluded) (word : String) :
    next.excluder? word = state.excluder? word := by
  rw [QueryState.excluder?, QueryState.excluder?, excluded_eq]

/-- Nothing is found at a use whose value is not excluded and in one of its sets. -/
theorem checkSets_eq_nil_iff (use : SetUse) (state : QueryState) :
    (checkSets use.sets state use.node use.value).1 = [] ↔
      state.excluder? use.word = none ∧ use.IsKnown := by
  have word_eq : setValue use.value = use.word := rfl
  rw [checkSets, word_eq]
  cases state.excluder? use.word with
  | some earlier => simp
  | none =>
      cases set_eq : use.sets.find? (use.word ∈ ·) with
      | some set =>
          have known : use.IsKnown :=
            ⟨set, List.mem_of_find?_eq_some set_eq, by simpa using List.find?_some set_eq⟩
          simp [known]
      | none =>
          have unknown : ¬ use.IsKnown := by simpa [SetUse.IsKnown] using set_eq
          simp [unknown]

/-- Behind such a use more values are excluded, those that it excludes. -/
theorem excluder?_checkSets_eq_none_iff {use : SetUse} {state : QueryState}
    (free : state.excluder? use.word = none) (known : use.IsKnown) (word : String) :
    (checkSets use.sets state use.node use.value).2.excluder? word = none ↔
      state.excluder? word = none ∧ ¬ use.Excludes word := by
  have word_eq : setValue use.value = use.word := rfl
  obtain ⟨set, set_eq, _, _⟩ := use.exists_find?_of_isKnown known
  have excludes_iff : use.Excludes word ↔ word ∈ set.filter (· ≠ use.word) := by
    simp [SetUse.Excludes, set_eq, and_comm]
  rw [checkSets, word_eq, free, set_eq, excludes_iff]
  by_cases member : word ∈ set.filter (· ≠ use.word) <;> simp only [excluder?_exclude, member] <;>
    simp

/-- What is found at a node without sets does not depend on the nodes before it, unless it is a
variable that is spared. -/
theorem found_checkNode_eq {table : SymbolTable} {visit : Visit} {state : QueryState}
    (setsOf : setsOf? table visit.node = none)
    (unasked : ∀ label, askedLabel? visit = some label → label ∉ state.references) :
    (checkNode table state visit).1 = (checkNode table .initial visit).1 := by
  obtain ⟨node, ofQualifier⟩ := visit
  cases node with
  | qualified span negated qualifier value =>
      simp only [setsOf?] at setsOf
      simp only [checkNode, checkQualified]
      cases resolved : table.qualifierNamed? qualifier.word with
      | none => rfl
      | some info =>
          obtain ⟨name, expects⟩ := info
          cases expects with
          | oneOf sets => simp [resolved] at setsOf
          | scalar type => rfl
  | «variable» span name label =>
      have same : isReference state ⟨.variable span name label, ofQualifier⟩ label =
          isReference .initial ⟨.variable span name label, ofQualifier⟩ label := by
        cases ofQualifier with
        | true => rfl
        | false =>
            cases label with
            | none => rfl
            | some label =>
                have := unasked label rfl
                simp [isReference, QueryState.initial, this]
      simp only [checkNode, same]
      split <;> rfl
  | _ =>
      simp only [checkNode]
      repeat' split
      all_goals simp_all

/-- What is found at a use of sets, and what is excluded behind it if nothing is found. -/
theorem checkNode_of_useOf? {table : SymbolTable} {visit : Visit} {use : SetUse}
    (isUse : useOf? table visit = some use) (state : QueryState) :
    ((checkNode table state visit).1 = [] ↔ state.excluder? use.word = none ∧ use.IsKnown) ∧
      ((checkNode table state visit).1 = [] → ∀ word,
        ((checkNode table state visit).2.excluder? word = none ↔
          state.excluder? word = none ∧ ¬ use.Excludes word)) := by
  obtain ⟨sets, setsOf, rfl⟩ := Option.map_eq_some_iff.mp isUse
  obtain ⟨noted, excluded_eq, checked⟩ := checkNode_of_setsOf? state setsOf []
  have same := excluder?_eq_of_excluded_eq excluded_eq
  have nothing_iff := checkSets_eq_nil_iff ⟨visit.node, sets, []⟩ noted
  rw [checked, ← same]
  refine ⟨nothing_iff, fun nothing word => ?_⟩
  obtain ⟨free, known⟩ := nothing_iff.mp nothing
  rw [← same]
  exact excluder?_checkSets_eq_none_iff free known word

/-- Nothing is found at a use by itself exactly if its value is known. -/
theorem checkNode_initial_of_useOf? {table : SymbolTable} {visit : Visit} {use : SetUse}
    (isUse : useOf? table visit = some use) :
    (checkNode table .initial visit).1 = [] ↔ use.IsKnown :=
  (checkNode_of_useOf? isUse .initial).1.trans (and_iff_right rfl)

theorem checkVisits_cons (table : SymbolTable) (state : QueryState) (visit : Visit)
    (visits : List Visit) :
    checkVisits table state (visit :: visits) =
      (checkNode table state visit).1 ++ checkVisits table (checkNode table state visit).2 visits :=
  rfl

/-- Nothing is found at some visits exactly if nothing is found at any of them by itself, no value
was excluded before, and no use excludes the value of one behind it. -/
theorem checkVisits_eq_nil_iff {table : SymbolTable} {state : QueryState} {visits : List Visit}
    (spares : SparesNone state visits) :
    checkVisits table state visits = [] ↔
      (∀ visit ∈ visits, (checkNode table .initial visit).1 = []) ∧
      (∀ use ∈ visits.filterMap (useOf? table), state.excluder? use.word = none) ∧
      (visits.filterMap (useOf? table)).Pairwise fun earlier later =>
        ¬ earlier.Excludes later.word := by
  induction visits generalizing state with
  | nil => simp [checkVisits]
  | cons visit visits induction =>
      rw [checkVisits_cons, List.append_eq_nil_iff, induction spares.next, List.forall_mem_cons]
      cases setsOf : setsOf? table visit.node with
      | none =>
          have found_eq := found_checkNode_eq setsOf fun label asked =>
            (spares visit List.mem_cons_self label asked).1
          have excluded_eq := (checkNode_of_setsOf?_eq_none state setsOf).1
          rw [found_eq, List.filterMap_cons_none (by simp [useOf?, setsOf])]
          simp only [excluder?_eq_of_excluded_eq excluded_eq, and_assoc]
      | some sets =>
          have isUse : useOf? table visit = some ⟨visit.node, sets, []⟩ := by
            simp [useOf?, setsOf]
          obtain ⟨found_iff, next_iff⟩ := checkNode_of_useOf? isUse state
          rw [List.filterMap_cons_some isUse, List.forall_mem_cons, List.pairwise_cons,
            checkNode_initial_of_useOf? isUse]
          constructor
          · rintro ⟨nothing, others, free, apart⟩
            obtain ⟨unexcluded, known⟩ := found_iff.mp nothing
            simp only [next_iff nothing] at free
            exact ⟨⟨known, others⟩, ⟨unexcluded, fun use member => (free use member).1⟩,
              fun use member => (free use member).2, apart⟩
          · rintro ⟨⟨known, others⟩, ⟨unexcluded, free⟩, unbarred, apart⟩
            have nothing := found_iff.mpr ⟨unexcluded, known⟩
            refine ⟨nothing, others, fun use member => ?_, apart⟩
            exact (next_iff nothing _).mpr ⟨free use member, unbarred use member⟩

/-! ## Any order -/

/-- Nothing is wrong with a query exactly if its nodes are nodes, nothing is found at any of them
by itself, and no use excludes the value of one behind it. -/
theorem ofQuery_eq_nil_iff {table : SymbolTable} {query : Node}
    (distinct : query.HasDistinctNodes) :
    ofQuery table query = .ok [] ↔
      (∀ node ∈ query.preorder, node.kind ≠ .foreign) ∧
      (∀ visit ∈ query.visits false, (checkNode table .initial visit).1 = []) ∧
      ((query.visits false).filterMap (useOf? table)).Pairwise fun earlier later =>
        ¬ earlier.Excludes later.word := by
  have free : ∀ use ∈ (query.visits false).filterMap (useOf? table),
      QueryState.initial.excluder? use.word = none := fun use _ => rfl
  by_cases nodes : ∀ node ∈ query.preorder, node.kind ≠ .foreign
  · rw [ofQuery, Node.visits?_walk nodes]
    change Except.ok _ = Except.ok _ ↔ _
    rw [Except.ok.injEq, checkVisits_eq_nil_iff (sparesNone_initial distinct), and_iff_right free,
      and_iff_right nodes]
  · obtain ⟨fault, fault_eq⟩ := Node.exists_fault_of_foreign (by simpa using nodes)
    rw [ofQuery, fault_eq]
    change Except.error fault = Except.ok _ ↔ _
    simp [nodes]

/-- Where sets are apart, a use is excluded by those uses only that it excludes. -/
theorem SetUse.Excludes.symm {table : SymbolTable} (apart : table.HasApartSets)
    {left right : SetUse} (left_sets : ∀ set ∈ left.sets, set ∈ table.valueSets)
    (right_sets : ∀ set ∈ right.sets, set ∈ table.valueSets) (known : right.IsKnown)
    (excludes : left.Excludes right.word) : right.Excludes left.word := by
  obtain ⟨different, set, set_eq, member⟩ := excludes
  obtain ⟨other, other_eq, other_mem, right_mem⟩ := exists_find?_of_isKnown known
  have set_mem : set ∈ left.sets := List.mem_of_find?_eq_some set_eq
  have left_mem : left.word ∈ set := by simpa using List.find?_some set_eq
  refine ⟨different.symm, other, other_eq, ?_⟩
  rcases apart set (left_sets set set_mem) other (right_sets other other_mem) with
    ⟨inside, _⟩ | disjoint
  · exact inside left_mem
  · exact absurd right_mem (disjoint right.word member)

/-- Known uses of apart sets exclude each other in one order exactly if they do in any. -/
theorem pairwise_not_excludes_perm {table : SymbolTable} (apart : table.HasApartSets)
    {uses uses' : List SetUse} (perm : uses.Perm uses')
    (known : ∀ use ∈ uses, use.IsKnown ∧ ∀ set ∈ use.sets, set ∈ table.valueSets) :
    (uses.Pairwise fun earlier later => ¬ earlier.Excludes later.word) ↔
      uses'.Pairwise fun earlier later => ¬ earlier.Excludes later.word := by
  have both {list : List SetUse} (subset : list ⊆ uses) :
      (list.Pairwise fun earlier later => ¬ earlier.Excludes later.word) ↔
        list.Pairwise SetUse.Compatible := by
    apply List.Pairwise.iff_of_mem
    intro left right left_mem right_mem
    obtain ⟨left_known, left_sets⟩ := known left (subset left_mem)
    obtain ⟨right_known, right_sets⟩ := known right (subset right_mem)
    exact ⟨fun unbarred => ⟨unbarred, fun excludes =>
      unbarred (excludes.symm apart right_sets left_sets left_known)⟩, And.left⟩
  rw [both (List.Subset.refl uses), both perm.symm.subset]
  exact perm.pairwise_iff And.symm

/-- Where nothing is found at any visit by itself, the values of all uses are known. -/
theorem isKnown_of_settled {table : SymbolTable} {visits : List Visit}
    (settled : ∀ visit ∈ visits, (checkNode table .initial visit).1 = []) :
    ∀ use ∈ visits.filterMap (useOf? table),
      use.IsKnown ∧ ∀ set ∈ use.sets, set ∈ table.valueSets := by
  intro use member
  obtain ⟨visit, visit_mem, isUse⟩ := List.mem_filterMap.mp member
  refine ⟨(checkNode_initial_of_useOf? isUse).mp (settled visit visit_mem), ?_⟩
  obtain ⟨sets, setsOf, rfl⟩ := Option.map_eq_some_iff.mp isUse
  exact mem_valueSets_of_setsOf? setsOf

theorem visits_query (span : Span) (items : List Node) :
    (Node.query span items).visits false =
      ⟨.query span items, false⟩ :: items.flatMap (Node.visits false) := by
  rw [Node.visits_eq, Node.parts, List.flatMap_map]

/-- The verdict on a query does not depend on the order of its items. -/
theorem ofQuery_eq_nil_iff_of_perm {table : SymbolTable} (apart : table.HasApartSets) {span : Span}
    {items items' : List Node} (distinct : (Node.query span items).HasDistinctNodes)
    (perm : items.Perm items') :
    ofQuery table (.query span items) = .ok [] ↔ ofQuery table (.query span items') = .ok [] := by
  have visits_perm :
      (items.flatMap (Node.visits false)).Perm (items'.flatMap (Node.visits false)) :=
    perm.flatMap_right _
  have distinct' : (Node.query span items').HasDistinctNodes := by
    rw [Node.HasDistinctNodes, Node.preorder, visits_query] at distinct ⊢
    exact ((visits_perm.map _).filterMap _).nodup_iff.mp distinct
  rw [ofQuery_eq_nil_iff distinct, ofQuery_eq_nil_iff distinct', Node.forall_mem_preorder_iff,
    Node.forall_mem_preorder_iff, Node.partNodes_query, Node.partNodes_query, visits_query,
    visits_query, List.forall_mem_cons, List.forall_mem_cons, List.filterMap_cons_none rfl,
    List.filterMap_cons_none rfl]
  have uses_perm := visits_perm.filterMap (useOf? table)
  have head_ok (items : List Node) :
      (checkNode table .initial ⟨.query span items, false⟩).1 = [] := rfl
  simp only [head_ok, true_and, perm.mem_iff, visits_perm.mem_iff]
  refine and_congr_right fun _ => and_congr_right fun settled => ?_
  exact (pairwise_not_excludes_perm apart uses_perm.symm (isKnown_of_settled settled)).symm

/-- The packaged sets are apart.  Here two qualifiers share a set, and a variable stands between
them. -/
theorem ofQuery_of_swapped_items :
    let table := (Catalog.table Catalog.packaged).add (.variable ⟨"$v", .text, "x", none⟩)
    let items : List Node :=
      [.qualified ⟨0, 7⟩ false (.literal ⟨0, 2⟩ "is") (.literal ⟨3, 7⟩ "open"),
        .variable ⟨8, 10⟩ "$v" (some 1),
        .qualified ⟨11, 18⟩ false (.literal ⟨11, 15⟩ "type") (.literal ⟨16, 18⟩ "pr")]
    table.HasApartSets ∧ (Node.query ⟨0, 18⟩ items).HasDistinctNodes ∧
      items.Perm items.reverse ∧ ofQuery table (.query ⟨0, 18⟩ items.reverse) = .ok [] := by
  intro table items
  have apart : table.HasApartSets := by decide +kernel
  have distinct : (Node.query ⟨0, 18⟩ items).HasDistinctNodes := by decide +kernel
  have perm : items.Perm items.reverse := items.reverse_perm.symm
  refine ⟨apart, distinct, perm, (ofQuery_eq_nil_iff_of_perm apart distinct perm).mp ?_⟩
  rw [ofQuery, Node.visits?_walk (by decide +kernel)]
  exact congrArg Except.ok (List.isEmpty_iff.mp (by decide +kernel))

end Validation

end SearchQuery
