import Mathlib.Data.List.Nodup
import Mathlib.Data.List.Perm.Basic
import SearchQuery.Proofs.Symbol.Resemblance

/-!
# Tables that agree

Two tables agree if the same symbols are bound to every name, in the same order.  Nothing that is
read from a table tells tables that agree apart, and they still agree after the same symbols or the
same definitions are added to both.
-/

namespace SearchQuery

namespace SymbolTable

/-! ## Names -/

/-- No name has two buckets. -/
def HasDistinctNames (table : SymbolTable) : Prop := (table.buckets.map (·.1)).Nodup

theorem mem_names_insertSymbol {symbol : Symbol} {buckets : List (String × List Symbol)}
    {name : String} :
    name ∈ (insertSymbol symbol buckets).map (·.1) ↔
      name = symbol.name ∨ name ∈ buckets.map (·.1) := by
  induction buckets with
  | nil => simp [insertSymbol]
  | cons bucket buckets induction =>
      rw [insertSymbol]
      split
      case isTrue same => simp [same]
      case isFalse =>
        rw [List.map_cons, List.map_cons, List.mem_cons, List.mem_cons, induction]
        tauto

theorem hasDistinctNames_empty : empty.HasDistinctNames := List.nodup_nil

namespace HasDistinctNames

variable {table : SymbolTable} (distinct : table.HasDistinctNames)

include distinct

theorem add (symbol : Symbol) : (table.add symbol).HasDistinctNames := by
  obtain ⟨buckets⟩ := table
  rw [HasDistinctNames] at distinct
  rw [HasDistinctNames, SymbolTable.add]
  dsimp only at distinct ⊢
  induction buckets with
  | nil => simp [insertSymbol]
  | cons bucket buckets induction =>
      rw [List.map_cons, List.nodup_cons] at distinct
      rw [insertSymbol]
      split
      case isTrue => exact List.nodup_cons.mpr distinct
      case isFalse other =>
        rw [List.map_cons, List.nodup_cons, mem_names_insertSymbol]
        exact ⟨by simp [other, distinct.1], induction distinct.2⟩

theorem addDefinitions (source : List Char) (number : Nat) (lines : List Node) :
    (table.addDefinitions source number lines).table.HasDistinctNames := by
  fun_induction SymbolTable.addDefinitions source table number lines with
  | case1 => exact distinct
  | case2 => exact distinct
  | case3 table number span name value label lines info info_eq update induction =>
      exact induction (distinct.add _)
  | case4 table number line lines other induction => exact induction distinct

end HasDistinctNames

/-! ## Buckets -/

theorem lookup_cons (bucket : String × List Symbol) (buckets : List (String × List Symbol))
    (name : String) :
    (bucket :: buckets).lookup name =
      if name = bucket.1 then some bucket.2 else buckets.lookup name := by
  obtain ⟨first, symbols⟩ := bucket
  by_cases same : name = first
  · simp [same]
  · simp [same, List.lookup_cons, beq_eq_false_iff_ne.mpr same]

theorem lookup_insertSymbol (symbol : Symbol) (buckets : List (String × List Symbol))
    (name : String) :
    (insertSymbol symbol buckets).lookup name =
      if name = symbol.name then some ((buckets.lookup name).getD [] ++ [symbol])
      else buckets.lookup name := by
  induction buckets with
  | nil => simp [insertSymbol, lookup_cons]
  | cons bucket buckets induction =>
      by_cases same : bucket.1 = symbol.name
      · simp only [insertSymbol, lookup_cons, same]
        by_cases first : name = symbol.name <;> simp [first, lookup_cons]
      · simp only [insertSymbol, if_neg same, lookup_cons, induction]
        by_cases first : name = bucket.1
        · simp [first, same]
        · simp [first]

theorem lookup_eq_none {buckets : List (String × List Symbol)} {name : String}
    (unnamed : name ∉ buckets.map (·.1)) : buckets.lookup name = none := by
  induction buckets with
  | nil => rfl
  | cons bucket buckets induction =>
      rw [List.map_cons, List.mem_cons, not_or] at unnamed
      rw [lookup_cons, if_neg unnamed.1, induction unnamed.2]

/-- What stays bound to a name without variables, if anything does. -/
def qualifiersIn? (symbols : List Symbol) : Option (List Symbol) :=
  if (symbols.filter Symbol.isQualifier).isEmpty then none
  else some (symbols.filter Symbol.isQualifier)

theorem getD_qualifiersIn? (symbols : List Symbol) :
    (qualifiersIn? symbols).getD [] = symbols.filter Symbol.isQualifier := by
  rw [qualifiersIn?]
  split <;> simp_all

/-- The buckets without variables. -/
def dropBuckets (buckets : List (String × List Symbol)) : List (String × List Symbol) :=
  buckets.filterMap fun bucket => (qualifiersIn? bucket.2).map (bucket.1, ·)

theorem dropVariables_eq (table : SymbolTable) :
    table.dropVariables = ⟨dropBuckets table.buckets⟩ := by
  rw [dropVariables, dropBuckets]
  congr 2
  funext bucket
  rw [qualifiersIn?]
  split <;> simp_all

theorem HasDistinctNames.lookup_eq_some_iff {table : SymbolTable}
    (distinct : table.HasDistinctNames) {name : String} {symbols : List Symbol} :
    table.buckets.lookup name = some symbols ↔ (name, symbols) ∈ table.buckets := by
  obtain ⟨buckets⟩ := table
  rw [HasDistinctNames] at distinct
  dsimp only at distinct ⊢
  induction buckets with
  | nil => simp
  | cons bucket buckets induction =>
      rw [List.map_cons, List.nodup_cons] at distinct
      rw [lookup_cons, List.mem_cons]
      split
      case isTrue same =>
        subst same
        have later : (bucket.1, symbols) ∉ buckets := fun member =>
          distinct.1 (List.mem_map.mpr ⟨_, member, rfl⟩)
        simp [later, Prod.ext_iff, eq_comm]
      case isFalse other =>
        rw [induction distinct.2]
        simp [other, Prod.ext_iff]

theorem dropBuckets_cons (bucket : String × List Symbol) (buckets : List (String × List Symbol)) :
    dropBuckets (bucket :: buckets) =
      ((qualifiersIn? bucket.2).map (bucket.1, ·)).toList ++ dropBuckets buckets := by
  cases kept : qualifiersIn? bucket.2 <;> simp [dropBuckets, kept]

theorem HasDistinctNames.dropVariables {table : SymbolTable} (distinct : table.HasDistinctNames) :
    table.dropVariables.HasDistinctNames := by
  rw [HasDistinctNames, dropVariables_eq]
  refine List.Nodup.sublist ?_ distinct
  induction table.buckets with
  | nil => exact List.Sublist.slnil
  | cons bucket buckets induction =>
      rw [dropBuckets_cons, List.map_append, List.map_cons]
      cases qualifiersIn? bucket.2 with
      | none => exact induction.cons _
      | some kept => exact induction.cons_cons _

/-- Without variables, the qualifiers of each name stay bound to it. -/
theorem lookup_dropVariables {table : SymbolTable} (distinct : table.HasDistinctNames)
    (name : String) :
    table.dropVariables.buckets.lookup name = (table.buckets.lookup name).bind qualifiersIn? := by
  obtain ⟨buckets⟩ := table
  rw [HasDistinctNames] at distinct
  rw [dropVariables_eq]
  dsimp only at distinct ⊢
  induction buckets with
  | nil => rfl
  | cons bucket buckets induction =>
      rw [List.map_cons, List.nodup_cons] at distinct
      rw [dropBuckets_cons, lookup_cons]
      cases kept_eq : qualifiersIn? bucket.2 with
      | some kept =>
          simp only [Option.map_some, Option.toList_some, List.singleton_append, lookup_cons,
            induction distinct.2]
          split <;> simp [kept_eq]
      | none =>
          simp only [Option.map_none, Option.toList_none, List.nil_append, induction distinct.2]
          split
          case isTrue same =>
            rw [same, lookup_eq_none distinct.1, Option.bind_none, Option.bind_some, kept_eq]
          case isFalse => rfl

/-- A variable is gone when the variables are dropped. -/
theorem dropVariables_add_variable (table : SymbolTable) (info : Variable) :
    (table.add (.variable info)).dropVariables = table.dropVariables := by
  rw [dropVariables_eq, dropVariables_eq, add]
  congr 1
  induction table.buckets with
  | nil => rfl
  | cons bucket buckets induction =>
      rw [insertSymbol]
      split
      · have kept_eq : qualifiersIn? (bucket.2 ++ [.variable info]) = qualifiersIn? bucket.2 := by
          simp [qualifiersIn?, List.filter_append, Symbol.isQualifier, Symbol.asQualifier?]
        rw [dropBuckets_cons, dropBuckets_cons, kept_eq]
      · rw [dropBuckets_cons, dropBuckets_cons, induction]

/-- Dropping the variables twice is dropping them once. -/
theorem dropVariables_dropVariables (table : SymbolTable) :
    table.dropVariables.dropVariables = table.dropVariables := by
  have kept_again {symbols kept : List Symbol} (kept_eq : qualifiersIn? symbols = some kept) :
      qualifiersIn? kept = some kept := by
    rw [qualifiersIn?] at kept_eq
    split at kept_eq
    · simp at kept_eq
    · obtain rfl := Option.some.inj kept_eq
      rw [qualifiersIn?, List.filter_filter]
      simp_all
  rw [dropVariables_eq, dropVariables_eq]
  congr 1
  dsimp only
  induction table.buckets with
  | nil => rfl
  | cons bucket buckets induction =>
      rw [dropBuckets_cons]
      cases kept_eq : qualifiersIn? bucket.2 with
      | none => exact induction
      | some kept =>
          simp only [Option.map_some, Option.toList_some, List.singleton_append, dropBuckets_cons,
            kept_again kept_eq, induction]

/-- The definitions of a document are gone when the variables are dropped. -/
theorem dropVariables_addDefinitions (source : List Char) (table : SymbolTable) (number : Nat)
    (lines : List Node) :
    (table.addDefinitions source number lines).table.dropVariables = table.dropVariables := by
  fun_induction addDefinitions source table number lines with
  | case1 => rfl
  | case2 => rfl
  | case3 table number span name value label lines info info_eq update induction =>
      exact induction.trans (dropVariables_add_variable table info)
  | case4 table number line lines other induction => exact induction

/-! ## Agreement -/

/-- The same symbols are bound to every name. -/
def Agrees (left right : SymbolTable) : Prop :=
  ∀ name, left.buckets.lookup name = right.buckets.lookup name

namespace Agrees

variable {left right : SymbolTable}

theorem symm (agrees : left.Agrees right) : right.Agrees left := fun name => (agrees name).symm

theorem trans {other : SymbolTable} (first : left.Agrees right) (second : right.Agrees other) :
    left.Agrees other := fun name => (first name).trans (second name)

variable (agrees : left.Agrees right)

include agrees

theorem getAll_eq (name : String) : left.getAll name = right.getAll name := by
  rw [getAll, getAll, agrees name]

theorem get?_eq (name : String) : left.get? name = right.get? name := by
  rw [get?, get?, agrees.getAll_eq]

theorem contains_eq (name : String) : left.contains name = right.contains name := by
  rw [contains, contains, agrees name]

/-- Tables that agree resemble each other. -/
theorem resembles : left.Resembles right :=
  resembles_iff.mpr fun name => by rw [agrees.get?_eq]

theorem add (symbol : Symbol) : (left.add symbol).Agrees (right.add symbol) := by
  intro name
  rw [SymbolTable.add, SymbolTable.add, lookup_insertSymbol, lookup_insertSymbol, agrees name]

theorem define_eq (source : List Char) (site : DefinitionSite) (name value : Node) :
    left.define source site name value = right.define source site name value := by
  rw [define, define, agrees.resembles.valueOf?_eq, agrees.resembles.typeOf_eq]

/-- Tables that agree still agree behind the same definitions. -/
theorem addDefinitions (source : List Char) (number : Nat) (lines : List Node) :
    (left.addDefinitions source number lines).table.Agrees
      (right.addDefinitions source number lines).table := by
  induction lines generalizing left right number with
  | nil => exact agrees
  | cons line lines induction =>
      cases line with
      | definition span name value label =>
          rw [SymbolTable.addDefinitions, SymbolTable.addDefinitions, agrees.define_eq]
          split
          · exact agrees
          · exact induction (agrees.add _) _
      | _ => exact induction agrees _

/-- Tables that agree have as many symbols, if no name has two buckets. -/
theorem size_eq (left_distinct : left.HasDistinctNames) (right_distinct : right.HasDistinctNames) :
    left.size = right.size := by
  have perm : left.buckets.Perm right.buckets := by
    rw [List.perm_ext_iff_of_nodup (List.Nodup.of_map _ left_distinct)
      (List.Nodup.of_map _ right_distinct)]
    rintro ⟨name, symbols⟩
    rw [← left_distinct.lookup_eq_some_iff, ← right_distinct.lookup_eq_some_iff, agrees name]
  rw [size, size, symbols, symbols]
  exact (perm.flatMap_right _).length_eq

end Agrees

end SymbolTable

end SearchQuery
