import SearchQuery.Proofs.Document.Rejection
import SearchQuery.Proofs.Document.Totality
import SearchQuery.Proofs.Symbol.Moved

/-!
# Names left to variables

The names that a text defines begin with a dollar sign.  Where no qualifier is bound to such names,
a name stands for a variable behind a text exactly if some line of the text defines it, in whatever
line the name is asked for.
-/

namespace SearchQuery

namespace SymbolTable

/-- No qualifier is bound to the name. -/
def LeavesFree (table : SymbolTable) (name : String) : Prop :=
  ∀ bucket ∈ table.buckets, bucket.1 = name → ∀ symbol ∈ bucket.2, symbol.isQualifier = false

instance (table : SymbolTable) (name : String) : Decidable (table.LeavesFree name) :=
  inferInstanceAs (Decidable (∀ bucket ∈ table.buckets, bucket.1 = name →
    ∀ symbol ∈ bucket.2, symbol.isQualifier = false))

/-- No qualifier is bound to a name that begins with a dollar sign. -/
def LeavesVariables (table : SymbolTable) : Prop :=
  ∀ bucket ∈ table.buckets, bucket.1.toList.head? = some '$' →
    ∀ symbol ∈ bucket.2, symbol.isQualifier = false

instance (table : SymbolTable) : Decidable table.LeavesVariables :=
  inferInstanceAs (Decidable (∀ bucket ∈ table.buckets, bucket.1.toList.head? = some '$' →
    ∀ symbol ∈ bucket.2, symbol.isQualifier = false))

theorem LeavesVariables.leavesFree {table : SymbolTable} (leaves : table.LeavesVariables)
    {name : String} (dollar : name.toList.head? = some '$') : table.LeavesFree name := by
  intro bucket bucket_mem name_eq
  exact leaves bucket bucket_mem (name_eq ▸ dollar)

/-- A name without qualifiers stands for nothing when all variables are dropped. -/
theorem LeavesFree.get?_dropVariables {table : SymbolTable} {name : String}
    (free : table.LeavesFree name) : table.dropVariables.get? name = none := by
  have unbound : table.dropVariables.buckets.lookup name = none := by
    apply lookup_eq_none
    intro member
    obtain ⟨bucket, kept_mem, name_eq⟩ := List.mem_map.mp member
    obtain ⟨whole, whole_mem, kept⟩ := List.mem_filterMap.mp kept_mem
    dsimp only at kept
    split at kept
    case isTrue => cases kept
    case isFalse some_kept =>
      obtain rfl := Option.some.inj kept
      refine some_kept (List.isEmpty_iff.mpr (List.filter_eq_nil_iff.mpr ?_))
      intro symbol symbol_mem
      simp [free whole whole_mem name_eq symbol symbol_mem]
  rw [get?, getAll, unbound]
  rfl

/-- A name without qualifiers stands for no variable behind some lines exactly if none of them
defines it. -/
theorem LeavesFree.variableNamed?_addDefinitions_eq_none_iff {table : SymbolTable} {name : String}
    (free : table.LeavesFree name) {source : List Char} {number : Nat} {lines : List Node}
    (complete : (table.dropVariables.addDefinitions source number lines).fault = none) :
    (table.dropVariables.addDefinitions source number lines).table.variableNamed? name = none ↔
      name ∉ Node.definedNames lines := by
  constructor
  · intro unnamed defined
    obtain ⟨symbol, bound⟩ := exists_get?_addDefinitions complete defined
    rw [variableNamed?, bound, Option.bind_some] at unnamed
    rw [table_addDefinitions, get?_addAll, free.get?_dropVariables, Option.none_or] at bound
    obtain ⟨info, _, rfl⟩ := List.mem_map.mp (List.mem_of_find?_eq_some bound)
    cases unnamed
  · intro undefined
    rw [variableNamed?, get?_addDefinitions_of_not_mem complete undefined]
    exact variableNamed?_dropVariables table name

end SymbolTable

/-! ## The names that a text defines -/

/-- The name that a line defines begins with a dollar sign. -/
theorem SourceLine.head?_of_definedName? {line : SourceLine} {name : String}
    (defines : line.node.definedName? = some name) : name.toList.head? = some '$' := by
  rcases Line.line.misses_or_finds ⟨0, line.content⟩ with misses | ⟨node, next, finds⟩
  · obtain ⟨_, node_eq⟩ := node_of_misses misses rfl
    rw [node_eq] at defines
    cases defines
  · rw [node_of_finds finds, Node.definedName?_shift] at defines
    obtain ⟨back, found | ⟨_, found⟩, _⟩ := Line.finds_line_iff.mp finds
    · obtain ⟨lexeme, front, name_found, _, _, _, _, _, rfl⟩ :=
        Line.finds_definition_iff.mp found
      obtain ⟨first, run, chars_eq, _⟩ :=
        Line.takeVariable?_eq_some ((Line.Reader.finds_token_iff ..).mp name_found).1
      obtain rfl := Option.some.inj defines
      rw [Node.word, Node.word?, Option.getD_some, Line.Lexeme.text, String.toList_ofList,
        show lexeme.chars = _ from chars_eq, List.head?_cons]
    · obtain ⟨first, others, _, rfl⟩ := Line.finds_query_iff.mp found
      cases defines

theorem Document.head?_of_mem_definedNames {text name : String}
    (member : name ∈ Node.definedNames (ofText text).lines) : name.toList.head? = some '$' := by
  obtain ⟨node, node_mem, defines⟩ := List.mem_filterMap.mp member
  obtain ⟨line, _, rfl⟩ := List.mem_map.mp node_mem
  exact SourceLine.head?_of_definedName? defines

/-- In a table that leaves the names with a dollar sign to variables, a name stands for no variable
behind a text exactly if no line of the text defines it. -/
theorem SymbolTable.variableNamed?_load_eq_none_iff {table : SymbolTable}
    (leaves : table.LeavesVariables) (text name : String) :
    (table.load text).2.variableNamed? name = none ↔
      ∀ line ∈ (table.load text).1.lines, line.definedName? ≠ some name := by
  have complete := SymbolTable.fault_update_ofText table text
  have undefined_iff : name ∉ Node.definedNames (table.load text).1.lines ↔
      ∀ line ∈ (table.load text).1.lines, line.definedName? ≠ some name := by
    simp [Node.definedNames]
  rw [← undefined_iff]
  by_cases dollar : name.toList.head? = some '$'
  · exact (leaves.leavesFree dollar).variableNamed?_addDefinitions_eq_none_iff complete
  · have undefined : name ∉ Node.definedNames (table.load text).1.lines :=
      fun defined => dollar (Document.head?_of_mem_definedNames defined)
    refine iff_of_true ?_ undefined
    rw [load, variableNamed?, update, get?_addDefinitions_of_not_mem complete undefined]
    exact variableNamed?_dropVariables table name

end SearchQuery
