import SearchQuery.Proofs.Document.Totality
import SearchQuery.Proofs.Symbol.Agreement

/-!
# Histories of tables

A table that has been in use, with symbols added and texts loaded in any order, keeps nothing that
shows once another text is loaded, but for the qualifiers that were added: they are bound as in a
new table to which they are added in the same order.
-/

namespace SearchQuery

namespace SymbolTable

/-- What is done to a table. -/
inductive Operation where
  /-- A symbol is added. -/
  | add (symbol : Symbol)
  /-- A text is loaded. -/
  | load (text : String)
  deriving DecidableEq, Repr

namespace Operation

/-- The table behind an operation. -/
def apply (table : SymbolTable) : Operation → SymbolTable
  | .add symbol => table.add symbol
  | .load text => (table.load text).2

/-- The qualifier that an operation adds. -/
def qualifier? : Operation → Option Symbol
  | .add (.qualifier info) => some (.qualifier info)
  | _ => none

end Operation

/-- The table to which some operations lead. -/
def history (operations : List Operation) : SymbolTable := operations.foldl Operation.apply empty

/-- The table of the qualifiers among what operations add. -/
def ofQualifiers (operations : List Operation) : SymbolTable :=
  ofList (operations.filterMap Operation.qualifier?)

@[simp]
theorem dropVariables_load (table : SymbolTable) (text : String) :
    (table.load text).2.dropVariables = table.dropVariables := by
  rw [load, update, dropVariables_addDefinitions, dropVariables_dropVariables]

/-- A text that is loaded once more changes nothing. -/
theorem load_load (table : SymbolTable) (text : String) :
    (table.load text).2.load text = table.load text := by
  rw [load, update, dropVariables_load]
  rfl

/-! ## One operation -/

theorem HasDistinctNames.load {table : SymbolTable} (distinct : table.HasDistinctNames)
    (text : String) : (table.load text).2.HasDistinctNames :=
  distinct.dropVariables.addDefinitions _ _ _

theorem HasDistinctNames.apply {table : SymbolTable} (distinct : table.HasDistinctNames)
    (operation : Operation) : (operation.apply table).HasDistinctNames := by
  cases operation with
  | add symbol => exact distinct.add symbol
  | load text => exact distinct.load text

/-- Whether a qualifier is added before the variables are dropped or behind, it is bound behind the
same symbols. -/
theorem agrees_dropVariables_add_qualifier {table : SymbolTable} (distinct : table.HasDistinctNames)
    (info : Qualifier) :
    (table.add (.qualifier info)).dropVariables.Agrees
      (table.dropVariables.add (.qualifier info)) := by
  intro name
  rw [lookup_dropVariables (distinct.add _), add, add, lookup_insertSymbol, lookup_insertSymbol,
    lookup_dropVariables distinct]
  split
  case isFalse => rfl
  case isTrue =>
    cases table.buckets.lookup name with
    | none => simp [qualifiersIn?, Symbol.isQualifier, Symbol.asQualifier?]
    | some symbols =>
        rw [Option.bind_some, Option.bind_some, Option.getD_some, getD_qualifiersIn?]
        simp [qualifiersIn?, Symbol.isQualifier, Symbol.asQualifier?]

theorem Agrees.dropVariables_apply {used fresh : SymbolTable}
    (used_distinct : used.HasDistinctNames) (fresh_distinct : fresh.HasDistinctNames)
    (agrees : used.dropVariables.Agrees fresh.dropVariables) (operation : Operation) :
    (operation.apply used).dropVariables.Agrees
      (operation.qualifier?.elim fresh fresh.add).dropVariables := by
  cases operation with
  | load text =>
      rw [Operation.apply, dropVariables_load]
      exact agrees
  | add symbol =>
      cases symbol with
      | «variable» info =>
          rw [Operation.apply, dropVariables_add_variable]
          exact agrees
      | qualifier info =>
          exact (agrees_dropVariables_add_qualifier used_distinct info).trans
            ((agrees.add _).trans (agrees_dropVariables_add_qualifier fresh_distinct info).symm)

/-! ## Histories -/

theorem hasDistinctNames_history (operations : List Operation) :
    (history operations).HasDistinctNames := by
  rw [history]
  induction operations using List.reverseRecOn with
  | nil => exact hasDistinctNames_empty
  | append_singleton operations operation induction =>
      rw [List.foldl_concat]
      exact induction.apply operation

theorem hasDistinctNames_ofList (symbols : List Symbol) : (ofList symbols).HasDistinctNames := by
  rw [ofList]
  induction symbols using List.reverseRecOn with
  | nil => exact hasDistinctNames_empty
  | append_singleton symbols symbol induction =>
      rw [List.foldl_concat]
      exact induction.add symbol

theorem ofQualifiers_concat (operations : List Operation) (operation : Operation) :
    ofQualifiers (operations ++ [operation]) =
      operation.qualifier?.elim (ofQualifiers operations) (ofQualifiers operations).add := by
  cases added : operation.qualifier? <;>
    simp [ofQualifiers, ofList, List.filterMap_append, added]

/-- But for variables, only the qualifiers that were added are left of a history. -/
theorem agrees_dropVariables_history (operations : List Operation) :
    (history operations).dropVariables.Agrees (ofQualifiers operations).dropVariables := by
  induction operations using List.reverseRecOn with
  | nil => exact fun _ => rfl
  | append_singleton operations operation induction =>
      rw [history, List.foldl_concat, ofQualifiers_concat]
      exact Agrees.dropVariables_apply (hasDistinctNames_history operations)
        (hasDistinctNames_ofList _) induction operation

/-- Two documents, with the tables they were loaded into, look the same. -/
structure LookSame (left right : Document × SymbolTable) : Prop where
  /-- The documents are the same. -/
  document_eq : left.1 = right.1
  /-- The same symbols are bound to each name. -/
  getAll_eq : ∀ name, left.2.getAll name = right.2.getAll name
  /-- Each name stands for the same symbol. -/
  get?_eq : ∀ name, left.2.get? name = right.2.get? name
  /-- The same names are bound. -/
  contains_eq : ∀ name, left.2.contains name = right.2.contains name
  /-- There are as many symbols. -/
  size_eq : left.2.size = right.2.size
  /-- The documents can be validated, and the same is wrong with them. -/
  diagnostics_eq : ∃ diagnostics, Validation.ofDocument left.2 left.1 = .ok diagnostics ∧
    Validation.ofDocument right.2 right.1 = .ok diagnostics
  /-- The documents name the same repositories. -/
  repositories_eq : ∀ format, ∃ repositories,
    Repository.ofDocument left.1 left.2 format = .ok repositories ∧
      Repository.ofDocument right.1 right.2 format = .ok repositories

theorem lookSame_load {used fresh : SymbolTable} (used_distinct : used.HasDistinctNames)
    (fresh_distinct : fresh.HasDistinctNames)
    (agrees : used.dropVariables.Agrees fresh.dropVariables) (text : String) :
    LookSame (used.load text) (fresh.load text) := by
  have agrees : (used.load text).2.Agrees (fresh.load text).2 := agrees.addDefinitions _ _ _
  have nodes := Document.hasNodesOnly_ofText text
  constructor
  · rfl
  · exact agrees.getAll_eq
  · exact agrees.get?_eq
  · exact agrees.contains_eq
  · exact agrees.size_eq (used_distinct.load text) (fresh_distinct.load text)
  · have diagnostics_eq := Validation.ofDocument_eq (used.load text).2 nodes
    exact ⟨_, diagnostics_eq, (agrees.resembles.ofDocument_eq _).symm.trans diagnostics_eq⟩
  · intro format
    have repositories_eq := Repository.ofDocument_eq (used.load text).2 format nodes
    exact ⟨_, repositories_eq,
      (agrees.resembles.repositories_eq _ format).symm.trans repositories_eq⟩

/-- A text is loaded into any table to its end.  Loaded into a table with a history, it looks as if
it were loaded into a new table to which the same qualifiers are added in the same order; loaded
once more, it changes nothing. -/
theorem lookSame_load_history (operations : List Operation) (text : String) :
    (∀ table : SymbolTable, (table.update (.ofText text)).fault = none) ∧
      LookSame ((history operations).load text) ((ofQualifiers operations).load text) ∧
      ((history operations).load text).2.load text = (history operations).load text :=
  ⟨fun table => fault_update_ofText table text,
    lookSame_load (hasDistinctNames_history operations) (hasDistinctNames_ofList _)
      (agrees_dropVariables_history operations) text,
    load_load _ text⟩

end SymbolTable

end SearchQuery
