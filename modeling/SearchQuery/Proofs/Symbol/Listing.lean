import Mathlib.Data.List.Perm.Basic
import SearchQuery.Proofs.Symbol.Agreement

/-!
# Tables as lists of symbols

What can be read from a table is told by one list of symbols, in the order in which they were added.
A symbol is added at the end of the list.  An update leaves the qualifiers where they are and adds
the variables that the document defines, the type and the value of each being worked out with the
list as it then is.
-/

namespace SearchQuery

/-- The type of a value, if the types of variables are given: the type of its word, of what it
compares with, of its first boundary, of the variable it names or of the only item it has. -/
def Node.typeWith (variableType? : String → Option ValueType) : Node → ValueType
  | .number .. => .number
  | .date .. => .date
  | .literal .. => .text
  | .variable _ name _ => (variableType? name).getD .unknown
  | .compare _ _ value => value.typeWith variableType?
  | .range _ (some lower) _ => lower.typeWith variableType?
  | .range _ none (some upper) => upper.typeWith variableType?
  | .query _ [item] => item.typeWith variableType?
  | _ => .unknown

theorem SymbolTable.typeOf_eq_typeWith (table : SymbolTable) (node : Node) :
    table.typeOf node = node.typeWith fun name => (table.variableNamed? name).map (·.type) := by
  fun_induction typeOf table node with
  | case4 span operator value induction => exact induction
  | case5 span lower upper induction => exact induction
  | case6 span upper induction => exact induction
  | case7 span name label info found => rw [Node.typeWith, found, Option.map_some, Option.getD_some]
  | case8 span name label unfound => rw [Node.typeWith, unfound, Option.map_none, Option.getD_none]
  | case9 span item induction => exact induction
  | _ => simp_all [Node.typeWith]

/-- What is done to a table, or to a list of symbols. -/
inductive Change where
  /-- A symbol is added. -/
  | add (symbol : Symbol)
  /-- The variables are replaced by those of a document. -/
  | update (document : Document)

/-! ## Lists of symbols -/

namespace Listing

/-- The symbols of a name. -/
def named (symbols : List Symbol) (name : String) : List Symbol :=
  symbols.filter (·.name = name)

/-- The variable that a name stands for. -/
def variableNamed? (symbols : List Symbol) (name : String) : Option Variable :=
  (named symbols name).head?.bind Symbol.asVariable?

/-- The symbols with the variable that a line defines, given the number of the line. -/
def define (source : List Char) (symbols : List Symbol) (line : Node × Nat) :
    Except Fault (List Symbol) :=
  match line with
  | (.definition span name value label, number) => do
      let text ← value.print source fun other => (variableNamed? symbols other).map (·.value)
      let type := value.typeWith fun other => (variableNamed? symbols other).map (·.type)
      return symbols ++ [.variable ⟨name.word, type, text, some ⟨number, span, label⟩⟩]
  | _ => return symbols

/-- The symbols behind a change. -/
def apply (symbols : List Symbol) : Change → Except Fault (List Symbol)
  | .add symbol => return symbols ++ [symbol]
  | .update document =>
      document.lines.zipIdx.foldlM (define document.source.toList)
        (symbols.filter Symbol.isQualifier)

/-- The symbols to which some changes lead. -/
def run (changes : List Change) : Except Fault (List Symbol) := changes.foldlM apply []

theorem named_append (front back : List Symbol) (name : String) :
    named (front ++ back) name = named front name ++ named back name :=
  List.filter_append front back

theorem named_singleton (symbol : Symbol) (name : String) :
    named [symbol] name = if name = symbol.name then [symbol] else [] := by
  by_cases same : name = symbol.name
  · simp [named, same]
  · simp [named, same, Ne.symm same]

theorem named_filter (symbols : List Symbol) (keep : Symbol → Bool) (name : String) :
    named (symbols.filter keep) name = (named symbols name).filter keep :=
  List.filter_comm _ _ _

end Listing

/-! ## Lists and tables -/

namespace SymbolTable

/-- The table behind a change, unless the update does not reach the last line. -/
def apply (table : SymbolTable) : Change → Except Fault SymbolTable
  | .add symbol => .ok (table.add symbol)
  | .update document =>
      match (table.update document).fault with
      | none => .ok (table.update document).table
      | some fault => .error fault

/-- The table to which some changes lead. -/
def run (changes : List Change) : Except Fault SymbolTable := changes.foldlM apply empty

/-- A table holds the symbols of a list. -/
structure Holds (table : SymbolTable) (symbols : List Symbol) : Prop where
  /-- No name has two buckets. -/
  distinct : table.HasDistinctNames
  /-- The bucket of a name holds the symbols of that name in order, and there is none if there are
  no such symbols. -/
  lookup_eq : ∀ name, table.buckets.lookup name =
    (Listing.named symbols name).head?.map fun _ => Listing.named symbols name
  /-- All buckets together hold the symbols, in whatever order. -/
  perm : table.symbols.Perm symbols

/-- A table reads like a list of symbols. -/
structure ReadsLike (table : SymbolTable) (symbols : List Symbol) : Prop where
  /-- The symbols of a name are bound to it, in order. -/
  getAll_eq : ∀ name, table.getAll name = symbols.filter (·.name = name)
  /-- A name stands for the first of its symbols. -/
  get?_eq : ∀ name, table.get? name = (symbols.filter (·.name = name)).head?
  /-- A name is bound if it has a symbol. -/
  contains_iff : ∀ name, table.contains name = true ↔ symbols.filter (·.name = name) ≠ []
  /-- There are as many symbols. -/
  size_eq : table.size = symbols.length

theorem holds_empty : empty.Holds [] := ⟨hasDistinctNames_empty, fun _ => rfl, List.Perm.refl _⟩

theorem symbols_insertSymbol_perm (symbol : Symbol) (buckets : List (String × List Symbol)) :
    ((insertSymbol symbol buckets).flatMap (·.2)).Perm (buckets.flatMap (·.2) ++ [symbol]) := by
  induction buckets with
  | nil => exact List.Perm.refl _
  | cons bucket buckets induction =>
      rw [insertSymbol, List.flatMap_cons, List.append_assoc]
      split
      · rw [List.flatMap_cons, List.append_assoc]
        exact List.perm_append_comm.append_left bucket.2
      · rw [List.flatMap_cons]
        exact induction.append_left bucket.2

theorem symbols_dropVariables (table : SymbolTable) :
    table.dropVariables.symbols = table.symbols.filter Symbol.isQualifier := by
  rw [dropVariables_eq, symbols, symbols]
  dsimp only
  induction table.buckets with
  | nil => rfl
  | cons bucket buckets induction =>
      rw [dropBuckets_cons, List.flatMap_append, induction, List.flatMap_cons, List.filter_append]
      congr 1
      rw [← getD_qualifiersIn?]
      cases qualifiersIn? bucket.2 <;> simp

theorem qualifiersIn?_eq (symbols : List Symbol) :
    qualifiersIn? symbols = (symbols.filter Symbol.isQualifier).head?.map fun _ =>
      symbols.filter Symbol.isQualifier := by
  rw [qualifiersIn?]
  cases symbols.filter Symbol.isQualifier <;> rfl

namespace Holds

variable {table : SymbolTable} {symbols : List Symbol} (holds : table.Holds symbols)

include holds

theorem getAll_eq (name : String) : table.getAll name = Listing.named symbols name := by
  rw [getAll, holds.lookup_eq]
  cases Listing.named symbols name <;> rfl

/-- A table that holds the symbols of a list reads like it. -/
theorem readsLike : table.ReadsLike symbols := by
  refine ⟨holds.getAll_eq, fun name => ?_, fun name => ?_, holds.perm.length_eq⟩
  · rw [get?, holds.getAll_eq, Listing.named]
  · rw [contains, holds.lookup_eq, Listing.named]
    cases symbols.filter (·.name = name) <;> simp

theorem variableNamed?_eq (name : String) :
    table.variableNamed? name = Listing.variableNamed? symbols name := by
  rw [variableNamed?, get?, holds.getAll_eq, Listing.variableNamed?]

theorem add (symbol : Symbol) : (table.add symbol).Holds (symbols ++ [symbol]) := by
  refine ⟨holds.distinct.add symbol, fun name => ?_, ?_⟩
  · rw [SymbolTable.add, lookup_insertSymbol, ← getAll, holds.getAll_eq, holds.lookup_eq,
      Listing.named_append, Listing.named_singleton]
    split
    · rw [List.head?_append]
      cases (Listing.named symbols name).head? <;> rfl
    · rw [List.append_nil]
  · exact (symbols_insertSymbol_perm symbol table.buckets).trans (holds.perm.append_right [symbol])

theorem dropVariables : table.dropVariables.Holds (symbols.filter Symbol.isQualifier) := by
  refine ⟨holds.distinct.dropVariables, fun name => ?_, ?_⟩
  · rw [lookup_dropVariables holds.distinct, holds.lookup_eq, Listing.named_filter]
    cases named_eq : Listing.named symbols name with
    | nil => rfl
    | cons first rest => exact qualifiersIn?_eq (first :: rest)
  · rw [symbols_dropVariables]
    exact holds.perm.filter _

/-- A definition adds the same variable to both. -/
theorem define_eq (source : List Char) (number : Nat) (span : Span) (name value : Node)
    (label : Option Nat) :
    Listing.define source symbols (.definition span name value label, number) =
      (table.define source ⟨number, span, label⟩ name value).map
        fun info => symbols ++ [.variable info] := by
  have variables_eq : Listing.variableNamed? symbols = table.variableNamed? :=
    funext fun other => (holds.variableNamed?_eq other).symm
  have values_eq : (fun other => (table.variableNamed? other).map (·.value)) = table.valueOf? := rfl
  rw [Listing.define, SymbolTable.define, variables_eq, values_eq, typeOf_eq_typeWith]
  cases value.print source table.valueOf? <;> rfl

end Holds

/-- Two runs, of a table and of a list of symbols, end in the same fault, or the table holds the
symbols of the list. -/
inductive EndsWith : Except Fault SymbolTable → Except Fault (List Symbol) → Prop where
  | fault (fault : Fault) : EndsWith (.error fault) (.error fault)
  | holds {table : SymbolTable} {symbols : List Symbol} (holds : table.Holds symbols) :
      EndsWith (.ok table) (.ok symbols)

/-- The definitions of some lines add the same variables to both. -/
theorem Holds.addDefinitions {table : SymbolTable} {symbols : List Symbol}
    (holds : table.Holds symbols) (source : List Char) (number : Nat) (lines : List Node) :
    EndsWith ((table.addDefinitions source number lines).fault.elim
        (.ok (table.addDefinitions source number lines).table) .error)
      ((lines.zipIdx number).foldlM (Listing.define source) symbols) := by
  induction lines generalizing table symbols number with
  | nil => exact .holds holds
  | cons line lines induction =>
      rw [List.zipIdx_cons, List.foldlM_cons]
      cases line with
      | definition span name value label =>
          rw [SymbolTable.addDefinitions, holds.define_eq]
          cases table.define source ⟨number, span, label⟩ name value with
          | error fault => exact .fault fault
          | ok info => exact induction (holds.add (.variable info)) (number + 1)
      | _ => exact induction holds (number + 1)

theorem Holds.apply {table : SymbolTable} {symbols : List Symbol} (holds : table.Holds symbols)
    (change : Change) : EndsWith (table.apply change) (Listing.apply symbols change) := by
  cases change with
  | add symbol => exact .holds (holds.add symbol)
  | update document =>
      have ends := holds.dropVariables.addDefinitions document.source.toList 0 document.lines
      rw [SymbolTable.apply, update]
      cases fault_eq : (table.dropVariables.addDefinitions document.source.toList 0
        document.lines).fault <;> rwa [fault_eq] at ends

theorem EndsWith.foldlM {table : SymbolTable} {symbols : List Symbol} (holds : table.Holds symbols)
    (changes : List Change) :
    EndsWith (changes.foldlM SymbolTable.apply table) (changes.foldlM Listing.apply symbols) := by
  induction changes generalizing table symbols with
  | nil => exact .holds holds
  | cons change changes induction =>
      rw [List.foldlM_cons, List.foldlM_cons]
      have ends := holds.apply change
      generalize table.apply change = left, Listing.apply symbols change = right at ends ⊢
      cases ends with
      | fault fault => exact .fault fault
      | holds later => exact induction later

/-- Whatever is added to a new table, and with whatever documents it is updated, the table reads
like the list of symbols to which the same changes lead; or an update ends in the same fault for
both. -/
theorem readsLike_run (changes : List Change) :
    (∃ table symbols, run changes = .ok table ∧ Listing.run changes = .ok symbols ∧
      table.ReadsLike symbols) ∨
    ∃ fault, run changes = .error fault ∧ Listing.run changes = .error fault := by
  have ends : EndsWith (run changes) (Listing.run changes) := EndsWith.foldlM holds_empty changes
  generalize run changes = left, Listing.run changes = right at ends ⊢
  cases ends with
  | fault fault => exact Or.inr ⟨fault, rfl, rfl⟩
  | holds holds => exact Or.inl ⟨_, _, rfl, rfl, holds.readsLike⟩

end SymbolTable

end SearchQuery
