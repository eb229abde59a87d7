import SearchQuery.Document
import SearchQuery.Symbol.Basic

/-!
# Symbol tables

A table maps each name to the symbols bound to it, in the order in which they were added.  The
first of them is the one that counts.

Loading a document replaces all variables: the qualifiers stay, and the document's definitions are
added one after the other.  The type and the value of each are worked out with the table as it then
is, so a definition sees the ones before it and not those after it.
-/

namespace SearchQuery

/-- The symbols that are bound to names. -/
structure SymbolTable where
  /-- The names, each with its symbols in the order added. -/
  buckets : List (String × List Symbol)
  deriving DecidableEq, Repr, Inhabited

namespace SymbolTable

/-- The table without symbols. -/
def empty : SymbolTable := ⟨[]⟩

/-- The buckets with one more symbol. -/
def insertSymbol (symbol : Symbol) : List (String × List Symbol) → List (String × List Symbol)
  | [] => [(symbol.name, [symbol])]
  | bucket :: buckets =>
      if bucket.1 = symbol.name then (bucket.1, bucket.2 ++ [symbol]) :: buckets
      else bucket :: insertSymbol symbol buckets

/-- The table with one more symbol, behind the others of its name. -/
def add (table : SymbolTable) (symbol : Symbol) : SymbolTable :=
  ⟨insertSymbol symbol table.buckets⟩

/-- The table of some symbols, added in order. -/
def ofList (symbols : List Symbol) : SymbolTable := symbols.foldl add empty

/-- The symbols bound to a name. -/
def getAll (table : SymbolTable) (name : String) : List Symbol :=
  (table.buckets.lookup name).getD []

/-- The symbol that a name stands for. -/
def get? (table : SymbolTable) (name : String) : Option Symbol := (table.getAll name).head?

/-- The variable that a name stands for. -/
def variableNamed? (table : SymbolTable) (name : String) : Option Variable :=
  (table.get? name).bind Symbol.asVariable?

/-- The qualifier that a name stands for. -/
def qualifierNamed? (table : SymbolTable) (name : String) : Option Qualifier :=
  (table.get? name).bind Symbol.asQualifier?

/-- The value of the variable that a name stands for. -/
def valueOf? (table : SymbolTable) (name : String) : Option String :=
  (table.variableNamed? name).map (·.value)

/-- Whether a name is bound. -/
def contains (table : SymbolTable) (name : String) : Bool :=
  (table.buckets.lookup name).isSome

/-- The symbols, name by name. -/
def symbols (table : SymbolTable) : List Symbol := table.buckets.flatMap (·.2)

/-- Number of symbols. -/
def size (table : SymbolTable) : Nat := table.symbols.length

/-- The table without variables.  A name that only variables were bound to is no longer bound. -/
def dropVariables (table : SymbolTable) : SymbolTable :=
  ⟨table.buckets.filterMap fun bucket =>
    let kept := bucket.2.filter Symbol.isQualifier
    if kept.isEmpty then none else some (bucket.1, kept)⟩

/-- The type of a value, as far as it can be told: the type of its word, of what it compares with,
of its first boundary, of the variable it names or of the only item it has. -/
def typeOf (table : SymbolTable) : Node → ValueType
  | .number .. => .number
  | .date .. => .date
  | .literal .. => .text
  | .compare _ _ value => table.typeOf value
  | .range _ (some lower) _ => table.typeOf lower
  | .range _ none (some upper) => table.typeOf upper
  | .variable _ name _ =>
      match table.variableNamed? name with
      | some info => info.type
      | none => .unknown
  | .query _ [item] => table.typeOf item
  | _ => .unknown

/-- A table to which the definitions of a document are being added. -/
structure Update where
  /-- The table so far. -/
  table : SymbolTable
  /-- The variables added so far. -/
  added : List Variable
  /-- The fault that ended the update, if it did not reach the last line. -/
  fault : Option Fault

/-- The variable that a line defines. -/
def define (table : SymbolTable) (source : List Char) (site : DefinitionSite) (name value : Node) :
    Except Fault Variable := do
  let text ← value.print source table.valueOf?
  return { name := name.word, type := table.typeOf value, value := text, definition := some site }

/-- Adds the variables that the lines of a document define, the first of which has number
`number`. -/
def addDefinitions (source : List Char) (table : SymbolTable) (number : Nat) :
    List Node → Update
  | [] => { table := table, added := [], fault := none }
  | .definition span name value label :: lines =>
      match table.define source ⟨number, span, label⟩ name value with
      | .error fault => { table := table, added := [], fault := some fault }
      | .ok info =>
          let update := addDefinitions source (table.add (.variable info)) (number + 1) lines
          { update with added := info :: update.added }
  | _ :: lines => addDefinitions source table (number + 1) lines

/-- Replaces all variables by those a document defines. -/
def update (table : SymbolTable) (document : Document) : Update :=
  addDefinitions document.source.toList table.dropVariables 0 document.lines

/-- The table after reading a text and its definitions, with the document. -/
def load (table : SymbolTable) (text : String) : Document × SymbolTable :=
  let document := Document.ofText text
  (document, (table.update document).table)

end SymbolTable

end SearchQuery
