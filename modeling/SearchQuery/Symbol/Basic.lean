import SearchQuery.Node.Basic

/-!
# Symbols

Two kinds of symbols have names: qualifiers, which are given, and variables, which a document
defines.  A qualifier expects a value of some type, or one of several sets of values that exclude
each other.
-/

namespace SearchQuery

/-- The types of values. -/
inductive ValueType where
  | text | number | date | unknown
  deriving DecidableEq, Repr, Inhabited

namespace ValueType

/-- The name of a type. -/
def name : ValueType → String
  | .text => "string"
  | .number => "number"
  | .date => "date"
  | .unknown => "unknown"

/-- The type of a name. -/
def ofName? (name : String) : Option ValueType :=
  [ValueType.text, .number, .date, .unknown].find? fun type => type.name == name

theorem ofName?_name (type : ValueType) : ofName? type.name = some type := by
  cases type <;> decide

end ValueType

/-- Groups of values, in order.  The values of one group exclude each other. -/
abbrev ValueSets : Type := List (List String)

/-- What a qualifier expects of its value. -/
inductive Expectation where
  /-- A value of a type. -/
  | scalar (type : ValueType)
  /-- One of the values of some sets. -/
  | oneOf (sets : ValueSets)
  deriving DecidableEq, Repr, Inhabited

/-- A qualifier. -/
structure Qualifier where
  /-- The name, without the colon. -/
  name : String
  /-- What the value has to be. -/
  expects : Expectation
  deriving DecidableEq, Repr, Inhabited

/-- The definition a variable comes from. -/
structure DefinitionSite where
  /-- Number of the definition's line among the nodes of its document. -/
  line : Nat
  /-- The part of the text that the definition spans. -/
  span : Span
  /-- Label of the definition. -/
  label : Option Nat
  deriving DecidableEq, Repr, Inhabited

namespace DefinitionSite

/-- Whether a node is the definition of the site, given the number of its line. -/
def isAt (site : DefinitionSite) (line : Nat) (label : Option Nat) : Bool :=
  site.line == line || (label.isSome && site.label == label)

end DefinitionSite

/-- A variable. -/
structure Variable where
  /-- The name, with its `$`. -/
  name : String
  /-- The type of its value. -/
  type : ValueType
  /-- The query text of its value. -/
  value : String
  /-- Where it is defined, if it comes from a document. -/
  definition : Option DefinitionSite
  deriving DecidableEq, Repr, Inhabited

/-- A named symbol. -/
inductive Symbol where
  /-- A qualifier. -/
  | qualifier (info : Qualifier)
  /-- A variable. -/
  | variable (info : Variable)
  deriving DecidableEq, Repr, Inhabited

namespace Symbol

/-- The name of a symbol. -/
def name : Symbol → String
  | .qualifier info => info.name
  | .variable info => info.name

/-- The symbol as a variable. -/
def asVariable? : Symbol → Option Variable
  | .qualifier _ => none
  | .variable info => some info

/-- The symbol as a qualifier. -/
def asQualifier? : Symbol → Option Qualifier
  | .qualifier info => some info
  | .variable _ => none

/-- Whether the symbol is a qualifier. -/
def isQualifier (symbol : Symbol) : Bool := symbol.asQualifier?.isSome

end Symbol

end SearchQuery
