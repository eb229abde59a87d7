import SearchQuery.Diagnostic
import SearchQuery.Symbol.Table

/-!
# Validation of a query

The nodes of a query are checked in the order of a walk.

A qualified value needs a known qualifier, and a value that the qualifier expects.  A value that is
one of a set excludes the other values of that set in the rest of the query; what is excluded is
remembered by value, not by qualifier, and a value that is itself excluded excludes nothing.  A
variable has to be defined, unless it is the value of a qualifier.  The boundaries of a range have
to be of one kind, the criteria of a sort directive have to be known, and what is missing is
reported.
-/

namespace SearchQuery

/-- What the nodes of a query checked so far mean for those to come. -/
structure QueryState where
  /-- The values that are excluded, the latest first, with the nodes that exclude them. -/
  excluded : List (String × Node)
  /-- The labels of variables seen as values of qualifiers. -/
  references : List Nat
  deriving Inhabited

namespace QueryState

/-- What holds before the first node. -/
def initial : QueryState := ⟨[], []⟩

/-- The node that excludes a value. -/
def excluder? (state : QueryState) (value : String) : Option Node := state.excluded.lookup value

/-- The state after a node that excludes some values. -/
def exclude (state : QueryState) (node : Node) (values : List String) : QueryState :=
  { state with excluded := values.reverse.map (·, node) ++ state.excluded }

/-- The state after a variable that is the value of a qualifier. -/
def noteReference (state : QueryState) : Node → QueryState
  | .variable _ _ (some label) => { state with references := label :: state.references }
  | _ => state

end QueryState

namespace Validation

/-- Whether a node is of a kind, or compares with or is bounded by such a node. -/
def isLike (kind : Kind) : Node → Bool
  | .compare _ _ value => kind == .compare || value.kind == kind
  | .range _ lower upper =>
      kind == .range || lower.any (·.kind == kind) || upper.any (·.kind == kind)
  | node => node.kind == kind

/-- The value by which a node excludes others or is excluded. -/
def setValue : Node → String
  | .literal _ text => text
  | _ => ""

/-- Checks a value against the sets of its qualifier. -/
def checkSets (sets : ValueSets) (state : QueryState) (node value : Node) :
    List Diagnostic × QueryState :=
  let word := setValue value
  match state.excluder? word with
  | some earlier => ([⟨node, .conflict earlier⟩], state)
  | none =>
      match sets.find? (word ∈ ·) with
      | some set => ([], state.exclude node (set.filter (· ≠ word)))
      | none => ([⟨value, .unknownValue sets⟩], state)

/-- Whether a value is of the type that its qualifier expects. -/
def hasType (table : SymbolTable) (type : ValueType) : Node → Bool
  | .variable _ name _ => (table.variableNamed? name).any (·.type == type)
  | value =>
      match type with
      | .date => isLike .date value
      | .number => isLike .number value
      | _ => true

/-- Checks a value against the type that its qualifier expects. -/
def checkType (table : SymbolTable) (type : ValueType) (value : Node) : List Diagnostic :=
  if hasType table type value then [] else [⟨value, .invalidValue type⟩]

/-- Checks a qualified value. -/
def checkQualified (table : SymbolTable) (state : QueryState) (node qualifier value : Node) :
    List Diagnostic × QueryState :=
  match table.qualifierNamed? qualifier.word with
  | none => ([⟨qualifier, .unknownQualifier qualifier.word⟩], state)
  | some info =>
      match info.expects with
      | .oneOf sets => checkSets sets state node value
      | .scalar type => (checkType table type value, state)

/-- Whether a variable need not be checked: it is the value of a qualifier, here or at an earlier
occurrence. -/
def isReference (state : QueryState) (visit : Visit) (label : Option Nat) : Bool :=
  visit.ofQualifier || label.any (· ∈ state.references)

/-- Checks a visited node of a query. -/
def checkNode (table : SymbolTable) (state : QueryState) (visit : Visit) :
    List Diagnostic × QueryState :=
  match visit.node with
  | .qualified _ _ qualifier value =>
      checkQualified table (state.noteReference value) visit.node qualifier value
  | .variable _ name label =>
      if isReference state visit label || (table.variableNamed? name).isSome then ([], state)
      else ([⟨visit.node, .unknownVariable⟩], state)
  | .range _ (some lower) (some upper) =>
      if lower.kind == upper.kind then ([], state) else ([⟨visit.node, .unbalancedRange⟩], state)
  | .sort _ _ criteria =>
      match criteria with
      | .literal _ text =>
          if text ∈ sortValues then ([], state) else ([⟨criteria, .unknownCriteria⟩], state)
      | _ => ([], state)
  | .missing _ message => ([⟨visit.node, .missing message⟩], state)
  | _ => ([], state)

/-- Checks visited nodes of a query, one after the other. -/
def checkVisits (table : SymbolTable) (state : QueryState) : List Visit → List Diagnostic
  | [] => []
  | visit :: visits =>
      let (found, next) := checkNode table state visit
      found ++ checkVisits table next visits

/-- What is wrong with a query. -/
def ofQuery (table : SymbolTable) (query : Node) : Except Fault (List Diagnostic) := do
  let visits ← query.walk.visits?
  return checkVisits table .initial visits

end Validation

end SearchQuery
