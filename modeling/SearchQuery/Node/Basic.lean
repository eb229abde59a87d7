import SearchQuery.Text.Slice
import SearchQuery.Value.Basic

/-!
# Nodes

The tree of a query document.  Every node spans a part of the document's text, given by two
offsets.  Reading a text builds trees of a narrow shape, in which a qualifier is a literal and a
line is a query or a definition; trees made by hand may put any node anywhere, and even a value that
is no node at all.  Walking or printing such a value is the one fault a tree can have.
-/

namespace SearchQuery

/-- The part of a text between two offsets. -/
structure Span where
  /-- Offset of the first character. -/
  start : Int
  /-- Offset after the last character. -/
  stop : Int
  deriving DecidableEq, Repr, Inhabited

namespace Span

/-- The span moved to the right. -/
def shift (span : Span) (distance : Int) : Span :=
  ⟨span.start + distance, span.stop + distance⟩

/-- The characters of a text that the span covers. -/
def slice (span : Span) (source : List Char) : List Char :=
  Text.slice source span.start span.stop

/-- The empty span at an offset. -/
def point (offset : Int) : Span := ⟨offset, offset⟩

end Span

/-- The kinds of a token that is kept as it is. -/
inductive Mark where
  /-- The word `OR`. -/
  | orWord
  /-- Any other token. -/
  | unknown
  deriving DecidableEq, Repr, Inhabited

/-- The text of a mark. -/
def Mark.text : Mark → String
  | .orWord => "OR"
  | .unknown => "unknown"

/-- A node of a query document.

A variable and a definition can carry a label.  Two occurrences with the same label are one node
that stands in the tree twice; an occurrence without a label is a node of its own. -/
inductive Node where
  /-- A word or a quoted text. -/
  | literal (span : Span) (text : String)
  /-- A number, as it is written. -/
  | number (span : Span) (text : String)
  /-- A date, as it is written. -/
  | date (span : Span) (text : String)
  /-- A variable, with its `$`. -/
  | variable (span : Span) (name : String) (label : Option Nat)
  /-- A token without further meaning. -/
  | mark (span : Span) (token : Mark)
  /-- A part that is not there, or that cannot be read. -/
  | missing (span : Span) (message : String)
  /-- A range, open at either end. -/
  | range (span : Span) (lower upper : Option Node)
  /-- A comparison with a value. -/
  | compare (span : Span) (operator : String) (value : Node)
  /-- A qualifier and its value. -/
  | qualified (span : Span) (negated : Bool) (qualifier value : Node)
  /-- A sort directive. -/
  | sort (span : Span) (keyword criteria : Node)
  /-- A sequence of items. -/
  | query (span : Span) (items : List Node)
  /-- The definition of a variable. -/
  | definition (span : Span) (name value : Node) (label : Option Nat)
  /-- A sequence of lines, with the text they were read from. -/
  | document (span : Span) (lines : List Node) (source : String)
  /-- A value that is no node. -/
  | foreign (value : Value)
  deriving Repr, Inhabited

/-- The kinds of a node. -/
inductive Kind where
  | literal | number | date | variable | mark | missing | range | compare | qualified | sort
  | query | definition | document | foreign
  deriving DecidableEq, Repr, Inhabited

namespace Kind

/-- The name of a kind in a printed tree. -/
def name : Kind → String
  | .literal => "Literal"
  | .number => "Number"
  | .date => "Date"
  | .variable => "VariableName"
  | .mark => "Any"
  | .missing => "Missing"
  | .range => "Range"
  | .compare => "Compare"
  | .qualified => "QualifiedValue"
  | .sort => "SortBy"
  | .query => "Query"
  | .definition => "VariableDefinition"
  | .document => "QueryDocumentNode"
  | .foreign => "raw"

end Kind

namespace Node

/-- The kind of a node. -/
def kind : Node → Kind
  | .literal .. => .literal
  | .number .. => .number
  | .date .. => .date
  | .variable .. => .variable
  | .mark .. => .mark
  | .missing .. => .missing
  | .range .. => .range
  | .compare .. => .compare
  | .qualified .. => .qualified
  | .sort .. => .sort
  | .query .. => .query
  | .definition .. => .definition
  | .document .. => .document
  | .foreign _ => .foreign

/-- The span of a node; a value that is no node has an empty one. -/
def span : Node → Span
  | .literal span _ => span
  | .number span _ => span
  | .date span _ => span
  | .variable span _ _ => span
  | .mark span _ => span
  | .missing span _ => span
  | .range span _ _ => span
  | .compare span _ _ => span
  | .qualified span _ _ _ => span
  | .sort span _ _ => span
  | .query span _ => span
  | .definition span _ _ _ => span
  | .document span _ _ => span
  | .foreign _ => .point 0

/-- Offset of the first character of a node. -/
def start (node : Node) : Int := node.span.start

/-- Offset after the last character of a node. -/
def stop (node : Node) : Int := node.span.stop

/-- The word that a literal, number, date or variable stands for. -/
def word? : Node → Option String
  | .literal _ text => some text
  | .number _ text => some text
  | .date _ text => some text
  | .variable _ name _ => some name
  | _ => none

/-- The word of a node, empty if it has none. -/
def word (node : Node) : String := node.word?.getD ""

mutual

/-- The node with all offsets moved to the right. -/
def shift (distance : Int) : Node → Node
  | .literal span text => .literal (span.shift distance) text
  | .number span text => .number (span.shift distance) text
  | .date span text => .date (span.shift distance) text
  | .variable span name label => .variable (span.shift distance) name label
  | .mark span token => .mark (span.shift distance) token
  | .missing span message => .missing (span.shift distance) message
  | .range span lower upper =>
      .range (span.shift distance) (shiftOption distance lower) (shiftOption distance upper)
  | .compare span operator value => .compare (span.shift distance) operator (shift distance value)
  | .qualified span negated qualifier value =>
      .qualified (span.shift distance) negated (shift distance qualifier) (shift distance value)
  | .sort span keyword criteria =>
      .sort (span.shift distance) (shift distance keyword) (shift distance criteria)
  | .query span items => .query (span.shift distance) (shiftList distance items)
  | .definition span name value label =>
      .definition (span.shift distance) (shift distance name) (shift distance value) label
  | .document span lines source => .document (span.shift distance) (shiftList distance lines) source
  | .foreign value => .foreign value

/-- A boundary with all offsets moved to the right. -/
def shiftOption (distance : Int) : Option Node → Option Node
  | none => none
  | some node => some (shift distance node)

/-- Nodes with all offsets moved to the right. -/
def shiftList (distance : Int) : List Node → List Node
  | [] => []
  | node :: nodes => shift distance node :: shiftList distance nodes

end

@[simp]
theorem shiftOption_eq_map (distance : Int) (node : Option Node) :
    shiftOption distance node = node.map (shift distance) := by
  cases node <;> simp [shiftOption]

@[simp]
theorem shiftList_eq_map (distance : Int) (nodes : List Node) :
    shiftList distance nodes = nodes.map (shift distance) := by
  induction nodes with
  | nil => simp [shiftList]
  | cons node nodes ih => simp [shiftList, ih]

end Node

end SearchQuery
