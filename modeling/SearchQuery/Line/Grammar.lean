import SearchQuery.Line.Reader
import SearchQuery.Node.Basic

/-!
# The grammar of a line

A line is a variable definition, or a query of one or more items.  The alternatives of a construct
are tried in a fixed order and the first that is found is kept, whatever follows it.

A definition may have no items, and a qualifier, a comparison or a sort directive may lack its
value; a node for a missing part then stands at the end of the construct.
-/

namespace SearchQuery.Line

/-- Message of a missing value. -/
def missingValue : String := "Expected value"

/-- Message of missing criteria. -/
def missingCriteria : String := "Expected sort criteria"

/-- The text of a literal without its quotes.  A quote at the end is no closing quote if it is the
only one. -/
def unquote : List Char → List Char
  | '"' :: rest => if rest.getLast? = some '"' then rest.dropLast else rest
  | word => word

/-- The span from one offset of a line to another. -/
def spanOf (start stop : Nat) : Span := ⟨start, stop⟩

namespace Lexeme

/-- The span of a lexeme in its line. -/
def span (lexeme : Lexeme) : Span := spanOf lexeme.start lexeme.stop

end Lexeme

open Reader

/-- Reads a date. -/
def date : Reader Node := do
  let lexeme ← token .date
  return .date lexeme.span lexeme.text

/-- Reads a number. -/
def number : Reader Node := do
  let lexeme ← token .number
  return .number lexeme.span lexeme.text

/-- Reads a variable. -/
def variableName : Reader Node := do
  let lexeme ← token .variable
  return .variable lexeme.span lexeme.text none

/-- Reads a quoted text or a bare word. -/
def literal : Reader Node := do
  let lexeme ← token .text
  return .literal lexeme.span (String.ofList (unquote lexeme.chars))

/-- Reads the word `OR`. -/
def orWord : Reader Node := do
  let lexeme ← token .orWord
  return .mark lexeme.span .orWord

/-- A boundary of a range and where it stands. -/
structure Boundary where
  /-- Where it stands. -/
  span : Span
  /-- The value, absent if a star is written for it. -/
  node : Option Node

namespace Boundary

/-- The boundary that a node makes. -/
def ofNode (node : Node) : Boundary := ⟨node.span, some node⟩

end Boundary

/-- Reads the star of an absent boundary. -/
def star : Reader Boundary := do
  let lexeme ← token .star
  return ⟨lexeme.span, none⟩

/-- Reads a node as a boundary. -/
def bounding (reader : Reader Node) : Reader Boundary := do
  let node ← reader
  return .ofNode node

/-- Reads a boundary of a range. -/
def boundary : Reader Boundary :=
  firstOf [bounding date, bounding number, bounding variableName, star]

/-- Reads a range. -/
def range : Reader Node := do
  let lower ← optional boundary
  let dots ← token .dots
  let upper ← optional boundary
  let start := (lower.map (·.span.start)).getD dots.span.start
  let stop := (upper.map (·.span.stop)).getD dots.span.stop
  return .range ⟨start, stop⟩ (lower.bind (·.node)) (upper.bind (·.node))

/-- The node read for a part, or the missing part at the end of what was read before. -/
def orMissing (node : Option Node) (stop : Int) (message : String) : Node :=
  node.getD (.missing (.point stop) message)

/-- Reads a comparison. -/
def comparison : Reader Node := do
  let operator ← token .comparison
  let value ← optional (firstOf [date, number, variableName, literal])
  let stop := (value.map (·.stop)).getD operator.span.stop
  return .compare ⟨operator.span.start, stop⟩ operator.text (orMissing value stop missingValue)

/-- Reads the value of a qualifier. -/
def qualifierValue : Reader Node :=
  firstOf [range, comparison, date, number, variableName, literal]

/-- Reads a qualifier and its value. -/
def qualifiedValue : Reader Node := do
  let dash ← optional (token .dash)
  let name ← token .name
  let colon ← token .colon
  let value ← optional qualifierValue
  let start := (dash.map (·.span.start)).getD name.span.start
  let stop := (value.map (·.stop)).getD colon.span.stop
  return .qualified ⟨start, stop⟩ dash.isSome (.literal name.span name.text)
    (orMissing value stop missingValue)

/-- Reads a sort directive. -/
def sortDirective : Reader Node := do
  let keyword ← token .sortWord
  let colon ← token .colon
  let criteria ← optional (firstOf [variableName, literal])
  let stop := (criteria.map (·.stop)).getD colon.span.stop
  return .sort ⟨keyword.span.start, stop⟩ (.literal keyword.span keyword.text)
    (orMissing criteria stop missingCriteria)

/-- Reads an item of a query. -/
def item : Reader Node :=
  firstOf [orWord, sortDirective, qualifiedValue, range, comparison, date, number, variableName,
    literal]

/-- The query of one or more items. -/
def queryOf (first : Node) (others : List Node) : Node :=
  .query ⟨first.start, (others.getLastD first).stop⟩ (first :: others)

/-- The value of a definition that ends at `stop` if no item follows its sign. -/
def definedValue (items : List Node) (stop : Int) : Node :=
  match items with
  | [] => .query (.point stop) [.missing (.point stop) missingValue]
  | first :: others => queryOf first others

/-- Reads a definition. -/
def definition : Reader Node := do
  let name ← token .variable
  let sign ← token .equals
  let items ← many item
  let value := definedValue items sign.span.stop
  return .definition ⟨name.span.start, value.stop⟩ (.variable name.span name.text none) value none

/-- Reads a query. -/
def query : Reader Node := do
  let first ← item
  let others ← many item
  return queryOf first others

/-- Reads a whole line. -/
def line : Reader Node := do
  let node ← orElse definition query
  let _ ← token .finish
  return node

end SearchQuery.Line
