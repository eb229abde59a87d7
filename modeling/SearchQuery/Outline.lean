import SearchQuery.Symbol.Table

/-!
# Outlines

An outline shows how a document was read: each line as query text with its tree below it, one node a
line and two spaces deeper than its parent, and then the variables with their types and values.  A
variable is listed at the definition that gave it its value, and not at a later one.
-/

namespace SearchQuery

/-- Why there is no outline. -/
inductive OutlineError where
  /-- Something in the document is no node. -/
  | fault (fault : Fault)
  /-- An offset has too many digits. -/
  | tooManyDigits
  deriving Repr, Inhabited

namespace Outline

/-- A span with a hyphen between its offsets, unless one of them has too many digits. -/
def spanText? (span : Span) : Option String := do
  let start ← Number.decimal? span.start
  let stop ← Number.decimal? span.stop
  return start ++ "-" ++ stop

/-- What is shown of a node besides its kind and span. -/
def detail : Node → Option String
  | .qualified _ negated qualifier _ => some ((if negated then "-" else "") ++ qualifier.word)
  | .compare _ operator _ => some operator
  | .mark _ token => some token.text
  | .missing _ message => some (Text.quoted message)
  | node => node.word?.map Text.quoted

/-- What stands behind the span of a node. -/
def detailText (node : Node) : String :=
  match detail node with
  | some text => " " ++ text
  | none => ""

/-- A node in one line, at a depth. -/
def indented? (depth : Nat) (node : Node) : Option String :=
  (spanText? node.span).map fun span =>
    String.ofList (List.replicate (2 * depth) ' ') ++ node.kind.name ++ " " ++ span ++
      detailText node

mutual

/-- The lines for a tree.  A line with an offset that cannot be written is absent. -/
def treeLines (depth : Nat) : Node → List (Option String)
  | .range span lower upper =>
      indented? depth (.range span lower upper) ::
        (optionLines (depth + 1) lower ++ optionLines (depth + 1) upper)
  | .compare span operator value =>
      indented? depth (.compare span operator value) :: treeLines (depth + 1) value
  | .qualified span negated qualifier value =>
      indented? depth (.qualified span negated qualifier value) ::
        (treeLines (depth + 1) qualifier ++ treeLines (depth + 1) value)
  | .sort span keyword criteria =>
      indented? depth (.sort span keyword criteria) ::
        (treeLines (depth + 1) keyword ++ treeLines (depth + 1) criteria)
  | .query span items => indented? depth (.query span items) :: listLines (depth + 1) items
  | .definition span name value label =>
      indented? depth (.definition span name value label) ::
        (treeLines (depth + 1) name ++ treeLines (depth + 1) value)
  | .document span lines source =>
      indented? depth (.document span lines source) :: listLines (depth + 1) lines
  | node => [indented? depth node]

/-- The lines for a boundary. -/
def optionLines (depth : Nat) : Option Node → List (Option String)
  | none => []
  | some node => treeLines depth node

/-- The lines for trees that follow each other. -/
def listLines (depth : Nat) : List Node → List (Option String)
  | [] => []
  | node :: nodes => treeLines depth node ++ listLines depth nodes

end

/-- The lines for a line of a document. -/
def nodeLines (source : List Char) (node : Node) : Except OutlineError (List String) := do
  let text ← (node.print source some).mapError .fault
  let _ ← node.walk.visits?.mapError .fault
  match (treeLines 1 node).mapM id with
  | some lines => return ("> " ++ text) :: lines
  | none => throw .tooManyDigits

/-- The variable that a line gave its value, given the number of the line. -/
def variableAt? (table : SymbolTable) (number : Nat) : Node → Option Variable
  | .definition _ name _ label =>
      (table.variableNamed? name.word).filter fun info => info.definition.any (·.isAt number label)
  | _ => none

/-- The variables of a document that are listed. -/
def settledVariables (table : SymbolTable) (document : Document) : List Variable :=
  (document.lines.zipIdx).filterMap fun (node, number) => variableAt? table number node

/-- A variable's line: its name, its type and its value in quotes. -/
def variableText (info : Variable) : String :=
  info.name ++ ": " ++ info.type.name ++ " = " ++ Text.quoted info.value

/-- The lines for the variables. -/
def variableLines (listed : List Variable) : List String :=
  if listed.isEmpty then ["  (none)"]
  else listed.map fun info => "  " ++ variableText info

/-- The lines of an outline.  Without a table, no variables are listed. -/
def lines (document : Document) (table : Option SymbolTable) :
    Except OutlineError (List String) := do
  let trees ← document.lines.mapM (nodeLines document.source.toList)
  let listed :=
    match table with
    | none => []
    | some table => "=== Variables ===" :: variableLines (settledVariables table document)
  return "=== Document ===" :: trees.flatten ++ listed

/-- The text of an outline. -/
def render (document : Document) (table : Option SymbolTable) : Except OutlineError String := do
  let lines ← lines document table
  return String.join (lines.map (· ++ "\n"))

end Outline

end SearchQuery
