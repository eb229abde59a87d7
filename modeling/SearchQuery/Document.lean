import SearchQuery.Line.Parse
import SearchQuery.Node.Printer
import SearchQuery.Text.Lines

/-!
# Documents

A document is read line by line, so that a line that cannot be read leaves the others alone.  Blank
lines and lines that begin with `//` are left out.  Offsets count from the beginning of the text.
-/

namespace SearchQuery

/-- A sequence of lines, with the text they were read from. -/
structure Document where
  /-- The part of the text that the document spans. -/
  span : Span
  /-- The nodes of the lines. -/
  lines : List Node
  /-- The text. -/
  source : String
  deriving Inhabited

namespace Document

/-- The document as a node. -/
def toNode (document : Document) : Node :=
  .document document.span document.lines document.source

/-- The document that a node is. -/
def ofNode? : Node → Option Document
  | .document span lines source => some ⟨span, lines, source⟩
  | _ => none

end Document

/-- A line of a text and where it stands. -/
structure SourceLine where
  /-- Offset of the first character in the text. -/
  offset : Nat
  /-- The characters of the line, without the carriage return or line feed at its end. -/
  content : List Char
  deriving DecidableEq, Repr

namespace SourceLine

/-- Whether the line is blank. -/
def isEmpty (line : SourceLine) : Bool := line.content.all Text.isBlank

/-- Whether the line is a comment. -/
def isComment (line : SourceLine) : Bool :=
  ['/', '/'].isPrefixOf (Text.trimLeft line.content)

/-- Whether the line has a node in the document. -/
def isSignificant (line : SourceLine) : Bool := !line.isEmpty && !line.isComment

/-- The query that stands for a line that cannot be read. -/
def rejected (line : SourceLine) (error : Line.SyntaxError) : Node :=
  let stop := line.content.length
  .query (Line.spanOf 0 stop) [.missing (Line.spanOf error.offset stop) error.message]

/-- The node of the line, with offsets counted from the beginning of the text. -/
def node (line : SourceLine) : Node :=
  let node :=
    match Line.parse line.content with
    | .ok node => node
    | .error error => line.rejected error
  node.shift line.offset

/-- The lines of a text, the first of which stands at `offset`. -/
def ofLines (offset : Nat) : List (List Char) → List SourceLine
  | [] => []
  | line :: lines => ⟨offset, Text.lineContent line⟩ :: ofLines (offset + line.length) lines

/-- The lines of a text. -/
def ofText (text : List Char) : List SourceLine := ofLines 0 (Text.splitLines text)

end SourceLine

namespace Document

/-- The lines of a text that have nodes. -/
def significantLines (text : String) : List SourceLine :=
  (SourceLine.ofText text.toList).filter (·.isSignificant)

/-- The document that a text holds. -/
def ofText (text : String) : Document :=
  { span := Line.spanOf 0 text.length
    lines := (significantLines text).map (·.node)
    source := text }

/-- The query text of the document. -/
def print (document : Document) (lookup : String → Option String) : Except Fault String :=
  document.toNode.print document.source.toList lookup

end Document

end SearchQuery
