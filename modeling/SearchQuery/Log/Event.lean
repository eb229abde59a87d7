import SearchQuery.Log.Logger
import SearchQuery.Outline
import SearchQuery.Repository

/-!
# Events

The steps of a run that are worth a message, each logged as a detail under the name of the component
that takes the step.
-/

namespace SearchQuery

/-- A step of a run. -/
inductive Event where
  /-- A catalog was loaded. -/
  | catalogLoaded (count : Nat) (catalog : String)
  /-- A line of a document cannot be read. -/
  | lineRejected (offset : Nat) (message : String)
  /-- A document was read. -/
  | linesRead (count : Nat)
  /-- A variable was added to the symbols. -/
  | variableAdded (info : Variable)
  /-- A document was validated. -/
  | linesValidated (lines found : Nat)
  /-- The values of the repository qualifier were found. -/
  | valuesFound (count : Nat) (qualifier : String)
  deriving DecidableEq, Repr, Inhabited

namespace Event

/-- The component that takes the step. -/
def component : Event → String
  | .catalogLoaded .. => "symbols"
  | .lineRejected .. => "language"
  | .linesRead _ => "language"
  | .variableAdded _ => "symbols"
  | .linesValidated .. => "query_validators"
  | .valuesFound .. => "repo_extractor"

/-- The message of an event. -/
def text : Event → String
  | .catalogLoaded count catalog =>
      "Loaded " ++ toString count ++ " qualifiers from " ++ catalog
  | .lineRejected offset message =>
      "Syntax error at offset " ++ toString offset ++ ": " ++ message
  | .linesRead count => "Parsed " ++ toString count ++ " line(s)"
  | .variableAdded info => "Variable " ++ Outline.variableText info
  | .linesValidated lines found =>
      "Validated " ++ toString lines ++ " line(s): " ++ toString found ++ " diagnostic(s)"
  | .valuesFound count qualifier =>
      "Found " ++ toString count ++ " '" ++ qualifier ++ "' value(s)"

/-- The message to be logged. -/
def record (event : Event) : LogRecord :=
  { name := loggerFor (some event.component), level := .debug, text := event.text }

/-- The event of a line of a text, if it cannot be read. -/
def ofLine? (line : SourceLine) : Option Event :=
  match Line.parse line.content with
  | .ok _ => none
  | .error error => some (.lineRejected line.offset error.message)

/-- The events of reading a document. -/
def ofReading (document : Document) : List Event :=
  (Document.significantLines document.source).filterMap ofLine? ++
    [.linesRead document.lines.length]

end Event

end SearchQuery
