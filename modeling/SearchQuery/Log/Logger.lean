import SearchQuery.Files.Tree
import SearchQuery.Log.Message

/-!
# Loggers

All loggers hang below one logger, which has the handlers.  A message that is important enough for
the logger goes to each handler for which it is important enough.  Handlers that were installed here
are replaced when the logger is configured anew; those installed by others stay where they are.
-/

namespace SearchQuery

/-- The name of the logger with the handlers. -/
def loggerName : String := "qdsl"

/-- What stands in front of the names of the loggers below it. -/
def loggerStem : String := loggerName ++ "."

/-- The last part of a name, behind the last point. -/
def lastPart (name : String) : String :=
  String.ofList (name.toList.reverse.takeWhile (· ≠ '.')).reverse

/-- The name of the logger for a component. -/
def loggerFor (name : Option String) : String :=
  match name with
  | none => loggerName
  | some name => if name = loggerName then loggerName else loggerStem ++ lastPart name

/-- A place where messages go. -/
inductive Handler where
  /-- A handler that was not installed here. -/
  | foreign (number : Nat)
  /-- The error stream, for messages from a level on. -/
  | stream (level : Level)
  /-- The file at a path, for messages from a level on. -/
  | file (path : String) (level : Level)
  deriving DecidableEq, Repr, Inhabited

namespace Handler

/-- Whether the handler was installed here. -/
def isOwned : Handler → Bool
  | .foreign _ => false
  | _ => true

end Handler

/-- The logger with the handlers. -/
structure Logger where
  /-- The least level of the messages that are handled; zero leaves it to the standard. -/
  level : Level
  /-- Whether messages also go to loggers above this one. -/
  propagates : Bool
  /-- The handlers, in the order installed. -/
  handlers : List Handler
  deriving DecidableEq, Repr, Inhabited

/-- A message to be handled. -/
structure LogRecord where
  /-- Name of the logger. -/
  name : String
  /-- How important the message is. -/
  level : Level
  /-- The message, with its places filled. -/
  text : String
  deriving DecidableEq, Repr, Inhabited

namespace LogRecord

/-- The part of the logger's name behind the common one. -/
def component (record : LogRecord) : String :=
  let stem := loggerStem.toList
  if stem.isPrefixOf record.name.toList then
    String.ofList (record.name.toList.drop stem.length)
  else ""

/-- A message as it stands in the error stream. -/
def line (record : LogRecord) : String :=
  let mark := "[" ++ record.level.name ++ "] "
  if record.component.isEmpty then mark ++ record.text
  else mark ++ record.component ++ ": " ++ record.text

/-- A message as it stands in a log file. -/
def fileLine (record : LogRecord) (time : String) : String :=
  time ++ " " ++ record.level.name ++ " " ++ record.name ++ ": " ++ record.text

end LogRecord

/-- What became of a logger and the files when it was configured. -/
structure Configured where
  /-- The logger. -/
  logger : Logger
  /-- The files. -/
  files : FileTree
  /-- The handlers that were removed and closed. -/
  closed : List Handler
  /-- Why the log file could not be opened, if it could not. -/
  failure : Option OpenError

namespace Logger

/-- The logger before anything was configured. -/
def initial : Logger := { level := 0, propagates := true, handlers := [] }

/-- Installs a handler behind the others, unless it is installed already. -/
def install (logger : Logger) (handler : Handler) : Logger :=
  if handler ∈ logger.handlers then logger
  else { logger with handlers := logger.handlers ++ [handler] }

/-- The logger with a handler for the error stream in place of all that were installed here. -/
def restart (logger : Logger) (level : Level) : Logger :=
  { level := level
    propagates := false
    handlers := logger.handlers.filter (!·.isOwned) ++ [.stream level] }

/-- Configures the logger for a level, with a log file if a path is given.  The file gets every
detail, whatever the level. -/
def configure (logger : Logger) (files : FileTree) (level : Level) (path : Option String) :
    Configured :=
  let closed := logger.handlers.filter (·.isOwned)
  let started := logger.restart level
  match path with
  | none => { logger := started, files, closed, failure := none }
  | some path =>
      match files.append path "" with
      | .error failure => { logger := started, files, closed, failure := some failure }
      | .ok files =>
          { logger := { started.install (.file path .debug) with level := .debug }
            files, closed, failure := none }

/-- Configures the logger as the settings and a call ask for. -/
def configureFor (logger : Logger) (files : FileTree) (settings : Settings) (verbose quiet : Bool)
    (path : Option String) : Configured :=
  logger.configure files (Level.forRun settings verbose quiet) (settings.logFileFor path)

/-- The least level that is handled. -/
def threshold (logger : Logger) : Level := if logger.level = 0 then .warning else logger.level

/-- The text that a handler adds to the error stream, and the files after it. -/
def handle (record : LogRecord) (time : String) (files : FileTree) : Handler → String × FileTree
  | .foreign _ => ("", files)
  | .stream level => (if level ≤ record.level then record.line ++ "\n" else "", files)
  | .file path level =>
      if level ≤ record.level then
        ("", (files.append path (record.fileLine time ++ "\n")).toOption.getD files)
      else ("", files)

/-- The text that a message adds to the error stream, and the files after it.  Where there is no
handler at all, a warning is written without anything in front. -/
def log (logger : Logger) (files : FileTree) (time : String) (record : LogRecord) :
    String × FileTree :=
  if record.level < logger.threshold then ("", files)
  else if logger.handlers.isEmpty then
    (if Level.warning ≤ record.level then record.text ++ "\n" else "", files)
  else
    logger.handlers.foldl (fun (text, files) handler =>
      let (more, files) := handle record time files handler
      (text ++ more, files)) ("", files)

end Logger

end SearchQuery
