import SearchQuery.Catalog.File
import SearchQuery.Command.Usage
import SearchQuery.Console.Markup
import SearchQuery.Files.Document
import SearchQuery.Log.Event
import SearchQuery.Validation.Document

/-!
# Runs

A run takes the arguments of a call, the settings and the files, and gives the output, the messages
and the files after it.  The catalog is loaded before the document is read, so of two faults the one
in the catalog is reported.
-/

namespace SearchQuery.Command

/-- The paths that a run with the given arguments may read or write, among them every argument and
every value behind an equals sign. -/
def pathsFor (settings : Settings) (arguments : List String) : List String :=
  settings.paths ++ arguments.flatMap fun argument =>
    argument :: (splitValue argument).2.toList

/-- What a run depends on. -/
structure Context where
  /-- The settings. -/
  settings : Settings
  /-- The files. -/
  files : FileTree
  /-- The day of the run, as it stands in reports. -/
  today : String
  /-- The time of the run, as it stands in a log file. -/
  time : String

/-- Why a run breaks off without a report. -/
inductive Crash where
  /-- The log file cannot be opened. -/
  | logFile (error : OpenError) (path : String)
  /-- The document is not a text. -/
  | undecodable
  /-- Loading the catalog breaks off. -/
  | catalog (fault : CatalogFault)
  deriving DecidableEq, Repr, Inhabited

/-- The message on a run that breaks off. -/
def Crash.message : Crash → String
  | .logFile error path => error.message path
  | .undecodable => "The file is not UTF-8."
  | .catalog fault => fault.message

/-- What a run leaves behind. -/
structure Outcome where
  /-- The status of a run that does not break off. -/
  status : Except Crash Nat
  /-- What is written to the output. -/
  output : String
  /-- What is written to the error stream. -/
  errors : String
  /-- The files. -/
  files : FileTree

/-- Why a command has nothing to work on. -/
inductive InputError where
  /-- The catalog is refused. -/
  | catalog (path : Option String) (error : CatalogError)
  /-- The document cannot be read. -/
  | document (error : DocumentError)
  deriving DecidableEq, Repr, Inhabited

/-- The message of an error. -/
def InputError.message : InputError → String
  | .catalog path error => error.message path
  | .document error => error.message

/-- What a command works on. -/
structure Input where
  /-- The document. -/
  document : Document
  /-- The symbols, with the variables of the document. -/
  table : SymbolTable

/-- The steps taken by a part of a run and what came of it. -/
structure Step (α : Type) where
  /-- The steps. -/
  events : List Event
  /-- What came of them. -/
  result : α

/-- What became of a command's input. -/
inductive Loaded where
  /-- It was read. -/
  | input (input : Input)
  /-- It is refused with a report. -/
  | refused (error : InputError)
  /-- The run breaks off. -/
  | crashed (crash : Crash)

/-- Reads a document with the symbols of a catalog. -/
def loadDocument (files : FileTree) (qualifiers : List Qualifier) (path : String) : Step Loaded :=
  match Document.ofFile files path with
  | .error .undecodable => ⟨[], .crashed .undecodable⟩
  | .error error => ⟨[], .refused (.document error)⟩
  | .ok document =>
      let update := (Catalog.table qualifiers).update document
      ⟨Event.ofReading document ++ update.added.map .variableAdded,
        .input ⟨document, update.table⟩⟩

/-- Loads the catalog that the settings name and reads a document. -/
def load (context : Context) (path : String) : Step Loaded :=
  let catalog := context.settings.catalogFor none
  match Catalog.load context.files catalog with
  | .error (.refused error) => ⟨[], .refused (.catalog catalog error)⟩
  | .error (.fault fault) => ⟨[], .crashed (.catalog fault)⟩
  | .ok qualifiers =>
      let step := loadDocument context.files qualifiers path
      ⟨.catalogLoaded qualifiers.length (Catalog.name catalog) :: step.events, step.result⟩

/-- A report with the day in front. -/
def stamped (context : Context) (text : String) : String :=
  Console.printWrapped ("[" ++ context.today ++ "] " ++ text) ""

/-- The report on an input that is refused. -/
def refusal (context : Context) (command : Subcommand) (error : InputError) : String :=
  Console.printWrapped
    ("[" ++ context.today ++ "] " ++ command.activity ++ " failed with error(s): ") error.message

/-- The status and the output of a command. -/
abbrev Report : Type := Nat × String

/-- Reports what is wrong with a document. -/
def validate (context : Context) (input : Input) : Step Report :=
  let found := (Validation.ofDocument input.table input.document).toOption.getD []
  let events := [.linesValidated input.document.lines.length found.length]
  if found.isEmpty then ⟨events, (0, stamped context "Document validation success!")⟩
  else
    let source := input.document.source.toList
    let lines := found.map fun diagnostic => Console.printLine (diagnostic.render source)
    let summary := "Validation found " ++ toString found.length ++ " problem(s)."
    ⟨events, (1, String.join lines ++ stamped context summary)⟩

/-- Shows how a document is read. -/
def inspect (input : Input) : Step Report :=
  ⟨[], (0, (Outline.render input.document (some input.table)).toOption.getD "")⟩

/-- Lists the repositories that a document names. -/
def repos (context : Context) (input : Input) : Step Report :=
  let format := RepositoryFormat.ofSettings context.settings none none
  let values :=
    (Repository.values input.document input.table format.qualifier).toOption.getD []
  let found := values.filterMap (Repository.ofValue? format.separator)
  ⟨[.valuesFound values.length format.qualifier],
    (0, String.join (found.map fun info => Console.printPlain (info.owner ++ "/" ++ info.name)))⟩

/-- What a command reports on its input. -/
def report (context : Context) (command : Subcommand) (input : Input) : Step Report :=
  match command with
  | .validate => validate context input
  | .inspect => inspect input
  | .repos => repos context input

/-- What comes of a command with the path of its document. -/
def execute (context : Context) (command : Subcommand) (path : String) :
    Step (Except Crash Report) :=
  let loaded := load context path
  match loaded.result with
  | .crashed crash => ⟨loaded.events, .error crash⟩
  | .refused error => ⟨loaded.events, .ok (1, refusal context command error)⟩
  | .input input =>
      let step := report context command input
      ⟨loaded.events ++ step.events, .ok step.result⟩

/-- The text that some events add to the error stream, and the files after them. -/
def logEvents (logger : Logger) (time : String) (files : FileTree) (events : List Event) :
    String × FileTree :=
  events.foldl (fun (text, files) event =>
    let (more, files) := logger.log files time event.record
    (text ++ more, files)) ("", files)

/-- The outcome of a call that is not right. -/
def misuse (context : Context) (topic : Topic) (error : UsageError) : Outcome :=
  { status := .ok 2, output := "", errors := error.report topic, files := context.files }

/-- The outcome of a call that breaks off at once. -/
def breakOff (context : Context) (crash : Crash) : Outcome :=
  { status := .error crash, output := "", errors := "", files := context.files }

/-- The outcome of asking for help. -/
def showHelp (context : Context) (topic : Topic) : Outcome :=
  { status := .ok 0, output := topic.help, errors := "", files := context.files }

/-- Runs a command with its arguments, once the logger is configured. -/
def runCommand (context : Context) (logger : Logger) (command : Subcommand)
    (arguments : List String) : Outcome :=
  let topic := Topic.command command
  match readArguments topic.options true arguments with
  | .error error => misuse context topic (.badOption error)
  | .ok arguments =>
      if arguments.has "--help" then showHelp context topic
      else
        match arguments.others with
        | [] => misuse context topic .missingPath
        | [path] =>
            let step := execute context command path
            let (errors, files) := logEvents logger context.time context.files step.events
            match step.result with
            | .error crash => { status := .error crash, output := "", errors, files }
            | .ok (status, output) => { status := .ok status, output, errors, files }
        | _ :: extra => misuse context topic (.extraArguments extra)

/-- What is wrong with the name of a command that is none.  A name that is written like an option is
read as one first. -/
def unknownCommand (context : Context) (name : String) (arguments : List String) : Outcome :=
  let error := misuse context .program (.unknownCommand name)
  if isOption name then
    match readArguments Topic.program.options false (name :: arguments) with
    | .error error => misuse context .program (.badOption error)
    | .ok given => if given.has "--help" then showHelp context .program else error
  else error

/-- Configures the logger and runs a command. -/
def start (context : Context) (given : Arguments) (command : Subcommand)
    (arguments : List String) : Outcome :=
  let path := given.value? "--log-file"
  let configured := Logger.initial.configureFor context.files context.settings
    (given.has "--verbose") (given.has "--quiet") path
  match configured.failure with
  | some error =>
      let path := (context.settings.logFileFor path).getD ""
      { status := .error (.logFile error path), output := "", errors := "",
        files := configured.files }
  | none =>
      runCommand { context with files := configured.files } configured.logger command arguments

/-- Whether a path is that of a directory. -/
def isDirectory (files : FileTree) (path : String) : Bool :=
  path ≠ "" && match files.find path with
    | .ok .directory => true
    | _ => false

/-- Runs the command that is named. -/
def dispatch (context : Context) (given : Arguments) : Outcome :=
  match given.others with
  | [] => misuse context .program .missingCommand
  | name :: arguments =>
      match Subcommand.ofName? name with
      | some command => start context given command arguments
      | none => unknownCommand context name arguments

/-- Runs the program. -/
def run (context : Context) (arguments : List String) : Outcome :=
  if arguments.isEmpty then
    { status := .ok 2, output := "", errors := Topic.program.help, files := context.files }
  else
    match readArguments Topic.program.options false arguments with
    | .error error => misuse context .program (.badOption error)
    | .ok given =>
        if given.has "--help" then showHelp context .program
        else
          match given.value? "--log-file" with
          | none => dispatch context given
          | some path =>
              if Files.hasNul path then breakOff context (.logFile .nulInPath path)
              else if isDirectory context.files path then
                misuse context .program (.logIsDirectory path)
              else dispatch context given

end SearchQuery.Command
