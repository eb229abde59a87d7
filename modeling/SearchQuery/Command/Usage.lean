import SearchQuery.Command.Options
import SearchQuery.Text.Quoted
import SearchQuery.Text.Similarity

/-!
# Usage

How the program is called: the commands with their options, the help on them, and what is said
about a call that is not right.
-/

namespace SearchQuery.Command

/-- The commands. -/
inductive Subcommand where
  /-- Lists what is wrong with a document. -/
  | validate
  /-- Shows how a document is read. -/
  | inspect
  /-- Lists the repositories that a document names. -/
  | repos
  deriving DecidableEq, Repr, Inhabited

namespace Subcommand

/-- The commands in alphabetical order. -/
def all : List Subcommand := [.inspect, .repos, .validate]

/-- The name of a command. -/
def name : Subcommand → String
  | .validate => "validate"
  | .inspect => "inspect"
  | .repos => "repos"

/-- What a command does. -/
def summary : Subcommand → String
  | .validate => "Validate a query document and list every problem found."
  | .inspect => "Parse and print the document tree and its variables."
  | .repos => "List the owner/repo pairs referenced by repo: qualifiers."

/-- The command of a name. -/
def ofName? (name : String) : Option Subcommand := all.find? (·.name == name)

/-- The word for what a command does when it fails. -/
def activity : Subcommand → String
  | .validate => "Validation"
  | .inspect => "Inspect"
  | .repos => "Extraction"

end Subcommand

/-- What a call is about: the program or one of its commands. -/
inductive Topic where
  | program
  | command (chosen : Subcommand)
  deriving DecidableEq, Repr, Inhabited

namespace Topic

/-- The words by which a call begins. -/
def words : Topic → String
  | .program => "qdsl"
  | .command chosen => "qdsl " ++ chosen.name

/-- The line that shows the form of a call. -/
def usageLine : Topic → String
  | .program => "Usage: qdsl [OPTIONS] COMMAND [ARGS]...\n"
  | .command chosen => "Usage: qdsl " ++ chosen.name ++ " [OPTIONS] DOCUMENT_PATH\n"

/-- A text with spaces behind it, up to a width. -/
def padRight (width : Nat) (text : String) : String :=
  text ++ String.ofList (List.replicate (width - text.length) ' ')

/-- Rows of two columns, the second of which begins two spaces behind the widest entry. -/
def rows (entries : List (String × String)) : String :=
  let width := (entries.map (·.1.length)).foldl max 0 + 2
  String.join (entries.map fun entry => "  " ++ padRight width entry.1 ++ entry.2 ++ "\n")

/-- The help on the option that asks for help. -/
def helpEntry : String × String := ("--help", "Show this message and exit.")

/-- The help on a topic. -/
def help (topic : Topic) : String :=
  topic.usageLine ++ "\n" ++
    match topic with
    | .program =>
        "Options:\n" ++
          rows [("-v, --verbose", "Enable debug output."),
            ("-q, --quiet", "Only print warnings and errors."),
            ("--log-file FILE", "Also write a debug log to this file."), helpEntry] ++
          "\nCommands:\n" ++
          rows (Subcommand.all.map fun command => (command.name, command.summary))
    | .command chosen => "  " ++ chosen.summary ++ "\n\nOptions:\n" ++ rows [helpEntry]

/-- The options of a topic. -/
def options : Topic → List OptionSpec
  | .program =>
      [⟨"--verbose", some 'v', false⟩, ⟨"--quiet", some 'q', false⟩, ⟨"--log-file", none, true⟩,
       ⟨"--help", none, false⟩]
  | .command _ => [⟨"--help", none, false⟩]

end Topic

/-- What is wrong with a call. -/
inductive UsageError where
  /-- The options are wrong. -/
  | badOption (error : OptionError)
  /-- The log file is a directory. -/
  | logIsDirectory (path : String)
  /-- There is no command. -/
  | missingCommand
  /-- There is no command of that name. -/
  | unknownCommand (name : String)
  /-- The path of the document is missing. -/
  | missingPath
  /-- There are more arguments than a path. -/
  | extraArguments (arguments : List String)
  deriving DecidableEq, Repr

namespace UsageError

/-- A hint at words that are similar to one that is not known. -/
def hint (word : String) (known : List String) : String :=
  match (Text.similarWords word known).map Text.quoted with
  | [] => ""
  | [one] => " Did you mean " ++ one ++ "?"
  | several => " (Did you mean one of: " ++ ", ".intercalate several ++ "?)"

/-- The message of an error. -/
def message : UsageError → String
  | .badOption (.unknown name known) =>
      "No such option " ++ Text.quoted name ++ "." ++ hint name known
  | .badOption (.takesNoValue name) =>
      "Option " ++ Text.quoted name ++ " does not take a value."
  | .badOption (.needsValue name) => "Option " ++ Text.quoted name ++ " requires an argument."
  | .logIsDirectory path =>
      "Invalid value for '--log-file': File " ++ Text.quoted path ++ " is a directory."
  | .missingCommand => "Missing command."
  | .unknownCommand name =>
      "No such command " ++ Text.quoted name ++ "." ++ hint name (Subcommand.all.map (·.name))
  | .missingPath => "Missing argument 'DOCUMENT_PATH'."
  | .extraArguments [argument] => "Got unexpected extra argument (" ++ argument ++ ")"
  | .extraArguments arguments =>
      "Got unexpected extra arguments (" ++ " ".intercalate arguments ++ ")"

/-- Whether the form of the call is shown with the error. -/
def showsUsage : UsageError → Bool
  | .badOption (.takesNoValue _) => false
  | .badOption (.needsValue _) => false
  | _ => true

/-- What is said about a call. -/
def report (topic : Topic) (error : UsageError) : String :=
  (if error.showsUsage then
    topic.usageLine ++ "Try '" ++ topic.words ++ " --help' for help.\n\n" else "") ++
    "Error: " ++ error.message ++ "\n"

end UsageError

end SearchQuery.Command
