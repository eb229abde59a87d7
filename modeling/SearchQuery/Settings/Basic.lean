import SearchQuery.Settings.Assignments

/-!
# Settings

Settings come from the environment and from a file of assignments.  The name of a setting stands
there with `QDSL_` in front, in any mixture of cases.  The environment goes before the file, even
with an empty value; in each of them the last value counts.
-/

namespace SearchQuery

/-- The settings of the program. -/
structure Settings where
  /-- Name of the least level that is logged. -/
  logLevel : String
  /-- Path of a log file. -/
  logFile : Option String
  /-- Path of a catalog that replaces the packaged one. -/
  catalogPath : Option String
  /-- The qualifier whose values name repositories. -/
  repoQualifier : String
  /-- What stands between the owner and the name of a repository. -/
  repoSeparator : String
  deriving DecidableEq, Repr

namespace Settings

/-- The settings that hold unless something else is said. -/
def standard : Settings :=
  { logLevel := "INFO", logFile := none, catalogPath := none, repoQualifier := "repo",
    repoSeparator := "/" }

instance : Inhabited Settings := ⟨standard⟩

/-- Whether two names differ at most in the case of their ASCII letters. -/
def sameName (left right : String) : Bool :=
  left.toList.map Char.toLower == right.toList.map Char.toLower

/-- The assignments with one more.  The value of a name that is there already is replaced where it
stands. -/
def assign (bindings : List Binding) (binding : Binding) : List Binding :=
  match bindings with
  | [] => [binding]
  | first :: rest =>
      if first.name = binding.name then binding :: rest else first :: assign rest binding

/-- The value of a name, in any mixture of cases. -/
def valueOf? (bindings : List Binding) (name : String) : Option String :=
  ((bindings.foldl assign []).reverse.find? (sameName ·.name name)).bind (·.value)

/-- The names of the settings. -/
def names : List String :=
  ["LOG_LEVEL", "LOG_FILE", "CATALOG_PATH", "REPO_QUALIFIER", "REPO_SEPARATOR"]

/-- The name under which a setting stands in the environment and in files. -/
def assignedName (name : String) : String := "QDSL_" ++ name

/-- The value of a setting in the environment or else in the file. -/
def setting? (environment file : List Binding) (name : String) : Option String :=
  let name := assignedName name
  (valueOf? environment name).or (valueOf? file name)

/-- The settings that an environment and a file of assignments give. -/
def ofSources (environment file : List Binding) : Settings :=
  let value := setting? environment file
  { logLevel := (value "LOG_LEVEL").getD standard.logLevel
    logFile := value "LOG_FILE"
    catalogPath := value "CATALOG_PATH"
    repoQualifier := (value "REPO_QUALIFIER").getD standard.repoQualifier
    repoSeparator := (value "REPO_SEPARATOR").getD standard.repoSeparator }

/-- A text unless it is empty. -/
def nonEmpty? (text : Option String) : Option String := text.filter (· ≠ "")

/-- The path of the catalog to load, if it is not the packaged one. -/
def catalogFor (settings : Settings) (path : Option String) : Option String :=
  (nonEmpty? path).or (nonEmpty? settings.catalogPath)

/-- The path of the log file, if one is wanted. -/
def logFileFor (settings : Settings) (path : Option String) : Option String :=
  (nonEmpty? path).or (nonEmpty? settings.logFile)

/-- The paths that the settings name. -/
def paths (settings : Settings) : List String :=
  settings.logFile.toList ++ settings.catalogPath.toList

end Settings

end SearchQuery
