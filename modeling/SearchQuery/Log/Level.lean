import SearchQuery.Settings.Basic

/-!
# Levels

The importance of a message is a number.  Six of the numbers have names.
-/

namespace SearchQuery

/-- The importance of a message. -/
abbrev Level : Type := Int

namespace Level

/-- Details for finding faults. -/
def debug : Level := 10

/-- What goes on. -/
def info : Level := 20

/-- What may be wrong. -/
def warning : Level := 30

/-- The names by which levels are asked for. -/
def named : List (String × Level) :=
  [("CRITICAL", 50), ("FATAL", 50), ("ERROR", 40), ("WARNING", 30), ("WARN", 30), ("INFO", 20),
   ("DEBUG", 10), ("NOTSET", 0)]

/-- A letter in upper case, as far as the names of levels can hold it. -/
def upperLetter (c : Char) : Char :=
  if c = '\u0131' then 'I' else if c = '\u017f' then 'S' else c.toUpper

/-- The level of a name in any mixture of cases. -/
def ofName? (name : String) : Option Level := named.lookup (name.map upperLetter)

/-- The name of a level in a message. -/
def name (level : Level) : String :=
  match named.find? (·.2 == level) with
  | some (name, _) => name
  | none => "Level " ++ toString level

/-- The level of a run: `verbose` asks for details and `quiet` for warnings; without either, the
settings name it, and a name that is not known stands for what goes on. -/
def forRun (settings : Settings) (verbose quiet : Bool) : Level :=
  if verbose then debug
  else if quiet then warning
  else (ofName? settings.logLevel).getD info

end Level

end SearchQuery
