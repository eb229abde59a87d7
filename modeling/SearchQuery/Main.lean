import SearchQuery.Command.Run
import Std.Time.Format

/-!
# The program

The program gathers what a run depends on: the settings, the day and the time, and whatever stands
at the paths that the run may read or write.  It then hands over what comes of the run, that is, the
output, the messages, the files that have changed and the status.
-/

namespace SearchQuery.Main

/-- The absolute path of some names. -/
def pathOf (names : List String) : String := "/" ++ "/".intercalate names

/-- What stands at a path whose directory is there. -/
def lookAt (path : String) : IO (Option FileEntry) := do
  match ← (IO.FS.readBinFile path).toBaseIO with
  | .ok content => return some (.file content)
  | .error (.inappropriateType ..) => return some .directory
  | .error _ => return none

/-- The tree with what stands on the way from a directory along some names. -/
def gather (files : FileTree) (place : List String) : List String → IO FileTree
  | [] => return files
  | name :: names => do
      let next := Files.enter place name
      let entry ←
        match files.entry? next with
        | some entry => pure (some entry)
        | none => lookAt (pathOf next)
      match entry with
      | none => return files
      | some (.file content) => return files.insert next (.file content)
      | some .directory => gather (files.insert next .directory) next names

/-- The tree with what stands at a path, also if each `..` in it takes back a name. -/
def gatherAt (files : FileTree) (path : String) : IO FileTree := do
  let files ← gather files (files.origin path) (Files.pathNames path)
  gather files [] (files.plainNames path)

/-- The working directory with what stands at some paths. -/
def gatherAll (paths : List String) : IO FileTree := do
  let home ← IO.FS.realPath "."
  paths.foldlM gatherAt (.empty (Files.pathNames (toString home)))

/-- The value of a name in the environment. -/
def readVariable (name : String) : IO (Option Settings.Binding) := do
  let value ← IO.getEnv name
  return value.map fun value => ⟨name, some value⟩

/-- The settings, of which the environment is asked in upper and in lower case. -/
def readSettings : IO Settings := do
  let names := Settings.names.map Settings.assignedName
  let environment ← (names.map (·.toLower) ++ names).mapM readVariable
  let file ← lookAt ".env"
  let text :=
    match file with
    | some (.file content) => (Files.decode? content).getD ""
    | _ => ""
  return .ofSources (environment.filterMap id) (Settings.Binding.ofText text)

/-- Writes the files of a tree that another tree does not have or has with another content. -/
def writeChanges (before after : FileTree) : IO Unit :=
  after.entries.forM fun (names, entry) => do
    if let .file content := entry then
      let kept :=
        match before.entry? names with
        | some (.file old) => old == content
        | _ => false
      unless kept do IO.FS.writeBinFile (pathOf names) content

/-- Runs the program with the arguments of a call. -/
def start (arguments : List String) : IO UInt32 := do
  let settings ← readSettings
  let files ← gatherAll (Command.pathsFor settings arguments)
  let now ← Std.Time.PlainDateTime.now
  let context : Command.Context :=
    { settings, files
      today := now.date.format "uuuu-MM-dd"
      time := now.format "uuuu-MM-dd HH:mm:ss" }
  let outcome := Command.run context arguments
  IO.print outcome.output
  IO.eprint outcome.errors
  writeChanges files outcome.files
  match outcome.status with
  | .ok status => return status.toUInt32
  | .error crash =>
      IO.eprintln crash.message
      return 1

end SearchQuery.Main

/-- The program. -/
def main (arguments : List String) : IO UInt32 := SearchQuery.Main.start arguments
