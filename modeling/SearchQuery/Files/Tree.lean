import SearchQuery.Files.Path
import SearchQuery.Text.Quoted

/-!
# Files

The files and directories that a run can meet, as a value.  Relative paths begin at the working
directory and absolute ones at the root; the working directory is always there.
-/

namespace SearchQuery

/-- What stands at a path. -/
inductive FileEntry where
  /-- A directory. -/
  | directory
  /-- A file and its content. -/
  | file (content : ByteArray)
  deriving Inhabited

/-- Why a path cannot be read or written. -/
inductive FileError where
  /-- Nothing stands there. -/
  | notFound
  /-- A file stands where the path goes on. -/
  | notADirectory
  /-- A directory stands there. -/
  | isADirectory
  deriving DecidableEq, Repr, Inhabited

namespace FileError

/-- The reason in words. -/
def reason : FileError → String
  | .notFound => "No such file or directory"
  | .notADirectory => "Not a directory"
  | .isADirectory => "Is a directory"

/-- The number by which systems know the reason. -/
def number : FileError → Nat
  | .notFound => 2
  | .notADirectory => 20
  | .isADirectory => 21

/-- The message for a path. -/
def message (path : String) (error : FileError) : String :=
  "[Errno " ++ toString error.number ++ "] " ++ error.reason ++ ": " ++ Text.quoted path

end FileError

/-- Why a file is not opened. -/
inductive OpenError where
  /-- The path holds a NUL character, so that the system is not even asked. -/
  | nulInPath
  /-- The system refuses. -/
  | system (error : FileError)
  deriving DecidableEq, Repr, Inhabited

/-- The message for a path. -/
def OpenError.message (path : String) : OpenError → String
  | .nulInPath => "embedded null byte"
  | .system error => error.message path

/-- Entries by the names that lead to them from the root. -/
structure FileTree where
  /-- The entries. -/
  entries : List (List String × FileEntry)
  /-- The names that lead to the working directory. -/
  home : List String
  deriving Inhabited

namespace FileTree

/-- The tree with nothing in its working directory. -/
def empty (home : List String) : FileTree := ⟨[], home⟩

/-- The entry at the end of some names. -/
def entry? (tree : FileTree) (names : List String) : Option FileEntry :=
  if names.isPrefixOf tree.home then some .directory else tree.entries.lookup names

/-- The tree with an entry at the end of some names, and directories on the way there. -/
def insert (tree : FileTree) (names : List String) (entry : FileEntry) : FileTree :=
  let ancestors := ((List.range names.length).map (names.take ·)).filter fun parent =>
    (tree.entry? parent).isNone
  { tree with
    entries := (names, entry) :: ancestors.map (·, .directory) ++
      tree.entries.filter fun other => other.1 != names }

/-- Follows names from a directory, each of them out of a directory that is there. -/
def follow (tree : FileTree) (place : List String) : List String → Except FileError (List String)
  | [] => .ok place
  | name :: names =>
      match tree.entry? place with
      | none => .error .notFound
      | some (.file _) => .error .notADirectory
      | some .directory =>
          tree.follow (Files.enter place name) names

/-- The names from which a path begins. -/
def origin (tree : FileTree) (path : String) : List String :=
  if Files.isAbsolute path then [] else tree.home

/-- The names to which a path leads, whether something stands there or not. -/
def resolve (tree : FileTree) (path : String) : Except FileError (List String) :=
  tree.follow (tree.origin path) (Files.pathNames path)

/-- The names that a path comes to if each `..` takes back the name in front of it, whatever stands
there. -/
def plainNames (tree : FileTree) (path : String) : List String :=
  (Files.pathNames path).foldl Files.enter (tree.origin path)

/-- What stands at a path. -/
def find (tree : FileTree) (path : String) : Except FileError FileEntry := do
  if Files.hasNul path then throw .notFound
  let names ← tree.resolve path
  match tree.entry? names with
  | some entry => return entry
  | none => throw .notFound

/-- The content of the file at a path. -/
def read (tree : FileTree) (path : String) : Except OpenError ByteArray :=
  if Files.hasNul path then .error .nulInPath
  else
    match tree.find path with
    | .error error => .error (.system error)
    | .ok .directory => .error (.system .isADirectory)
    | .ok (.file content) => .ok content

/-- The names of a file that can be written at a path, and what stands there so far.  Nothing need
stand at a name that is taken back. -/
def placeFor (tree : FileTree) (path : String) : Except FileError (List String × ByteArray) := do
  let names ← tree.follow [] (tree.plainNames path)
  match tree.entry? names with
  | some .directory => throw .isADirectory
  | some (.file content) => return (names, content)
  | none =>
      match tree.entry? names.dropLast with
      | some .directory => return (names, ByteArray.empty)
      | some (.file _) => throw .notADirectory
      | none => throw .notFound

/-- Adds text at the end of the file at a path, which is made if it is not there. -/
def append (tree : FileTree) (path text : String) : Except OpenError FileTree :=
  if Files.hasNul path then .error .nulInPath
  else
    match tree.placeFor path with
    | .error error => .error (.system error)
    | .ok (names, content) => .ok (tree.insert names (.file (content ++ text.toUTF8)))

end FileTree

end SearchQuery
