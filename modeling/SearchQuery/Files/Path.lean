/-!
# Paths

A path is a sequence of names between slashes.  Empty names and names `.` mean nothing and are left
out; the name `..` stays, for where it leads depends on the files.
-/

namespace SearchQuery.Files

/-- The parts of a text between slashes. -/
def splitSlashes : List Char → List (List Char)
  | [] => [[]]
  | c :: rest =>
      if c = '/' then [] :: splitSlashes rest
      else
        match splitSlashes rest with
        | [] => [[c]]
        | part :: parts => (c :: part) :: parts

/-- The names of a path that mean something. -/
def pathNames (path : String) : List String :=
  ((splitSlashes path.toList).map String.ofList).filter fun name => name ≠ "" ∧ name ≠ "."

/-- The slashes in front of an absolute path.  Exactly two of them are kept, any more count as
one. -/
def pathRoot (path : String) : String :=
  match path.toList with
  | '/' :: '/' :: '/' :: _ => "/"
  | '/' :: '/' :: _ => "//"
  | '/' :: _ => "/"
  | _ => ""

/-- Whether a path holds the character that no name can have. -/
def hasNul (path : String) : Bool := path.toList.contains '\x00'

/-- Whether a path begins at the root of the file system. -/
def isAbsolute (path : String) : Bool := pathRoot path ≠ ""

/-- A path without what means nothing. -/
def normalPath (path : String) : String :=
  let text := pathRoot path ++ "/".intercalate (pathNames path)
  if text.isEmpty then "." else text

/-- The names that lead on from a directory by one more name; `..` takes the last of them back, but
does not lead above the root. -/
def enter (place : List String) (name : String) : List String :=
  if name = ".." then place.dropLast else place ++ [name]

/-- The last name of a path. -/
def baseName (path : String) : String := (pathNames path).getLastD ""

end SearchQuery.Files
