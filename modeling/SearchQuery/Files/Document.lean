import SearchQuery.Document
import SearchQuery.Files.Text

/-!
# Document files

A document can be read from the file at a path.
-/

namespace SearchQuery

/-- Why a document cannot be read from a path. -/
inductive DocumentError where
  /-- There is no such file. -/
  | notFound (path : String)
  /-- The file cannot be opened. -/
  | unreadable (error : FileError) (path : String)
  /-- The file is not a text. -/
  | undecodable
  deriving DecidableEq, Repr, Inhabited

namespace DocumentError

/-- The message of an error; a file that is not a text has none. -/
def message : DocumentError → String
  | .notFound path => "File not found: " ++ path
  | .unreadable error path => error.message path
  | .undecodable => ""

end DocumentError

/-- The document in the file at a path. -/
def Document.ofFile (files : FileTree) (path : String) : Except DocumentError Document :=
  let path := Files.normalPath path
  match files.find path with
  | .error _ => .error (.notFound path)
  | .ok .directory => .error (.unreadable .isADirectory path)
  | .ok (.file content) =>
      match Files.decode? content with
      | some text => .ok (.ofText text)
      | none => .error .undecodable

end SearchQuery
