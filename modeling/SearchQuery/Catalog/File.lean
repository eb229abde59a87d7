import SearchQuery.Catalog.Entry
import SearchQuery.Catalog.Packaged
import SearchQuery.Files.Text
import SearchQuery.Yaml.Reader

/-!
# Catalog files

A catalog file maps the names of qualifiers to their entries, below the top-level key
`qualifiers`.
-/

namespace SearchQuery

/-- Why a catalog is refused. -/
inductive CatalogError where
  /-- The file cannot be read. -/
  | unreadable (error : FileError)
  /-- The file does not follow the rules of YAML. -/
  | malformed
  /-- There is no mapping of qualifiers. -/
  | noQualifiers
  /-- The entry of a qualifier is refused. -/
  | badEntry (name : String) (error : EntryError)
  deriving DecidableEq, Repr, Inhabited

namespace CatalogError

/-- What is wrong with a catalog. -/
def reason : CatalogError → String
  | .unreadable error => "cannot read catalog (" ++ error.reason ++ ")"
  | .malformed => "invalid YAML"
  | .noQualifiers => "expected a top-level 'qualifiers' mapping"
  | .badEntry name error => error.message name

/-- The message for a catalog that may have a path. -/
def message (path : Option String) (error : CatalogError) : String :=
  match path with
  | some path => path ++ ": " ++ error.reason
  | none => error.reason

end CatalogError

/-- What breaks off the loading of a catalog, so that it is not even refused. -/
inductive CatalogFault where
  /-- The path holds a NUL character. -/
  | nulInPath
  /-- The file is not a text. -/
  | undecodable
  /-- The file holds a scalar without a value. -/
  | badScalar (error : Yaml.ScalarError)
  /-- The file holds something that the reader of values does not cover. -/
  | uncovered
  /-- The name of a qualifier or a member of a group has no text. -/
  | noText
  deriving DecidableEq, Repr, Inhabited

/-- The message of a fault. -/
def CatalogFault.message : CatalogFault → String
  | .nulInPath => "embedded null byte"
  | .undecodable => "The file is not UTF-8."
  | .badScalar error => error.message
  | .uncovered => "The file goes beyond the part of YAML that is read."
  | .noText => Number.tooManyDigits ""

/-- Why a catalog is not loaded. -/
inductive CatalogFailure where
  /-- The catalog is refused. -/
  | refused (error : CatalogError)
  /-- Loading it breaks off. -/
  | fault (fault : CatalogFault)
  deriving DecidableEq, Repr, Inhabited

namespace Catalog

/-- The qualifier of an entry. -/
def qualifierOf (name : String) (entry : Value) : Except CatalogFailure Qualifier :=
  match Expectation.ofEntry entry with
  | .ok expects => .ok ⟨name, expects⟩
  | .error (.refused error) => .error (.refused (.badEntry name error))
  | .error .noText => .error (.fault .noText)

/-- The qualifier of a key and its entry. -/
def qualifierAt (key entry : Value) : Except CatalogFailure Qualifier :=
  match key.render? with
  | some name => qualifierOf name entry
  | none => .error (.fault .noText)

/-- The qualifiers in the value of a catalog, in order. -/
def ofValue (value : Value) : Except CatalogFailure (List Qualifier) :=
  match value with
  | .map top =>
      match Value.lookup? top "qualifiers" with
      | some (.map entries) => entries.mapM fun entry => qualifierAt entry.1 entry.2
      | _ => .error (.refused .noQualifiers)
  | _ => .error (.refused .noQualifiers)

/-- The qualifiers in what a reader makes of a text. -/
def ofReading : Except Yaml.Problem Value → Except CatalogFailure (List Qualifier)
  | .ok value => ofValue value
  | .error .malformed => .error (.refused .malformed)
  | .error (.badScalar error) => .error (.fault (.badScalar error))
  | .error .uncovered => .error (.fault .uncovered)

/-- The qualifiers in the content of a catalog file, given a reader of values. -/
def ofContent (read : String → Except Yaml.Problem Value) (content : Except OpenError ByteArray) :
    Except CatalogFailure (List Qualifier) :=
  match content with
  | .error .nulInPath => .error (.fault .nulInPath)
  | .error (.system error) => .error (.refused (.unreadable error))
  | .ok content =>
      match Files.decode? content with
      | none => .error (.fault .undecodable)
      | some text => ofReading (read text)

/-- The qualifiers in the catalog at a path, or the packaged ones without a path, given a reader of
values. -/
def loadWith (read : String → Except Yaml.Problem Value) (files : FileTree)
    (path : Option String) : Except CatalogFailure (List Qualifier) :=
  match path with
  | none => .ok packaged
  | some path => ofContent read (files.read path)

/-- The qualifiers in the catalog at a path, or the packaged ones without a path. -/
def load (files : FileTree) (path : Option String) : Except CatalogFailure (List Qualifier) :=
  loadWith Yaml.read files path

/-- The name by which a catalog is known. -/
def name (path : Option String) : String :=
  match path with
  | none => packagedName
  | some path => Files.baseName path

end Catalog

end SearchQuery
