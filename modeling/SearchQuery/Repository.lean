import SearchQuery.Settings.Basic
import SearchQuery.Symbol.Table

/-!
# Repositories

A value of the repository qualifier names an owner and a repository with a separator between them.
The owner ends at the first separator and may not be empty; a value that cannot be split so names no
repository.
-/

namespace SearchQuery

/-- A repository and its owner. -/
structure Repository where
  /-- Name of the owner. -/
  owner : String
  /-- Name of the repository. -/
  name : String
  deriving DecidableEq, Repr, Inhabited

/-- How repositories are written. -/
structure RepositoryFormat where
  /-- Name of the qualifier. -/
  qualifier : String
  /-- What stands between owner and name. -/
  separator : String
  deriving DecidableEq, Repr, Inhabited

namespace RepositoryFormat

/-- The format that is asked for; where nothing or an empty text is asked for, the settings say
it. -/
def ofSettings (settings : Settings) (qualifier separator : Option String) : RepositoryFormat :=
  { qualifier := (Settings.nonEmpty? qualifier).getD settings.repoQualifier
    separator := (Settings.nonEmpty? separator).getD settings.repoSeparator }

end RepositoryFormat

namespace Repository

/-- The parts of a text before and after the first occurrence of a separator. -/
def splitFirst? (separator : List Char) : List Char → Option (List Char × List Char)
  | [] => if separator.isEmpty then some ([], []) else none
  | c :: rest =>
      if separator.isPrefixOf (c :: rest) then some ([], (c :: rest).drop separator.length)
      else (splitFirst? separator rest).map fun split => (c :: split.1, split.2)

/-- A text without one pair of quotes around it. -/
def withoutQuotes : List Char → List Char
  | '"' :: rest => if rest.getLast? = some '"' then rest.dropLast else '"' :: rest
  | text => text

/-- The repository that a value names. -/
def ofValue? (separator : String) (value : String) : Option Repository :=
  match splitFirst? separator.toList (withoutQuotes value.toList) with
  | some (first :: owner, name) => some ⟨String.ofList (first :: owner), String.ofList name⟩
  | _ => none

/-- The text of a qualifier's value, in which variables stand for their values. -/
def valueText (table : SymbolTable) (source : List Char) (value : Node) : Except Fault String :=
  value.print source table.valueOf?

/-- The texts that a visited node gives for the qualifier: one, if it is a qualified value whose
text is not empty. -/
def textsOf (table : SymbolTable) (source : List Char) (target : String) :
    Node → Except Fault (List String)
  | .qualified _ _ qualifier value =>
      if qualifier.word = target then do
        let text ← valueText table source value
        return if text.isEmpty then [] else [text]
      else .ok []
  | _ => .ok []

/-- The texts of all values of the qualifier, in the order of the document. -/
def values (document : Document) (table : SymbolTable) (target : String) :
    Except Fault (List String) := do
  let source := document.source.toList
  let visits ← document.toNode.walk.visits?
  let texts ← visits.mapM fun visit => textsOf table source target visit.node
  return texts.flatten

/-- The repositories that a document names, in order. -/
def ofDocument (document : Document) (table : SymbolTable) (format : RepositoryFormat) :
    Except Fault (List Repository) := do
  let values ← values document table format.qualifier
  return values.filterMap (ofValue? format.separator)

end Repository

end SearchQuery
