import SearchQuery.Symbol.Basic
import SearchQuery.Value.Render

/-!
# Catalog entries

An entry of a catalog says what a qualifier expects: the name of a type, or a mapping whose `sets`
are groups of values.  Members of a group count as their texts, so a member that repeats the text of
another one of its group is dropped, and no text may occur in two groups.  A member without a text
is no ground for refusing the entry: reading it just fails there.
-/

namespace SearchQuery

/-- Why an entry of a catalog is refused. -/
inductive EntryError where
  /-- There is no type of that name. -/
  | unknownType (type : String)
  /-- The entry is neither a name nor a mapping with groups. -/
  | noSets
  /-- A group is empty or no sequence. -/
  | badGroup
  /-- A group shares values with the groups before it. -/
  | overlap (values : List String)
  deriving DecidableEq, Repr, Inhabited

namespace EntryError

/-- The message for an entry with the given name. -/
def message (name : String) : EntryError → String
  | .unknownType type => "qualifier '" ++ name ++ "' has unknown type '" ++ type ++ "'"
  | .noSets => "qualifier '" ++ name ++ "' needs a type or a non-empty 'sets' list"
  | .badGroup => "qualifier '" ++ name ++ "' has an empty or invalid value set"
  | .overlap values =>
      "qualifier '" ++ name ++ "' lists " ++ ", ".intercalate values ++ " in more than one set"

end EntryError

/-- Why nothing comes of an entry. -/
inductive EntryFailure where
  /-- The entry is refused. -/
  | refused (error : EntryError)
  /-- A member of a group has no text. -/
  | noText
  deriving DecidableEq, Repr, Inhabited

namespace Expectation

/-- The type that an entry names. -/
def ofTypeName? (name : String) : Option ValueType :=
  (ValueType.ofName? name).filter (· ≠ .unknown)

/-- The values of a group, each once. -/
def groupValues : Value → Except EntryFailure (List String)
  | .list (item :: items) =>
      match (item :: items).mapM Value.render? with
      | some texts => .ok texts.eraseDups
      | none => .error .noText
  | _ => .error (.refused .badGroup)

/-- The values that two groups share, in the order of their characters. -/
def shared (seen values : List String) : List String :=
  (values.filter (· ∈ seen)).mergeSort fun left right => decide (left ≤ right)

/-- The groups of an entry, none of which may hold a value seen before. -/
def groupsFrom (seen : List String) : List Value → Except EntryFailure ValueSets
  | [] => .ok []
  | group :: groups =>
      match groupValues group with
      | .error failure => .error failure
      | .ok values =>
          if (shared seen values).isEmpty then
            (groupsFrom (seen ++ values) groups).map (values :: ·)
          else .error (.refused (.overlap (shared seen values)))

/-- The value under `sets` in an entry. -/
def setsOf? : Value → Option Value
  | .map entries => Value.lookup? entries "sets"
  | _ => none

/-- What an entry of a catalog says that its qualifier expects. -/
def ofEntry (entry : Value) : Except EntryFailure Expectation :=
  match entry with
  | .text name =>
      match ofTypeName? name with
      | some type => .ok (.scalar type)
      | none => .error (.refused (.unknownType name))
  | entry =>
      match setsOf? entry with
      | some (.list (group :: groups)) => (groupsFrom [] (group :: groups)).map .oneOf
      | _ => .error (.refused .noSets)

end Expectation

end SearchQuery
