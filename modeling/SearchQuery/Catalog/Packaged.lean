import SearchQuery.Symbol.Table

/-!
# The packaged catalog

The qualifiers that are known unless a catalog file says otherwise.  Two of their value sets have
the same values or none in common.
-/

namespace SearchQuery.Catalog

/-- Name of the packaged catalog. -/
def packagedName : String := "qualifiers.yaml"

/-- The packaged qualifiers whose values come from sets. -/
def packagedSets : List (String × ValueSets) :=
  [("type", [["pr", "issue"]]),
   ("is", [["locked", "unlocked"], ["merged", "unmerged"], ["public", "private"],
     ["open", "closed"], ["pr", "issue"]]),
   ("in", [["title", "body", "comments"]]),
   ("state", [["open", "closed"]]),
   ("archived", [["true", "false"]]),
   ("draft", [["true", "false"]]),
   ("status", [["pending", "success", "failure"]]),
   ("review", [["none", "required", "approved", "changes_requested"]]),
   ("linked", [["pr", "issue"]]),
   ("no", [["label"], ["milestone"], ["assignee"], ["project"]])]

/-- The packaged qualifiers whose values have a type. -/
def packagedScalars : List (ValueType × List String) :=
  [(.text, ["user", "org", "repo", "author", "assignee", "mentions", "team", "commenter",
     "involves", "label", "milestone", "project", "head", "base", "language", "review-requested",
     "reviewed-by", "team-review-requested"]),
   (.number, ["comments", "interactions", "reactions"]),
   (.date, ["created", "updated", "closed", "merged"])]

/-- The packaged qualifiers, in order. -/
def packaged : List Qualifier :=
  packagedSets.map (fun (name, sets) => ⟨name, .oneOf sets⟩) ++
    packagedScalars.flatMap fun (type, names) => names.map fun name => ⟨name, .scalar type⟩

/-- The symbol table of a catalog. -/
def table (qualifiers : List Qualifier) : SymbolTable :=
  .ofList (qualifiers.map .qualifier)

end SearchQuery.Catalog
