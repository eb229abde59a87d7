import SearchQuery.Proofs.Document.Totality
import SearchQuery.Proofs.Repository.Split

/-!
# Repositories named by values

A value of the qualifier is resolved to a text: a variable to the value that it stands for, any
other value to its query text, in which the variables are replaced.  What is left of the text
without quotes is split at the first separator.  If the owner is then not empty, the value names one
repository, and otherwise none.  The repositories stand in the order of the nodes, those of
definitions among them.
-/

namespace SearchQuery.Repository

/-- The value that a node gives to a qualifier. -/
def valueFor? (target : String) : Node → Option Node
  | .qualified _ _ qualifier value => if qualifier.word = target then some value else none
  | _ => none

/-- A value is resolved to a text. -/
inductive Resolves (table : SymbolTable) (source : List Char) : Node → String → Prop where
  /-- A variable is resolved to the value that it stands for. -/
  | variable {span : Span} {name text : String} {label : Option Nat}
      (found : table.valueOf? name = some text) :
      Resolves table source (.variable span name label) text
  /-- Anything else is resolved to its query text, in which variables stand for their values. -/
  | printed {value : Node} {text : String} (other : value.kind ≠ .variable)
      (printed : value.print source table.valueOf? = .ok text) : Resolves table source value text

section

variable {table : SymbolTable} {source : List Char} {value : Node}

theorem Resolves.text_eq {text : String} (resolves : Resolves table source value text) :
    value.text source table.valueOf? = text := by
  cases resolves with
  | «variable» found => rw [Node.text, Node.print, found]; rfl
  | printed other printed => rw [Node.text, printed]; rfl

/-- A value is resolved to its text, if that has any characters. -/
theorem resolves_of_text_ne_empty (nodes : ∀ inner ∈ value.preorder, inner.kind ≠ .foreign)
    (text_ne : value.text source table.valueOf? ≠ "") :
    Resolves table source value (value.text source table.valueOf?) := by
  have printed := Node.print_eq_text source table.valueOf? nodes
  cases value with
  | «variable» span name label =>
      rw [Node.text, Node.print] at text_ne ⊢
      cases found : table.valueOf? name with
      | none => rw [found] at text_ne; exact absurd rfl text_ne
      | some text => exact .variable found
  | _ => exact .printed Kind.noConfusion printed

end

section

variable {table : SymbolTable} {source : List Char} {format : RepositoryFormat} {node value : Node}

/-- Only the values of the qualifier name repositories. -/
theorem namedAt?_of_valueFor?_eq_none (other : valueFor? format.qualifier node = none) :
    namedAt? table source format node = none := by
  cases node with
  | qualified span negated qualifier value =>
      rw [valueFor?] at other
      rw [namedAt?, if_neg fun target => by simp [target] at other]
  | _ => rfl

theorem namedAt?_of_valueFor?_eq_some (given : valueFor? format.qualifier node = some value) :
    namedAt? table source format node =
      ofValue? format.separator (value.text source table.valueOf?) := by
  fun_cases valueFor? format.qualifier node with
  | case1 span negated qualifier other target =>
      rw [valueFor?, if_pos target, Option.some.injEq] at given
      rw [namedAt?, if_pos target, given]
  | case2 span negated qualifier other target => rw [valueFor?, if_neg target] at given; cases given
  | case3 node unmatched =>
      rw [valueFor?] at given
      · cases given
      · exact unmatched

theorem mem_partNodes_of_valueFor? {target : String} (given : valueFor? target node = some value) :
    value ∈ node.partNodes := by
  cases node with
  | qualified span negated qualifier other =>
      rw [valueFor?] at given
      split at given
      · cases given
        simp
      · cases given
  | _ => cases given

/-- A value names the repository that its text is split into at the first separator, if the owner is
not empty. -/
theorem namedAt?_eq_some_iff {resolved : String} {repository : Repository}
    (given : valueFor? format.qualifier node = some value)
    (resolves : Resolves table source value resolved) :
    namedAt? table source format node = some repository ↔
      repository.owner ≠ "" ∧
        IsFirstSplit format.separator.toList (withoutQuotes resolved.toList)
          repository.owner.toList repository.name.toList := by
  rw [namedAt?_of_valueFor?_eq_some given, resolves.text_eq, ofValue?_eq_some_iff]

/-- A value that is not resolved, or is resolved to the text without characters, names no
repository. -/
theorem namedAt?_of_unresolved (nodes : ∀ inner ∈ value.preorder, inner.kind ≠ .foreign)
    (given : valueFor? format.qualifier node = some value)
    (unresolved : ∀ resolved, Resolves table source value resolved → resolved = "") :
    namedAt? table source format node = none := by
  have text_eq : value.text source table.valueOf? = "" := by
    by_contra text_ne
    exact text_ne (unresolved _ (resolves_of_text_ne_empty nodes text_ne))
  rw [namedAt?_of_valueFor?_eq_some given, text_eq, ofValue?_empty]

end

/-- What is asked for goes before the settings. -/
theorem ofSettings_of_ne_empty {settings : Settings} {qualifier separator : String}
    (target : qualifier ≠ "") (separated : separator ≠ "") :
    RepositoryFormat.ofSettings settings (some qualifier) (some separator) =
      ⟨qualifier, separator⟩ := by
  rw [RepositoryFormat.ofSettings, Settings.nonEmpty?, Settings.nonEmpty?,
    Option.filter_some_pos (by simpa using target),
    Option.filter_some_pos (by simpa using separated)]
  rfl

/-- A document names its repositories node by node.  A value of the qualifier names the one that its
text is split into at the first separator if the owner is not empty, and no other node names any. -/
theorem ofDocument_first_splits {qualifier separator : String} (text : String)
    (table : SymbolTable) (settings : Settings) (target : qualifier ≠ "")
    (separated : separator ≠ "") :
    let format := RepositoryFormat.ofSettings settings (some qualifier) (some separator)
    let root := (Document.ofText text).toNode
    let named := namedAt? table text.toList format
    ofDocument (.ofText text) table format = .ok (root.preorder.filterMap named) ∧
      ∀ node ∈ root.preorder,
        (valueFor? qualifier node = none → named node = none) ∧
        ∀ value, valueFor? qualifier node = some value →
          ((∀ resolved, Resolves table text.toList value resolved → resolved = "") →
            named node = none) ∧
          ∀ resolved, Resolves table text.toList value resolved →
            let split := IsFirstSplit separator.toList (withoutQuotes resolved.toList)
            (∀ repository, named node = some repository ↔
              repository.owner ≠ "" ∧ split repository.owner.toList repository.name.toList) ∧
            ∀ owner name, split owner name →
              ¬ separator.toList <:+: owner ∧
                ∀ owner' name', split owner' name' → owner' = owner ∧ name' = name := by
  rw [ofSettings_of_ne_empty target separated]
  intro format root named
  have nodes := Document.hasNodesOnly_ofText text
  refine ⟨ofDocument_eq table format nodes, fun node member => ⟨fun other => ?_, ?_⟩⟩
  · exact namedAt?_of_valueFor?_eq_none other
  intro value given
  have inner_nodes : ∀ inner ∈ value.preorder, inner.kind ≠ .foreign := fun inner inner_mem =>
    nodes inner (Node.mem_preorder_trans member
      (Node.mem_preorder_of_mem_partNodes (mem_partNodes_of_valueFor? given) inner_mem))
  refine ⟨namedAt?_of_unresolved inner_nodes given, fun resolved resolves => ⟨fun repository =>
    namedAt?_eq_some_iff given resolves, fun owner name split => ⟨?_, fun _ _ other => ?_⟩⟩⟩
  · exact split.not_infix_owner fun none => separated (String.toList_eq_nil_iff.mp none)
  · exact other.eq split

/-- A value in a definition and a variable of that definition, split at a separator that overlaps
itself, beside a variable that stands for nothing. -/
theorem ofDocument_first_splits_overlapping :
    let text := "$d=repo:\"a---b\"\nrepo:$d repo:$x"
    let table := (SymbolTable.empty.load text).2
    let format := RepositoryFormat.ofSettings .standard (some "repo") (some "--")
    ("repo" ≠ "" ∧ "--" ≠ "") ∧
      ofDocument (.ofText text) table format = .ok [⟨"a", "-b"⟩, ⟨"repo:\"a", "-b\""⟩] ∧
      ∃ node ∈ (Document.ofText text).toNode.preorder,
        (valueFor? "repo" node).bind Node.variableName? = some "$d" ∧
        namedAt? table text.toList format node = some ⟨"repo:\"a", "-b\""⟩ := by
  intro text table format
  have target : "repo" ≠ "" := by decide
  have separated : "--" ≠ "" := by decide
  obtain ⟨found, each⟩ := ofDocument_first_splits text table .standard target separated
  refine ⟨⟨target, separated⟩, found.trans (congrArg Except.ok (by decide +kernel)), ?_⟩
  have name_mem : "$d" ∈ (Document.ofText text).toNode.preorder.filterMap fun node =>
      (valueFor? "repo" node).bind Node.variableName? := by
    decide +kernel
  obtain ⟨node, member, name_eq⟩ := List.mem_filterMap.mp name_mem
  obtain ⟨value, given, value_name⟩ := Option.bind_eq_some_iff.mp name_eq
  have resolves : Resolves table text.toList value "repo:\"a---b\"" := by
    cases value <;> cases value_name
    exact .variable (by decide +kernel)
  refine ⟨node, member, name_eq, ?_⟩
  exact ((((each node member).2 value given).2 _ resolves).1 _).mpr
    ⟨by decide, by decide +kernel, by decide +kernel⟩

end SearchQuery.Repository
