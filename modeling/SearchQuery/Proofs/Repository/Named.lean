import SearchQuery.Proofs.Node.Text
import SearchQuery.Proofs.Node.Walk
import SearchQuery.Repository

/-!
# The repositories of a tree

A document that holds nodes only names its repositories node by node: a value of the qualifier
names at most one, and no other node names any.
-/

namespace SearchQuery.Repository

variable {table : SymbolTable} {source : List Char} {format : RepositoryFormat}

/-- The repository that a node names. -/
def namedAt? (table : SymbolTable) (source : List Char) (format : RepositoryFormat) :
    Node → Option Repository
  | .qualified _ _ qualifier value =>
      if qualifier.word = format.qualifier then
        ofValue? format.separator (value.text source table.valueOf?)
      else none
  | _ => none

/-- The repositories that the nodes of a tree name, in order. -/
def namedIn (table : SymbolTable) (source : List Char) (format : RepositoryFormat) (root : Node) :
    List Repository :=
  root.preorder.filterMap (namedAt? table source format)

/-- A text without characters names no repository. -/
theorem ofValue?_empty (separator : String) : ofValue? separator "" = none := by
  have empty_split : withoutQuotes ("" : String).toList = [] := rfl
  rw [ofValue?, empty_split, splitFirst?]
  split <;> simp_all

/-- The texts of a node. -/
def textsAt (table : SymbolTable) (source : List Char) (target : String) : Node → List String
  | .qualified _ _ qualifier value =>
      if qualifier.word = target then
        let text := value.text source table.valueOf?
        if text.isEmpty then [] else [text]
      else []
  | _ => []

theorem textsOf_eq {target : String} {node : Node}
    (nodes : ∀ inner ∈ node.preorder, inner.kind ≠ .foreign) :
    textsOf table source target node = .ok (textsAt table source target node) := by
  cases node with
  | qualified span negated qualifier value =>
      have inner : ∀ node ∈ value.preorder, node.kind ≠ .foreign := fun node member =>
        nodes node (Node.mem_preorder_of_mem_partNodes (by simp) member)
      rw [textsOf, textsAt, valueText, Node.print_eq_text _ _ inner]
      split <;> rfl
  | _ => rfl

theorem filterMap_textsAt (node : Node) :
    (textsAt table source format.qualifier node).filterMap (ofValue? format.separator) =
      (namedAt? table source format node).toList := by
  cases node with
  | qualified span negated qualifier value =>
      rw [textsAt, namedAt?]
      split
      · dsimp only
        split
        case isTrue empty => rw [String.isEmpty_iff.mp empty, ofValue?_empty]; rfl
        case isFalse => rw [List.filterMap_cons, List.filterMap_nil]; split <;> simp_all
      · rfl
  | _ => rfl

/-- The repositories of a tree are that of its root and those of its parts. -/
theorem namedIn_eq (root : Node) :
    namedIn table source format root =
      (namedAt? table source format root).toList ++
        root.partNodes.flatMap (namedIn table source format) := by
  rw [namedIn, Node.preorder_eq, List.filterMap_cons, List.filterMap_flatMap]
  cases namedAt? table source format root <;> rfl

/-- The repositories of a document are those of its lines, one after the other. -/
theorem namedIn_toNode (document : Document) :
    namedIn table source format document.toNode =
      document.lines.flatMap (namedIn table source format) := by
  rw [namedIn, document.preorder_toNode, List.filterMap_cons_none rfl, List.filterMap_flatMap]
  rfl

/-- A document of nodes names the repositories that its nodes name. -/
theorem ofDocument_eq (table : SymbolTable) (format : RepositoryFormat) {document : Document}
    (nodes : ∀ node ∈ document.toNode.preorder, node.kind ≠ .foreign) :
    ofDocument document table format =
      .ok (namedIn table document.source.toList format document.toNode) := by
  have each : ∀ visit ∈ document.toNode.visits false,
      textsOf table document.source.toList format.qualifier visit.node =
        .ok (textsAt table document.source.toList format.qualifier visit.node) := by
    intro visit member
    refine textsOf_eq fun node node_mem => nodes node ?_
    exact Node.mem_preorder_trans (List.mem_map_of_mem member) node_mem
  simp only [ofDocument, values, Node.visits?_walk nodes, bind, Except.bind, mapM_eq_ok each, pure,
    Except.pure]
  rw [← List.flatMap, List.filterMap_flatMap, namedIn, Node.preorder,
    List.filterMap_eq_flatMap_toList, List.flatMap_map]
  simp only [filterMap_textsAt]

end SearchQuery.Repository
