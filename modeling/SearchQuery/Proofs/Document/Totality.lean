import SearchQuery.Proofs.Document.Placement
import SearchQuery.Proofs.Repository.Named
import SearchQuery.Proofs.Symbol.Definitions
import SearchQuery.Proofs.Validation.Found

/-!
# Faults

The documents of texts hold nodes only, so that nothing that is worked out from them faults,
whatever the table of symbols.
-/

namespace SearchQuery

namespace Document

/-- The document holds nodes only. -/
def HasNodesOnly (document : Document) : Prop :=
  ∀ node ∈ document.toNode.preorder, node.kind ≠ .foreign

theorem hasNodesOnly_ofText (text : String) : (ofText text).HasNodesOnly := by
  intro node member
  rcases mem_preorder_ofText_iff.mp member with rfl | ⟨line, line_mem, node_mem⟩
  · exact Kind.noConfusion
  · exact Node.fault?_eq_none_iff.mp
      (Node.fault?_of_placed (placed_of_mem_significantLines line_mem node_mem))

theorem HasNodesOnly.kind_ne_of_mem_lines {document : Document} (nodes : document.HasNodesOnly)
    {line : Node} (line_mem : line ∈ document.lines) :
    ∀ node ∈ line.preorder, node.kind ≠ .foreign := fun node member =>
  nodes node (mem_preorder_of_mem_lines line_mem member)

/-- The lines of a text hold nodes only. -/
theorem kind_ne_of_mem_lines_ofText {text : String} {line : Node}
    (line_mem : line ∈ (ofText text).lines) : ∀ node ∈ line.preorder, node.kind ≠ .foreign :=
  (hasNodesOnly_ofText text).kind_ne_of_mem_lines line_mem

end Document

/-- What is wrong with a text is what is found in its lines. -/
theorem Validation.ofDocument_eq_flatMap_lines (table : SymbolTable) (text : String) :
    ofDocument table (.ofText text) = .ok ((Document.ofText text).lines.flatMap (foundIn table)) :=
  ofDocument_eq table (Document.hasNodesOnly_ofText text)

/-- A text names the repositories that its lines name. -/
theorem Repository.ofDocument_eq_flatMap_lines (table : SymbolTable) (text : String)
    (format : RepositoryFormat) :
    ofDocument (.ofText text) table format =
      .ok ((Document.ofText text).lines.flatMap (namedIn table text.toList format)) :=
  (ofDocument_eq table format (Document.hasNodesOnly_ofText text)).trans
    (congrArg Except.ok (namedIn_toNode _))

namespace SymbolTable

/-- All definitions of a text are added to the table that it is loaded into. -/
theorem fault_update_ofText (table : SymbolTable) (text : String) :
    (table.update (.ofText text)).fault = none :=
  fault_addDefinitions (fun _ line_mem => Document.kind_ne_of_mem_lines_ofText line_mem) _ _ _

end SymbolTable

end SearchQuery
