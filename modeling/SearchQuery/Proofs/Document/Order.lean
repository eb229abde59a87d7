import SearchQuery.Proofs.Document.Position
import SearchQuery.Proofs.Validation.Order

/-!
# Diagnostics in the order of a document

A document is validated line by line, and each query of it from left to right.  So diagnostics are
in order, but for those of a definition, which is looked through twice: once as a definition, and
then once more as a query.
-/

namespace SearchQuery

/-- A diagnostic is about nodes of a line. -/
structure Diagnostic.IsIn (diagnostic : Diagnostic) (line : SourceLine) : Prop where
  /-- Its node is one of the line, and so is the node that it conflicts with. -/
  among : diagnostic.IsAmong line.node.preorder
  /-- Its node begins between the ends of the line. -/
  start_mem : line.offset ≤ diagnostic.node.start ∧
    diagnostic.node.start ≤ line.offset + line.content.length
  /-- The node that it conflicts with begins in the line too, and further to the left. -/
  conflict_mem : ∀ earlier ∈ diagnostic.conflict?,
    line.offset ≤ earlier.start ∧ earlier.start < diagnostic.node.start

/-- Diagnostics are in the order in which their nodes begin. -/
def Diagnostic.InOrder (diagnostics : List Diagnostic) : Prop :=
  diagnostics.Pairwise fun left right => left.node.start ≤ right.node.start

namespace Validation

variable {text : String} {line : SourceLine} (line_mem : line ∈ Document.significantLines text)

include line_mem

theorem isIn_of_mem_foundIn {table : SymbolTable} {diagnostic : Diagnostic}
    (member : diagnostic ∈ foundIn table line.node) : diagnostic.IsIn line := by
  obtain ⟨root, nodePlaced⟩ := Document.exists_nodePlaced_of_mem_significantLines line_mem
  have among := isAmong_of_mem_foundIn member
  have solid : ∀ inner ∈ line.node.preorder, inner.kind = .qualified →
      inner.start < inner.stop := by
    intro inner inner_mem qualified
    rcases nodePlaced.node_solid inner_mem with (solid | missing) | ⟨_, _, _, _, rfl⟩
    · exact solid
    · simp [qualified] at missing
    · cases qualified
  have before := start_lt_of_mem_foundIn
    (fun _ => Document.placed_of_mem_significantLines line_mem) line.isShaped_node.2 solid member
  exact ⟨among, nodePlaced.start_mem among.node_mem, fun earlier conflict =>
    ⟨(nodePlaced.start_mem (among.conflict_mem earlier conflict)).1, before earlier conflict⟩⟩

/-- A query of a line is validated from left to right. -/
theorem ofQuery_inOrder (table : SymbolTable) {query : Node}
    (query_mem : query ∈ line.node.preorder) (kind : query.kind = .query) :
    ∃ diagnostics, ofQuery table query = .ok diagnostics ∧ Diagnostic.InOrder diagnostics := by
  have inside : ∀ inner ∈ query.preorder, inner ∈ line.node.preorder := fun _ inner_mem =>
    Node.mem_preorder_trans query_mem inner_mem
  have ordered : Diagnostic.InOrder (foundAt table query) := pairwise_foundAt
    (fun inner inner_mem =>
      Document.placed_of_mem_significantLines line_mem (inside inner inner_mem))
    (fun inner inner_mem => line.isShaped_node.2 inner (inside inner inner_mem)) table kind
  refine ⟨foundAt table query, ?_, ordered⟩
  cases query with
  | query span items =>
      exact ofVisited_eq fun inner inner_mem => Node.kind_ne_foreign_of_isShaped
        (line.isShaped_node.2 inner (inside inner inner_mem))
  | _ => cases kind

omit line_mem

/-- What is found in lines that hold no definitions is found in order. -/
theorem inOrder_foundInLines (table : SymbolTable) (text : String)
    (queries : ∀ line ∈ (Document.ofText text).lines, line.kind ≠ .definition) :
    Diagnostic.InOrder (foundInLines table (Document.significantLines text)) := by
  rw [foundInLines, Diagnostic.InOrder, List.pairwise_flatMap]
  constructor
  · intro line line_mem
    have kind : line.node.kind = .query := by
      have kind_mem := line.isShaped_node.1
      have no_definition := queries line.node (List.mem_map_of_mem line_mem)
      simp only [List.mem_cons, List.not_mem_nil, or_false] at kind_mem
      exact kind_mem.resolve_left no_definition
    rw [foundIn_query line.isShaped_node.2 kind]
    exact pairwise_foundAt (fun _ => Document.placed_of_mem_significantLines line_mem)
      line.isShaped_node.2 table kind
  · refine (Document.pairwise_significantLines text).imp_of_mem ?_
    intro left right left_mem right_mem before first first_mem second second_mem
    have := (isIn_of_mem_foundIn left_mem first_mem).start_mem.2
    have := (isIn_of_mem_foundIn right_mem second_mem).start_mem.1
    omega

/-- Diagnostics come out in the order of the document, whatever the text and the table.  Those of a
line are about nodes of that line, a conflict is with a node further to the left in it, and no line
begins before the end of one in front of it.  A query, be it a line or the value of a definition, is
validated from left to right, so that in a document without definitions all diagnostics are in order
and so are their positions. -/
theorem ofDocument_load_inOrder (table : SymbolTable) (text : String) :
    let loaded := table.load text
    let lines := Document.significantLines text
    (∃ found, lines.mapM (fun line => ofLine loaded.2 line.node) = .ok found ∧
        ofDocument loaded.2 loaded.1 = .ok found.flatten ∧
        List.Forall₂ (fun line diagnostics => ∀ diagnostic ∈ diagnostics, diagnostic.IsIn line)
          lines found ∧
        ((∀ line ∈ loaded.1.lines, line.kind ≠ .definition) →
          Diagnostic.InOrder found.flatten ∧
            (found.flatten.map fun diagnostic =>
              Text.positionOf text.toList diagnostic.node.start).Pairwise (· ≤ ·))) ∧
      (lines.Pairwise fun left right => left.offset + left.content.length ≤ right.offset) ∧
      ∀ line ∈ lines, ∀ query ∈ line.node.preorder, query.kind = .query →
        ∃ diagnostics, ofQuery loaded.2 query = .ok diagnostics ∧
          Diagnostic.InOrder diagnostics := by
  intro loaded lines
  refine ⟨⟨lines.map fun line => foundIn loaded.2 line.node, ?_, ?_, ?_, ?_⟩,
    Document.pairwise_significantLines text,
    fun line line_mem query query_mem kind => ofQuery_inOrder line_mem loaded.2 query_mem kind⟩
  · exact mapM_eq_ok fun line _ => ofLine_eq line.isShaped_node.1 line.isShaped_node.2
  · exact ofDocument_ofText loaded.2 text
  · rw [List.forall₂_map_right_iff, List.forall₂_same]
    exact fun line line_mem diagnostic member => isIn_of_mem_foundIn line_mem member
  · intro queries
    have ordered : Diagnostic.InOrder (foundInLines loaded.2 lines) :=
      inOrder_foundInLines loaded.2 text queries
    refine ⟨ordered, List.pairwise_map.mpr (ordered.imp ?_)⟩
    exact fun before => Text.positionOf_le text.toList before

/-- A conflict, a missing value and an unknown qualifier in two lines. -/
theorem ofDocument_load_inOrder_conflict :
    let table := SymbolTable.empty.add (.qualifier ⟨"is", .oneOf [["open", "closed"]]⟩)
    let text := "is:open is:closed is:\n  by:me"
    ∃ diagnostics,
      ofDocument (table.load text).2 (table.load text).1 = .ok diagnostics ∧
        Diagnostic.InOrder diagnostics ∧
        (diagnostics.map fun diagnostic =>
          Text.positionOf text.toList diagnostic.node.start).Pairwise (· ≤ ·) ∧
        diagnostics.map (fun diagnostic =>
            (diagnostic.node.start, diagnostic.conflict?.map (·.start))) =
          [(8, some 0), (21, none), (21, none), (24, none)] := by
  intro table text
  obtain ⟨⟨found, _, found_eq, _, ordered⟩, _⟩ := ofDocument_load_inOrder table text
  have diagnostics_eq := Except.ok.inj (found_eq.symm.trans (ofDocument_ofText _ text))
  obtain ⟨inOrder, positions⟩ := ordered (by decide +kernel)
  refine ⟨found.flatten, found_eq, inOrder, positions, ?_⟩
  rw [diagnostics_eq]
  decide +kernel

end Validation

end SearchQuery
