import Mathlib.Data.Fin.Basic
import SearchQuery.Proofs.Document.Distinct
import SearchQuery.Proofs.Symbol.Reserved
import SearchQuery.Proofs.Validation.Charges
import SearchQuery.Proofs.Validation.Inside

/-!
# Fewer diagnostics than nodes

The diagnostics of a text are charged to nodes of its document, no two to the same one, and none to
the document, to a line, or to a part of a definition.  So a document has more nodes than
diagnostics, and no diagnostic is repeated.
-/

namespace SearchQuery

open Node

namespace Validation

variable {table : SymbolTable} {text : String}

/-- What is charged in the lines of a text. -/
def chargesOfText (table : SymbolTable) (text : String) : List Charge :=
  (Document.ofText text).lines.flatMap (charges table)

theorem map_diagnostic_chargesOfText :
    ofDocument table (.ofText text) = .ok ((chargesOfText table text).map (·.diagnostic)) := by
  rw [ofDocument_eq_flatMap_lines, chargesOfText, List.map_flatMap]
  simp only [map_diagnostic_charges]

/-- Everything in a line says what was expected where something is missing. -/
theorem tellsExpected_of_mem_lines {line : Node} (member : line ∈ (Document.ofText text).lines) :
    ∀ inner ∈ line.preorder, inner.TellsExpected := by
  obtain ⟨source, _, rfl⟩ := List.mem_map.mp member
  exact source.tellsExpected

/-- All that is charged in a text is charged inside of a query of a line. -/
theorem exists_query_of_mem_chargesOfText {charge : Charge}
    (member : charge ∈ chargesOfText table text) :
    ∃ line ∈ (Document.ofText text).lines, ∃ query ∈ line.preorder, query.kind = .query ∧
      charge.IsIn query := by
  obtain ⟨line, line_mem, charge_mem⟩ := List.mem_flatMap.mp member
  obtain ⟨kind_mem, shaped⟩ := Document.isShaped_of_mem_lines line_mem
  exact ⟨line, line_mem, exists_query_of_mem_charges shaped kind_mem
    (tellsExpected_of_mem_lines line_mem) charge_mem⟩

theorem node_mem_of_mem_chargesOfText {charge : Charge}
    (member : charge ∈ chargesOfText table text) :
    charge.node ∈ (Document.ofText text).toNode.preorder := by
  obtain ⟨line, line_mem, query, query_mem, _, isIn⟩ := exists_query_of_mem_chargesOfText member
  exact Document.mem_preorder_of_mem_lines line_mem (mem_preorder_trans query_mem isIn.node_mem)

/-- No node of a text is charged twice. -/
theorem nodup_chargesOfText
    (bound : ∀ line ∈ (Document.ofText text).lines, ∀ name, line.definedName? = some name →
      table.variableNamed? name ≠ none) :
    ((chargesOfText table text).map (·.node)).Nodup := by
  have nodup := Document.nodup_preorder_ofText text
  rw [Document.preorder_toNode, List.nodup_cons, List.nodup_flatMap] at nodup
  obtain ⟨_, lines_nodup, apart⟩ := nodup
  rw [chargesOfText, List.map_flatMap, List.nodup_flatMap]
  constructor
  · intro line line_mem
    obtain ⟨kind_mem, shaped⟩ := Document.isShaped_of_mem_lines line_mem
    exact nodup_charges shaped kind_mem (lines_nodup line line_mem) (bound line line_mem)
  · have inside {line : Node} (line_mem : line ∈ (Document.ofText text).lines) :
        (charges table line).map (·.node) ⊆ line.preorder := by
      intro node node_mem
      obtain ⟨charge, charge_mem, rfl⟩ := List.mem_map.mp node_mem
      obtain ⟨kind_mem, shaped⟩ := Document.isShaped_of_mem_lines line_mem
      obtain ⟨query, query_mem, _, isIn⟩ := exists_query_of_mem_charges shaped kind_mem
        (tellsExpected_of_mem_lines line_mem) charge_mem
      exact mem_preorder_trans query_mem isIn.node_mem
    refine apart.imp_of_mem fun left_mem right_mem disjoint node left_node right_node => ?_
    exact disjoint (inside left_mem left_node) (inside right_mem right_node)

/-- The nodes that are charged are not the document, nor a line, nor a part of a definition. -/
theorem not_mem_partNodes_of_mem_chargesOfText {charge : Charge}
    (member : charge ∈ chargesOfText table text) :
    charge.node ≠ (Document.ofText text).toNode ∧ charge.node ∉ (Document.ofText text).lines ∧
      ∀ definition ∈ (Document.ofText text).toNode.preorder, definition.kind = .definition →
        charge.node ∉ definition.partNodes := by
  obtain ⟨line, line_mem, query, query_mem, kind, isIn⟩ := exists_query_of_mem_chargesOfText member
  have parts_eq := (Document.ofText text).partNodes_toNode
  have whole_mem := Document.mem_preorder_of_mem_lines line_mem query_mem
  have other : charge.node ≠ query := fun same => isIn.kind_ne (same ▸ kind)
  -- What the charged node is a part of is in the query, and so neither document nor definition.
  have parent_mem {parent : Node} (inside : parent ∈ (Document.ofText text).toNode.preorder)
      (part_mem : charge.node ∈ parent.partNodes) : parent ∈ query.preorder :=
    parent_mem_preorder (Document.nodup_preorder_ofText text) whole_mem isIn.node_mem other inside
      part_mem
  have outside : (Document.ofText text).toNode ∉ line.preorder :=
    not_mem_preorder_of_mem_partNodes (parts_eq ▸ line_mem)
  refine ⟨fun same => ?_, fun isLine => ?_, fun definition inside isDefinition part_mem => ?_⟩
  · exact outside (same ▸ mem_preorder_trans query_mem isIn.node_mem)
  · exact outside (mem_preorder_trans query_mem
      (parent_mem (self_mem_preorder _) (parts_eq ▸ isLine)))
  · have shaped : ∀ inner ∈ query.preorder, inner.IsShaped := fun inner inner_mem =>
      (Document.isShaped_of_mem_lines line_mem).2 inner (mem_preorder_trans query_mem inner_mem)
    exact kind_ne_definition_of_mem_query shaped kind (parent_mem inside part_mem) isDefinition

/-- The document is a node that is not charged, so there are fewer charges than nodes. -/
theorem length_chargesOfText_lt (nodup : ((chargesOfText table text).map (·.node)).Nodup) :
    (chargesOfText table text).length < (Document.ofText text).toNode.preorder.length := by
  have distinct :
      ((Document.ofText text).toNode :: (chargesOfText table text).map (·.node)).Nodup := by
    refine List.nodup_cons.mpr ⟨fun member => ?_, nodup⟩
    obtain ⟨charge, charge_mem, isRoot⟩ := List.mem_map.mp member
    exact (not_mem_partNodes_of_mem_chargesOfText charge_mem).1 isRoot
  have inside : (Document.ofText text).toNode :: (chargesOfText table text).map (·.node) ⊆
      (Document.ofText text).toNode.preorder := by
    refine List.cons_subset.mpr ⟨self_mem_preorder _, List.forall_mem_map.mpr ?_⟩
    exact fun charge => node_mem_of_mem_chargesOfText
  have length_le := (List.subperm_of_subset distinct inside).length_le
  rwa [List.length_cons, List.length_map] at length_le

/-- Diagnostics that are charged to different nodes differ in what they say or of what they say
it. -/
theorem pairwise_diagnostic
    (nodup : ((chargesOfText table text).map (·.node)).Nodup) :
    ((chargesOfText table text).map (·.diagnostic)).Pairwise fun left right =>
      ¬ (left.node = right.node ∧ left.message = right.message) := by
  rw [List.Nodup, List.pairwise_map] at nodup
  rw [List.pairwise_map]
  refine nodup.imp_of_mem fun {left right} left_mem right_mem different same => different ?_
  obtain ⟨_, _, _, _, _, left_isIn⟩ := exists_query_of_mem_chargesOfText left_mem
  obtain ⟨_, _, _, _, _, right_isIn⟩ := exists_query_of_mem_chargesOfText right_mem
  exact Charge.node_eq (Document.nodup_preorder_ofText text)
    (node_mem_of_mem_chargesOfText left_mem) (node_mem_of_mem_chargesOfText right_mem)
    left_isIn.suits right_isIn.suits left_isIn.tells right_isIn.tells same

theorem isAmong_of_mem_chargesOfText {diagnostic : Diagnostic}
    (member : diagnostic ∈ (chargesOfText table text).map (·.diagnostic)) :
    diagnostic.IsAmong (Document.ofText text).toNode.preorder := by
  rw [chargesOfText, List.map_flatMap] at member
  obtain ⟨line, line_mem, found⟩ := List.mem_flatMap.mp member
  rw [map_diagnostic_charges] at found
  have among := isAmong_of_mem_foundIn found
  exact ⟨Document.mem_preorder_of_mem_lines line_mem among.node_mem, fun earlier conflict =>
    Document.mem_preorder_of_mem_lines line_mem (among.conflict_mem earlier conflict)⟩

/-- Where names with a dollar sign are left to variables, no diagnostic of a text that is loaded is
repeated, all of them are about nodes of the document, and each can be charged to a node of its own,
which is neither the document nor a line nor the name or the value of a definition.  No node stands
in the document twice, so there are more nodes than diagnostics. -/
theorem ofDocument_load_charged (leaves : table.LeavesVariables) (text : String) :
    let document := (table.load text).1
    ∃ diagnostics, ofDocument (table.load text).2 document = .ok diagnostics ∧
      document.toNode.preorder.Nodup ∧
      diagnostics.Pairwise (fun left right =>
        ¬ (left.node = right.node ∧ left.message = right.message)) ∧
      (∀ diagnostic ∈ diagnostics, diagnostic.IsAmong document.toNode.preorder) ∧
      (∃ charged : Fin diagnostics.length → Node, charged.Injective ∧ ∀ index,
        charged index ∈ document.toNode.preorder ∧ charged index ≠ document.toNode ∧
          charged index ∉ document.lines ∧
          ∀ definition ∈ document.toNode.preorder, definition.kind = .definition →
            charged index ∉ definition.partNodes) ∧
      diagnostics.length < document.toNode.preorder.length := by
  intro document
  have nodup : ((chargesOfText (table.load text).2 text).map (·.node)).Nodup :=
    nodup_chargesOfText fun line line_mem name defines unbound =>
      (SymbolTable.variableNamed?_load_eq_none_iff leaves text name).mp unbound line line_mem
        defines
  have length_eq : ((chargesOfText (table.load text).2 text).map (·.diagnostic)).length =
      ((chargesOfText (table.load text).2 text).map (·.node)).length := by
    rw [List.length_map, List.length_map]
  have each : ∀ node ∈ (chargesOfText (table.load text).2 text).map (·.node),
      node ∈ document.toNode.preorder ∧ node ≠ document.toNode ∧ node ∉ document.lines ∧
        ∀ definition ∈ document.toNode.preorder, definition.kind = .definition →
          node ∉ definition.partNodes := by
    rw [List.forall_mem_map]
    exact fun charge member =>
      ⟨node_mem_of_mem_chargesOfText member, not_mem_partNodes_of_mem_chargesOfText member⟩
  refine ⟨_, map_diagnostic_chargesOfText, Document.nodup_preorder_ofText text,
    pairwise_diagnostic nodup, fun _ => isAmong_of_mem_chargesOfText,
    ⟨fun index => List.get _ (index.cast length_eq), ?_, fun index => each _ (List.get_mem ..)⟩, ?_⟩
  · exact (List.nodup_iff_injective_get.mp nodup).comp (Fin.cast_injective length_eq)
  · rw [List.length_map]
    exact length_chargesOfText_lt nodup

/-- A variable that is wrong twice, as what its definition refers to and as the value of a
qualifier, and a qualifier that is unknown and lacks its value. -/
theorem ofDocument_load_charged_twice_wrong :
    let table := SymbolTable.ofList [.qualifier ⟨"created", .scalar .date⟩]
    let loaded := table.load "$x=created:$x OR\nis:"
    table.LeavesVariables ∧ ∃ diagnostics, ofDocument loaded.2 loaded.1 = .ok diagnostics ∧
      diagnostics.map (·.message) =
        ["Cannot reference a variable from its definition",
          "OR is not supported when defining a variable", "Invalid value, expected date",
          "Unknown qualifier: 'is'", "Expected value"] ∧
      (diagnostics.Pairwise fun left right =>
        ¬ (left.node = right.node ∧ left.message = right.message)) ∧
      diagnostics.length < loaded.1.toNode.preorder.length := by
  intro table loaded
  have leaves : table.LeavesVariables := by decide
  obtain ⟨diagnostics, isOk, _, different, _, _, fewer⟩ :=
    ofDocument_load_charged leaves "$x=created:$x OR\nis:"
  refine ⟨leaves, diagnostics, isOk, ?_, different, fewer⟩
  have found := ofDocument_ofText loaded.2 "$x=created:$x OR\nis:"
  rw [Except.ok.inj (isOk.symm.trans found)]
  decide +kernel

end Validation

end SearchQuery
