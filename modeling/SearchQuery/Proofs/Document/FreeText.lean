import SearchQuery.Proofs.Document.Coverage
import SearchQuery.Proofs.Line.FreeText

/-!
# Free text in a document

A line that is read is a definition if it begins as one, and otherwise a query.  Whatever item of a
query is an unquoted text is one because nothing else begins where it stands.
-/

namespace SearchQuery

/-- The characters between two parts of a text. -/
theorem Text.slice_between (front word after : List Char) :
    slice (front ++ word ++ after) front.length (front.length + word.length : Nat) = word := by
  rw [slice_ofNat, List.append_assoc, List.drop_left, Nat.add_sub_cancel_left, List.take_left]

namespace SourceLine

/-- A line that is read is a definition exactly if it begins, behind spaces and tabs, with a
variable and the sign of a definition.  A text that is an item of a query, and not the value of some
other node, is quoted or free: nothing else begins where it stands, and it goes on as far as
possible. -/
theorem isFreeText_of_accepted {text : String} {line : SourceLine}
    (line_mem : line ∈ ofText text.toList) (accepted : ¬ line.IsRejected) :
    (line.node.kind = .definition ↔ Line.BeginsDefinition line.content) ∧
      ∀ query ∈ line.node.preorder, query.kind = .query →
        ∀ part ∈ query.partNodes, part.kind = .literal →
          ∃ front word after, line.content = front ++ word ++ after ∧
            part.start = line.offset + front.length ∧ part.span.slice text.toList = word ∧
            (word.head? ≠ some '"' → Line.IsFreeText word after) := by
  have standsIn := standsIn_of_mem_ofText line_mem
  obtain ⟨before, behind, text_eq, offset_eq⟩ := standsIn.split
  obtain ⟨root, next, finds, node_eq⟩ := exists_finds_of_accepted accepted
  rw [node_eq, Node.kind_shift, Node.preorder_shift]
  refine ⟨Line.kind_eq_definition_iff standsIn.isContent.not_mem finds, ?_⟩
  rw [List.forall_mem_map]
  intro query query_mem kind
  rw [Node.kind_shift] at kind
  rw [Node.partNodes_shift, List.forall_mem_map]
  intro part part_mem part_kind
  rw [Node.kind_shift] at part_kind
  obtain ⟨place, after_place, on, found⟩ :=
    Line.exists_place_of_item finds query_mem kind part_mem (by simp [part_kind])
  obtain ⟨front, word, after, content_eq, span_eq, free⟩ :=
    Line.exists_isFreeText on found part_kind
  have isNode : part.fault? = none := by
    cases part with
    | foreign => cases part_kind
    | _ => rfl
  have span_shift := Node.span_shift line.offset part isNode
  have length_eq := congrArg List.length content_eq
  simp only [List.length_append] at length_eq
  refine ⟨front, word, after, content_eq, ?_, ?_, free⟩
  · rw [Node.start, span_shift, span_eq]
    exact Int.add_comm _ _
  · rw [span_shift, span_eq, text_eq, offset_eq, Span.slice_shift]
    · rw [content_eq]
      exact Text.slice_between front word after
    · exact Int.natCast_nonneg _
    · exact Int.ofNat_le.mpr (Nat.le_add_right _ _)
    · exact Int.ofNat_le.mpr (by omega)

/-- The word `OR` in front of a quote, in the value of a definition. -/
theorem isFreeText_in_definition :
    let text := "$v = is:open OR\"x\""
    let line : SourceLine := ⟨0, text.toList⟩
    line ∈ ofText text.toList ∧ ¬ line.IsRejected ∧ line.node.kind = .definition ∧
      ∃ front after, line.content = front ++ "OR".toList ++ after ∧
        Line.IsFreeText "OR".toList after := by
  intro text line
  obtain ⟨line_mem, accepted, span_mem⟩ : line ∈ ofText text.toList ∧ ¬ line.IsRejected ∧
      (⟨13, 15⟩ : Span) ∈ (line.node.preorder.filter (·.kind == .query)).flatMap
        fun query => (query.partNodes.filter (·.kind == .literal)).map (·.span) := by
    decide +kernel
  simp only [List.mem_flatMap, List.mem_map, List.mem_filter, beq_iff_eq] at span_mem
  obtain ⟨query, ⟨query_mem, kind⟩, part, ⟨part_mem, part_kind⟩, span_eq⟩ := span_mem
  obtain ⟨definition_iff, texts⟩ := isFreeText_of_accepted line_mem accepted
  obtain ⟨front, word, after, content_eq, _, slice_eq, free⟩ :=
    texts query query_mem kind part part_mem part_kind
  obtain rfl : "OR".toList = word := by
    rw [← slice_eq, span_eq]
    decide
  refine ⟨line_mem, accepted, definition_iff.mpr ?_, front, after, content_eq, free (by decide)⟩
  exact ⟨[], 'v', [], [' '], " is:open OR\"x\"".toList, by decide, by simp, by decide, by simp⟩

end SourceLine

end SearchQuery
