import Mathlib.Data.Nat.Find
import SearchQuery.Proofs.Document.Lines
import SearchQuery.Proofs.Line.Acceptance
import SearchQuery.Proofs.Node.Preorder

/-!
# Lines that cannot be read

A line with a node is rejected exactly if it has a stray blank: a blank that is neither space nor
tab, with an even number of quotes in front of it.  Its node then holds a single missing part, from
the first stray blank to the end of the line.  Any other line is read up to its end.
-/

namespace SearchQuery

open Line (IsStray)

namespace SourceLine

/-- The part of the text that the content of a line spans. -/
def contentSpan (line : SourceLine) : Span :=
  ⟨line.offset, line.offset + line.content.length⟩

/-- The items of a query that is read are no missing parts. -/
private theorem kind_ne_missing_of_finds {content : List Char} {next : Line.Cursor} {span : Span}
    {items : List Node} (finds : Line.line.Finds ⟨0, content⟩ (.query span items) next) :
    ∀ item ∈ items, item.kind ≠ .missing := by
  obtain ⟨back, definition | ⟨_, query⟩, _⟩ := Line.finds_line_iff.mp finds
  · obtain ⟨_, _, _, _, _, _, _, _, impossible⟩ := Line.finds_definition_iff.mp definition
    simp at impossible
  · obtain ⟨first, others, repeats, node_eq⟩ := Line.finds_query_iff.mp query
    simp only [Line.queryOf, Node.query.injEq] at node_eq
    rw [node_eq.2]
    exact repeats.forall_mem fun item => Line.kind_ne_missing_of_finds_item item

/-- The node of a line that is read is no query of a missing part. -/
private theorem shift_ne_query_missing {content : List Char} {node : Node} {next : Line.Cursor}
    (finds : Line.line.Finds ⟨0, content⟩ node next) (distance : Int) (span inner : Span)
    (message : String) : node.shift distance ≠ .query span [.missing inner message] := by
  intro node_eq
  have kind_eq := congrArg Node.kind node_eq
  have parts_eq := congrArg Node.partNodes node_eq
  rw [Node.kind_shift] at kind_eq
  rw [Node.partNodes_shift, Node.partNodes_query] at parts_eq
  cases node with
  | query _ items =>
      rw [Node.partNodes_query] at parts_eq
      obtain ⟨item, rfl, item_eq⟩ := List.map_eq_singleton_iff.mp parts_eq
      apply kind_ne_missing_of_finds finds item List.mem_cons_self
      rw [← Node.kind_shift distance, item_eq]
      rfl
  | _ => simp [Node.kind] at kind_eq

theorem node_of_finds {line : SourceLine} {node : Node} {next : Line.Cursor}
    (finds : Line.line.Finds ⟨0, line.content⟩ node next) :
    line.node = node.shift line.offset := by
  rw [SourceLine.node, Line.parse_of_finds finds]

/-- The node of a line that cannot be read. -/
theorem node_of_misses {line : SourceLine} (misses : Line.line.Misses ⟨0, line.content⟩)
    {index : Nat}
    (offset_eq : (Line.SyntaxError.ofFailures (Line.line ⟨0, line.content⟩).failures).offset =
      index) :
    ∃ message, line.node = .query line.contentSpan
      [.missing ⟨line.offset + index, line.offset + line.content.length⟩ message] := by
  refine ⟨(Line.SyntaxError.ofFailures (Line.line ⟨0, line.content⟩).failures).message, ?_⟩
  rw [SourceLine.node, Line.parse_of_misses misses]
  simp [rejected, Node.shift, Span.shift, Line.spanOf, offset_eq, contentSpan, Int.add_comm]

/-- A line is rejected exactly if it has a stray blank, at the first of them, and is read up to its
end otherwise. -/
theorem rejected_iff_isStray {text : String} {line : SourceLine}
    (member : line ∈ Document.significantLines text) :
    ((∃ span message, line.node = .query line.contentSpan [.missing span message]) ↔
        ∃ index, IsStray line.content index) ∧
      (∀ first, IsStray line.content first → (∀ earlier < first, ¬ IsStray line.content earlier) →
        ∃ message, line.node = .query line.contentSpan
          [.missing ⟨line.offset + first, line.offset + line.content.length⟩ message]) ∧
      ((∀ index, ¬ IsStray line.content index) →
        ∃ node, line.node = node.shift line.offset ∧
          (Line.line ⟨0, line.content⟩).found = some (node, ⟨line.content.length, []⟩)) := by
  have noBreak := (Document.standsIn_of_mem_significantLines member).isContent.not_mem
  have visible := Document.exists_visible_of_mem_significantLines member
  have rejection : ∀ first, IsStray line.content first →
      (∀ earlier < first, ¬ IsStray line.content earlier) →
      ∃ message, line.node = .query line.contentSpan
        [.missing ⟨line.offset + first, line.offset + line.content.length⟩ message] := by
    intro first stray least
    obtain ⟨misses, offset_eq⟩ := Line.misses_line_of_isStray noBreak stray least
    exact node_of_misses misses offset_eq
  have acceptance : (∀ index, ¬ IsStray line.content index) →
      ∃ node, Line.line.Finds ⟨0, line.content⟩ node ⟨line.content.length, []⟩ :=
    Line.exists_finds_line visible
  refine ⟨⟨?_, ?_⟩, rejection, ?_⟩
  · rintro ⟨span, message, node_eq⟩
    apply Classical.byContradiction
    intro noStray
    obtain ⟨node, finds⟩ := acceptance fun index stray => noStray ⟨index, stray⟩
    rw [node_of_finds finds] at node_eq
    exact shift_ne_query_missing finds _ _ _ _ node_eq
  · intro strays
    obtain ⟨message, node_eq⟩ := rejection (Nat.find strays) (Nat.find_spec strays)
      fun earlier before => Nat.find_min strays before
    exact ⟨_, message, node_eq⟩
  · intro noStray
    obtain ⟨node, finds⟩ := acceptance noStray
    exact ⟨node, node_of_finds finds, finds⟩

/-- The second line of a text, with a no-break space behind a quoted one. -/
theorem rejected_at_second_blank :
    let line : SourceLine := ⟨2, "\"\u00a0\" a\u00a0b\u00a0".toList⟩
    line ∈ Document.significantLines "a\n\"\u00a0\" a\u00a0b\u00a0\n" ∧
      ∃ message, line.node = .query ⟨2, 10⟩ [.missing ⟨7, 10⟩ message] := by
  have member : (⟨2, "\"\u00a0\" a\u00a0b\u00a0".toList⟩ : SourceLine) ∈
      Document.significantLines "a\n\"\u00a0\" a\u00a0b\u00a0\n" := by decide +kernel
  exact ⟨member, (rejected_iff_isStray member).2.1 5 (by decide +kernel) (by decide +kernel)⟩

end SourceLine

end SearchQuery
