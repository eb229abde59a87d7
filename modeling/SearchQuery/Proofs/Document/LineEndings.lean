import SearchQuery.Proofs.Document.Alike
import SearchQuery.Proofs.Document.Position
import SearchQuery.Proofs.Text.LineEndings
import SearchQuery.Proofs.Validation.Inside
import SearchQuery.Proofs.Validation.Lines

/-!
# Documents with other line endings

A text whose lines end with line feeds comes to the same if each of them ends with a carriage return
and a line feed.  Its lines have the same contents, and though they stand further on in the text,
one character for each line in front, whatever is reported is reported at the same position.
-/

namespace SearchQuery

namespace SourceLine

/-- A line of a text, and the line of the text with other endings that stands behind the same lines
and has the same content. -/
structure IsReended (text : List Char) (line moved : SourceLine) : Prop where
  /-- The contents are the same. -/
  content_eq : moved.content = line.content
  /-- What stands in front is the same but for the endings. -/
  offset_eq : moved.offset = (Text.withReturns (text.take line.offset)).length

theorem forall₂_ofLines_withReturns {front : List Char} {lines : List (List Char)}
    (contents : ∀ line ∈ lines, Text.lineContent (Text.withReturns line) = Text.lineContent line) :
    List.Forall₂ (IsReended (front ++ lines.flatten)) (ofLines front.length lines)
      (ofLines (Text.withReturns front).length (lines.map Text.withReturns)) := by
  induction lines generalizing front with
  | nil => exact .nil
  | cons line lines induction =>
      rw [List.forall_mem_cons] at contents
      have rest := @induction (front ++ line) contents.2
      rw [Text.withReturns_append, List.length_append, List.length_append,
        List.append_assoc] at rest
      refine .cons ⟨contents.1, ?_⟩ rest
      rw [List.take_left]

/-- The lines of a text without carriage returns are those of the text with other endings. -/
theorem forall₂_ofText_withReturns {text : List Char} (plain : '\r' ∉ text) :
    List.Forall₂ (IsReended text) (ofText text) (ofText (Text.withReturns text)) := by
  have lines := @forall₂_ofLines_withReturns [] (Text.splitLines text) fun line member =>
    Text.lineContent_withReturns member
  rwa [List.nil_append, Text.flatten_splitLines, ← Text.splitLines_withReturns plain] at lines

end SourceLine

namespace Document

/-- The text with a carriage return in front of each line feed. -/
def withReturns (text : String) : String := String.ofList (Text.withReturns text.toList)

@[simp]
theorem toList_withReturns (text : String) :
    (withReturns text).toList = Text.withReturns text.toList := String.toList_ofList

section

variable {text : String} (plain : '\r' ∉ text.toList)

include plain

theorem forall₂_significantLines_withReturns :
    List.Forall₂ (SourceLine.IsReended text.toList) (significantLines text)
      (significantLines (withReturns text)) := by
  rw [significantLines, significantLines, toList_withReturns]
  refine List.rel_filter (fun line moved reended => ?_)
    (SourceLine.forall₂_ofText_withReturns plain)
  have same : moved.isSignificant = line.isSignificant := by
    rw [SourceLine.isSignificant, SourceLine.isSignificant, SourceLine.isEmpty, SourceLine.isEmpty,
      SourceLine.isComment, SourceLine.isComment, reended.content_eq]
  change line.isSignificant = true ↔ moved.isSignificant = true
  rw [same]

theorem isReended_of_getElem? {number : Nat} {line moved : SourceLine}
    (line_eq : (significantLines text)[number]? = some line)
    (moved_eq : (significantLines (withReturns text))[number]? = some moved) :
    SourceLine.IsReended text.toList line moved := by
  obtain ⟨bound, rfl⟩ := List.getElem?_eq_some_iff.mp line_eq
  obtain ⟨bound', rfl⟩ := List.getElem?_eq_some_iff.mp moved_eq
  exact (forall₂_significantLines_withReturns plain).get bound bound'

/-- Texts that differ in the endings of their lines are alike. -/
theorem alikeUnless_withReturns : AlikeUnless (fun _ => False) text (withReturns text) where
  length_eq := (forall₂_significantLines_withReturns plain).length_eq
  same _ _ _ line_eq moved_eq :=
    Or.inl (isReended_of_getElem? plain line_eq moved_eq).content_eq.symm
  confined _ _ _ _ _ _ _ _ _ := not_false

/-- What lines come to, one after the other, is the same if it is the same for each of them. -/
theorem flatMap_significantLines_withReturns {α : Type} {before after : SourceLine → List α}
    (same : ∀ (number : Nat) (line moved : SourceLine),
      (significantLines text)[number]? = some line →
        (significantLines (withReturns text))[number]? = some moved → after moved = before line) :
    (significantLines (withReturns text)).flatMap after =
      (significantLines text).flatMap before := by
  have length_eq := (alikeUnless_withReturns plain).length_eq
  have map_eq : (significantLines (withReturns text)).map after =
      (significantLines text).map before := by
    refine List.ext_getElem (by simp [length_eq]) fun number bound bound' => ?_
    rw [List.getElem_map, List.getElem_map]
    exact same number _ _ (List.getElem?_eq_getElem _) (List.getElem?_eq_getElem _)
  rw [List.flatMap, map_eq, List.flatMap]

/-! ## Reports -/

variable {number : Nat} {line moved : SourceLine}
  (line_eq : (significantLines text)[number]? = some line)
  (moved_eq : (significantLines (withReturns text))[number]? = some moved)

include line_eq moved_eq

/-- A node is reported at the same position. -/
theorem positionOf_withReturns {node : Node} (member : node ∈ line.node.preorder) :
    Text.positionOf (withReturns text).toList
        (node.shift (moved.offset - line.offset)).start =
      Text.positionOf text.toList node.start := by
  have line_mem := List.mem_of_getElem? line_eq
  have moved_mem := List.mem_of_getElem? moved_eq
  have reended := isReended_of_getElem? plain line_eq moved_eq
  have moved_node : moved.node = line.node.shift (moved.offset - line.offset) :=
    SourceLine.node_eq_shift reended.content_eq
  have moved_member : node.shift (moved.offset - line.offset) ∈ moved.node.preorder := by
    rw [moved_node, Node.preorder_shift]
    exact List.mem_map_of_mem member
  have placed := placed_of_mem_significantLines line_mem member
  have front_eq : (Text.withReturns text.toList).take moved.offset =
      Text.withReturns (text.toList.take line.offset) := by
    conv_lhs => rw [← List.take_append_drop line.offset text.toList, Text.withReturns_append,
      reended.offset_eq, List.take_left]
  have column_eq : node.start + (moved.offset - line.offset) - moved.offset =
      node.start - line.offset := by omega
  rw [SourceLine.positionOf_start_eq (standsIn_of_mem_significantLines moved_mem)
      (List.mem_filter.mp moved_mem).2 moved_member,
    SourceLine.positionOf_start_eq (standsIn_of_mem_significantLines line_mem)
      (List.mem_filter.mp line_mem).2 member,
    toList_withReturns, front_eq, Text.endPosition_withReturns, placed.start_shift, column_eq]

/-- What is found in a line is reported in the same words. -/
theorem map_render_withReturns (table : SymbolTable) :
    (Validation.foundIn (table.load (withReturns text)).2 moved.node).map
        (·.render (withReturns text).toList) =
      (Validation.foundIn (table.load text).2 line.node).map (·.render text.toList) := by
  rw [(alikeUnless_withReturns plain).foundIn_eq line_eq moved_eq not_false
    (fun _ _ _ _ => not_false) table, List.map_map]
  exact List.map_congr_left fun diagnostic member =>
    (Validation.isAmong_of_mem_foundIn member).render_shift fun node node_mem =>
      positionOf_withReturns plain line_eq moved_eq node_mem

end

end Document

/-- A text whose lines end with line feeds, and the text whose lines end with carriage returns and
line feeds instead, come to the same in a table: what is wrong with them is reported in the same
words and at the same positions, names have the same symbols with the same types and values, and the
same repositories are named. -/
theorem SymbolTable.load_withReturns (table : SymbolTable) {text : String}
    (plain : '\r' ∉ text.toList) :
    let before := table.load text
    let after := table.load (Document.withReturns text)
    (∃ found found', Validation.ofDocument before.2 before.1 = .ok found ∧
        Validation.ofDocument after.2 after.1 = .ok found' ∧
        found'.map (·.render (Document.withReturns text).toList) =
          found.map (·.render text.toList)) ∧
      (after.2.symbols.map fun symbol => (symbol.name, symbol.content)) =
        (before.2.symbols.map fun symbol => (symbol.name, symbol.content)) ∧
      (∀ name, (after.2.getAll name).map (·.content) = (before.2.getAll name).map (·.content)) ∧
      ∀ format, ∃ repositories,
        Repository.ofDocument before.1 before.2 format = .ok repositories ∧
          Repository.ofDocument after.1 after.2 format = .ok repositories := by
  intro before after
  have alike := Document.alikeUnless_withReturns plain
  have tables := alike.load table
  refine ⟨⟨_, _, Validation.ofDocument_ofText .., Validation.ofDocument_ofText .., ?_⟩, ?_,
    fun name => ?_, fun format => ⟨_, Repository.ofDocument_eq_flatMap_lines .., ?_⟩⟩
  · rw [Validation.foundInLines, Validation.foundInLines, List.map_flatMap, List.map_flatMap]
    exact Document.flatMap_significantLines_withReturns plain fun number line moved line_eq
      moved_eq => Document.map_render_withReturns plain line_eq moved_eq table
  · exact (Symbol.map_eq_of_alikeUnless tables.symbols fun symbol other same => by
      rw [same.name_eq, same.content_eq]).symm
  · exact (Symbol.map_eq_of_alikeUnless (tables.getAll name) fun symbol other same =>
      same.content_eq).symm
  · refine (Repository.ofDocument_eq_flatMap_lines ..).trans (congrArg Except.ok ?_)
    rw [Document.ofText, Document.ofText, List.flatMap_map, List.flatMap_map]
    exact Document.flatMap_significantLines_withReturns plain fun number line moved line_eq
      moved_eq => alike.namedIn_eq line_eq moved_eq not_false (fun _ _ _ _ => not_false) table
        format

/-- What is reported for the second line of a text, behind a carriage return and a line feed. -/
theorem SymbolTable.load_withReturns_conflict :
    let table := empty.add (.qualifier ⟨"is", .oneOf [["open", "closed"]]⟩)
    let text := "$a=o/r\nis:open is:closed $b"
    let after := table.load (Document.withReturns text)
    '\r' ∉ text.toList ∧ Document.withReturns text = "$a=o/r\r\nis:open is:closed $b" ∧
      ∃ found, Validation.ofDocument after.2 after.1 = .ok found ∧
        found.map (·.render (Document.withReturns text).toList) =
          ["2:9 Conflicts with mutual exclusive expression (conflicts with 2:1)",
            "2:19 Unknown variable"] := by
  intro table text after
  have plain : '\r' ∉ text.toList := by decide +kernel
  obtain ⟨found, found', found_eq, found_eq', same⟩ := (load_withReturns table plain).1
  have own_eq := found_eq.symm.trans (Validation.ofDocument_ofText ..)
  refine ⟨plain, by decide +kernel, found', found_eq', ?_⟩
  rw [same, Except.ok.inj own_eq]
  decide +kernel

end SearchQuery
