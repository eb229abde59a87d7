import SearchQuery.Proofs.Document.Placement
import SearchQuery.Proofs.Line.ReprintLine

/-!
# Reading a printed document

A document whose lines can all be read, and whose nodes are printed with all that they are made of,
is printed as a text that holds the same document but for the offsets.
-/

namespace SearchQuery

namespace Node

/-- A node is plain in a part of a text if it is so in the text, where it was moved to. -/
theorem isPlain_of_shift (front content back : List Char) {node : Node}
    (placed : ∀ inner ∈ node.preorder, inner.Placed content)
    (plain : (node.shift front.length).IsPlain (front ++ content ++ back)) :
    node.IsPlain content := by
  rw [forall_mem_preorder_iff] at placed
  obtain ⟨root, parts⟩ := placed
  have moved {inner : Node} (inner_placed : inner.Placed content) :
      (inner.span.shift front.length).slice (front ++ content ++ back) =
        inner.span.slice content :=
    Span.slice_shift front content back inner_placed.start_nonneg inner_placed.start_le_stop
      inner_placed.stop_le
  cases node with
  | range span lower upper =>
      have span_moved := moved root
      rw [Node.span] at span_moved
      simp only [shift, IsPlain, span_moved] at plain
      exact plain
  | query span items =>
      rw [partNodes_query] at parts
      simp only [shift, IsPlain, shiftList_eq_map, List.isChain_map] at plain
      refine plain.imp_of_mem_imp fun left right left_mem right_mem apart => ?_
      have left_placed := parts left left_mem left (self_mem_preorder left)
      have right_placed := parts right right_mem right (self_mem_preorder right)
      rw [left_placed.stop_shift, right_placed.start_shift] at apart
      omega
  | compare span operator value =>
      cases value with
      | literal inner text =>
          have inner_moved := moved (parts _ List.mem_cons_self _ (self_mem_preorder _))
          rw [Node.span] at inner_moved
          simp only [shift, IsPlain, inner_moved] at plain
          exact plain
      | _ => trivial
  | _ => trivial

end Node

namespace Line

/-- A line that is read begins with a character that is not blank, behind the gap. -/
theorem visible_of_finds {content : List Char} {node : Node} {next : Cursor}
    (finds : line.Finds ⟨0, content⟩ node next) :
    ∃ c tail, ungap content = c :: tail ∧ Text.isBlank c = false := by
  by_contra! blanks
  have blank : ∀ c ∈ (ungap content).head?, Text.isBlank c = true := by
    intro c member
    obtain ⟨tail, text_eq⟩ := List.head?_eq_some_iff.mp member
    simpa using blanks c tail text_eq
  obtain ⟨back, found | ⟨_, found⟩, _⟩ := finds_line_iff.mp finds
  · apply found.not_misses
    apply misses_definition_iff.mpr
    exact Or.inl (Token.take?_eq_none_of_blank (by decide) blank)
  · obtain ⟨first, others, repeats, _⟩ := finds_query_iff.mp found
    cases repeats with
    | more finds _ => exact finds.not_misses (misses_item_of_blank blank)

theorem trimLeft_eq_ungap {content : List Char}
    (visible : ∀ c ∈ (ungap content).head?, Text.isBlank c = false) :
    Text.trimLeft content = ungap content := by
  have blanks : ∀ c ∈ (Cursor.mk 0 content).gap, Text.isBlank c = true :=
    fun c member => Text.isBlank_of_isGap (Cursor.isGap_of_mem_gap member)
  have split : content = (Cursor.mk 0 content).gap ++ ungap content :=
    (Cursor.mk 0 content).gap_append
  rw [Text.trimLeft]
  nth_rewrite 1 [split]
  rw [List.dropWhile_append_of_pos blanks]
  cases text_eq : ungap content with
  | nil => rfl
  | cons c tail =>
      have := visible c (by simp [text_eq])
      simp [this]

end Line

namespace SourceLine

theorem map_content_ofLines (offset : Nat) (lines : List (List Char)) :
    (ofLines offset lines).map (·.content) = lines.map Text.lineContent := by
  induction lines generalizing offset with
  | nil => rfl
  | cons line lines induction => rw [ofLines, List.map_cons, List.map_cons, induction]

/-- Without offsets, the node of a line depends on its content only. -/
theorem bare_node_eq (line : SourceLine) : line.node.bare = (node ⟨0, line.content⟩).bare := by
  simp only [node, Node.bare_shift]
  rfl

theorem isComment_eq (line : SourceLine) :
    line.isComment = (Line.takeWord? ['/', '/'] (Text.trimLeft line.content)).isSome :=
  (Line.isSome_takeWord? ..).symm

/-- The text that a line is printed as, and what is read from it. -/
structure Reprints (source : List Char) (line : SourceLine) (text : List Char) : Prop where
  printed : line.node.print source some = .ok (String.ofList text)
  isContent : Text.IsContent text
  isSignificant : isSignificant ⟨0, text⟩ = true
  bare_eq : (node ⟨0, text⟩).bare = line.node.bare

/-- A line that is read from a text can be printed, and is read again as what it was. -/
theorem exists_reprints {text : String} {line : SourceLine}
    (member : line ∈ Document.significantLines text) (accepted : ¬ line.IsRejected)
    (plain : line.node.AllPlain text.toList) : ∃ words, line.Reprints text.toList words := by
  obtain ⟨⟨front, back, text_eq, offset_eq⟩, isContent⟩ :=
    Document.standsIn_of_mem_significantLines member
  rcases Line.Reader.misses_or_finds Line.line ⟨0, line.content⟩ with misses | ⟨root, next, finds⟩
  · exact absurd ⟨_, Line.parse_of_misses misses⟩ accepted
  have nodePlaced := nodePlaced_of_finds finds
  have rootPlain : root.AllPlain line.content := by
    intro inner inner_mem
    apply Node.isPlain_of_shift front line.content back
    · exact fun node node_mem => nodePlaced.placed node (Node.mem_preorder_trans inner_mem node_mem)
    · rw [← text_eq, ← offset_eq]
      apply plain
      rw [nodePlaced.node_eq, Node.preorder_shift]
      exact List.mem_map_of_mem inner_mem
  obtain ⟨words, reprints⟩ := Line.exists_lineReprints isContent finds rootPlain
  obtain ⟨found, last, found_eq, bare_eq⟩ := reprints.finds
  refine ⟨words, ?_, reprints.isContent, ?_, ?_⟩
  · rw [nodePlaced.node_eq, offset_eq, text_eq, Node.print_shift _ _ _ _ nodePlaced.placed]
    exact reprints.printed
  · obtain ⟨c, tail, words_eq, visible⟩ := reprints.visible
    obtain ⟨d, rest, content_eq, d_visible⟩ := Line.visible_of_finds finds
    have significant := (List.mem_filter.mp member).2
    simp only [isSignificant, Bool.and_eq_true, Bool.not_eq_true', isComment_eq,
      Option.isSome_eq_false_iff, Option.isNone_iff_eq_none] at significant ⊢
    have words_trim : Text.trimLeft words = words := by
      rw [words_eq, Text.trimLeft, List.dropWhile_cons_of_neg (by simp [visible])]
    constructor
    · simp [isEmpty, words_eq, visible]
    · rw [Line.trimLeft_eq_ungap (by simpa [content_eq] using d_visible)] at significant
      rw [words_trim]
      exact reprints.quieter.comment significant.2
  · rw [node, Line.parse_of_finds found_eq, nodePlaced.node_eq, Node.bare_shift, Node.bare_shift,
      bare_eq]

theorem exists_reprints_lines {source : List Char} {lines : List SourceLine}
    (each : ∀ line ∈ lines, ∃ words, line.Reprints source words) :
    ∃ texts : List (List Char),
      Node.printList source some (lines.map (·.node)) = .ok (texts.map String.ofList) ∧
        (∀ text ∈ texts, Text.IsContent text ∧ isSignificant ⟨0, text⟩ = true) ∧
        texts.map (fun text => (node ⟨0, text⟩).bare) = lines.map (·.node.bare) := by
  induction lines with
  | nil => exact ⟨[], rfl, by simp, rfl⟩
  | cons line lines induction =>
      rw [List.forall_mem_cons] at each
      obtain ⟨⟨words, reprints⟩, others⟩ := each
      obtain ⟨texts, printed, kept, same⟩ := induction others
      refine ⟨words :: texts, ?_, ?_, ?_⟩
      · rw [List.map_cons, Node.printList, reprints.printed, printed]
        rfl
      · exact List.forall_mem_cons.mpr ⟨⟨reprints.isContent, reprints.isSignificant⟩, kept⟩
      · rw [List.map_cons, List.map_cons, reprints.bare_eq, same]

end SourceLine

namespace Document

theorem map_content_significantLines (text : String) :
    (significantLines text).map (·.content) =
      (Text.lineContents text.toList).filter
        fun content => SourceLine.isSignificant ⟨0, content⟩ := by
  rw [Text.lineContents, ← SourceLine.map_content_ofLines 0, List.filter_map]
  rfl

/-- The shapes of the lines of a text are those of their contents. -/
theorem bare_lines_ofText (text : String) :
    (ofText text).lines.map Node.bare =
      ((significantLines text).map (·.content)).map
        fun content => (SourceLine.node ⟨0, content⟩).bare := by
  rw [ofText, List.map_map, List.map_map]
  exact List.map_congr_left fun line _ => line.bare_node_eq

/-- A document that is printed with the names of its variables is read again with the same nodes,
but for the offsets, if all of its lines can be read and all of its nodes are plain. -/
theorem bare_lines_ofText_print {text : String}
    (accepted : ∀ line ∈ significantLines text, ¬ line.IsRejected)
    (plain : ∀ node ∈ (ofText text).toNode.preorder, node.IsPlain text.toList) :
    ∃ printed, (ofText text).print some = .ok printed ∧
      (ofText printed).lines.map Node.bare = (ofText text).lines.map Node.bare := by
  have each : ∀ line ∈ significantLines text, ∃ words, line.Reprints text.toList words := by
    intro line member
    refine SourceLine.exists_reprints member (accepted line member) fun inner inner_mem => ?_
    exact plain inner (mem_preorder_of_mem_lines (List.mem_map_of_mem member) inner_mem)
  obtain ⟨texts, printed, kept, same⟩ := SourceLine.exists_reprints_lines each
  refine ⟨"\n".intercalate (texts.map String.ofList), ?_, ?_⟩
  · change Node.print text.toList some (.document _ _ _) = _
    rw [Node.print, show (ofText text).lines = (significantLines text).map (·.node) from rfl,
      printed]
    rfl
  · have contents := Text.filter_lineContents_intercalate (by decide) kept
    rw [bare_lines_ofText, map_content_significantLines, Text.intercalate_map_ofList,
      String.toList_ofList, show "\n".toList = ['\n'] from rfl, contents, same, ofText,
      List.map_map]
    rfl

/-- A definition and a query, written with gaps that are not printed. -/
theorem bare_lines_reprinted :
    let text := "$v =  label:  \"a b\"\n\t-label: <= $v  1 .. 5\tsort:"
    let printed := "$v=label:\"a b\"\n-label:<=$v 1..5 sort:"
    (ofText text).print some = .ok printed ∧
      (ofText printed).lines.map Node.bare = (ofText text).lines.map Node.bare := by
  intro text printed
  have accepted : ∀ line ∈ significantLines text, ¬ line.IsRejected := by decide +kernel
  have plain : ∀ node ∈ (ofText text).toNode.preorder, node.IsPlain text.toList := by
    decide +kernel
  have printed_eq : ((ofText text).print some).toOption = Option.some printed := by decide +kernel
  obtain ⟨again, again_eq, same⟩ := bare_lines_ofText_print accepted plain
  rw [again_eq] at printed_eq
  obtain rfl : again = printed := Option.some.inj printed_eq
  exact ⟨again_eq, same⟩

end Document

end SearchQuery
