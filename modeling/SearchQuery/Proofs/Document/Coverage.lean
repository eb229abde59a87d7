import SearchQuery.Proofs.Document.Placement
import SearchQuery.Proofs.Line.Pieces

/-!
# What of a line its tree covers

Nothing that is written in a line is lost, and nothing of it is used twice: each character of a line
that is read, but for spaces and tabs between tokens, belongs to one piece of one node.
-/

namespace SearchQuery

namespace SourceLine

/-- A line that is not rejected is read. -/
theorem exists_finds_of_accepted {line : SourceLine} (accepted : ¬ line.IsRejected) :
    ∃ node next, Line.line.Finds ⟨0, line.content⟩ node next ∧
      line.node = node.shift line.offset := by
  rcases Line.Reader.misses_or_finds Line.line ⟨0, line.content⟩ with misses | ⟨node, next, finds⟩
  · exact absurd ⟨_, Line.parse_of_misses misses⟩ accepted
  · exact ⟨node, next, finds, by rw [SourceLine.node, Line.parse_of_finds finds]⟩

/-- Each character of a line that is read, but for spaces and tabs, is covered by one piece of the
line's tree: one leaf, or one sign of one node.  No character is covered by two, each piece has the
characters that the text has there, and the leaves stand one after the other. -/
theorem countP_covers_pieces {text : String} {line : SourceLine}
    (member : line ∈ Document.significantLines text) (accepted : ¬ line.IsRejected) :
    (∀ (index : Nat) (c : Char), line.content[index]? = some c → c ≠ ' ' → c ≠ '\t' →
        (line.node.pieces text.toList).countP (·.covers (line.offset + index)) = 1) ∧
      (∀ place, (line.node.pieces text.toList).countP (·.covers place) ≤ 1) ∧
      (∀ piece ∈ line.node.pieces text.toList, piece.StandsIn text.toList) ∧
      line.node.leaves.Pairwise fun left right => left.stop ≤ right.start := by
  have standsIn := Document.standsIn_of_mem_significantLines member
  have noBreak := standsIn.isContent.not_mem
  obtain ⟨front, back, text_eq, offset_eq⟩ := standsIn.split
  obtain ⟨node, next, finds, node_eq⟩ := exists_finds_of_accepted accepted
  obtain ⟨final, ⟨lexemes, path, perm⟩, atEnd⟩ := Line.nodePieces_line front back finds
  have on := Line.Cursor.on_start line.content
  obtain ⟨atMost, exactly⟩ := path.countP_covers on front.length
  have pieces_perm : (line.node.pieces text.toList).Perm (lexemes.map (·.piece front.length)) := by
    rw [node_eq, text_eq, offset_eq]
    exact perm
  refine ⟨?_, ?_, ?_, ?_⟩
  · intro index c char_eq noSpace noTab
    have char_mem := List.mem_of_getElem? char_eq
    have visible : Text.isGap c = false := by
      have noReturn : c ≠ '\r' := fun c_eq => noBreak.1 (c_eq ▸ char_mem)
      have noFeed : c ≠ '\n' := fun c_eq => noBreak.2 (c_eq ▸ char_mem)
      simp [Text.isGap, noSpace, noTab, noReturn, noFeed]
    have inside := (List.getElem?_eq_some_iff.mp char_eq).1
    have before : index < final.offset := by
      by_contra behind
      have final_on := path.on on
      have := final_on.skipGap.offset_eq_length atEnd
      have := Line.isGap_of_lt_skipGap final_on (by omega) (by omega) char_eq
      simp [visible] at this
    rw [pieces_perm.countP_eq, offset_eq, Int.add_comm]
    exact exactly index c (Nat.zero_le _) before char_eq visible
  · intro place
    rw [pieces_perm.countP_eq]
    exact atMost place
  · intro piece piece_mem
    obtain ⟨lexeme, lexeme_mem, rfl⟩ := List.mem_map.mp (pieces_perm.mem_iff.mp piece_mem)
    rw [text_eq]
    exact path.standsIn front back on lexeme lexeme_mem
  · obtain ⟨root, nodePlaced⟩ := Document.exists_nodePlaced_of_mem_significantLines member
    exact Node.pairwise_leaves fun node node_mem => nodePlaced.node_placed standsIn node_mem

/-- A line with a comparison, a negated qualifier with an open range, and a text without its closing
quote. -/
theorem countP_covers_star :
    let line : SourceLine := ⟨5, "<5 -a:*..$b \"c d".toList⟩
    line ∈ Document.significantLines "// x\n<5 -a:*..$b \"c d" ∧ ¬ line.IsRejected ∧
      (line.node.pieces "// x\n<5 -a:*..$b \"c d".toList).countP (·.covers 11) = 1 := by
  have member : (⟨5, "<5 -a:*..$b \"c d".toList⟩ : SourceLine) ∈
      Document.significantLines "// x\n<5 -a:*..$b \"c d" := by decide +kernel
  have accepted : ¬ (⟨5, "<5 -a:*..$b \"c d".toList⟩ : SourceLine).IsRejected := by decide +kernel
  exact ⟨member, accepted,
    (countP_covers_pieces member accepted).1 6 '*' (by decide +kernel) (by decide) (by decide)⟩

example :
    (SourceLine.node ⟨0, "-a:*..5 \"b c".toList⟩).pieces "-a:*..5 \"b c".toList =
      [.ofChars 0 ['-'], .ofChars 2 [':'], .ofChars 1 ['a'],
        .ofChars 3 ['*'], .ofChars 4 ['.', '.'], .ofChars 6 ['5'],
        .ofChars 8 ['"', 'b', ' ', 'c']] := by decide +kernel

end SourceLine

end SearchQuery
