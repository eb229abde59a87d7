import SearchQuery.Proofs.Document.Concatenation

/-!
# One line of a text

A line parts its text: the lines in front of it are those of the text in front of its content, and
the lines behind it are those of the text behind, whatever its content is.  If it is erased, by
taking its content out of the text, the other lines keep their contents, and those behind it stand
further left by its length; this holds too where the breaks around it become one.
-/

namespace SearchQuery

namespace Text

/-- The lines in front of a line end with a break, and so does the line itself if another one
follows it. -/
theorem isLineBreak_of_splitLines_eq {text line : List Char} {before after : List (List Char)}
    (lines_eq : splitLines text = before ++ line :: after) :
    (∀ c ∈ before.flatten.getLast?, isLineBreak c = true) ∧
      (after.flatten = [] ∨ ∀ c ∈ line.getLast?, isLineBreak c = true) := by
  have broken := pairwise_splitLines text
  rw [lines_eq, List.pairwise_append, List.pairwise_cons] at broken
  obtain ⟨_, ⟨line_ends, _⟩, before_ends⟩ := broken
  constructor
  · rcases List.eq_nil_or_concat before with rfl | ⟨front, last, rfl⟩
    · simp
    · have last_mem : last ∈ splitLines text := by simp [lines_eq]
      have nonempty := (exists_of_mem_splitLines last_mem).1
      rw [List.concat_eq_append, List.flatten_append, List.flatten_singleton,
        List.getLast?_append_of_ne_nil _ nonempty]
      exact before_ends last (by simp) line List.mem_cons_self
  · cases after with
    | nil => exact Or.inl rfl
    | cons next after => exact Or.inr (line_ends next List.mem_cons_self)

end Text

namespace SourceLine

section

variable {front content back : List Char}
  (member : (⟨front.length, content⟩ : SourceLine) ∈ ofText (front ++ content ++ back))

include member

/-- What stands in front of a line is ended, and the lines that have nodes are, from the line on,
the line and those behind its content. -/
theorem significant_from :
    (∀ c ∈ front.getLast?, Text.isLineBreak c = true) ∧
      ∀ offset, significant offset (content ++ back) =
        [⟨offset, content⟩].filter (·.isSignificant) ++
          significant (offset + content.length) back := by
  obtain ⟨before, raw, after, lines_eq, line_eq⟩ := exists_of_mem_ofLines member
  rw [Nat.zero_add, SourceLine.mk.injEq] at line_eq
  obtain ⟨offset_eq, content_eq⟩ := line_eq
  have raw_mem : raw ∈ Text.splitLines (front ++ content ++ back) := by rw [lines_eq]; simp
  obtain ⟨_, ending, trimmed, raw_eq⟩ := Text.content_of_mem_splitLines raw_mem
  rw [← content_eq] at raw_eq
  have whole : front ++ (content ++ back) =
      before.flatten ++ (content ++ (ending ++ after.flatten)) := by
    rw [← List.append_assoc, ← Text.flatten_splitLines (front ++ content ++ back), lines_eq,
      List.flatten_append, List.flatten_cons, raw_eq, List.append_assoc content]
  obtain ⟨front_eq, rest_eq⟩ := List.append_inj whole offset_eq
  obtain rfl := List.append_cancel_left rest_eq
  obtain ⟨front_ends, raw_ends⟩ := Text.isLineBreak_of_splitLines_eq lines_eq
  refine ⟨front_eq ▸ front_ends, fun offset => ?_⟩
  have breaks : ∀ c ∈ ending, Text.isLineBreak c = true := fun c member =>
    Text.isLineBreak_of_isTrimmed (trimmed c member)
  have alone : significant offset raw = [⟨offset, content⟩].filter (·.isSignificant) := by
    rw [significant, Text.splitLines_of_mem_splitLines raw_mem, ofLines, ofLines, content_eq]
  have nothing : significant (offset + content.length) ending = [] :=
    significant_of_blank _ fun c member => Text.isBlank_of_isLineBreak (breaks c member)
  calc
    significant offset (content ++ (ending ++ after.flatten))
      = significant offset (raw ++ after.flatten) := by rw [raw_eq, List.append_assoc]
    _ = significant offset raw ++ significant (offset + raw.length) after.flatten :=
        significant_append offset raw_ends
    _ = [⟨offset, content⟩].filter (·.isSignificant) ++
          significant (offset + content.length + ending.length) after.flatten := by
        rw [alone, raw_eq, List.length_append, Nat.add_assoc]
    _ = [⟨offset, content⟩].filter (·.isSignificant) ++
          significant (offset + content.length) (ending ++ after.flatten) := by
        rw [significant_append _ (Or.inr fun c last => breaks c (List.mem_of_getLast? last)),
          nothing, List.nil_append]

/-- The lines of a text that have nodes: those in front of a line, the line, and those behind. -/
theorem significant_around :
    significant 0 (front ++ content ++ back) =
      significant 0 front ++ [⟨front.length, content⟩].filter (·.isSignificant) ++
        (significant 0 back).map (.move (front.length + content.length)) := by
  obtain ⟨front_ends, from_line⟩ := significant_from member
  rw [List.append_assoc, significant_append 0 (Or.inr front_ends), from_line, ← significant_add,
    Nat.zero_add, Nat.zero_add, List.append_assoc]

end

end SourceLine

/-- The lines of a text that have nodes: those in front of a line, the line, and those behind. -/
theorem Document.significantLines_around {front content back : String}
    (member : ⟨front.length, content.toList⟩ ∈
      SourceLine.ofText (front ++ content ++ back).toList) :
    significantLines (front ++ content ++ back) =
      significantLines front ++ [⟨front.length, content.toList⟩].filter (·.isSignificant) ++
        (significantLines back).map (.move (front.length + content.length)) := by
  rw [String.toList_append, String.toList_append, ← String.length_toList] at member
  have around := SourceLine.significant_around member
  rwa [← String.toList_append, ← String.toList_append, String.length_toList,
    String.length_toList] at around

namespace SourceLine

/-- The text without the content of the line. -/
def erase (line : SourceLine) (text : String) : String :=
  String.ofList (text.toList.take line.offset ++
    text.toList.drop (line.offset + line.content.length))

/-- Only the line itself is lost when it is erased. -/
theorem significantLines_erase {text : String} {line : SourceLine}
    (member : line ∈ Document.significantLines text) :
    ∃ front back,
      Document.significantLines text = front ++ line :: back.map (.move line.content.length) ∧
        Document.significantLines (line.erase text) = front ++ back := by
  obtain ⟨line_mem, isSignificant⟩ := List.mem_filter.mp member
  obtain ⟨front, back, text_eq, offset_eq⟩ := (standsIn_of_mem_ofText line_mem).split
  obtain ⟨offset, content⟩ := line
  dsimp only at text_eq offset_eq
  subst offset_eq
  rw [text_eq] at line_mem
  have erased_eq : (erase ⟨front.length, content⟩ text).toList = front ++ back := by
    rw [erase, String.toList_ofList, text_eq, ← List.length_append, List.drop_left,
      List.append_assoc, List.take_left]
  have back_eq : significant (front.length + content.length) back =
      (significant front.length back).map (.move content.length) := significant_add ..
  refine ⟨significant 0 front, significant front.length back, ?_, ?_⟩
  · change significant 0 text.toList = _
    rw [text_eq, significant_around line_mem, List.filter_cons_of_pos isSignificant,
      List.filter_nil, ← significant_add, Nat.zero_add, back_eq, List.append_assoc]
    rfl
  · change significant 0 (erase ⟨front.length, content⟩ text).toList = _
    rw [erased_eq, significant_append 0 (Or.inr (significant_from line_mem).1), Nat.zero_add]

end SourceLine

end SearchQuery
