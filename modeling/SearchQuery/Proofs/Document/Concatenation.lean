import SearchQuery.Proofs.Document.Lines
import SearchQuery.Proofs.Node.Preorder

/-!
# Joined texts

Two texts that are joined by a line feed have the lines of the one and the lines of the other, but
for a line that holds nothing.  The line feed is a line of its own, if the first text ends with a
break; otherwise it ends the last line of that text, to which a carriage return may already belong.
-/

namespace SearchQuery

namespace Text

/-- A text is empty, begins with CR LF, is a carriage return, or begins with a character that is no
part of a pair, whatever follows the text. -/
theorem splitLines_induction {property : List Char → Prop} (nil : property [])
    (pair : ∀ rest, property rest → property ('\r' :: '\n' :: rest)) (lone : property ['\r'])
    (cons : ∀ c rest, (∀ more, c = '\r' → (rest ++ more).head? ≠ some '\n') → property rest →
      property (c :: rest)) (text : List Char) : property text := by
  have single (c : Char) (rest : List Char)
      (apart : ∀ more, c = '\r' → rest = '\n' :: more → False) (holds : property rest) :
      property (c :: rest) := by
    by_cases isLone : c = '\r' ∧ rest = []
    · obtain ⟨rfl, rfl⟩ := isLone
      exact lone
    · refine cons c rest (fun more same head => ?_) holds
      cases rest with
      | nil => exact isLone ⟨same, rfl⟩
      | cons d rest => exact apart rest same (by simpa using head)
  fun_induction splitLines text with
  | case1 => exact nil
  | case2 rest induction => exact pair rest induction
  | case3 c rest apart _ induction => exact single c rest apart induction
  | case4 c rest apart _ _ induction => exact single c rest apart induction
  | case5 c rest apart _ _ _ _ induction => exact single c rest apart induction

theorem splitLines_ne_nil {text : List Char} (nonempty : text ≠ []) : splitLines text ≠ [] := by
  intro noLines
  have whole := flatten_splitLines text
  rw [noLines] at whole
  exact nonempty whole.symm

theorem consLine_append {lines : List (List Char)} (nonempty : lines ≠ []) (c : Char)
    (more : List (List Char)) : consLine c (lines ++ more) = consLine c lines ++ more := by
  obtain ⟨line, lines, rfl⟩ := List.exists_cons_of_ne_nil nonempty
  unfold consLine
  split <;> rfl

/-- A break ends a line, unless it is a carriage return that a line feed follows. -/
theorem splitLines_append_of_isLineBreak {c : Char} (isBreak : isLineBreak c = true)
    (front : List Char) {back : List Char} (apart : c = '\r' → back.head? ≠ some '\n') :
    splitLines (front ++ c :: back) = splitLines (front ++ [c]) ++ splitLines back := by
  have here : splitLines (c :: back) = splitLines [c] ++ splitLines back := by
    rw [splitLines_cons_of_apart apart, splitLines_cons_of_apart (by simp),
      consLine_of_isLineBreak isBreak, consLine_of_isLineBreak isBreak]
    rfl
  induction front using splitLines_induction with
  | nil => exact here
  | pair rest induction =>
      rw [List.cons_append, List.cons_append, List.cons_append, List.cons_append, splitLines_pair,
        splitLines_pair, induction, List.cons_append]
  | lone =>
      by_cases feed : c = '\n'
      · rw [feed]
        exact splitLines_pair back
      · have lone_apart (rest : List Char) : '\r' = '\r' → (c :: rest).head? ≠ some '\n' :=
          fun _ head => feed (Option.some.inj head)
        rw [List.singleton_append, List.singleton_append,
          splitLines_cons_of_apart (lone_apart back), splitLines_cons_of_apart (lone_apart []),
          here, consLine_append (splitLines_ne_nil (by simp))]
  | cons d rest apart induction =>
      rw [List.cons_append, List.cons_append, splitLines_cons_of_apart (apart _),
        splitLines_cons_of_apart (apart _), induction,
        consLine_append (splitLines_ne_nil (by simp))]

/-- A line feed ends a line, whatever follows it. -/
theorem splitLines_append_lineFeed (front back : List Char) :
    splitLines (front ++ '\n' :: back) = splitLines (front ++ ['\n']) ++ splitLines back :=
  splitLines_append_of_isLineBreak (by decide) front fun same => by cases same

/-- Lines, and the same lines with a line feed behind them: it is a line of its own, or it belongs
to the last of them. -/
def EndsBy (lines ended : List (List Char)) : Prop :=
  ended = lines ++ [['\n']] ∨
    ∃ front last, lines = front ++ [last] ∧ ended = front ++ [last ++ ['\n']]

theorem EndsBy.consLine {lines ended : List (List Char)} (endsBy : EndsBy lines ended) (c : Char) :
    EndsBy (consLine c lines) (consLine c ended) := by
  by_cases isBreak : isLineBreak c = true
  · rw [consLine_of_isLineBreak isBreak, consLine_of_isLineBreak isBreak]
    rcases endsBy with rfl | ⟨front, last, rfl, rfl⟩
    · exact Or.inl rfl
    · exact Or.inr ⟨[c] :: front, last, rfl, rfl⟩
  · rw [Bool.not_eq_true] at isBreak
    rcases endsBy with rfl | ⟨front, last, rfl, rfl⟩
    · cases lines with
      | nil => exact Or.inr ⟨[], [c], consLine_nil isBreak, consLine_cons isBreak ..⟩
      | cons line lines =>
          exact Or.inl (consLine_append (List.cons_ne_nil line lines) c [['\n']])
    · cases front with
      | nil => exact Or.inr ⟨[], c :: last, consLine_cons isBreak .., consLine_cons isBreak ..⟩
      | cons line front =>
          exact Or.inr ⟨(c :: line) :: front, last, consLine_cons isBreak ..,
            consLine_cons isBreak ..⟩

theorem endsBy_splitLines (text : List Char) :
    EndsBy (splitLines text) (splitLines (text ++ ['\n'])) := by
  induction text using splitLines_induction with
  | nil => exact Or.inl rfl
  | pair rest induction =>
      rw [List.cons_append, List.cons_append, splitLines_pair, splitLines_pair]
      rcases induction with own | ⟨front, last, lines_eq, ended_eq⟩
      · exact Or.inl (congrArg _ own)
      · exact Or.inr ⟨['\r', '\n'] :: front, last, congrArg _ lines_eq, congrArg _ ended_eq⟩
  | lone => exact Or.inr ⟨[], ['\r'], rfl, splitLines_pair []⟩
  | cons c rest apart induction =>
      have alone := apart []
      rw [List.append_nil] at alone
      rw [List.cons_append, splitLines_cons_of_apart alone, splitLines_cons_of_apart (apart _)]
      exact induction.consLine c

theorem lineContent_append_lineFeed (line : List Char) :
    lineContent (line ++ ['\n']) = lineContent line := by
  simp [lineContent]

end Text

namespace SourceLine

theorem ofLines_append (offset : Nat) (front back : List (List Char)) :
    ofLines offset (front ++ back) =
      ofLines offset front ++ ofLines (offset + front.flatten.length) back := by
  induction front generalizing offset with
  | nil => rfl
  | cons line front induction => simp [ofLines, induction, Nat.add_assoc]

/-- The line, standing further right. -/
def move (distance : Nat) (line : SourceLine) : SourceLine :=
  { line with offset := line.offset + distance }

theorem ofLines_add (offset distance : Nat) (lines : List (List Char)) :
    ofLines (offset + distance) lines = (ofLines offset lines).map (move distance) := by
  induction lines generalizing offset with
  | nil => rfl
  | cons line lines induction =>
      rw [ofLines, ofLines, List.map_cons, ← induction, Nat.add_right_comm]
      rfl

/-- The node of a line that stands further right is the moved node. -/
theorem node_move (distance : Nat) (line : SourceLine) :
    (line.move distance).node = line.node.shift distance := by
  rw [node, node, Node.shift_shift]
  simp only [move, Int.natCast_add]
  rfl

/-- A line feed behind some lines adds no line that has a node, and changes none. -/
theorem filter_ofLines_of_endsBy {lines ended : List (List Char)}
    (endsBy : Text.EndsBy lines ended) (offset : Nat) :
    (ofLines offset ended).filter (·.isSignificant) =
      (ofLines offset lines).filter (·.isSignificant) := by
  rcases endsBy with rfl | ⟨front, last, rfl, rfl⟩
  · have nothing (place : Nat) : isSignificant ⟨place, Text.lineContent ['\n']⟩ = false := rfl
    rw [ofLines_append, List.filter_append, ofLines, ofLines,
      List.filter_cons_of_neg (Bool.eq_false_iff.mp (nothing _)), List.filter_nil, List.append_nil]
  · rw [ofLines_append, ofLines_append, ofLines, ofLines, Text.lineContent_append_lineFeed]
    rfl

/-- The lines of a part of a text that have nodes, where the part begins at an offset. -/
def significant (offset : Nat) (text : List Char) : List SourceLine :=
  (ofLines offset (Text.splitLines text)).filter (·.isSignificant)

theorem significant_add (offset distance : Nat) (text : List Char) :
    significant (offset + distance) text = (significant offset text).map (.move distance) := by
  rw [significant, ofLines_add, List.filter_map]
  rfl

/-- A text of blanks has no lines that have nodes. -/
theorem significant_of_blank (offset : Nat) {text : List Char}
    (blank : ∀ c ∈ text, Text.isBlank c = true) : significant offset text = [] := by
  rw [significant, List.filter_eq_nil_iff]
  intro line member significant
  obtain ⟨c, c_mem, visible⟩ := exists_visible significant
  obtain ⟨before, raw, after, lines_eq, rfl⟩ := exists_of_mem_ofLines member
  have raw_mem : raw ∈ Text.splitLines text := by simp [lines_eq]
  obtain ⟨_, ending, _, raw_eq⟩ := Text.content_of_mem_splitLines raw_mem
  have c_text : c ∈ text := by
    rw [← Text.flatten_splitLines text]
    refine List.mem_flatten.mpr ⟨raw, raw_mem, ?_⟩
    rw [raw_eq]
    exact List.mem_append_left _ c_mem
  simp [blank c c_text] at visible

/-- Behind a text that ends with a break, or in front of nothing, a text keeps its lines that have
nodes. -/
theorem significant_append (offset : Nat) {front back : List Char}
    (whole : back = [] ∨ ∀ c ∈ front.getLast?, Text.isLineBreak c = true) :
    significant offset (front ++ back) =
      significant offset front ++ significant (offset + front.length) back := by
  rcases List.eq_nil_or_concat front with rfl | ⟨body, c, rfl⟩
  · rfl
  rcases whole with rfl | ends
  · rw [List.append_nil]
    exact (List.append_nil _).symm
  have isBreak : Text.isLineBreak c = true := ends c (by simp)
  by_cases pair : c = '\r' ∧ back.head? = some '\n'
  · obtain ⟨rfl, head_eq⟩ := pair
    obtain ⟨rest, rfl⟩ := List.head?_eq_some_iff.mp head_eq
    have nothing (place : Nat) : isSignificant ⟨place, Text.lineContent ['\n']⟩ = false := rfl
    rw [significant, Text.splitLines_append_lineFeed, ofLines_append, List.filter_append,
      filter_ofLines_of_endsBy (Text.endsBy_splitLines _), Text.flatten_splitLines, significant,
      significant, Text.splitLines_cons (by decide), Text.consLine_of_isLineBreak (by decide),
      ofLines, List.filter_cons_of_neg (Bool.eq_false_iff.mp (nothing _)), List.length_append,
      ← Nat.add_assoc]
  · rw [List.concat_eq_append, List.append_assoc, List.singleton_append, significant,
      Text.splitLines_append_of_isLineBreak isBreak body fun same head => pair ⟨same, head⟩,
      ofLines_append, List.filter_append, Text.flatten_splitLines]
    rfl

end SourceLine

namespace Document

theorem significantLines_append (front back : String) :
    significantLines (front ++ "\n" ++ back) =
      significantLines front ++ (significantLines back).map (.move (front.length + 1)) := by
  have text_eq : (front ++ "\n" ++ back).toList = front.toList ++ ['\n'] ++ back.toList := by
    rw [String.toList_append, String.toList_append]
    rfl
  have front_eq : SourceLine.significant 0 (front.toList ++ ['\n']) = significantLines front :=
    SourceLine.filter_ofLines_of_endsBy (Text.endsBy_splitLines _) 0
  have ends : ∀ c ∈ (front.toList ++ ['\n']).getLast?, Text.isLineBreak c = true := by
    rw [List.getLast?_concat]
    rintro _ ⟨⟩
    rfl
  change SourceLine.significant 0 _ = _
  rw [text_eq, SourceLine.significant_append 0 (Or.inr ends), front_eq,
    SourceLine.significant_add, List.length_append, String.length_toList]
  rfl

/-- The nodes of a text behind another one are its own nodes, moved there. -/
theorem lines_ofText_append (front back : String) :
    (ofText (front ++ "\n" ++ back)).lines =
      (ofText front).lines ++ (ofText back).lines.map (.shift (front.length + 1)) := by
  have moved : ∀ line : SourceLine,
      (line.move (front.length + 1)).node = line.node.shift (front.length + 1) :=
    fun line => line.node_move _
  change (significantLines _).map (·.node) =
    (significantLines _).map (·.node) ++ ((significantLines _).map (·.node)).map _
  rw [significantLines_append, List.map_append, List.map_map, List.map_map]
  exact congrArg _ (List.map_congr_left fun line _ => moved line)

/-- Texts that are joined by a line feed have the nodes of the one and, moved behind it, those of
the other.  A line between them, whatever it holds, adds its own nodes and leaves all others as they
are, but for the place of those behind it. -/
theorem lines_ofText_joined (front back : String) :
    (ofText (front ++ "\n" ++ back)).lines =
        (ofText front).lines ++ (ofText back).lines.map (.shift (front.length + 1)) ∧
      ∀ line : String, (ofText (front ++ "\n" ++ line ++ "\n" ++ back)).lines =
        (ofText front).lines ++ (ofText line).lines.map (.shift (front.length + 1)) ++
          (ofText back).lines.map (.shift (front.length + 1 + line.length + 1)) := by
  refine ⟨lines_ofText_append front back, fun line => ?_⟩
  have length_eq : (((front ++ "\n" ++ line).length : Nat) : Int) + 1 =
      front.length + 1 + line.length + 1 := by
    rw [String.length_append, String.length_append, show "\n".length = 1 from rfl]
    omega
  rw [lines_ofText_append, lines_ofText_append, length_eq]

end Document

end SearchQuery
