import SearchQuery.Text.Blank
import SearchQuery.Text.Lines

/-!
# The form of a line

A line ends where the text does or with one line break.  Its content is the line without the
carriage return and line feed at its end, so that neither of these stands in it, and any other line
break can only be its last character.
-/

namespace SearchQuery.Text

/-- Whether a character is taken off the end of a line. -/
def isTrimmed (c : Char) : Bool := c == '\r' || c == '\n'

/-- The breaks that end lines. -/
inductive IsEnding : List Char → Prop
  | none : IsEnding []
  | pair : IsEnding ['\r', '\n']
  | single {c : Char} (isBreak : isLineBreak c = true) : IsEnding [c]

/-- A line is a beginning without line breaks and an ending. -/
theorem exists_of_mem_splitLines {text line : List Char} (member : line ∈ splitLines text) :
    line ≠ [] ∧ ∃ body ending, line = body ++ ending ∧ (∀ c ∈ body, isLineBreak c = false) ∧
      IsEnding ending := by
  fun_induction splitLines text generalizing line with
  | case1 => simp at member
  | case2 rest induction =>
      rcases List.mem_cons.mp member with rfl | member
      · exact ⟨by simp, [], _, rfl, by simp, .pair⟩
      · exact induction member
  | case3 c rest _ isBreak induction =>
      rcases List.mem_cons.mp member with rfl | member
      · exact ⟨by simp, [], [c], rfl, by simp, .single isBreak⟩
      · exact induction member
  | case4 c rest _ noBreak =>
      obtain rfl := List.mem_singleton.mp member
      exact ⟨by simp, [c], [], rfl, by simpa using noBreak, .none⟩
  | case5 c rest _ noBreak first others split_eq induction =>
      rw [split_eq] at induction
      rcases List.mem_cons.mp member with rfl | member
      · obtain ⟨_, body, ending, first_eq, inside, isEnding⟩ := induction List.mem_cons_self
        refine ⟨by simp, c :: body, ending, by simp [first_eq], ?_, isEnding⟩
        simpa [noBreak] using inside
      · exact induction (List.mem_cons_of_mem first member)

/-- What is taken off a line. -/
theorem lineContent_append {content ending : List Char}
    (trimmed : ∀ c ∈ ending, isTrimmed c = true)
    (kept : ∀ c ∈ content.getLast?, isTrimmed c = false) :
    lineContent (content ++ ending) = content := by
  have front : ending.reverse.all isTrimmed = true := by simpa using trimmed
  have back : content.reverse.dropWhile isTrimmed = content.reverse := by
    rw [← List.head?_reverse] at kept
    generalize content.reverse = backwards at kept
    cases backwards with
    | nil => rfl
    | cons c rest =>
        have := kept c rfl
        simp [this]
  change ((content ++ ending).reverse.dropWhile isTrimmed).reverse = content
  rw [List.reverse_append, List.dropWhile_append_of_pos (by simpa using front), back,
    List.reverse_reverse]

theorem length_lineContent_le (line : List Char) : (lineContent line).length ≤ line.length := by
  have := (List.dropWhile_sublist (fun c => c == '\r' || c == '\n') (l := line.reverse)).length_le
  simpa [lineContent] using this

theorem isLineBreak_of_isTrimmed {c : Char} (trimmed : isTrimmed c = true) :
    isLineBreak c = true := by
  simp only [isTrimmed, Bool.or_eq_true, beq_iff_eq] at trimmed
  rcases trimmed with rfl | rfl <;> decide

/-- Text without line breaks, but for one that is not taken off at its end. -/
inductive IsContent : List Char → Prop
  | plain {body : List Char} (inside : ∀ c ∈ body, isLineBreak c = false) : IsContent body
  | broken {body : List Char} {c : Char} (inside : ∀ c ∈ body, isLineBreak c = false)
      (kept : isTrimmed c = false) : IsContent (body ++ [c])

/-- In a content stands neither a carriage return nor a line feed. -/
theorem IsContent.isTrimmed_eq_false {content : List Char} (isContent : IsContent content) :
    ∀ c ∈ content, isTrimmed c = false := by
  have unbroken {c : Char} (noBreak : isLineBreak c = false) : isTrimmed c = false := by
    rw [← Bool.not_eq_true]
    intro trimmed
    simp [isLineBreak_of_isTrimmed trimmed] at noBreak
  cases isContent with
  | plain inside => exact fun c member => unbroken (inside c member)
  | broken inside kept =>
      intro c member
      rcases List.mem_append.mp member with member | member
      · exact unbroken (inside c member)
      · exact List.mem_singleton.mp member ▸ kept

theorem IsContent.not_mem {content : List Char} (isContent : IsContent content) :
    '\r' ∉ content ∧ '\n' ∉ content := by
  constructor <;> intro member <;> exact absurd (isContent.isTrimmed_eq_false _ member) (by decide)

theorem isBlank_of_isLineBreak {c : Char} (isBreak : isLineBreak c = true) : isBlank c = true := by
  simp only [isLineBreak, Bool.or_eq_true, beq_iff_eq] at isBreak
  rcases isBreak with ((((((((rfl | rfl) | rfl) | rfl) | rfl) | rfl) | rfl) | rfl) | rfl) | rfl <;>
    decide

theorem isLineBreak_eq_false_of_visible {c : Char} (visible : isBlank c = false) :
    isLineBreak c = false := by
  rw [← Bool.not_eq_true]
  intro isBreak
  simp [isBlank_of_isLineBreak isBreak] at visible

/-- A content has a line break only as its last character. -/
theorem isContent_iff {content : List Char} :
    IsContent content ↔
      (∀ c ∈ content.dropLast, isLineBreak c = false) ∧ ∀ c ∈ content, isTrimmed c = false := by
  constructor
  · intro isContent
    refine ⟨?_, isContent.isTrimmed_eq_false⟩
    cases isContent with
    | plain inside => exact fun c member => inside c (List.dropLast_subset _ member)
    | broken inside _ => simpa using inside
  · rintro ⟨inside, kept⟩
    rcases List.eq_nil_or_concat content with rfl | ⟨body, c, rfl⟩
    · exact .plain (by simp)
    · rw [List.concat_eq_append] at inside kept ⊢
      exact .broken (by simpa using inside) (kept c (by simp))

/-- What stands in front of other characters of a content has no line break. -/
theorem IsContent.unbroken {front back : List Char} (isContent : IsContent (front ++ back))
    (more : back ≠ []) : ∀ c ∈ front, isLineBreak c = false := by
  intro c member
  apply (isContent_iff.mp isContent).1
  rw [List.dropLast_append_of_ne_nil more]
  exact List.mem_append_left _ member

theorem IsContent.of_append_left {front back : List Char} (isContent : IsContent (front ++ back)) :
    IsContent front := by
  by_cases more : back = []
  · simpa [more] using isContent
  · exact .plain (isContent.unbroken more)

theorem IsContent.of_suffix {back content : List Char} (isContent : IsContent content)
    (stands : back <:+ content) : IsContent back := by
  obtain ⟨front, rfl⟩ := stands
  rw [isContent_iff] at isContent ⊢
  obtain ⟨inside, kept⟩ := isContent
  refine ⟨fun c member => ?_, fun c member => kept c (List.mem_append_right _ member)⟩
  apply inside
  have more : back ≠ [] := by
    rintro rfl
    simp at member
  rw [List.dropLast_append_of_ne_nil more]
  exact List.mem_append_right _ member

theorem IsContent.prepend {front back : List Char} (unbroken : ∀ c ∈ front, isLineBreak c = false)
    (isContent : IsContent back) : IsContent (front ++ back) := by
  have joined {body : List Char} (inside : ∀ c ∈ body, isLineBreak c = false) :
      ∀ c ∈ front ++ body, isLineBreak c = false := by
    intro c member
    rcases List.mem_append.mp member with member | member
    · exact unbroken c member
    · exact inside c member
  cases isContent with
  | plain inside => exact .plain (joined inside)
  | broken inside kept =>
      rw [← List.append_assoc]
      exact .broken (joined inside) kept

theorem intercalate_map_ofList (separator : String) (words : List (List Char)) :
    separator.intercalate (words.map String.ofList) =
      String.ofList (separator.toList.intercalate words) := by
  apply String.toList_injective
  rw [String.toList_intercalate, String.toList_ofList, List.map_map]
  simp [Function.comp_def]

/-- A line is its content and carriage returns or line feeds. -/
theorem content_of_mem_splitLines {text line : List Char} (member : line ∈ splitLines text) :
    IsContent (lineContent line) ∧
      ∃ ending, (∀ c ∈ ending, isTrimmed c = true) ∧ line = lineContent line ++ ending := by
  obtain ⟨_, body, ending, rfl, inside, isEnding⟩ := exists_of_mem_splitLines member
  have body_kept : ∀ c ∈ body.getLast?, isTrimmed c = false :=
    fun c last => (IsContent.plain inside).isTrimmed_eq_false c (List.mem_of_getLast? last)
  have ofTrimmed (trimmed : ∀ c ∈ ending, isTrimmed c = true) :
      IsContent (lineContent (body ++ ending)) ∧ ∃ ending', (∀ c ∈ ending', isTrimmed c = true) ∧
        body ++ ending = lineContent (body ++ ending) ++ ending' := by
    rw [lineContent_append trimmed body_kept]
    exact ⟨.plain inside, ending, trimmed, rfl⟩
  cases isEnding with
  | none => exact ofTrimmed (by simp)
  | pair => exact ofTrimmed (by simp [isTrimmed])
  | @single c isBreak =>
      by_cases trimmed : isTrimmed c = true
      · exact ofTrimmed (by simpa using trimmed)
      · have kept : isTrimmed c = false := by simpa using trimmed
        have content_eq : lineContent (body ++ [c]) = body ++ [c] := by
          have := @lineContent_append (body ++ [c]) [] (by simp) (by simpa using kept)
          rwa [List.append_nil] at this
        rw [content_eq]
        exact ⟨.broken inside kept, [], by simp, by simp⟩

/-! ## Joined lines -/

/-- The lines of a text that begins with a character, from the lines behind that character. -/
def consLine (c : Char) (lines : List (List Char)) : List (List Char) :=
  if isLineBreak c then [c] :: lines
  else
    match lines with
    | [] => [[c]]
    | line :: lines => (c :: line) :: lines

theorem consLine_of_isLineBreak {c : Char} (isBreak : isLineBreak c = true)
    (lines : List (List Char)) : consLine c lines = [c] :: lines :=
  if_pos isBreak

theorem consLine_nil {c : Char} (noBreak : isLineBreak c = false) : consLine c [] = [[c]] := by
  simp [consLine, noBreak]

theorem consLine_cons {c : Char} (noBreak : isLineBreak c = false) (line : List Char)
    (lines : List (List Char)) : consLine c (line :: lines) = (c :: line) :: lines := by
  simp [consLine, noBreak]

/-- A character that begins no pair is a break by itself or stands in the line behind it. -/
theorem splitLines_cons_of_apart {c : Char} {rest : List Char}
    (apart : c = '\r' → rest.head? ≠ some '\n') :
    splitLines (c :: rest) = consLine c (splitLines rest) := by
  rw [splitLines.eq_def]
  split
  case h_1 impossible => cases impossible
  case h_2 pair =>
    obtain ⟨rfl, rfl⟩ := List.cons.inj pair
    exact absurd rfl (apart rfl)
  case h_3 same =>
    obtain ⟨rfl, rfl⟩ := List.cons.inj same
    rfl

theorem splitLines_cons {c : Char} (single : c ≠ '\r') (rest : List Char) :
    splitLines (c :: rest) = consLine c (splitLines rest) :=
  splitLines_cons_of_apart fun same => absurd same single

theorem splitLines_pair (rest : List Char) :
    splitLines ('\r' :: '\n' :: rest) = ['\r', '\n'] :: splitLines rest := rfl

theorem ne_carriageReturn_of_not_isLineBreak {c : Char} (noBreak : isLineBreak c = false) :
    c ≠ '\r' := by
  rintro rfl
  exact absurd noBreak (by decide)

/-- Characters that are no breaks belong to the line that follows them. -/
theorem splitLines_prepend {body rest line : List Char} {lines : List (List Char)}
    (unbroken : ∀ c ∈ body, isLineBreak c = false) (split_eq : splitLines rest = line :: lines) :
    splitLines (body ++ rest) = (body ++ line) :: lines := by
  induction body with
  | nil => exact split_eq
  | cons c body induction =>
      rw [List.forall_mem_cons] at unbroken
      rw [List.cons_append, splitLines_cons (ne_carriageReturn_of_not_isLineBreak unbroken.1),
        induction unbroken.2, consLine_cons unbroken.1, List.cons_append]

theorem splitLines_append_break {body rest : List Char} {c : Char}
    (unbroken : ∀ d ∈ body, isLineBreak d = false) (isBreak : isLineBreak c = true)
    (single : c ≠ '\r') : splitLines (body ++ c :: rest) = (body ++ [c]) :: splitLines rest :=
  splitLines_prepend unbroken (by rw [splitLines_cons single, consLine_of_isLineBreak isBreak])

theorem splitLines_of_unbroken {body : List Char} (nonempty : body ≠ [])
    (unbroken : ∀ c ∈ body, isLineBreak c = false) : splitLines body = [body] := by
  induction body with
  | nil => exact absurd rfl nonempty
  | cons c body induction =>
      rw [List.forall_mem_cons] at unbroken
      rw [splitLines_cons (ne_carriageReturn_of_not_isLineBreak unbroken.1)]
      cases body with
      | nil => exact consLine_nil unbroken.1
      | cons d body =>
          rw [induction (List.cons_ne_nil d body) unbroken.2, consLine_cons unbroken.1]

/-- A line of a text is its only line. -/
theorem splitLines_of_mem_splitLines {text line : List Char} (member : line ∈ splitLines text) :
    splitLines line = [line] := by
  obtain ⟨nonempty, body, ending, rfl, unbroken, isEnding⟩ := exists_of_mem_splitLines member
  cases isEnding with
  | none =>
      rw [List.append_nil] at nonempty ⊢
      exact splitLines_of_unbroken nonempty unbroken
  | pair => exact splitLines_prepend unbroken rfl
  | @single c isBreak =>
      refine splitLines_prepend unbroken ?_
      rw [splitLines_cons_of_apart (by simp), consLine_of_isLineBreak isBreak]
      rfl

/-- A line that another one follows ends with a break. -/
theorem pairwise_splitLines (text : List Char) :
    (splitLines text).Pairwise fun line _ => ∀ c ∈ line.getLast?, isLineBreak c = true := by
  fun_induction splitLines text with
  | case1 => exact .nil
  | case2 rest induction =>
      have ends : ∀ c ∈ ['\r', '\n'].getLast?, isLineBreak c = true := by
        rintro _ ⟨⟩
        rfl
      exact List.pairwise_cons.mpr ⟨fun _ _ => ends, induction⟩
  | case3 c rest _ isBreak induction =>
      exact List.pairwise_cons.mpr ⟨fun _ _ => by simpa using isBreak, induction⟩
  | case4 => exact List.pairwise_singleton _ _
  | case5 c rest _ noBreak line lines split_eq induction =>
      rw [split_eq, List.pairwise_cons] at induction
      have nonempty : line ≠ [] :=
        (exists_of_mem_splitLines (split_eq ▸ List.mem_cons_self (l := lines))).1
      rw [List.pairwise_cons, List.getLast?_cons_of_ne_nil nonempty]
      exact induction

theorem lineContent_of_isContent {content ending : List Char} (isContent : IsContent content)
    (trimmed : ∀ c ∈ ending, isTrimmed c = true) : lineContent (content ++ ending) = content :=
  lineContent_append trimmed fun c last =>
    isContent.isTrimmed_eq_false c (List.mem_of_getLast? last)

/-- A content is a line without breaks, or one that ends with the break. -/
theorem IsContent.unbroken_or_break {content : List Char} (isContent : IsContent content) :
    (∀ c ∈ content, isLineBreak c = false) ∨
      ∃ body c, content = body ++ [c] ∧ (∀ d ∈ body, isLineBreak d = false) ∧
        isLineBreak c = true ∧ c ≠ '\r' := by
  cases isContent with
  | plain inside => exact Or.inl inside
  | @broken body c inside kept =>
      by_cases isBreak : isLineBreak c = true
      · refine Or.inr ⟨body, c, rfl, inside, isBreak, ?_⟩
        rintro rfl
        exact absurd kept (by decide)
      · left
        intro d member
        rcases List.mem_append.mp member with member | member
        · exact inside d member
        · simpa [List.mem_singleton.mp member] using isBreak

/-- The contents of the lines of a text. -/
def lineContents (text : List Char) : List (List Char) := (splitLines text).map lineContent

theorem lineContents_of_isContent {content : List Char} (isContent : IsContent content)
    (nonempty : content ≠ []) : lineContents content = [content] := by
  have whole : lineContent content = content := by
    simpa using lineContent_of_isContent isContent (show ∀ c ∈ [], isTrimmed c = true by simp)
  rcases isContent.unbroken_or_break with
    unbroken | ⟨body, c, content_eq, unbroken, isBreak, single⟩
  · rw [lineContents, splitLines_of_unbroken nonempty unbroken, List.map_singleton, whole]
  · have noLine : splitLines [] = [] := rfl
    rw [lineContents, content_eq, splitLines_append_break unbroken isBreak single, ← content_eq,
      noLine, List.map_singleton, whole]

/-- In front of a line feed stands a line, and an empty line behind it if it ends with a break. -/
theorem lineContents_append {content : List Char} (isContent : IsContent content)
    (rest : List Char) :
    lineContents (content ++ '\n' :: rest) = content :: lineContents rest ∨
      lineContents (content ++ '\n' :: rest) = content :: [] :: lineContents rest := by
  rcases isContent.unbroken_or_break with
    unbroken | ⟨body, c, content_eq, unbroken, isBreak, single⟩
  · left
    rw [lineContents, splitLines_append_break unbroken (by decide) (by decide), List.map_cons,
      lineContent_of_isContent isContent (by simp [isTrimmed])]
    rfl
  · right
    have whole : lineContent content = content := by
      simpa using lineContent_of_isContent isContent (show ∀ c ∈ [], isTrimmed c = true by simp)
    rw [lineContents, content_eq, List.append_assoc, List.singleton_append,
      splitLines_append_break unbroken isBreak single, ← content_eq,
      splitLines_cons (by decide), consLine_of_isLineBreak (by decide), List.map_cons,
      List.map_cons, whole]
    rfl

/-- Lines that are joined by line feeds are the lines of the whole, but for empty ones. -/
theorem filter_lineContents_intercalate {keep : List Char → Bool} (noEmpty : keep [] = false)
    {contents : List (List Char)}
    (kept : ∀ content ∈ contents, IsContent content ∧ keep content = true) :
    (lineContents (['\n'].intercalate contents)).filter keep = contents := by
  induction contents with
  | nil => rfl
  | cons content contents induction =>
      rw [List.forall_mem_cons] at kept
      obtain ⟨⟨isContent, keeps⟩, others⟩ := kept
      have later := induction others
      cases contents with
      | nil =>
          have nonempty : content ≠ [] := by
            rintro rfl
            simp [noEmpty] at keeps
          rw [List.intercalate_singleton, lineContents_of_isContent isContent nonempty]
          simp [keeps]
      | cons next contents =>
          rw [List.intercalate_cons_cons, List.append_assoc, List.singleton_append]
          rcases lineContents_append isContent (['\n'].intercalate (next :: contents)) with
            lines | lines
          · rw [lines, List.filter_cons_of_pos keeps, later]
          · rw [lines, List.filter_cons_of_pos keeps, List.filter_cons_of_neg (by simp [noEmpty]),
              later]

end SearchQuery.Text
