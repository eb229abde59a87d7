import SearchQuery.Proofs.Line.Placement
import SearchQuery.Proofs.Line.Rereading

/-!
# Reading what is printed

A construct is printed without the gaps inside of it.  Read again in front of a text that begins no
more than what followed it before, it is found with the same shape, and whatever was missed at its
place is missed there again.
-/

namespace SearchQuery

namespace Node

/-- The node is printed with all that it is made of: no star stands for a boundary of a range, the
items of a query stand apart, and no sign of equality follows a comparison of one sign. -/
def IsPlain (source : List Char) : Node → Prop
  | .range span _ _ =>
      (span.slice source).head? ≠ some '*' ∧ (span.slice source).getLast? ≠ some '*'
  | .query _ items => items.IsChain fun left right => left.stop < right.start
  | .compare _ operator (.literal span _) =>
      operator = "<" ∨ operator = ">" → (span.slice source).head? ≠ some '='
  | _ => True

instance (source : List Char) (node : Node) : Decidable (node.IsPlain source) :=
  match node with
  | .range span _ _ => inferInstanceAs (Decidable
      ((span.slice source).head? ≠ some '*' ∧ (span.slice source).getLast? ≠ some '*'))
  | .query _ items =>
      inferInstanceAs (Decidable (items.IsChain fun left right => left.stop < right.start))
  | .compare _ operator value =>
      match value with
      | .literal span _ => inferInstanceAs (Decidable
          (operator = "<" ∨ operator = ">" → (span.slice source).head? ≠ some '='))
      | .number .. | .date .. | .variable .. | .mark .. | .missing .. | .range .. | .compare ..
      | .qualified .. | .sort .. | .query .. | .definition .. | .document .. | .foreign _ =>
          isTrue trivial
  | .literal .. | .number .. | .date .. | .variable .. | .mark .. | .missing .. | .qualified ..
  | .sort .. | .definition .. | .document .. | .foreign _ => isTrue trivial

/-- All nodes of the tree are plain. -/
def AllPlain (source : List Char) (node : Node) : Prop :=
  ∀ inner ∈ node.preorder, inner.IsPlain source

theorem AllPlain.part {source : List Char} {node part : Node} (plain : node.AllPlain source)
    (member : part ∈ node.partNodes) : part.AllPlain source :=
  fun inner inner_mem => plain inner (mem_preorder_of_mem_partNodes member inner_mem)

end Node

namespace Line

open Text (isBlank)
open Reader

/-- A node that was found, the text that it is printed as, and what is found and missed at that
text.  The readers in `before` are tried before the one that finds the node. -/
structure Reprints (before : List (Reader Node)) (content : List Char) (reader : Reader Node)
    (cursor next : Cursor) (node : Node) (text : List Char) : Prop where
  printed : node.print content some = .ok (String.ofList text)
  visible : ∃ c tail, text = c :: tail ∧ isBlank c = false
  /-- Blanks can only stand in the last token of the node, as they did in the line. -/
  unbroken : ∃ front back, text = front ++ back ∧ (∀ c ∈ front, isBlank c = false) ∧
    back ++ next.rest <:+ content
  quieter : ∀ {after}, Follows next.rest after → Quieter cursor.skipGap.rest (text ++ after)
  findsAt : ∀ {after}, Follows next.rest after →
    reader.FindsAt (text ++ after) (ungap after) fun found => found.bare = node.bare
  missesAt : ∀ other ∈ before, other.Misses cursor → ∀ {after}, Follows next.rest after →
    other.MissesAt (text ++ after)

/-- Whatever the reader finds can be printed and read again. -/
def Reprintable (before : List (Reader Node)) (content : List Char) (reader : Reader Node)
    (cursor next : Cursor) : Prop :=
  ∀ node, reader.Finds cursor node next → node.AllPlain content →
    ∃ text, Reprints before content reader cursor next node text

theorem reprintable_nil {before : List (Reader Node)} {content : List Char} {cursor next : Cursor} :
    Reprintable before content (firstOf []) cursor next :=
  fun _ finds => absurd finds (not_finds_firstOf_nil _ _ _)

/-- What one of several readers finds is found again, since the readers before it miss again. -/
theorem Reprintable.cons {before : List (Reader Node)} {content : List Char} {cursor next : Cursor}
    {reader : Reader Node} {readers : List (Reader Node)}
    (first : Reprintable before content reader cursor next)
    (others : Reprintable (reader :: before) content (firstOf readers) cursor next) :
    Reprintable before content (firstOf (reader :: readers)) cursor next := by
  intro node finds plain
  rcases (finds_firstOf_cons_iff ..).mp finds with found | ⟨missed, found⟩
  · obtain ⟨text, reprints⟩ := first node found plain
    exact ⟨text,
      { reprints with findsAt := fun follows => (reprints.findsAt follows).firstOf_head }⟩
  · obtain ⟨text, reprints⟩ := others node found plain
    refine ⟨text, { reprints with findsAt := ?_, missesAt := ?_ }⟩
    · intro after follows
      exact (reprints.findsAt follows).firstOf_tail
        (reprints.missesAt reader List.mem_cons_self missed follows)
    · exact fun other member => reprints.missesAt other (List.mem_cons_of_mem reader member)

/-- The readers that may be tried before a word is found. -/
def earlierReaders : List (Reader Node) :=
  [definition, orWord, sortDirective, qualifiedValue, range, comparison, date, number, variableName]

/-- A text begins no more than another one with the same first character, if the tokens that begin
with this character are found in the other or missed in the text. -/
theorem quieter_cons {c : Char} {text text' : List Char} (noSlash : c ≠ '/')
    (boundary : (boundaryTokens.all fun kind => !kind.begins c) = true ∨
      ∃ kind ∈ boundaryTokens, kind.take? (c :: text) ≠ none)
    (others : ∀ kind ∈ [Token.dots, .text, .name, .equals], kind.begins c = false ∨
      kind.take? (c :: text) ≠ none ∨ kind.take? (c :: text') = none) :
    Quieter (c :: text) (c :: text') := by
  constructor
  · intro noBoundary kind member
    rcases boundary with other | ⟨kind', member', found⟩
    · apply Token.take?_eq_none_of_begins
      simpa using List.all_eq_true.mp other kind member
    · exact absurd (noBoundary kind' member') found
  · intro kind member noToken
    rcases others kind member with other | found | missed
    · exact Token.take?_eq_none_of_begins other
    · exact absurd noToken found
    · exact missed
  · intro _
    simp [takeWord?, noSlash]

section Words

variable {before : List (Reader Node)} {content : List Char} {cursor next : Cursor}
  (on : cursor.On content) (tried : before ⊆ earlierReaders)

include on tried

/-- A word is printed and read again as it is. -/
theorem reprints_word {kind : Token} {lexeme : Lexeme} {reader : Reader Node} {node : Node}
    (found : (token kind).Finds cursor lexeme next) (isWord : IsBareWord lexeme.chars)
    (printed : lexeme.span.slice content = lexeme.chars →
      node.print content some = .ok (String.ofList lexeme.chars))
    (findsAt : ∀ {after}, kind.take? (lexeme.chars ++ after) = some (lexeme.chars, after) →
      reader.FindsAt (lexeme.chars ++ after) (ungap after) fun found => found.bare = node.bare)
    (not_finish : kind ≠ .finish := by simp) :
    Reprints before content reader cursor next node lexeme.chars := by
  have between := between_of_finds_token on found not_finish
  have takes := takes_of_finds_token found not_finish
  obtain ⟨c, tail, chars_eq, begins⟩ := takes.head
  constructor
  · exact printed between.slice_eq
  · exact ⟨c, tail, chars_eq, Token.isBlank_eq_false_of_begins begins⟩
  · refine ⟨lexeme.chars, [], by simp, ?_, ?_⟩
    · intro c member
      exact isBlank_eq_false_of_isBare (isWord c member)
    · rw [List.nil_append, between.on.rest_eq]
      exact List.drop_suffix _ _
  · intro after follows
    rw [takes.split]
    exact follows.quieter_word isWord
  · intro after follows
    apply findsAt
    obtain ⟨tail, _, next_eq, taken⟩ := follows.take?_eq_some isWord takes.split found not_finish
    obtain rfl : tail = [] := by simpa using next_eq.symm
    exact taken
  · intro other member missed after follows
    exact follows.missesAt_of_misses isWord takes.split (tried member) missed

theorem reprintable_date : Reprintable before content date cursor next := by
  intro node finds _
  obtain ⟨lexeme, found, rfl⟩ := finds_date_iff.mp finds
  have takes := takes_of_finds_token found
  refine ⟨_, reprints_word on tried found (takes.isBareWord (by decide)) ?_
    findsAt_date⟩
  intro slice_eq
  rw [Node.print, slice_eq]

theorem reprintable_number : Reprintable before content number cursor next := by
  intro node finds _
  obtain ⟨lexeme, found, rfl⟩ := finds_number_iff.mp finds
  have takes := takes_of_finds_token found
  refine ⟨_, reprints_word on tried found (takes.isBareWord (by decide)) ?_
    findsAt_number⟩
  intro slice_eq
  rw [Node.print, slice_eq]

theorem reprintable_variableName : Reprintable before content variableName cursor next := by
  intro node finds _
  obtain ⟨lexeme, found, rfl⟩ := finds_variableName_iff.mp finds
  have takes := takes_of_finds_token found
  exact ⟨_, reprints_word on tried found (takes.isBareWord (by decide)) (fun _ => rfl)
    findsAt_variableName⟩

theorem reprintable_orWord : Reprintable before content orWord cursor next := by
  intro node finds _
  obtain ⟨lexeme, found, rfl⟩ := finds_orWord_iff.mp finds
  have takes := takes_of_finds_token found
  refine ⟨_, reprints_word on tried found (takes.isBareWord (by decide)) ?_
    findsAt_orWord⟩
  intro slice_eq
  rw [Node.print, slice_eq]

omit on tried in
/-- Nothing but a literal is found in front of a quote. -/
theorem missesAt_quote {other : Reader Node} (member : other ∈ earlierReaders) (text : List Char) :
    other.MissesAt ('"' :: text) := by
  have begins : ∀ other ∈ earlierReaders, other.Begins
      ([.orWord, .sortWord, .dash, .name, .dots, .comparison] ++ boundaryTokens) := by
    simp only [earlierReaders, List.forall_mem_cons]
    exact ⟨begins_definition.mono, begins_orWord.mono,
      begins_sortDirective.mono, begins_qualifiedValue.mono,
      begins_range.mono, begins_comparison.mono,
      begins_date.mono, begins_number.mono,
      begins_variableName.mono, by simp⟩
  exact (begins other member).missesAt_cons text

theorem reprintable_literal : Reprintable before content literal cursor next := by
  intro node finds _
  obtain ⟨lexeme, found, rfl⟩ := finds_literal_iff.mp finds
  have between := between_of_finds_token on found
  have takes := takes_of_finds_token found
  have printed : (Node.literal lexeme.span (String.ofList (unquote lexeme.chars))).print content
      some = .ok (String.ofList lexeme.chars) := by
    rw [Node.print, between.slice_eq]
  have quoted {tail : List Char} (chars_eq : lexeme.chars = '"' :: tail)
      (again : ∀ {after}, Follows next.rest after →
        Token.text.take? (lexeme.chars ++ after) = some (lexeme.chars, after)) :
      Reprints before content literal cursor next
        (.literal lexeme.span (String.ofList (unquote lexeme.chars))) lexeme.chars := by
    constructor
    · exact printed
    · exact ⟨'"', tail, chars_eq, by decide⟩
    · refine ⟨[], lexeme.chars, rfl, by simp, ?_⟩
      rw [← takes.split, on.skipGap.rest_eq]
      exact List.drop_suffix _ _
    · intro after follows
      have hasText := ((finds_token_iff ..).mp found).1
      rw [takes.split, chars_eq, List.cons_append] at hasText ⊢
      apply quieter_cons (by decide) (Or.inl (by decide))
      have noLetter : '"'.isAlpha = false := rfl
      simp [Token.begins, hasText, noLetter]
    · exact fun follows => findsAt_literal (again follows)
    · intro other member _ after _
      rw [chars_eq, List.cons_append]
      exact missesAt_quote (tried member) _
  refine ⟨lexeme.chars, ?_⟩
  have form := takes.form
  generalize chars_eq : lexeme.chars = chars at form
  generalize rest_eq : next.rest = rest at form
  cases form with
  | bare isWord =>
      rw [← chars_eq] at isWord ⊢
      exact reprints_word on tried found isWord (fun _ => printed) findsAt_literal
  | closed inside =>
      rw [← chars_eq]
      apply quoted chars_eq
      intro after _
      rw [chars_eq]
      exact takeText?_closed inside after
  | unclosed inside =>
      rw [← chars_eq]
      apply quoted chars_eq
      intro after follows
      obtain rfl := follows.nil rest_eq
      rw [List.append_nil, chars_eq]
      exact takeText?_unclosed inside

omit on in
theorem tried_cons (reader : Reader Node) (member : reader ∈ earlierReaders) :
    reader :: before ⊆ earlierReaders :=
  List.cons_subset.mpr ⟨member, tried⟩

theorem reprintable_criteria :
    Reprintable before content (firstOf [variableName, literal]) cursor next := by
  have triedVariable := tried_cons tried variableName (by simp [earlierReaders])
  exact (reprintable_variableName on tried).cons
    ((reprintable_literal on triedVariable).cons reprintable_nil)

theorem reprintable_compareValue :
    Reprintable before content (firstOf [date, number, variableName, literal]) cursor next := by
  have triedDate := tried_cons tried date (by simp [earlierReaders])
  have triedNumber := tried_cons triedDate number (by simp [earlierReaders])
  exact (reprintable_date on tried).cons ((reprintable_number on triedDate).cons
    (reprintable_criteria on triedNumber))

end Words

/-! ## Parts that may be absent -/

/-- The last part of a construct, which may be absent, and what it is printed as. -/
structure PartReprints (content : List Char) (part : Reader Node) (next : Cursor)
    (value : Option Node) (message : String) (text : List Char) : Prop where
  printed : ∀ stop, (orMissing value stop message).print content some = .ok (String.ofList text)
  visible : ∀ c ∈ text.head?, isBlank c = false
  unbroken : ∃ front back, text = front ++ back ∧ (∀ c ∈ front, isBlank c = false) ∧
    back ++ next.rest <:+ content
  findsAt : ∀ {after}, Follows next.rest after →
    (optional part).FindsAt (ungap (text ++ after)) (ungap after) fun found =>
      found.map Node.bare = value.map Node.bare

/-- A part that is absent is so again, and one that is there is found again. -/
theorem exists_partReprints {content : List Char} {part : Reader Node} {back next : Cursor}
    {value : Option Node} (message : String) (on : back.On content)
    (begins : part.Begins valueTokens)
    (hasLiteral : part.Misses back → literal.Misses back)
    (reprintable : Reprintable [] content part back next)
    (finds : (optional part).Finds back value next)
    (plain : ∀ node ∈ value, node.AllPlain content) :
    ∃ text, PartReprints content part next value message text := by
  rcases (finds_optional_iff ..).mp finds with ⟨node, rfl, found⟩ | ⟨rfl, rfl, missed⟩
  · obtain ⟨text, reprints⟩ := reprintable node found (plain node rfl)
    obtain ⟨c, tail, text_eq, visible⟩ := reprints.visible
    refine ⟨text, fun _ => reprints.printed, ?_, reprints.unbroken, ?_⟩
    · simpa [text_eq] using visible
    · intro after follows
      have noGap : ungap (text ++ after) = text ++ after := by
        rw [text_eq, List.cons_append, ungap_cons visible]
      rw [noGap]
      refine (reprints.findsAt follows).optional.mono ?_
      rintro _ ⟨found, rfl, bare_eq⟩
      simpa using bare_eq
  · refine ⟨[], fun _ => rfl, by simp, ⟨[], [], rfl, by simp, ?_⟩, ?_⟩
    · rw [List.nil_append, on.rest_eq]
      exact List.drop_suffix _ _
    · intro after follows
      have noText := follows.quieter.others .text (by simp)
        (misses_literal_iff.mp (hasLiteral missed))
      refine (begins.missesAt (take?_eq_none_of_no_text noText)).optional.mono ?_
      rintro _ rfl
      rfl

end Line

end SearchQuery
