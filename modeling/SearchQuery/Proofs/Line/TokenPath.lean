import SearchQuery.Proofs.Line.Placement
import SearchQuery.Proofs.Node.Pieces

/-!
# Tokens one after the other

Between two places of a line tokens are read, each behind the gap in front of it.  No character is
covered by two of them, and a character that none of them covers is a gap.  The line may stand
anywhere in its text.
-/

namespace SearchQuery.Line

open Reader

/-! ## Tokens -/

/-- The tokens that are read one after the other between two places. -/
inductive TokenPath : Cursor → List Lexeme → Cursor → Prop
  | stop {cursor : Cursor} : TokenPath cursor [] cursor
  | more {kind : Token} {cursor middle final : Cursor} {lexeme : Lexeme} {lexemes : List Lexeme}
      (finds : (token kind).Finds cursor lexeme middle) (not_finish : kind ≠ .finish)
      (others : TokenPath middle lexemes final) : TokenPath cursor (lexeme :: lexemes) final

namespace TokenPath

theorem append {cursor middle final : Cursor} {front back : List Lexeme}
    (first : TokenPath cursor front middle) (second : TokenPath middle back final) :
    TokenPath cursor (front ++ back) final := by
  induction first with
  | stop => exact second
  | more finds not_finish _ induction => exact .more finds not_finish (induction second)

theorem on {content : List Char} {cursor final : Cursor} {lexemes : List Lexeme}
    (path : TokenPath cursor lexemes final) (on : cursor.On content) : final.On content := by
  induction path with
  | stop => exact on
  | more finds _ _ induction => exact induction (kept_on content on finds)

end TokenPath

/-- The piece that a lexeme is in a text in which its line begins at an offset. -/
def Lexeme.piece (lexeme : Lexeme) (offset : Int) : Piece :=
  .ofChars (lexeme.start + offset) lexeme.chars

/-! ## Where tokens stand in the text -/

/-- The characters of a token that is always spelled the same. -/
theorem chars_of_finds_word {kind : Token} {word : List Char} {cursor next : Cursor}
    {lexeme : Lexeme} (take_eq : kind.take? = takeWord? word)
    (finds : (token kind).Finds cursor lexeme next) : lexeme.chars = word :=
  (takeWord?_eq_some (take_eq ▸ ((finds_token_iff ..).mp finds).1)).1

/-- The piece of such a token. -/
theorem piece_of_finds_word {kind : Token} {word : List Char} {cursor next : Cursor}
    {lexeme : Lexeme} (take_eq : kind.take? = takeWord? word)
    (finds : (token kind).Finds cursor lexeme next) (offset : Int) :
    Piece.ofChars (lexeme.start + offset) word = lexeme.piece offset := by
  rw [Lexeme.piece, chars_of_finds_word take_eq finds]

/-- A token that is found behind a gap is found behind it from there. -/
theorem finds_token_skipGap {kind : Token} {cursor next : Cursor} {lexeme : Lexeme}
    (finds : (token kind).Finds cursor lexeme next) :
    (token kind).Finds cursor.skipGap lexeme next := by
  have again : cursor.skipGap.skipGap = cursor.skipGap := by
    apply Cursor.skipGap_of_not_isGap
    intro c member
    obtain ⟨rest, rest_eq⟩ := List.head?_eq_some_iff.mp member
    exact Cursor.isGap_eq_false_of_skipGap rest_eq
  rw [finds_token_iff] at finds ⊢
  rwa [again]

section Text

variable (front back : List Char) {content : List Char} {cursor next : Cursor}

/-- Where the gap of the text ends at a place of the line, in front of some token. -/
theorem gapEnd_of_finds {kind : Token} {lexeme : Lexeme} (on : cursor.On content)
    (finds : (token kind).Finds cursor lexeme next) (not_finish : kind ≠ .finish) :
    Text.gapEnd (front ++ content ++ back) (cursor.offset + front.length) =
      lexeme.start + front.length := by
  obtain ⟨split, _, _⟩ := split_of_finds_token finds
  obtain ⟨c, tail, chars_eq, _⟩ := (takes_of_finds_token finds not_finish).head
  have rest_eq : (front ++ content ++ back).drop (cursor.offset + front.length) =
      cursor.gap ++ (c :: (tail ++ next.rest ++ back)) := by
    rw [List.append_assoc, Nat.add_comm, ← List.drop_drop, List.drop_left,
      List.drop_append_of_le_length on.offset_le, ← on.rest_eq, cursor.gap_append, split, chars_eq]
    simp
  have noGap : Text.isGap c = false :=
    Cursor.isGap_eq_false_of_skipGap (split.trans (by rw [chars_eq, List.cons_append]))
  have run :
      (cursor.gap ++ c :: (tail ++ next.rest ++ back)).takeWhile Text.isGap = cursor.gap := by
    rw [List.takeWhile_append_of_pos fun _ member => Cursor.isGap_of_mem_gap member]
    simp [noGap]
  rw [Text.gapEnd, ← Int.natCast_add, Int.toNat_natCast, rest_eq, run,
    ((finds_token_iff ..).mp finds).2.1]
  change ((cursor.offset + front.length : Nat) : Int) + cursor.gap.length =
    ((cursor.offset + cursor.gap.length : Nat) : Int) + _
  omega

/-- No gap begins where a token stands. -/
theorem gapEnd_start_of_finds {kind : Token} {lexeme : Lexeme} (on : cursor.On content)
    (finds : (token kind).Finds cursor lexeme next) (not_finish : kind ≠ .finish) :
    Text.gapEnd (front ++ content ++ back) (lexeme.start + front.length) =
      lexeme.start + front.length := by
  have start_eq := ((finds_token_iff ..).mp finds).2.1
  have gapEnd_eq := gapEnd_of_finds front back on.skipGap (finds_token_skipGap finds) not_finish
  rwa [← start_eq] at gapEnd_eq

/-- The characters of a lexeme, in the text. -/
theorem slice_of_finds {kind : Token} {lexeme : Lexeme} (on : cursor.On content)
    (finds : (token kind).Finds cursor lexeme next) (not_finish : kind ≠ .finish)
    (first last : Nat) (ordered : first ≤ last) (inside : last ≤ lexeme.chars.length) :
    Text.slice (front ++ content ++ back) (lexeme.start + first + front.length)
        (lexeme.start + last + front.length) =
      (lexeme.chars.drop first).take (last - first) := by
  have between := between_of_finds_token on finds not_finish
  obtain ⟨split, _, _⟩ := split_of_finds_token finds
  have stop_le := between.on.offset_le
  have stop_eq := between.stop_eq
  rw [Lexeme.stop] at stop_eq
  rw [Text.slice_append front content back (by omega) (by omega) (by omega), ← Int.natCast_add,
    ← Int.natCast_add, Text.slice_ofNat, ← List.drop_drop, between.start_eq, ← on.skipGap.rest_eq,
    split, List.drop_append_of_le_length (by omega), List.take_append_of_le_length]
  · congr 1
    omega
  · rw [List.length_drop]
    omega

/-- The first character of a token, in the text. -/
theorem slice_first_of_finds {kind : Token} {lexeme : Lexeme} {c : Char} {tail : List Char}
    (on : cursor.On content)
    (finds : (token kind).Finds cursor lexeme next) (not_finish : kind ≠ .finish)
    (chars_eq : lexeme.chars = c :: tail) :
    Text.slice (front ++ content ++ back) (lexeme.start + front.length)
      (lexeme.start + front.length + 1) = [c] := by
  have slice_eq := slice_of_finds front back on finds not_finish 0 1 (Nat.zero_le 1)
    (by simp [chars_eq])
  simpa [chars_eq, Int.add_right_comm] using slice_eq

/-- The last character of a token, in the text. -/
theorem slice_last_of_finds {kind : Token} {lexeme : Lexeme} {c : Char} {init : List Char}
    (on : cursor.On content)
    (finds : (token kind).Finds cursor lexeme next) (not_finish : kind ≠ .finish)
    (chars_eq : lexeme.chars = init ++ [c]) :
    Text.slice (front ++ content ++ back) (lexeme.stop + front.length - 1)
      (lexeme.stop + front.length - 1 + 1) = [c] := by
  have slice_eq := slice_of_finds front back on finds not_finish init.length (init.length + 1)
    (Nat.le_succ _) (by simp [chars_eq])
  have last_eq : (lexeme.stop + front.length - 1 : Int) =
      lexeme.start + init.length + front.length := by
    simp only [Lexeme.stop, chars_eq, List.length_append, List.length_singleton]
    omega
  rw [last_eq, show (lexeme.start + init.length + front.length + 1 : Int) =
    lexeme.start + (init.length + 1 : Nat) + front.length by omega, slice_eq, chars_eq]
  simp

end Text

/-! ## What tokens cover -/

theorem Lexeme.covers_piece (lexeme : Lexeme) (offset place : Int) :
    (lexeme.piece offset).covers place = true ↔
      lexeme.start + offset ≤ place ∧ place < lexeme.stop + offset := by
  simp [Piece.covers_iff, Lexeme.piece, Piece.ofChars, Lexeme.stop, Int.add_right_comm]

/-- What stands in front of the next token is a gap. -/
theorem isGap_of_lt_skipGap {content : List Char} {cursor : Cursor} (on : cursor.On content)
    {index : Nat} {c : Char} (behind : cursor.offset ≤ index)
    (before : index < cursor.skipGap.offset) (char_eq : content[index]? = some c) :
    Text.isGap c = true := by
  obtain ⟨distance, rfl⟩ := Nat.exists_eq_add_of_le behind
  have inside : distance < cursor.gap.length := by
    change cursor.offset + distance < cursor.offset + cursor.gap.length at before
    omega
  rw [on.getElem?_add, cursor.gap_append, List.getElem?_append_left inside] at char_eq
  exact Cursor.isGap_of_mem_gap (List.mem_of_getElem? char_eq)

namespace TokenPath

variable {cursor final : Cursor} {lexemes : List Lexeme} {content : List Char}

/-- The tokens lie between the places. -/
theorem inside (path : TokenPath cursor lexemes final) (on : cursor.On content) :
    cursor.offset ≤ final.offset ∧
      ∀ lexeme ∈ lexemes, cursor.offset ≤ lexeme.start ∧ lexeme.stop ≤ final.offset := by
  induction path with
  | stop => simp
  | @more _ cursor middle final _ _ finds not_finish _ induction =>
      have between := between_of_finds_token on finds not_finish
      have start_eq := between.start_eq
      have stop_eq := between.stop_eq
      have nonempty := between.nonempty
      have := cursor.le_skipGap
      obtain ⟨ordered, others⟩ := induction between.on
      rw [List.forall_mem_cons]
      refine ⟨by omega, by omega, fun lexeme member => ?_⟩
      have := others lexeme member
      omega

/-- The characters of the tokens are those of the text. -/
theorem standsIn (front back : List Char) (path : TokenPath cursor lexemes final)
    (on : cursor.On content) :
    ∀ lexeme ∈ lexemes, (lexeme.piece front.length).StandsIn (front ++ content ++ back) := by
  induction path with
  | stop => simp
  | @more _ _ _ _ lexeme _ finds not_finish _ induction =>
      have slice_eq := slice_of_finds front back on finds not_finish 0 lexeme.chars.length
        (Nat.zero_le _) (Nat.le_refl _)
      rw [List.forall_mem_cons]
      refine ⟨?_, induction (kept_on content on finds)⟩
      simpa [Piece.StandsIn, Lexeme.piece, Piece.ofChars, Span.slice, Int.add_right_comm]
        using slice_eq

/-- No place is covered by two of the tokens, and between their places each character that is no gap
is covered by one. -/
theorem countP_covers (path : TokenPath cursor lexemes final) (on : cursor.On content)
    (offset : Int) :
    (∀ place, (lexemes.map (·.piece offset)).countP (·.covers place) ≤ 1) ∧
      ∀ (index : Nat) (c : Char), cursor.offset ≤ index → index < final.offset →
        content[index]? = some c → Text.isGap c = false →
        (lexemes.map (·.piece offset)).countP (·.covers (index + offset)) = 1 := by
  induction path with
  | stop =>
      refine ⟨by simp, fun index c behind before => ?_⟩
      omega
  | @more _ cursor middle final lexeme lexemes finds not_finish others induction =>
      have between := between_of_finds_token on finds not_finish
      have start_eq := between.start_eq
      have stop_eq := between.stop_eq
      obtain ⟨atMost, exactly⟩ := induction between.on
      have alone {place : Int} (covered : (lexeme.piece offset).covers place = true) :
          (lexemes.map (·.piece offset)).countP (·.covers place) = 0 := by
        rw [Lexeme.covers_piece] at covered
        simp only [List.countP_eq_zero, List.forall_mem_map, Lexeme.covers_piece]
        intro other member
        have := (others.inside between.on).2 other member
        omega
      simp only [List.map_cons, List.countP_cons]
      constructor
      · intro place
        split
        case isTrue covered => rw [alone covered]
        case isFalse => exact atMost place
      · intro index c behind before char_eq visible
        split
        case isTrue covered => rw [alone covered]
        case isFalse uncovered =>
          rw [Lexeme.covers_piece] at uncovered
          apply exactly index c _ before char_eq visible
          by_contra early
          have := isGap_of_lt_skipGap on behind (by omega) char_eq
          simp [visible] at this

end TokenPath

end SearchQuery.Line
