import Mathlib.Data.List.Forall2
import SearchQuery.Proofs.Line.Acceptance
import SearchQuery.Proofs.Node.Preorder

/-!
# Reading further to the right

A reader does not depend on how far to the right it stands.  Where the same text stands behind the
gap further to the right, it finds the same, moved as far, or nothing at both places.
-/

namespace SearchQuery.Line

/-! ## Moved places and values -/

/-- The same text stands behind the gaps at two places, the second one further to the right. -/
structure Cursor.Ahead (distance : Nat) (cursor moved : Cursor) : Prop where
  /-- The text behind the gaps is the same. -/
  rest_eq : moved.skipGap.rest = cursor.skipGap.rest
  /-- The second text begins further to the right. -/
  offset_eq : moved.skipGap.offset = cursor.skipGap.offset + distance

theorem Cursor.ahead_of_rest_eq {distance : Nat} {cursor moved : Cursor}
    (rest_eq : moved.rest = cursor.rest) (offset_eq : moved.offset = cursor.offset + distance) :
    cursor.Ahead distance moved := by
  constructor
  · rw [Cursor.skipGap, Cursor.skipGap, rest_eq]
  · simp only [Cursor.skipGap, rest_eq, offset_eq]
    omega

/-- A text behind a gap stands further to the right by the gap. -/
theorem Cursor.ahead_append {gap : List Char} (gaps : ∀ c ∈ gap, Text.isGap c = true)
    (offset distance : Nat) (rest : List Char) :
    Cursor.Ahead (distance + gap.length) ⟨offset, rest⟩ ⟨offset + distance, gap ++ rest⟩ := by
  have same := skipGap_append gaps (offset + distance) rest
  have ahead : Cursor.Ahead (distance + gap.length) ⟨offset, rest⟩
      ⟨offset + distance + gap.length, rest⟩ := ahead_of_rest_eq rfl (Nat.add_assoc ..)
  exact ⟨same ▸ ahead.rest_eq, same ▸ ahead.offset_eq⟩

/-- The same token, further to the right. -/
structure Lexeme.IsMoved (distance : Nat) (lexeme moved : Lexeme) : Prop where
  chars_eq : moved.chars = lexeme.chars
  span_eq : moved.span = lexeme.span.shift distance

/-- A node, and the same node further to the right. -/
structure IsMoved (distance : Nat) (node moved : Node) : Prop where
  node_eq : moved = node.shift distance
  span_eq : moved.span = node.span.shift distance

/-- The same boundary, further to the right. -/
structure Boundary.IsMoved (distance : Nat) (bound moved : Boundary) : Prop where
  span_eq : moved.span = bound.span.shift distance
  node_eq : moved.node = bound.node.map (.shift distance)

theorem span_of_moved {distance start start' stop stop' : Int}
    (start_eq : start' = start + distance) (stop_eq : stop' = stop + distance) :
    Span.mk start' stop' = Span.shift ⟨start, stop⟩ distance := by
  rw [start_eq, stop_eq, Span.shift]

section Parts

variable {distance : Nat} {value value' : Option Node} {stop stop' : Int}
  (same : Option.Rel (IsMoved distance) value value') (stop_eq : stop' = stop + distance)

include same stop_eq

theorem stop_of_isMoved :
    (value'.map (·.stop)).getD stop' = (value.map (·.stop)).getD stop + distance := by
  cases same with
  | none => exact stop_eq
  | some moved =>
      simp only [Option.map_some, Option.getD_some, Node.stop, moved.span_eq]
      rfl

theorem orMissing_of_isMoved (message : String) :
    orMissing value' stop' message = (orMissing value stop message).shift distance := by
  cases same with
  | none => simp [orMissing, Node.shift, Span.shift, Span.point, stop_eq]
  | some moved => exact moved.node_eq

end Parts

namespace Reader

variable {α β : Type} {distance : Nat} {relation : α → α → Prop} {reader moved : Reader α}

/-- Where the same text stands further to the right, the second reader finds what the first one
finds, moved as the relation says. -/
def Moves (distance : Nat) (relation : α → α → Prop) (reader moved : Reader α) : Prop :=
  ∀ ⦃cursor cursor' : Cursor⦄, cursor.Ahead distance cursor' →
    reader.Misses cursor ∧ moved.Misses cursor' ∨
      ∃ value next value' next', reader.Finds cursor value next ∧
        moved.Finds cursor' value' next' ∧ relation value value' ∧ next.Ahead distance next'

/-! ## Combinators -/

theorem moves_token (distance : Nat) (kind : Token) :
    Moves distance (Lexeme.IsMoved distance) (token kind) (token kind) := by
  intro cursor cursor' ahead
  cases taken : kind.take? cursor.skipGap.rest with
  | none =>
      rw [misses_token_iff, misses_token_iff, ahead.rest_eq]
      exact Or.inl ⟨taken, taken⟩
  | some split =>
      obtain ⟨chars, rest⟩ := split
      have taken' : kind.take? cursor'.skipGap.rest = some (chars, rest) := ahead.rest_eq ▸ taken
      have stop_eq : cursor'.skipGap.offset + chars.length =
          cursor.skipGap.offset + chars.length + distance := by
        rw [ahead.offset_eq, Nat.add_right_comm]
      refine Or.inr ⟨⟨cursor.skipGap.offset, chars⟩, ⟨cursor.skipGap.offset + chars.length, rest⟩,
        ⟨cursor'.skipGap.offset, chars⟩, ⟨cursor'.skipGap.offset + chars.length, rest⟩,
        (finds_token_iff ..).mpr ⟨taken, rfl, rfl⟩, (finds_token_iff ..).mpr ⟨taken', rfl, rfl⟩,
        ⟨rfl, ?_⟩, Cursor.ahead_of_rest_eq rfl stop_eq⟩
      refine span_of_moved ?_ ?_
      · simp only [ahead.offset_eq, Int.natCast_add]
      · simp only [Lexeme.stop, stop_eq, Int.natCast_add]

theorem moves_pure {value value' : α} (related : relation value value') :
    Moves distance relation (Pure.pure value) (Pure.pure value') :=
  fun cursor cursor' ahead => Or.inr ⟨value, cursor, value', cursor',
    (finds_pure_iff ..).mpr ⟨rfl, rfl⟩, (finds_pure_iff ..).mpr ⟨rfl, rfl⟩, related, ahead⟩

theorem Moves.bind {rest rest' : α → Reader β} {final : β → β → Prop}
    (first : Moves distance relation reader moved)
    (rests : ∀ value value', relation value value' →
      Moves distance final (rest value) (rest' value')) :
    Moves distance final (reader >>= rest) (moved >>= rest') := by
  intro cursor cursor' ahead
  rw [misses_bind_iff, misses_bind_iff]
  simp only [finds_bind_iff]
  rcases first ahead with
    ⟨misses, misses'⟩ | ⟨value, next, value', next', finds, finds', related, nexts⟩
  · exact Or.inl ⟨Or.inl misses, Or.inl misses'⟩
  · rcases rests value value' related nexts with
      ⟨misses, misses'⟩ | ⟨result, last, result', last', found, found', results, lasts⟩
    · exact Or.inl ⟨Or.inr ⟨value, next, finds, misses⟩, Or.inr ⟨value', next', finds', misses'⟩⟩
    · exact Or.inr ⟨result, last, result', last', ⟨value, next, finds, found⟩,
        ⟨value', next', finds', found'⟩, results, lasts⟩

theorem Moves.map {build build' : α → β} {final : β → β → Prop}
    (first : Moves distance relation reader moved)
    (built : ∀ value value', relation value value' → final (build value) (build' value')) :
    Moves distance final (reader >>= fun value => Pure.pure (build value))
      (moved >>= fun value => Pure.pure (build' value)) :=
  first.bind fun value value' related => moves_pure (built value value' related)

theorem moves_firstOf {readers : List (Reader α)}
    (each : ∀ reader ∈ readers, Moves distance relation reader reader) :
    Moves distance relation (firstOf readers) (firstOf readers) := by
  induction readers with
  | nil => exact fun _ _ _ => Or.inl ⟨rfl, rfl⟩
  | cons reader readers induction =>
      rw [List.forall_mem_cons] at each
      intro cursor cursor' ahead
      have misses_iff (cursor : Cursor) : (firstOf (reader :: readers)).Misses cursor ↔
          reader.Misses cursor ∧ (firstOf readers).Misses cursor := misses_orElse_iff ..
      simp only [finds_firstOf_cons_iff, misses_iff]
      rcases each.1 ahead with
        ⟨misses, misses'⟩ | ⟨value, next, value', next', finds, finds', facts⟩
      · rcases induction each.2 ahead with
          ⟨others, others'⟩ | ⟨value, next, value', next', finds, finds', facts⟩
        · exact Or.inl ⟨⟨misses, others⟩, misses', others'⟩
        · exact Or.inr ⟨value, next, value', next', Or.inr ⟨misses, finds⟩,
            Or.inr ⟨misses', finds'⟩, facts⟩
      · exact Or.inr ⟨value, next, value', next', Or.inl finds, Or.inl finds', facts⟩

theorem Moves.optional (moves : Moves distance relation reader moved) :
    Moves distance (Option.Rel relation) (Reader.optional reader) (Reader.optional moved) := by
  intro cursor cursor' ahead
  simp only [finds_optional_iff]
  right
  rcases moves ahead with
    ⟨misses, misses'⟩ | ⟨value, next, value', next', finds, finds', related, nexts⟩
  · exact ⟨none, cursor, none, cursor', Or.inr ⟨rfl, rfl, misses⟩, Or.inr ⟨rfl, rfl, misses'⟩,
      .none, ahead⟩
  · exact ⟨some value, next, some value', next', Or.inl ⟨value, rfl, finds⟩,
      Or.inl ⟨value', rfl, finds'⟩, .some related, nexts⟩

theorem Moves.misses (moves : Moves distance relation reader moved) {cursor cursor' : Cursor}
    (ahead : cursor.Ahead distance cursor') (misses : reader.Misses cursor) :
    moved.Misses cursor' := by
  rcases moves ahead with ⟨_, misses'⟩ | ⟨_, _, _, _, finds, _⟩
  · exact misses'
  · exact absurd misses finds.not_misses

theorem Moves.exists_finds (moves : Moves distance relation reader moved) {cursor cursor' : Cursor}
    (ahead : cursor.Ahead distance cursor') {value : α} {next : Cursor}
    (finds : reader.Finds cursor value next) :
    ∃ value' next', moved.Finds cursor' value' next' ∧ relation value value' ∧
      next.Ahead distance next' := by
  rcases moves ahead with ⟨misses, _⟩ | ⟨_, _, value', next', found, finds', facts⟩
  · exact absurd misses finds.not_misses
  · obtain ⟨rfl, rfl⟩ := finds.unique found
    exact ⟨value', next', finds', facts⟩

/-- What is found again and again is found further to the right too. -/
theorem Moves.exists_repeats (moves : Moves distance relation reader moved) {cursor next : Cursor}
    {values : List α} (repeats : Repeats reader cursor values next) {cursor' : Cursor}
    (ahead : cursor.Ahead distance cursor') :
    ∃ values' next', Repeats moved cursor' values' next' ∧ List.Forall₂ relation values values' ∧
      next.Ahead distance next' := by
  induction repeats generalizing cursor' with
  | stop misses => exact ⟨[], cursor', .stop (moves.misses ahead misses), .nil, ahead⟩
  | more finds _ induction =>
      obtain ⟨value', middle', finds', related, middles⟩ := moves.exists_finds ahead finds
      obtain ⟨values', next', others', others, nexts⟩ := induction middles
      exact ⟨value' :: values', next', .more finds' others', .cons related others, nexts⟩

end Reader

/-! ## Constructs -/

open Reader

section Constructs

variable (distance : Nat)

theorem moves_date : Moves distance (IsMoved distance) date date :=
  (moves_token distance .date).map fun _ _ same =>
    ⟨by rw [Node.shift, same.span_eq, Lexeme.text, Lexeme.text, same.chars_eq], same.span_eq⟩

theorem moves_number : Moves distance (IsMoved distance) number number :=
  (moves_token distance .number).map fun _ _ same =>
    ⟨by rw [Node.shift, same.span_eq, Lexeme.text, Lexeme.text, same.chars_eq], same.span_eq⟩

theorem moves_variableName : Moves distance (IsMoved distance) variableName variableName :=
  (moves_token distance .variable).map fun _ _ same =>
    ⟨by rw [Node.shift, same.span_eq, Lexeme.text, Lexeme.text, same.chars_eq], same.span_eq⟩

theorem moves_literal : Moves distance (IsMoved distance) literal literal :=
  (moves_token distance .text).map fun _ _ same =>
    ⟨by rw [Node.shift, same.span_eq, same.chars_eq], same.span_eq⟩

theorem moves_orWord : Moves distance (IsMoved distance) orWord orWord :=
  (moves_token distance .orWord).map fun _ _ same =>
    ⟨by rw [Node.shift, same.span_eq], same.span_eq⟩

theorem moves_boundary : Moves distance (Boundary.IsMoved distance) boundary boundary := by
  have moves_bounding {reader : Reader Node}
      (moves : Moves distance (IsMoved distance) reader reader) :
      Moves distance (Boundary.IsMoved distance) (bounding reader) (bounding reader) :=
    moves.map fun _ _ same => ⟨same.span_eq, congrArg some same.node_eq⟩
  have moves_star : Moves distance (Boundary.IsMoved distance) star star :=
    (moves_token distance .star).map fun _ _ same => ⟨same.span_eq, rfl⟩
  apply moves_firstOf
  simp only [List.forall_mem_cons]
  exact ⟨moves_bounding (moves_date distance), moves_bounding (moves_number distance),
    moves_bounding (moves_variableName distance), moves_star, by simp⟩

theorem moves_range : Moves distance (IsMoved distance) range range := by
  have node_eq {bound bound' : Option Boundary}
      (same : Option.Rel (Boundary.IsMoved distance) bound bound') :
      bound'.bind (·.node) = (bound.bind (·.node)).map (.shift distance) := by
    cases same with
    | none => rfl
    | some moved => exact moved.node_eq
  refine (moves_boundary distance).optional.bind fun lower lower' lowers =>
    (moves_token distance .dots).bind fun dots dots' dots_same =>
      (moves_boundary distance).optional.map fun upper upper' uppers => ?_
  have start_eq : (lower'.map (·.span.start)).getD dots'.span.start =
      (lower.map (·.span.start)).getD dots.span.start + distance := by
    cases lowers with
    | none => exact congrArg Span.start dots_same.span_eq
    | some moved => exact congrArg Span.start moved.span_eq
  have stop_eq : (upper'.map (·.span.stop)).getD dots'.span.stop =
      (upper.map (·.span.stop)).getD dots.span.stop + distance := by
    cases uppers with
    | none => exact congrArg Span.stop dots_same.span_eq
    | some moved => exact congrArg Span.stop moved.span_eq
  have span_eq := span_of_moved start_eq stop_eq
  refine ⟨?_, span_eq⟩
  rw [Node.shift, Node.shiftOption_eq_map, Node.shiftOption_eq_map, node_eq lowers, node_eq uppers,
    span_eq]

theorem moves_compareValue : Moves distance (IsMoved distance)
    (firstOf [date, number, variableName, literal])
    (firstOf [date, number, variableName, literal]) := by
  apply moves_firstOf
  simp only [List.forall_mem_cons]
  exact ⟨moves_date distance, moves_number distance, moves_variableName distance,
    moves_literal distance, by simp⟩

theorem moves_comparison : Moves distance (IsMoved distance) comparison comparison := by
  refine (moves_token distance .comparison).bind fun operator operator' same =>
    (moves_compareValue distance).optional.map fun value value' values => ?_
  have stop_eq := stop_of_isMoved values (congrArg Span.stop same.span_eq)
  have span_eq := span_of_moved (congrArg Span.start same.span_eq) stop_eq
  refine ⟨?_, span_eq⟩
  rw [Node.shift, ← orMissing_of_isMoved values stop_eq, Lexeme.text, Lexeme.text, same.chars_eq,
    span_eq]

theorem moves_qualifierValue : Moves distance (IsMoved distance) qualifierValue qualifierValue := by
  apply moves_firstOf
  simp only [List.forall_mem_cons]
  exact ⟨moves_range distance, moves_comparison distance, moves_date distance,
    moves_number distance, moves_variableName distance, moves_literal distance, by simp⟩

theorem moves_qualifiedValue : Moves distance (IsMoved distance) qualifiedValue qualifiedValue := by
  refine (moves_token distance .dash).optional.bind fun dash dash' dashes =>
    (moves_token distance .name).bind fun name name' names =>
      (moves_token distance .colon).bind fun colon colon' colons =>
        (moves_qualifierValue distance).optional.map fun value value' values => ?_
  have start_eq : (dash'.map (·.span.start)).getD name'.span.start =
      (dash.map (·.span.start)).getD name.span.start + distance := by
    cases dashes with
    | none => exact congrArg Span.start names.span_eq
    | some moved => exact congrArg Span.start moved.span_eq
  have isSome_eq : dash'.isSome = dash.isSome := by cases dashes <;> rfl
  have stop_eq := stop_of_isMoved values (congrArg Span.stop colons.span_eq)
  have span_eq := span_of_moved start_eq stop_eq
  refine ⟨?_, span_eq⟩
  rw [Node.shift, Node.shift, ← orMissing_of_isMoved values stop_eq, span_eq, Lexeme.text,
    Lexeme.text, names.chars_eq, names.span_eq, isSome_eq]

theorem moves_criteria : Moves distance (IsMoved distance) (firstOf [variableName, literal])
    (firstOf [variableName, literal]) := by
  apply moves_firstOf
  simp only [List.forall_mem_cons]
  exact ⟨moves_variableName distance, moves_literal distance, by simp⟩

theorem moves_sortDirective : Moves distance (IsMoved distance) sortDirective sortDirective := by
  refine (moves_token distance .sortWord).bind fun keyword keyword' keywords =>
    (moves_token distance .colon).bind fun colon colon' colons =>
      (moves_criteria distance).optional.map fun criteria criteria' values => ?_
  have stop_eq := stop_of_isMoved values (congrArg Span.stop colons.span_eq)
  have span_eq := span_of_moved (congrArg Span.start keywords.span_eq) stop_eq
  refine ⟨?_, span_eq⟩
  rw [Node.shift, Node.shift, ← orMissing_of_isMoved values stop_eq, span_eq, Lexeme.text,
    Lexeme.text, keywords.chars_eq, keywords.span_eq]

/-- An item further to the right is the same item, moved. -/
theorem moves_item : Moves distance (IsMoved distance) item item := by
  apply moves_firstOf
  simp only [List.forall_mem_cons]
  exact ⟨moves_orWord distance, moves_sortDirective distance, moves_qualifiedValue distance,
    moves_range distance, moves_comparison distance, moves_date distance, moves_number distance,
    moves_variableName distance, moves_literal distance, by simp⟩

end Constructs

theorem exists_finds_of_parse_eq_ok {content : List Char} {node : Node}
    (parsed : parse content = .ok node) : ∃ next, line.Finds ⟨0, content⟩ node next := by
  rcases misses_or_finds line ⟨0, content⟩ with misses | ⟨found, next, finds⟩
  · rw [parse_of_misses misses] at parsed
    cases parsed
  · rw [parse_of_finds finds] at parsed
    cases parsed
    exact ⟨next, finds⟩

/-- An item in front of a line that can be read as a query is read as the first item of a longer
one, behind which those of the line follow. -/
theorem parse_in_front {content gap rest : List Char} {first : Node} {offset : Nat} {span : Span}
    {items : List Node} (noDefinition : definition.Misses ⟨0, content⟩)
    (found : item.Finds ⟨0, content⟩ first ⟨offset, gap ++ rest⟩)
    (gaps : ∀ c ∈ gap, Text.isGap c = true) (parsed : parse rest = .ok (.query span items)) :
    parse content =
      .ok (queryOf first (items.map (.shift (offset + gap.length : Nat)))) := by
  have ahead := Cursor.ahead_append gaps 0 offset rest
  rw [Nat.zero_add] at ahead
  obtain ⟨next, finds⟩ := exists_finds_of_parse_eq_ok parsed
  obtain ⟨back, definition_found | ⟨_, query_found⟩, lexeme, finish⟩ := finds_line_iff.mp finds
  · obtain ⟨_, _, _, _, _, _, _, _, node_eq⟩ := finds_definition_iff.mp definition_found
    cases node_eq
  · obtain ⟨head, others, repeats, node_eq⟩ := finds_query_iff.mp query_found
    obtain rfl : items = head :: others := by injection node_eq
    obtain ⟨items', back', repeats', moved, backs⟩ :=
      (moves_item (offset + gap.length)).exists_repeats repeats ahead
    obtain ⟨lexeme', next', finish', _⟩ :=
      (moves_token (offset + gap.length) .finish).exists_finds backs finish
    have items_eq : items' = (head :: others).map (.shift (offset + gap.length : Nat)) := by
      rw [eq_comm, ← List.forall₂_eq_eq_eq, List.forall₂_map_left_iff]
      exact moved.imp fun _ _ same => same.node_eq.symm
    rw [← items_eq]
    exact parse_of_finds (finds_line_iff.mpr ⟨back', Or.inr ⟨noDefinition,
      finds_query_iff.mpr ⟨first, items', .more found repeats', rfl⟩⟩, lexeme', finish'⟩)

end SearchQuery.Line
