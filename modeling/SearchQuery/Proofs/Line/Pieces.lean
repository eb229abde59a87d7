import SearchQuery.Proofs.Line.TokenPath

/-!
# The tokens of a tree

The pieces of what is found between two places of a line are the tokens that are read from the one
to the other: each of them belongs to one node of the tree, and what was tried in vain belongs to
none.
-/

namespace SearchQuery.Line

open Reader

/-- The pieces are the tokens between two places of a line that begins at an offset. -/
def PiecesBetween (offset : Int) (cursor next : Cursor) (pieces : List Piece) : Prop :=
  ∃ lexemes, TokenPath cursor lexemes next ∧ pieces.Perm (lexemes.map (·.piece offset))

namespace PiecesBetween

variable {offset : Int} {cursor middle next : Cursor} {pieces others : List Piece}

theorem nil : PiecesBetween offset cursor cursor [] := ⟨[], .stop, .nil⟩

theorem token {kind : Token} {lexeme : Lexeme} (finds : (token kind).Finds cursor lexeme next)
    (not_finish : kind ≠ .finish) :
    PiecesBetween offset cursor next [lexeme.piece offset] :=
  ⟨[lexeme], .more finds not_finish .stop, .refl _⟩

theorem append (first : PiecesBetween offset cursor middle pieces)
    (second : PiecesBetween offset middle next others) :
    PiecesBetween offset cursor next (pieces ++ others) := by
  obtain ⟨front, front_path, front_perm⟩ := first
  obtain ⟨back, back_path, back_perm⟩ := second
  refine ⟨front ++ back, front_path.append back_path, ?_⟩
  rw [List.map_append]
  exact front_perm.append back_perm

theorem of_perm (between : PiecesBetween offset cursor next pieces) (perm : others.Perm pieces) :
    PiecesBetween offset cursor next others := by
  obtain ⟨lexemes, path, same⟩ := between
  exact ⟨lexemes, path, perm.trans same⟩

theorem on {content : List Char} (between : PiecesBetween offset cursor next pieces)
    (on : cursor.On content) : next.On content :=
  between.elim fun _ found => found.1.on on

end PiecesBetween

/-! ## Nodes -/

/-- The pieces of a node are the tokens between two places of a line that stands in a text between
`front` and `back`. -/
def NodePieces (front content back : List Char) (cursor next : Cursor) (node : Node) : Prop :=
  PiecesBetween front.length cursor next
    ((node.shift front.length).pieces (front ++ content ++ back))

/-- Where the gap of the text ends behind a node, in front of some token. -/
theorem gapEnd_behind (front back : List Char) {content : List Char} {kind : Token}
    {lexeme : Lexeme} {cursor middle next : Cursor} {node : Node}
    (between : NodeBetween content cursor middle node)
    (finds : (token kind).Finds middle lexeme next) (not_finish : kind ≠ .finish) :
    Text.gapEnd (front ++ content ++ back) (node.shift front.length).stop =
      lexeme.start + front.length := by
  rw [(between.isSound node (Node.self_mem_preorder node)).1.stop_shift, between.stop_eq,
    gapEnd_of_finds front back between.on finds not_finish]

/-! ### Leaves and parts -/

section Nodes

variable {front content back : List Char} {cursor next : Cursor} {node : Node}
  (on : cursor.On content)

include on

/-- A leaf that is made of one token. -/
theorem nodePieces_leaf {kind : Token} {lexeme : Lexeme}
    (finds : (token kind).Finds cursor lexeme next) (not_finish : kind ≠ .finish)
    (span_eq : node.span = lexeme.span) (leaf : node.isLeaf = true) :
    NodePieces front content back cursor next node := by
  have between := between_of_finds_token on finds not_finish
  have nonempty := between.nonempty
  have stop_eq := between.stop_eq
  have next_le := between.on.offset_le
  have isNode : node.fault? = none := by cases node <;> simp_all [Node.isLeaf, Node.fault?]
  have piece_eq : Piece.ofSpan (front ++ content ++ back) (lexeme.span.shift front.length) =
      lexeme.piece front.length := by
    rw [Piece.ofSpan, Span.slice_shift front content back (Int.natCast_nonneg _)
      (Int.ofNat_le.mpr (Nat.le_of_lt nonempty)) (Int.ofNat_le.mpr (by omega)), between.slice_eq,
      Lexeme.piece, Piece.ofChars]
    simp only [Lexeme.span, spanOf, Span.shift, Lexeme.stop, Piece.mk.injEq, Span.mk.injEq,
      true_and, and_true]
    omega
  rw [NodePieces, Node.pieces_of_isLeaf _ ((Node.isLeaf_shift ..).trans leaf),
    Node.span_shift _ _ isNode, span_eq, piece_eq]
  exact .token finds not_finish

/-- What is made of the token it reads. -/
private theorem nodePieces_token_map {kind : Token} {build : Lexeme → Node}
    (finds : Finds (token kind >>= fun lexeme => Pure.pure (build lexeme)) cursor node next)
    (not_finish : kind ≠ .finish) (span_eq : ∀ lexeme, (build lexeme).span = lexeme.span)
    (leaf : ∀ lexeme, (build lexeme).isLeaf = true) :
    NodePieces front content back cursor next node := by
  obtain ⟨lexeme, found, rfl⟩ := (finds_map_iff ..).mp finds
  exact nodePieces_leaf on found not_finish (span_eq lexeme) (leaf lexeme)

theorem nodePieces_date (finds : date.Finds cursor node next) :
    NodePieces front content back cursor next node :=
  nodePieces_token_map on finds (by simp) (fun _ => rfl) fun _ => rfl

theorem nodePieces_number (finds : number.Finds cursor node next) :
    NodePieces front content back cursor next node :=
  nodePieces_token_map on finds (by simp) (fun _ => rfl) fun _ => rfl

theorem nodePieces_variableName (finds : variableName.Finds cursor node next) :
    NodePieces front content back cursor next node :=
  nodePieces_token_map on finds (by simp) (fun _ => rfl) fun _ => rfl

theorem nodePieces_literal (finds : literal.Finds cursor node next) :
    NodePieces front content back cursor next node :=
  nodePieces_token_map on finds (by simp) (fun _ => rfl) fun _ => rfl

theorem nodePieces_orWord (finds : orWord.Finds cursor node next) :
    NodePieces front content back cursor next node :=
  nodePieces_token_map on finds (by simp) (fun _ => rfl) fun _ => rfl

omit on in
theorem nodePieces_firstOf {readers : List (Reader Node)}
    (reads : ∀ reader ∈ readers, reader.Finds cursor node next →
      NodePieces front content back cursor next node)
    (finds : (firstOf readers).Finds cursor node next) :
    NodePieces front content back cursor next node := by
  obtain ⟨reader, member, found⟩ := exists_of_finds_firstOf finds
  exact reads reader member found

/-- A part that is read if it is there. -/
theorem nodePieces_orMissing {reader : Reader Node} {value : Option Node}
    (reads : ∀ {node}, reader.Finds cursor node next →
      NodePieces front content back cursor next node)
    (finds : (optional reader).Finds cursor value next) (stop : Int) (message : String) :
    NodePieces front content back cursor next (orMissing value stop message) := by
  rcases (finds_optional_iff ..).mp finds with ⟨node, rfl, found⟩ | ⟨rfl, rfl, _⟩
  · exact reads found
  · have none_eq : ((orMissing none stop message).shift front.length).pieces
        (front ++ content ++ back) = [] := by
      simp [orMissing, Node.shift, Node.pieces_eq, Node.ownPieces, Node.isLeaf, Node.signs,
        Node.partNodes, Node.parts]
    rw [NodePieces, none_eq]
    exact .nil

omit on in
/-- A node with a sign between its two parts, and what is written in front of them. -/
theorem nodePieces_of_pair {kind : Token} {first middle behind : Cursor} {name part : Node}
    {sign : Lexeme} {lead : List Piece} (parts_eq : node.partNodes = [name, part])
    (own_eq : (node.shift front.length).ownPieces (front ++ content ++ back) =
      lead ++ [sign.piece front.length])
    (leading : PiecesBetween front.length cursor first lead)
    (named : NodePieces front content back first middle name)
    (sign_found : (token kind).Finds middle sign behind) (not_finish : kind ≠ .finish)
    (last : NodePieces front content back behind next part) :
    NodePieces front content back cursor next node := by
  rw [NodePieces, Node.pieces_shift_eq, own_eq, parts_eq, List.flatMap_cons,
    List.flatMap_singleton, List.append_assoc]
  exact (leading.append (named.append ((PiecesBetween.token sign_found not_finish).append
    last))).of_perm (.append_left _ (List.perm_append_comm_assoc ..))

/-! ### Comparisons and sort directives -/

theorem nodePieces_compareValue
    (finds : (firstOf [date, number, variableName, literal]).Finds cursor node next) :
    NodePieces front content back cursor next node := by
  apply nodePieces_firstOf _ finds
  simp only [List.forall_mem_cons]
  exact ⟨nodePieces_date on, nodePieces_number on, nodePieces_variableName on,
    nodePieces_literal on, by simp⟩

theorem nodePieces_comparison (finds : comparison.Finds cursor node next) :
    NodePieces front content back cursor next node := by
  obtain ⟨operator, middle, operator_found, value, value_found, rfl⟩ :=
    finds_comparison_iff.mp finds
  have middle_on := kept_on content on operator_found
  have own_eq (stop : Int) (value : Node) :
      ((Node.compare ⟨operator.span.start, stop⟩ operator.text value).shift
        front.length).ownPieces (front ++ content ++ back) = [operator.piece front.length] := by
    simp [Node.shift, Node.ownPieces, Node.isLeaf, Node.signs, Span.shift, Lexeme.piece,
      Lexeme.span, Lexeme.text, spanOf]
  rw [NodePieces, Node.pieces_shift_eq, own_eq, Node.partNodes_compare, List.flatMap_singleton]
  exact (PiecesBetween.token operator_found (by simp)).append
    (nodePieces_orMissing middle_on (nodePieces_compareValue middle_on) value_found _ _)

theorem nodePieces_criteria (finds : (firstOf [variableName, literal]).Finds cursor node next) :
    NodePieces front content back cursor next node := by
  apply nodePieces_firstOf _ finds
  simp only [List.forall_mem_cons]
  exact ⟨nodePieces_variableName on, nodePieces_literal on, by simp⟩

theorem nodePieces_sortDirective (finds : sortDirective.Finds cursor node next) :
    NodePieces front content back cursor next node := by
  obtain ⟨keyword, middle, keyword_found, colon, behind, colon_found, criteria, criteria_found,
    rfl⟩ := finds_sortDirective_iff.mp finds
  have middle_on := kept_on content on keyword_found
  have behind_on := kept_on content middle_on colon_found
  have named : NodePieces front content back cursor middle (.literal keyword.span keyword.text) :=
    nodePieces_leaf on keyword_found (by simp) rfl rfl
  have own_eq (span : Span) (criteria : Node) :
      ((Node.sort span (.literal keyword.span keyword.text) criteria).shift
        front.length).ownPieces (front ++ content ++ back) =
        [] ++ [colon.piece front.length] := by
    rw [← piece_of_finds_word rfl colon_found,
      ← gapEnd_behind front back (nodeBetween_name on keyword_found (by simp) rfl).1 colon_found
        (by simp)]
    simp [Node.shift, Node.ownPieces, Node.isLeaf, Node.signs]
  exact nodePieces_of_pair rfl (own_eq ..) .nil named colon_found (by simp)
    (nodePieces_orMissing behind_on (nodePieces_criteria behind_on) criteria_found _ _)

/-! ### Ranges -/

variable (front back)

/-- What is found as a boundary is a node or a star. -/
theorem boundary_cases {bound : Boundary} (finds : boundary.Finds cursor bound next) :
    (∃ node, bound = .ofNode node ∧ NodeBetween content cursor next node ∧
        NodePieces front content back cursor next node) ∨
      ∃ lexeme, (token .star).Finds cursor lexeme next ∧ bound = ⟨lexeme.span, none⟩ := by
  rcases finds_boundary_iff.mp finds with ⟨node, found, rfl⟩ | ⟨_, ⟨node, found, rfl⟩ |
    ⟨_, ⟨node, found, rfl⟩ | ⟨_, lexeme, found, rfl⟩⟩⟩
  · exact Or.inl ⟨node, rfl, nodeBetween_date on found, nodePieces_date on found⟩
  · exact Or.inl ⟨node, rfl, nodeBetween_number on found, nodePieces_number on found⟩
  · exact Or.inl ⟨node, rfl, nodeBetween_variableName on found, nodePieces_variableName on found⟩
  · exact Or.inr ⟨lexeme, found, rfl⟩

theorem starAt?_of_finds_star {star : Lexeme} (finds : (token .star).Finds cursor star next) :
    Node.starAt? (front ++ content ++ back) none (star.start + front.length) =
      some (star.piece front.length) := by
  have chars_eq : star.chars = ['*'] := chars_of_finds_word rfl finds
  rw [Node.starAt?_none (slice_first_of_finds front back on finds (by simp) chars_eq),
    Lexeme.piece, chars_eq]
  rfl

/-- The lower boundary of a range, or its star, and the range operator behind it. -/
theorem pieces_lower {lower : Option Boundary} {dots : Lexeme} {behind : Cursor}
    (finds : (optional boundary).Finds cursor lower next)
    (dots_found : (token .dots).Finds next dots behind) {bound : Option Node} {start : Int}
    (bound_eq : (lower.bind (·.node)).map (Node.shift front.length) = bound)
    (start_eq : (lower.map (·.span.start)).getD dots.span.start + front.length = start) :
    PiecesBetween front.length cursor next
        ((Node.starAt? (front ++ content ++ back) bound start).toList ++
          bound.toList.flatMap (Node.pieces (front ++ content ++ back))) ∧
      Text.gapEnd (front ++ content ++ back)
        (Node.lowerStop (front ++ content ++ back) start bound) = dots.start + front.length := by
  have dots_chars : dots.chars = ['.', '.'] := chars_of_finds_word rfl dots_found
  rcases (finds_optional_iff ..).mp finds with ⟨_, rfl, found⟩ | ⟨rfl, rfl, _⟩
  · rcases boundary_cases front back on found with ⟨node, rfl, between, pieces⟩ |
      ⟨star, star_found, rfl⟩
    · obtain rfl : some (node.shift front.length) = bound := bound_eq
      rw [Node.starAt?_some, Node.lowerStop, gapEnd_behind front back between dots_found (by simp),
        Option.toList_none, List.nil_append, Option.toList_some, List.flatMap_singleton]
      exact ⟨pieces, rfl⟩
    · obtain rfl : none = bound := bound_eq
      obtain rfl : (star.start + front.length : Int) = start := start_eq
      have between := between_of_finds_token on star_found (by simp)
      have star_eq := starAt?_of_finds_star front back on star_found
      have stop_eq : (star.piece front.length).span.stop = next.offset + front.length := by
        rw [← between.stop_eq]
        simp [Lexeme.piece, Piece.ofChars, Lexeme.stop]
        omega
      rw [Node.lowerStop, star_eq, Option.map_some, Option.getD_some, stop_eq,
        gapEnd_of_finds front back between.on dots_found (by simp)]
      exact ⟨.token star_found (by simp), rfl⟩
  · -- Without a boundary the range begins with its operator, where no star is read.
    obtain rfl : none = bound := bound_eq
    obtain rfl : (dots.start + front.length : Int) = start := start_eq
    have star_eq : Node.starAt? (front ++ content ++ back) none (dots.start + front.length) =
        none := by
      rw [Node.starAt?_none (slice_first_of_finds front back on dots_found (by simp) dots_chars),
        if_neg (by decide)]
    rw [Node.lowerStop, star_eq, Option.map_none, Option.getD_none]
    exact ⟨.nil, gapEnd_start_of_finds front back on dots_found (by simp)⟩

/-- The upper boundary of a range, or its star, behind the range operator. -/
theorem pieces_upper {upper : Option Boundary} {dots : Lexeme} {behind : Cursor}
    (dots_found : (token .dots).Finds cursor dots behind)
    (finds : (optional boundary).Finds behind upper next) {bound : Option Node} {stop : Int}
    (bound_eq : (upper.bind (·.node)).map (Node.shift front.length) = bound)
    (stop_eq : (upper.map (·.span.stop)).getD dots.span.stop + front.length = stop) :
    PiecesBetween front.length behind next
      ((Node.starAt? (front ++ content ++ back) bound (stop - 1)).toList ++
        bound.toList.flatMap (Node.pieces (front ++ content ++ back))) := by
  have behind_on := kept_on content on dots_found
  rcases (finds_optional_iff ..).mp finds with ⟨_, rfl, found⟩ | ⟨rfl, rfl, _⟩
  · rcases boundary_cases front back behind_on found with ⟨node, rfl, between, pieces⟩ |
      ⟨star, star_found, rfl⟩
    · obtain rfl : some (node.shift front.length) = bound := bound_eq
      rw [Node.starAt?_some, Option.toList_none, List.nil_append, Option.toList_some,
        List.flatMap_singleton]
      exact pieces
    · obtain rfl : none = bound := bound_eq
      have star_start : stop - 1 = star.start + front.length := by
        rw [← stop_eq]
        simp [Lexeme.span, spanOf, Lexeme.stop, chars_of_finds_word rfl star_found]
        omega
      rw [star_start, starAt?_of_finds_star front back behind_on star_found]
      exact .token star_found (by simp)
  · obtain rfl : none = bound := bound_eq
    obtain rfl : (dots.stop + front.length : Int) = stop := stop_eq
    have dots_chars : dots.chars = ['.'] ++ ['.'] := chars_of_finds_word rfl dots_found
    rw [Node.starAt?_none (slice_last_of_finds front back on dots_found (by simp) dots_chars),
      if_neg (by decide)]
    exact .nil

variable {front back}

theorem nodePieces_range (finds : range.Finds cursor node next) :
    NodePieces front content back cursor next node := by
  obtain ⟨lower, middle, lower_found, dots, behind, dots_found, upper, upper_found, rfl⟩ :=
    finds_range_iff.mp finds
  have middle_on : middle.On content := (lower_of_finds on lower_found
    ((finds_token_iff ..).mp dots_found).2.1).2.2.1
  obtain ⟨lowers, gap_eq⟩ := pieces_lower front back on lower_found dots_found rfl rfl
  have uppers := pieces_upper front back middle_on dots_found upper_found rfl rfl
  have dots_piece := piece_of_finds_word rfl dots_found front.length
  have shift_eq (span : Span) (lower upper : Option Node) :
      (Node.range span lower upper).shift front.length = .range (span.shift front.length)
        (lower.map (Node.shift front.length)) (upper.map (Node.shift front.length)) := by
    simp [Node.shift]
  rw [NodePieces, shift_eq, Node.pieces_eq, Node.partNodes_range, List.flatMap_append]
  simp only [Node.ownPieces, Node.isLeaf, Node.signs, Span.shift, Bool.false_eq_true, if_false,
    gap_eq, dots_piece]
  -- The signs of the range are listed before its parts; they are read in between.
  refine (lowers.append ((PiecesBetween.token dots_found (by simp)).append uppers)).of_perm ?_
  simp only [List.append_assoc]
  refine .append_left _ ?_
  exact ((List.perm_append_comm_assoc ..).append_left _).trans (List.perm_append_comm_assoc ..)

theorem nodePieces_qualifierValue (finds : qualifierValue.Finds cursor node next) :
    NodePieces front content back cursor next node := by
  apply nodePieces_firstOf _ finds
  simp only [List.forall_mem_cons]
  exact ⟨nodePieces_range on, nodePieces_comparison on, nodePieces_date on,
    nodePieces_number on, nodePieces_variableName on, nodePieces_literal on, by simp⟩

/-! ### Items -/

theorem nodePieces_qualifiedValue (finds : qualifiedValue.Finds cursor node next) :
    NodePieces front content back cursor next node := by
  obtain ⟨dash, first, dash_found, name, middle, name_found, colon, behind, colon_found, value,
    value_found, rfl⟩ := finds_qualifiedValue_iff.mp finds
  have leading : PiecesBetween front.length cursor first
      (if dash.isSome then
        [.ofChars ((dash.map (·.span.start)).getD name.span.start + front.length) ['-']]
      else []) := by
    rcases (finds_optional_iff ..).mp dash_found with ⟨hyphen, rfl, found⟩ | ⟨rfl, rfl, _⟩
    · exact piece_of_finds_word rfl found front.length ▸ .token found (by simp)
    · exact .nil
  have first_on := leading.on on
  have behind_on := kept_on content (kept_on content first_on name_found) colon_found
  have named : NodePieces front content back first middle (.literal name.span name.text) :=
    nodePieces_leaf first_on name_found (by simp) rfl rfl
  have own_eq (stop : Int) (value : Node) :
      ((Node.qualified ⟨(dash.map (·.span.start)).getD name.span.start, stop⟩ dash.isSome
        (.literal name.span name.text) value).shift front.length).ownPieces
          (front ++ content ++ back) =
        (if dash.isSome then
          [.ofChars ((dash.map (·.span.start)).getD name.span.start + front.length) ['-']]
        else []) ++ [colon.piece front.length] := by
    rw [← piece_of_finds_word rfl colon_found,
      ← gapEnd_behind front back (nodeBetween_name first_on name_found (by simp) rfl).1
        colon_found (by simp)]
    simp [Node.shift, Node.ownPieces, Node.isLeaf, Node.signs, Span.shift]
  exact nodePieces_of_pair rfl (own_eq ..) leading named colon_found (by simp)
    (nodePieces_orMissing behind_on (nodePieces_qualifierValue behind_on) value_found _ _)

theorem nodePieces_item (finds : item.Finds cursor node next) :
    NodePieces front content back cursor next node := by
  apply nodePieces_firstOf _ finds
  simp only [List.forall_mem_cons]
  exact ⟨nodePieces_orWord on, nodePieces_sortDirective on, nodePieces_qualifiedValue on,
    nodePieces_range on, nodePieces_comparison on, nodePieces_date on, nodePieces_number on,
    nodePieces_variableName on, nodePieces_literal on, by simp⟩

/-! ### Lines -/

theorem piecesBetween_of_repeats {items : List Node} (repeats : Repeats item cursor items next) :
    PiecesBetween front.length cursor next
      (items.flatMap fun item => (item.shift front.length).pieces (front ++ content ++ back)) := by
  induction repeats with
  | stop => exact .nil
  | @more cursor middle _ node _ found _ induction =>
      have pieces : NodePieces front content back cursor middle node := nodePieces_item on found
      rw [List.flatMap_cons]
      exact pieces.append (induction (pieces.on on))

theorem nodePieces_query (finds : query.Finds cursor node next) :
    NodePieces front content back cursor next node := by
  obtain ⟨first, others, repeats, rfl⟩ := finds_query_iff.mp finds
  rw [NodePieces, queryOf, Node.pieces_shift_query]
  exact piecesBetween_of_repeats on repeats

/-- The value of a definition has the pieces of its items. -/
theorem pieces_definedValue {items : List Node} (repeats : Repeats item cursor items next)
    (stop : Int) : NodePieces front content back cursor next (definedValue items stop) := by
  have pieces : PiecesBetween front.length cursor next
      (items.flatMap fun item => (item.shift front.length).pieces (front ++ content ++ back)) :=
    piecesBetween_of_repeats on repeats
  cases items with
  | nil =>
      rw [NodePieces, definedValue, Node.pieces_shift_query]
      simpa [Node.shift, Node.pieces_eq, Node.ownPieces, Node.isLeaf, Node.signs, Node.partNodes,
        Node.parts] using pieces
  | cons first others =>
      rw [NodePieces, definedValue, queryOf, Node.pieces_shift_query]
      exact pieces

theorem nodePieces_definition (finds : definition.Finds cursor node next) :
    NodePieces front content back cursor next node := by
  obtain ⟨name, middle, name_found, sign, behind, sign_found, items, repeats, rfl⟩ :=
    finds_definition_iff.mp finds
  have name_reads : variableName.Finds cursor (.variable name.span name.text none) middle :=
    finds_variableName_iff.mpr ⟨name, name_found, rfl⟩
  have behind_on := kept_on content (kept_on content on name_found) sign_found
  have own_eq (span : Span) (value : Node) :
      ((Node.definition span (.variable name.span name.text none) value none).shift
        front.length).ownPieces (front ++ content ++ back) = [] ++ [sign.piece front.length] := by
    rw [← piece_of_finds_word rfl sign_found,
      ← gapEnd_behind front back (nodeBetween_variableName on name_reads) sign_found (by simp)]
    simp [Node.shift, Node.ownPieces, Node.isLeaf, Node.signs]
  exact nodePieces_of_pair rfl (own_eq ..) .nil (nodePieces_variableName on name_reads) sign_found
    (by simp) (pieces_definedValue behind_on repeats _)

end Nodes

/-- The pieces of a line that is read are its tokens, with but a gap behind the last of them. -/
theorem nodePieces_line (front back : List Char) {content : List Char} {node : Node}
    {next : Cursor} (finds : line.Finds ⟨0, content⟩ node next) :
    ∃ final, NodePieces front content back ⟨0, content⟩ final node ∧ final.skipGap.rest = [] := by
  obtain ⟨final, found, _, finish⟩ := finds_line_iff.mp finds
  refine ⟨final, ?_, (Token.take?_finish_eq_some ((finds_token_iff ..).mp finish).1).1⟩
  rcases found with definition | ⟨_, query⟩
  · exact nodePieces_definition (Cursor.on_start content) definition
  · exact nodePieces_query (Cursor.on_start content) query

end SearchQuery.Line
