import SearchQuery.Proofs.Line.Acceptance
import SearchQuery.Proofs.Node.Placement

/-!
# Where the constructs of a line stand

What is found between two places of a line spans the line from the first token after the one to the
other, and all of its nodes are placed in the line.  A missing part stands at the end of the
construct that it belongs to.
-/

namespace SearchQuery.Line

open Reader

/-- No token leaves the line. -/
theorem kept_on (content : List Char) : KeptByTokens fun cursor => cursor.On content := by
  intro kind cursor next lexeme on finds
  obtain ⟨split, _, offset_eq⟩ := split_of_finds_token finds
  obtain ⟨offset, rest⟩ := next
  obtain rfl : offset = cursor.skipGap.offset + lexeme.chars.length := offset_eq
  exact on.skipGap.move split

theorem Cursor.le_skipGap (cursor : Cursor) : cursor.offset ≤ cursor.skipGap.offset :=
  Nat.le_add_right _ _

/-! ## Tokens -/

/-- A lexeme that is found between two places of a line. -/
structure Lexeme.Between (content : List Char) (cursor next : Cursor) (lexeme : Lexeme) :
    Prop where
  /-- The lexeme begins after the gap. -/
  start_eq : lexeme.start = cursor.skipGap.offset
  /-- The lexeme ends where the reading goes on. -/
  stop_eq : lexeme.stop = next.offset
  /-- The lexeme is not empty. -/
  nonempty : lexeme.start < lexeme.stop
  /-- The characters of the lexeme are those of the line. -/
  slice_eq : lexeme.span.slice content = lexeme.chars
  /-- The reading goes on in the line. -/
  on : next.On content

/-- The characters of a lexeme begin every slice that begins with it and is not shorter. -/
theorem Lexeme.Between.chars_prefix {content : List Char} {cursor next : Cursor} {lexeme : Lexeme}
    (between : lexeme.Between content cursor next) {stop : Nat} (longer : lexeme.stop ≤ stop) :
    lexeme.chars <+: Text.slice content lexeme.start stop := by
  rw [← between.slice_eq]
  exact Text.slice_prefix content (Int.natCast_nonneg _)
    (Int.ofNat_le.mpr (Nat.le_of_lt between.nonempty)) (Int.ofNat_le.mpr longer)

theorem between_of_finds_token {kind : Token} {content : List Char} {cursor next : Cursor}
    {lexeme : Lexeme} (on : cursor.On content)
    (finds : (token kind).Finds cursor lexeme next)
    (not_finish : kind ≠ .finish := by simp) :
    lexeme.Between content cursor next := by
  obtain ⟨_, start_eq, offset_eq⟩ := (finds_token_iff ..).mp finds
  obtain ⟨split, _, _⟩ := split_of_finds_token finds
  have nonempty : 0 < lexeme.chars.length := by
    obtain ⟨c, tail, text_eq, _⟩ := (takes_of_finds_token finds not_finish).head
    rw [text_eq]
    simp
  refine ⟨start_eq, offset_eq.symm, ?_, ?_, kept_on content on finds⟩
  · rw [Lexeme.stop]
    omega
  · change Text.slice content lexeme.start lexeme.stop = lexeme.chars
    rw [Text.slice_ofNat, start_eq, ← on.skipGap.rest_eq, split, Lexeme.stop, start_eq,
      Nat.add_sub_cancel_left, List.take_left]

/-! ## Nodes -/

/-- A node whose parts are all placed in the line, with nothing missing but at the ends of
constructs. -/
def IsSound (content : List Char) (node : Node) : Prop :=
  ∀ inner ∈ node.preorder, inner.Placed content ∧ inner.IsSolid ∧ inner.EndsMissing

/-- A node that is found between two places of a line. -/
structure NodeBetween (content : List Char) (cursor next : Cursor) (node : Node) : Prop where
  /-- The node begins after the gap. -/
  start_eq : node.start = cursor.skipGap.offset
  /-- The node ends where the reading goes on. -/
  stop_eq : node.stop = next.offset
  /-- The node is not empty. -/
  nonempty : node.start < node.stop
  /-- The node is no missing part. -/
  kind_ne : node.kind ≠ .missing
  /-- The nodes of the tree are placed in the line. -/
  isSound : IsSound content node
  /-- The reading goes on in the line. -/
  on : next.On content

private theorem isSound_leaf {content : List Char} {node : Node} (leaf : node.partNodes = [])
    (placed : node.Placed content) (solid : node.IsSolid) : IsSound content node := by
  rw [IsSound, Node.forall_mem_preorder_iff, leaf]
  exact ⟨⟨placed, solid, by simp [Node.EndsMissing, leaf]⟩, by simp⟩

/-- A node without parts that is made of one lexeme. -/
private theorem nodeBetween_leaf {content : List Char} {cursor next : Cursor} {lexeme : Lexeme}
    {node : Node} (between : lexeme.Between content cursor next) (span_eq : node.span = lexeme.span)
    (isNode : node.fault? = none) (leaf : node.partNodes = []) (kind_ne : node.kind ≠ .missing)
    (reflects : node.Reflects content) : NodeBetween content cursor next node := by
  have start_eq : node.start = lexeme.start := by rw [Node.start, span_eq]; rfl
  have stop_eq : node.stop = lexeme.stop := by rw [Node.stop, span_eq]; rfl
  have nonempty := between.nonempty
  have lexeme_stop := between.stop_eq
  have next_le := between.on.offset_le
  refine ⟨?_, ?_, ?_, kind_ne, ?_, between.on⟩
  · rw [start_eq, between.start_eq]
  · rw [stop_eq, between.stop_eq]
  · omega
  · apply isSound_leaf leaf
    · exact ⟨Node.children_eq isNode, by omega, by omega, by omega, by simp [leaf], by simp [leaf],
        reflects⟩
    · exact Or.inl (by omega)

section Leaves

variable {content : List Char} {cursor next : Cursor} {node : Node} (on : cursor.On content)

include on

theorem nodeBetween_date (finds : date.Finds cursor node next) :
    NodeBetween content cursor next node := by
  obtain ⟨lexeme, found, rfl⟩ := finds_date_iff.mp finds
  have between := between_of_finds_token on found
  apply nodeBetween_leaf between <;> simp [Node.span, Node.fault?, Node.partNodes, Node.parts,
    Node.kind, Node.Reflects, Lexeme.text, between.slice_eq]

theorem nodeBetween_number (finds : number.Finds cursor node next) :
    NodeBetween content cursor next node := by
  obtain ⟨lexeme, found, rfl⟩ := finds_number_iff.mp finds
  have between := between_of_finds_token on found
  apply nodeBetween_leaf between <;> simp [Node.span, Node.fault?, Node.partNodes, Node.parts,
    Node.kind, Node.Reflects, Lexeme.text, between.slice_eq]

theorem nodeBetween_variableName (finds : variableName.Finds cursor node next) :
    NodeBetween content cursor next node := by
  obtain ⟨lexeme, found, rfl⟩ := finds_variableName_iff.mp finds
  have between := between_of_finds_token on found
  apply nodeBetween_leaf between <;> simp [Node.span, Node.fault?, Node.partNodes, Node.parts,
    Node.kind, Node.Reflects, Lexeme.text, between.slice_eq]

theorem nodeBetween_literal (finds : literal.Finds cursor node next) :
    NodeBetween content cursor next node := by
  obtain ⟨lexeme, found, rfl⟩ := finds_literal_iff.mp finds
  have between := between_of_finds_token on found
  apply nodeBetween_leaf between <;> simp [Node.span, Node.fault?, Node.partNodes, Node.parts,
    Node.kind, Node.Reflects, between.slice_eq]

theorem nodeBetween_orWord (finds : orWord.Finds cursor node next) :
    NodeBetween content cursor next node := by
  obtain ⟨lexeme, found, rfl⟩ := finds_orWord_iff.mp finds
  have between := between_of_finds_token on found
  have text_eq : lexeme.chars = ['O', 'R'] :=
    (takeWordBefore?_eq_some ((finds_token_iff ..).mp found).1).1
  apply nodeBetween_leaf between <;> simp [Node.span, Node.fault?, Node.partNodes, Node.parts,
    Node.kind, Node.Reflects, between.slice_eq, text_eq]

/-- A name or keyword that is found, as a literal. -/
theorem nodeBetween_name {kind : Token} {lexeme : Lexeme}
    (found : (token kind).Finds cursor lexeme next) (not_finish : kind ≠ .finish := by simp)
    (noQuote : kind.begins '"' = false := by decide) :
    NodeBetween content cursor next (.literal lexeme.span lexeme.text) ∧
      (Node.literal lexeme.span lexeme.text).IsSpelled content := by
  have between := between_of_finds_token on found not_finish
  have unquoted : unquote lexeme.chars = lexeme.chars := by
    obtain ⟨c, tail, chars_eq, begins⟩ := (takes_of_finds_token found not_finish).head
    rw [chars_eq, unquote]
    rintro rest ⟨⟩
    simp [noQuote] at begins
  constructor
  · apply nodeBetween_leaf between <;> simp [Node.span, Node.fault?, Node.partNodes, Node.parts,
      Node.kind, Node.Reflects, Lexeme.text, between.slice_eq, unquoted]
  · exact ⟨lexeme.span, lexeme.text, rfl, by simp [Lexeme.text, between.slice_eq]⟩

end Leaves

/-! ## Nodes with parts -/

/-- The last part of a construct: a node behind a place, or a missing part at that place. -/
structure PartBetween (content : List Char) (back next : Cursor) (part : Node) : Prop where
  /-- The part does not begin before the place. -/
  le_start : back.offset ≤ part.start
  /-- The part ends where the reading goes on. -/
  stop_eq : part.stop = next.offset
  /-- The part does not end before it begins. -/
  start_le_stop : part.start ≤ part.stop
  /-- A missing part stands at its end. -/
  span_eq : part.kind = .missing → part.span = .point next.offset
  /-- The nodes of the part are placed in the line. -/
  isSound : IsSound content part
  /-- The reading goes on in the line. -/
  on : next.On content

private theorem isSound_missing {content : List Char} {offset : Nat} (message : String)
    (inside : offset ≤ content.length) :
    IsSound content (.missing (.point offset) message) := by
  apply isSound_leaf rfl
  · refine ⟨rfl, Int.natCast_nonneg offset, Int.le_refl _, Int.ofNat_le.mpr inside, ?_, ?_, trivial⟩
    · simp [Node.partNodes, Node.parts]
    · simp [Node.partNodes, Node.parts]
  · exact Or.inr rfl

/-- A part that is read if it is there. -/
theorem partBetween_orMissing {content : List Char} {back next : Cursor} {reader : Reader Node}
    {value : Option Node} (stop : Int) (on : back.On content) (stop_eq : stop = back.offset)
    (reads : ∀ {node}, reader.Finds back node next → NodeBetween content back next node)
    (finds : (optional reader).Finds back value next) (message : String) :
    (value.map (·.stop)).getD stop = next.offset ∧
      PartBetween content back next
        (orMissing value ((value.map (·.stop)).getD stop) message) := by
  rcases (finds_optional_iff ..).mp finds with ⟨node, rfl, found⟩ | ⟨rfl, rfl, _⟩
  · have between := reads found
    have := back.le_skipGap
    have := between.start_eq
    have := between.nonempty
    refine ⟨between.stop_eq, ?_, between.stop_eq, ?_, ?_, between.isSound, between.on⟩
    · change (back.offset : Int) ≤ node.start
      omega
    · change node.start ≤ node.stop
      omega
    · exact fun missing => absurd missing between.kind_ne
  · have inside := on.offset_le
    obtain rfl := stop_eq
    exact ⟨rfl, Int.le_refl _, rfl, Int.le_refl _, fun _ => rfl, isSound_missing message inside, on⟩

/-- A node with parts that lie in it one after the other. -/
private theorem nodeBetween_of_parts {content : List Char} {cursor next : Cursor} {node : Node}
    (start_eq : node.start = cursor.skipGap.offset) (stop_eq : node.stop = next.offset)
    (nonempty : node.start < node.stop) (kind_ne : node.kind ≠ .missing)
    (isNode : node.fault? = none) (on : next.On content) (reflects : node.Reflects content)
    (inside : ∀ part ∈ node.partNodes, node.start ≤ part.start ∧ part.stop ≤ node.stop)
    (ordered : node.partNodes.IsChain fun left right => left.stop ≤ right.start)
    (ends : node.EndsMissing) (sound : ∀ part ∈ node.partNodes, IsSound content part) :
    NodeBetween content cursor next node := by
  refine ⟨start_eq, stop_eq, nonempty, kind_ne, ?_, on⟩
  rw [IsSound, Node.forall_mem_preorder_iff]
  refine ⟨⟨⟨Node.children_eq isNode, by omega, by omega, ?_, inside, ordered, reflects⟩,
    Or.inl nonempty, ends⟩, sound⟩
  have := on.offset_le
  omega

theorem nodeBetween_firstOf {content : List Char} {cursor next : Cursor} {node : Node}
    {readers : List (Reader Node)}
    (reads : ∀ reader ∈ readers, reader.Finds cursor node next →
      NodeBetween content cursor next node)
    (finds : (firstOf readers).Finds cursor node next) : NodeBetween content cursor next node := by
  obtain ⟨reader, member, found⟩ := exists_of_finds_firstOf finds
  exact reads reader member found

/-- A node of a name or keyword and a last part. -/
private theorem nodeBetween_of_pair {content : List Char} {cursor front back place next : Cursor}
    {node name part : Node}
    (start_eq : node.start = cursor.skipGap.offset) (stop_eq : node.stop = next.offset)
    (parts_eq : node.partNodes = [name, part]) (kind_ne : node.kind ≠ .missing)
    (isNode : node.fault? = none) (reflects : node.Reflects content)
    (before : cursor.skipGap.offset ≤ front.skipGap.offset)
    (named : NodeBetween content front back name)
    (after : back.offset ≤ place.offset) (last : PartBetween content place next part) :
    NodeBetween content cursor next node := by
  have name_start := named.start_eq
  have name_stop := named.stop_eq
  have name_nonempty := named.nonempty
  have part_start := last.le_start
  have part_stop := last.stop_eq
  have part_ordered := last.start_le_stop
  apply nodeBetween_of_parts start_eq stop_eq _ kind_ne isNode last.on reflects
  · rw [parts_eq, List.forall_mem_cons, List.forall_mem_singleton]
    omega
  · rw [parts_eq, List.isChain_pair]
    omega
  · rw [Node.EndsMissing, parts_eq, List.forall_mem_cons, List.forall_mem_singleton, stop_eq]
    exact ⟨fun missing => absurd missing named.kind_ne, last.span_eq⟩
  · rw [parts_eq, List.forall_mem_cons, List.forall_mem_singleton]
    exact ⟨named.isSound, last.isSound⟩
  · omega

/-- A boundary that is found between two places of a line. -/
structure BoundaryBetween (content : List Char) (cursor next : Cursor) (bound : Boundary) :
    Prop where
  /-- The boundary begins after the gap. -/
  start_eq : bound.span.start = cursor.skipGap.offset
  /-- The boundary ends where the reading goes on. -/
  stop_eq : bound.span.stop = next.offset
  /-- The boundary is not empty. -/
  nonempty : bound.span.start < bound.span.stop
  /-- The value is the boundary. -/
  nodeBetween : ∀ node ∈ bound.node, NodeBetween content cursor next node
  /-- The reading goes on in the line. -/
  on : next.On content

private theorem boundaryBetween_ofNode {content : List Char} {cursor next : Cursor} {node : Node}
    (between : NodeBetween content cursor next node) :
    BoundaryBetween content cursor next (.ofNode node) := by
  refine ⟨between.start_eq, between.stop_eq, between.nonempty, ?_, between.on⟩
  rintro _ ⟨⟩
  exact between

section Parts

variable {content : List Char} {cursor next : Cursor} {node : Node} (on : cursor.On content)

include on

theorem nodeBetween_compareValue
    (finds : (firstOf [date, number, variableName, literal]).Finds cursor node next) :
    NodeBetween content cursor next node := by
  apply nodeBetween_firstOf _ finds
  simp only [List.forall_mem_cons]
  exact ⟨nodeBetween_date on, nodeBetween_number on, nodeBetween_variableName on,
    nodeBetween_literal on, by simp⟩

theorem nodeBetween_comparison (finds : comparison.Finds cursor node next) :
    NodeBetween content cursor next node := by
  obtain ⟨operator, front, operator_found, value, value_found, rfl⟩ := finds_comparison_iff.mp finds
  have sign := between_of_finds_token on operator_found
  have sign_nonempty := sign.nonempty
  have sign_stop := sign.stop_eq
  obtain ⟨stop_eq, part⟩ := partBetween_orMissing operator.span.stop sign.on
    (congrArg Nat.cast sign.stop_eq) (nodeBetween_compareValue sign.on) value_found missingValue
  rw [stop_eq] at part ⊢
  have part_start := part.le_start
  have part_stop := part.stop_eq
  have part_ordered := part.start_le_stop
  apply nodeBetween_of_parts
  · exact congrArg Nat.cast sign.start_eq
  · rfl
  · change (operator.start : Int) < next.offset
    omega
  · simp [Node.kind]
  · rfl
  · exact part.on
  · change (String.ofList operator.chars).toList <+: Text.slice content operator.start next.offset
    rw [String.toList_ofList]
    exact sign.chars_prefix (by omega)
  · rw [Node.partNodes_compare, List.forall_mem_singleton]
    refine ⟨?_, Int.le_of_eq part_stop⟩
    change (operator.start : Int) ≤ _
    omega
  · exact List.isChain_singleton _
  · rw [Node.EndsMissing, Node.partNodes_compare, List.forall_mem_singleton]
    exact part.span_eq
  · rw [Node.partNodes_compare, List.forall_mem_singleton]
    exact part.isSound

theorem nodeBetween_sortDirective (finds : sortDirective.Finds cursor node next) :
    NodeBetween content cursor next node := by
  obtain ⟨keyword, front, keyword_found, colon, back, colon_found, criteria, criteria_found, rfl⟩ :=
    finds_sortDirective_iff.mp finds
  obtain ⟨named, spelled⟩ := nodeBetween_name on keyword_found
  have sign := between_of_finds_token named.on colon_found
  have reads {criterion : Node}
      (found : (firstOf [variableName, literal]).Finds back criterion next) :
      NodeBetween content back next criterion := by
    apply nodeBetween_firstOf _ found
    simp only [List.forall_mem_cons]
    exact ⟨nodeBetween_variableName sign.on, nodeBetween_literal sign.on, by simp⟩
  obtain ⟨stop_eq, part⟩ := partBetween_orMissing colon.span.stop sign.on
    (congrArg Nat.cast sign.stop_eq) reads criteria_found missingCriteria
  rw [stop_eq] at part ⊢
  have sign_start := sign.start_eq
  have sign_stop := sign.stop_eq
  have sign_nonempty := sign.nonempty
  have := front.le_skipGap
  exact nodeBetween_of_pair named.start_eq rfl rfl (by simp [Node.kind]) rfl spelled
    (Nat.le_refl _) named (by omega) part

theorem boundaryBetween_of_finds {bound : Boundary} (finds : boundary.Finds cursor bound next) :
    BoundaryBetween content cursor next bound := by
  rcases finds_boundary_iff.mp finds with ⟨node, found, rfl⟩ | ⟨_, ⟨node, found, rfl⟩ |
    ⟨_, ⟨node, found, rfl⟩ | ⟨_, lexeme, found, rfl⟩⟩⟩
  · exact boundaryBetween_ofNode (nodeBetween_date on found)
  · exact boundaryBetween_ofNode (nodeBetween_number on found)
  · exact boundaryBetween_ofNode (nodeBetween_variableName on found)
  · have between := between_of_finds_token on found
    exact ⟨congrArg Nat.cast between.start_eq, congrArg Nat.cast between.stop_eq,
      Int.ofNat_lt.mpr between.nonempty, by simp, between.on⟩

/-- What stands in front of the range operator. -/
theorem lower_of_finds {front : Cursor} {lower : Option Boundary} {dots : Lexeme}
    (finds : (optional boundary).Finds cursor lower front)
    (dots_start : dots.start = front.skipGap.offset) :
    (lower.map (·.span.start)).getD dots.span.start = cursor.skipGap.offset ∧
      (cursor.skipGap.offset ≤ dots.start) ∧ front.On content ∧
      ∀ part ∈ lower.bind (·.node), NodeBetween content cursor front part := by
  rcases (finds_optional_iff ..).mp finds with ⟨bound, rfl, found⟩ | ⟨rfl, rfl, _⟩
  · have between := boundaryBetween_of_finds on found
    have := between.start_eq
    have := between.stop_eq
    have := between.nonempty
    have := front.le_skipGap
    exact ⟨between.start_eq, by omega, between.on, between.nodeBetween⟩
  · exact ⟨congrArg Nat.cast dots_start, by omega, on, by simp⟩

/-- What stands behind the range operator. -/
theorem upper_of_finds {upper : Option Boundary} {dots : Lexeme}
    (finds : (optional boundary).Finds cursor upper next) (dots_stop : dots.stop = cursor.offset) :
    (upper.map (·.span.stop)).getD dots.span.stop = next.offset ∧
      (dots.stop ≤ next.offset) ∧ next.On content ∧
      ∀ part ∈ upper.bind (·.node), NodeBetween content cursor next part := by
  rcases (finds_optional_iff ..).mp finds with ⟨bound, rfl, found⟩ | ⟨rfl, rfl, _⟩
  · have between := boundaryBetween_of_finds on found
    have := between.start_eq
    have := between.stop_eq
    have := between.nonempty
    have := cursor.le_skipGap
    exact ⟨between.stop_eq, by omega, between.on, between.nodeBetween⟩
  · exact ⟨congrArg Nat.cast dots_stop, by omega, on, by simp⟩

theorem nodeBetween_range (finds : range.Finds cursor node next) :
    NodeBetween content cursor next node := by
  obtain ⟨lower, front, lower_found, dots, back, dots_found, upper, upper_found, rfl⟩ :=
    finds_range_iff.mp finds
  have dots_start := ((finds_token_iff ..).mp dots_found).2.1
  obtain ⟨start_eq, lower_le, front_on, lowers⟩ := lower_of_finds on lower_found dots_start
  have sign := between_of_finds_token front_on dots_found
  obtain ⟨stop_eq, le_upper, next_on, uppers⟩ := upper_of_finds sign.on upper_found sign.stop_eq
  rw [start_eq, stop_eq]
  generalize lower.bind (·.node) = lower at lowers
  generalize upper.bind (·.node) = upper at uppers
  have sign_stop := sign.stop_eq
  have sign_nonempty := sign.nonempty
  have before : ∀ part ∈ lower, (cursor.skipGap.offset : Int) ≤ part.start ∧
      part.stop ≤ dots.start := by
    intro part member
    have := (lowers part member).start_eq
    have := (lowers part member).stop_eq
    have := front.le_skipGap
    omega
  have behind : ∀ part ∈ upper, (dots.stop : Int) ≤ part.start ∧ part.stop ≤ next.offset := by
    intro part member
    have := (uppers part member).start_eq
    have := (uppers part member).stop_eq
    have := back.le_skipGap
    omega
  apply nodeBetween_of_parts
  · rfl
  · rfl
  · change (cursor.skipGap.offset : Int) < next.offset
    omega
  · simp [Node.kind]
  · rfl
  · exact next_on
  · trivial
  · rw [Node.partNodes_range]
    intro part member
    change (cursor.skipGap.offset : Int) ≤ part.start ∧ part.stop ≤ next.offset
    rcases List.mem_append.mp member with member | member
    · have := before part (Option.mem_toList.mp member)
      omega
    · have := behind part (Option.mem_toList.mp member)
      omega
  · rw [Node.partNodes_range]
    cases lower with
    | none => cases upper <;> simp
    | some left =>
        cases upper with
        | none => simp
        | some right =>
            have := before left rfl
            have := behind right rfl
            simp only [Option.toList_some, List.singleton_append, List.isChain_pair]
            omega
  · intro part member missing
    rw [Node.partNodes_range, List.mem_append, Option.mem_toList, Option.mem_toList] at member
    rcases member with member | member
    · exact absurd missing (lowers part member).kind_ne
    · exact absurd missing (uppers part member).kind_ne
  · intro part member
    rw [Node.partNodes_range, List.mem_append, Option.mem_toList, Option.mem_toList] at member
    rcases member with member | member
    · exact (lowers part member).isSound
    · exact (uppers part member).isSound

theorem nodeBetween_qualifierValue (finds : qualifierValue.Finds cursor node next) :
    NodeBetween content cursor next node := by
  apply nodeBetween_firstOf _ finds
  simp only [List.forall_mem_cons]
  exact ⟨nodeBetween_range on, nodeBetween_comparison on, nodeBetween_date on,
    nodeBetween_number on, nodeBetween_variableName on, nodeBetween_literal on, by simp⟩

theorem nodeBetween_qualifiedValue (finds : qualifiedValue.Finds cursor node next) :
    NodeBetween content cursor next node := by
  obtain ⟨dash, front, dash_found, name, middle, name_found, colon, back, colon_found, value,
    value_found, rfl⟩ := finds_qualifiedValue_iff.mp finds
  have name_start := ((finds_token_iff ..).mp name_found).2.1
  have leading : (dash.map (·.span.start)).getD name.span.start = cursor.skipGap.offset ∧
      cursor.skipGap.offset ≤ front.skipGap.offset ∧ front.On content := by
    rcases (finds_optional_iff ..).mp dash_found with ⟨hyphen, rfl, found⟩ | ⟨rfl, rfl, _⟩
    · have between := between_of_finds_token on found
      have := between.start_eq
      have := between.stop_eq
      have := between.nonempty
      have := front.le_skipGap
      exact ⟨congrArg Nat.cast between.start_eq, by omega, between.on⟩
    · exact ⟨congrArg Nat.cast name_start, Nat.le_refl _, on⟩
  obtain ⟨start_eq, before, front_on⟩ := leading
  obtain ⟨named, spelled⟩ := nodeBetween_name front_on name_found
  have sign := between_of_finds_token named.on colon_found
  obtain ⟨stop_eq, part⟩ := partBetween_orMissing colon.span.stop sign.on
    (congrArg Nat.cast sign.stop_eq) (nodeBetween_qualifierValue sign.on) value_found missingValue
  rw [stop_eq] at part ⊢
  have := sign.start_eq
  have := sign.stop_eq
  have := sign.nonempty
  have := middle.le_skipGap
  exact nodeBetween_of_pair start_eq rfl rfl (by simp [Node.kind]) rfl spelled before named
    (by omega) part

theorem nodeBetween_item (finds : item.Finds cursor node next) :
    NodeBetween content cursor next node := by
  apply nodeBetween_firstOf _ finds
  simp only [List.forall_mem_cons]
  exact ⟨nodeBetween_orWord on, nodeBetween_sortDirective on, nodeBetween_qualifiedValue on,
    nodeBetween_range on, nodeBetween_comparison on, nodeBetween_date on, nodeBetween_number on,
    nodeBetween_variableName on, nodeBetween_literal on, by simp⟩

end Parts

/-! ## Lines -/

/-- Items that are found one after the other between two places of a line. -/
structure ItemsBetween (content : List Char) (cursor final : Cursor) (items : List Node) :
    Prop where
  /-- The first item begins after the gap. -/
  head : ∀ node ∈ items.head?, node.start = cursor.skipGap.offset
  /-- The last item ends where the reading ends. -/
  last : ∀ node ∈ items.getLast?, node.stop = final.offset
  /-- Each item follows the one before it. -/
  ordered : items.IsChain fun left right => left.stop ≤ right.start
  /-- Each item lies between the places. -/
  inside : ∀ node ∈ items, cursor.skipGap.offset ≤ node.start ∧ node.start < node.stop ∧
    node.stop ≤ final.offset
  /-- No item is a missing part. -/
  kind_ne : ∀ node ∈ items, node.kind ≠ .missing
  /-- The nodes of the items are placed in the line. -/
  isSound : ∀ node ∈ items, IsSound content node
  /-- The reading ends in the line. -/
  on : final.On content

theorem itemsBetween_of_repeats {content : List Char} {cursor final : Cursor} {items : List Node}
    (on : cursor.On content) (repeats : Repeats item cursor items final) :
    ItemsBetween content cursor final items := by
  induction repeats with
  | stop => exact ⟨by simp, by simp, by simp, by simp, by simp, by simp, on⟩
  | @more cursor middle final node nodes found others induction =>
      have between := nodeBetween_item on found
      have later := induction between.on
      have node_start := between.start_eq
      have node_stop := between.stop_eq
      have nonempty := between.nonempty
      have := middle.le_skipGap
      refine ⟨?_, ?_, ?_, ?_, ?_, ?_, later.on⟩
      · rintro _ ⟨⟩
        exact node_start
      · intro last member
        cases others with
        | stop =>
            obtain rfl := by simpa using member
            exact node_stop
        | more => exact later.last last (by simpa using member)
      · rw [List.isChain_cons]
        refine ⟨?_, later.ordered⟩
        intro next member
        have := later.head next member
        omega
      · rw [List.forall_mem_cons]
        constructor
        · refine ⟨by omega, nonempty, ?_⟩
          cases others with
          | stop => omega
          | more =>
              have := later.inside _ List.mem_cons_self
              omega
        · intro other member
          have := later.inside other member
          omega
      · exact List.forall_mem_cons.mpr ⟨between.kind_ne, later.kind_ne⟩
      · exact List.forall_mem_cons.mpr ⟨between.isSound, later.isSound⟩

/-- The query of some items. -/
theorem nodeBetween_queryOf {content : List Char} {cursor final : Cursor} {first : Node}
    {others : List Node} (items : ItemsBetween content cursor final (first :: others)) :
    NodeBetween content cursor final (queryOf first others) := by
  have first_start := items.head first rfl
  have last_stop : (others.getLastD first).stop = final.offset := by
    apply items.last
    rw [List.getLast?_cons, ← List.getLastD_eq_getLast?]
    rfl
  have inside := items.inside first List.mem_cons_self
  apply nodeBetween_of_parts
  · exact first_start
  · exact last_stop
  · change first.start < (others.getLastD first).stop
    omega
  · simp [queryOf, Node.kind]
  · rfl
  · exact items.on
  · trivial
  · intro part member
    change first.start ≤ part.start ∧ part.stop ≤ (others.getLastD first).stop
    have := items.inside part (by simpa [queryOf] using member)
    omega
  · simpa [queryOf] using items.ordered
  · intro part member missing
    exact absurd missing (items.kind_ne part (by simpa [queryOf] using member))
  · simpa [queryOf] using items.isSound

theorem nodeBetween_query {content : List Char} {cursor next : Cursor} {node : Node}
    (on : cursor.On content) (finds : query.Finds cursor node next) :
    NodeBetween content cursor next node := by
  obtain ⟨first, others, repeats, rfl⟩ := finds_query_iff.mp finds
  exact nodeBetween_queryOf (itemsBetween_of_repeats on repeats)

/-- The value of a definition that has none: an empty query of a missing part, at the end of the
definition. -/
def IsEmptyValue (definition value : Node) : Prop :=
  ∃ span name label, definition = .definition span name value label ∧
    value = .query (.point span.stop) [.missing (.point span.stop) missingValue]

/-- The node of a line, all of whose nodes are placed in it.  Only a missing part, and the value of
a definition that has none, covers no text. -/
structure LinePlaced (content : List Char) (root : Node) : Prop where
  /-- The node covers some text. -/
  nonempty : root.start < root.stop
  /-- The node is no missing part. -/
  kind_ne : root.kind ≠ .missing
  /-- The nodes are placed in the line. -/
  placed : ∀ node ∈ root.preorder, node.Placed content
  /-- Missing parts stand at the ends of what they belong to. -/
  endsMissing : ∀ node ∈ root.preorder, node.EndsMissing
  /-- The nodes cover some text. -/
  solid : ∀ node ∈ root.preorder, node.IsSolid ∨ IsEmptyValue root node

theorem linePlaced_of_between {content : List Char} {cursor next : Cursor} {node : Node}
    (between : NodeBetween content cursor next node) : LinePlaced content node :=
  ⟨between.nonempty, between.kind_ne, fun inner member => (between.isSound inner member).1,
    fun inner member => (between.isSound inner member).2.2,
    fun inner member => Or.inl (between.isSound inner member).2.1⟩

/-- A definition is placed in its line if its value is. -/
private theorem linePlaced_of_value {content : List Char} {cursor front : Cursor} {span : Span}
    {text : String} {value : Node}
    (named : NodeBetween content cursor front (.variable span text none))
    (behind : front.offset < value.start) (ordered : value.start ≤ value.stop)
    (inside : value.stop ≤ content.length) (kind_ne : value.kind ≠ .missing)
    (sound : ∀ inner ∈ value.preorder, inner.Placed content ∧ inner.EndsMissing ∧
      (inner.IsSolid ∨ IsEmptyValue
        (.definition ⟨span.start, value.stop⟩ (.variable span text none) value none) inner)) :
    LinePlaced content
      (.definition ⟨span.start, value.stop⟩ (.variable span text none) value none) := by
  have name_start : span.start = cursor.skipGap.offset := named.start_eq
  have name_stop : span.stop = front.offset := named.stop_eq
  have name_nonempty : span.start < span.stop := named.nonempty
  have nonempty : span.start < value.stop := by omega
  have placed : (Node.definition ⟨span.start, value.stop⟩ (.variable span text none) value
      none).Placed content := by
    constructor
    · rfl
    · change 0 ≤ span.start
      omega
    · change span.start ≤ value.stop
      omega
    · exact inside
    · rw [Node.partNodes_definition, List.forall_mem_cons, List.forall_mem_singleton]
      change (span.start ≤ span.start ∧ span.stop ≤ value.stop) ∧
        span.start ≤ value.start ∧ value.stop ≤ value.stop
      omega
    · rw [Node.partNodes_definition, List.isChain_pair]
      change span.stop ≤ value.start
      omega
    · trivial
  have endsMissing : (Node.definition ⟨span.start, value.stop⟩ (.variable span text none) value
      none).EndsMissing := by
    rw [Node.EndsMissing, Node.partNodes_definition, List.forall_mem_cons,
      List.forall_mem_singleton]
    exact ⟨fun missing => absurd missing named.kind_ne, fun missing => absurd missing kind_ne⟩
  refine ⟨nonempty, by simp [Node.kind], ?_, ?_, ?_⟩ <;>
    rw [Node.forall_mem_preorder_iff, Node.partNodes_definition, List.forall_mem_cons,
      List.forall_mem_singleton]
  · exact ⟨placed, fun inner member => (named.isSound inner member).1,
      fun inner member => (sound inner member).1⟩
  · exact ⟨endsMissing, fun inner member => (named.isSound inner member).2.2,
      fun inner member => (sound inner member).2.1⟩
  · exact ⟨Or.inl (Or.inl nonempty), fun inner member => Or.inl (named.isSound inner member).2.1,
      fun inner member => (sound inner member).2.2⟩

theorem linePlaced_definition {content : List Char} {cursor next : Cursor} {node : Node}
    (on : cursor.On content) (finds : definition.Finds cursor node next) :
    LinePlaced content node := by
  obtain ⟨name, front, name_found, sign, back, sign_found, items, repeats, rfl⟩ :=
    finds_definition_iff.mp finds
  have named := nodeBetween_variableName on (finds_variableName_iff.mpr ⟨name, name_found, rfl⟩)
  have equals := between_of_finds_token named.on sign_found
  have sign_start := equals.start_eq
  have sign_stop := equals.stop_eq
  have sign_nonempty := equals.nonempty
  have back_le := equals.on.offset_le
  have := front.le_skipGap
  have := back.le_skipGap
  cases items with
  | nil =>
      have stop_eq : sign.span.stop = back.offset := congrArg Nat.cast sign_stop
      have missing := isSound_missing missingValue back_le
      rw [definedValue, stop_eq]
      apply linePlaced_of_value named
      · exact Int.ofNat_lt.mpr (by omega)
      · exact Int.le_refl _
      · exact Int.ofNat_le.mpr back_le
      · simp [Node.kind]
      · rw [Node.forall_mem_preorder_iff, Node.partNodes_query, List.forall_mem_singleton]
        refine ⟨⟨⟨rfl, Int.natCast_nonneg _, Int.le_refl _, Int.ofNat_le.mpr back_le, ?_, ?_,
          trivial⟩, ?_, Or.inr ⟨_, _, _, rfl, rfl⟩⟩, ?_⟩
        · simp [Node.start, Node.stop, Node.span, Span.point]
        · simp
        · simp [Node.EndsMissing, Node.span, Node.stop, Span.point]
        · intro inner member
          obtain ⟨placed, solid, ends⟩ := missing inner member
          exact ⟨placed, ends, Or.inl solid⟩
  | cons first others =>
      have value := nodeBetween_queryOf (itemsBetween_of_repeats equals.on repeats)
      have value_start := value.start_eq
      have value_stop := value.stop_eq
      have value_nonempty := value.nonempty
      have next_le := value.on.offset_le
      apply linePlaced_of_value named
      · change front.offset < (queryOf first others).start
        omega
      · exact Int.le_of_lt value_nonempty
      · change (queryOf first others).stop ≤ content.length
        omega
      · exact value.kind_ne
      · intro inner member
        obtain ⟨placed, solid, ends⟩ := value.isSound inner member
        exact ⟨placed, ends, Or.inl solid⟩

/-- The node of a line is placed in it. -/
theorem linePlaced_line {content : List Char} {node : Node} {next : Cursor}
    (finds : line.Finds ⟨0, content⟩ node next) : LinePlaced content node := by
  obtain ⟨back, definition | ⟨_, query⟩, _⟩ := finds_line_iff.mp finds
  · exact linePlaced_definition (Cursor.on_start content) definition
  · exact linePlaced_of_between (nodeBetween_query (Cursor.on_start content) query)

/-- The error of a line stands in it. -/
theorem offset_error_le (content : List Char) :
    (SyntaxError.ofFailures (line ⟨0, content⟩).failures).offset ≤ content.length := by
  apply SyntaxError.offset_ofFailures_le
  intro failure member
  obtain ⟨place, on, offset_eq⟩ :=
    (keeps_line (kept_on content)).failure (Cursor.on_start content) member
  rw [offset_eq]
  exact on.skipGap.offset_le

end SearchQuery.Line
