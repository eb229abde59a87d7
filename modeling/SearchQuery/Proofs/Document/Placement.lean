import SearchQuery.Proofs.Document.Lines
import SearchQuery.Proofs.Line.Placement

/-!
# Where the nodes of a document stand

Every node of a document is placed in its text.  The nodes of a line are placed in the content of
the line, whether the line is read or not, and are moved to where the line stands; the lines
themselves follow each other.
-/

namespace SearchQuery

namespace SourceLine

/-- The line cannot be read. -/
def IsRejected (line : SourceLine) : Prop := ∃ error, Line.parse line.content = .error error

instance (line : SourceLine) : Decidable line.IsRejected :=
  match parse_eq : Line.parse line.content with
  | .ok _ => isFalse fun ⟨_, rejected⟩ => by simp [parse_eq] at rejected
  | .error error => isTrue ⟨error, parse_eq⟩

/-- Missing parts stand at the end of what they belong to, unless the node is that of a line that
cannot be read, with a single missing part. -/
def MissesRightly (line : SourceLine) (root node : Node) : Prop :=
  node.EndsMissing ∨ line.IsRejected ∧ node = root ∧ ∃ missing, root.partNodes = [missing]

/-- The node of a line, with offsets counted from the beginning of the line. -/
structure NodePlaced (line : SourceLine) (root : Node) : Prop where
  /-- The node of the line is this one, moved to the place of the line. -/
  node_eq : line.node = root.shift line.offset
  /-- The node covers some text. -/
  nonempty : root.start < root.stop
  /-- The node is no missing part. -/
  kind_ne : root.kind ≠ .missing
  /-- The nodes are placed in the content of the line. -/
  placed : ∀ node ∈ root.preorder, node.Placed line.content
  /-- Missing parts stand where they belong. -/
  missesRightly : ∀ node ∈ root.preorder, line.MissesRightly root node
  /-- The nodes cover some text. -/
  solid : ∀ node ∈ root.preorder, node.IsSolid ∨ Line.IsEmptyValue root node

theorem nodePlaced_of_finds {line : SourceLine} {root : Node} {next : Line.Cursor}
    (finds : Line.line.Finds ⟨0, line.content⟩ root next) : line.NodePlaced root := by
  have linePlaced := Line.linePlaced_line finds
  refine ⟨?_, linePlaced.nonempty, linePlaced.kind_ne, linePlaced.placed, ?_, linePlaced.solid⟩
  · rw [node, Line.parse_of_finds finds]
  · exact fun node member => Or.inl (linePlaced.endsMissing node member)

/-- The node of a line that cannot be read, and its missing part. -/
private theorem forall_mem_preorder_rejected {line : SourceLine} {error : Line.SyntaxError}
    {property : Node → Prop} :
    (∀ node ∈ (line.rejected error).preorder, property node) ↔
      property (line.rejected error) ∧
        property (.missing (Line.spanOf error.offset line.content.length) error.message) := by
  rw [Node.forall_mem_preorder_iff, rejected, Node.partNodes_query, List.forall_mem_singleton,
    Node.forall_mem_preorder_iff]
  simp [Node.partNodes, Node.parts]

theorem nodePlaced_of_error {line : SourceLine} {error : Line.SyntaxError}
    (nonempty : 0 < line.content.length) (parse_eq : Line.parse line.content = .error error)
    (offset_le : error.offset ≤ line.content.length) : line.NodePlaced (line.rejected error) := by
  have rejected_parts : (line.rejected error).partNodes =
      [.missing (Line.spanOf error.offset line.content.length) error.message] :=
    Node.partNodes_query ..
  have missing_parts (span : Span) (message : String) :
      (Node.missing span message).partNodes = [] := rfl
  have inside : (0 : Int) < line.content.length := Int.natCast_pos.mpr nonempty
  refine ⟨?_, inside, by simp [rejected, Node.kind], ?_, ?_, ?_⟩
  · rw [node, parse_eq]
  · refine forall_mem_preorder_rejected.mpr
      ⟨⟨rfl, Int.le_refl _, Int.le_of_lt inside, Int.le_refl _, ?_, ?_, trivial⟩,
        ⟨rfl, Int.natCast_nonneg _, Int.ofNat_le.mpr offset_le, Int.le_refl _, ?_, ?_, trivial⟩⟩
    · rw [rejected_parts, List.forall_mem_singleton]
      exact ⟨Int.natCast_nonneg _, Int.le_refl _⟩
    · rw [rejected_parts]
      exact .singleton _
    · simp [missing_parts]
    · simp [missing_parts]
  · refine forall_mem_preorder_rejected.mpr ⟨Or.inr ⟨⟨error, parse_eq⟩, rfl, _, rejected_parts⟩,
      Or.inl ?_⟩
    simp [Node.EndsMissing, missing_parts]
  · exact forall_mem_preorder_rejected.mpr ⟨Or.inl (Or.inl inside), Or.inl (Or.inr rfl)⟩

/-- The node of a line is placed in the line, whether the line is read or not. -/
theorem exists_nodePlaced {line : SourceLine}
    (visible : ∃ c ∈ line.content, Text.isBlank c = false) :
    ∃ root, line.NodePlaced root := by
  rcases Line.Reader.misses_or_finds Line.line ⟨0, line.content⟩ with misses | ⟨root, next, finds⟩
  · obtain ⟨c, member, _⟩ := visible
    exact ⟨_, nodePlaced_of_error (List.length_pos_of_mem member) (Line.parse_of_misses misses)
      (Line.offset_error_le line.content)⟩
  · exact ⟨root, nodePlaced_of_finds finds⟩

theorem isEmptyValue_shift {root node : Node} (empty : Line.IsEmptyValue root node)
    (distance : Int) : Line.IsEmptyValue (root.shift distance) (node.shift distance) := by
  obtain ⟨span, name, label, rfl, rfl⟩ := empty
  exact ⟨span.shift distance, name.shift distance, label,
    by simp [Node.shift, Span.shift, Span.point], by simp [Node.shift, Span.shift, Span.point]⟩

namespace NodePlaced

variable {line : SourceLine} {root : Node} (nodePlaced : line.NodePlaced root)

include nodePlaced

/-- A node of the line is a moved node, whose parts are placed in the line. -/
theorem exists_of_mem_preorder {node : Node} (member : node ∈ line.node.preorder) :
    ∃ local_node ∈ root.preorder, node = local_node.shift line.offset ∧
      ∀ part ∈ local_node.partNodes, part.Placed line.content := by
  rw [nodePlaced.node_eq, Node.preorder_shift] at member
  obtain ⟨local_node, local_mem, rfl⟩ := List.mem_map.mp member
  exact ⟨local_node, local_mem, rfl,
    fun part part_mem => nodePlaced.placed part (Node.mem_preorder_of_mem_parts local_mem part_mem)⟩

/-- The node of the line lies inside of its content. -/
theorem inside : line.offset ≤ line.node.start ∧ line.node.start < line.node.stop ∧
    line.node.stop ≤ line.offset + line.content.length := by
  have placed := nodePlaced.placed root (Node.self_mem_preorder root)
  have := placed.start_nonneg
  have := placed.stop_le
  have := nodePlaced.nonempty
  rw [nodePlaced.node_eq, placed.start_shift, placed.stop_shift]
  omega

/-- The nodes of the line are placed in the text where the line stands. -/
theorem node_placed {text : List Char} (standsIn : line.StandsIn text) {node : Node}
    (member : node ∈ line.node.preorder) : node.Placed text := by
  obtain ⟨local_node, local_mem, rfl, parts⟩ := nodePlaced.exists_of_mem_preorder member
  obtain ⟨front, back, rfl, offset_eq⟩ := standsIn.split
  rw [offset_eq]
  exact Node.placed_shift front line.content back (nodePlaced.placed _ local_mem) parts

/-- Missing parts of the line stand at the end of what they belong to, unless the line cannot be
read. -/
theorem node_missesRightly {node : Node} (member : node ∈ line.node.preorder) :
    line.MissesRightly line.node node := by
  obtain ⟨local_node, local_mem, rfl, parts⟩ := nodePlaced.exists_of_mem_preorder member
  have placed := nodePlaced.placed _ local_mem
  rcases nodePlaced.missesRightly _ local_mem with ends | ⟨rejected, rfl, missing, parts_eq⟩
  · exact Or.inl (Node.endsMissing_shift placed parts ends line.offset)
  · refine Or.inr ⟨rejected, nodePlaced.node_eq.symm, missing.shift line.offset, ?_⟩
    rw [nodePlaced.node_eq, Node.partNodes_shift, parts_eq]
    rfl

/-- The nodes of the line cover some text, but for missing parts and empty values. -/
theorem node_solid {node : Node} (member : node ∈ line.node.preorder) :
    node.IsSolid ∨ Line.IsEmptyValue line.node node := by
  obtain ⟨local_node, local_mem, rfl, parts⟩ := nodePlaced.exists_of_mem_preorder member
  rcases nodePlaced.solid _ local_mem with solid | empty
  · exact Or.inl (Node.isSolid_shift (nodePlaced.placed _ local_mem) solid line.offset)
  · rw [nodePlaced.node_eq]
    exact Or.inr (isEmptyValue_shift empty line.offset)

end NodePlaced

end SourceLine

namespace Document

theorem exists_nodePlaced_of_mem_significantLines {text : String} {line : SourceLine}
    (member : line ∈ significantLines text) : ∃ root, line.NodePlaced root :=
  SourceLine.exists_nodePlaced (exists_visible_of_mem_significantLines member)

/-- A node of a document is the document itself or a node of one of its lines. -/
theorem mem_preorder_ofText_iff {text : String} {node : Node} :
    node ∈ (ofText text).toNode.preorder ↔
      node = (ofText text).toNode ∨ ∃ line ∈ significantLines text, node ∈ line.node.preorder := by
  rw [preorder_toNode, ofText, List.mem_cons, List.flatMap_map, List.mem_flatMap]

theorem placed_of_mem_significantLines {text : String} {line : SourceLine}
    (line_mem : line ∈ significantLines text) {node : Node} (member : node ∈ line.node.preorder) :
    node.Placed text.toList := by
  obtain ⟨root, nodePlaced⟩ := exists_nodePlaced_of_mem_significantLines line_mem
  exact nodePlaced.node_placed (standsIn_of_mem_significantLines line_mem) member

/-- The lines of the document are placed in its text one after the other. -/
theorem placed_toNode (text : String) : (ofText text).toNode.Placed text.toList := by
  have inside {line : SourceLine} (member : line ∈ significantLines text) :=
    (exists_nodePlaced_of_mem_significantLines member).elim fun _ => SourceLine.NodePlaced.inside
  have length_eq : text.length = text.toList.length := String.length_toList.symm
  constructor
  · rfl
  · exact Int.le_refl _
  · exact Int.natCast_nonneg _
  · change (text.length : Int) ≤ text.toList.length
    omega
  · intro child member
    rw [partNodes_toNode, ofText] at member
    obtain ⟨line, line_mem, rfl⟩ := List.mem_map.mp member
    obtain ⟨front, back, text_eq, offset_eq⟩ := (standsIn_of_mem_significantLines line_mem).split
    have line_inside := inside line_mem
    have := congrArg List.length text_eq
    simp only [List.length_append] at this
    change (0 : Int) ≤ _ ∧ _ ≤ (text.length : Int)
    omega
  · rw [partNodes_toNode, ofText, List.isChain_map]
    apply List.Pairwise.isChain
    refine (pairwise_significantLines text).imp_of_mem ?_
    intro left right left_mem right_mem ordered
    have := inside left_mem
    have := inside right_mem
    omega
  · trivial

/-- Every node of a document is placed in its text, and the node of each line lies inside of the
line.  A node covers some text, but for the document, missing parts, and the values of definitions
that have none; a missing part stands at the end of what it belongs to, unless it stands for a line
that cannot be read. -/
theorem placed_of_mem_preorder (text : String) :
    (∀ node ∈ (ofText text).toNode.preorder,
      node.Placed text.toList ∧
      (node.IsSolid ∨ node = (ofText text).toNode ∨
        ∃ definition ∈ (ofText text).toNode.preorder, Line.IsEmptyValue definition node) ∧
      (node.EndsMissing ∨
        ∃ line ∈ significantLines text, line.IsRejected ∧ node = line.node ∧
          ∃ missing, line.node.partNodes = [missing])) ∧
    ∀ line ∈ significantLines text,
      line.offset ≤ line.node.start ∧ line.node.stop ≤ line.offset + line.content.length := by
  have parts_eq : (ofText text).toNode.partNodes = (significantLines text).map (·.node) :=
    partNodes_toNode _
  constructor
  · intro node member
    rw [Node.preorder_eq, parts_eq, List.mem_cons, List.flatMap_map] at member
    rcases member with rfl | member
    · refine ⟨placed_toNode text, Or.inr (Or.inl rfl), Or.inl ?_⟩
      intro child child_mem missing
      rw [parts_eq] at child_mem
      obtain ⟨line, line_mem, rfl⟩ := List.mem_map.mp child_mem
      obtain ⟨root, nodePlaced⟩ := exists_nodePlaced_of_mem_significantLines line_mem
      rw [nodePlaced.node_eq, Node.kind_shift] at missing
      exact absurd missing nodePlaced.kind_ne
    · obtain ⟨line, line_mem, node_mem⟩ := List.mem_flatMap.mp member
      obtain ⟨root, nodePlaced⟩ := exists_nodePlaced_of_mem_significantLines line_mem
      refine ⟨nodePlaced.node_placed (standsIn_of_mem_significantLines line_mem) node_mem, ?_, ?_⟩
      · rcases nodePlaced.node_solid node_mem with solid | empty
        · exact Or.inl solid
        · refine Or.inr (Or.inr ⟨line.node, ?_, empty⟩)
          apply Node.mem_preorder_of_mem_parts (Node.self_mem_preorder _)
          rw [parts_eq]
          exact List.mem_map_of_mem line_mem
      · rcases nodePlaced.node_missesRightly node_mem with ends | ⟨rejected, node_eq, single⟩
        · exact Or.inl ends
        · exact Or.inr ⟨line, line_mem, rejected, node_eq, single⟩
  · intro line line_mem
    obtain ⟨root, nodePlaced⟩ := exists_nodePlaced_of_mem_significantLines line_mem
    have inside := nodePlaced.inside
    exact ⟨inside.1, inside.2.2⟩

end Document

end SearchQuery
