import SearchQuery.Outline
import SearchQuery.Proofs.Document.Totality
import SearchQuery.Proofs.Value.Text

/-!
# Walks and outlines

A walk keeps the nodes still to be visited on a stack; an outline is made by recursion.  Both have
the nodes of a tree in the order of the preorder, the root first and then part after part.  A walk
ends behind the first value that is no node, and an outline has one line for each node, indented by
its depth, with the kind and the offsets of the node and the field that matters.
-/

namespace SearchQuery

namespace Node

/-- The nodes of a tree and their depths, the root first and then part after part. -/
def levels (depth : Nat) (root : Node) : List (Nat × Node) :=
  (depth, root) :: root.partNodes.attach.flatMap fun part => part.val.levels (depth + 1)
termination_by sizeOf root
decreasing_by exact sizeOf_lt_of_mem_partNodes part.property

/-- The parts of a node are one level deeper than the node. -/
theorem levels_eq (depth : Nat) (root : Node) :
    root.levels depth = (depth, root) :: root.partNodes.flatMap (levels (depth + 1)) := by
  rw [levels]
  simp

/-- The depths are those of the nodes in preorder. -/
theorem map_snd_levels (depth : Nat) (root : Node) :
    (root.levels depth).map Prod.snd = root.preorder := by
  induction root using forall_of_partNodes generalizing depth with
  | step root induction =>
      rw [levels_eq, preorder_eq, List.map_cons, List.map_flatMap]
      exact congrArg _ (List.flatMap_congr fun part part_mem => induction part part_mem _)

theorem mem_preorder_of_mem_levels {depth : Nat} {root : Node} {level : Nat × Node}
    (member : level ∈ root.levels depth) : level.2 ∈ root.preorder := by
  rw [← map_snd_levels depth]
  exact List.mem_map_of_mem member

end Node

/-- An offset of the span has too many digits. -/
def Span.IsLong (span : Span) : Prop :=
  10 ^ Number.maxDigits ≤ span.start.natAbs ∨ 10 ^ Number.maxDigits ≤ span.stop.natAbs

instance (span : Span) : Decidable span.IsLong :=
  decidable_of_iff (Number.decimal? span.start = none ∨ Number.decimal? span.stop = none) <| by
    rw [Span.IsLong, Number.decimal?_eq_none_iff, Number.decimal?_eq_none_iff]

/-- An offset of a node in a line of the document has too many digits. -/
def Document.HasLongOffset (document : Document) : Prop :=
  ∃ line ∈ document.lines, ∃ node ∈ line.preorder, node.span.IsLong

instance (document : Document) : Decidable document.HasLongOffset :=
  inferInstanceAs (Decidable (∃ line ∈ document.lines, ∃ node ∈ line.preorder, node.span.IsLong))

namespace Outline

/-! ## One node -/

/-- The name of a kind, and the offsets of a span with a hyphen between them. -/
def heading (kind : String) (span : Span) : String :=
  kind ++ " " ++ toString span.start ++ "-" ++ toString span.stop

/-- What an outline says of a node: its kind and offsets and, of a word or a missing part, the text
in quotes, of a token its word, of a comparison the operator, and of a qualified value the
qualifier, behind a hyphen if it is negated. -/
def description : Node → String
  | .literal span text => heading "Literal" span ++ " " ++ Text.quoted text
  | .number span text => heading "Number" span ++ " " ++ Text.quoted text
  | .date span text => heading "Date" span ++ " " ++ Text.quoted text
  | .variable span name _ => heading "VariableName" span ++ " " ++ Text.quoted name
  | .mark span .orWord => heading "Any" span ++ " OR"
  | .mark span .unknown => heading "Any" span ++ " unknown"
  | .missing span message => heading "Missing" span ++ " " ++ Text.quoted message
  | .range span _ _ => heading "Range" span
  | .compare span operator _ => heading "Compare" span ++ " " ++ operator
  | .qualified span true qualifier _ => heading "QualifiedValue" span ++ " -" ++ qualifier.word
  | .qualified span false qualifier _ => heading "QualifiedValue" span ++ " " ++ qualifier.word
  | .sort span _ _ => heading "SortBy" span
  | .query span _ => heading "Query" span
  | .definition span _ _ _ => heading "VariableDefinition" span
  | .document span _ _ => heading "QueryDocumentNode" span
  | .foreign _ => ""

/-- The line for a node at a depth: two spaces for each level, and what is said of the node. -/
def lineFor (depth : Nat) (node : Node) : String :=
  String.ofList (List.replicate (2 * depth) ' ') ++ description node

/-- A node whose offsets can be written has its line. -/
theorem indented?_eq_some {node : Node} (isNode : node.kind ≠ .foreign)
    (short : ¬ node.span.IsLong) (depth : Nat) :
    indented? depth node = some (lineFor depth node) := by
  rw [Span.IsLong, not_or, Nat.not_le, Nat.not_le] at short
  have span_eq : spanText? node.span =
      some (toString node.span.start ++ "-" ++ toString node.span.stop) := by
    simp [spanText?, Number.decimal?_eq_some short.1, Number.decimal?_eq_some short.2]
  rw [indented?, span_eq, Option.map_some, lineFor]
  cases node with
  | foreign value => exact absurd rfl isNode
  | mark span token =>
      cases token <;> simp [description, heading, detailText, detail, Node.kind, Kind.name,
        Node.span, Mark.text, String.append_assoc]
  | qualified span negated qualifier value =>
      have hyphen : " -" ++ qualifier.word = " " ++ ("-" ++ qualifier.word) := by
        rw [← String.append_assoc]
        rfl
      cases negated <;> simp [description, heading, detailText, detail, Node.kind, Kind.name,
        Node.span, hyphen, String.append_assoc]
  | _ => simp [description, heading, detailText, detail, Node.kind, Kind.name, Node.span,
      Node.word?, String.append_assoc]

/-- A node with an offset that cannot be written has no line. -/
theorem indented?_eq_none {node : Node} (long : node.span.IsLong) (depth : Nat) :
    indented? depth node = none := by
  rw [Span.IsLong, ← Number.decimal?_eq_none_iff, ← Number.decimal?_eq_none_iff] at long
  rw [indented?, Option.map_eq_none_iff, spanText?]
  rcases long with long | long
  · simp [long]
  · cases Number.decimal? node.span.start <;> simp [long]

/-! ## Trees -/

private theorem listLines_eq (depth : Nat) (nodes : List Node) :
    listLines depth nodes = nodes.flatMap (treeLines depth) := by
  induction nodes with
  | nil => rfl
  | cons node nodes induction => rw [listLines, induction, List.flatMap_cons]

private theorem optionLines_eq (depth : Nat) (node : Option Node) :
    optionLines depth node = node.toList.flatMap (treeLines depth) := by
  cases node <;> simp [optionLines]

/-- The lines for a tree are that for its root and those for its parts. -/
theorem treeLines_eq (depth : Nat) (node : Node) :
    treeLines depth node =
      indented? depth node :: node.partNodes.flatMap (treeLines (depth + 1)) := by
  cases node <;> simp [treeLines, listLines_eq, optionLines_eq, Node.partNodes, Node.parts,
    List.flatMap_map]

/-- The lines for a tree show its nodes, each at its depth. -/
theorem treeLines_eq_map_levels (depth : Nat) (root : Node) :
    treeLines depth root = (root.levels depth).map fun level => indented? level.1 level.2 := by
  induction root using Node.forall_of_partNodes generalizing depth with
  | step root induction =>
      rw [treeLines_eq, Node.levels_eq, List.map_cons, List.map_flatMap]
      exact congrArg _ (List.flatMap_congr fun part part_mem => induction part part_mem _)

private theorem mapM_id_map_some (texts : List String) :
    (texts.map some).mapM id = some texts := by
  induction texts with
  | nil => rfl
  | cons text texts induction =>
      rw [List.map_cons, List.mapM_cons, induction]
      rfl

private theorem mapM_id_eq_none {lines : List (Option String)} (absent : none ∈ lines) :
    lines.mapM id = none := by
  induction lines with
  | nil => cases absent
  | cons line lines induction =>
      rw [List.mapM_cons]
      cases line with
      | none => rfl
      | some text =>
          rw [induction ((List.mem_cons.mp absent).resolve_left nofun)]
          rfl

/-! ## Documents -/

/-- What an outline shows of a line: its query text and its nodes, each in one line at its depth. -/
def block (source : List Char) (line : Node) : List String :=
  ("> " ++ line.text source some) :: (line.levels 1).map fun level => lineFor level.1 level.2

/-- What an outline shows of the variables of a document. -/
def variablePart (document : Document) : Option SymbolTable → List String
  | none => []
  | some table => "=== Variables ===" :: variableLines (settledVariables table document)

section

variable {source : List Char} {line : Node} (nodes : ∀ node ∈ line.preorder, node.kind ≠ .foreign)
include nodes

theorem nodeLines_eq_ok (short : ∀ node ∈ line.preorder, ¬ node.span.IsLong) :
    nodeLines source line = .ok (block source line) := by
  have lines_eq : treeLines 1 line =
      ((line.levels 1).map fun level => lineFor level.1 level.2).map some := by
    rw [treeLines_eq_map_levels, List.map_map]
    refine List.map_congr_left fun level member => ?_
    have inside := Node.mem_preorder_of_mem_levels member
    exact indented?_eq_some (nodes _ inside) (short _ inside) _
  rw [nodeLines, Node.print_eq_text source some nodes, Node.visits?_walk nodes, lines_eq,
    mapM_id_map_some]
  rfl

theorem nodeLines_eq_error (long : ∃ node ∈ line.preorder, node.span.IsLong) :
    nodeLines source line = .error .tooManyDigits := by
  obtain ⟨node, member, long⟩ := long
  rw [← Node.map_snd_levels 1] at member
  obtain ⟨level, level_mem, rfl⟩ := List.mem_map.mp member
  have absent : none ∈ treeLines 1 line := by
    rw [treeLines_eq_map_levels]
    exact List.mem_map.mpr ⟨level, level_mem, indented?_eq_none long _⟩
  rw [nodeLines, Node.print_eq_text source some nodes, Node.visits?_walk nodes,
    mapM_id_eq_none absent]
  rfl

end

section

variable {document : Document} (nodes : document.HasNodesOnly) (table : Option SymbolTable)
include nodes

/-- An outline of nodes shows line after line, and then the variables. -/
theorem lines_eq_ok (short : ¬ document.HasLongOffset) :
    lines document table =
      .ok ("=== Document ===" :: document.lines.flatMap (block document.source.toList) ++
        variablePart document table) := by
  have blocks : document.lines.mapM (nodeLines document.source.toList) =
      .ok (document.lines.map (block document.source.toList)) :=
    mapM_eq_ok fun line line_mem => nodeLines_eq_ok (nodes.kind_ne_of_mem_lines line_mem)
      fun node member long => short ⟨line, line_mem, node, member, long⟩
  simp only [lines, blocks, bind, Except.bind, pure, Except.pure, List.flatMap_def]
  cases table <;> rfl

/-- There is no outline of nodes an offset of which cannot be written. -/
theorem lines_eq_error (long : document.HasLongOffset) :
    lines document table = .error .tooManyDigits := by
  obtain ⟨line, line_mem, long⟩ := long
  have fails : document.lines.mapM (nodeLines document.source.toList) = .error .tooManyDigits := by
    refine mapM_eq_error (fun other other_mem => ?_) ⟨line, line_mem,
      nodeLines_eq_error (nodes.kind_ne_of_mem_lines line_mem) long⟩
    by_cases other_long : ∃ node ∈ other.preorder, node.span.IsLong
    · exact .inr (nodeLines_eq_error (nodes.kind_ne_of_mem_lines other_mem) other_long)
    · exact .inl ⟨_, nodeLines_eq_ok (nodes.kind_ne_of_mem_lines other_mem)
        fun node member long => other_long ⟨node, member, long⟩⟩
  simp only [lines, fails, bind, Except.bind]

end

end Outline

end SearchQuery
