import SearchQuery.Document
import SearchQuery.Proofs.Line.Acceptance
import SearchQuery.Proofs.Node.Preorder

/-!
# The shape of what is read

A tree that is read from a line has a narrow shape: what the parts of a node can be is told by the
kind of the node, and no node carries a label.  Every construct has its kinds, those of its
alternatives, and whatever it finds is of one of them and has the shape throughout.
-/

namespace SearchQuery

/-- The kinds of a value that bounds a range. -/
def Kind.boundaries : List Kind := [.date, .number, .variable]

/-- The kinds of a value that is compared with. -/
def Kind.compared : List Kind := [.date, .number, .variable, .literal]

/-- The kinds of sort criteria. -/
def Kind.criteria : List Kind := [.variable, .literal]

/-- The kinds of the value of a qualifier. -/
def Kind.qualifierValues : List Kind := [.range, .compare, .date, .number, .variable, .literal]

theorem Kind.boundaries_subset : Kind.boundaries ⊆ Kind.compared := by decide

/-- The kinds of an item. -/
def Kind.items : List Kind :=
  [.mark, .sort, .qualified, .range, .compare, .date, .number, .variable, .literal]

namespace Node

/-- The parts of a node are of the kinds that the grammar allows, and the node has no label. -/
def IsShaped : Node → Prop
  | .variable _ _ label => label = none
  | .mark _ token => token = .orWord
  | .range _ lower upper => ∀ part ∈ lower.toList ++ upper.toList, part.kind ∈ Kind.boundaries
  | .compare _ _ value => value.kind ∈ .missing :: Kind.compared
  | .qualified _ _ qualifier value =>
      qualifier.kind = .literal ∧ value.kind ∈ .missing :: Kind.qualifierValues
  | .sort _ keyword criteria =>
      keyword.kind = .literal ∧ criteria.kind ∈ .missing :: Kind.criteria
  | .query _ items => items ≠ [] ∧ ∀ item ∈ items, item.kind ∈ .missing :: Kind.items
  | .definition _ name value label => name.kind = .variable ∧ value.kind = .query ∧ label = none
  | .document .. => False
  | .foreign _ => False
  | _ => True

theorem isShaped_shift {node : Node} (shaped : node.IsShaped) (distance : Int) :
    (node.shift distance).IsShaped := by
  cases node with
  | range span lower upper => cases lower <;> cases upper <;> simp_all [IsShaped, shift]
  | _ => simp_all [IsShaped, shift]

/-- The parts of an item are missing or of the kinds of a value. -/
theorem kind_mem_of_mem_partNodes {node part : Node} (shaped : node.IsShaped)
    (kind : node.kind ≠ .query ∧ node.kind ≠ .definition) (part_mem : part ∈ node.partNodes) :
    part.kind ∈ .missing :: Kind.qualifierValues := by
  have among {kinds : List Kind} (kind_mem : part.kind ∈ kinds)
      (subset : kinds ⊆ .missing :: Kind.qualifierValues) :
      part.kind ∈ .missing :: Kind.qualifierValues := subset kind_mem
  cases node with
  | range span lower upper =>
      rw [partNodes_range] at part_mem
      exact among (shaped part part_mem) (by decide)
  | compare span operator value =>
      obtain rfl := List.mem_singleton.mp part_mem
      exact among shaped (by decide)
  | qualified span negated qualifier value =>
      rw [partNodes_qualified, List.mem_pair] at part_mem
      rcases part_mem with rfl | rfl
      · exact among (List.mem_singleton.mpr shaped.1) (by decide)
      · exact shaped.2
  | sort span keyword criteria =>
      rw [partNodes_sort, List.mem_pair] at part_mem
      rcases part_mem with rfl | rfl
      · exact among (List.mem_singleton.mpr shaped.1) (by decide)
      · exact among shaped.2 (by decide)
  | query => exact absurd rfl kind.1
  | definition => exact absurd rfl kind.2
  | document => cases shaped
  | _ => cases part_mem

/-- No part of a shaped node is a query or a definition, but for the items of a query and the value
of a definition. -/
theorem kind_of_mem_partNodes {root part : Node} (shaped : root.IsShaped)
    (kind : root.kind ≠ .definition) (part_mem : part ∈ root.partNodes) :
    part.kind ≠ .query ∧ part.kind ≠ .definition := by
  have among {kinds : List Kind} (kind_mem : part.kind ∈ kinds)
      (others : .query ∉ kinds ∧ .definition ∉ kinds) :
      part.kind ≠ .query ∧ part.kind ≠ .definition :=
    ⟨ne_of_mem_of_not_mem kind_mem others.1, ne_of_mem_of_not_mem kind_mem others.2⟩
  by_cases query : root.kind = .query
  · cases root with
    | query span items =>
        rw [partNodes_query] at part_mem
        exact among (shaped.2 part part_mem) (by decide)
    | _ => cases query
  · exact among (kind_mem_of_mem_partNodes shaped ⟨query, kind⟩ part_mem) (by decide)

/-- No node of a tree is a query or a definition, if its root is neither. -/
theorem kind_of_mem_preorder {root : Node} (shaped : ∀ inner ∈ root.preorder, inner.IsShaped)
    (kind : root.kind ≠ .query ∧ root.kind ≠ .definition) :
    ∀ inner ∈ root.preorder, inner.kind ≠ .query ∧ inner.kind ≠ .definition := by
  induction root using forall_of_partNodes with
  | step root induction =>
      rw [forall_mem_preorder_iff] at shaped ⊢
      exact ⟨kind, fun part part_mem => induction part part_mem (shaped.2 part part_mem)
        (kind_of_mem_partNodes shaped.1 kind.2 part_mem)⟩

/-- The only query in a query is that query. -/
theorem eq_root_of_kind {root query : Node} (shaped : ∀ inner ∈ root.preorder, inner.IsShaped)
    (root_kind : root.kind = .query) (query_mem : query ∈ root.preorder)
    (kind : query.kind = .query) : query = root := by
  rw [forall_mem_preorder_iff] at shaped
  refine (mem_preorder_iff.mp query_mem).resolve_right fun ⟨part, part_mem, inner_mem⟩ => ?_
  have part_kind := kind_of_mem_partNodes shaped.1 (by simp [root_kind]) part_mem
  exact (kind_of_mem_preorder (shaped.2 part part_mem) part_kind query inner_mem).1 kind

/-- No qualified value is a part of an item, nor a part of its parts. -/
theorem kind_ne_qualified_of_mem_preorder {node part : Node}
    (shaped : ∀ inner ∈ node.preorder, inner.IsShaped)
    (kind : node.kind ≠ .query ∧ node.kind ≠ .definition) (part_mem : part ∈ node.partNodes) :
    ∀ inner ∈ part.preorder, inner.kind ≠ .qualified := by
  induction node using forall_of_partNodes generalizing part with
  | step node induction =>
      rw [forall_mem_preorder_iff] at shaped
      have part_kind := kind_mem_of_mem_partNodes shaped.1 kind part_mem
      have part_kind_ne : part.kind ≠ .query ∧ part.kind ≠ .definition :=
        ⟨ne_of_mem_of_not_mem part_kind (by decide), ne_of_mem_of_not_mem part_kind (by decide)⟩
      rw [forall_mem_preorder_iff]
      exact ⟨ne_of_mem_of_not_mem part_kind (by decide), fun inner inner_mem =>
        induction part part_mem (shaped.2 part part_mem) part_kind_ne inner_mem⟩

/-- No definition is in a query. -/
theorem kind_ne_definition_of_mem_query {query inner : Node}
    (shaped : ∀ inner ∈ query.preorder, inner.IsShaped) (kind : query.kind = .query)
    (inner_mem : inner ∈ query.preorder) : inner.kind ≠ .definition := by
  rw [forall_mem_preorder_iff] at shaped
  rcases mem_preorder_iff.mp inner_mem with rfl | ⟨part, part_mem, inner_mem⟩
  · simp [kind]
  · exact (kind_of_mem_preorder (shaped.2 part part_mem)
      (kind_of_mem_partNodes shaped.1 (by simp [kind]) part_mem) inner inner_mem).2

/-- A missing part has no parts. -/
theorem partNodes_of_missing {node : Node} (kind : node.kind = .missing) : node.partNodes = [] := by
  cases node with
  | missing => rfl
  | _ => cases kind

/-- A value that can be compared with has no parts. -/
theorem partNodes_of_compared {node : Node} (kind : node.kind ∈ Kind.compared) :
    node.partNodes = [] := by
  cases node with
  | date | number | «variable» | literal => rfl
  | _ => simp [Node.kind, Kind.compared] at kind

theorem kind_ne_foreign_of_isShaped {node : Node} (shaped : node.IsShaped) :
    node.kind ≠ .foreign := by
  cases node with
  | foreign => cases shaped
  | _ => exact Kind.noConfusion

end Node

namespace Line

open Reader

/-- Whatever the reader finds is of one of the kinds and shaped throughout. -/
def Yields (reader : Reader Node) (kinds : List Kind) : Prop :=
  ∀ ⦃cursor node next⦄, reader.Finds cursor node next →
    node.kind ∈ kinds ∧ ∀ inner ∈ node.preorder, inner.IsShaped

namespace Yields

variable {reader : Reader Node} {kinds : List Kind}

theorem mono {others : List Kind} (yields : Yields reader kinds) (subset : kinds ⊆ others) :
    Yields reader others := fun _ _ _ finds =>
  ⟨subset (yields finds).1, (yields finds).2⟩

/-- What is made of the token it reads. -/
theorem token_map {token : Token} {build : Lexeme → Node} {kind : Kind}
    (kind_eq : ∀ lexeme, (build lexeme).kind = kind)
    (leaf : ∀ lexeme, (build lexeme).partNodes = [])
    (shaped : ∀ lexeme, (build lexeme).IsShaped) :
    Yields (Reader.token token >>= fun lexeme => Pure.pure (build lexeme)) [kind] := by
  intro cursor node next finds
  obtain ⟨lexeme, _, rfl⟩ := (finds_map_iff ..).mp finds
  refine ⟨List.mem_singleton.mpr (kind_eq lexeme), ?_⟩
  rw [Node.forall_mem_preorder_iff, leaf]
  exact ⟨shaped lexeme, by simp⟩

theorem firstOf {readers : List (Reader Node)}
    (each : ∀ reader ∈ readers, Yields reader kinds) : Yields (firstOf readers) kinds := by
  intro cursor node next finds
  obtain ⟨reader, member, found⟩ := exists_of_finds_firstOf finds
  exact each reader member found

/-- A part that may be missing. -/
theorem orMissing (yields : Yields reader kinds) {cursor next : Cursor} {value : Option Node}
    (finds : (optional reader).Finds cursor value next) (stop : Int) (message : String) :
    (orMissing value stop message).kind ∈ .missing :: kinds ∧
      ∀ inner ∈ (Line.orMissing value stop message).preorder, inner.IsShaped := by
  rcases (finds_optional_iff ..).mp finds with ⟨node, rfl, found⟩ | ⟨rfl, _⟩
  · exact ⟨List.mem_cons_of_mem _ (yields found).1, (yields found).2⟩
  · rw [Node.forall_mem_preorder_iff]
    exact ⟨List.mem_cons_self, trivial, by simp [Line.orMissing, Node.partNodes, Node.parts]⟩

end Yields

theorem yields_date : Yields date [.date] :=
  .token_map (fun _ => rfl) (fun _ => rfl) fun _ => trivial

theorem yields_number : Yields number [.number] :=
  .token_map (fun _ => rfl) (fun _ => rfl) fun _ => trivial

theorem yields_variableName : Yields variableName [.variable] :=
  .token_map (fun _ => rfl) (fun _ => rfl) fun _ => rfl

theorem yields_literal : Yields literal [.literal] :=
  .token_map (fun _ => rfl) (fun _ => rfl) fun _ => trivial

theorem yields_orWord : Yields orWord [.mark] :=
  .token_map (fun _ => rfl) (fun _ => rfl) fun _ => rfl

theorem yields_compared : Yields (firstOf [date, number, variableName, literal]) Kind.compared := by
  apply Yields.firstOf
  simp only [List.forall_mem_cons]
  exact ⟨yields_date.mono (by decide), yields_number.mono (by decide),
    yields_variableName.mono (by decide), yields_literal.mono (by decide), by simp⟩

theorem yields_criteria : Yields (firstOf [variableName, literal]) Kind.criteria := by
  apply Yields.firstOf
  simp only [List.forall_mem_cons]
  exact ⟨yields_variableName.mono (by decide), yields_literal.mono (by decide), by simp⟩

/-- A boundary that is a node is a value. -/
theorem kind_of_finds_boundary {cursor next : Cursor} {bound : Option Boundary}
    (finds : (optional boundary).Finds cursor bound next) :
    ∀ part ∈ bound.bind (·.node), part.kind ∈ Kind.boundaries ∧
      ∀ inner ∈ part.preorder, inner.IsShaped := by
  intro part part_mem
  obtain ⟨bound, rfl, part_eq⟩ := Option.bind_eq_some_iff.mp part_mem
  rw [finds_optional_some_iff, finds_boundary_iff] at finds
  rcases finds with ⟨node, found, rfl⟩ | ⟨_, ⟨node, found, rfl⟩ | ⟨_, ⟨node, found, rfl⟩ |
    ⟨_, lexeme, _, rfl⟩⟩⟩
  · obtain rfl := Option.some.inj part_eq
    exact yields_date.mono (by decide) found
  · obtain rfl := Option.some.inj part_eq
    exact yields_number.mono (by decide) found
  · obtain rfl := Option.some.inj part_eq
    exact yields_variableName.mono (by decide) found
  · cases part_eq

theorem yields_range : Yields range [.range] := by
  intro cursor node next finds
  obtain ⟨lower, front, lower_found, dots, back, _, upper, upper_found, rfl⟩ :=
    finds_range_iff.mp finds
  have parts (span : Span) :
      ∀ part ∈ (Node.range span (lower.bind (·.node)) (upper.bind (·.node))).partNodes,
        part.kind ∈ Kind.boundaries ∧ ∀ inner ∈ part.preorder, inner.IsShaped := by
    intro part member
    rw [Node.partNodes_range, List.mem_append, Option.mem_toList, Option.mem_toList] at member
    exact member.elim (kind_of_finds_boundary lower_found part)
      (kind_of_finds_boundary upper_found part)
  have kinds (span : Span) :
      (Node.range span (lower.bind (·.node)) (upper.bind (·.node))).IsShaped := by
    rw [Node.IsShaped, ← Node.partNodes_range span]
    exact fun part member => (parts span part member).1
  rw [Node.forall_mem_preorder_iff]
  exact ⟨List.mem_cons_self, kinds _, fun part member => (parts _ part member).2⟩

theorem yields_comparison : Yields comparison [.compare] := by
  intro cursor node next finds
  obtain ⟨operator, front, _, value, value_found, rfl⟩ := finds_comparison_iff.mp finds
  obtain ⟨kind_mem, shaped⟩ := yields_compared.orMissing value_found _ missingValue
  rw [Node.forall_mem_preorder_iff, Node.partNodes_compare, List.forall_mem_singleton]
  exact ⟨List.mem_cons_self, kind_mem, shaped⟩

theorem yields_qualifierValue : Yields qualifierValue Kind.qualifierValues := by
  apply Yields.firstOf
  simp only [List.forall_mem_cons]
  exact ⟨yields_range.mono (by decide), yields_comparison.mono (by decide),
    yields_date.mono (by decide), yields_number.mono (by decide),
    yields_variableName.mono (by decide), yields_literal.mono (by decide), by simp⟩

/-- A node with a word in front of its part. -/
private theorem shaped_of_named {node part : Node} {span : Span} {word : String}
    (parts_eq : node.partNodes = [.literal span word, part]) (shaped : node.IsShaped)
    (part_shaped : ∀ inner ∈ part.preorder, inner.IsShaped) :
    ∀ inner ∈ node.preorder, inner.IsShaped := by
  have word_shaped : ∀ inner ∈ (Node.literal span word).preorder, inner.IsShaped := by
    rw [Node.forall_mem_preorder_iff]
    exact ⟨trivial, by simp [Node.partNodes, Node.parts]⟩
  rw [Node.forall_mem_preorder_iff, parts_eq, List.forall_mem_cons, List.forall_mem_singleton]
  exact ⟨shaped, word_shaped, part_shaped⟩

theorem yields_qualifiedValue : Yields qualifiedValue [.qualified] := by
  intro cursor node next finds
  obtain ⟨dash, front, _, name, middle, _, colon, back, _, value, value_found, rfl⟩ :=
    finds_qualifiedValue_iff.mp finds
  obtain ⟨kind_mem, shaped⟩ := yields_qualifierValue.orMissing value_found _ missingValue
  exact ⟨List.mem_cons_self, shaped_of_named rfl ⟨rfl, kind_mem⟩ shaped⟩

theorem yields_sortDirective : Yields sortDirective [.sort] := by
  intro cursor node next finds
  obtain ⟨keyword, front, _, colon, back, _, criteria, criteria_found, rfl⟩ :=
    finds_sortDirective_iff.mp finds
  obtain ⟨kind_mem, shaped⟩ := yields_criteria.orMissing criteria_found _ missingCriteria
  exact ⟨List.mem_cons_self, shaped_of_named rfl ⟨rfl, kind_mem⟩ shaped⟩

theorem yields_item : Yields item Kind.items := by
  apply Yields.firstOf
  simp only [List.forall_mem_cons]
  exact ⟨yields_orWord.mono (by decide), yields_sortDirective.mono (by decide),
    yields_qualifiedValue.mono (by decide), yields_range.mono (by decide),
    yields_comparison.mono (by decide), yields_date.mono (by decide),
    yields_number.mono (by decide), yields_variableName.mono (by decide),
    yields_literal.mono (by decide), by simp⟩

/-- A query of items, or of one missing part. -/
theorem shaped_query {span : Span} {items : List Node} (nonempty : items ≠ [])
    (each : ∀ item ∈ items, item.kind ∈ .missing :: Kind.items ∧
      ∀ inner ∈ item.preorder, inner.IsShaped) :
    ∀ inner ∈ (Node.query span items).preorder, inner.IsShaped := by
  rw [Node.forall_mem_preorder_iff, Node.partNodes_query]
  exact ⟨⟨nonempty, fun item member => (each item member).1⟩,
    fun item member => (each item member).2⟩

theorem each_of_repeats {cursor final : Cursor} {items : List Node}
    (repeats : Repeats item cursor items final) :
    ∀ item ∈ items, item.kind ∈ .missing :: Kind.items ∧
      ∀ inner ∈ item.preorder, inner.IsShaped :=
  repeats.forall_mem fun finds =>
    ⟨List.mem_cons_of_mem _ (yields_item finds).1, (yields_item finds).2⟩

theorem each_missing (span : Span) (message : String) :
    ∀ item ∈ [Node.missing span message], item.kind ∈ .missing :: Kind.items ∧
      ∀ inner ∈ item.preorder, inner.IsShaped := by
  rw [List.forall_mem_singleton, Node.forall_mem_preorder_iff]
  exact ⟨List.mem_cons_self, trivial, by simp [Node.partNodes, Node.parts]⟩

theorem yields_query : Yields query [.query] := by
  intro cursor node next finds
  obtain ⟨first, others, repeats, rfl⟩ := finds_query_iff.mp finds
  exact ⟨List.mem_cons_self, shaped_query (List.cons_ne_nil _ _) (each_of_repeats repeats)⟩

theorem yields_definition : Yields definition [.definition] := by
  intro cursor node next finds
  obtain ⟨name, front, _, sign, back, _, items, repeats, rfl⟩ := finds_definition_iff.mp finds
  have value_shaped : (definedValue items sign.span.stop).kind = .query ∧
      ∀ inner ∈ (definedValue items sign.span.stop).preorder, inner.IsShaped := by
    cases items with
    | nil => exact ⟨rfl, shaped_query (List.cons_ne_nil _ _) (each_missing _ _)⟩
    | cons first others =>
        exact ⟨rfl, shaped_query (List.cons_ne_nil _ _) (each_of_repeats repeats)⟩
  have name_shaped : ∀ inner ∈ (Node.variable name.span name.text none).preorder,
      inner.IsShaped := by
    rw [Node.forall_mem_preorder_iff]
    exact ⟨rfl, by simp [Node.partNodes, Node.parts]⟩
  rw [Node.forall_mem_preorder_iff, Node.partNodes_definition, List.forall_mem_cons,
    List.forall_mem_singleton]
  exact ⟨List.mem_cons_self, ⟨rfl, value_shaped.1, rfl⟩, name_shaped, value_shaped.2⟩

theorem yields_line : Yields line [.definition, .query] := by
  intro cursor node next finds
  obtain ⟨back, definition | ⟨_, query⟩, _⟩ := finds_line_iff.mp finds
  · exact yields_definition.mono (by decide) definition
  · exact yields_query.mono (by decide) query

end Line

/-- The node of a line is a definition or a query, and shaped throughout. -/
theorem SourceLine.isShaped_node (line : SourceLine) :
    line.node.kind ∈ [.definition, .query] ∧ ∀ inner ∈ line.node.preorder, inner.IsShaped := by
  have moved {root : Node} (kind_mem : root.kind ∈ [.definition, .query])
      (shaped : ∀ inner ∈ root.preorder, inner.IsShaped) :
      (root.shift line.offset).kind ∈ [.definition, .query] ∧
        ∀ inner ∈ (root.shift line.offset).preorder, inner.IsShaped := by
    rw [Node.kind_shift, Node.preorder_shift, List.forall_mem_map]
    exact ⟨kind_mem, fun inner member => Node.isShaped_shift (shaped inner member) _⟩
  rcases Line.Reader.misses_or_finds Line.line ⟨0, line.content⟩ with misses | ⟨root, next, finds⟩
  · rw [node, Line.parse_of_misses misses]
    exact moved (by simp [rejected, Node.kind]) (Line.shaped_query (List.cons_ne_nil _ _)
      (Line.each_missing _ _))
  · rw [node, Line.parse_of_finds finds]
    exact moved (Line.yields_line finds).1 (Line.yields_line finds).2

/-- The nodes of a document but for itself are shaped. -/
theorem Document.isShaped_of_mem_lines {text : String} {line : Node}
    (member : line ∈ (ofText text).lines) :
    line.kind ∈ [.definition, .query] ∧ ∀ inner ∈ line.preorder, inner.IsShaped := by
  obtain ⟨source, _, rfl⟩ := List.mem_map.mp member
  exact source.isShaped_node

end SearchQuery
