import SearchQuery.Proofs.Line.Shape

/-!
# What is said of missing parts

Whatever is missing in a line, or cannot be read there, is said to be expected.  In the parts of a
construct this is what the construct lacks, and in a line that cannot be read it is what was looked
for at the error.
-/

namespace SearchQuery

/-- If the node is a missing part, its message says what was expected. -/
def Node.TellsExpected (node : Node) : Prop :=
  ∀ span message, node = .missing span message → ∃ expected, message = "Expected " ++ expected

namespace Line

open Reader Node

/-- Every missing part of whatever the reader finds says what was expected. -/
def Tells (reader : Reader Node) : Prop :=
  ∀ ⦃cursor node next⦄, reader.Finds cursor node next → ∀ inner ∈ node.preorder, inner.TellsExpected

theorem tellsExpected_of_kind {node : Node} (kind : node.kind ≠ .missing) : node.TellsExpected := by
  rintro span message rfl
  exact absurd rfl kind

/-- A node tells what is missing in it if its parts do. -/
theorem tells_of_partNodes {node : Node} (kind : node.kind ≠ .missing)
    (parts : ∀ part ∈ node.partNodes, ∀ inner ∈ part.preorder, inner.TellsExpected) :
    ∀ inner ∈ node.preorder, inner.TellsExpected :=
  forall_mem_preorder_iff.mpr ⟨tellsExpected_of_kind kind, parts⟩

/-- Nothing is missing in a word. -/
theorem tells_of_compared {node : Node} (kind_mem : node.kind ∈ Kind.compared) :
    ∀ inner ∈ node.preorder, inner.TellsExpected := by
  refine tells_of_partNodes (fun missing => ?_) (by simp [partNodes_of_compared kind_mem])
  simp [missing, Kind.compared] at kind_mem

/-- A missing part on its own. -/
theorem tells_missing {message : String} (told : ∃ expected, message = "Expected " ++ expected)
    (span : Span) : ∀ inner ∈ (Node.missing span message).preorder, inner.TellsExpected := by
  rw [forall_mem_preorder_iff]
  refine ⟨?_, by simp [partNodes, parts]⟩
  rintro _ _ ⟨⟩
  exact told

namespace Tells

variable {reader : Reader Node}

theorem of_yields {kinds : List Kind} (yields : Yields reader kinds)
    (subset : kinds ⊆ Kind.compared) : Tells reader := fun _ _ _ finds =>
  tells_of_compared (subset (yields finds).1)

theorem firstOf {readers : List (Reader Node)} (each : ∀ reader ∈ readers, Tells reader) :
    Tells (firstOf readers) := by
  intro cursor node next finds
  obtain ⟨reader, member, found⟩ := exists_of_finds_firstOf finds
  exact each reader member found

theorem orMissing (tells : Tells reader) {cursor next : Cursor} {value : Option Node}
    (finds : (optional reader).Finds cursor value next) (stop : Int) {message : String}
    (told : ∃ expected, message = "Expected " ++ expected) :
    ∀ inner ∈ (Line.orMissing value stop message).preorder, inner.TellsExpected := by
  rcases (finds_optional_iff ..).mp finds with ⟨node, rfl, found⟩ | ⟨rfl, _⟩
  · exact tells found
  · exact tells_missing told _

end Tells

theorem missingValue_tells : ∃ expected, missingValue = "Expected " ++ expected := ⟨"value", rfl⟩

theorem missingCriteria_tells : ∃ expected, missingCriteria = "Expected " ++ expected :=
  ⟨"sort criteria", rfl⟩

theorem tells_range : Tells range := by
  intro cursor node next finds
  obtain ⟨kind_mem, shaped⟩ := yields_range finds
  have node_shaped := shaped node (self_mem_preorder node)
  cases node with
  | range span lower upper =>
      refine tells_of_partNodes Kind.noConfusion fun part part_mem => tells_of_compared ?_
      rw [partNodes_range] at part_mem
      exact Kind.boundaries_subset (node_shaped part part_mem)
  | _ => simp [Node.kind] at kind_mem

theorem tells_comparison : Tells comparison := by
  intro cursor node next finds
  obtain ⟨operator, front, _, value, value_found, rfl⟩ := finds_comparison_iff.mp finds
  refine tells_of_partNodes Kind.noConfusion ?_
  rw [partNodes_compare, List.forall_mem_singleton]
  exact (Tells.of_yields yields_compared (List.Subset.refl _)).orMissing value_found _
    missingValue_tells

theorem tells_qualifierValue : Tells qualifierValue := by
  apply Tells.firstOf
  simp only [List.forall_mem_cons]
  exact ⟨tells_range, tells_comparison, .of_yields yields_date (by decide),
    .of_yields yields_number (by decide), .of_yields yields_variableName (by decide),
    .of_yields yields_literal (by decide), by simp⟩

/-- A node with a word in front of its part tells what is missing if the part does. -/
private theorem tells_of_named {node part : Node} {span : Span} {word : String}
    (parts_eq : node.partNodes = [.literal span word, part]) (kind : node.kind ≠ .missing)
    (tells : ∀ inner ∈ part.preorder, inner.TellsExpected) :
    ∀ inner ∈ node.preorder, inner.TellsExpected := by
  refine tells_of_partNodes kind ?_
  rw [parts_eq, List.forall_mem_cons, List.forall_mem_singleton]
  exact ⟨tells_of_compared (by simp [Node.kind, Kind.compared]), tells⟩

theorem tells_qualifiedValue : Tells qualifiedValue := by
  intro cursor node next finds
  obtain ⟨dash, front, _, name, middle, _, colon, back, _, value, value_found, rfl⟩ :=
    finds_qualifiedValue_iff.mp finds
  exact tells_of_named (partNodes_qualified ..) Kind.noConfusion
    (tells_qualifierValue.orMissing value_found _ missingValue_tells)

theorem tells_sortDirective : Tells sortDirective := by
  intro cursor node next finds
  obtain ⟨keyword, front, _, colon, back, _, criteria, criteria_found, rfl⟩ :=
    finds_sortDirective_iff.mp finds
  exact tells_of_named (partNodes_sort ..) Kind.noConfusion
    ((Tells.of_yields yields_criteria (by decide)).orMissing criteria_found _
      missingCriteria_tells)

theorem tells_orWord : Tells orWord := by
  intro cursor node next finds
  obtain ⟨kind_mem, _⟩ := yields_orWord finds
  have kind := List.mem_singleton.mp kind_mem
  cases node with
  | mark => exact tells_of_partNodes Kind.noConfusion (by simp [partNodes, parts])
  | _ => cases kind

theorem tells_item : Tells item := by
  apply Tells.firstOf
  simp only [List.forall_mem_cons]
  exact ⟨tells_orWord, tells_sortDirective, tells_qualifiedValue, tells_range, tells_comparison,
    .of_yields yields_date (by decide), .of_yields yields_number (by decide),
    .of_yields yields_variableName (by decide), .of_yields yields_literal (by decide), by simp⟩

theorem tells_queryOf {cursor final : Cursor} {first : Node} {others : List Node}
    (repeats : Repeats item cursor (first :: others) final) :
    ∀ inner ∈ (queryOf first others).preorder, inner.TellsExpected := by
  refine tells_of_partNodes Kind.noConfusion ?_
  rw [queryOf, partNodes_query]
  exact repeats.forall_mem fun finds => tells_item finds

/-- The query of a missing part tells what is missing if the part does. -/
theorem tells_query_missing {message : String}
    (told : ∃ expected, message = "Expected " ++ expected) (span place : Span) :
    ∀ inner ∈ (Node.query span [.missing place message]).preorder, inner.TellsExpected := by
  refine tells_of_partNodes Kind.noConfusion ?_
  rw [partNodes_query, List.forall_mem_singleton]
  exact tells_missing told place

theorem tells_line : Tells line := by
  intro cursor node next finds
  obtain ⟨back, found | ⟨_, found⟩, _⟩ := finds_line_iff.mp finds
  · obtain ⟨name, front, _, sign, middle, _, items, repeats, rfl⟩ :=
      finds_definition_iff.mp found
    refine tells_of_partNodes Kind.noConfusion ?_
    rw [partNodes_definition, List.forall_mem_cons, List.forall_mem_singleton]
    refine ⟨tells_of_compared (by simp [Node.kind, Kind.compared]), ?_⟩
    cases items with
    | nil => exact tells_query_missing missingValue_tells _ _
    | cons first others => exact tells_queryOf repeats
  · obtain ⟨first, others, repeats, rfl⟩ := finds_query_iff.mp found
    exact tells_queryOf repeats

end Line

theorem Node.tellsExpected_shift {node : Node} (tells : node.TellsExpected) (distance : Int) :
    (node.shift distance).TellsExpected := by
  intro span message shift_eq
  cases node with
  | missing place text =>
      obtain ⟨_, rfl⟩ := Node.missing.inj shift_eq
      exact tells place text rfl
  | _ => simp [shift] at shift_eq

/-- Every missing part of a line says what was expected, whether the line is read or not. -/
theorem SourceLine.tellsExpected (line : SourceLine) :
    ∀ inner ∈ line.node.preorder, inner.TellsExpected := by
  have moved {root : Node} (tells : ∀ inner ∈ root.preorder, inner.TellsExpected) :
      ∀ inner ∈ (root.shift line.offset).preorder, inner.TellsExpected := by
    rw [Node.preorder_shift, List.forall_mem_map]
    exact fun inner member => Node.tellsExpected_shift (tells inner member) _
  rcases Line.line.misses_or_finds ⟨0, line.content⟩ with misses | ⟨root, next, finds⟩
  · rw [node, Line.parse_of_misses misses]
    exact moved (Line.tells_query_missing ⟨_, rfl⟩ _ _)
  · rw [node, Line.parse_of_finds finds]
    exact moved (Line.tells_line finds)

end SearchQuery
