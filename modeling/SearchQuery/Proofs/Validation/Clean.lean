import SearchQuery.Proofs.Document.Totality
import SearchQuery.Proofs.Line.Shape
import SearchQuery.Proofs.Validation.ItemOrder

/-!
# Documents without findings

In a document with which nothing is wrong, no definition refers to the variable that it defines, and
every variable is bound.  There is one exception: where the empty text is in a set of values, it
stands for any variable, bound or not.
-/

namespace SearchQuery

namespace Node

/-- No node of a tree that is read stands in it twice, since none has a label. -/
theorem hasDistinctNodes_of_isShaped {root : Node}
    (shaped : ∀ inner ∈ root.preorder, inner.IsShaped) : root.HasDistinctNodes := by
  have unlabelled : root.preorder.filterMap label? = [] := by
    rw [List.filterMap_eq_nil_iff]
    intro inner member
    have := shaped inner member
    cases inner <;> simp_all [IsShaped, label?]
  rw [HasDistinctNodes, unlabelled]
  exact List.nodup_nil

/-- What is visited as the value of a qualifier is one. -/
theorem exists_qualified_of_ofQualifier {root node : Node}
    (visit_mem : ⟨node, true⟩ ∈ root.visits false) :
    ∃ parent ∈ root.visits false, ∃ span negated qualifier,
      parent.node = .qualified span negated qualifier node := by
  rcases eq_root_or_exists_parent visit_mem with isRoot | ⟨parent, parent_mem, part_mem⟩
  · cases isRoot
  · refine ⟨parent, parent_mem, ?_⟩
    cases node_eq : parent.node with
    | qualified span negated qualifier value =>
        simp only [node_eq, parts, List.mem_cons, Visit.mk.injEq, Bool.true_eq_false, and_false,
          and_true, List.not_mem_nil, or_false, false_or] at part_mem
        exact ⟨span, negated, qualifier, by rw [part_mem]⟩
    | _ => simp [node_eq, parts] at part_mem

theorem mem_names_iff {root : Node} {name : String} :
    name ∈ root.names ↔ ∃ span label, .variable span name label ∈ root.preorder := by
  rw [names, List.mem_filterMap]
  constructor
  · rintro ⟨node, member, name_eq⟩
    cases node with
    | «variable» span other label =>
        obtain rfl := Option.some.inj name_eq
        exact ⟨span, label, member⟩
    | _ => cases name_eq
  · rintro ⟨span, label, member⟩
    exact ⟨_, member, rfl⟩

end Node

namespace Validation

variable {table : SymbolTable}

/-- Nothing is found at any node of the lines. -/
theorem foundAt_eq_nil {text : String} (clean : ofDocument table (.ofText text) = .ok [])
    {line node : Node} (line_mem : line ∈ (Document.ofText text).lines)
    (member : node ∈ line.preorder) : foundAt table node = [] := by
  rw [ofDocument_eq table (Document.hasNodesOnly_ofText text), Except.ok.injEq,
    List.flatMap_eq_nil_iff] at clean
  exact List.flatMap_eq_nil_iff.mp (clean line line_mem) node member

/-- A definition does not refer to the variable that it defines. -/
theorem ne_word_of_mem_names {span : Span} {name value : Node} {label : Option Nat}
    (nothing : foundAt table (.definition span name value label) = []) {other : String}
    (member : other ∈ value.names) : other ≠ name.word := by
  obtain ⟨place, other_label, node_mem⟩ := Node.mem_names_iff.mp member
  obtain ⟨visit, visit_mem, node_eq⟩ := List.mem_map.mp node_mem
  have unfound := List.flatMap_eq_nil_iff.mp nothing visit visit_mem
  rw [node_eq, checkDefined] at unfound
  intro same
  simp [same] at unfound

/-- Nothing is found at any node of a query by itself. -/
theorem checkNode_eq_nil {query : Node} (isQuery : query.kind = .query)
    (shaped : ∀ inner ∈ query.preorder, inner.IsShaped) (nothing : foundAt table query = []) :
    ∀ visit ∈ query.visits false, (checkNode table .initial visit).1 = [] := by
  cases query with
  | query span items =>
      have distinct := Node.hasDistinctNodes_of_isShaped shaped
      exact ((checkVisits_eq_nil_iff (sparesNone_initial distinct)).mp nothing).1
  | _ => cases isQuery

/-- A variable that is the value of a qualifier is bound, unless the empty text is in a set of
values. -/
theorem isSome_of_qualified (sets : ∀ set ∈ table.valueSets, "" ∉ set) {visit : Visit}
    {span place : Span} {negated : Bool} {qualifier : Node} {name : String} {label : Option Nat}
    (node_eq : visit.node = .qualified span negated qualifier (.variable place name label))
    (nothing : (checkNode table .initial visit).1 = []) :
    (table.variableNamed? name).isSome = true := by
  cases setsOf : setsOf? table visit.node with
  | some found =>
      have isUse : useOf? table visit = some ⟨visit.node, found, []⟩ := by simp [useOf?, setsOf]
      obtain ⟨set, set_mem, word_mem⟩ := (checkNode_initial_of_useOf? isUse).mp nothing
      have empty_word : SetUse.word ⟨visit.node, found, []⟩ = "" := by rw [node_eq]; rfl
      rw [empty_word] at word_mem
      exact absurd word_mem (sets set (mem_valueSets_of_setsOf? setsOf set set_mem))
  | none =>
      obtain ⟨node, ofQualifier⟩ := visit
      obtain rfl : node = _ := node_eq
      simp only [setsOf?] at setsOf
      simp only [checkNode, checkQualified] at nothing
      cases resolved : table.qualifierNamed? qualifier.word with
      | none => simp [resolved] at nothing
      | some info =>
          obtain ⟨_, expects⟩ := info
          cases expects with
          | oneOf found => simp [resolved] at setsOf
          | scalar type =>
              have typed : hasType table type (.variable place name label) = true := by
                simpa [resolved, checkType] using nothing
              rw [hasType, Option.any_eq_true_iff_get] at typed
              exact typed.1

/-- Every variable of a query is bound, unless the empty text is in a set of values. -/
theorem isSome_variableNamed? (sets : ∀ set ∈ table.valueSets, "" ∉ set) {query : Node}
    (isQuery : query.kind = .query) (shaped : ∀ inner ∈ query.preorder, inner.IsShaped)
    (nothing : foundAt table query = []) {name : String} (member : name ∈ query.names) :
    (table.variableNamed? name).isSome = true := by
  have unfound := checkNode_eq_nil isQuery shaped nothing
  obtain ⟨span, label, node_mem⟩ := Node.mem_names_iff.mp member
  obtain rfl : label = none := shaped _ node_mem
  obtain ⟨⟨node, ofQualifier⟩, visit_mem, node_eq⟩ := List.mem_map.mp node_mem
  obtain rfl : node = _ := node_eq
  cases ofQualifier with
  | true =>
      obtain ⟨parent, parent_mem, _, _, _, parent_eq⟩ :=
        Node.exists_qualified_of_ofQualifier visit_mem
      exact isSome_of_qualified sets parent_eq (unfound parent parent_mem)
  | false =>
      by_contra unbound
      have found := unfound _ visit_mem
      simp [checkNode, isReference, unbound] at found

end Validation

end SearchQuery
