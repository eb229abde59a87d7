import SearchQuery.Proofs.Validation.Found

/-!
# Moved trees

What is found in a tree moves with it: the same findings are made at the moved nodes, in the same
order, and a finding that points to another node points to the moved one.
-/

namespace SearchQuery

/-- The visit of the moved node. -/
def Visit.shift (distance : Int) (visit : Visit) : Visit :=
  { visit with node := visit.node.shift distance }

namespace Node

@[simp]
theorem word_shift (distance : Int) (node : Node) : (node.shift distance).word = node.word := by
  cases node <;> simp [shift, word, word?]

theorem parts_shift (distance : Int) (node : Node) :
    (node.shift distance).parts = node.parts.map (.shift distance) := by
  cases node with
  | range span lower upper => cases lower <;> cases upper <;> simp [shift, parts, Visit.shift]
  | _ => simp [shift, parts, Visit.shift, Function.comp_def]

/-- A moved tree is visited as it was before. -/
theorem visits_shift (distance : Int) (ofQualifier : Bool) (node : Node) :
    (node.shift distance).visits ofQualifier =
      (node.visits ofQualifier).map (.shift distance) := by
  induction node using forall_of_partNodes generalizing ofQualifier with
  | step node induction =>
      rw [visits_eq, parts_shift, visits_eq ofQualifier node, List.map_cons, List.flatMap_map,
        List.map_flatMap]
      congr 1
      exact List.flatMap_congr fun part part_mem =>
        induction part.node (List.mem_map_of_mem part_mem) part.ofQualifier

end Node

/-- The finding, with the node that it points to moved. -/
def Finding.shift (distance : Int) : Finding → Finding
  | .conflict earlier => .conflict (earlier.shift distance)
  | finding => finding

/-- The diagnostic, with its nodes moved. -/
def Diagnostic.shift (distance : Int) (diagnostic : Diagnostic) : Diagnostic :=
  ⟨diagnostic.node.shift distance, diagnostic.finding.shift distance⟩

/-- A moved diagnostic says the same. -/
theorem Diagnostic.message_shift (distance : Int) (diagnostic : Diagnostic) :
    (diagnostic.shift distance).message = diagnostic.message ∧
      (diagnostic.shift distance).kind = diagnostic.kind := by
  obtain ⟨node, finding⟩ := diagnostic
  cases finding <;> exact ⟨rfl, rfl⟩

namespace QueryState

/-- The state, with its nodes moved. -/
def shift (distance : Int) (state : QueryState) : QueryState :=
  { state with
    excluded := state.excluded.map fun entry => (entry.1, entry.2.shift distance) }

theorem excluder?_shift (distance : Int) (state : QueryState) (value : String) :
    (state.shift distance).excluder? value = (state.excluder? value).map (.shift distance) := by
  rw [excluder?, excluder?, shift]
  induction state.excluded with
  | nil => rfl
  | cons entry entries induction =>
      rw [List.map_cons, List.lookup_cons, List.lookup_cons]
      split <;> simp_all

theorem exclude_shift (distance : Int) (state : QueryState) (node : Node) (values : List String) :
    (state.shift distance).exclude (node.shift distance) values =
      (state.exclude node values).shift distance := by
  simp [exclude, shift, Function.comp_def]

theorem noteReference_shift (distance : Int) (state : QueryState) (node : Node) :
    (state.shift distance).noteReference (node.shift distance) =
      (state.noteReference node).shift distance := by
  cases node with
  | «variable» span name label => cases label <;> simp [Node.shift, noteReference, shift]
  | _ => simp [Node.shift, noteReference, shift]

end QueryState

namespace Validation

variable (table : SymbolTable) (distance : Int)

/-- What is found and the state behind it, with their nodes moved. -/
def shiftChecked (checked : List Diagnostic × QueryState) : List Diagnostic × QueryState :=
  (checked.1.map (.shift distance), checked.2.shift distance)

theorem isLike_shift (kind : Kind) (node : Node) :
    isLike kind (node.shift distance) = isLike kind node := by
  cases node with
  | range span lower upper => cases lower <;> cases upper <;> simp [Node.shift, isLike]
  | compare span operator value => simp [Node.shift, isLike]
  | _ => simp [Node.shift, isLike, Node.kind]

theorem hasType_shift (type : ValueType) (value : Node) :
    hasType table type (value.shift distance) = hasType table type value := by
  have like (kind : Kind) := isLike_shift distance kind value
  cases value <;> cases type <;> simp_all [Node.shift, hasType]

theorem checkType_shift (type : ValueType) (value : Node) :
    checkType table type (value.shift distance) =
      (checkType table type value).map (.shift distance) := by
  rw [checkType, checkType, hasType_shift]
  split <;> rfl

theorem checkSets_shift (sets : ValueSets) (state : QueryState) (node value : Node) :
    checkSets sets (state.shift distance) (node.shift distance) (value.shift distance) =
      shiftChecked distance (checkSets sets state node value) := by
  have word_eq : setValue (value.shift distance) = setValue value := by
    cases value <;> simp [Node.shift, setValue]
  rw [checkSets, checkSets, word_eq, state.excluder?_shift]
  cases state.excluder? (setValue value) with
  | some earlier => rfl
  | none =>
      dsimp only [Option.map_none]
      split
      · rw [QueryState.exclude_shift]
        rfl
      · rfl

theorem checkQualified_shift (state : QueryState) (node qualifier value : Node) :
    checkQualified table (state.shift distance) (node.shift distance) (qualifier.shift distance)
        (value.shift distance) =
      shiftChecked distance (checkQualified table state node qualifier value) := by
  rw [checkQualified, checkQualified, Node.word_shift]
  cases table.qualifierNamed? qualifier.word with
  | none => rfl
  | some info =>
      obtain ⟨name, expects⟩ := info
      cases expects with
      | oneOf sets => exact checkSets_shift distance sets state node value
      | scalar type => simp only [checkType_shift, shiftChecked]

theorem checkNode_shift (state : QueryState) (visit : Visit) :
    checkNode table (state.shift distance) (visit.shift distance) =
      shiftChecked distance (checkNode table state visit) := by
  obtain ⟨node, ofQualifier⟩ := visit
  cases node with
  | qualified span negated qualifier value =>
      have checked := checkQualified_shift table distance (state.noteReference value)
        (.qualified span negated qualifier value) qualifier value
      rw [← QueryState.noteReference_shift] at checked
      simpa only [checkNode, Visit.shift, Node.shift] using checked
  | «variable» span name label =>
      have same : isReference (state.shift distance)
          ⟨.variable (span.shift distance) name label, ofQualifier⟩ label =
          isReference state ⟨.variable span name label, ofQualifier⟩ label := rfl
      simp only [checkNode, Visit.shift, Node.shift, same]
      split <;> simp [shiftChecked, Diagnostic.shift, Node.shift, Finding.shift]
  | range span lower upper =>
      cases lower with
      | none => simp [checkNode, Visit.shift, Node.shift, shiftChecked]
      | some lower =>
          cases upper with
          | none => simp [checkNode, Visit.shift, Node.shift, shiftChecked]
          | some upper =>
              simp only [checkNode, Visit.shift, Node.shift, Node.shiftOption_eq_map,
                Option.map_some, Node.kind_shift]
              split <;> simp [shiftChecked, Diagnostic.shift, Node.shift, Finding.shift]
  | sort span keyword criteria =>
      cases criteria with
      | literal place text =>
          simp only [checkNode, Visit.shift, Node.shift]
          split <;> simp [shiftChecked, Diagnostic.shift, Node.shift, Finding.shift]
      | _ => simp [checkNode, Visit.shift, Node.shift, shiftChecked]
  | _ => simp [checkNode, Visit.shift, Node.shift, shiftChecked, Diagnostic.shift, Finding.shift]

/-- The same is found at moved nodes. -/
theorem checkVisits_shift (state : QueryState) (visits : List Visit) :
    checkVisits table (state.shift distance) (visits.map (.shift distance)) =
      (checkVisits table state visits).map (.shift distance) := by
  induction visits generalizing state with
  | nil => rfl
  | cons visit visits induction =>
      rw [List.map_cons, checkVisits, checkVisits, checkNode_shift]
      dsimp only [shiftChecked]
      rw [induction, List.map_append]

theorem checkDefined_shift (name : String) (node : Node) :
    checkDefined name (node.shift distance) =
      (checkDefined name node).map (.shift distance) := by
  cases node with
  | mark span token => cases token <;> rfl
  | «variable» span other label =>
      rw [Node.shift, checkDefined, checkDefined]
      split <;> simp [Diagnostic.shift, Node.shift, Finding.shift]
  | _ => simp [Node.shift, checkDefined]

theorem foundAt_shift (node : Node) :
    foundAt table (node.shift distance) = (foundAt table node).map (.shift distance) := by
  cases node with
  | query span items =>
      have visits_eq := Node.visits_shift distance false (.query span items)
      rw [Node.shift] at visits_eq ⊢
      rw [foundAt, visits_eq, foundAt, ← checkVisits_shift]
      rfl
  | definition span name value label =>
      rw [Node.shift, foundAt, Node.visits_shift, foundAt, Node.word_shift, List.flatMap_map,
        List.map_flatMap]
      simp only [Visit.shift, checkDefined_shift]
  | _ => simp [Node.shift, foundAt]

/-- What is found in a tree moves with it. -/
theorem foundIn_shift (root : Node) :
    foundIn table (root.shift distance) = (foundIn table root).map (.shift distance) := by
  rw [foundIn, foundIn, Node.preorder_shift, List.flatMap_map, List.map_flatMap]
  simp only [foundAt_shift]

end Validation

end SearchQuery
