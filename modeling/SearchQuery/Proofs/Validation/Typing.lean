import SearchQuery.Proofs.Line.Shape
import SearchQuery.Proofs.Node.Text
import SearchQuery.Validation.Query

/-!
# Types and kinds

Whether a value is a number or a date is told by the kinds of its nodes, and the type that is worked
out for it tells the same.
-/

namespace SearchQuery

open Node

namespace Validation

variable {table : SymbolTable}

/-- For numbers and for dates there is a kind of node, which tells the type of a word that is no
variable. -/
theorem exists_kind_of_type (table : SymbolTable) {type : ValueType}
    (type_mem : type ∈ [.number, .date]) :
    ∃ kind ∈ [Kind.number, .date],
      (∀ value : Node, value.kind ≠ .variable → hasType table type value = isLike kind value) ∧
      ∀ part : Node, part.kind ∈ .missing :: Kind.compared → part.kind ≠ .variable →
        (table.typeOf part = type ↔ part.kind = kind) := by
  have word {kind : Kind} (tells : ∀ span text, (table.typeOf (.literal span text) = type ↔
        Kind.literal = kind) ∧ (table.typeOf (.number span text) = type ↔ Kind.number = kind) ∧
        (table.typeOf (.date span text) = type ↔ Kind.date = kind) ∧
        (table.typeOf (.missing span text) = type ↔ Kind.missing = kind)) (part : Node)
      (part_kind : part.kind ∈ .missing :: Kind.compared) (other : part.kind ≠ .variable) :
      table.typeOf part = type ↔ part.kind = kind := by
    cases part with
    | literal span text => exact (tells span text).1
    | number span text => exact (tells span text).2.1
    | date span text => exact (tells span text).2.2.1
    | missing span text => exact (tells span text).2.2.2
    | «variable» => exact absurd rfl other
    | _ => simp [Node.kind, Kind.compared] at part_kind
  simp only [List.mem_cons, List.not_mem_nil, or_false] at type_mem
  rcases type_mem with rfl | rfl
  · refine ⟨.number, by decide, fun value other => ?_, word (by simp [SymbolTable.typeOf])⟩
    cases value <;> first | rfl | exact absurd rfl other
  · refine ⟨.date, by decide, fun value other => ?_, word (by simp [SymbolTable.typeOf])⟩
    cases value <;> first | rfl | exact absurd rfl other

theorem isLike_range_iff {kind : Kind} (other : kind ≠ .range) {span : Span}
    {lower upper : Option Node} :
    isLike kind (.range span lower upper) = true ↔
      ∃ part ∈ lower.toList ++ upper.toList, part.kind = kind := by
  cases lower <;> cases upper <;> simp [isLike, other]

/-- A range with bounds of one kind is of a type if a bound is of the kind that tells the type. -/
theorem typeOf_range_iff {kind : Kind} {type : ValueType} (known : type ≠ .unknown) {span : Span}
    {lower upper : Option Node}
    (told : ∀ part ∈ lower.toList ++ upper.toList, table.typeOf part = type ↔ part.kind = kind)
    (balanced : ∀ left right, lower = some left → upper = some right → left.kind = right.kind) :
    table.typeOf (.range span lower upper) = type ↔
      ∃ part ∈ lower.toList ++ upper.toList, part.kind = kind := by
  match lower, upper with
  | none, none => simp [SymbolTable.typeOf, known.symm]
  | none, some upper =>
      rw [SymbolTable.typeOf, told upper (by simp)]
      simp
  | some lower, none =>
      rw [SymbolTable.typeOf, told lower (by simp)]
      simp
  | some lower, some upper =>
      rw [SymbolTable.typeOf, told lower (by simp)]
      simp [balanced lower upper rfl rfl]

/-- Of a value without variables, the type tells the same as the kinds of its nodes, if it is not a
range from one kind to another. -/
theorem hasType_iff_typeOf_eq {value : Node}
    (kind_mem : value.kind ∈ .missing :: Kind.qualifierValues) (shaped : value.IsShaped)
    (named : value.names = [])
    (balanced : ∀ span lower upper, value = .range span (some lower) (some upper) →
      lower.kind = upper.kind) {type : ValueType} (type_mem : type ∈ [.number, .date]) :
    hasType table type value = true ↔ table.typeOf value = type := by
  obtain ⟨kind, scalar_mem, typed, told⟩ := exists_kind_of_type table type_mem
  have no_variable {node : Node} (unnamed : node.names = []) : node.kind ≠ .variable := by
    intro isVariable
    cases node with
    | «variable» span name label => simp [names_eq, variableName?] at unnamed
    | _ => cases isVariable
  have part_told {part : Node} (part_mem : part ∈ value.partNodes)
      (part_kind : part.kind ∈ .missing :: Kind.compared) :
      table.typeOf part = type ↔ part.kind = kind := by
    refine told part part_kind (no_variable (List.eq_nil_iff_forall_not_mem.mpr ?_))
    exact forall_mem_names_part (by simp [named]) part_mem
  rw [typed value (no_variable named)]
  cases value with
  | compare span operator part =>
      rw [SymbolTable.typeOf, part_told (by simp) shaped]
      have other : kind ≠ .compare := ne_of_mem_of_not_mem scalar_mem (by decide)
      simp [isLike, other]
  | range span lower upper =>
      have bounds : Kind.boundaries ⊆ .missing :: Kind.compared :=
        List.subset_cons_of_subset _ Kind.boundaries_subset
      have bound_told : ∀ part ∈ lower.toList ++ upper.toList,
          table.typeOf part = type ↔ part.kind = kind := fun part part_mem =>
        part_told (by rwa [partNodes_range]) (bounds (shaped part part_mem))
      rw [isLike_range_iff (ne_of_mem_of_not_mem scalar_mem (by decide)),
        typeOf_range_iff (ne_of_mem_of_not_mem type_mem (by decide)) bound_told]
      rintro left right rfl rfl
      exact balanced span left right rfl
  | «variable» => exact absurd rfl (no_variable named)
  | literal | number | date | missing =>
      rw [told _ (by simp [Node.kind, Kind.compared]) (by simp [Node.kind])]
      simp [isLike]
  | _ => simp [Node.kind, Kind.qualifierValues] at kind_mem

/-- What is found at the value of a qualifier that expects a type is whether it is of that type. -/
theorem map_message_checkNode {type : ValueType} {qualifier : Node}
    (expects : (table.qualifierNamed? qualifier.word).map (·.expects) = some (.scalar type))
    (state : QueryState) (span : Span) (negated ofQualifier : Bool) (value : Node) :
    (checkNode table state ⟨.qualified span negated qualifier value, ofQualifier⟩).1.map
        (·.message) =
      if hasType table type value then [] else ["Invalid value, expected " ++ type.name] := by
  obtain ⟨info, info_eq, expects_eq⟩ := Option.map_eq_some_iff.mp expects
  simp only [checkNode, checkQualified, info_eq, expects_eq, checkType]
  split <;> rfl

end Validation

end SearchQuery
