import SearchQuery.Proofs.Validation.Exclusion

/-!
# What is reported at a node

Whatever is found when a node of a query is visited is reported for one of a few reasons, each with
its conditions.  No visit finds more than one thing.
-/

namespace SearchQuery.Validation

/-- The reasons for which something is found when a node is visited. -/
inductive Reports (table : SymbolTable) : Visit → Diagnostic → Prop
  | unknownQualifier {span : Span} {negated ofQualifier : Bool} {qualifier value : Node}
      (unbound : table.qualifierNamed? qualifier.word = none) :
      Reports table ⟨.qualified span negated qualifier value, ofQualifier⟩
        ⟨qualifier, .unknownQualifier qualifier.word⟩
  | conflict {span : Span} {negated ofQualifier : Bool} {qualifier value : Node}
      {sets : ValueSets} (earlier : Node)
      (expects : (table.qualifierNamed? qualifier.word).map (·.expects) = some (.oneOf sets)) :
      Reports table ⟨.qualified span negated qualifier value, ofQualifier⟩
        ⟨.qualified span negated qualifier value, .conflict earlier⟩
  | unknownValue {span : Span} {negated ofQualifier : Bool} {qualifier value : Node}
      {sets : ValueSets}
      (expects : (table.qualifierNamed? qualifier.word).map (·.expects) = some (.oneOf sets))
      (unknown : ∀ set ∈ sets, setValue value ∉ set) :
      Reports table ⟨.qualified span negated qualifier value, ofQualifier⟩
        ⟨value, .unknownValue sets⟩
  | invalidValue {span : Span} {negated ofQualifier : Bool} {qualifier value : Node}
      {type : ValueType}
      (expects : (table.qualifierNamed? qualifier.word).map (·.expects) = some (.scalar type))
      (other : hasType table type value = false) :
      Reports table ⟨.qualified span negated qualifier value, ofQualifier⟩
        ⟨value, .invalidValue type⟩
  | unknownVariable {span : Span} {name : String} {label : Option Nat}
      (unbound : table.variableNamed? name = none) :
      Reports table ⟨.variable span name label, false⟩
        ⟨.variable span name label, .unknownVariable⟩
  | unbalancedRange {span : Span} {lower upper : Node} {ofQualifier : Bool}
      (kinds : lower.kind ≠ upper.kind) :
      Reports table ⟨.range span (some lower) (some upper), ofQualifier⟩
        ⟨.range span (some lower) (some upper), .unbalancedRange⟩
  | unknownCriteria {span place : Span} {keyword : Node} {text : String} {ofQualifier : Bool}
      (unknown : text ∉ sortValues) :
      Reports table ⟨.sort span keyword (.literal place text), ofQualifier⟩
        ⟨.literal place text, .unknownCriteria⟩
  | missing {span : Span} {message : String} {ofQualifier : Bool} :
      Reports table ⟨.missing span message, ofQualifier⟩
        ⟨.missing span message, .missing message⟩

variable {table : SymbolTable} {state : QueryState}

/-- Everything that a list of diagnostics says is reported at a visit, and it is one thing at
most. -/
structure IsReport (table : SymbolTable) (visit : Visit) (found : List Diagnostic) : Prop where
  /-- There is no more than one diagnostic. -/
  length_le : found.length ≤ 1
  /-- Each diagnostic has its reason. -/
  reports : ∀ diagnostic ∈ found, Reports table visit diagnostic

theorem isReport_nil (visit : Visit) : IsReport table visit [] :=
  ⟨Nat.zero_le _, by simp⟩

theorem Reports.isReport {visit : Visit} {diagnostic : Diagnostic}
    (reports : Reports table visit diagnostic) : IsReport table visit [diagnostic] :=
  ⟨Nat.le_refl _, by simpa using reports⟩

theorem isReport_checkSets {span : Span} {negated ofQualifier : Bool} {qualifier value : Node}
    {sets : ValueSets}
    (expects : (table.qualifierNamed? qualifier.word).map (·.expects) = some (.oneOf sets)) :
    IsReport table ⟨.qualified span negated qualifier value, ofQualifier⟩
      (checkSets sets state (.qualified span negated qualifier value) value).1 := by
  rw [checkSets]
  cases excluder_eq : state.excluder? (setValue value) with
  | some earlier => exact (Reports.conflict earlier expects).isReport
  | none =>
      cases set_eq : sets.find? (setValue value ∈ ·) with
      | some set => exact isReport_nil _
      | none => exact (Reports.unknownValue expects (by simpa using set_eq)).isReport

theorem isReport_checkQualified {span : Span} {negated ofQualifier : Bool}
    {qualifier value : Node} :
    IsReport table ⟨.qualified span negated qualifier value, ofQualifier⟩
      (checkQualified table state (.qualified span negated qualifier value) qualifier value).1 := by
  rw [checkQualified]
  cases info_eq : table.qualifierNamed? qualifier.word with
  | none => exact (Reports.unknownQualifier info_eq).isReport
  | some info =>
      dsimp only
      cases expects : info.expects with
      | oneOf sets => exact isReport_checkSets (by rw [info_eq, Option.map_some, expects])
      | scalar type =>
          dsimp only
          rw [checkType]
          split
          case isTrue => exact isReport_nil _
          case isFalse other =>
            exact (Reports.invalidValue (by rw [info_eq, Option.map_some, expects])
              (Bool.eq_false_iff.mpr other)).isReport

/-- Whatever is found when a node is visited has its reason, and is one thing at most. -/
theorem isReport_checkNode (table : SymbolTable) (state : QueryState) (visit : Visit) :
    IsReport table visit (checkNode table state visit).1 := by
  obtain ⟨node, ofQualifier⟩ := visit
  cases node with
  | qualified span negated qualifier value => exact isReport_checkQualified
  | «variable» span name label =>
      simp only [checkNode]
      split
      case isTrue => exact isReport_nil _
      case isFalse unspared =>
        simp only [isReference, Bool.or_eq_true, not_or, Bool.not_eq_true,
          Option.isSome_eq_false_iff, Option.isNone_iff_eq_none] at unspared
        obtain ⟨⟨rfl, _⟩, unbound⟩ := unspared
        exact (Reports.unknownVariable unbound).isReport
  | range span lower upper =>
      cases lower <;> cases upper
      case some.some lower upper =>
        simp only [checkNode]
        split
        case isTrue => exact isReport_nil _
        case isFalse kinds => exact (Reports.unbalancedRange (by simpa using kinds)).isReport
      all_goals exact isReport_nil _
  | sort span keyword criteria =>
      cases criteria with
      | literal place text =>
          simp only [checkNode]
          split
          case isTrue => exact isReport_nil _
          case isFalse unknown => exact (Reports.unknownCriteria unknown).isReport
      | _ => exact isReport_nil _
  | missing span message => exact Reports.missing.isReport
  | _ => exact isReport_nil _

/-- Whatever is found at one of some visits has its reason there. -/
theorem isReport_of_mem_checkEach {visits : List Visit} {checked : Visit × List Diagnostic}
    (member : checked ∈ checkEach table state visits) : IsReport table checked.1 checked.2 := by
  induction visits generalizing state with
  | nil => cases member
  | cons visit visits induction =>
      rcases List.mem_cons.mp member with rfl | later
      · exact isReport_checkNode table state visit
      · exact induction later

end SearchQuery.Validation
