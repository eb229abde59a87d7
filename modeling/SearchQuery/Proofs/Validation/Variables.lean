import SearchQuery.Proofs.Symbol.Reserved
import SearchQuery.Proofs.Validation.Clean
import SearchQuery.Proofs.Validation.Messages
import SearchQuery.Proofs.Validation.Reports

/-!
# Findings at variables

In a query in which no node stands twice, a variable that stands for itself is reported exactly if
it is not bound, and a variable that is the value of a qualifier exactly if it is not bound to a
value of the type that the qualifier expects.
-/

namespace SearchQuery

namespace Diagnostic

/-- Whether a diagnostic says something of a variable. -/
def saysOfVariable (message : String) (diagnostic : Diagnostic) : Bool :=
  diagnostic.node.kind == .variable && diagnostic.message == message

theorem saysOfVariable_iff {message : String} {diagnostic : Diagnostic} :
    diagnostic.saysOfVariable message = true ↔
      diagnostic.node.kind = .variable ∧ diagnostic.message = message := by
  simp [saysOfVariable]

end Diagnostic

namespace Validation

variable {table : SymbolTable} {state : QueryState} {visit : Visit}

/-- The diagnostic of a variable that is not bound, unless it is the value of a qualifier. -/
def unknownVariable? (table : SymbolTable) : Visit → Option Diagnostic
  | ⟨.variable span name label, false⟩ =>
      if table.variableNamed? name = none then some ⟨.variable span name label, .unknownVariable⟩
      else none
  | _ => none

/-- The diagnostic of a variable that is the value of a qualifier that expects a type, unless it is
bound to a value of that type. -/
def invalidVariable? (table : SymbolTable) (type : ValueType) : Node → Option Diagnostic
  | .qualified _ _ qualifier (.variable span name label) =>
      if (table.qualifierNamed? qualifier.word).map (·.expects) = some (.scalar type) ∧
          (table.variableNamed? name).map (·.type) ≠ some type then
        some ⟨.variable span name label, .invalidValue type⟩
      else none
  | _ => none

theorem unknownVariable?_eq_some {diagnostic : Diagnostic}
    (expected : unknownVariable? table visit = some diagnostic) :
    ∃ span name label, visit = ⟨.variable span name label, false⟩ ∧
      table.variableNamed? name = none ∧
      diagnostic = ⟨.variable span name label, .unknownVariable⟩ := by
  unfold unknownVariable? at expected
  split at expected
  · simp only [Option.ite_none_right_eq_some, Option.some.injEq] at expected
    exact ⟨_, _, _, rfl, expected.1, expected.2.symm⟩
  · cases expected

theorem invalidVariable?_eq_some {type : ValueType} {node : Node} {diagnostic : Diagnostic}
    (expected : invalidVariable? table type node = some diagnostic) :
    ∃ whole negated qualifier span name label,
      node = .qualified whole negated qualifier (.variable span name label) ∧
        (table.qualifierNamed? qualifier.word).map (·.expects) = some (.scalar type) ∧
        (table.variableNamed? name).map (·.type) ≠ some type ∧
        diagnostic = ⟨.variable span name label, .invalidValue type⟩ := by
  unfold invalidVariable? at expected
  split at expected
  · simp only [Option.ite_none_right_eq_some, Option.some.injEq] at expected
    exact ⟨_, _, _, _, _, _, rfl, expected.1.1, expected.1.2, expected.2.symm⟩
  · cases expected

theorem hasType_variable_eq_false_iff {type : ValueType} {span : Span} {name : String}
    {label : Option Nat} :
    hasType table type (.variable span name label) = false ↔
      (table.variableNamed? name).map (·.type) ≠ some type := by
  rw [hasType]
  cases table.variableNamed? name <;> simp

/-- At most one diagnostic is found, so what is kept of it is known from whether it is kept. -/
private theorem filter_eq_toList {keep : Diagnostic → Bool} {found : List Diagnostic}
    {expected : Option Diagnostic} (length_le : found.length ≤ 1)
    (kept : ∀ diagnostic ∈ found, keep diagnostic = true → expected = some diagnostic)
    (present : ∀ diagnostic ∈ expected, diagnostic ∈ found ∧ keep diagnostic = true) :
    found.filter keep = expected.toList := by
  match found with
  | [] =>
      cases expected with
      | none => rfl
      | some diagnostic => cases (present diagnostic rfl).1
  | [diagnostic] =>
      cases keep_eq : keep diagnostic with
      | true =>
          obtain rfl := kept diagnostic List.mem_cons_self keep_eq
          simp [keep_eq]
      | false =>
          cases expected with
          | none => simp [keep_eq]
          | some other =>
              obtain ⟨member, other_kept⟩ := present other rfl
              obtain rfl := List.mem_singleton.mp member
              simp [keep_eq] at other_kept
  | _ :: _ :: _ => simp at length_le

/-- An unknown variable is reported where the variable is visited. -/
theorem filter_checkNode_unknownVariable
    (unasked : ∀ label, askedLabel? visit = some label → label ∉ state.references) :
    (checkNode table state visit).1.filter (·.saysOfVariable "Unknown variable") =
      (unknownVariable? table visit).toList := by
  have report := isReport_checkNode table state visit
  refine filter_eq_toList report.length_le (fun diagnostic member told => ?_)
    fun diagnostic expected => ?_
  · obtain ⟨kind, message_eq⟩ := Diagnostic.saysOfVariable_iff.mp told
    have reports := report.reports diagnostic member
    rcases Finding.eq_unknownVariable_of_message_eq message_eq with finding_eq | ⟨_, finding_eq⟩
    · cases reports with
      | unknownVariable unbound => simp [unknownVariable?, unbound]
      | _ => cases finding_eq
    · cases reports with
      | missing => cases kind
      | _ => cases finding_eq
  · obtain ⟨span, name, label, rfl, unbound, rfl⟩ := unknownVariable?_eq_some expected
    have unspared : isReference state ⟨.variable span name label, false⟩ label = false := by
      cases label with
      | none => rfl
      | some label => simpa [isReference] using unasked label rfl
    refine ⟨?_, Diagnostic.saysOfVariable_iff.mpr ⟨rfl, rfl⟩⟩
    simp [checkNode, unspared, unbound]

/-- A variable of another type is reported where the qualified value is visited. -/
theorem filter_checkNode_invalidVariable (type : ValueType) :
    (checkNode table state visit).1.filter
        (·.saysOfVariable ("Invalid value, expected " ++ type.name)) =
      (invalidVariable? table type visit.node).toList := by
  have report := isReport_checkNode table state visit
  refine filter_eq_toList report.length_le (fun diagnostic member told => ?_)
    fun diagnostic expected => ?_
  · obtain ⟨kind, message_eq⟩ := Diagnostic.saysOfVariable_iff.mp told
    have reports := report.reports diagnostic member
    rcases Finding.eq_invalidValue_of_message_eq message_eq with finding_eq | ⟨_, finding_eq⟩
    · cases reports with
      | @invalidValue _ _ _ qualifier value _ expects other =>
          cases value with
          | «variable» span name label =>
              cases finding_eq
              rw [invalidVariable?, if_pos ⟨expects, hasType_variable_eq_false_iff.mp other⟩]
          | _ => cases kind
      | _ => cases finding_eq
    · cases reports with
      | missing => cases kind
      | _ => cases finding_eq
  · obtain ⟨whole, negated, qualifier, span, name, label, node_eq, expects, other, rfl⟩ :=
      invalidVariable?_eq_some expected
    obtain ⟨info, info_eq, expects_eq⟩ := Option.map_eq_some_iff.mp expects
    obtain ⟨_, ofQualifier⟩ := visit
    obtain rfl := node_eq
    refine ⟨?_, Diagnostic.saysOfVariable_iff.mpr ⟨rfl, rfl⟩⟩
    simp [checkNode, checkQualified, info_eq, expects_eq, checkType,
      hasType_variable_eq_false_iff.mpr other]

/-- What is kept of the findings at some visits is what is kept at each of them, if no variable is
spared. -/
theorem filter_checkVisits {keep : Diagnostic → Bool} {expected : Visit → Option Diagnostic}
    {visits : List Visit}
    (each : ∀ visit ∈ visits, ∀ state,
      (∀ label, askedLabel? visit = some label → label ∉ state.references) →
      (checkNode table state visit).1.filter keep = (expected visit).toList)
    (spares : SparesNone state visits) :
    (checkVisits table state visits).filter keep = visits.filterMap expected := by
  induction visits generalizing state with
  | nil => rfl
  | cons visit visits induction =>
      rw [List.forall_mem_cons] at each
      have own := each.1 state fun label asked => (spares visit List.mem_cons_self label asked).1
      rw [checkVisits_cons, List.filter_append, own, induction each.2 spares.next,
        List.filterMap_cons]
      cases expected visit <;> rfl

/-- What is visited as the value of a qualifier is what is one. -/
theorem ofQualifier_iff {query node : Node} :
    ⟨node, true⟩ ∈ query.visits false ↔
      ∃ span negated qualifier, .qualified span negated qualifier node ∈ query.preorder := by
  constructor
  · intro visit_mem
    obtain ⟨parent, parent_mem, span, negated, qualifier, parent_eq⟩ :=
      Node.exists_qualified_of_ofQualifier visit_mem
    exact ⟨span, negated, qualifier, parent_eq ▸ List.mem_map_of_mem parent_mem⟩
  · rintro ⟨span, negated, qualifier, member⟩
    obtain ⟨parent, parent_mem, parent_eq⟩ := List.mem_map.mp member
    exact Node.mem_visits_of_mem_parts parent_mem (by simp [parent_eq, Node.parts])

/-- In a query of nodes in which none stands twice, the variables that are reported as unknown are
those that are not bound and not the value of a qualifier, each once and in their order.  The
variables that are reported as values of another type are those that are the value of a qualifier
that expects a type and are not bound to a value of that type.  In a table that a text was loaded
into, and that leaves the names of variables to them, the names that are not bound are those that no
line of the text defines. -/
theorem ofQuery_variables (table : SymbolTable) {query : Node}
    (nodes : ∀ node ∈ query.preorder, node.kind ≠ .foreign) (distinct : query.HasDistinctNodes) :
    (∃ diagnostics, ofQuery table query = .ok diagnostics ∧
      diagnostics.filter (·.saysOfVariable "Unknown variable") =
        (query.visits false).filterMap (unknownVariable? table) ∧
      (∀ type : ValueType,
        diagnostics.filter (·.saysOfVariable ("Invalid value, expected " ++ type.name)) =
          query.preorder.filterMap (invalidVariable? table type)) ∧
      ∀ node, ⟨node, true⟩ ∈ query.visits false ↔
        ∃ span negated qualifier, .qualified span negated qualifier node ∈ query.preorder) ∧
    ∀ (before : SymbolTable) (text : String), before.LeavesVariables →
      table = (before.load text).2 → ∀ name, table.variableNamed? name = none ↔
        ∀ line ∈ (before.load text).1.lines, line.definedName? ≠ some name := by
  have spares := sparesNone_initial distinct
  refine ⟨⟨checkVisits table .initial (query.visits false), ?_, ?_, fun type => ?_,
    fun node => ofQualifier_iff⟩, ?_⟩
  · rw [ofQuery, Node.visits?_walk nodes]
    rfl
  · exact filter_checkVisits (fun visit _ state => filter_checkNode_unknownVariable) spares
  · rw [filter_checkVisits (fun visit _ state _ => filter_checkNode_invalidVariable type) spares,
      Node.preorder, List.filterMap_map]
    rfl
  · rintro before text leaves rfl name
    exact SymbolTable.variableNamed?_load_eq_none_iff leaves text name

/-- A variable of another type behind a qualifier, and a variable that no line defines. -/
theorem ofQuery_variables_typed_and_unknown :
    let before := SymbolTable.ofList [.qualifier ⟨"created", .scalar .date⟩]
    let table := (before.load "$a=1").2
    let query : Node := .query ⟨0, 13⟩
      [.qualified ⟨0, 10⟩ false (.literal ⟨0, 7⟩ "created") (.variable ⟨8, 10⟩ "$a" none),
        .variable ⟨11, 13⟩ "$b" none]
    before.LeavesVariables ∧ ∃ diagnostics, ofQuery table query = .ok diagnostics ∧
      (diagnostics.filter (·.saysOfVariable "Unknown variable")).map (·.node.word) = ["$b"] ∧
      (diagnostics.filter (·.saysOfVariable "Invalid value, expected date")).map
        (·.node.word) = ["$a"] ∧
      table.variableNamed? "$b" = none := by
  intro before table query
  have leaves : before.LeavesVariables := by decide
  have nodes : ∀ node ∈ query.preorder, node.kind ≠ .foreign := by decide +kernel
  have distinct : query.HasDistinctNodes := by decide +kernel
  obtain ⟨⟨diagnostics, isOk, unknown, invalid, _⟩, loaded⟩ :=
    ofQuery_variables table nodes distinct
  refine ⟨leaves, diagnostics, isOk, ?_, ?_, ?_⟩
  · rw [unknown]
    decide +kernel
  · rw [show "Invalid value, expected date" = "Invalid value, expected " ++ ValueType.date.name
      from rfl, invalid .date]
    decide +kernel
  · exact (loaded before "$a=1" leaves rfl "$b").mpr (by decide +kernel)

end Validation

end SearchQuery
