import SearchQuery.Proofs.Line.Missing
import SearchQuery.Proofs.Node.Distinct
import SearchQuery.Proofs.Validation.Lines
import SearchQuery.Proofs.Validation.Messages
import SearchQuery.Proofs.Validation.Reports

/-!
# The nodes that diagnostics are charged to

Each diagnostic is charged to the node at whose visit it is found, which is its own node or the one
that its node is a part of.  Which of the two it is can be told from the message.  No node is
charged twice: a visit finds one thing at most, and what is found when the value of a definition is
looked through as a definition is not found at nodes at which something is found when it is looked
through as a query.
-/

namespace SearchQuery

/-! ## Findings at a part -/

namespace Finding

/-- Whether the finding is about a part of the node at which it is found. -/
def isOfPart : Finding → Bool
  | .unknownQualifier _ | .unknownValue _ | .invalidValue _ | .unknownCriteria => true
  | _ => false

/-- If the finding is a missing part, its message says what was expected. -/
def TellsExpected (finding : Finding) : Prop :=
  ∀ message, finding = .missing message → ∃ expected, message = "Expected " ++ expected

/-- Whether a finding is about a part is told by how its message begins. -/
theorem isOfPart_iff {finding : Finding} (tells : finding.TellsExpected) :
    finding.isOfPart = true ↔
      finding.opening ∈ ["Unknown qua", "Unknown val", "Invalid val"] := by
  cases finding with
  | missing message =>
      obtain ⟨expected, rfl⟩ := tells message rfl
      have head : (missing ("Expected " ++ expected)).opening.toList.head? = some 'E' := by
        rw [opening, String.toList_ofList, String.toList_append]
        rfl
      refine iff_of_false Bool.false_ne_true fun member => ?_
      simp only [List.mem_cons, List.not_mem_nil, or_false] at member
      rcases member with same | same | same <;> simp [same] at head
  | _ => simp [isOfPart, opening]

/-- Findings with the same message are about a part, or both are not. -/
theorem isOfPart_eq_of_message_eq {left right : Finding} (same : left.message = right.message)
    (left_tells : left.TellsExpected) (right_tells : right.TellsExpected) :
    left.isOfPart = right.isOfPart := by
  rw [Bool.eq_iff_iff, isOfPart_iff left_tells, isOfPart_iff right_tells,
    opening_eq_of_message_eq same]

end Finding

/-- A diagnostic and the node that it is charged to. -/
structure Charge where
  /-- The node at whose visit the diagnostic is found. -/
  node : Node
  /-- The diagnostic. -/
  diagnostic : Diagnostic

namespace Charge

/-- The diagnostic is about a part of the node if its finding is one of a part, and about the node
otherwise. -/
def Suits (charge : Charge) : Prop :=
  if charge.diagnostic.finding.isOfPart then charge.diagnostic.node ∈ charge.node.partNodes
  else charge.diagnostic.node = charge.node

/-- Diagnostics that say the same of the same node are charged to the same node. -/
theorem node_eq {root : Node} (nodup : root.preorder.Nodup) {left right : Charge}
    (left_mem : left.node ∈ root.preorder) (right_mem : right.node ∈ root.preorder)
    (left_suits : left.Suits) (right_suits : right.Suits)
    (left_tells : left.diagnostic.finding.TellsExpected)
    (right_tells : right.diagnostic.finding.TellsExpected)
    (same : left.diagnostic.node = right.diagnostic.node ∧
      left.diagnostic.message = right.diagnostic.message) : left.node = right.node := by
  have sort_eq := Finding.isOfPart_eq_of_message_eq same.2 left_tells right_tells
  rw [Suits, sort_eq] at left_suits
  rw [Suits] at right_suits
  split at right_suits
  case isTrue ofPart =>
    rw [if_pos ofPart, same.1] at left_suits
    exact Node.eq_of_mem_partNodes nodup left_mem right_mem left_suits right_suits
  case isFalse own =>
    rw [if_neg own] at left_suits
    rw [← left_suits, same.1, right_suits]

/-- The diagnostic is charged to a node inside of the query. -/
structure IsIn (charge : Charge) (query : Node) : Prop where
  /-- The diagnostic is about the node or a part of it, as its finding is. -/
  suits : charge.Suits
  /-- If a part is missing, it is said to be expected. -/
  tells : charge.diagnostic.finding.TellsExpected
  /-- The node is one of the query. -/
  node_mem : charge.node ∈ query.preorder
  /-- The node is not the query itself. -/
  kind_ne : charge.node.kind ≠ .query

end Charge

namespace Validation

variable {table : SymbolTable}

/-! ## What is charged -/

/-- Diagnostics that are charged to one node. -/
def chargeTo (node : Node) (diagnostics : List Diagnostic) : List Charge :=
  diagnostics.map (⟨node, ·⟩)

/-- What is found at a node, if it is a query or a definition, with the nodes it is charged to. -/
def chargesAt (table : SymbolTable) : Node → List Charge
  | .query span items =>
      (checkEach table .initial ((Node.query span items).visits false)).flatMap fun checked =>
        chargeTo checked.1.node checked.2
  | .definition _ name value _ =>
      value.preorder.flatMap fun node => chargeTo node (checkDefined name.word node)
  | _ => []

/-- What is found in a tree, with the nodes it is charged to. -/
def charges (table : SymbolTable) (root : Node) : List Charge :=
  root.preorder.flatMap (chargesAt table)

@[simp]
theorem map_diagnostic_chargeTo (node : Node) (diagnostics : List Diagnostic) :
    (chargeTo node diagnostics).map (·.diagnostic) = diagnostics := by
  simp [chargeTo, Function.comp_def]

theorem map_diagnostic_chargesAt (node : Node) :
    (chargesAt table node).map (·.diagnostic) = foundAt table node := by
  cases node with
  | query span items =>
      simp only [chargesAt, foundAt, List.map_flatMap, map_diagnostic_chargeTo]
      exact flatMap_snd_checkEach ..
  | definition span name value label =>
      simp only [chargesAt, foundAt, List.map_flatMap, map_diagnostic_chargeTo, Node.preorder,
        List.flatMap_map]
  | _ => rfl

/-- Everything that is found is charged to a node. -/
theorem map_diagnostic_charges (root : Node) :
    (charges table root).map (·.diagnostic) = foundIn table root := by
  simp only [charges, foundIn, List.map_flatMap, map_diagnostic_chargesAt]

theorem charges_eq_nil_iff {root : Node} : charges table root = [] ↔ foundIn table root = [] := by
  rw [← map_diagnostic_charges, List.map_eq_nil_iff]

/-- Where no visit finds more than one thing, the nodes that are charged are some of those visited,
each as often as it is visited. -/
theorem map_node_flatMap_chargeTo {α : Type} {visits : List α} (node : α → Node)
    (found : α → List Diagnostic) (single : ∀ visit ∈ visits, (found visit).length ≤ 1) :
    ((visits.flatMap fun visit => chargeTo (node visit) (found visit)).map (·.node)).Sublist
      (visits.map node) := by
  induction visits with
  | nil => exact List.Sublist.refl _
  | cons visit visits induction =>
      rw [List.forall_mem_cons] at single
      have later := induction single.2
      rw [List.flatMap_cons, List.map_append, List.map_cons]
      match found_eq : found visit, single.1 with
      | [], _ => exact later.cons _
      | [diagnostic], _ => exact later.cons_cons _

theorem Reports.suits {visit : Visit} {diagnostic : Diagnostic}
    (reports : Reports table visit diagnostic) : Charge.Suits ⟨visit.node, diagnostic⟩ := by
  cases reports <;> simp [Charge.Suits, Finding.isOfPart]

theorem Reports.kind_ne {visit : Visit} {diagnostic : Diagnostic}
    (reports : Reports table visit diagnostic) : visit.node.kind ≠ .query := by
  cases reports <;> exact Kind.noConfusion

theorem Reports.tellsExpected {visit : Visit} {diagnostic : Diagnostic}
    (reports : Reports table visit diagnostic) (tells : visit.node.TellsExpected) :
    diagnostic.finding.TellsExpected := by
  cases reports with
  | @missing span message =>
      rintro _ ⟨⟩
      exact tells span message rfl
  | _ => rintro _ ⟨⟩

/-! ## What is charged in a line -/

section Query

variable {query : Node} (kind : query.kind = .query)

include kind

theorem exists_reports_of_mem_chargesAt {charge : Charge}
    (member : charge ∈ chargesAt table query) :
    charge.node ∈ query.preorder ∧
      ∃ visit : Visit, visit.node = charge.node ∧ Reports table visit charge.diagnostic := by
  cases query with
  | query span items =>
      obtain ⟨checked, checked_mem, charge_mem⟩ := List.mem_flatMap.mp member
      obtain ⟨diagnostic, found, rfl⟩ := List.mem_map.mp charge_mem
      have visited : checked.1 ∈ (Node.query span items).visits false := by
        rw [← map_fst_checkEach table .initial ((Node.query span items).visits false)]
        exact List.mem_map_of_mem checked_mem
      exact ⟨List.mem_map_of_mem visited, checked.1, rfl,
        (isReport_of_mem_checkEach checked_mem).reports diagnostic found⟩
  | _ => cases kind

theorem isIn_of_mem_chargesAt (tells : ∀ inner ∈ query.preorder, inner.TellsExpected)
    {charge : Charge} (member : charge ∈ chargesAt table query) : charge.IsIn query := by
  obtain ⟨node, diagnostic⟩ := charge
  obtain ⟨node_mem, visit, rfl, reports⟩ := exists_reports_of_mem_chargesAt kind member
  exact ⟨reports.suits, reports.tellsExpected (tells _ node_mem), node_mem, reports.kind_ne⟩

/-- No node of a query is charged twice. -/
theorem map_node_chargesAt_sublist :
    ((chargesAt table query).map (·.node)).Sublist query.preorder := by
  cases query with
  | query span items =>
      have single : ∀ checked ∈ checkEach table .initial ((Node.query span items).visits false),
          checked.2.length ≤ 1 := fun _ member => (isReport_of_mem_checkEach member).length_le
      have visited : (checkEach table .initial ((Node.query span items).visits false)).map
          (fun checked => checked.1.node) = (Node.query span items).preorder := by
        have visits_eq :=
          map_fst_checkEach table .initial ((Node.query span items).visits false)
        rw [Node.preorder, ← visits_eq, List.map_map, visits_eq]
        rfl
      rw [← visited]
      exact map_node_flatMap_chargeTo _ _ single
  | _ => cases kind

end Query

section Definition

variable {span : Span} {name value : Node} {label : Option Nat}

theorem length_checkDefined_le (word : String) (node : Node) :
    (checkDefined word node).length ≤ 1 := by
  unfold checkDefined
  split
  · exact Nat.le_refl 1
  · split <;> simp
  · exact Nat.zero_le 1

/-- What is found at a definition is found at the node that is charged with it. -/
theorem mem_checkDefined_of_mem_chargesAt {charge : Charge}
    (member : charge ∈ chargesAt table (.definition span name value label)) :
    charge.node ∈ value.preorder ∧ charge.diagnostic ∈ checkDefined name.word charge.node := by
  obtain ⟨node, node_mem, charge_mem⟩ := List.mem_flatMap.mp member
  obtain ⟨diagnostic, found, rfl⟩ := List.mem_map.mp charge_mem
  exact ⟨node_mem, found⟩

theorem isIn_of_mem_checkDefined {node : Node} {diagnostic : Diagnostic} {word : String}
    (node_mem : node ∈ value.preorder) (found : diagnostic ∈ checkDefined word node) :
    Charge.IsIn ⟨node, diagnostic⟩ value := by
  cases node with
  | mark place token =>
      cases token with
      | orWord =>
          obtain rfl := List.mem_singleton.mp found
          exact ⟨rfl, by rintro _ ⟨⟩, node_mem, Kind.noConfusion⟩
      | unknown => cases found
  | «variable» place other tag =>
      rw [checkDefined] at found
      split at found
      · obtain rfl := List.mem_singleton.mp found
        exact ⟨rfl, by rintro _ ⟨⟩, node_mem, Kind.noConfusion⟩
      · cases found
  | _ => cases found

/-- No node of the value of a definition is charged twice when it is looked through as one. -/
theorem map_node_chargesAt_definition_sublist :
    ((chargesAt table (.definition span name value label)).map (·.node)).Sublist
      value.preorder := by
  have visited := map_node_flatMap_chargeTo id (checkDefined name.word)
    (fun node (_ : node ∈ value.preorder) => length_checkDefined_le name.word node)
  rwa [List.map_id] at visited

/-- A node that is charged with a reference of a definition to itself, or with an `OR`, is not
charged with anything in the query, if the name of the definition stands for a variable. -/
theorem not_reports_of_mem_checkDefined {visit : Visit} {word : String} {first second : Diagnostic}
    (bound : table.variableNamed? word ≠ none) (found : first ∈ checkDefined word visit.node) :
    ¬ Reports table visit second := by
  intro reports
  cases reports with
  | unknownVariable unbound =>
      dsimp only [checkDefined] at found
      split at found
      case isTrue same => exact bound (same ▸ unbound)
      case isFalse => cases found
  | _ => cases found

end Definition

section Line

variable {root : Node} (shaped : ∀ inner ∈ root.preorder, inner.IsShaped)

theorem charges_eq (table : SymbolTable) (root : Node) :
    charges table root = chargesAt table root ++ root.partNodes.flatMap (charges table) := by
  rw [charges, Node.preorder_eq, List.flatMap_cons, List.flatMap_assoc]
  rfl

include shaped

/-- What is charged in a query is charged at its root. -/
theorem charges_query (kind : root.kind = .query) :
    charges table root = chargesAt table root := by
  rw [Node.forall_mem_preorder_iff] at shaped
  have inside : root.partNodes.flatMap (charges table) = [] := by
    rw [List.flatMap_eq_nil_iff]
    exact fun part part_mem => charges_eq_nil_iff.mpr (foundIn_eq_nil (shaped.2 part part_mem)
      (Node.kind_of_mem_partNodes shaped.1 (by simp [kind]) part_mem))
  rw [charges_eq, inside, List.append_nil]

/-- What is charged in a definition is charged at its root and at the query that is its value. -/
theorem charges_definition (table : SymbolTable) {span : Span} {name value : Node}
    {label : Option Nat} (root_eq : root = .definition span name value label) :
    value.kind = .query ∧
      charges table root = chargesAt table root ++ chargesAt table value := by
  subst root_eq
  rw [Node.forall_mem_preorder_iff, Node.partNodes_definition, List.forall_mem_cons,
    List.forall_mem_singleton] at shaped
  obtain ⟨⟨name_kind, value_kind, _⟩, name_shaped, value_shaped⟩ := shaped
  have nothing : charges table name = [] :=
    charges_eq_nil_iff.mpr (foundIn_eq_nil name_shaped (by simp [name_kind]))
  refine ⟨value_kind, ?_⟩
  rw [charges_eq, Node.partNodes_definition, List.flatMap_cons, List.flatMap_singleton, nothing,
    List.nil_append, charges_query value_shaped value_kind]

variable (kind_mem : root.kind ∈ [.definition, .query])

include kind_mem

/-- All that is charged in a line is charged inside of a query of the line. -/
theorem exists_query_of_mem_charges (tells : ∀ inner ∈ root.preorder, inner.TellsExpected)
    {charge : Charge} (member : charge ∈ charges table root) :
    ∃ query ∈ root.preorder, query.kind = .query ∧ charge.IsIn query := by
  cases root with
  | query span items =>
      rw [charges_query shaped rfl] at member
      exact ⟨_, Node.self_mem_preorder _, rfl, isIn_of_mem_chargesAt rfl tells member⟩
  | definition span name value label =>
      obtain ⟨value_kind, charges_eq⟩ := charges_definition shaped table rfl
      have value_inside {inner : Node} (inner_mem : inner ∈ value.preorder) :
          inner ∈ (Node.definition span name value label).preorder :=
        Node.mem_preorder_of_mem_partNodes (by simp) inner_mem
      refine ⟨value, value_inside (Node.self_mem_preorder value), value_kind, ?_⟩
      rw [charges_eq, List.mem_append] at member
      rcases member with own | inner
      · obtain ⟨node_mem, found⟩ := mem_checkDefined_of_mem_chargesAt own
        exact isIn_of_mem_checkDefined node_mem found
      · exact isIn_of_mem_chargesAt value_kind
          (fun inner inner_mem => tells inner (value_inside inner_mem)) inner
  | _ => simp [Node.kind] at kind_mem

/-- No node of a line is charged twice, if the name that the line defines stands for a variable. -/
theorem nodup_charges (nodup : root.preorder.Nodup)
    (bound : ∀ name, root.definedName? = some name → table.variableNamed? name ≠ none) :
    ((charges table root).map (·.node)).Nodup := by
  cases root with
  | query span items =>
      rw [charges_query shaped rfl]
      exact (map_node_chargesAt_sublist rfl).nodup nodup
  | definition span name value label =>
      obtain ⟨value_kind, charges_eq⟩ := charges_definition shaped table rfl
      have value_nodup : value.preorder.Nodup := Node.nodup_preorder_part nodup (by simp)
      rw [charges_eq, List.map_append, List.nodup_append]
      refine ⟨map_node_chargesAt_definition_sublist.nodup value_nodup,
        (map_node_chargesAt_sublist value_kind).nodup value_nodup, ?_⟩
      rintro _ own _ inner rfl
      obtain ⟨first, first_mem, rfl⟩ := List.mem_map.mp own
      obtain ⟨second, second_mem, same⟩ := List.mem_map.mp inner
      obtain ⟨_, found⟩ := mem_checkDefined_of_mem_chargesAt first_mem
      obtain ⟨_, visit, visit_eq, reports⟩ :=
        exists_reports_of_mem_chargesAt value_kind second_mem
      rw [← same, ← visit_eq] at found
      exact not_reports_of_mem_checkDefined (bound name.word rfl) found reports
  | _ => simp [Node.kind] at kind_mem

end Line

end Validation

end SearchQuery
