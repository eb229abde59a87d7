import SearchQuery.Proofs.Repository.Named
import SearchQuery.Proofs.Validation.Found

/-!
# Tables that resemble each other

Two tables resemble each other if every name stands in both for the same qualifier, or for variables
of the same type and value, wherever these are defined.  Nothing that is worked out with a table
tells such tables apart; and what is worked out for a tree does not depend on the variables that are
not named in it.
-/

namespace SearchQuery

/-- The type and the value of a variable. -/
def Variable.content (info : Variable) : ValueType × String := (info.type, info.value)

/-- The qualifier that a symbol is, or the content of the variable. -/
def Symbol.content : Symbol → Qualifier ⊕ (ValueType × String)
  | .qualifier info => .inl info
  | .variable info => .inr info.content

namespace SymbolTable

/-- The type of a value depends on the types of the variables in it. -/
theorem typeOf_congr {left right : SymbolTable} {node : Node}
    (same : ∀ name ∈ node.names,
      (left.variableNamed? name).map (·.type) = (right.variableNamed? name).map (·.type)) :
    left.typeOf node = right.typeOf node := by
  fun_induction typeOf left node with
  | case4 span operator value induction =>
      exact induction (Node.forall_mem_names_part same (by simp))
  | case5 span lower upper induction =>
      exact induction (Node.forall_mem_names_part same (by simp))
  | case6 span upper induction => exact induction (Node.forall_mem_names_part same (by simp))
  | case7 span name label info found =>
      have type_eq := same name (Node.name_mem_names span name label)
      rw [found, Option.map_some] at type_eq
      obtain ⟨other, other_eq, types_eq⟩ := Option.map_eq_some_iff.mp type_eq.symm
      rw [typeOf, other_eq]
      exact types_eq.symm
  | case8 span name label unfound =>
      have type_eq := same name (Node.name_mem_names span name label)
      rw [unfound, Option.map_none] at type_eq
      rw [typeOf, Option.map_eq_none_iff.mp type_eq.symm]
  | case9 span item induction => exact induction (Node.forall_mem_names_part same (by simp))
  | _ => simp_all [typeOf]

/-- Every name stands for the same, apart from where variables are defined. -/
structure Resembles (left right : SymbolTable) : Prop where
  /-- Names stand for the same qualifiers. -/
  qualifierNamed?_eq : left.qualifierNamed? = right.qualifierNamed?
  /-- Names stand for variables with the same content. -/
  content_eq : ∀ name, (left.variableNamed? name).map Variable.content =
    (right.variableNamed? name).map Variable.content

/-- Every name stands for the same qualifier, and each of some names for the same variable, apart
from where it is defined. -/
structure ResemblesOn (names : List String) (left right : SymbolTable) : Prop where
  /-- Names stand for the same qualifiers. -/
  qualifierNamed?_eq : left.qualifierNamed? = right.qualifierNamed?
  /-- The names stand for variables with the same content. -/
  content_eq : ∀ name ∈ names, (left.variableNamed? name).map Variable.content =
    (right.variableNamed? name).map Variable.content

theorem Resembles.on {left right : SymbolTable} (resembles : left.Resembles right)
    (names : List String) : ResemblesOn names left right :=
  ⟨resembles.qualifierNamed?_eq, fun name _ => resembles.content_eq name⟩

/-- What resembles is what names stand for. -/
theorem resembles_iff {left right : SymbolTable} :
    left.Resembles right ↔
      ∀ name, (left.get? name).map Symbol.content = (right.get? name).map Symbol.content := by
  constructor
  · intro resembles name
    have qualifier_eq := congrFun resembles.qualifierNamed?_eq name
    have content_eq := resembles.content_eq name
    rw [qualifierNamed?, qualifierNamed?] at qualifier_eq
    rw [variableNamed?, variableNamed?] at content_eq
    generalize left.get? name = first, right.get? name = second at qualifier_eq content_eq ⊢
    rcases first with _ | (_ | _) <;> rcases second with _ | (_ | _) <;>
      simp_all [Symbol.asQualifier?, Symbol.asVariable?, Symbol.content]
  · intro same
    have qualifier_eq (table : SymbolTable) (name : String) :
        table.qualifierNamed? name = ((table.get? name).map Symbol.content).bind Sum.getLeft? := by
      rw [qualifierNamed?]
      rcases table.get? name with _ | (_ | _) <;> rfl
    have content_eq (table : SymbolTable) (name : String) :
        (table.variableNamed? name).map Variable.content =
          ((table.get? name).map Symbol.content).bind Sum.getRight? := by
      rw [variableNamed?]
      rcases table.get? name with _ | (_ | _) <;> rfl
    exact ⟨funext fun name => by rw [qualifier_eq, qualifier_eq, same],
      fun name => by rw [content_eq, content_eq, same]⟩

namespace ResemblesOn

variable {names : List String} {left right : SymbolTable} (resembles : ResemblesOn names left right)

include resembles

theorem symm : ResemblesOn names right left :=
  ⟨resembles.qualifierNamed?_eq.symm, fun name member => (resembles.content_eq name member).symm⟩

/-! ## Variables -/

theorem isSome_variableNamed?_eq {name : String} (known : name ∈ names) :
    (left.variableNamed? name).isSome = (right.variableNamed? name).isSome := by
  simpa using congrArg Option.isSome (resembles.content_eq name known)

theorem map_type_eq {name : String} (known : name ∈ names) :
    (left.variableNamed? name).map (·.type) = (right.variableNamed? name).map (·.type) := by
  have same := congrArg (Option.map Prod.fst) (resembles.content_eq name known)
  rwa [Option.map_map, Option.map_map] at same

theorem valueOf?_eq {name : String} (known : name ∈ names) :
    left.valueOf? name = right.valueOf? name := by
  have same := congrArg (Option.map Prod.snd) (resembles.content_eq name known)
  rwa [Option.map_map, Option.map_map] at same

theorem typeOf_eq {value : Node} (known : value.names ⊆ names) :
    left.typeOf value = right.typeOf value :=
  typeOf_congr fun _ member => resembles.map_type_eq (known member)

theorem print_eq (source : List Char) {value : Node} (known : value.names ⊆ names) :
    value.print source left.valueOf? = value.print source right.valueOf? :=
  Node.print_congr fun _ member => resembles.valueOf?_eq (known member)

theorem hasType_eq (type : ValueType) {value : Node} (known : value.names ⊆ names) :
    Validation.hasType left type value = Validation.hasType right type value := by
  cases value with
  | «variable» span name label =>
      have any_eq (table : SymbolTable) :
          (table.variableNamed? name).any (·.type == type) =
            ((table.variableNamed? name).map (·.type)).any (· == type) := by
        rw [Option.any_map]
      rw [Validation.hasType, Validation.hasType, any_eq, any_eq,
        resembles.map_type_eq (known (Node.name_mem_names span name label))]
  | _ => rfl

/-! ## Diagnostics -/

theorem checkType_eq (type : ValueType) {value : Node} (known : value.names ⊆ names) :
    Validation.checkType left type value = Validation.checkType right type value := by
  rw [Validation.checkType, Validation.checkType, resembles.hasType_eq type known]

theorem checkQualified_eq (state : QueryState) (node qualifier : Node) {value : Node}
    (known : value.names ⊆ names) :
    Validation.checkQualified left state node qualifier value =
      Validation.checkQualified right state node qualifier value := by
  simp only [Validation.checkQualified, resembles.qualifierNamed?_eq,
    resembles.checkType_eq _ known]

theorem checkNode_eq (state : QueryState) {visit : Visit} (known : visit.node.names ⊆ names) :
    Validation.checkNode left state visit = Validation.checkNode right state visit := by
  obtain ⟨node, ofQualifier⟩ := visit
  cases node with
  | qualified span negated qualifier value =>
      exact resembles.checkQualified_eq _ _ _ fun name member =>
        Node.forall_mem_names_part (fun _ inner => known inner) (by simp) name member
  | «variable» span name label =>
      simp only [Validation.checkNode,
        resembles.isSome_variableNamed?_eq (known (Node.name_mem_names span name label))]
  | range span lower upper => cases lower <;> cases upper <;> rfl
  | _ => rfl

theorem checkVisits_eq (state : QueryState) {visits : List Visit}
    (known : ∀ visit ∈ visits, visit.node.names ⊆ names) :
    Validation.checkVisits left state visits = Validation.checkVisits right state visits := by
  induction visits generalizing state with
  | nil => rfl
  | cons visit visits induction =>
      rw [List.forall_mem_cons] at known
      simp only [Validation.checkVisits, resembles.checkNode_eq state known.1, induction _ known.2]

theorem foundAt_eq {node : Node} (known : node.names ⊆ names) :
    Validation.foundAt left node = Validation.foundAt right node := by
  cases node with
  | query span items =>
      exact resembles.checkVisits_eq _ fun visit member =>
        List.Subset.trans (Node.names_subset_of_mem_preorder (List.mem_map_of_mem member)) known
  | _ => rfl

theorem foundIn_eq {root : Node} (known : root.names ⊆ names) :
    Validation.foundIn left root = Validation.foundIn right root :=
  List.flatMap_congr fun _ member =>
    resembles.foundAt_eq (List.Subset.trans (Node.names_subset_of_mem_preorder member) known)

/-! ## Repositories -/

theorem namedAt?_eq (source : List Char) (format : RepositoryFormat) {node : Node}
    (known : node.names ⊆ names) :
    Repository.namedAt? left source format node = Repository.namedAt? right source format node := by
  cases node with
  | qualified span negated qualifier value =>
      have value_known : value.names ⊆ names := fun name member =>
        Node.forall_mem_names_part (fun _ inner => known inner) (by simp) name member
      rw [Repository.namedAt?, Repository.namedAt?, Node.text, Node.text,
        resembles.print_eq source value_known]
  | _ => rfl

theorem namedIn_eq (source : List Char) (format : RepositoryFormat) {root : Node}
    (known : root.names ⊆ names) :
    Repository.namedIn left source format root = Repository.namedIn right source format root :=
  List.filterMap_congr fun _ member =>
    resembles.namedAt?_eq source format
      (List.Subset.trans (Node.names_subset_of_mem_preorder member) known)

end ResemblesOn

namespace Resembles

variable {left right : SymbolTable}

theorem refl (table : SymbolTable) : table.Resembles table := ⟨rfl, fun _ => rfl⟩

theorem symm (resembles : left.Resembles right) : right.Resembles left :=
  ⟨resembles.qualifierNamed?_eq.symm, fun name => (resembles.content_eq name).symm⟩

variable (resembles : left.Resembles right)

include resembles

theorem valueOf?_eq : left.valueOf? = right.valueOf? :=
  funext fun name => (resembles.on [name]).valueOf?_eq (List.mem_singleton.mpr rfl)

theorem typeOf_eq (value : Node) : left.typeOf value = right.typeOf value :=
  (resembles.on value.names).typeOf_eq (List.Subset.refl _)

theorem ofVisited_eq (node : Node) :
    Validation.ofVisited left node = Validation.ofVisited right node := by
  have same (state : QueryState) (visits : List Visit) :
      Validation.checkVisits left state visits = Validation.checkVisits right state visits :=
    (resembles.on (visits.flatMap (·.node.names))).checkVisits_eq state fun _ member _ inner =>
      List.mem_flatMap_of_mem member inner
  cases node with
  | query span items => simp only [Validation.ofVisited, Validation.ofQuery, same]
  | _ => rfl

/-- The same is found to be wrong with a document. -/
theorem ofDocument_eq (document : Document) :
    Validation.ofDocument left document = Validation.ofDocument right document := by
  simp only [Validation.ofDocument, Validation.ofTree, resembles.ofVisited_eq]

theorem foundIn_eq (root : Node) :
    Validation.foundIn left root = Validation.foundIn right root :=
  (resembles.on root.names).foundIn_eq (List.Subset.refl _)

theorem textsOf_eq (source : List Char) (target : String) (node : Node) :
    Repository.textsOf left source target node = Repository.textsOf right source target node := by
  simp only [Repository.textsOf, Repository.valueText, resembles.valueOf?_eq]

/-- A document names the same repositories. -/
theorem repositories_eq (document : Document) (format : RepositoryFormat) :
    Repository.ofDocument document left format = Repository.ofDocument document right format := by
  simp only [Repository.ofDocument, Repository.values, resembles.textsOf_eq]

theorem namedIn_eq (source : List Char) (format : RepositoryFormat) (root : Node) :
    Repository.namedIn left source format root = Repository.namedIn right source format root :=
  (resembles.on root.names).namedIn_eq source format (List.Subset.refl _)

end Resembles

end SymbolTable

end SearchQuery
