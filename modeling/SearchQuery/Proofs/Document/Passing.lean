import SearchQuery.Proofs.Symbol.Passing
import SearchQuery.Proofs.Validation.Typing

/-!
# Variables that stand for values

Behind a document that passes a value to a variable, the variable can stand for the value behind a
qualifier: the same is said of it where a number or a date is expected, and the same repository is
named by it.
-/

namespace SearchQuery

open Node

/-- A document around a value: what stands in front of it and behind it in its line, and the lines
around that line.  The value is that of a qualifier. -/
structure Surroundings where
  /-- The part of the text that the document spans. -/
  span : Span
  /-- The lines in front. -/
  front : List Node
  /-- The part of the text that the line spans. -/
  line : Span
  /-- The items in front. -/
  before : List Node
  /-- The part of the text that the qualified value spans. -/
  item : Span
  /-- Whether the qualified value is negated. -/
  negated : Bool
  /-- The qualifier. -/
  qualifier : Node
  /-- The items behind. -/
  after : List Node
  /-- The lines behind. -/
  back : List Node

namespace Surroundings

/-- The document with a value in it. -/
def fill (around : Surroundings) (source : String) (value : Node) : Document :=
  { span := around.span
    lines := around.front ++
      .query around.line (around.before ++
        .qualified around.item around.negated around.qualifier value :: around.after) ::
      around.back
    source := source }

/-- With another value, a document of nodes still holds nodes only. -/
theorem hasNodesOnly_fill {around : Surroundings} {source : String} {left right : Node}
    (nodes : (around.fill source left).HasNodesOnly)
    (right_nodes : ∀ inner ∈ right.preorder, inner.kind ≠ .foreign) :
    (around.fill source right).HasNodesOnly := by
  rw [Document.HasNodesOnly, forall_mem_preorder_iff, Document.partNodes_toNode, fill,
    List.forall_mem_append, List.forall_mem_cons, forall_mem_preorder_iff, partNodes_query,
    List.forall_mem_append, List.forall_mem_cons, forall_mem_preorder_iff, partNodes_qualified,
    List.forall_mem_cons, List.forall_mem_singleton] at nodes ⊢
  obtain ⟨root, front, ⟨line, before, ⟨item, qualifier, _⟩, after⟩, back⟩ := nodes
  exact ⟨root, front, ⟨line, before, ⟨Kind.noConfusion, qualifier, right_nodes⟩, after⟩, back⟩

/-- What a document names depends on its value by what the qualified value names. -/
theorem namedIn_fill {table : SymbolTable} {source : List Char} {format : RepositoryFormat}
    {around : Surroundings} {text : String} {left right : Node}
    (same : Repository.namedIn table source format
        (.qualified around.item around.negated around.qualifier left) =
      Repository.namedIn table source format
        (.qualified around.item around.negated around.qualifier right)) :
    Repository.namedIn table source format (around.fill text left).toNode =
      Repository.namedIn table source format (around.fill text right).toNode := by
  have line_eq (items : List Node) :
      Repository.namedIn table source format (.query around.line items) =
        items.flatMap (Repository.namedIn table source format) := by
    rw [Repository.namedIn_eq, partNodes_query]
    rfl
  simp only [Repository.namedIn_toNode, fill, List.flatMap_append, List.flatMap_cons, line_eq, same]

end Surroundings

namespace Repository

variable {table : SymbolTable} {source : List Char} {format : RepositoryFormat}

/-- The value of a qualifier names no repository by itself. -/
theorem namedIn_value {value : Node} (kind_mem : value.kind ∈ .missing :: Kind.qualifierValues)
    (shaped : ∀ inner ∈ value.preorder, inner.IsShaped) :
    namedIn table source format value = [] := by
  have kind_ne : value.kind ≠ .query ∧ value.kind ≠ .definition :=
    ⟨ne_of_mem_of_not_mem kind_mem (by decide), ne_of_mem_of_not_mem kind_mem (by decide)⟩
  have inner_kind : ∀ inner ∈ value.preorder, inner.kind ≠ .qualified :=
    forall_mem_preorder_iff.mpr ⟨ne_of_mem_of_not_mem kind_mem (by decide), fun _ part_mem =>
      kind_ne_qualified_of_mem_preorder shaped kind_ne part_mem⟩
  rw [namedIn, List.filterMap_eq_nil_iff]
  intro inner inner_mem
  cases inner with
  | qualified => exact absurd rfl (inner_kind _ inner_mem)
  | _ => rfl

end Repository

namespace SymbolTable

section

variable {table : SymbolTable} {document : Document} (nodes : document.HasNodesOnly) {value : Node}
  {number : Nat} {name : String} (passes : table.Passes document.lines value number name)
  (named : value.names = []) (place : Span) (label : Option Nat)

include nodes passes named

/-- A variable that a value is passed to is printed as the value. -/
theorem Passes.print_eq :
    (Node.variable place name label).print document.source.toList
        (table.update document).table.valueOf? =
      value.print document.source.toList (table.update document).table.valueOf? := by
  obtain ⟨info, bound, text_eq, _⟩ := passes.variableNamed?_update nodes named
  rw [text_eq, print, valueOf?, bound]
  rfl

/-- A variable that a value is passed to names the repository that the value names. -/
theorem Passes.namedIn_eq (kind_mem : value.kind ∈ .missing :: Kind.qualifierValues)
    (shaped : ∀ inner ∈ value.preorder, inner.IsShaped) (format : RepositoryFormat) (span : Span)
    (negated : Bool) (qualifier : Node) :
    Repository.namedIn (table.update document).table document.source.toList format
        (.qualified span negated qualifier (.variable place name label)) =
      Repository.namedIn (table.update document).table document.source.toList format
        (.qualified span negated qualifier value) := by
  have alone : Repository.namedIn (table.update document).table document.source.toList format
      (.variable place name label) = [] := rfl
  have same_text := passes.print_eq nodes named place label
  rw [Repository.namedIn_eq, Repository.namedIn_eq (.qualified span negated qualifier value),
    partNodes_qualified, partNodes_qualified]
  simp only [List.flatMap_cons, List.flatMap_nil, alone, Repository.namedIn_value kind_mem shaped,
    Repository.namedAt?, text, same_text]

/-- A variable is of the type of the value that is passed to it. -/
theorem Passes.hasType_eq (kind_mem : value.kind ∈ .missing :: Kind.qualifierValues)
    (shaped : value.IsShaped)
    (balanced : ∀ span lower upper, value = .range span (some lower) (some upper) →
      lower.kind = upper.kind) {type : ValueType} (type_mem : type ∈ [.number, .date]) :
    Validation.hasType (table.update document).table type (.variable place name label) =
      Validation.hasType (table.update document).table type value := by
  obtain ⟨info, bound, _, type_eq⟩ := passes.variableNamed?_update nodes named
  rw [Bool.eq_iff_iff,
    Validation.hasType_iff_typeOf_eq kind_mem shaped named balanced type_mem, type_eq]
  simp [Validation.hasType, bound]

/-- Let a value have no variables, and not be a range from one kind to another.  Behind a document
that passes it to a variable through a chain of definitions, the variable is said to be invalid as a
number or a date exactly if the value is, and wherever one of the two stands behind a qualifier in
the same text, the same repositories are named as with the other. -/
theorem Passes.stands_for_value (kind_mem : value.kind ∈ .missing :: Kind.qualifierValues)
    (shaped : ∀ inner ∈ value.preorder, inner.IsShaped)
    (balanced : ∀ span lower upper, value = .range span (some lower) (some upper) →
      lower.kind = upper.kind) :
    let loaded := (table.update document).table
    (∀ type ∈ [ValueType.number, .date], ∀ state span negated ofQualifier qualifier,
      (loaded.qualifierNamed? qualifier.word).map (·.expects) = some (.scalar type) →
      (Validation.checkNode loaded state ⟨.qualified span negated qualifier
          (.variable place name label), ofQualifier⟩).1.map (·.message) =
        (Validation.checkNode loaded state ⟨.qualified span negated qualifier value,
          ofQualifier⟩).1.map (·.message) ∧
      (Validation.checkNode loaded state ⟨.qualified span negated qualifier value,
          ofQualifier⟩).1.map (·.message) =
        if Validation.hasType loaded type value then []
        else ["Invalid value, expected " ++ type.name]) ∧
    ∀ (format : RepositoryFormat) (around : Surroundings),
      (around.fill document.source value).HasNodesOnly →
        Repository.ofDocument (around.fill document.source (.variable place name label)) loaded
            format =
          Repository.ofDocument (around.fill document.source value) loaded format := by
  intro loaded
  constructor
  · intro type type_mem state span negated ofQualifier qualifier expects
    have typed := passes.hasType_eq nodes named place label kind_mem
      (shaped value (self_mem_preorder value)) balanced type_mem
    have found := Validation.map_message_checkNode expects state span negated ofQualifier
    exact ⟨by rw [found, found, typed], found value⟩
  · intro format around value_nodes
    have variable_nodes :
        (around.fill document.source (.variable place name label)).HasNodesOnly :=
      Surroundings.hasNodesOnly_fill value_nodes
        (by simp [preorder_eq, partNodes, parts, Node.kind])
    rw [Repository.ofDocument_eq loaded format value_nodes,
      Repository.ofDocument_eq loaded format variable_nodes]
    exact congrArg Except.ok (Surroundings.namedIn_fill (passes.namedIn_eq nodes named place label
      kind_mem shaped format around.item around.negated around.qualifier))

end

/-- A value that is passed on twice: it is no date, and names a repository. -/
theorem Passes.stands_for_value_passed_twice :
    let table := SymbolTable.ofList [.qualifier ⟨"created", .scalar .date⟩]
    let value : Node := .literal ⟨3, 6⟩ "o/r"
    let document : Document :=
      { span := ⟨0, 18⟩
        lines :=
          [.definition ⟨0, 6⟩ (.variable ⟨0, 2⟩ "$a" none) (.query ⟨3, 6⟩ [value]) none,
            .definition ⟨7, 12⟩ (.variable ⟨7, 9⟩ "$b" none)
              (.query ⟨10, 12⟩ [.variable ⟨10, 12⟩ "$a" none]) none,
            .definition ⟨13, 18⟩ (.variable ⟨13, 15⟩ "$c" none)
              (.query ⟨16, 18⟩ [.variable ⟨16, 18⟩ "$b" none]) none]
        source := "$a=o/r\n$b=$a\n$c=$b" }
    let loaded := (table.update document).table
    let around : Surroundings :=
      ⟨⟨0, 7⟩, [], ⟨0, 7⟩, [], ⟨0, 7⟩, false, .literal ⟨0, 4⟩ "repo", [], []⟩
    document.HasNodesOnly ∧ table.Passes document.lines value 2 "$c" ∧
      (Validation.checkNode loaded .initial ⟨.qualified ⟨0, 10⟩ false (.literal ⟨0, 7⟩ "created")
        (.variable ⟨8, 10⟩ "$c" none), false⟩).1.map (·.message) =
          ["Invalid value, expected date"] ∧
      Repository.ofDocument (around.fill document.source (.variable ⟨5, 7⟩ "$c" none)) loaded
        ⟨"repo", "/"⟩ = .ok [⟨"o", "r"⟩] := by
  intro table value document loaded around
  have first : table.Passes document.lines value 0 "$a" :=
    .direct ⟨⟨_, _, _, _, rfl, rfl⟩, by decide⟩ (by decide)
  have second : table.Passes document.lines value 1 "$b" :=
    .through first (by decide) ⟨⟨_, _, _, _, rfl, rfl⟩, by decide⟩ (by decide)
  have passes : table.Passes document.lines value 2 "$c" :=
    .through second (by decide) ⟨⟨_, _, _, _, rfl, rfl⟩, by decide⟩ (by decide)
  have nodes : document.HasNodesOnly := by
    change ∀ node ∈ document.toNode.preorder, node.kind ≠ .foreign
    decide +kernel
  have value_nodes : (around.fill document.source value).HasNodesOnly := by
    change ∀ node ∈ (around.fill document.source value).toNode.preorder, node.kind ≠ .foreign
    decide +kernel
  have shaped : ∀ inner ∈ value.preorder, inner.IsShaped := by
    simp [value, preorder_eq, partNodes, parts, IsShaped]
  have stands (place : Span) := passes.stands_for_value nodes rfl place none (by decide) shaped
    fun _ _ _ range_eq => Node.noConfusion range_eq
  refine ⟨nodes, passes, ?_, ?_⟩
  · obtain ⟨same, found⟩ := (stands ⟨8, 10⟩).1 .date (by decide) .initial ⟨0, 10⟩ false false
      (.literal ⟨0, 7⟩ "created") (by decide +kernel)
    rw [same, found]
    rfl
  · rw [(stands ⟨5, 7⟩).2 ⟨"repo", "/"⟩ around value_nodes,
      Repository.ofDocument_eq loaded _ value_nodes]
    exact congrArg Except.ok (by decide +kernel)

end SymbolTable

end SearchQuery
