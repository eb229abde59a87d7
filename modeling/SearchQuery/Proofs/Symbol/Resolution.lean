import SearchQuery.Proofs.Line.Text
import SearchQuery.Proofs.Validation.Clean

/-!
# Resolved variables

The value and the type of a variable are worked out while the table is still being filled.  If
nothing is wrong with the document in the end, they are those that the full table gives, for every
definition that refers to no variable first defined behind it.

A definition that refers ahead is not told apart by validation: its variable is known by then, but
nothing stood for it when its value was printed.
-/

namespace SearchQuery

namespace Node

/-- The definition in some line refers to a variable that is first defined in a later line. -/
def RefersAhead (lines : List Node) (number : Nat) : Prop :=
  ∃ name ∈ lines[number]?.elim [] referredNames,
    name ∈ definedNames (lines.drop (number + 1)) ∧ name ∉ definedNames (lines.take (number + 1))

instance (lines : List Node) (number : Nat) : Decidable (RefersAhead lines number) :=
  inferInstanceAs (Decidable (∃ name ∈ lines[number]?.elim [] referredNames, _ ∧ _))

end Node

namespace SymbolTable

/-! ## Stored definitions -/

/-- A variable is stored for a definition, and its value and type are those that the table gives. -/
structure Stores (table : SymbolTable) (source : List Char) (site : DefinitionSite)
    (name value : Node) : Prop where
  /-- There is such a variable. -/
  stored : ∃ info, .variable info ∈ table.getAll name.word ∧ info.definition = some site
  /-- Its value and type are those of the table. -/
  agrees : ∀ info, .variable info ∈ table.getAll name.word → info.definition = some site →
    value.print source table.valueOf? = .ok info.value ∧ table.typeOf value = info.type

section

variable {table : SymbolTable} {source : List Char} {lines : List Node}
  (nodes : ∀ line ∈ lines, ∀ node ∈ line.preorder, node.kind ≠ .foreign)
  {index : Nat} {span : Span} {name value : Node} {label : Option Nat}
  (line_eq : lines[index]? = some (.definition span name value label))

include nodes line_eq

/-- What a definition refers to is the same where it is added and behind all lines, if it refers
neither to itself nor ahead. -/
theorem variableNamed?_behind (other_names : ∀ other ∈ value.names, other ≠ name.word)
    (settled : ¬ Node.RefersAhead lines index) :
    ∀ other ∈ value.names, (table.behind source 0 lines index).variableNamed? other =
      (table.addDefinitions source 0 lines).table.variableNamed? other := by
  intro other member
  have foreign : (Node.definition span name value label).definedName? ≠ some other := fun same =>
    other_names other member (Option.some.inj same).symm
  rw [variableNamed?, variableNamed?, get?_behind nodes line_eq foreign fun later => ?_]
  by_contra unknown
  exact settled ⟨other, by rwa [line_eq], later, unknown⟩

theorem stores_addDefinitions (other_names : ∀ other ∈ value.names, other ≠ name.word)
    (settled : ¬ Node.RefersAhead lines index) :
    (table.dropVariables.addDefinitions source 0 lines).table.Stores source ⟨index, span, label⟩
      name value := by
  have complete := fault_addDefinitions nodes source table.dropVariables 0
  constructor
  · obtain ⟨info, info_mem, info_eq⟩ := exists_mem_added complete line_eq
    obtain ⟨text, text_eq, rfl⟩ := define_eq_ok_iff.mp info_eq
    exact ⟨_, variable_mem_getAll_iff.mpr ⟨info_mem, rfl⟩, by simp⟩
  · intro info info_mem site_eq
    obtain ⟨place, span', name', value', label', place_eq, info_eq⟩ :=
      exists_of_mem_added (variable_mem_getAll_iff.mp info_mem).1
    obtain ⟨text, text_eq, rfl⟩ := define_eq_ok_iff.mp info_eq
    have same : place = index := by simpa using congrArg (Option.map DefinitionSite.line) site_eq
    subst same
    obtain ⟨rfl, rfl, rfl, rfl⟩ :
        span = span' ∧ name = name' ∧ value = value' ∧ label = label' := by
      simpa [line_eq] using place_eq
    have found : ∀ other ∈ value.names,
        (table.dropVariables.behind source 0 lines place).variableNamed? other =
          (table.dropVariables.addDefinitions source 0 lines).table.variableNamed? other :=
      variableNamed?_behind nodes line_eq other_names settled
    refine ⟨?_, typeOf_congr fun other member => congrArg _ (found other member).symm⟩
    rw [← text_eq]
    exact (Node.print_congr fun other member => by rw [valueOf?, valueOf?, found other member]).symm

end

/-! ## Values that are not empty -/

/-- No variable stands for the empty text. -/
def HasText (table : SymbolTable) : Prop :=
  ∀ name word, table.valueOf? name = some word → word ≠ ""

theorem hasText_dropVariables (table : SymbolTable) : table.dropVariables.HasText := by
  intro name word word_eq
  rw [valueOf?, variableNamed?_dropVariables] at word_eq
  cases word_eq

theorem HasText.add {table : SymbolTable} (hasText : table.HasText) {info : Variable}
    (nonempty : info.value ≠ "") : (table.add (.variable info)).HasText := by
  intro name word word_eq
  rw [valueOf?, variableNamed?, get?_add] at word_eq
  cases found : table.get? name with
  | some symbol =>
      rw [found, Option.some_or] at word_eq
      apply hasText name word
      rw [valueOf?, variableNamed?, found, word_eq]
  | none =>
      rw [found, Option.none_or] at word_eq
      split at word_eq
      · obtain rfl := Option.some.inj word_eq
        exact nonempty
      · cases word_eq

/-- If the variables in the value of each definition are bound where it is added, no definition
stores the empty text. -/
theorem hasText_behind {table : SymbolTable} {source : List Char} {lines : List Node}
    (hasText : table.HasText)
    (nodes : ∀ line ∈ lines, ∀ node ∈ line.preorder, node.kind ≠ .foreign)
    (each : ∀ index span name value label,
      lines[index]? = some (.definition span name value label) →
        value.kind = .query ∧ value.IsWritten source ∧
          ∀ other ∈ value.names,
            ((table.behind source 0 lines index).variableNamed? other).isSome = true)
    (index : Nat) : (table.behind source 0 lines index).HasText := by
  induction index with
  | zero => exact hasText
  | succ index induction =>
      cases line_eq : lines[index]? with
      | none =>
          have same : lines.take (index + 1) = lines.take index := by
            rw [List.take_add_one, line_eq, Option.toList_none, List.append_nil]
          rw [behind, same]
          exact induction
      | some line =>
          have complete := fault_addDefinitions (fun line member => nodes line
            (List.mem_of_mem_take (i := index) member)) source table 0
          rw [behind_add_one complete line_eq]
          cases line with
          | definition span name value label =>
              obtain ⟨isQuery, written, bound⟩ := each index span name value label line_eq
              have resolved : ∀ other ∈ value.names, ∃ word,
                  (table.behind source 0 lines index).valueOf? other = some word ∧ word ≠ "" := by
                intro other member
                obtain ⟨info, info_eq⟩ := Option.isSome_iff_exists.mp (bound other member)
                have word_eq : (table.behind source 0 lines index).valueOf? other =
                    some info.value := by rw [valueOf?, info_eq, Option.map_some]
                exact ⟨info.value, word_eq, induction other info.value word_eq⟩
              rw [addDefinitions]
              cases info_eq : (table.behind source 0 lines index).define source
                  ⟨0 + index, span, label⟩ name value with
              | error fault => exact induction
              | ok info =>
                  obtain ⟨text, text_eq, rfl⟩ := define_eq_ok_iff.mp info_eq
                  exact induction.add (Node.text_ne_empty_of_query written isQuery resolved text_eq)
          | _ => exact induction

/-! ## Documents without findings -/

section

variable {table : SymbolTable} {text : String}
  (clean : Validation.ofDocument table (.ofText text) = .ok [])

include clean

/-- In a document without findings, a definition does not refer to itself. -/
theorem names_ne_of_clean {number : Nat} {span : Span} {name value : Node} {label : Option Nat}
    (line_eq : (Document.ofText text).lines[number]? = some (.definition span name value label)) :
    ∀ other ∈ value.names, other ≠ name.word := fun _ member =>
  Validation.ne_word_of_mem_names
    (Validation.foundAt_eq_nil clean (List.mem_of_getElem? line_eq) (Node.self_mem_preorder _))
    member

/-- In a document without findings, the value of a definition is written out. -/
theorem isWritten_of_clean {number : Nat} {span : Span} {name value : Node} {label : Option Nat}
    (line_eq : (Document.ofText text).lines[number]? = some (.definition span name value label)) :
    value.kind = .query ∧ value.IsWritten text.toList := by
  have line_mem := List.mem_of_getElem? line_eq
  have value_mem : value ∈ (Node.definition span name value label).partNodes := by simp
  have inside : ∀ node ∈ value.preorder, node ∈ (Node.definition span name value label).preorder :=
    fun node member => Node.mem_preorder_of_mem_partNodes value_mem member
  have shaped := (Document.isShaped_of_mem_lines line_mem).2
  have isQuery : value.kind = .query := (shaped _ (Node.self_mem_preorder _)).2.1
  have nothing := Validation.checkNode_eq_nil isQuery
    (fun node member => shaped node (inside node member))
    (Validation.foundAt_eq_nil clean line_mem (inside value (Node.self_mem_preorder value)))
  have present : ∀ node ∈ value.preorder, node.kind ≠ .missing := by
    intro node member missing
    obtain ⟨visit, visit_mem, rfl⟩ := List.mem_map.mp member
    have unfound := nothing visit visit_mem
    cases node_eq : visit.node with
    | missing place message => simp [Validation.checkNode, node_eq] at unfound
    | _ => simp [node_eq, Node.kind] at missing
  obtain ⟨source, source_mem, node_eq⟩ := List.mem_map.mp line_mem
  obtain ⟨root, nodePlaced⟩ := Document.exists_nodePlaced_of_mem_significantLines source_mem
  rw [← node_eq] at inside
  refine ⟨isQuery, fun node member => shaped node (node_eq ▸ inside node member),
    fun node member => Document.placed_of_mem_significantLines source_mem (inside node member),
    fun node member => ?_, present⟩
  rcases nodePlaced.node_solid (inside node member) with (solid | missing) | empty
  · exact solid
  · exact absurd missing (present node member)
  · obtain ⟨place, _, _, _, rfl⟩ := empty
    refine absurd rfl (present (.missing (.point place.stop) Line.missingValue) ?_)
    exact Node.mem_preorder_of_mem_parts member (by simp)

end

/-- If nothing is wrong with a document in the end, each definition that does not refer ahead is
stored with the value and the type that the full table gives.  If no definition refers ahead, all
variables in a definition stood for some text when it was stored, unless the empty text is in a set
of values. -/
theorem stores_load_of_clean {table : SymbolTable} {text : String}
    (clean : Validation.ofDocument (table.load text).2 (table.load text).1 = .ok []) :
    (∀ number span name value label,
        (table.load text).1.lines[number]? = some (.definition span name value label) →
        ¬ Node.RefersAhead (table.load text).1.lines number →
        (table.load text).2.Stores text.toList ⟨number, span, label⟩ name value) ∧
      ((∀ set ∈ (table.load text).2.valueSets, "" ∉ set) →
        (∀ number, ¬ Node.RefersAhead (table.load text).1.lines number) →
        ∀ number span name value label,
          (table.load text).1.lines[number]? = some (.definition span name value label) →
          ∀ other ∈ value.names, ∃ word,
            (table.dropVariables.behind text.toList 0 (table.load text).1.lines number).valueOf?
              other = some word ∧ word ≠ "") := by
  have nodes : ∀ line ∈ (Document.ofText text).lines, ∀ node ∈ line.preorder,
      node.kind ≠ .foreign :=
    fun _ member => (Document.hasNodesOnly_ofText text).kind_ne_of_mem_lines member
  refine ⟨fun number span name value label line_eq settled =>
    stores_addDefinitions nodes line_eq (names_ne_of_clean clean line_eq) settled,
    fun sets settled => ?_⟩
  have bound : ∀ number span name value label,
      (Document.ofText text).lines[number]? = some (.definition span name value label) →
      ∀ other ∈ value.names, ((table.dropVariables.behind text.toList 0 (Document.ofText text).lines
        number).variableNamed? other).isSome = true := by
    intro number span name value label line_eq other member
    have line_mem := List.mem_of_getElem? line_eq
    have value_mem : value ∈ (Node.definition span name value label).partNodes := by simp
    obtain ⟨isQuery, written⟩ := isWritten_of_clean clean line_eq
    have nothing := Validation.foundAt_eq_nil clean line_mem
      (Node.mem_preorder_of_mem_partNodes value_mem (Node.self_mem_preorder value))
    rw [variableNamed?_behind nodes line_eq (names_ne_of_clean clean line_eq) (settled number) other
      member]
    exact Validation.isSome_variableNamed? sets isQuery written.shaped nothing member
  have hasText := hasText_behind (hasText_dropVariables table) nodes
    fun number span name value label line_eq =>
      ⟨(isWritten_of_clean clean line_eq).1, (isWritten_of_clean clean line_eq).2,
        bound number span name value label line_eq⟩
  intro number span name value label line_eq other member
  obtain ⟨info, info_eq⟩ := Option.isSome_iff_exists.mp
    (bound number span name value label line_eq other member)
  refine ⟨info.value, ?_, hasText number other info.value ?_⟩
  · exact congrArg (Option.map Variable.value) info_eq
  · rw [valueOf?, info_eq, Option.map_some]

/-- A definition that refers to the one before it. -/
theorem stores_load_backward :
    let text := "$a=x y\n$b=is:$a $a"
    let table := SymbolTable.empty.add (.qualifier ⟨"is", .scalar .unknown⟩)
    Validation.ofDocument (table.load text).2 (table.load text).1 = .ok [] ∧
      ∃ span name value label,
        (table.load text).1.lines[1]? = some (.definition span name value label) ∧
        value.names = ["$a", "$a"] ∧
        (table.load text).2.Stores text.toList ⟨1, span, label⟩ name value := by
  intro text table
  have clean : Validation.ofDocument (table.load text).2 (table.load text).1 = .ok [] :=
    (Validation.ofDocument_eq _ (Document.hasNodesOnly_ofText text)).trans
      (congrArg Except.ok (List.isEmpty_iff.mp (by decide +kernel)))
  have names_eq : (table.load text).1.lines[1]?.map (fun line => (line.kind, line.referredNames)) =
      some (.definition, ["$a", "$a"]) := by
    decide +kernel
  obtain ⟨line, line_eq, line_names⟩ := Option.map_eq_some_iff.mp names_eq
  cases line with
  | definition span name value label =>
      exact ⟨clean, span, name, value, label, line_eq, congrArg Prod.snd line_names,
        (stores_load_of_clean clean).1 1 span name value label line_eq (by decide +kernel)⟩
  | _ => cases congrArg Prod.fst line_names

/-- A definition that refers ahead need not be stored with the type of its value, though nothing is
wrong with the document; and where the empty text is in a set of values, a variable that stands for
nothing may be referred to. -/
theorem not_stores_load_of_refersAhead :
    (¬ ∀ (table : SymbolTable) (text : String),
      (∀ symbol ∈ table.symbols, symbol.isQualifier = true → ¬ ['$'] <+: symbol.name.toList) →
      Validation.ofDocument (table.load text).2 (table.load text).1 = .ok [] →
      ∀ number span name value label,
        (table.load text).1.lines[number]? = some (.definition span name value label) →
        (table.load text).2.Stores text.toList ⟨number, span, label⟩ name value) ∧
    ¬ ∀ (table : SymbolTable) (text : String),
      Validation.ofDocument (table.load text).2 (table.load text).1 = .ok [] →
      (∀ number, ¬ Node.RefersAhead (table.load text).1.lines number) →
      ∀ number : Nat, ∀ name ∈ (table.load text).1.lines[number]?.elim [] Node.referredNames,
        ((table.load text).2.valueOf? name).isSome = true := by
  constructor
  · intro stores
    have clean : Validation.ofDocument (empty.load "$b=$a\n$a=1").2 (empty.load "$b=$a\n$a=1").1 =
        .ok [] :=
      (Validation.ofDocument_eq _ (Document.hasNodesOnly_ofText _)).trans
        (congrArg Except.ok (List.isEmpty_iff.mp (by decide +kernel)))
    have first_eq : (empty.load "$b=$a\n$a=1").1.lines[0]?.map (fun line =>
        (line.definedName?, line.partNodes.map (empty.load "$b=$a\n$a=1").2.typeOf)) =
        some (some "$b", [.unknown, .number]) := by
      decide +kernel
    have getAll_eq : (empty.load "$b=$a\n$a=1").2.getAll "$b" =
        [.variable ⟨"$b", .unknown, "", some ⟨0, ⟨0, 5⟩, none⟩⟩] := by
      decide +kernel
    obtain ⟨line, line_eq, parts_eq⟩ := Option.map_eq_some_iff.mp first_eq
    cases line with
    | definition span name value label =>
        have stored := stores empty "$b=$a\n$a=1" (by decide) clean 0 span name value label line_eq
        obtain ⟨info, info_mem, site_eq⟩ := stored.stored
        have type_eq := (stored.agrees info info_mem site_eq).2
        simp only [Node.definedName?, Node.partNodes_definition, List.map_cons, List.map_nil,
          Prod.mk.injEq, Option.some.injEq, List.cons.injEq, and_true] at parts_eq
        rw [parts_eq.1, getAll_eq, List.mem_singleton, Symbol.variable.injEq] at info_mem
        rw [parts_eq.2.2, info_mem] at type_eq
        cases type_eq
    | _ => cases congrArg Prod.fst parts_eq
  · intro bound
    let table := empty.add (.qualifier ⟨"is", .oneOf [[""]]⟩)
    have clean : Validation.ofDocument (table.load "$a=is:$b").2 (table.load "$a=is:$b").1 =
        .ok [] :=
      (Validation.ofDocument_eq _ (Document.hasNodesOnly_ofText _)).trans
        (congrArg Except.ok (List.isEmpty_iff.mp (by decide +kernel)))
    have single : (table.load "$a=is:$b").1.lines.length = 1 := by decide +kernel
    have settled : ∀ number, ¬ Node.RefersAhead (table.load "$a=is:$b").1.lines number := by
      intro number ⟨name, _, later, _⟩
      rw [List.drop_eq_nil_of_le (by omega)] at later
      cases later
    exact absurd (bound table "$a=is:$b" clean settled 0 "$b" (by decide +kernel))
      (by decide +kernel)

end SymbolTable

end SearchQuery
