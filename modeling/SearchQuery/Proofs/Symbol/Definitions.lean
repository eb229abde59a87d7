import SearchQuery.Proofs.Node.Text
import SearchQuery.Proofs.Symbol.Agreement

/-!
# The definitions of a document

The definitions of some lines add one variable each, behind whatever is bound to their names.  So a
name stands for what it stood for before, if it was bound, and else for the first of the variables
that are added for it; a name that no line defines stands for the same as before.
-/

namespace SearchQuery

namespace Node

/-- The name that a line defines. -/
def definedName? : Node → Option String
  | .definition _ name _ _ => some name.word
  | _ => none

/-- The names that the value of a definition refers to. -/
def referredNames : Node → List String
  | .definition _ _ value _ => value.names
  | _ => []

/-- The names that lines define, in order. -/
def definedNames (lines : List Node) : List String := lines.filterMap definedName?

theorem mem_definedNames_append {front back : List Node} {name : String} :
    name ∈ definedNames (front ++ back) ↔ name ∈ definedNames front ∨ name ∈ definedNames back := by
  rw [definedNames, List.filterMap_append, List.mem_append]
  rfl

theorem mem_definedNames_singleton {line : Node} {name : String} :
    name ∈ definedNames [line] ↔ line.definedName? = some name := by
  simp [definedNames]

/-- A line, given by its number, is the first of some lines to define a name. -/
def IsFirstDefinition (lines : List Node) (number : Nat) (name : String) : Prop :=
  (∃ line, lines[number]? = some line ∧ line.definedName? = some name) ∧
    name ∉ definedNames (lines.take number)

end Node

namespace SymbolTable

/-! ## Added symbols -/

/-- The table with more symbols, added in order. -/
def addAll (table : SymbolTable) (symbols : List Symbol) : SymbolTable := symbols.foldl add table

theorem getAll_add (table : SymbolTable) (symbol : Symbol) (name : String) :
    (table.add symbol).getAll name =
      table.getAll name ++ if name = symbol.name then [symbol] else [] := by
  rw [getAll, getAll, add, lookup_insertSymbol]
  split <;> simp

/-- A name stands for what it stood for, or else for the symbol that is added for it. -/
theorem get?_add (table : SymbolTable) (symbol : Symbol) (name : String) :
    (table.add symbol).get? name =
      (table.get? name).or (if name = symbol.name then some symbol else none) := by
  rw [get?, getAll_add, List.head?_append, ← get?]
  split <;> rfl

/-- Behind what is bound to a name, the symbols of that name are bound to it. -/
theorem getAll_addAll (table : SymbolTable) (symbols : List Symbol) (name : String) :
    (table.addAll symbols).getAll name =
      table.getAll name ++ symbols.filter (name = ·.name) := by
  induction symbols generalizing table with
  | nil => simp [addAll]
  | cons symbol symbols induction =>
      rw [addAll, List.foldl_cons, ← addAll, induction, getAll_add, List.filter_cons]
      split <;> simp_all

/-- A name stands for what it stood for, or else for the first symbol that is added for it. -/
theorem get?_addAll (table : SymbolTable) (symbols : List Symbol) (name : String) :
    (table.addAll symbols).get? name =
      (table.get? name).or (symbols.find? (name = ·.name)) := by
  rw [get?, get?, getAll_addAll, List.head?_append, List.head?_filter]

/-! ## Tables without variables -/

/-- Only qualifiers are bound to names in a table without variables. -/
theorem isQualifier_of_mem_getAll_dropVariables {table : SymbolTable} {name : String}
    {symbol : Symbol} (member : symbol ∈ table.dropVariables.getAll name) :
    symbol.isQualifier = true := by
  rw [getAll] at member
  cases bucket_eq : table.dropVariables.buckets.lookup name with
  | none => simp [bucket_eq] at member
  | some bucket =>
      rw [bucket_eq, Option.getD_some] at member
      obtain ⟨front, back, buckets_eq, _⟩ := List.lookup_eq_some_iff.mp bucket_eq
      have bucket_mem : (name, bucket) ∈ table.dropVariables.buckets := by simp [buckets_eq]
      obtain ⟨_, _, kept⟩ := List.mem_filterMap.mp bucket_mem
      dsimp only at kept
      split at kept
      · cases kept
      · cases kept
        exact (List.mem_filter.mp member).2

theorem variableNamed?_dropVariables (table : SymbolTable) (name : String) :
    table.dropVariables.variableNamed? name = none := by
  rw [variableNamed?, get?]
  cases first_eq : (table.dropVariables.getAll name).head? with
  | none => rfl
  | some symbol =>
      have isQualifier := isQualifier_of_mem_getAll_dropVariables (List.mem_of_head? first_eq)
      cases symbol with
      | qualifier info => rfl
      | «variable» info => cases isQualifier

/-! ## Added definitions -/

variable {table : SymbolTable} {source : List Char} {number : Nat} {lines : List Node}

/-- What the definitions of some lines do to a table is to add their variables. -/
theorem table_addDefinitions (source : List Char) (table : SymbolTable) (number : Nat)
    (lines : List Node) :
    (table.addDefinitions source number lines).table =
      table.addAll ((table.addDefinitions source number lines).added.map .variable) := by
  fun_induction addDefinitions source table number lines with
  | case1 => rfl
  | case2 => rfl
  | case3 table number span name value label lines info info_eq update induction => exact induction
  | case4 table number line lines other induction => exact induction

/-- In a table without other variables, the variables of a name are those that are added for it. -/
theorem variable_mem_getAll_iff {name : String} {info : Variable} :
    .variable info ∈ (table.dropVariables.addDefinitions source number lines).table.getAll name ↔
      info ∈ (table.dropVariables.addDefinitions source number lines).added ∧ info.name = name := by
  rw [table_addDefinitions, getAll_addAll, List.mem_append, List.mem_filter]
  constructor
  · rintro (old | ⟨added, same⟩)
    · cases isQualifier_of_mem_getAll_dropVariables old
    · obtain ⟨info, info_mem, info_eq⟩ := List.mem_map.mp added
      cases info_eq
      exact ⟨info_mem, (of_decide_eq_true same).symm⟩
  · rintro ⟨added, same⟩
    exact Or.inr ⟨List.mem_map_of_mem added, decide_eq_true same.symm⟩

/-- The definitions of lines that are trees of nodes can be added. -/
theorem fault_addDefinitions {lines : List Node}
    (nodes : ∀ line ∈ lines, ∀ node ∈ line.preorder, node.kind ≠ .foreign) (source : List Char)
    (table : SymbolTable) (number : Nat) :
    (table.addDefinitions source number lines).fault = none := by
  induction lines generalizing table number with
  | nil => rfl
  | cons line lines induction =>
      rw [List.forall_mem_cons] at nodes
      cases line with
      | definition span name value label =>
          have value_inner : ∀ node ∈ value.preorder, node.kind ≠ .foreign := fun node member =>
            nodes.1 node (Node.mem_preorder_of_mem_partNodes (by simp) member)
          rw [addDefinitions, define, Node.print_eq_text source table.valueOf? value_inner]
          exact induction nodes.2 _ _
      | _ => exact induction nodes.2 _ _

/-- What a definition stores is its value as it is printed, and its type. -/
theorem define_eq_ok_iff {site : DefinitionSite} {name value : Node} {info : Variable} :
    table.define source site name value = .ok info ↔
      ∃ text, value.print source table.valueOf? = .ok text ∧
        info = ⟨name.word, table.typeOf value, text, some site⟩ := by
  rw [define]
  cases value.print source table.valueOf? with
  | error fault => simp [bind, Except.bind]
  | ok text => simp [bind, Except.bind, pure, Except.pure, eq_comm]

theorem name_of_define {site : DefinitionSite} {name value : Node} {info : Variable}
    (define_eq : table.define source site name value = .ok info) : info.name = name.word := by
  obtain ⟨_, _, rfl⟩ := define_eq_ok_iff.mp define_eq
  rfl

/-- The variables that are added have the names that the lines define. -/
theorem map_name_added (complete : (table.addDefinitions source number lines).fault = none) :
    (table.addDefinitions source number lines).added.map (·.name) = Node.definedNames lines := by
  fun_induction addDefinitions source table number lines with
  | case1 => rfl
  | case2 => cases complete
  | case3 table number span name value label lines info info_eq update induction =>
      rw [List.map_cons, name_of_define info_eq, induction complete]
      rfl
  | case4 table number line lines other induction =>
      rw [induction complete, Node.definedNames, Node.definedNames, List.filterMap_cons_none]
      cases line with
      | definition span name value label => exact absurd rfl (other span name value label)
      | _ => rfl

/-- Adding the definitions of some lines and then those of others is adding those of all. -/
theorem addDefinitions_append {front : List Node} (back : List Node)
    (complete : (table.addDefinitions source number front).fault = none) :
    table.addDefinitions source number (front ++ back) =
      let first := table.addDefinitions source number front
      let second := first.table.addDefinitions source (number + front.length) back
      { second with added := first.added ++ second.added } := by
  induction front generalizing table number with
  | nil => rfl
  | cons line front induction =>
      have length_eq : number + (line :: front).length = number + 1 + front.length := by
        rw [List.length_cons]
        omega
      cases line with
      | definition span name value label =>
          rw [List.cons_append, length_eq, addDefinitions, addDefinitions]
          rw [addDefinitions] at complete
          cases info_eq : table.define source ⟨number, span, label⟩ name value with
          | error fault => simp [info_eq] at complete
          | ok info =>
              rw [info_eq] at complete
              simp only [induction complete]
              rfl
      | _ =>
          rw [length_eq]
          exact induction complete

theorem table_addDefinitions_append {front : List Node} (back : List Node)
    (complete : (table.addDefinitions source number front).fault = none) :
    (table.addDefinitions source number (front ++ back)).table =
      ((table.addDefinitions source number front).table.addDefinitions source
        (number + front.length) back).table := by
  rw [addDefinitions_append back complete]

/-- A name that is bound stands for the same behind all definitions. -/
theorem get?_addDefinitions_of_bound {name : String} {symbol : Symbol}
    (bound : table.get? name = some symbol) :
    (table.addDefinitions source number lines).table.get? name = some symbol := by
  rw [table_addDefinitions, get?_addAll, bound, Option.some_or]

/-- A name stands for the same behind definitions of other names. -/
theorem get?_addDefinitions_of_not_mem
    (complete : (table.addDefinitions source number lines).fault = none) {name : String}
    (undefined : name ∉ Node.definedNames lines) :
    (table.addDefinitions source number lines).table.get? name = table.get? name := by
  have unnamed : ((table.addDefinitions source number lines).added.map Symbol.variable).find?
      (name = ·.name) = none := by
    rw [List.find?_eq_none, List.forall_mem_map]
    intro info info_mem same
    rw [← map_name_added complete] at undefined
    exact undefined (List.mem_map.mpr ⟨info, info_mem, (of_decide_eq_true same).symm⟩)
  rw [table_addDefinitions, get?_addAll, unnamed, Option.or_none]

/-- A name that some line defines is bound behind the lines. -/
theorem exists_get?_addDefinitions
    (complete : (table.addDefinitions source number lines).fault = none) {name : String}
    (defined : name ∈ Node.definedNames lines) :
    ∃ symbol, (table.addDefinitions source number lines).table.get? name = some symbol := by
  rw [← map_name_added complete] at defined
  obtain ⟨info, info_mem, rfl⟩ := List.mem_map.mp defined
  rw [← Option.isSome_iff_exists, table_addDefinitions, get?_addAll, Option.isSome_or,
    Bool.or_eq_true, List.find?_isSome]
  exact Or.inr ⟨.variable info, List.mem_map_of_mem info_mem, by simp [Symbol.name]⟩

/-- The table behind the definitions of the first lines, as many as `index` says. -/
def behind (table : SymbolTable) (source : List Char) (number : Nat) (lines : List Node)
    (index : Nat) : SymbolTable :=
  (table.addDefinitions source number (lines.take index)).table

theorem behind_succ {span : Span} {name value : Node} {label : Option Nat} {info : Variable}
    (info_eq : table.define source ⟨number, span, label⟩ name value = .ok info) (index : Nat) :
    table.behind source number (.definition span name value label :: lines) (index + 1) =
      (table.add (.variable info)).behind source (number + 1) lines index := by
  rw [behind, List.take_succ_cons, addDefinitions, info_eq]
  rfl

theorem behind_succ_of_other {line : Node}
    (other : ∀ span name value label, line = .definition span name value label → False)
    (index : Nat) :
    table.behind source number (line :: lines) (index + 1) =
      table.behind source (number + 1) lines index := by
  rw [behind, List.take_succ_cons, addDefinitions]
  · rfl
  · exact other

/-- One line further, the definition in that line is added, if there is one. -/
theorem behind_add_one {line : Node} {index : Nat}
    (complete : (table.addDefinitions source number (lines.take index)).fault = none)
    (line_eq : lines[index]? = some line) :
    table.behind source number lines (index + 1) =
      ((table.behind source number lines index).addDefinitions source (number + index)
        [line]).table := by
  obtain ⟨bound, _⟩ := List.getElem?_eq_some_iff.mp line_eq
  rw [behind, List.take_add_one, line_eq, Option.toList_some,
    table_addDefinitions_append _ complete, List.length_take_of_le (Nat.le_of_lt bound), behind]

/-- A name stands for the same in some line and behind all lines, unless it is defined by the line
or first defined behind it. -/
theorem get?_behind (nodes : ∀ line ∈ lines, ∀ node ∈ line.preorder, node.kind ≠ .foreign)
    {index : Nat} {line : Node} (line_eq : lines[index]? = some line) {name : String}
    (foreign : line.definedName? ≠ some name)
    (settled : name ∈ Node.definedNames (lines.drop (index + 1)) →
      name ∈ Node.definedNames (lines.take (index + 1))) :
    (table.behind source number lines index).get? name =
      (table.addDefinitions source number lines).table.get? name := by
  have front_complete := fault_addDefinitions (fun line member => nodes line
    (List.mem_of_mem_take (i := index) member)) source table number
  have back_complete := fault_addDefinitions (fun line member => nodes line
    (List.mem_of_mem_drop (i := index) member)) source (table.behind source number lines index)
    (number + (lines.take index).length)
  have whole : (table.addDefinitions source number lines).table =
      ((table.behind source number lines index).addDefinitions source
        (number + (lines.take index).length) (lines.drop index)).table := by
    conv_lhs => rw [← List.take_append_drop index lines,
      table_addDefinitions_append _ front_complete]
    rfl
  rw [whole]
  by_cases before : name ∈ Node.definedNames (lines.take index)
  · obtain ⟨symbol, bound⟩ := exists_get?_addDefinitions front_complete before
    exact bound.trans (get?_addDefinitions_of_bound bound).symm
  · refine (get?_addDefinitions_of_not_mem back_complete ?_).symm
    have here : name ∉ Node.definedNames [line] := by rwa [Node.mem_definedNames_singleton]
    have split : lines.drop index = [line] ++ lines.drop (index + 1) := by
      obtain ⟨bound, rfl⟩ := List.getElem?_eq_some_iff.mp line_eq
      exact List.drop_eq_getElem_cons bound
    rw [List.take_add_one, line_eq, Option.toList_some, Node.mem_definedNames_append] at settled
    rw [split, Node.mem_definedNames_append]
    exact not_or.mpr ⟨here, fun later => (settled later).elim before here⟩

/-- Each variable that is added is that of the definition in some line. -/
theorem exists_of_mem_added {info : Variable}
    (info_mem : info ∈ (table.addDefinitions source number lines).added) :
    ∃ index span name value label, lines[index]? = some (.definition span name value label) ∧
      (table.behind source number lines index).define source ⟨number + index, span, label⟩ name
        value = .ok info := by
  fun_induction addDefinitions source table number lines with
  | case1 => cases info_mem
  | case2 => cases info_mem
  | case3 table number span name value label lines first first_eq update induction =>
      rcases List.mem_cons.mp info_mem with rfl | later
      · exact ⟨0, span, name, value, label, rfl, first_eq⟩
      · obtain ⟨index, span', name', value', label', line_eq, define_eq⟩ := induction later
        refine ⟨index + 1, span', name', value', label', line_eq, ?_⟩
        rw [behind_succ first_eq, ← define_eq, Nat.add_comm index, Nat.add_assoc]
  | case4 table number line lines other induction =>
      obtain ⟨index, span, name, value, label, line_eq, define_eq⟩ := induction info_mem
      refine ⟨index + 1, span, name, value, label, line_eq, ?_⟩
      rw [behind_succ_of_other other, ← define_eq, Nat.add_comm index, Nat.add_assoc]

/-- The variable of each definition is added. -/
theorem exists_mem_added (complete : (table.addDefinitions source number lines).fault = none)
    {index : Nat} {span : Span} {name value : Node} {label : Option Nat}
    (line_eq : lines[index]? = some (.definition span name value label)) :
    ∃ info ∈ (table.addDefinitions source number lines).added,
      (table.behind source number lines index).define source ⟨number + index, span, label⟩ name
        value = .ok info := by
  fun_induction addDefinitions source table number lines generalizing index with
  | case1 => simp at line_eq
  | case2 => cases complete
  | case3 table number span' name' value' label' lines first first_eq update induction =>
      cases index with
      | zero =>
          cases line_eq
          exact ⟨first, List.mem_cons_self, first_eq⟩
      | succ index =>
          obtain ⟨info, info_mem, define_eq⟩ := induction complete line_eq
          refine ⟨info, List.mem_cons_of_mem _ info_mem, ?_⟩
          rw [behind_succ first_eq, ← define_eq, Nat.add_comm index, Nat.add_assoc]
  | case4 table number line lines other induction =>
      cases index with
      | zero => exact absurd (Option.some.inj line_eq) (other span name value label)
      | succ index =>
          obtain ⟨info, info_mem, define_eq⟩ := induction complete line_eq
          refine ⟨info, info_mem, ?_⟩
          rw [behind_succ_of_other other, ← define_eq, Nat.add_comm index, Nat.add_assoc]

/-- The variable of a definition knows the number of its line. -/
theorem exists_site_of_mem_added {lines : List Node} {info : Variable}
    (info_mem : info ∈ (table.addDefinitions source number lines).added) :
    ∃ site, info.definition = some site ∧ number ≤ site.line ∧
      site.line < number + lines.length := by
  obtain ⟨index, span, defined, value, label, line_eq, define_eq⟩ := exists_of_mem_added info_mem
  obtain ⟨text, _, rfl⟩ := define_eq_ok_iff.mp define_eq
  obtain ⟨bound, _⟩ := List.getElem?_eq_some_iff.mp line_eq
  exact ⟨_, rfl, Nat.le_add_right number index, Nat.add_lt_add_left bound number⟩

/-- All variables of the table are defined in front of a line, given its number. -/
def IsDefinedBefore (table : SymbolTable) (number : Nat) : Prop :=
  ∀ name info site, .variable info ∈ table.getAll name → info.definition = some site →
    site.line < number

theorem isDefinedBefore_addDefinitions (table : SymbolTable) (source : List Char)
    (lines : List Node) :
    (table.dropVariables.addDefinitions source 0 lines).table.IsDefinedBefore lines.length := by
  intro name info site info_mem site_eq
  obtain ⟨own, own_eq, _, own_lt⟩ :=
    exists_site_of_mem_added (variable_mem_getAll_iff.mp info_mem).1
  obtain rfl : site = own := Option.some.inj (site_eq.symm.trans own_eq)
  omega

/-- A name that is bound behind some lines stands for the same behind more of them. -/
theorem get?_behind_of_le
    (nodes : ∀ line ∈ lines, ∀ node ∈ line.preorder, node.kind ≠ .foreign) {fewer index : Nat}
    (le : fewer ≤ index) {name : String} {symbol : Symbol}
    (bound : (table.behind source number lines fewer).get? name = some symbol) :
    (table.behind source number lines index).get? name = some symbol := by
  have complete := fault_addDefinitions (fun line member => nodes line
    (List.mem_of_mem_take (i := fewer) member)) source table number
  have split := (List.take_append_drop fewer (lines.take index)).symm
  rw [List.take_take, Nat.min_eq_left le] at split
  rw [behind, split, table_addDefinitions_append _ complete]
  exact get?_addDefinitions_of_bound bound

/-- The variable that a name stands for behind some lines is that of the first of them to define
the name. -/
theorem isFirstDefinition_of_variableNamed?
    (nodes : ∀ line ∈ lines, ∀ node ∈ line.preorder, node.kind ≠ .foreign) {index : Nat}
    {name : String} {info : Variable}
    (named : (table.dropVariables.behind source 0 lines index).variableNamed? name = some info) :
    ∃ site, info.definition = some site ∧ site.line < index ∧
      Node.IsFirstDefinition lines site.line name := by
  have bound : (table.dropVariables.behind source 0 lines index).get? name =
      some (.variable info) := by
    rw [variableNamed?] at named
    obtain ⟨symbol, symbol_eq, variable_eq⟩ := Option.bind_eq_some_iff.mp named
    cases symbol with
    | qualifier => cases variable_eq
    | «variable» => cases variable_eq; exact symbol_eq
  obtain ⟨info_mem, rfl⟩ := variable_mem_getAll_iff.mp (List.mem_of_head? bound)
  obtain ⟨number, span, defined, value, label, line_eq, define_eq⟩ := exists_of_mem_added info_mem
  obtain ⟨text, _, info_eq⟩ := define_eq_ok_iff.mp define_eq
  have site_eq : info.definition = some ⟨0 + number, span, label⟩ := by rw [info_eq]
  have number_lt : number < index := by
    obtain ⟨in_range, _⟩ := List.getElem?_eq_some_iff.mp line_eq
    rw [List.length_take] at in_range
    omega
  rw [List.getElem?_take_of_lt number_lt] at line_eq
  rw [Nat.zero_add] at site_eq
  refine ⟨_, site_eq, number_lt, ⟨_, line_eq, ?_⟩, fun earlier => ?_⟩
  · rw [info_eq]
    rfl
  · have complete := fault_addDefinitions (fun line member => nodes line
      (List.mem_of_mem_take (i := number) member)) source table.dropVariables 0
    obtain ⟨symbol, symbol_eq⟩ := exists_get?_addDefinitions complete earlier
    rw [get?_behind_of_le nodes (Nat.le_of_lt number_lt) symbol_eq] at bound
    obtain rfl := Option.some.inj bound
    have site_lt := isDefinedBefore_addDefinitions table source _ _ _ _
      (List.mem_of_head? symbol_eq) site_eq
    rw [List.length_take] at site_lt
    dsimp only at site_lt
    omega

end SymbolTable

end SearchQuery
