import Mathlib.Data.List.Forall2
import SearchQuery.Proofs.Symbol.Moved

/-!
# Tables that are alike

Two texts may have the same lines but for some of them, the affected ones.  If no other line depends
on these, the tables that the texts are loaded into are alike: every name has symbols of the same
kinds, defined in the same lines, and those that are not defined in an affected line have the same
types and values.
-/

namespace SearchQuery

/-- Variables of one name that are defined in the same line, and have the same content unless that
line is affected. -/
structure Variable.AlikeUnless (affected : Nat → Prop) (left right : Variable) : Prop where
  /-- They have the same name. -/
  name_eq : left.name = right.name
  /-- They are defined in the same line. -/
  line_eq : left.definition.map (·.line) = right.definition.map (·.line)
  /-- They have the same type and value. -/
  content_eq : (∀ number ∈ left.definition.map (·.line), ¬ affected number) →
    left.content = right.content

namespace Symbol

/-- The same qualifier, or variables that are alike. -/
inductive AlikeUnless (affected : Nat → Prop) : Symbol → Symbol → Prop where
  | qualifier (info : Qualifier) : AlikeUnless affected (.qualifier info) (.qualifier info)
  | variable {left right : Variable} (alike : left.AlikeUnless affected right) :
      AlikeUnless affected (.variable left) (.variable right)

variable {affected : Nat → Prop}

theorem AlikeUnless.refl (symbol : Symbol) : symbol.AlikeUnless affected symbol := by
  cases symbol with
  | qualifier info => exact .qualifier info
  | «variable» info => exact .variable ⟨rfl, rfl, fun _ => rfl⟩

theorem AlikeUnless.name_eq {left right : Symbol} (alike : left.AlikeUnless affected right) :
    left.name = right.name := by
  cases alike with
  | qualifier info => rfl
  | «variable» alike => exact alike.name_eq

theorem AlikeUnless.content_eq {left right : Symbol}
    (alike : left.AlikeUnless (fun _ => False) right) : left.content = right.content := by
  cases alike with
  | qualifier info => rfl
  | «variable» alike => exact congrArg Sum.inr (alike.content_eq fun _ _ => not_false)

/-- What is the same for symbols that are alike is the same, one after the other. -/
theorem map_eq_of_alikeUnless {α : Type} {symbols others : List Symbol}
    (alike : List.Forall₂ (AlikeUnless affected) symbols others) {property : Symbol → α}
    (same : ∀ symbol other, symbol.AlikeUnless affected other →
      property symbol = property other) :
    symbols.map property = others.map property := by
  rw [← List.forall₂_eq_eq_eq, List.forall₂_map_left_iff, List.forall₂_map_right_iff]
  exact alike.imp same

end Symbol

namespace SymbolTable

/-- The names are the same, in the same order, and each has symbols that are alike. -/
def AlikeUnless (affected : Nat → Prop) (left right : SymbolTable) : Prop :=
  List.Forall₂ (fun first second =>
    first.1 = second.1 ∧ List.Forall₂ (Symbol.AlikeUnless affected) first.2 second.2)
    left.buckets right.buckets

namespace AlikeUnless

variable {affected : Nat → Prop} {left right : SymbolTable}

theorem refl (table : SymbolTable) : table.AlikeUnless affected table :=
  List.forall₂_same.mpr fun _ _ => ⟨rfl, List.forall₂_same.mpr fun symbol _ => .refl symbol⟩

variable (alike : left.AlikeUnless affected right)

include alike

theorem add {symbol other : Symbol} (symbol_alike : symbol.AlikeUnless affected other) :
    (left.add symbol).AlikeUnless affected (right.add other) := by
  obtain ⟨buckets⟩ := left
  obtain ⟨buckets'⟩ := right
  change List.Forall₂ _ buckets buckets' at alike
  change List.Forall₂ _ (insertSymbol symbol buckets) (insertSymbol other buckets')
  induction alike with
  | nil =>
      rw [insertSymbol, insertSymbol, symbol_alike.name_eq]
      exact .cons ⟨rfl, .cons symbol_alike .nil⟩ .nil
  | cons first rest induction =>
      rw [insertSymbol, insertSymbol, ← first.1, ← symbol_alike.name_eq]
      split
      · exact .cons ⟨rfl, List.rel_append first.2 (.cons symbol_alike .nil)⟩ rest
      · exact .cons first induction

/-- Each name has symbols that are alike. -/
theorem getAll (name : String) :
    List.Forall₂ (Symbol.AlikeUnless affected) (left.getAll name) (right.getAll name) := by
  obtain ⟨buckets⟩ := left
  obtain ⟨buckets'⟩ := right
  change List.Forall₂ _ buckets buckets' at alike
  rw [SymbolTable.getAll, SymbolTable.getAll]
  induction alike with
  | nil => exact .nil
  | cons first rest induction =>
      rw [List.lookup_cons, List.lookup_cons, ← first.1]
      split
      · exact first.2
      · exact induction

/-- The symbols of the tables are alike, in the same order. -/
theorem symbols : List.Forall₂ (Symbol.AlikeUnless affected) left.symbols right.symbols := by
  obtain ⟨buckets⟩ := left
  obtain ⟨buckets'⟩ := right
  change List.Forall₂ _ buckets buckets' at alike
  rw [SymbolTable.symbols, SymbolTable.symbols]
  induction alike with
  | nil => exact .nil
  | cons first rest induction => exact List.rel_append first.2 induction

/-- Names stand for the same, if the variables that they stand for are not affected. -/
theorem resemblesOn {names : List String}
    (unaffected : ∀ name ∈ names, ∀ info, left.variableNamed? name = some info →
      ∀ number ∈ info.definition.map (·.line), ¬ affected number) :
    ResemblesOn names left right := by
  have head (name : String) : Option.Rel (Symbol.AlikeUnless affected) (left.get? name)
      (right.get? name) := by
    have all := alike.getAll name
    rw [get?, get?]
    generalize left.getAll name = symbols, right.getAll name = others at all
    cases all with
    | nil => exact .none
    | cons first rest => exact .some first
  constructor
  · funext name
    have first := head name
    rw [qualifierNamed?, qualifierNamed?]
    generalize left.get? name = symbol, right.get? name = other at first
    cases first with
    | none => rfl
    | some first => cases first <;> rfl
  · intro name member
    have first := head name
    have free := unaffected name member
    rw [variableNamed?] at free ⊢
    rw [variableNamed?]
    generalize left.get? name = symbol, right.get? name = other at first free
    cases first with
    | none => rfl
    | some first =>
        cases first with
        | qualifier info => rfl
        | «variable» info_alike => exact congrArg some (info_alike.content_eq (free _ rfl))

end AlikeUnless

end SymbolTable

/-! ## Lines of two texts -/

namespace Node

/-- A line stands for a line of another text: it defines the same name, and unless it is changed, it
is the same line, moved. -/
structure StandsFor (changed : Prop) (source other : List Char) (line moved : Node) : Prop where
  /-- The same name is defined. -/
  definedName?_eq : line.definedName? = moved.definedName?
  /-- The line is the same but for its place. -/
  moves : ¬ changed → ∃ distance, moved = line.shift distance ∧
    line.PrintsAlike other source distance

/-- The lines that are not affected do not refer to variables that affected lines in front of them
are the first to define. -/
def Confines (lines : List Node) (affected : Nat → Prop) : Prop :=
  ∀ number line, lines[number]? = some line → ¬ affected number → ∀ name ∈ line.referredNames,
    ∀ first < number, IsFirstDefinition lines first name → ¬ affected first

end Node

namespace SymbolTable

variable {affected : Nat → Prop} {left right table : SymbolTable} {source other : List Char}
  {line moved : Node} {lines others : List Node} {number : Nat}

/-- The definition in a line adds its variable. -/
theorem exists_define {name : String} (defines : line.definedName? = some name)
    (nodes : ∀ node ∈ line.preorder, node.kind ≠ .foreign) (source : List Char)
    (table : SymbolTable) (number : Nat) :
    ∃ span defined value label info, line = .definition span defined value label ∧
      table.define source ⟨number, span, label⟩ defined value = .ok info ∧
      (table.addDefinitions source number [line]).table = table.add (.variable info) := by
  cases line with
  | definition span defined value label =>
      have complete :=
        fault_addDefinitions (List.forall_mem_singleton.mpr nodes) source table number
      rw [addDefinitions] at complete ⊢
      cases info_eq : table.define source ⟨number, span, label⟩ defined value with
      | error fault => simp [info_eq] at complete
      | ok info => exact ⟨span, defined, value, label, info, rfl, info_eq, rfl⟩
  | _ => cases defines

/-- A line that defines no name adds nothing. -/
theorem table_addDefinitions_of_undefined (undefined : line.definedName? = none)
    (source : List Char) (table : SymbolTable) (number : Nat) :
    (table.addDefinitions source number [line]).table = table := by
  cases line with
  | definition span defined value label => cases undefined
  | _ => rfl

/-- Tables stay alike behind lines that stand for each other, if names stand for the same in a line
that is not affected. -/
theorem AlikeUnless.addDefinition (alike : left.AlikeUnless affected right)
    (line_nodes : ∀ node ∈ line.preorder, node.kind ≠ .foreign)
    (moved_nodes : ∀ node ∈ moved.preorder, node.kind ≠ .foreign)
    (standsFor : line.StandsFor (affected number) source other moved)
    (resembles : ¬ affected number → ResemblesOn line.referredNames left right) :
    (left.addDefinitions source number [line]).table.AlikeUnless affected
      (right.addDefinitions other number [moved]).table := by
  have same := standsFor.definedName?_eq
  cases name_eq : line.definedName? with
  | none =>
      rw [table_addDefinitions_of_undefined name_eq,
        table_addDefinitions_of_undefined (same.symm.trans name_eq)]
      exact alike
  | some name =>
      obtain ⟨span, defined, value, label, info, rfl, info_eq, table_eq⟩ :=
        exists_define name_eq line_nodes source left number
      obtain ⟨span', defined', value', label', info', rfl, info_eq', table_eq'⟩ :=
        exists_define (same.symm.trans name_eq) moved_nodes other right number
      rw [table_eq, table_eq']
      refine alike.add (.variable ⟨?_, ?_, fun unaffected => ?_⟩)
      · rw [name_of_define info_eq, name_of_define info_eq']
        exact Option.some.inj same
      · obtain ⟨text, _, rfl⟩ := define_eq_ok_iff.mp info_eq
        obtain ⟨text', _, rfl⟩ := define_eq_ok_iff.mp info_eq'
        rfl
      · have here : ¬ affected number := by
          obtain ⟨text, _, rfl⟩ := define_eq_ok_iff.mp info_eq
          exact unaffected number rfl
        obtain ⟨distance, moved_eq, line_alike⟩ := standsFor.moves here
        rw [Node.shift, Node.definition.injEq] at moved_eq
        obtain ⟨rfl, rfl, rfl, rfl⟩ := moved_eq
        have value_alike : value.PrintsAlike other source distance := line_alike.part (by simp)
        have info_eq'' := define_move (resembles here).symm 0 ⟨number, span, label'⟩ defined
          value_alike
        rw [info_eq, DefinitionSite.move, Nat.add_zero, info_eq'] at info_eq''
        rw [Except.ok.inj info_eq'', Variable.content_move]

section

variable (line_nodes : ∀ line ∈ lines, ∀ node ∈ line.preorder, node.kind ≠ .foreign)
  (other_nodes : ∀ line ∈ others, ∀ node ∈ line.preorder, node.kind ≠ .foreign)
  (length_eq : lines.length = others.length)
  (standsFor : ∀ (number : Nat) (line moved : Node), lines[number]? = some line →
    others[number]? = some moved → line.StandsFor (affected number) source other moved)
  (confined : Node.Confines lines affected)

include line_nodes other_nodes length_eq standsFor confined

/-- Behind as many lines of two texts, tables are alike. -/
theorem alikeUnless_behind (table : SymbolTable) (index : Nat) :
    (table.dropVariables.behind source 0 lines index).AlikeUnless affected
      (table.dropVariables.behind other 0 others index) := by
  induction index with
  | zero => exact .refl _
  | succ index induction =>
      rcases Nat.lt_or_ge index lines.length with bound | beyond
      · have line_eq : lines[index]? = some lines[index] := List.getElem?_eq_getElem bound
        have moved_eq := List.getElem?_eq_getElem (length_eq ▸ bound : index < others.length)
        have complete := fault_addDefinitions (fun line member => line_nodes line
          (List.mem_of_mem_take (i := index) member)) source table.dropVariables 0
        have complete' := fault_addDefinitions (fun line member => other_nodes line
          (List.mem_of_mem_take (i := index) member)) other table.dropVariables 0
        rw [behind_add_one complete line_eq, behind_add_one complete' moved_eq, Nat.zero_add]
        -- A variable that the line names is that of a first definition, which is not affected.
        refine induction.addDefinition (line_nodes _ (List.getElem_mem bound))
          (other_nodes _ (List.getElem_mem _)) (standsFor index _ _ line_eq moved_eq)
          fun here => induction.resemblesOn fun name member info named => ?_
        obtain ⟨site, site_eq, site_lt, first⟩ :=
          isFirstDefinition_of_variableNamed? line_nodes named
        rw [site_eq, Option.map_some]
        rintro _ ⟨⟩
        exact confined index _ line_eq here name member site.line site_lt first
      · have stays : lines.take (index + 1) = lines.take index := by
          rw [List.take_of_length_le beyond, List.take_of_length_le (by omega)]
        have stays' : others.take (index + 1) = others.take index := by
          rw [List.take_of_length_le (by omega), List.take_of_length_le (by omega)]
        rw [behind, behind, stays, stays']
        exact induction

/-- Behind all lines of two texts, tables are alike. -/
theorem alikeUnless_addDefinitions (table : SymbolTable) :
    (table.dropVariables.addDefinitions source 0 lines).table.AlikeUnless affected
      (table.dropVariables.addDefinitions other 0 others).table := by
  have whole := alikeUnless_behind line_nodes other_nodes length_eq standsFor confined table
    lines.length
  rwa [behind, behind, List.take_length, length_eq, List.take_length] at whole

end

end SymbolTable

end SearchQuery
