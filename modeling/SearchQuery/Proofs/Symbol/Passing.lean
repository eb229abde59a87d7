import SearchQuery.Proofs.Symbol.Reserved
import SearchQuery.Proofs.Symbol.Resemblance

/-!
# Values passed through variables

A definition may have nothing but a value, or nothing but a variable whose definition stands in
front of it.  At the end of a chain of such definitions stands a variable with the text and the type
of the value that the first one has.
-/

namespace SearchQuery

open Node

/-- A line, given by its number, is the first of some lines to define a name, and nothing but an
item is its value. -/
def Node.DefinesAs (lines : List Node) (number : Nat) (name : String) (item : Node) : Prop :=
  (∃ span defined place label,
      lines[number]? = some (.definition span defined (.query place [item]) label) ∧
        defined.word = name) ∧
    name ∉ definedNames (lines.take number)

/-- A line, given by its number, defines a name to stand for a value, directly or through variables
that are defined in front of it.  No qualifier is bound to any of the names. -/
inductive SymbolTable.Passes (table : SymbolTable) (lines : List Node) (value : Node) :
    Nat → String → Prop where
  | direct {number : Nat} {name : String} (defines : DefinesAs lines number name value)
      (free : table.LeavesFree name) : Passes table lines value number name
  | through {earlier number : Nat} {other name : String} {place : Span} {label : Option Nat}
      (passes : Passes table lines value earlier other) (in_front : earlier < number)
      (defines : DefinesAs lines number name (.variable place other label))
      (free : table.LeavesFree name) : Passes table lines value number name

/-! ## What is stored -/

theorem Node.print_query_singleton {source : List Char} {lookup : String → Option String}
    {place : Span} {item : Node} (nodes : ∀ inner ∈ item.preorder, inner.kind ≠ .foreign) :
    (Node.query place [item]).print source lookup = item.print source lookup := by
  rw [print, printList, print_eq_text source lookup nodes, printList]
  simp [bind, Except.bind, pure, Except.pure]

namespace SymbolTable

section

variable {table : SymbolTable} {lines : List Node}
  (nodes : ∀ line ∈ lines, ∀ node ∈ line.preorder, node.kind ≠ .foreign)
  {number : Nat} {name : String} {item : Node}

include nodes

/-- Behind the first line to define a name, the name stands for the variable of this line. -/
theorem exists_variable_of_definesAs (source : List Char)
    (defines : DefinesAs lines number name item) (free : table.LeavesFree name) :
    ∃ info, (table.dropVariables.behind source 0 lines (number + 1)).get? name =
        some (.variable info) ∧
      item.print source (table.dropVariables.behind source 0 lines number).valueOf? =
        .ok info.value ∧
      (table.dropVariables.behind source 0 lines number).typeOf item = info.type := by
  obtain ⟨⟨span, defined, place, label, line_eq, rfl⟩, undefined⟩ := defines
  have complete := fault_addDefinitions
    (fun line member => nodes line (List.mem_of_mem_take (i := number) member)) source
    table.dropVariables 0
  have unbound : (table.dropVariables.behind source 0 lines number).get? defined.word = none :=
    (get?_addDefinitions_of_not_mem complete undefined).trans free.get?_dropVariables
  have item_nodes : ∀ inner ∈ item.preorder, inner.kind ≠ .foreign := by
    intro inner inner_mem
    refine nodes _ (List.mem_of_getElem? line_eq) inner ?_
    have value_mem : inner ∈ (Node.query place [item]).preorder :=
      mem_preorder_of_mem_partNodes (by simp) inner_mem
    exact mem_preorder_of_mem_partNodes (by simp) value_mem
  have printed := print_eq_text source
    (table.dropVariables.behind source 0 lines number).valueOf? item_nodes
  obtain ⟨info, stored⟩ : ∃ info, (table.dropVariables.behind source 0 lines number).define source
      ⟨0 + number, span, label⟩ defined (.query place [item]) = .ok info :=
    ⟨_, define_eq_ok_iff.mpr ⟨_, (print_query_singleton item_nodes).trans printed, rfl⟩⟩
  obtain ⟨text, text_eq, info_eq⟩ := define_eq_ok_iff.mp stored
  refine ⟨info, ?_, ?_, ?_⟩
  · rw [behind_add_one complete line_eq, addDefinitions, stored]
    dsimp only
    rw [addDefinitions, get?_add, unbound, Option.none_or, Symbol.name, name_of_define stored,
      if_pos rfl]
  · rw [info_eq, ← text_eq, print_query_singleton item_nodes]
  · rw [info_eq, typeOf]

/-- A variable that a value is passed to has the text and the type of the value. -/
theorem Passes.exists_variable {value : Node} (passes : table.Passes lines value number name)
    (named : value.names = []) (source : List Char) (other : SymbolTable) :
    number < lines.length ∧
      ∃ info, (table.dropVariables.behind source 0 lines (number + 1)).get? name =
          some (.variable info) ∧
        value.print source other.valueOf? = .ok info.value ∧ other.typeOf value = info.type := by
  -- A value without variables has the same text and type in all tables.
  have same_text (left right : SymbolTable) :
      value.print source left.valueOf? = value.print source right.valueOf? :=
    print_congr (by simp [named])
  have same_type (left right : SymbolTable) : left.typeOf value = right.typeOf value :=
    typeOf_congr (by simp [named])
  have in_range {number : Nat} {name : String} {item : Node}
      (defines : DefinesAs lines number name item) : number < lines.length := by
    obtain ⟨⟨_, _, _, _, line_eq, _⟩, _⟩ := defines
    exact (List.getElem?_eq_some_iff.mp line_eq).1
  induction passes with
  | direct defines free =>
      obtain ⟨info, bound, text_eq, type_eq⟩ :=
        exists_variable_of_definesAs nodes source defines free
      exact ⟨in_range defines, info, bound, (same_text other _).trans text_eq,
        (same_type other _).trans type_eq⟩
  | through passes in_front defines free induction =>
      obtain ⟨_, first, first_bound, first_text, first_type⟩ := induction
      obtain ⟨info, bound, text_eq, type_eq⟩ :=
        exists_variable_of_definesAs nodes source defines free
      have still_bound := get?_behind_of_le nodes in_front first_bound
      refine ⟨in_range defines, info, bound, ?_, ?_⟩
      · rw [print, valueOf?, variableNamed?, still_bound] at text_eq
        exact first_text.trans text_eq
      · rw [typeOf, variableNamed?, still_bound] at type_eq
        exact first_type.trans type_eq

end

/-- Behind a document, a variable that a value is passed to has the text and the type of the
value. -/
theorem Passes.variableNamed?_update {table : SymbolTable} {document : Document}
    (nodes : document.HasNodesOnly) {value : Node} {number : Nat} {name : String}
    (passes : table.Passes document.lines value number name) (named : value.names = []) :
    ∃ info, (table.update document).table.variableNamed? name = some info ∧
      value.print document.source.toList (table.update document).table.valueOf? = .ok info.value ∧
      (table.update document).table.typeOf value = info.type := by
  have line_nodes := fun line (line_mem : line ∈ document.lines) =>
    nodes.kind_ne_of_mem_lines line_mem
  obtain ⟨in_range, info, bound, text_eq, type_eq⟩ := passes.exists_variable line_nodes named
    document.source.toList (table.update document).table
  have behind_all : table.dropVariables.behind document.source.toList 0 document.lines
      document.lines.length = (table.update document).table := by
    rw [behind, List.take_length, update]
  have still_bound := get?_behind_of_le line_nodes in_range bound
  rw [behind_all] at still_bound
  exact ⟨info, by rw [variableNamed?, still_bound]; rfl, text_eq, type_eq⟩

end SymbolTable

end SearchQuery
