import SearchQuery.Proofs.Document.Moved
import SearchQuery.Proofs.Symbol.Definitions

/-!
# Moved definitions

Definitions that stand further on in another text are added to a table there as they are here, if
names stand for the same: the variables have the same types and values, and their sites are moved.
-/

namespace SearchQuery

/-- A moved line defines the same name. -/
@[simp]
theorem Node.definedName?_shift (distance : Int) (line : Node) :
    (line.shift distance).definedName? = line.definedName? := by
  cases line <;> simp [shift, definedName?]

/-- The site of the same definition, some lines and some characters further on. -/
def DefinitionSite.move (lines : Nat) (distance : Int) (site : DefinitionSite) : DefinitionSite :=
  ⟨site.line + lines, site.span.shift distance, site.label⟩

/-- The variable of the same definition, some lines and some characters further on. -/
def Variable.move (lines : Nat) (distance : Int) (info : Variable) : Variable :=
  { info with definition := info.definition.map (.move lines distance) }

@[simp]
theorem Variable.content_move (lines : Nat) (distance : Int) (info : Variable) :
    (info.move lines distance).content = info.content := rfl

@[simp]
theorem Variable.move_zero (info : Variable) : info.move 0 0 = info := by
  obtain ⟨name, type, value, definition⟩ := info
  cases definition <;> simp [move, DefinitionSite.move, Span.shift]

namespace SymbolTable

variable {left right : SymbolTable} {source other : List Char}

/-- Tables resemble each other behind one more variable of the same content. -/
theorem Resembles.add (resembles : left.Resembles right) {info other : Variable}
    (name_eq : info.name = other.name) (content_eq : info.content = other.content) :
    (left.add (.variable info)).Resembles (right.add (.variable other)) := by
  have bind_eq (table : SymbolTable) (added : Variable) (name : String) :
      ((table.add (.variable added)).get? name).map Symbol.content =
        ((table.get? name).map Symbol.content).or
          (if name = added.name then some (.inr added.content) else none) := by
    rw [get?_add, Option.map_or, Symbol.name]
    split <;> rfl
  refine resembles_iff.mpr fun name => ?_
  rw [bind_eq, bind_eq, resembles_iff.mp resembles, name_eq, content_eq]

/-- A moved definition defines the variable that it defined before. -/
theorem define_move {value : Node} (resembles : ResemblesOn value.names left right) (lines : Nat)
    {distance : Int} (site : DefinitionSite) (name : Node)
    (alike : value.PrintsAlike source other distance) :
    left.define source (site.move lines distance) (name.shift distance) (value.shift distance) =
      (right.define other site name value).map (.move lines distance) := by
  have known : value.names ⊆ value.names := List.Subset.refl _
  rw [define, define, alike value (Node.self_mem_preorder value), resembles.print_eq other known,
    typeOf_shift, resembles.typeOf_eq known, Node.word_shift]
  cases value.print other right.valueOf? <;> rfl

/-- Moved definitions add the variables that they added before. -/
theorem added_shift (resembles : left.Resembles right) (moved number : Nat) {distance : Int}
    {lines : List Node} (alike : ∀ line ∈ lines, line.PrintsAlike source other distance) :
    (left.addDefinitions source (number + moved) (lines.map (.shift distance))).added =
      (right.addDefinitions other number lines).added.map (.move moved distance) := by
  induction lines generalizing left right number with
  | nil => rfl
  | cons line lines induction =>
      rw [List.forall_mem_cons] at alike
      have next_eq : number + moved + 1 = number + 1 + moved := Nat.add_right_comm number moved 1
      cases line with
      | definition span name value label =>
          have value_alike : value.PrintsAlike source other distance := alike.1.part (by simp)
          have info_eq := define_move (resembles.on _) moved ⟨number, span, label⟩ name value_alike
          rw [List.map_cons, Node.shift, addDefinitions, addDefinitions]
          simp only [DefinitionSite.move] at info_eq
          rw [info_eq]
          cases right.define other ⟨number, span, label⟩ name value with
          | error fault => rfl
          | ok info =>
              have next : (left.add (.variable (info.move moved distance))).Resembles
                  (right.add (.variable info)) := resembles.add rfl rfl
              have added := induction next (number + 1) alike.2
              dsimp only [Except.map]
              rw [next_eq, added, List.map_cons]
      | _ =>
          have added := induction resembles (number + 1) alike.2
          rw [← next_eq] at added
          rw [List.map_cons, Node.shift]
          exact added

end SymbolTable

end SearchQuery
