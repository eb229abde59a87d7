import SearchQuery.Proofs.Document.Totality
import SearchQuery.Proofs.Symbol.Alike

/-!
# Texts that are alike

Two texts are alike if their lines have the same contents but for some, the affected ones.  What
they come to in a table is then the same in every line that is neither affected itself nor names a
variable that is, up to the places of the lines in the texts.
-/

namespace SearchQuery

namespace Document

/-- The texts have as many lines that have nodes.  Each is the same in both, or it is affected and
defines the same name in both; and those that are not affected do not depend on those that are. -/
structure AlikeUnless (affected : Nat → Prop) (left right : String) : Prop where
  /-- There are as many lines. -/
  length_eq : (significantLines left).length = (significantLines right).length
  /-- Lines are the same, or affected and define the same name. -/
  same : ∀ (number : Nat) (line other : SourceLine), (significantLines left)[number]? = some line →
    (significantLines right)[number]? = some other → line.content = other.content ∨
      affected number ∧ line.node.definedName? = other.node.definedName?
  /-- Lines that are not affected do not refer to affected lines. -/
  confined : Node.Confines (ofText left).lines affected

namespace AlikeUnless

variable {affected : Nat → Prop} {left right : String} (alike : AlikeUnless affected left right)

include alike

theorem content_eq {number : Nat} {line other : SourceLine}
    (line_eq : (significantLines left)[number]? = some line)
    (other_eq : (significantLines right)[number]? = some other) (unaffected : ¬ affected number) :
    line.content = other.content :=
  (alike.same number line other line_eq other_eq).resolve_right fun changed =>
    unaffected changed.1

theorem definedName?_eq {number : Nat} {line other : SourceLine}
    (line_eq : (significantLines left)[number]? = some line)
    (other_eq : (significantLines right)[number]? = some other) :
    line.node.definedName? = other.node.definedName? := by
  rcases alike.same number line other line_eq other_eq with same | ⟨_, same⟩
  · rw [SourceLine.node_eq_shift same, Node.definedName?_shift]
  · exact same

/-- The tables that the texts are loaded into are alike. -/
theorem load (table : SymbolTable) :
    (table.load left).2.AlikeUnless affected (table.load right).2 := by
  have nodes (text : String) := fun line (member : line ∈ (ofText text).lines) =>
    kind_ne_of_mem_lines_ofText member
  have lines_eq (text : String) : (ofText text).lines = (significantLines text).map (·.node) := rfl
  refine SymbolTable.alikeUnless_addDefinitions (nodes left) (nodes right) ?_ ?_ alike.confined
    table
  · rw [lines_eq, lines_eq, List.length_map, List.length_map, alike.length_eq]
  · intro number line moved line_eq moved_eq
    rw [lines_eq, List.getElem?_map] at line_eq moved_eq
    obtain ⟨source, source_eq, rfl⟩ := Option.map_eq_some_iff.mp line_eq
    obtain ⟨other, other_eq, rfl⟩ := Option.map_eq_some_iff.mp moved_eq
    refine ⟨alike.definedName?_eq source_eq other_eq, fun unaffected => ?_⟩
    have same := alike.content_eq source_eq other_eq unaffected
    exact ⟨_, SourceLine.node_eq_shift same.symm, printsAlike_of_mem_significantLines
      (List.mem_of_getElem? other_eq) (List.mem_of_getElem? source_eq) same.symm⟩

/-- Names stand for the same where no affected line is the first to define them. -/
theorem resemblesOn {names : List String} (independent : ∀ name ∈ names, ∀ first,
      Node.IsFirstDefinition (ofText left).lines first name → ¬ affected first)
    (table : SymbolTable) :
    SymbolTable.ResemblesOn names (table.load left).2 (table.load right).2 := by
  refine (alike.load table).resemblesOn fun name member info named => ?_
  have whole : (table.load left).2 =
      table.dropVariables.behind left.toList 0 (ofText left).lines (ofText left).lines.length := by
    rw [SymbolTable.behind, List.take_length]
    rfl
  rw [whole] at named
  obtain ⟨site, site_eq, _, first⟩ := SymbolTable.isFirstDefinition_of_variableNamed?
    (fun _ line_mem => kind_ne_of_mem_lines_ofText line_mem) named
  rw [site_eq, Option.map_some]
  rintro _ ⟨⟩
  exact independent name member site.line first

variable {number : Nat} {line other : SourceLine}
  (line_eq : (significantLines left)[number]? = some line)
  (other_eq : (significantLines right)[number]? = some other) (unaffected : ¬ affected number)

include line_eq other_eq unaffected

/-- A line that is not affected has the same node in both texts, moved. -/
theorem node_eq : other.node = line.node.shift (other.offset - line.offset) :=
  SourceLine.node_eq_shift (alike.content_eq line_eq other_eq unaffected).symm

variable (independent : ∀ name ∈ line.node.names, ∀ first,
  Node.IsFirstDefinition (ofText left).lines first name → ¬ affected first)

include independent

/-- The same is found in a line that is not affected and names no variable that is. -/
theorem foundIn_eq (table : SymbolTable) :
    Validation.foundIn (table.load right).2 other.node =
      (Validation.foundIn (table.load left).2 line.node).map
        (.shift (other.offset - line.offset)) := by
  have resembles := alike.resemblesOn independent table
  rw [alike.node_eq line_eq other_eq unaffected, Validation.foundIn_shift,
    resembles.foundIn_eq (List.Subset.refl _)]

/-- Such a line names the same repositories. -/
theorem namedIn_eq (table : SymbolTable) (format : RepositoryFormat) :
    Repository.namedIn (table.load right).2 right.toList format other.node =
      Repository.namedIn (table.load left).2 left.toList format line.node := by
  have resembles := alike.resemblesOn independent table
  have same := (alike.content_eq line_eq other_eq unaffected).symm
  have printsAlike := printsAlike_of_mem_significantLines (List.mem_of_getElem? other_eq)
    (List.mem_of_getElem? line_eq) same
  rw [alike.node_eq line_eq other_eq unaffected, Repository.namedIn_shift format printsAlike,
    resembles.namedIn_eq left.toList format (List.Subset.refl _)]

end AlikeUnless

end Document

end SearchQuery
