import SearchQuery.Proofs.Document.Alike
import SearchQuery.Proofs.Document.Erasure

/-!
# What depends on a definition

A definition reaches a name if its value refers to the name, or to a variable whose first definition
stands in front of it and reaches the name.  Editing a definition, which stays a definition of the
same name, changes nothing but what reaches that name: the other definitions store what they stored
before, and in the lines that name neither the variable nor one that reaches it, the same is found
and the same repositories are named.
-/

namespace SearchQuery

namespace Node

/-- A line of some lines, given by its number, refers to a name, directly or through the first
definitions, in front of it, of other names. -/
inductive Reaches (lines : List Node) (name : String) : Nat → Prop where
  | direct {number : Nat} {line : Node} (line_eq : lines[number]? = some line)
      (refers : name ∈ line.referredNames) : Reaches lines name number
  | through {number first : Nat} {line : Node} {other : String}
      (line_eq : lines[number]? = some line) (refers : other ∈ line.referredNames)
      (in_front : first < number) (defines : IsFirstDefinition lines first other)
      (reaches : Reaches lines name first) : Reaches lines name number

/-- A line names neither a variable nor one whose first definition reaches it. -/
def IsIndependent (line : Node) (lines : List Node) (name : String) : Prop :=
  ∀ asked ∈ line.names, asked ≠ name ∧
    ∀ first, IsFirstDefinition lines first asked → ¬ Reaches lines name first

variable {lines : List Node} {name : String} {number : Nat} {line : Node}

theorem referredNames_subset (line : Node) : line.referredNames ⊆ line.names := by
  cases line with
  | definition span defined value label =>
      exact names_subset_of_mem_preorder
        (mem_preorder_of_mem_partNodes (by simp) (self_mem_preorder value))
  | _ => exact List.nil_subset _

/-- The value of an independent line does not reach the name. -/
theorem IsIndependent.not_reaches (independent : line.IsIndependent lines name)
    (line_eq : lines[number]? = some line) : ¬ Reaches lines name number := by
  intro reaches
  cases reaches with
  | direct own_eq refers =>
      obtain rfl := Option.some.inj (line_eq.symm.trans own_eq)
      exact (independent name (referredNames_subset _ refers)).1 rfl
  | through own_eq refers _ defines reaches =>
      obtain rfl := Option.some.inj (line_eq.symm.trans own_eq)
      exact (independent _ (referredNames_subset _ refers)).2 _ defines reaches

/-- The line that is the first to define a name defines no other name. -/
theorem IsFirstDefinition.name_eq {asked : String} (first : IsFirstDefinition lines number asked)
    (line_eq : lines[number]? = some line) (defines : line.definedName? = some name) :
    asked = name := by
  obtain ⟨⟨own, own_eq, own_defines⟩, _⟩ := first
  obtain rfl := Option.some.inj (line_eq.symm.trans own_eq)
  exact Option.some.inj (own_defines.symm.trans defines)

/-- What does not reach a name refers neither to its definition nor to what reaches the name. -/
theorem confines_reaches (line_eq : lines[number]? = some line)
    (defines : line.definedName? = some name) :
    Confines lines fun place => place = number ∨ Reaches lines name place := by
  intro place other other_eq unaffected asked refers first first_lt first_defines affected
  rcases affected with rfl | reaches
  · obtain rfl := first_defines.name_eq line_eq defines
    exact unaffected (Or.inr (.direct other_eq refers))
  · exact unaffected (Or.inr (.through other_eq refers first_lt first_defines reaches))

end Node

/-! ## Texts around a definition -/

namespace SourceLine

/-- Where two texts have the same lines around one line, a line elsewhere is the same in both, and
stands further on by what the lines behind are moved by. -/
theorem exists_elsewhere {front back : List SourceLine} {left right line : SourceLine}
    {distance distance' number : Nat}
    (line_eq : (front ++ left :: back.map (.move distance))[number]? = some line)
    (elsewhere : number ≠ front.length) :
    ∃ other, (front ++ right :: back.map (.move distance'))[number]? = some other ∧
      other.content = line.content ∧ (other.offset : Int) - line.offset =
        if number < front.length then 0 else (distance' : Int) - distance := by
  rcases Nat.lt_or_gt_of_ne elsewhere with in_front | behind
  · rw [List.getElem?_append_left in_front] at line_eq ⊢
    exact ⟨line, line_eq, rfl, by rw [if_pos in_front, Int.sub_self]⟩
  · obtain ⟨index, rfl⟩ := Nat.exists_eq_add_of_lt behind
    have place_eq : front.length + index + 1 - front.length = index + 1 := by omega
    rw [List.getElem?_append_right (Nat.le_of_lt behind), place_eq, List.getElem?_cons_succ,
      List.getElem?_map] at line_eq ⊢
    obtain ⟨source, source_eq, rfl⟩ := Option.map_eq_some_iff.mp line_eq
    refine ⟨source.move distance', by rw [source_eq]; rfl, rfl, ?_⟩
    rw [if_neg (Nat.not_lt_of_lt behind)]
    simp only [move]
    omega

end SourceLine

namespace Document

theorem significantLines_eq_of_mem {front content back : String}
    (member : ⟨front.length, content.toList⟩ ∈ significantLines (front ++ content ++ back)) :
    significantLines (front ++ content ++ back) =
      significantLines front ++ ⟨front.length, content.toList⟩ ::
        (significantLines back).map (.move (front.length + content.length)) := by
  obtain ⟨line_mem, isSignificant⟩ := List.mem_filter.mp member
  rw [significantLines_around line_mem, List.filter_cons_of_pos isSignificant, List.filter_nil,
    List.append_assoc]
  rfl

theorem getElem?_significantLines_of_mem {front content back : String}
    (member : ⟨front.length, content.toList⟩ ∈ significantLines (front ++ content ++ back)) :
    (significantLines (front ++ content ++ back))[(significantLines front).length]? =
      some ⟨front.length, content.toList⟩ := by
  rw [significantLines_eq_of_mem member, List.getElem?_append_right (Nat.le_refl _), Nat.sub_self]
  rfl

theorem getElem?_lines_ofText (text : String) (number : Nat) :
    (ofText text).lines[number]? = (significantLines text)[number]?.map (·.node) :=
  List.getElem?_map

theorem getElem?_lines_ofText_of_mem {front content back : String}
    (member : ⟨front.length, content.toList⟩ ∈ significantLines (front ++ content ++ back)) :
    (ofText (front ++ content ++ back)).lines[(significantLines front).length]? =
      some (SourceLine.node ⟨front.length, content.toList⟩) :=
  (getElem?_lines_ofText _ _).trans (congrArg _ (getElem?_significantLines_of_mem member))

section

variable {front left right back : String} {name : String}
  (left_mem : ⟨front.length, left.toList⟩ ∈ significantLines (front ++ left ++ back))
  (right_mem : ⟨front.length, right.toList⟩ ∈ significantLines (front ++ right ++ back))

include left_mem right_mem

/-- The lines of a text stay where another line takes the place of one of them. -/
theorem exists_line_elsewhere {number : Nat} {line : SourceLine}
    (line_eq : (significantLines (front ++ left ++ back))[number]? = some line)
    (elsewhere : number ≠ (significantLines front).length) :
    ∃ other, (significantLines (front ++ right ++ back))[number]? = some other ∧
      other.content = line.content ∧ (other.offset : Int) - line.offset =
        if number < (significantLines front).length then 0
        else (right.length : Int) - left.length := by
  rw [significantLines_eq_of_mem left_mem] at line_eq
  rw [significantLines_eq_of_mem right_mem]
  obtain ⟨other, other_eq, same, distance_eq⟩ := SourceLine.exists_elsewhere line_eq elsewhere
  have cancel : ((front.length + right.length : Nat) : Int) - (front.length + left.length : Nat) =
      right.length - left.length := by omega
  exact ⟨other, other_eq, same, by rw [distance_eq, cancel]⟩

variable (left_defines : (SourceLine.node ⟨front.length, left.toList⟩).definedName? = some name)
  (right_defines : (SourceLine.node ⟨front.length, right.toList⟩).definedName? = some name)

include left_defines right_defines

/-- Texts are alike if one definition differs, but for what reaches its name. -/
theorem alikeUnless_of_definition :
    AlikeUnless
      (fun number => number = (significantLines front).length ∨
        Node.Reaches (ofText (front ++ left ++ back)).lines name number)
      (front ++ left ++ back) (front ++ right ++ back) := by
  constructor
  · rw [significantLines_eq_of_mem left_mem, significantLines_eq_of_mem right_mem]
    simp
  · intro number line other line_eq other_eq
    by_cases at_definition : number = (significantLines front).length
    · subst at_definition
      obtain rfl := Option.some.inj
        ((getElem?_significantLines_of_mem left_mem).symm.trans line_eq)
      obtain rfl := Option.some.inj
        ((getElem?_significantLines_of_mem right_mem).symm.trans other_eq)
      exact Or.inr ⟨Or.inl rfl, left_defines.trans right_defines.symm⟩
    · obtain ⟨_, own_eq, same, _⟩ := exists_line_elsewhere left_mem right_mem line_eq at_definition
      obtain rfl := Option.some.inj (other_eq.symm.trans own_eq)
      exact Or.inl same.symm
  · exact Node.confines_reaches (getElem?_lines_ofText_of_mem left_mem) left_defines

/-- An independent line comes to the same in both texts, but for its place. -/
theorem line_of_isIndependent (table : SymbolTable) {place : Nat} {line : Node}
    (line_eq : (ofText (front ++ left ++ back)).lines[place]? = some line)
    (elsewhere : place ≠ (significantLines front).length)
    (independent : line.IsIndependent (ofText (front ++ left ++ back)).lines name) :
    let before := table.load (front ++ left ++ back)
    let after := table.load (front ++ right ++ back)
    let distance : Int :=
      if place < (significantLines front).length then 0 else right.length - left.length
    after.1.lines[place]? = some (line.shift distance) ∧
      Validation.foundIn after.2 (line.shift distance) =
        (Validation.foundIn before.2 line).map (.shift distance) ∧
      ∀ format, Repository.namedIn after.2 (front ++ right ++ back).toList format
          (line.shift distance) =
        Repository.namedIn before.2 (front ++ left ++ back).toList format line := by
  have alike := alikeUnless_of_definition left_mem right_mem left_defines right_defines
  -- A line that reaches the name would name the variable, or one that reaches it.
  have unaffected := not_or.mpr ⟨elsewhere, independent.not_reaches line_eq⟩
  rw [getElem?_lines_ofText] at line_eq
  obtain ⟨source, source_eq, rfl⟩ := Option.map_eq_some_iff.mp line_eq
  obtain ⟨other, other_eq, _, distance_eq⟩ := exists_line_elsewhere left_mem right_mem source_eq
    elsewhere
  have alone : ∀ asked ∈ source.node.names, ∀ first,
      Node.IsFirstDefinition (ofText (front ++ left ++ back)).lines first asked →
        ¬ (first = (significantLines front).length ∨
          Node.Reaches (ofText (front ++ left ++ back)).lines name first) := by
    rintro asked member first defines (rfl | reaches)
    · exact (independent asked member).1
        (defines.name_eq (getElem?_lines_ofText_of_mem left_mem) left_defines)
    · exact (independent asked member).2 first defines reaches
  intro before after distance
  have node_eq : other.node = source.node.shift distance :=
    (alike.node_eq source_eq other_eq unaffected).trans (congrArg (source.node.shift ·) distance_eq)
  have found_eq := alike.foundIn_eq source_eq other_eq unaffected alone table
  have named_eq := alike.namedIn_eq source_eq other_eq unaffected alone table
  rw [node_eq] at named_eq
  rw [node_eq, distance_eq] at found_eq
  refine ⟨?_, found_eq, named_eq⟩
  rw [← node_eq]
  exact (getElem?_lines_ofText _ _).trans (congrArg _ other_eq)

end

end Document

/-- Editing a definition, so that it defines the same name, changes only what depends on it.  The
other definitions that do not reach the name store what they stored before; and in each line that
names neither the variable nor one that reaches it, the same is found, and the same repositories are
named, but for the place of the line. -/
theorem SymbolTable.alikeUnless_load_of_definition (table : SymbolTable)
    {front left right back : String} {name : String}
    (left_mem : ⟨front.length, left.toList⟩ ∈ Document.significantLines (front ++ left ++ back))
    (right_mem : ⟨front.length, right.toList⟩ ∈ Document.significantLines (front ++ right ++ back))
    (left_defines : (SourceLine.node ⟨front.length, left.toList⟩).definedName? = some name)
    (right_defines : (SourceLine.node ⟨front.length, right.toList⟩).definedName? = some name) :
    let number := (Document.ofText front).lines.length
    let before := table.load (front ++ left ++ back)
    let after := table.load (front ++ right ++ back)
    before.2.AlikeUnless
        (fun place => place = number ∨ Node.Reaches before.1.lines name place) after.2 ∧
      (∀ (place : Nat) (line : Node), before.1.lines[place]? = some line → place ≠ number →
        line.IsIndependent before.1.lines name →
        let distance : Int := if place < number then 0 else right.length - left.length
        after.1.lines[place]? = some (line.shift distance) ∧
          Validation.foundIn after.2 (line.shift distance) =
            (Validation.foundIn before.2 line).map (.shift distance) ∧
          ∀ format, Repository.namedIn after.2 (front ++ right ++ back).toList format
              (line.shift distance) =
            Repository.namedIn before.2 (front ++ left ++ back).toList format line) ∧
      ∀ text : String,
        Validation.ofDocument (table.load text).2 (table.load text).1 =
            .ok ((table.load text).1.lines.flatMap (Validation.foundIn (table.load text).2)) ∧
          ∀ format, Repository.ofDocument (table.load text).1 (table.load text).2 format =
            .ok ((table.load text).1.lines.flatMap
              (Repository.namedIn (table.load text).2 text.toList format)) := by
  intro number before after
  have number_eq : number = (Document.significantLines front).length := List.length_map _
  rw [number_eq]
  refine ⟨(Document.alikeUnless_of_definition left_mem right_mem left_defines
    right_defines).load table, fun place line line_eq elsewhere independent => ?_, fun text => ?_⟩
  · exact Document.line_of_isIndependent left_mem right_mem left_defines right_defines table
      line_eq elsewhere independent
  · exact ⟨Validation.ofDocument_eq_flatMap_lines .., Repository.ofDocument_eq_flatMap_lines _ text⟩

/-- A definition whose value becomes a date, in front of one that it reaches and of a line that it
does not. -/
theorem SymbolTable.alikeUnless_load_of_date :
    let before := empty.load "$a=o/r\n$v=1\n$w=$v\nrepo:$a"
    let after := empty.load "$a=o/r\n$v=2022-01-01\n$w=$v\nrepo:$a"
    before.2.AlikeUnless (fun place => place = 1 ∨ Node.Reaches before.1.lines "$v" place)
        after.2 ∧
      ∃ line, before.1.lines[3]? = some line ∧ line.IsIndependent before.1.lines "$v" ∧
        after.1.lines[3]? = some (line.shift 9) ∧
          Validation.foundIn after.2 (line.shift 9) =
            (Validation.foundIn before.2 line).map (.shift 9) := by
  intro before after
  obtain ⟨source, source_eq, source_facts⟩ := Option.map_eq_some_iff.mp
    (by decide +kernel : before.1.lines[0]?.map (fun line =>
      (line.definedName?, line.referredNames)) = some (some "$a", []))
  obtain ⟨defines_eq, refers_eq⟩ := Prod.mk.inj source_facts
  obtain ⟨line, line_eq, names_eq⟩ := Option.map_eq_some_iff.mp
    (by decide +kernel : before.1.lines[3]?.map (·.names) = some ["$a"])
  have unreached : ¬ Node.Reaches before.1.lines "$v" 0 := by
    intro reaches
    cases reaches with
    | direct own_eq refers | through own_eq refers =>
        obtain rfl := Option.some.inj (source_eq.symm.trans own_eq)
        rw [refers_eq] at refers
        cases refers
  have independent : line.IsIndependent before.1.lines "$v" := by
    intro asked member
    rw [names_eq, List.mem_singleton] at member
    subst member
    refine ⟨by decide, fun first defines => ?_⟩
    cases first with
    | zero => exact unreached
    | succ first =>
        have earlier : source ∈ before.1.lines.take (first + 1) :=
          List.mem_of_getElem? ((List.getElem?_take_of_lt (Nat.succ_pos first)).trans source_eq)
        exact absurd (List.mem_filterMap.mpr ⟨source, earlier, defines_eq⟩) defines.2
  have number_eq : (Document.ofText "$a=o/r\n").lines.length = 1 := by decide +kernel
  have edited := @alikeUnless_load_of_definition empty "$a=o/r\n" "$v=1" "$v=2022-01-01"
    "\n$w=$v\nrepo:$a" "$v" (by decide +kernel) (by decide +kernel) (by decide +kernel)
    (by decide +kernel)
  rw [number_eq] at edited
  obtain ⟨moved_eq, found_eq, _⟩ := edited.2.1 3 line line_eq (by decide) independent
  exact ⟨edited.1, line, line_eq, independent, moved_eq, found_eq⟩

end SearchQuery
