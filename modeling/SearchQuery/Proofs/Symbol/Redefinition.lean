import SearchQuery.Proofs.Document.Erasure
import SearchQuery.Proofs.Document.Totality
import SearchQuery.Proofs.Symbol.Moved

/-!
# Redefined variables

A name stands for the first of the variables that a document defines for it, so a line that defines
it once more changes nothing but what is found in that line.  Taking the content of the line out of
the text moves the lines behind it, and leaves everything else as it was: what names stand for, what
the other definitions store, what is found in the other lines and which repositories they name.
-/

namespace SearchQuery

/-! ## Symbols of a document with one more line -/

/-- The site of the same definition in a document with one more line, given the number of that line
and its length. -/
def DefinitionSite.makeRoom (number : Nat) (distance : Int) (site : DefinitionSite) :
    DefinitionSite :=
  if number ≤ site.line then site.move 1 distance else site

namespace Symbol

/-- The same symbol in a document with one more line. -/
def makeRoom (number : Nat) (distance : Int) : Symbol → Symbol
  | .qualifier info => .qualifier info
  | .variable info =>
      .variable { info with definition := info.definition.map (.makeRoom number distance) }

/-- Whether the symbol is the variable that a line defines, given the number of the line. -/
def isDefinedIn (number : Nat) : Symbol → Bool
  | .qualifier _ => false
  | .variable info => info.definition.any (·.line == number)

@[simp]
theorem name_makeRoom (number : Nat) (distance : Int) (symbol : Symbol) :
    (symbol.makeRoom number distance).name = symbol.name := by
  cases symbol <;> rfl

@[simp]
theorem content_makeRoom (number : Nat) (distance : Int) (symbol : Symbol) :
    (symbol.makeRoom number distance).content = symbol.content := by
  cases symbol <;> rfl

end Symbol

namespace SymbolTable

variable {table : SymbolTable} {source other : List Char} {line : Node} {name : String}
  {number : Nat} {distance : Int}

/-- Symbols in front of a line stay where they are when the line is put in. -/
theorem IsDefinedBefore.makeRoom_eq (before : table.IsDefinedBefore number) {symbol : Symbol}
    (member : symbol ∈ table.getAll name) (distance : Int) :
    symbol.makeRoom number distance = symbol ∧ symbol.isDefinedIn number = false := by
  rcases symbol with info | ⟨defined, type, value, _ | site⟩
  · exact ⟨rfl, rfl⟩
  · exact ⟨rfl, rfl⟩
  · have site_lt := before name _ site member rfl
    have in_front : ¬ number ≤ site.line := by omega
    have elsewhere : site.line ≠ number := by omega
    simp [Symbol.makeRoom, Symbol.isDefinedIn, DefinitionSite.makeRoom, in_front, elsewhere]

/-- The variable that a line defines is defined in that line. -/
theorem isDefinedIn_of_mem_added {info : Variable}
    (info_mem : info ∈ (table.addDefinitions source number [line]).added) :
    (Symbol.variable info).isDefinedIn number = true := by
  obtain ⟨site, site_eq, site_ge, site_lt⟩ := exists_site_of_mem_added info_mem
  rw [List.length_singleton] at site_lt
  have here : site.line = number := by omega
  simp [Symbol.isDefinedIn, site_eq, here]

/-- The variables of definitions behind one more line are moved. -/
theorem makeRoom_of_mem_added {lines : List Node} {info : Variable}
    (info_mem : info ∈ (table.addDefinitions source number lines).added) (distance : Int) :
    (Symbol.variable info).makeRoom number distance = .variable (info.move 1 distance) ∧
      ((Symbol.variable info).makeRoom number distance).isDefinedIn number = false := by
  obtain ⟨site, site_eq, site_ge, _⟩ := exists_site_of_mem_added info_mem
  have elsewhere : site.line + 1 ≠ number := by omega
  obtain ⟨defined, type, value, definition⟩ := info
  subst site_eq
  simp [Symbol.makeRoom, Symbol.isDefinedIn, DefinitionSite.makeRoom, Variable.move,
    DefinitionSite.move, site_ge, elsewhere]

/-- The same definitions in two texts add the same variables. -/
theorem table_addDefinitions_of_alike (table : SymbolTable) (number : Nat) {lines : List Node}
    (alike : ∀ line ∈ lines, line.PrintsAlike source other 0) :
    (table.addDefinitions source number lines).table =
      (table.addDefinitions other number lines).table := by
  have added := added_shift (Resembles.refl table) 0 number alike
  rw [show Node.shift 0 = id from funext Node.shift_zero, List.map_id, Nat.add_zero,
    show Variable.move 0 0 = id from funext Variable.move_zero, List.map_id] at added
  rw [table_addDefinitions, added, ← table_addDefinitions]

/-! ## A line that defines a name once more -/

section

variable (complete : (table.addDefinitions source number [line]).fault = none)
  (redefines : line.definedName? = some name) (bound : (table.get? name).isSome = true)

include complete redefines bound

/-- A definition of a name that is bound leaves what names stand for. -/
theorem get?_redefine : (table.addDefinitions source number [line]).table.get? = table.get? := by
  funext asked
  by_cases same : asked = name
  · obtain ⟨symbol, symbol_eq⟩ := Option.isSome_iff_exists.mp bound
    rw [same, symbol_eq, get?_addDefinitions_of_bound symbol_eq]
  · refine get?_addDefinitions_of_not_mem complete fun defined => same ?_
    rw [Node.mem_definedNames_singleton, redefines] at defined
    exact (Option.some.inj defined).symm

variable {back : List Node} (alike : ∀ node ∈ back, node.PrintsAlike source other distance)

include alike

/-- The definitions behind such a line add the symbols that they add without it, moved. -/
theorem table_redefine :
    (table.addDefinitions source number (line :: back.map (.shift distance))).table =
      (table.addDefinitions source number [line]).table.addAll
        (((table.addDefinitions other number back).added.map .variable).map
          (.makeRoom number distance)) := by
  have resembles := resembles_iff.mpr fun asked =>
    congrArg (Option.map Symbol.content) (congrFun (get?_redefine complete redefines bound) asked)
  have moved := added_shift resembles 1 number alike
  rw [← List.singleton_append, table_addDefinitions_append _ complete, List.length_singleton,
    table_addDefinitions, moved, List.map_map, List.map_map]
  refine congrArg _ (List.map_congr_left fun info info_mem => ?_)
  exact (makeRoom_of_mem_added info_mem distance).1.symm

variable (before : table.IsDefinedBefore number)

include before

/-- Behind such a line, names stand for what they stand for without it. -/
theorem get?_redefine_back (asked : String) :
    (table.addDefinitions source number (line :: back.map (.shift distance))).table.get? asked =
      ((table.addDefinitions other number back).table.get? asked).map
        (.makeRoom number distance) := by
  have old : (table.get? asked).map (.makeRoom number distance) = table.get? asked := by
    cases first_eq : table.get? asked with
    | none => rfl
    | some symbol => exact congrArg _ (before.makeRoom_eq (List.mem_of_head? first_eq) distance).1
  rw [table_redefine complete redefines bound alike, get?_addAll,
    get?_redefine complete redefines bound, List.find?_map, table_addDefinitions other, get?_addAll,
    Option.map_or, old]
  simp only [Function.comp_def, Symbol.name_makeRoom]

/-- Behind such a line, each name has the symbols that it has without it, and those of the line. -/
theorem getAll_redefine_back (asked : String) :
    ((table.addDefinitions source number (line :: back.map (.shift distance))).table.getAll
        asked).filter (!·.isDefinedIn number) =
      ((table.addDefinitions other number back).table.getAll asked).map
        (.makeRoom number distance) := by
  have old_kept : (table.getAll asked).filter (!·.isDefinedIn number) = table.getAll asked :=
    List.filter_eq_self.mpr fun symbol member => by simp [(before.makeRoom_eq member distance).2]
  have old_stays : (table.getAll asked).map (.makeRoom number distance) = table.getAll asked :=
    (List.map_congr_left fun symbol member => (before.makeRoom_eq member distance).1).trans
      (List.map_id' _)
  have line_dropped : ((table.addDefinitions source number [line]).added.map
      Symbol.variable).filter (!·.isDefinedIn number) = [] := by
    rw [List.filter_eq_nil_iff, List.forall_mem_map]
    exact fun info info_mem => by simp [isDefinedIn_of_mem_added info_mem]
  have back_kept : (((table.addDefinitions other number back).added.map Symbol.variable).map
      (Symbol.makeRoom number distance)).filter (!·.isDefinedIn number) =
        ((table.addDefinitions other number back).added.map .variable).map
          (.makeRoom number distance) := by
    rw [List.filter_eq_self, List.forall_mem_map, List.forall_mem_map]
    exact fun info info_mem => by simp [(makeRoom_of_mem_added info_mem distance).2]
  rw [table_redefine complete redefines bound alike, getAll_addAll, table_addDefinitions source,
    getAll_addAll, table_addDefinitions other, getAll_addAll, List.filter_append,
    List.filter_append, List.map_append, old_kept, old_stays, List.filter_comm, line_dropped,
    List.filter_nil, List.append_nil, List.filter_comm, back_kept, List.filter_map]
  simp only [Function.comp_def, Symbol.name_makeRoom]

end

/-- Among the lines of a document, a line that defines a name once more leaves what names stand for,
and all symbols but its own. -/
theorem lookups_redefine {front back : List Node}
    (nodes : ∀ node ∈ front ++ line :: back.map (.shift distance), ∀ inner ∈ node.preorder,
      inner.kind ≠ .foreign)
    (front_alike : ∀ node ∈ front, node.PrintsAlike source other 0)
    (back_alike : ∀ node ∈ back, node.PrintsAlike source other distance)
    (defined : name ∈ Node.definedNames front) (redefines : line.definedName? = some name)
    (table : SymbolTable) (asked : String) :
    let whole := table.dropVariables.addDefinitions source 0
      (front ++ line :: back.map (.shift distance))
    let without := table.dropVariables.addDefinitions other 0 (front ++ back)
    whole.table.get? asked =
        (without.table.get? asked).map (.makeRoom front.length distance) ∧
      (whole.table.getAll asked).filter (!·.isDefinedIn front.length) =
        (without.table.getAll asked).map (.makeRoom front.length distance) := by
  have front_complete (text : List Char) := fault_addDefinitions (fun node member =>
    nodes node (List.mem_append_left _ member)) text table.dropVariables 0
  have line_complete := fault_addDefinitions (List.forall_mem_singleton.mpr (nodes line (by simp)))
    source (table.dropVariables.addDefinitions source 0 front).table front.length
  have bound := Option.isSome_iff_exists.mpr
    (exists_get?_addDefinitions (front_complete source) defined)
  have before := isDefinedBefore_addDefinitions table source front
  dsimp only
  rw [table_addDefinitions_append _ (front_complete source),
    table_addDefinitions_append _ (front_complete other), Nat.zero_add,
    ← table_addDefinitions_of_alike table.dropVariables 0 front_alike]
  exact ⟨get?_redefine_back line_complete redefines bound back_alike before asked,
    getAll_redefine_back line_complete redefines bound back_alike before asked⟩

end SymbolTable

/-! ## Documents without such a line -/

namespace SourceLine

/-- A line of a text is dead: without its content, the text comes to the same in a table, but for
what the line itself comes to and for the places of the lines behind it.  The nodes of the lines in
front of it and behind it are given as they are without the line. -/
structure IsDead (line : SourceLine) (table : SymbolTable) (text : String)
    (front back : List Node) : Prop where
  /-- The lines of the text. -/
  lines_eq : (table.load text).1.lines =
    front ++ line.node :: back.map (.shift line.content.length)
  /-- The lines of the text without the line. -/
  lines_erase_eq : (table.load (line.erase text)).1.lines = front ++ back
  /-- Names stand for the same. -/
  get?_eq : ∀ name, (table.load text).2.get? name =
    ((table.load (line.erase text)).2.get? name).map (.makeRoom front.length line.content.length)
  /-- Names have the same symbols, apart from the variable that the line defines. -/
  getAll_eq : ∀ name,
    ((table.load text).2.getAll name).filter (!·.isDefinedIn front.length) =
      ((table.load (line.erase text)).2.getAll name).map
        (.makeRoom front.length line.content.length)
  /-- The same is found in the lines in front. -/
  found_front : ∀ node ∈ front, Validation.foundIn (table.load text).2 node =
    Validation.foundIn (table.load (line.erase text)).2 node
  /-- The same is found in the lines behind. -/
  found_back : ∀ node ∈ back,
    Validation.foundIn (table.load text).2 (node.shift line.content.length) =
      (Validation.foundIn (table.load (line.erase text)).2 node).map (.shift line.content.length)
  /-- The lines in front name the same repositories. -/
  named_front : ∀ format, ∀ node ∈ front,
    Repository.namedIn (table.load text).2 text.toList format node =
      Repository.namedIn (table.load (line.erase text)).2 (line.erase text).toList format node
  /-- The lines behind name the same repositories. -/
  named_back : ∀ format, ∀ node ∈ back,
    Repository.namedIn (table.load text).2 text.toList format (node.shift line.content.length) =
      Repository.namedIn (table.load (line.erase text)).2 (line.erase text).toList format node

section

variable {text : String} {line : SourceLine} {front back : List SourceLine}
  (whole_eq : Document.significantLines text =
    front ++ line :: back.map (.move line.content.length))
  (erased_eq : Document.significantLines (line.erase text) = front ++ back)

include whole_eq erased_eq

theorem printsAlike_of_mem_front {node : Node} (member : node ∈ front.map (·.node)) :
    node.PrintsAlike text.toList (line.erase text).toList 0 := by
  obtain ⟨source, source_mem, rfl⟩ := List.mem_map.mp member
  have whole_mem : source ∈ Document.significantLines text := by simp [whole_eq, source_mem]
  have erased_mem : source ∈ Document.significantLines (line.erase text) := by
    simp [erased_eq, source_mem]
  simpa using Document.printsAlike_of_mem_significantLines whole_mem erased_mem rfl

theorem printsAlike_of_mem_back {node : Node} (member : node ∈ back.map (·.node)) :
    node.PrintsAlike text.toList (line.erase text).toList line.content.length := by
  obtain ⟨source, source_mem, rfl⟩ := List.mem_map.mp member
  have whole_mem : source.move line.content.length ∈ Document.significantLines text := by
    rw [whole_eq]
    exact List.mem_append_right _ (List.mem_cons_of_mem _ (List.mem_map_of_mem source_mem))
  have erased_mem : source ∈ Document.significantLines (line.erase text) := by
    simp [erased_eq, source_mem]
  have distance_eq : ((source.move line.content.length).offset : Int) - source.offset =
      line.content.length := by simp only [move]; omega
  rw [← distance_eq]
  exact Document.printsAlike_of_mem_significantLines whole_mem erased_mem rfl

/-- The lines of the documents, with and without the line. -/
theorem lines_ofText_eq :
    (Document.ofText text).lines = front.map (·.node) ++
        line.node :: (back.map (·.node)).map (.shift line.content.length) ∧
      (Document.ofText (line.erase text)).lines = front.map (·.node) ++ back.map (·.node) := by
  constructor
  · rw [Document.ofText, whole_eq, List.map_append, List.map_cons, List.map_map, List.map_map]
    simp only [Function.comp_def, node_move]
  · rw [Document.ofText, erased_eq, List.map_append]

/-- A line that defines a name that a line in front of it defines is dead. -/
theorem isDead_of_significantLines_eq (table : SymbolTable) {earlier : SourceLine} {name : String}
    (earlier_mem : earlier ∈ front) (defines : earlier.node.definedName? = some name)
    (redefines : line.node.definedName? = some name) :
    line.IsDead table text (front.map (·.node)) (back.map (·.node)) := by
  have front_alike := fun (node : Node) (member : node ∈ front.map (·.node)) =>
    printsAlike_of_mem_front whole_eq erased_eq member
  have back_alike := fun (node : Node) (member : node ∈ back.map (·.node)) =>
    printsAlike_of_mem_back whole_eq erased_eq member
  obtain ⟨lines_eq, lines_erase_eq⟩ := lines_ofText_eq whole_eq erased_eq
  have nodes : ∀ node ∈ (Document.ofText text).lines, ∀ inner ∈ node.preorder,
      inner.kind ≠ .foreign :=
    fun _ member => Document.kind_ne_of_mem_lines_ofText member
  rw [lines_eq] at nodes
  have defined : name ∈ Node.definedNames (front.map (·.node)) :=
    List.mem_filterMap.mpr ⟨earlier.node, List.mem_map_of_mem earlier_mem, defines⟩
  have lookups := SymbolTable.lookups_redefine nodes front_alike back_alike defined redefines table
  have whole_table : (table.load text).2 = (table.dropVariables.addDefinitions text.toList 0
    (Document.ofText text).lines).table := rfl
  have without_table : (table.load (line.erase text)).2 = (table.dropVariables.addDefinitions
    (line.erase text).toList 0 (Document.ofText (line.erase text)).lines).table := rfl
  dsimp only at lookups
  rw [← lines_eq, ← lines_erase_eq, ← whole_table, ← without_table] at lookups
  have resembles : (table.load text).2.Resembles (table.load (line.erase text)).2 := by
    refine SymbolTable.resembles_iff.mpr fun asked => ?_
    rw [(lookups asked).1, Option.map_map]
    simp only [Function.comp_def, Symbol.content_makeRoom]
  refine ⟨lines_eq, lines_erase_eq, fun asked => (lookups asked).1, fun asked => (lookups asked).2,
    ?_, ?_, ?_, ?_⟩
  · exact fun node _ => resembles.foundIn_eq node
  · exact fun node _ => (resembles.foundIn_eq _).trans (Validation.foundIn_shift ..)
  · intro format node member
    have still := (resembles.namedIn_eq text.toList format (node.shift 0)).trans
      (Repository.namedIn_shift format (front_alike node member))
    rwa [Node.shift_zero] at still
  · intro format node member
    exact (resembles.namedIn_eq ..).trans (Repository.namedIn_shift format (back_alike node member))

end

/-- A line that defines a name which an earlier line defines is dead; what is wrong with a document
and the repositories that it names are what is found in its lines and what they name. -/
theorem exists_isDead_of_redefines (table : SymbolTable) {text : String} {earlier line : SourceLine}
    {name : String} (earlier_mem : earlier ∈ Document.significantLines text)
    (line_mem : line ∈ Document.significantLines text) (behind : earlier.offset < line.offset)
    (defines : earlier.node.definedName? = some name)
    (redefines : line.node.definedName? = some name) :
    (∃ front back, line.IsDead table text front back) ∧
      ∀ other : String,
        Validation.ofDocument (table.load other).2 (table.load other).1 =
            .ok ((table.load other).1.lines.flatMap (Validation.foundIn (table.load other).2)) ∧
          ∀ format, Repository.ofDocument (table.load other).1 (table.load other).2 format =
            .ok ((table.load other).1.lines.flatMap
              (Repository.namedIn (table.load other).2 other.toList format)) := by
  obtain ⟨front, back, whole_eq, erased_eq⟩ := significantLines_erase line_mem
  have in_front : earlier ∈ front := by
    have ordered := Document.pairwise_significantLines text
    rw [whole_eq, List.pairwise_append, List.pairwise_cons] at ordered
    rw [whole_eq, List.mem_append, List.mem_cons] at earlier_mem
    rcases earlier_mem with member | rfl | later
    · exact member
    · exact absurd behind (Nat.lt_irrefl _)
    · have := ordered.2.1.1 earlier later
      omega
  refine ⟨⟨_, _, isDead_of_significantLines_eq whole_eq erased_eq table in_front defines
    redefines⟩, fun other => ?_⟩
  have nodes := Document.hasNodesOnly_ofText other
  refine ⟨Validation.ofDocument_eq _ nodes, fun format => ?_⟩
  exact (Repository.ofDocument_eq _ format nodes).trans
    (congrArg Except.ok (Repository.namedIn_toNode _))

/-- The second of two definitions, between lines that refer to the first. -/
theorem exists_isDead_second :
    let text := "$a=o/r\n$a=1\n$b=$a repo:$a"
    let earlier : SourceLine := ⟨0, ['$', 'a', '=', 'o', '/', 'r']⟩
    let line : SourceLine := ⟨7, ['$', 'a', '=', '1']⟩
    earlier.node.definedName? = some "$a" ∧ line.node.definedName? = some "$a" ∧
      line.erase text = "$a=o/r\n\n$b=$a repo:$a" ∧
      ∃ front back, line.IsDead .empty text front back := by
  intro text earlier line
  have defines : earlier.node.definedName? = some "$a" := by decide +kernel
  have redefines : line.node.definedName? = some "$a" := by decide +kernel
  exact ⟨defines, redefines, by decide +kernel,
    (exists_isDead_of_redefines .empty (by decide +kernel) (by decide +kernel)
      (by decide) defines redefines).1⟩

end SourceLine

end SearchQuery
