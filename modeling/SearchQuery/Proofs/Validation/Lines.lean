import SearchQuery.Proofs.Document.Erasure
import SearchQuery.Proofs.Document.Totality
import SearchQuery.Proofs.Line.Shape
import SearchQuery.Proofs.Symbol.Resemblance
import SearchQuery.Proofs.Validation.Moved

/-!
# What is wrong with a line

A document is validated line by line.  Each of its lines is a query or a definition, and no other
query or definition occurs in it but for the value of a definition.  So the walk through a document
comes to its lines one after the other, and nothing is validated twice.  What is wrong with a line
does not depend on the lines around it, but for what they add to the table.
-/

namespace SearchQuery

namespace Validation

variable {table : SymbolTable}

/-- What is wrong with a line, taken by itself: a query is validated as one, and a definition as a
definition and then its value as a query. -/
def ofLine (table : SymbolTable) : Node → Except Fault (List Diagnostic)
  | .query span items => ofQuery table (.query span items)
  | .definition _ name value _ => do
      let own ← ofDefinition name value
      let inner ← ofQuery table value
      return own ++ inner
  | _ => .ok []

/-- What is wrong with a line of a text, if it has a node. -/
def ofSourceLine (table : SymbolTable) (line : SourceLine) : Except Fault (List Diagnostic) :=
  if line.isSignificant then ofLine table line.node else .ok []

/-- What is found in a tree is found at its root and in its parts. -/
theorem foundIn_eq (table : SymbolTable) (root : Node) :
    foundIn table root = foundAt table root ++ root.partNodes.flatMap (foundIn table) := by
  rw [foundIn, Node.preorder_eq, List.flatMap_cons, List.flatMap_assoc]
  rfl

/-- Nothing is found in a tree without queries and definitions. -/
theorem foundIn_eq_nil {root : Node} (shaped : ∀ inner ∈ root.preorder, inner.IsShaped)
    (kind : root.kind ≠ .query ∧ root.kind ≠ .definition) : foundIn table root = [] := by
  rw [foundIn, List.flatMap_eq_nil_iff]
  intro inner inner_mem
  have inner_kind := Node.kind_of_mem_preorder shaped kind inner inner_mem
  cases inner with
  | query => exact absurd rfl inner_kind.1
  | definition => exact absurd rfl inner_kind.2
  | _ => rfl

/-- What is found in a query is found at its root. -/
theorem foundIn_query {root : Node} (shaped : ∀ inner ∈ root.preorder, inner.IsShaped)
    (kind : root.kind = .query) : foundIn table root = foundAt table root := by
  rw [Node.forall_mem_preorder_iff] at shaped
  have inside : root.partNodes.flatMap (foundIn table) = [] := by
    rw [List.flatMap_eq_nil_iff]
    exact fun part part_mem => foundIn_eq_nil (shaped.2 part part_mem)
      (Node.kind_of_mem_partNodes shaped.1 (by simp [kind]) part_mem)
  rw [foundIn_eq, inside, List.append_nil]

/-- What is wrong with a line is what is found in its tree. -/
theorem ofLine_eq {line : Node} (kind_mem : line.kind ∈ [.definition, .query])
    (shaped : ∀ inner ∈ line.preorder, inner.IsShaped) :
    ofLine table line = .ok (foundIn table line) := by
  have nodes : ∀ inner ∈ line.preorder, inner.kind ≠ .foreign := fun inner member =>
    Node.kind_ne_foreign_of_isShaped (shaped inner member)
  cases line with
  | query span items =>
      rw [foundIn_query shaped rfl]
      exact ofVisited_eq nodes
  | definition span name value label =>
      have own : ofVisited table (.definition span name value label) =
          .ok (foundAt table (.definition span name value label)) := ofVisited_eq nodes
      rw [Node.forall_mem_preorder_iff, Node.partNodes_definition, List.forall_mem_cons,
        List.forall_mem_singleton] at nodes shaped
      obtain ⟨root, name_shaped, value_shaped⟩ := shaped
      have name_nothing : foundIn table name = [] := foundIn_eq_nil name_shaped (by simp [root.1])
      have inner : ofQuery table value = .ok (foundIn table value) := by
        rw [foundIn_query value_shaped root.2.1]
        cases value with
        | query => exact ofVisited_eq nodes.2.2
        | _ => cases root.2.1
      rw [foundIn_eq, Node.partNodes_definition, List.flatMap_cons, List.flatMap_singleton,
        name_nothing, List.nil_append, ofLine, inner]
      rw [ofVisited] at own
      rw [own]
      rfl
  | _ => simp [Node.kind] at kind_mem

/-- What is found in the lines of a text. -/
def foundInLines (table : SymbolTable) (lines : List SourceLine) : List Diagnostic :=
  lines.flatMap fun line => foundIn table line.node

theorem ofSourceLine_eq (table : SymbolTable) (line : SourceLine) :
    ofSourceLine table line = .ok (foundInLines table ([line].filter (·.isSignificant))) := by
  rw [ofSourceLine, List.filter_singleton]
  cases line.isSignificant with
  | false => rfl
  | true =>
      rw [if_pos rfl, ofLine_eq line.isShaped_node.1 line.isShaped_node.2]
      exact congrArg Except.ok (List.flatMap_singleton ..).symm

theorem ofDocument_ofText (table : SymbolTable) (text : String) :
    ofDocument table (.ofText text) =
      .ok (foundInLines table (Document.significantLines text)) := by
  rw [ofDocument_eq_flatMap_lines, Document.ofText, List.flatMap_map]
  rfl

/-- What is found in lines that stand further right is moved. -/
theorem foundInLines_move (table : SymbolTable) (distance : Nat) (lines : List SourceLine) :
    foundInLines table (lines.map (.move distance)) =
      (foundInLines table lines).map (.shift distance) := by
  simp only [foundInLines, List.flatMap_map, List.map_flatMap, SourceLine.node_move, foundIn_shift]

/-- What is wrong with a text around a line is what is wrong with the text in front of the line,
with the line and with the text behind it. -/
theorem ofDocument_around (table : SymbolTable) {front content back : String}
    (member : ⟨front.length, content.toList⟩ ∈
      SourceLine.ofText (front ++ content ++ back).toList) :
    ofDocument table (.ofText (front ++ content ++ back)) =
      .ok (foundInLines table (Document.significantLines front) ++
        foundInLines table ([⟨front.length, content.toList⟩].filter (·.isSignificant)) ++
        (foundInLines table (Document.significantLines back)).map
          (.shift (front.length + content.length))) := by
  rw [ofDocument_ofText, Document.significantLines_around member, ← Int.natCast_add,
    ← foundInLines_move]
  simp only [foundInLines, List.flatMap_append]

/-- A document is validated line by line: each of its lines is a definition or a query, and what is
wrong with the document is what is wrong with each line by itself, one after the other.  With a line
that is changed, and a table in which names stand for the same, only what is wrong with that line
changes; what is wrong with those behind it is moved. -/
theorem ofDocument_line_by_line (table : SymbolTable) :
    (∀ text : String,
      (∀ line ∈ (Document.ofText text).lines, line.kind ∈ [.definition, .query]) ∧
        ∃ found, (Document.ofText text).lines.mapM (ofLine table) = .ok found ∧
          ofDocument table (.ofText text) = .ok found.flatten) ∧
      ∀ (other : SymbolTable) (front left right back : String), table.Resembles other →
        ⟨front.length, left.toList⟩ ∈ SourceLine.ofText (front ++ left ++ back).toList →
        ⟨front.length, right.toList⟩ ∈ SourceLine.ofText (front ++ right ++ back).toList →
        ∃ ahead inner inner' behind,
          ofDocument table (.ofText front) = .ok ahead ∧
            ofDocument table (.ofText back) = .ok behind ∧
            ofSourceLine table ⟨front.length, left.toList⟩ = .ok inner ∧
            ofSourceLine other ⟨front.length, right.toList⟩ = .ok inner' ∧
            ofDocument table (.ofText (front ++ left ++ back)) =
              .ok (ahead ++ inner ++ behind.map (.shift (front.length + left.length))) ∧
            ofDocument other (.ofText (front ++ right ++ back)) =
              .ok (ahead ++ inner' ++ behind.map (.shift (front.length + right.length))) := by
  constructor
  · intro text
    have shaped := fun line (member : line ∈ (Document.ofText text).lines) =>
      Document.isShaped_of_mem_lines member
    refine ⟨fun line member => (shaped line member).1, _,
      mapM_eq_ok fun line member => ofLine_eq (shaped line member).1 (shaped line member).2, ?_⟩
    rw [ofDocument_eq table (Document.hasNodesOnly_ofText text)]
    rfl
  · intro other front left right back resembles left_mem right_mem
    have same (lines : List SourceLine) : foundInLines other lines = foundInLines table lines :=
      List.flatMap_congr fun line _ => (resembles.foundIn_eq line.node).symm
    refine ⟨_, _, _, _, ofDocument_ofText table front, ofDocument_ofText table back,
      ofSourceLine_eq .., ofSourceLine_eq .., ofDocument_around table left_mem, ?_⟩
    rw [ofDocument_around other right_mem, same (Document.significantLines front),
      same (Document.significantLines back)]

/-- A line between two others, one of which is wrong where the changed line is. -/
theorem ofDocument_with_changed_line :
    let table := SymbolTable.empty.add (.qualifier ⟨"is", .oneOf [["open", "closed"]]⟩)
    ∃ ahead inner inner' behind,
      ofDocument table (.ofText "is:a\n") = .ok ahead ∧
        ofDocument table (.ofText "\nis:open is:closed") = .ok behind ∧
        ofSourceLine table ⟨5, "is:closed".toList⟩ = .ok inner ∧
        ofSourceLine table ⟨5, "$x=$x OR".toList⟩ = .ok inner' ∧
        ofDocument table (.ofText "is:a\nis:closed\nis:open is:closed") =
          .ok (ahead ++ inner ++ behind.map (.shift 14)) ∧
        ofDocument table (.ofText "is:a\n$x=$x OR\nis:open is:closed") =
          .ok (ahead ++ inner' ++ behind.map (.shift 13)) :=
  (ofDocument_line_by_line _).2 _ "is:a\n" "is:closed" "$x=$x OR" "\nis:open is:closed"
    (SymbolTable.Resembles.refl _) (by decide +kernel) (by decide +kernel)

end Validation

end SearchQuery
