import SearchQuery.Document
import SearchQuery.Proofs.Node.Placement

/-!
# Trees without offsets

The offsets of a tree can be left out.  What remains does not change when the tree is moved, nor
does what the tree is printed as, if its nodes are placed in the text it is moved with.
-/

namespace SearchQuery

namespace Node

mutual

/-- The tree with all spans replaced by the empty span at the beginning of the text. -/
def bare : Node → Node
  | .literal _ text => .literal (.point 0) text
  | .number _ text => .number (.point 0) text
  | .date _ text => .date (.point 0) text
  | .variable _ name label => .variable (.point 0) name label
  | .mark _ token => .mark (.point 0) token
  | .missing _ message => .missing (.point 0) message
  | .range _ lower upper => .range (.point 0) (bareOption lower) (bareOption upper)
  | .compare _ operator value => .compare (.point 0) operator (bare value)
  | .qualified _ negated qualifier value =>
      .qualified (.point 0) negated (bare qualifier) (bare value)
  | .sort _ keyword criteria => .sort (.point 0) (bare keyword) (bare criteria)
  | .query _ items => .query (.point 0) (bareList items)
  | .definition _ name value label => .definition (.point 0) (bare name) (bare value) label
  | .document _ lines source => .document (.point 0) (bareList lines) source
  | .foreign value => .foreign value

/-- A boundary without offsets. -/
def bareOption : Option Node → Option Node
  | none => none
  | some node => some (bare node)

/-- Nodes without offsets. -/
def bareList : List Node → List Node
  | [] => []
  | node :: nodes => bare node :: bareList nodes

end

@[simp]
theorem bareOption_eq_map (node : Option Node) : bareOption node = node.map bare := by
  cases node <;> simp [bareOption]

@[simp]
theorem bareList_eq_map (nodes : List Node) : bareList nodes = nodes.map bare := by
  induction nodes with
  | nil => simp [bareList]
  | cons node nodes induction => simp [bareList, induction]

@[simp]
theorem bare_shift (distance : Int) (node : Node) : (node.shift distance).bare = node.bare := by
  induction node using forall_of_partNodes with
  | step node induction =>
      cases node with
      | range span lower upper => cases lower <;> cases upper <;> simp_all [shift, bare]
      | _ => simp_all [shift, bare]

private theorem printList_map {source source' : List Char} {lookup : String → Option String}
    {change : Node → Node} {nodes : List Node}
    (same : ∀ node ∈ nodes, (change node).print source' lookup = node.print source lookup) :
    printList source' lookup (nodes.map change) = printList source lookup nodes := by
  induction nodes with
  | nil => rfl
  | cons node nodes induction =>
      rw [List.forall_mem_cons] at same
      rw [List.map_cons, printList, printList, same.1, induction same.2]

private theorem printOption_map {source source' : List Char} {lookup : String → Option String}
    {change : Node → Node} (node : Option Node)
    (same : ∀ inner ∈ node, (change inner).print source' lookup = inner.print source lookup) :
    printOption source' lookup (node.map change) = printOption source lookup node := by
  cases node with
  | none => rfl
  | some inner => exact same inner rfl

/-- A tree that is placed in a part of a text is printed from the text as it is from the part. -/
theorem print_shift (front content back : List Char) (lookup : String → Option String) {node : Node}
    (placed : ∀ inner ∈ node.preorder, inner.Placed content) :
    (node.shift front.length).print (front ++ content ++ back) lookup =
      node.print content lookup := by
  induction node using forall_of_partNodes with
  | step node induction =>
      rw [forall_mem_preorder_iff] at placed
      obtain ⟨root, parts⟩ := placed
      have same : ∀ part ∈ node.partNodes, (part.shift front.length).print
          (front ++ content ++ back) lookup = part.print content lookup :=
        fun part member => induction part member (parts part member)
      have moved := Span.slice_shift front content back root.start_nonneg root.start_le_stop
        root.stop_le
      cases node with
      | literal | number | date | mark =>
          rw [span] at moved
          rw [shift, print, print, moved]
      | range span lower upper =>
          have lower_same := printOption_map lower fun inner member => same inner (by simp_all)
          have upper_same := printOption_map upper fun inner member => same inner (by simp_all)
          simp only [shift, print, shiftOption_eq_map]
          rw [lower_same, upper_same]
      | compare span operator value =>
          simp only [shift, print, same value (by simp)]
      | qualified span negated qualifier value =>
          simp only [shift, print, same qualifier (by simp), same value (by simp)]
      | sort span keyword criteria =>
          simp only [shift, print, same keyword (by simp), same criteria (by simp)]
      | definition span name value label =>
          simp only [shift, print, same value (by simp)]
          cases name <;> rfl
      | query span items =>
          rw [partNodes_query] at same
          simp only [shift, print, shiftList_eq_map, printList_map same]
      | document span lines source =>
          rw [partNodes_document] at same
          simp only [shift, print, shiftList_eq_map, printList_map same]
      | «variable» | missing | foreign => rfl

end Node

end SearchQuery
