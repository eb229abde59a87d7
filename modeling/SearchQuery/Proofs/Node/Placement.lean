import Mathlib.Data.List.Chain
import SearchQuery.Line.Grammar
import SearchQuery.Proofs.Node.Preorder

/-!
# Where nodes stand in a text

A node is placed in a text if its span lies in the text, its parts lie inside of it one after the
other, and the words it carries are those of the text.  A node placed in a part of a text is placed
in the text when it is moved there.
-/

namespace SearchQuery

namespace Text

@[simp]
theorem slice_ofNat (text : List Char) (start stop : Nat) :
    slice text start stop = (text.drop start).take (stop - start) := by
  simp [slice, charsBefore]

theorem slice_prefix (text : List Char) {start middle stop : Int} (nonneg : 0 ≤ start)
    (ordered : start ≤ middle) (longer : middle ≤ stop) :
    slice text start middle <+: slice text start stop := by
  obtain ⟨start, rfl⟩ := Int.eq_ofNat_of_zero_le nonneg
  obtain ⟨middle, rfl⟩ := Int.eq_ofNat_of_zero_le (Int.le_trans nonneg ordered)
  obtain ⟨stop, rfl⟩ := Int.eq_ofNat_of_zero_le (Int.le_trans (Int.natCast_nonneg middle) longer)
  rw [slice_ofNat, slice_ofNat]
  exact List.take_prefix_take_left (by omega)

theorem slice_suffix (text : List Char) {start middle stop : Int} (nonneg : 0 ≤ start)
    (longer : start ≤ middle) (ordered : middle ≤ stop) :
    slice text middle stop <:+ slice text start stop := by
  obtain ⟨start, rfl⟩ := Int.eq_ofNat_of_zero_le nonneg
  obtain ⟨middle, rfl⟩ := Int.eq_ofNat_of_zero_le (Int.le_trans nonneg longer)
  obtain ⟨stop, rfl⟩ := Int.eq_ofNat_of_zero_le (Int.le_trans (Int.natCast_nonneg middle) ordered)
  obtain ⟨more, rfl⟩ := Nat.exists_eq_add_of_le (Int.ofNat_le.mp longer)
  rw [slice_ofNat, slice_ofNat, ← List.drop_take, ← List.drop_take, ← List.drop_drop]
  exact List.drop_suffix _ _

/-- A slice of a part of a text is one of the text. -/
theorem slice_append (front content back : List Char) {start stop : Int} (nonneg : 0 ≤ start)
    (ordered : start ≤ stop) (inside : stop ≤ content.length) :
    slice (front ++ content ++ back) (start + front.length) (stop + front.length) =
      slice content start stop := by
  obtain ⟨start, rfl⟩ := Int.eq_ofNat_of_zero_le nonneg
  obtain ⟨stop, rfl⟩ := Int.eq_ofNat_of_zero_le (Int.le_trans nonneg ordered)
  rw [← Int.natCast_add, ← Int.natCast_add, slice_ofNat, slice_ofNat, List.append_assoc,
    Nat.add_sub_add_right, Nat.add_comm start, ← List.drop_drop, List.drop_left,
    List.drop_append_of_le_length (by omega), List.take_append_of_le_length]
  rw [List.length_drop]
  omega

end Text

namespace Span

/-- The characters of a part of a text, taken from the whole. -/
theorem slice_shift (front content back : List Char) {span : Span} (nonneg : 0 ≤ span.start)
    (ordered : span.start ≤ span.stop) (inside : span.stop ≤ content.length) :
    (span.shift front.length).slice (front ++ content ++ back) = span.slice content :=
  Text.slice_append front content back nonneg ordered inside

end Span

namespace Node

/-- The node is a literal whose text stands in the source as it is. -/
def IsSpelled (source : List Char) (node : Node) : Prop :=
  ∃ span text, node = .literal span text ∧ text.toList = span.slice source

/-- The words that a node carries are those of its source. -/
def Reflects (source : List Char) : Node → Prop
  | .literal span text => text.toList = Line.unquote (span.slice source)
  | .number span text => text.toList = span.slice source
  | .date span text => text.toList = span.slice source
  | .variable span name _ => name.toList = span.slice source
  | .mark span token => token = .orWord ∧ span.slice source = ['O', 'R']
  | .compare span operator _ => operator.toList <+: span.slice source
  | .qualified _ _ qualifier _ => qualifier.IsSpelled source
  | .sort _ keyword _ => keyword.IsSpelled source
  | _ => True

/-- Where a node and its parts stand in its source. -/
structure Placed (source : List Char) (node : Node) : Prop where
  /-- The parts of the node are its children. -/
  children_eq : node.children = .ok node.partNodes
  /-- The node does not begin before the source. -/
  start_nonneg : 0 ≤ node.start
  /-- The node does not end before it begins. -/
  start_le_stop : node.start ≤ node.stop
  /-- The node does not end behind the source. -/
  stop_le : node.stop ≤ source.length
  /-- The children lie inside of the node. -/
  inside : ∀ child ∈ node.partNodes, node.start ≤ child.start ∧ child.stop ≤ node.stop
  /-- The children follow each other. -/
  ordered : node.partNodes.IsChain fun left right => left.stop ≤ right.start
  /-- The node carries the words of the source. -/
  reflects : node.Reflects source

/-- A missing part of the node stands at its end. -/
def EndsMissing (node : Node) : Prop :=
  ∀ child ∈ node.partNodes, child.kind = .missing → child.span = .point node.stop

/-- The node covers some text, unless it is a missing part. -/
def IsSolid (node : Node) : Prop := node.start < node.stop ∨ node.kind = .missing

theorem fault?_of_placed {source : List Char} {node : Node} (placed : node.Placed source) :
    node.fault? = none := by
  cases fault : node.fault? with
  | none => rfl
  | some reason =>
      have := placed.children_eq
      simp [children, fault] at this

theorem Placed.start_shift {source : List Char} {node : Node} (placed : node.Placed source)
    (distance : Int) : (node.shift distance).start = node.start + distance := by
  rw [start, span_shift distance node (fault?_of_placed placed)]
  rfl

theorem Placed.stop_shift {source : List Char} {node : Node} (placed : node.Placed source)
    (distance : Int) : (node.shift distance).stop = node.stop + distance := by
  rw [stop, span_shift distance node (fault?_of_placed placed)]
  rfl

private theorem isSpelled_shift (front content back : List Char) {node : Node}
    (placed : node.Placed content) (spelled : node.IsSpelled content) :
    (node.shift front.length).IsSpelled (front ++ content ++ back) := by
  have moved := Span.slice_shift front content back placed.start_nonneg placed.start_le_stop
    placed.stop_le
  obtain ⟨span, text, rfl, text_eq⟩ := spelled
  exact ⟨span.shift front.length, text, by simp [shift], text_eq.trans moved.symm⟩

private theorem reflects_shift (front content back : List Char) {node : Node}
    (placed : node.Placed content) (children : ∀ child ∈ node.partNodes, child.Placed content) :
    (node.shift front.length).Reflects (front ++ content ++ back) := by
  have moved := Span.slice_shift front content back placed.start_nonneg placed.start_le_stop
    placed.stop_le
  have reflects := placed.reflects
  cases node with
  | literal | number | date | «variable» | mark | compare =>
      simp only [shift, Reflects, span] at moved reflects ⊢
      rwa [moved]
  | qualified _ _ qualifier _ =>
      exact isSpelled_shift front content back (children qualifier (by simp)) reflects
  | sort _ keyword _ =>
      exact isSpelled_shift front content back (children keyword (by simp)) reflects
  | _ => trivial

/-- A node that is placed in a part of a text is placed in the text when it is moved there. -/
theorem placed_shift (front content back : List Char) {node : Node} (placed : node.Placed content)
    (children : ∀ child ∈ node.partNodes, child.Placed content) :
    (node.shift front.length).Placed (front ++ content ++ back) := by
  have start_eq := placed.start_shift front.length
  have stop_eq := placed.stop_shift front.length
  have := placed.start_nonneg
  have := placed.start_le_stop
  have := placed.stop_le
  constructor
  · exact Node.children_eq (by rw [fault?_shift, fault?_of_placed placed])
  · omega
  · omega
  · simp only [List.length_append]
    omega
  · intro child member
    rw [partNodes_shift] at member
    obtain ⟨child, child_mem, rfl⟩ := List.mem_map.mp member
    have := placed.inside child child_mem
    rw [(children child child_mem).start_shift, (children child child_mem).stop_shift]
    omega
  · rw [partNodes_shift, List.isChain_map]
    refine placed.ordered.imp_of_mem_imp ?_
    intro left right left_mem right_mem ordered
    rw [(children left left_mem).stop_shift, (children right right_mem).start_shift]
    omega
  · exact reflects_shift front content back placed children

theorem isSolid_shift {source : List Char} {node : Node} (placed : node.Placed source)
    (solid : node.IsSolid) (distance : Int) : (node.shift distance).IsSolid := by
  rcases solid with nonempty | missing
  · left
    rw [placed.start_shift, placed.stop_shift]
    omega
  · right
    rw [kind_shift, missing]

theorem endsMissing_shift {source : List Char} {node : Node} (placed : node.Placed source)
    (children : ∀ child ∈ node.partNodes, child.Placed source) (ends : node.EndsMissing)
    (distance : Int) : (node.shift distance).EndsMissing := by
  intro child member missing
  rw [partNodes_shift] at member
  obtain ⟨child, child_mem, rfl⟩ := List.mem_map.mp member
  rw [kind_shift] at missing
  rw [span_shift distance child (fault?_of_placed (children child child_mem)),
    ends child child_mem missing, placed.stop_shift]
  rfl

end Node

end SearchQuery
