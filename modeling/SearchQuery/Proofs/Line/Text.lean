import SearchQuery.Proofs.Line.Shape
import SearchQuery.Proofs.Node.Placement
import SearchQuery.Proofs.Node.Text

/-!
# The text of what is read

A tree that is read from a line is printed as some text that is not empty, if no part of it is
missing and no variable in it stands for the empty text.
-/

namespace SearchQuery

theorem Text.slice_ne_nil {text : List Char} {start stop : Int} (nonneg : 0 ≤ start)
    (ordered : start < stop) (inside : stop ≤ text.length) : slice text start stop ≠ [] := by
  obtain ⟨start, rfl⟩ := Int.eq_ofNat_of_zero_le nonneg
  obtain ⟨stop, rfl⟩ := Int.eq_ofNat_of_zero_le (Int.le_of_lt (Int.lt_of_le_of_lt nonneg ordered))
  have length_eq : (slice text start stop).length = min (stop - start) (text.length - start) := by
    rw [slice_ofNat, List.length_take, List.length_drop]
  rw [← List.length_pos_iff, length_eq]
  omega

namespace Node

/-- The tree is read from the source, and no part of it is missing. -/
structure IsWritten (source : List Char) (root : Node) : Prop where
  /-- The nodes have the shape of what is read. -/
  shaped : ∀ node ∈ root.preorder, node.IsShaped
  /-- The nodes are placed in the source. -/
  placed : ∀ node ∈ root.preorder, node.Placed source
  /-- The nodes cover some text. -/
  nonempty : ∀ node ∈ root.preorder, node.start < node.stop
  /-- No node is a missing part. -/
  present : ∀ node ∈ root.preorder, node.kind ≠ .missing

namespace IsWritten

variable {source : List Char} {root : Node} {lookup : String → Option String} {text : String}

theorem part {part : Node} (written : root.IsWritten source) (part_mem : part ∈ root.partNodes) :
    part.IsWritten source where
  shaped node member := written.shaped node (mem_preorder_of_mem_partNodes part_mem member)
  placed node member := written.placed node (mem_preorder_of_mem_partNodes part_mem member)
  nonempty node member := written.nonempty node (mem_preorder_of_mem_partNodes part_mem member)
  present node member := written.present node (mem_preorder_of_mem_partNodes part_mem member)

/-- The words of the tree are not empty. -/
theorem slice_ne_nil (written : root.IsWritten source) : root.span.slice source ≠ [] := by
  have placed := written.placed root (self_mem_preorder root)
  exact Text.slice_ne_nil placed.start_nonneg (written.nonempty root (self_mem_preorder root))
    placed.stop_le

/-- A part that may be missing is there. -/
theorem kind_of_part {part : Node} {kinds : List Kind} (written : root.IsWritten source)
    (part_mem : part ∈ root.partNodes) (kind_mem : part.kind ∈ .missing :: kinds) :
    part.kind ∈ kinds :=
  (List.mem_cons.mp kind_mem).resolve_left
    (written.present part (mem_preorder_of_mem_partNodes part_mem (self_mem_preorder part)))

end IsWritten

/-- An item is printed as some text that is not empty. -/
theorem text_ne_empty_of_isWritten {source : List Char} {lookup : String → Option String}
    {item : Node} {text : String} (written : item.IsWritten source)
    (isItem : item.kind ∈ Kind.items)
    (resolved : ∀ name ∈ item.names, ∃ word, lookup name = some word ∧ word ≠ "")
    (printed : item.print source lookup = .ok text) : text ≠ "" := by
  induction item using forall_of_partNodes generalizing text with
  | step item induction =>
      have slice_ne := written.slice_ne_nil
      cases item with
      | literal | number | date | mark =>
          rw [print, Except.ok.injEq] at printed
          rw [← printed]
          simpa [span, String.ext_iff] using slice_ne
      | «variable» span name label =>
          obtain ⟨word, word_eq, word_ne⟩ := resolved name (name_mem_names span name label)
          rw [print, word_eq, Except.ok.injEq] at printed
          rwa [← printed]
      | compare span operator value =>
          have value_mem : value ∈ (Node.compare span operator value).partNodes := by simp
          have compared := written.kind_of_part value_mem (written.shaped _ (self_mem_preorder _))
          rw [print] at printed
          obtain ⟨value_text, value_eq, text_eq⟩ := bind_eq_ok_iff.mp printed
          have value_ne := induction value value_mem (written.part value_mem)
            (by revert compared; generalize value.kind = kind; revert kind; decide)
            (forall_mem_names_part resolved value_mem) value_eq
          rw [← Except.ok.inj text_eq]
          simp [value_ne]
      | range span lower upper =>
          rw [print] at printed
          obtain ⟨lower_text, _, printed⟩ := bind_eq_ok_iff.mp printed
          obtain ⟨upper_text, _, text_eq⟩ := bind_eq_ok_iff.mp printed
          rw [← Except.ok.inj text_eq]
          simp
      | qualified span negated qualifier value =>
          rw [print] at printed
          obtain ⟨name_text, _, printed⟩ := bind_eq_ok_iff.mp printed
          obtain ⟨value_text, _, text_eq⟩ := bind_eq_ok_iff.mp printed
          rw [← Except.ok.inj text_eq]
          simp
      | sort span keyword criteria =>
          rw [print] at printed
          obtain ⟨keyword_text, _, printed⟩ := bind_eq_ok_iff.mp printed
          obtain ⟨criteria_text, _, text_eq⟩ := bind_eq_ok_iff.mp printed
          rw [← Except.ok.inj text_eq]
          simp
      | _ => simp [kind, Kind.items] at isItem

/-- A query is printed as some text that is not empty. -/
theorem text_ne_empty_of_query {source : List Char} {lookup : String → Option String}
    {query : Node} {text : String} (written : query.IsWritten source)
    (isQuery : query.kind = .query)
    (resolved : ∀ name ∈ query.names, ∃ word, lookup name = some word ∧ word ≠ "")
    (printed : query.print source lookup = .ok text) : text ≠ "" := by
  cases query with
  | query span items =>
      obtain ⟨nonempty, kinds⟩ := written.shaped _ (self_mem_preorder _)
      obtain ⟨item, others, rfl⟩ := List.exists_cons_of_ne_nil nonempty
      have item_mem : item ∈ (Node.query span (item :: others)).partNodes := by simp
      rw [print, printList] at printed
      obtain ⟨texts, texts_eq, text_eq⟩ := bind_eq_ok_iff.mp printed
      obtain ⟨item_text, item_eq, texts_eq⟩ := bind_eq_ok_iff.mp texts_eq
      obtain ⟨other_texts, _, texts_eq⟩ := bind_eq_ok_iff.mp texts_eq
      have item_ne := text_ne_empty_of_isWritten (written.part item_mem)
        (written.kind_of_part item_mem (kinds item List.mem_cons_self))
        (forall_mem_names_part resolved item_mem) item_eq
      rw [← Except.ok.inj text_eq, ← Except.ok.inj texts_eq, Ne, ← String.toList_eq_nil_iff,
        String.toList_intercalate, List.map_cons]
      rw [Ne, ← String.toList_eq_nil_iff] at item_ne
      cases other_texts with
      | nil => simpa using item_ne
      | cons next more => simp [List.intercalate_cons_cons, item_ne]
  | _ => cases isQuery

end Node

end SearchQuery
