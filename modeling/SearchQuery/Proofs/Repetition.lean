import Mathlib.Data.List.Nodup

/-!
# Lists without repetition

A list from which the later ones of equal members are erased has each of its members once.
-/

namespace SearchQuery

variable {α : Type} [BEq α] [LawfulBEq α]

/-- No member is left twice. -/
theorem nodup_eraseDups : ∀ list : List α, list.eraseDups.Nodup
  | [] => by simp
  | first :: others => by
      rw [List.eraseDups_cons, List.nodup_cons]
      refine ⟨?_, nodup_eraseDups _⟩
      simp [List.mem_eraseDups]
termination_by list => list.length
decreasing_by
  exact Nat.lt_succ_of_le (List.length_filter_le ..)

/-- Nothing is erased where no member stands twice. -/
theorem eraseDups_of_nodup {list : List α} (nodup : list.Nodup) : list.eraseDups = list := by
  induction list with
  | nil => rfl
  | cons first others induction =>
      rw [List.nodup_cons] at nodup
      have others_eq : others.filter (fun other => !other == first) = others := by
        rw [List.filter_eq_self]
        intro other member
        simpa using fun same : other = first => nodup.1 (same ▸ member)
      rw [List.eraseDups_cons, others_eq, induction nodup.2]

/-- Lists that have no members in common are freed from repetition one by one. -/
theorem eraseDups_append_of_disjoint {left right : List α}
    (disjoint : ∀ value ∈ right, value ∉ left) :
    (left ++ right).eraseDups = left.eraseDups ++ right.eraseDups := by
  rw [List.eraseDups_append, List.removeAll, List.filter_eq_self.mpr]
  simpa using disjoint

/-- One more member is left unless the list has it already. -/
theorem eraseDups_concat (list : List α) (value : α) [Decidable (value ∈ list)] :
    (list ++ [value]).eraseDups =
      if value ∈ list then list.eraseDups else list.eraseDups ++ [value] := by
  rw [List.eraseDups_append, List.removeAll]
  split
  case isTrue member => simp [member]
  case isFalse missing => simp [missing, List.eraseDups_cons]

end SearchQuery
