import Mathlib.Data.List.Forall2
import Mathlib.Data.List.Nodup
import Mathlib.Data.List.Sort
import Mathlib.Data.String.Basic
import SearchQuery.Catalog.Entry
import SearchQuery.Proofs.Repetition

/-!
# Groups of values

Groups are read from the first to the last, and the values of the groups so far are kept.  Groups
whose members have texts are sound if each has a member and no two have a text in common.  Sound
groups are read to the end, whatever stands behind them; of groups that are not sound, the first one
that is invalid or empty, has a member without a text or shares a value with those before it decides
what comes of them.
-/

namespace SearchQuery.Expectation

/-! ## Texts of members -/

/-- The members of a group have these texts. -/
def IsWritten (members : List Value) (texts : List String) : Prop :=
  members.map Value.render? = texts.map some

instance (members : List Value) (texts : List String) : Decidable (IsWritten members texts) :=
  inferInstanceAs (Decidable (members.map Value.render? = texts.map some))

/-- The groups are sequences whose members have these texts. -/
def AreWritten (groups : List Value) (texts : List (List String)) : Prop :=
  List.Forall₂ (fun group own => ∃ members, group = .list members ∧ IsWritten members own)
    groups texts

theorem IsWritten.eq_nil_iff {members : List Value} {texts : List String}
    (written : IsWritten members texts) : members = [] ↔ texts = [] := by
  rw [← List.map_eq_nil_iff (f := Value.render?), written, List.map_eq_nil_iff]

theorem mapM_render?_eq_some_iff {members : List Value} {texts : List String} :
    members.mapM Value.render? = some texts ↔ IsWritten members texts := by
  rw [IsWritten]
  induction members generalizing texts with
  | nil => cases texts <;> simp
  | cons member members induction =>
      rw [List.mapM_cons]
      cases texts with
      | nil => cases member.render? <;> cases members.mapM Value.render? <;> simp
      | cons text texts =>
          rw [List.map_cons, List.map_cons, List.cons.injEq, ← induction]
          cases member.render? <;> cases members.mapM Value.render? <;> simp

theorem mapM_render?_eq_none_iff {members : List Value} :
    members.mapM Value.render? = none ↔ ∃ member ∈ members, member.render? = none := by
  induction members with
  | nil => simp
  | cons member members induction =>
      rw [List.mapM_cons, List.exists_mem_cons_iff, ← induction]
      cases member.render? <;> cases members.mapM Value.render? <;> simp

/-! ## Shared values -/

theorem mem_shared {seen values : List String} {value : String} :
    value ∈ shared seen values ↔ value ∈ values ∧ value ∈ seen := by
  simp [shared, List.mem_mergeSort]

theorem shared_eq_nil_iff {seen values : List String} :
    shared seen values = [] ↔ ∀ value ∈ values, value ∉ seen := by
  simp [List.eq_nil_iff_forall_not_mem, mem_shared]

/-- The shared values stand in the order of their characters, each once. -/
theorem pairwise_shared (seen texts : List String) :
    (shared seen texts.eraseDups).Pairwise (· < ·) := by
  have ordered : (shared seen texts.eraseDups).Pairwise fun left right =>
      decide (left ≤ right) = true :=
    List.pairwise_mergeSort (fun _ _ _ => by simpa using le_trans)
      (fun left right => by simpa using le_total left right) _
  have sorted : (shared seen texts.eraseDups).Pairwise (· ≤ ·) := by simpa using ordered
  have distinct : (shared seen texts.eraseDups).Nodup :=
    ((List.mergeSort_perm ..).nodup_iff).mpr ((nodup_eraseDups texts).filter _)
  exact sorted.imp₂ (fun _ _ => lt_of_le_of_ne) distinct

/-! ## One group -/

/-- A group behind some others is bad. -/
inductive IsBad (seen : List String) : Value → EntryFailure → Prop where
  /-- It is empty or no sequence. -/
  | invalid {group : Value} (unfilled : ∀ members, group = .list members → members = []) :
      IsBad seen group (.refused .badGroup)
  /-- It has a member without a text. -/
  | noText {members : List Value} (unwritten : ∃ member ∈ members, member.render? = none) :
      IsBad seen (.list members) .noText
  /-- It shares a value with what was seen. -/
  | overlap {members : List Value} {texts : List String} (written : IsWritten members texts)
      (shares : shared seen texts.eraseDups ≠ []) :
      IsBad seen (.list members) (.refused (.overlap (shared seen texts.eraseDups)))

/-- A group is bad, or its members have texts none of which was seen. -/
theorem exists_isBad_or_isWritten (seen : List String) (group : Value) :
    (∃ failure, IsBad seen group failure) ∨ ∃ members texts, group = .list members ∧
      IsWritten members texts ∧ texts ≠ [] ∧ shared seen texts.eraseDups = [] := by
  by_cases filled : ∃ members, group = .list members ∧ members ≠ []
  case neg =>
    exact .inl ⟨_, .invalid fun members same => by_contra fun some => filled ⟨members, same, some⟩⟩
  case pos =>
    obtain ⟨members, rfl, filled⟩ := filled
    cases texts_eq : members.mapM Value.render? with
    | none => exact .inl ⟨_, .noText (mapM_render?_eq_none_iff.mp texts_eq)⟩
    | some texts =>
        have written := mapM_render?_eq_some_iff.mp texts_eq
        by_cases unshared : shared seen texts.eraseDups = []
        · exact .inr ⟨members, texts, rfl, written, written.eq_nil_iff.not.mp filled, unshared⟩
        · exact .inl ⟨_, .overlap written unshared⟩

theorem groupValues_of_isWritten {members : List Value} {texts : List String}
    (written : IsWritten members texts) (filled : texts ≠ []) :
    groupValues (.list members) = .ok texts.eraseDups := by
  obtain ⟨item, items, rfl⟩ := List.exists_cons_of_ne_nil (written.eq_nil_iff.not.mpr filled)
  rw [groupValues, mapM_render?_eq_some_iff.mpr written]

/-- The values of a group that is not bad stand in front of those of the others. -/
theorem groupsFrom_cons {seen : List String} {members : List Value} {texts : List String}
    (written : IsWritten members texts) (filled : texts ≠ [])
    (unshared : shared seen texts.eraseDups = []) (groups : List Value) :
    groupsFrom seen (.list members :: groups) =
      (groupsFrom (seen ++ texts.eraseDups) groups).map (texts.eraseDups :: ·) := by
  rw [groupsFrom, groupValues_of_isWritten written filled]
  simp [unshared]

/-- Nothing comes of groups the first of which is bad. -/
theorem groupsFrom_cons_of_isBad {seen : List String} {group : Value} {failure : EntryFailure}
    (bad : IsBad seen group failure) (groups : List Value) :
    groupsFrom seen (group :: groups) = .error failure := by
  cases bad with
  | invalid unfilled =>
      have invalid : groupValues group = .error (.refused .badGroup) := by
        fun_cases groupValues group with
        | case3 => rfl
        | case1 item items | case2 item items => cases unfilled _ rfl
      rw [groupsFrom, invalid]
  | @noText members unwritten =>
      obtain ⟨item, items, rfl⟩ := List.exists_cons_of_ne_nil
        (List.ne_nil_of_mem unwritten.choose_spec.1)
      rw [groupsFrom, groupValues, mapM_render?_eq_none_iff.mpr unwritten]
  | @overlap members texts written shares =>
      have filled : texts ≠ [] := by
        rintro rfl
        exact shares (by simp [shared])
      rw [groupsFrom, groupValues_of_isWritten written filled]
      simp [shares]

/-! ## Sound groups -/

/-- Groups of texts none of which is empty, and that have no text in common, neither with each other
nor with what was seen before them. -/
structure IsSound (seen : List String) (groups : List (List String)) : Prop where
  /-- No group is empty. -/
  filled : ∀ texts ∈ groups, texts ≠ []
  /-- No text of a group was seen before. -/
  fresh : ∀ texts ∈ groups, ∀ text ∈ texts, text ∉ seen
  /-- No text occurs in two groups. -/
  apart : groups.Pairwise fun left right => ∀ text ∈ left, text ∉ right

theorem isSound_nil (seen : List String) : IsSound seen [] := ⟨by simp, by simp, .nil⟩

theorem isSound_cons_iff {seen texts : List String} {groups : List (List String)} :
    IsSound seen (texts :: groups) ↔ texts ≠ [] ∧ shared seen texts.eraseDups = [] ∧
      IsSound (seen ++ texts.eraseDups) groups := by
  simp only [shared_eq_nil_iff, List.mem_eraseDups]
  constructor
  · rintro ⟨filled, fresh, apart⟩
    rw [List.forall_mem_cons] at filled fresh
    rw [List.pairwise_cons] at apart
    refine ⟨filled.1, fresh.1, filled.2, fun other other_mem text text_mem => ?_, apart.2⟩
    rw [List.mem_append, List.mem_eraseDups, not_or]
    exact ⟨fresh.2 other other_mem text text_mem, fun member =>
      apart.1 other other_mem text member text_mem⟩
  · rintro ⟨filled, fresh, sound⟩
    have apart (other : List String) (other_mem : other ∈ groups) (text : String)
        (text_mem : text ∈ other) : text ∉ seen ∧ text ∉ texts := by
      simpa [List.mem_eraseDups] using sound.fresh other other_mem text text_mem
    refine ⟨List.forall_mem_cons.mpr ⟨filled, sound.filled⟩,
      List.forall_mem_cons.mpr ⟨fresh, fun other other_mem text text_mem =>
        (apart other other_mem text text_mem).1⟩,
      List.pairwise_cons.mpr ⟨fun other other_mem text member text_mem =>
        (apart other other_mem text text_mem).2 member, sound.apart⟩⟩

/-- Sound groups are read to the end, and then what stands behind them. -/
theorem groupsFrom_append {seen : List String} {front : List Value} {texts : List (List String)}
    (written : AreWritten front texts) (sound : IsSound seen texts) (back : List Value) :
    groupsFrom seen (front ++ back) =
      (groupsFrom (seen ++ texts.flatMap List.eraseDups) back).map
        (texts.map List.eraseDups ++ ·) := by
  induction written generalizing seen with
  | nil =>
      rw [List.nil_append, List.flatMap_nil, List.append_nil]
      cases groupsFrom seen back <;> rfl
  | @cons group own front others first _ induction =>
      obtain ⟨members, rfl, first⟩ := first
      obtain ⟨filled, unshared, sound⟩ := isSound_cons_iff.mp sound
      rw [List.cons_append, groupsFrom_cons first filled unshared, induction sound,
        List.flatMap_cons, List.append_assoc]
      cases groupsFrom (seen ++ (own.eraseDups ++ others.flatMap List.eraseDups)) back <;> rfl

/-- Groups are sound, or one of them is the first that is bad. -/
theorem areWritten_or_exists_isBad (seen : List String) (groups : List Value) :
    (∃ texts, AreWritten groups texts ∧ IsSound seen texts) ∨
      ∃ front texts group back failure, groups = front ++ group :: back ∧ AreWritten front texts ∧
        IsSound seen texts ∧ IsBad (seen ++ texts.flatMap List.eraseDups) group failure := by
  induction groups generalizing seen with
  | nil => exact .inl ⟨[], .nil, isSound_nil seen⟩
  | cons group groups induction =>
      rcases exists_isBad_or_isWritten seen group with
        ⟨failure, bad⟩ | ⟨members, own, rfl, written, filled, unshared⟩
      · exact .inr ⟨[], [], group, groups, failure, rfl, .nil, isSound_nil seen, by simpa using bad⟩
      · rcases induction (seen ++ own.eraseDups) with
          ⟨texts, others, sound⟩ | ⟨front, texts, bad_group, back, failure, rfl, others, sound, bad⟩
        · exact .inl ⟨own :: texts, .cons ⟨members, rfl, written⟩ others,
            isSound_cons_iff.mpr ⟨filled, unshared, sound⟩⟩
        · refine .inr ⟨.list members :: front, own :: texts, bad_group, back, failure, rfl,
            .cons ⟨members, rfl, written⟩ others,
            isSound_cons_iff.mpr ⟨filled, unshared, sound⟩, ?_⟩
          rwa [List.flatMap_cons, ← List.append_assoc]

/-- Nothing comes of groups one of which is bad, if those in front of it are sound. -/
theorem groupsFrom_of_isBad {seen : List String} {front : List Value} {texts : List (List String)}
    {group : Value} {failure : EntryFailure} (written : AreWritten front texts)
    (sound : IsSound seen texts) (bad : IsBad (seen ++ texts.flatMap List.eraseDups) group failure)
    (back : List Value) : groupsFrom seen (front ++ group :: back) = .error failure := by
  rw [groupsFrom_append written sound, groupsFrom_cons_of_isBad bad]
  rfl

/-- Of sound groups come their texts, each once. -/
theorem groupsFrom_of_isSound {seen : List String} {groups : List Value}
    {texts : List (List String)} (written : AreWritten groups texts) (sound : IsSound seen texts) :
    groupsFrom seen groups = .ok (texts.map List.eraseDups) := by
  have read := groupsFrom_append written sound []
  simpa [groupsFrom, Except.map] using read

end SearchQuery.Expectation
