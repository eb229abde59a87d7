import SearchQuery.Catalog.File
import SearchQuery.Proofs.Catalog.Groups
import SearchQuery.Proofs.Value.Text

/-!
# Entries of a catalog

An entry is accepted exactly if it is the name of a type, or a mapping with sound groups.  The sets
that come of it hold every value once, and an entry written from them comes to the same sets.  Any
other entry is refused, unless reading it comes upon a member without a text first.
-/

namespace SearchQuery

/-- A key is a text exactly if it is that text. -/
theorem Value.sameKey_text_iff {key : Value} {word : String} :
    key.sameKey (.text word) = true ↔ key = .text word := by
  cases key <;> simp [sameKey, ratio?]

namespace Expectation

variable {entry : Value}

/-- The entry is a mapping with a sequence of groups under `sets`.  Of several such keys the first
one counts. -/
def HasSets (entry : Value) (groups : List Value) : Prop :=
  ∃ before after, entry = .map (before ++ (.text "sets", .list groups) :: after) ∧
    ∀ other ∈ before, other.1 ≠ .text "sets"

/-- The entry that lists some sets. -/
def entryOf (sets : ValueSets) : Value :=
  .map [(.text "sets", .list (sets.map fun values => .list (values.map .text)))]

theorem setsOf?_eq_some_iff {groups : List Value} :
    setsOf? entry = some (.list groups) ↔ HasSets entry groups := by
  cases entry with
  | map entries =>
      have found_iff : setsOf? (.map entries) = some (.list groups) ↔
          ∃ key, entries.find? (·.1.sameKey (.text "sets")) = some (key, .list groups) := by
        simp [setsOf?, Value.lookup?]
      simp only [found_iff, List.find?_eq_some_iff_append, Value.sameKey_text_iff, HasSets,
        Value.map.injEq, Bool.not_eq_true', ← Bool.not_eq_true]
      constructor
      · rintro ⟨_, rfl, before, after, rfl, missing⟩
        exact ⟨before, after, rfl, missing⟩
      · rintro ⟨before, after, rfl, missing⟩
        exact ⟨_, rfl, before, after, rfl, missing⟩
  | _ => exact iff_of_false nofun fun ⟨_, _, same, _⟩ => nomatch same

theorem ofTypeName?_eq_some_iff {name : String} {type : ValueType} :
    ofTypeName? name = some type ↔ type ≠ .unknown ∧ name = type.name := by
  rw [ofTypeName?, Option.filter_eq_some_iff, decide_eq_true_eq, and_comm]
  refine and_congr_right fun _ => ⟨fun found => ?_, fun name_eq => ?_⟩
  · have := List.find?_some found
    exact (beq_iff_eq.mp this).symm
  · rw [name_eq, ValueType.ofName?_name]

/-- An entry with something under `sets` is read group by group. -/
theorem ofEntry_of_hasSets {groups : List Value} (has : HasSets entry groups)
    (ne_nil : groups ≠ []) : ofEntry entry = (groupsFrom [] groups).map .oneOf := by
  obtain ⟨group, groups, rfl⟩ := List.exists_cons_of_ne_nil ne_nil
  obtain ⟨before, after, rfl, missing⟩ := id has
  rw [ofEntry, setsOf?_eq_some_iff.mpr has]
  simp

/-- What becomes of an entry. -/
inductive Reads : Value → Except EntryFailure Expectation → Prop where
  /-- It is the name of a type. -/
  | type {type : ValueType} (known : type ≠ .unknown) : Reads (.text type.name) (.ok (.scalar type))
  /-- It is another text. -/
  | otherText {name : String} (unknown : ∀ type : ValueType, type ≠ .unknown → name ≠ type.name) :
      Reads (.text name) (.error (.refused (.unknownType name)))
  /-- It has sound groups. -/
  | sets {entry : Value} {groups : List Value} {texts : List (List String)}
      (has : HasSets entry groups) (ne_nil : groups ≠ []) (written : AreWritten groups texts)
      (sound : IsSound [] texts) : Reads entry (.ok (.oneOf (texts.map List.eraseDups)))
  /-- One of its groups is the first that is bad. -/
  | badSets {entry : Value} {front : List Value} {texts : List (List String)} {group : Value}
      {back : List Value} {failure : EntryFailure} (has : HasSets entry (front ++ group :: back))
      (written : AreWritten front texts) (sound : IsSound [] texts)
      (bad : IsBad (texts.flatMap List.eraseDups) group failure) : Reads entry (.error failure)
  /-- It is no text and has no groups. -/
  | noSets {entry : Value} (other : ∀ name, entry ≠ .text name)
      (none : ∀ groups, HasSets entry groups → groups = []) :
      Reads entry (.error (.refused .noSets))

/-- An entry is read in one of these ways. -/
theorem reads_ofEntry (entry : Value) : Reads entry (ofEntry entry) := by
  fun_cases ofEntry entry with
  | case1 name type found =>
      obtain ⟨known, rfl⟩ := ofTypeName?_eq_some_iff.mp found
      exact .type known
  | case2 name missing =>
      refine .otherText fun type known name_eq => ?_
      rw [ofTypeName?_eq_some_iff.mpr ⟨known, name_eq⟩] at missing
      cases missing
  | case3 entry other group groups sets_eq =>
      have has := setsOf?_eq_some_iff.mp sets_eq
      rcases areWritten_or_exists_isBad [] (group :: groups) with
        ⟨texts, written, sound⟩ |
        ⟨front, texts, bad_group, back, failure, groups_eq, written, sound, bad⟩
      · rw [groupsFrom_of_isSound written sound]
        exact .sets has (List.cons_ne_nil _ _) written sound
      · rw [groups_eq, groupsFrom_of_isBad written sound bad]
        exact .badSets (groups_eq ▸ has) written sound bad
  | case4 entry other none =>
      refine .noSets other fun groups has => ?_
      cases groups with
      | nil => rfl
      | cons group groups => exact absurd (setsOf?_eq_some_iff.mpr has) (none group groups)

theorem Reads.ofEntry_eq {result : Except EntryFailure Expectation} (reads : Reads entry result) :
    ofEntry entry = result := by
  cases reads with
  | type known => rw [ofEntry, ofTypeName?_eq_some_iff.mpr ⟨known, rfl⟩]
  | @otherText name unknown =>
      have missing : ofTypeName? name = none := by
        rw [Option.eq_none_iff_forall_ne_some]
        intro type found
        obtain ⟨known, name_eq⟩ := ofTypeName?_eq_some_iff.mp found
        exact unknown type known name_eq
      rw [ofEntry, missing]
  | sets has ne_nil written sound =>
      rw [ofEntry_of_hasSets has ne_nil, groupsFrom_of_isSound written sound]
      rfl
  | badSets has written sound bad =>
      rw [ofEntry_of_hasSets has (by simp), groupsFrom_of_isBad written sound bad]
      rfl
  | noSets other none =>
      fun_cases ofEntry entry with
      | case1 name | case2 name => exact absurd rfl (other name)
      | case3 entry _ group groups sets_eq =>
          exact absurd (none _ (setsOf?_eq_some_iff.mp sets_eq)) (by simp)
      | case4 => rfl

/-- What an entry stands for is told by the way in which it is read. -/
theorem ofEntry_eq_iff {result : Except EntryFailure Expectation} :
    ofEntry entry = result ↔ Reads entry result :=
  ⟨fun eq => eq ▸ reads_ofEntry entry, Reads.ofEntry_eq⟩

/-- An entry stands for a type exactly if it is its name. -/
theorem ofEntry_eq_scalar_iff {type : ValueType} :
    ofEntry entry = .ok (.scalar type) ↔ type ≠ .unknown ∧ entry = .text type.name := by
  rw [ofEntry_eq_iff]
  constructor
  · intro reads
    cases reads with
    | type known => exact ⟨known, rfl⟩
  · rintro ⟨known, rfl⟩
    exact .type known

/-- An entry stands for sets exactly if it has sound groups. -/
theorem ofEntry_eq_oneOf_iff {sets : ValueSets} :
    ofEntry entry = .ok (.oneOf sets) ↔ ∃ groups texts, HasSets entry groups ∧ groups ≠ [] ∧
      AreWritten groups texts ∧ IsSound [] texts ∧ sets = texts.map List.eraseDups := by
  rw [ofEntry_eq_iff]
  constructor
  · intro reads
    cases reads with
    | sets has ne_nil written sound => exact ⟨_, _, has, ne_nil, written, sound, rfl⟩
  · rintro ⟨groups, texts, has, ne_nil, written, sound, rfl⟩
    exact .sets has ne_nil written sound

/-- Reading an entry fails exactly if the first bad group has a member without a text. -/
theorem ofEntry_eq_noText_iff :
    ofEntry entry = .error .noText ↔ ∃ front texts members back,
      HasSets entry (front ++ .list members :: back) ∧ AreWritten front texts ∧ IsSound [] texts ∧
      ∃ member ∈ members, member.HasLongInteger := by
  simp only [ofEntry_eq_iff, ← Value.render?_eq_none_iff]
  constructor
  · intro reads
    cases reads with
    | badSets has written sound bad =>
        cases bad with
        | noText unwritten => exact ⟨_, _, _, _, has, written, sound, unwritten⟩
  · rintro ⟨front, texts, members, back, has, written, sound, unwritten⟩
    exact .badSets has written sound (.noText unwritten)

/-! ## The sets of an entry -/

/-- Texts that are values of a group are their own texts. -/
theorem areWritten_map_text (sets : ValueSets) :
    AreWritten (sets.map fun values => .list (values.map .text)) sets := by
  rw [AreWritten, List.forall₂_map_left_iff]
  exact List.forall₂_same.mpr fun values _ => ⟨_, rfl, List.map_map⟩

/-- No value of sound groups stands twice in their sets. -/
theorem nodup_flatten_of_isSound {texts : List (List String)} (sound : IsSound [] texts) :
    (texts.map List.eraseDups).flatten.Nodup := by
  rw [List.nodup_flatten, List.pairwise_map]
  refine ⟨List.forall_mem_map.mpr fun own _ => nodup_eraseDups own, sound.apart.imp ?_⟩
  intro left right apart text left_mem right_mem
  exact apart text (List.mem_eraseDups.mp left_mem) (List.mem_eraseDups.mp right_mem)

/-- Sound groups stay sound without their repetitions. -/
theorem IsSound.map_eraseDups {texts : List (List String)} (sound : IsSound [] texts) :
    IsSound [] (texts.map List.eraseDups) := by
  refine ⟨List.forall_mem_map.mpr fun own own_mem => ?_, by simp, ?_⟩
  · simpa [List.eq_nil_iff_forall_not_mem, List.mem_eraseDups] using sound.filled own own_mem
  · rw [List.pairwise_map]
    refine sound.apart.imp fun {left right} apart => ?_
    simpa [List.mem_eraseDups] using apart

/-- The entry that lists the sets of sound groups is read as these sets. -/
theorem ofEntry_entryOf {texts : List (List String)} (ne_nil : texts ≠ [])
    (sound : IsSound [] texts) :
    ofEntry (entryOf (texts.map List.eraseDups)) = .ok (.oneOf (texts.map List.eraseDups)) := by
  have once : (texts.map List.eraseDups).map List.eraseDups = texts.map List.eraseDups := by
    rw [List.map_map]
    exact List.map_congr_left fun own _ => eraseDups_of_nodup (nodup_eraseDups own)
  refine ofEntry_eq_oneOf_iff.mpr ⟨_, _, ⟨[], [], rfl, by simp⟩, by simpa using ne_nil,
    areWritten_map_text _, sound.map_eraseDups, once.symm⟩

/-! ## Overlaps -/

/-- The values that a group of texts shares with the groups before it. -/
structure IsOverlap (front : List (List String)) (own values : List String) : Prop where
  /-- There are such values. -/
  ne_nil : values ≠ []
  /-- They stand in the order of their characters, each once. -/
  sorted : values.Pairwise (· < ·)
  /-- They are the texts that occur in the group and in one before it. -/
  mem_iff : ∀ value, value ∈ values ↔ value ∈ own ∧ ∃ earlier ∈ front, value ∈ earlier

theorem isOverlap_iff {front : List (List String)} {own values : List String} :
    IsOverlap front own values ↔
      values ≠ [] ∧ values = shared (front.flatMap List.eraseDups) own.eraseDups := by
  have shared_iff (value : String) :
      value ∈ shared (front.flatMap List.eraseDups) own.eraseDups ↔
        value ∈ own ∧ ∃ earlier ∈ front, value ∈ earlier := by
    simp only [mem_shared, List.mem_flatMap, List.mem_eraseDups]
  constructor
  · rintro ⟨ne_nil, sorted, mem_iff⟩
    refine ⟨ne_nil, sorted.eq_of_mem_iff (pairwise_shared _ _) fun value => ?_⟩
    rw [mem_iff, shared_iff]
  · rintro ⟨ne_nil, rfl⟩
    exact ⟨ne_nil, pairwise_shared _ _, shared_iff⟩

/-- An overlap is reported exactly if the first bad group is one that shares values. -/
theorem ofEntry_eq_overlap_iff {values : List String} :
    ofEntry entry = .error (.refused (.overlap values)) ↔ ∃ front texts members own back,
      HasSets entry (front ++ .list members :: back) ∧ AreWritten front texts ∧ IsSound [] texts ∧
      IsWritten members own ∧ IsOverlap texts own values := by
  simp only [ofEntry_eq_iff, isOverlap_iff]
  constructor
  · intro reads
    cases reads with
    | badSets has written sound bad =>
        cases bad with
        | overlap own_written shares =>
            exact ⟨_, _, _, _, _, has, written, sound, own_written, shares, rfl⟩
  · rintro ⟨front, texts, members, own, back, has, written, sound, own_written, shares, rfl⟩
    exact .badSets has written sound (.overlap own_written shares)

end Expectation

namespace Catalog

open Expectation

variable {name : String} {entry : Value}

theorem qualifierOf_eq_ok_iff {expects : Expectation} :
    qualifierOf name entry = .ok ⟨name, expects⟩ ↔ ofEntry entry = .ok expects := by
  rw [qualifierOf]
  rcases ofEntry entry with (other | _) | other <;> simp

theorem qualifierOf_eq_refused_iff {error : EntryError} :
    qualifierOf name entry = .error (.refused (.badEntry name error)) ↔
      ofEntry entry = .error (.refused error) := by
  rw [qualifierOf]
  rcases ofEntry entry with (other | _) | other <;> simp

theorem qualifierOf_eq_noText_iff :
    qualifierOf name entry = .error (.fault .noText) ↔ ofEntry entry = .error .noText := by
  rw [qualifierOf]
  rcases ofEntry entry with (other | _) | other <;> simp

/-- An entry is accepted exactly if it names a type or has sound groups.  Of groups come their
texts, each once, and these come of the entry that lists them.  Any other entry is refused, unless a
member of its first bad group holds an integer with too many digits and has no text.  If the first
bad group shares values with those before it, the report names these values. -/
theorem qualifierOf_entry (name : String) (entry : Value) :
    (∀ type, qualifierOf name entry = .ok ⟨name, .scalar type⟩ ↔
      entry = .text "string" ∧ type = .text ∨ entry = .text "number" ∧ type = .number ∨
        entry = .text "date" ∧ type = .date) ∧
    (∀ sets, qualifierOf name entry = .ok ⟨name, .oneOf sets⟩ ↔
      ∃ groups texts, HasSets entry groups ∧ groups ≠ [] ∧ AreWritten groups texts ∧
        IsSound [] texts ∧ sets = texts.map List.eraseDups) ∧
    ((∃ expects, qualifierOf name entry = .ok ⟨name, expects⟩) ∨
      (∃ error, qualifierOf name entry = .error (.refused (.badEntry name error))) ∨
      qualifierOf name entry = .error (.fault .noText)) ∧
    (qualifierOf name entry = .error (.fault .noText) ↔ ∃ front texts members back,
      HasSets entry (front ++ .list members :: back) ∧ AreWritten front texts ∧ IsSound [] texts ∧
      ∃ member ∈ members, member.HasLongInteger) ∧
    (∀ sets, qualifierOf name entry = .ok ⟨name, .oneOf sets⟩ →
      (∀ value ∈ sets.flatten, sets.flatten.count value = 1) ∧
        qualifierOf name (entryOf sets) = .ok ⟨name, .oneOf sets⟩) ∧
    ∀ values,
      (qualifierOf name entry = .error (.refused (.badEntry name (.overlap values))) ↔
        ∃ front texts members own back, HasSets entry (front ++ .list members :: back) ∧
          AreWritten front texts ∧ IsSound [] texts ∧ IsWritten members own ∧
          IsOverlap texts own values) ∧
      (CatalogError.badEntry name (.overlap values)).reason =
        "qualifier '" ++ name ++ "' lists " ++ ", ".intercalate values ++
          " in more than one set" := by
  refine ⟨fun type => ?_, fun sets => ?_, ?_, ?_, fun sets accepted => ?_,
    fun values => ⟨?_, rfl⟩⟩
  · rw [qualifierOf_eq_ok_iff, ofEntry_eq_scalar_iff]
    cases type <;> simp [ValueType.name]
  · rw [qualifierOf_eq_ok_iff, ofEntry_eq_oneOf_iff]
  · simp only [qualifierOf_eq_ok_iff, qualifierOf_eq_refused_iff, qualifierOf_eq_noText_iff]
    rcases ofEntry entry with (error | _) | expects
    · exact .inr (.inl ⟨error, rfl⟩)
    · exact .inr (.inr rfl)
    · exact .inl ⟨expects, rfl⟩
  · rw [qualifierOf_eq_noText_iff, ofEntry_eq_noText_iff]
  · rw [qualifierOf_eq_ok_iff, ofEntry_eq_oneOf_iff] at accepted
    obtain ⟨groups, texts, has, ne_nil, written, sound, rfl⟩ := accepted
    have nodup := nodup_flatten_of_isSound sound
    have texts_ne_nil : texts ≠ [] := by
      rintro rfl
      exact ne_nil (List.forall₂_nil_right_iff.mp written)
    refine ⟨fun value member => List.count_eq_one_of_mem nodup member, ?_⟩
    exact qualifierOf_eq_ok_iff.mpr (ofEntry_entryOf texts_ne_nil sound)
  · rw [qualifierOf_eq_refused_iff, ofEntry_eq_overlap_iff]

/-- A truth value counts as its text, which may be repeated in its group but in no other. -/
theorem qualifierOf_repeated_texts :
    (let entry : Value := .map [(.text "sets", .list
        [.list [.bool true, .text "open", .text "True"], .list [.int 1]])];
      qualifierOf "is" entry = .ok ⟨"is", .oneOf [["True", "open"], ["1"]]⟩ ∧
        [["True", "open"], ["1"]].flatten.count "True" = 1 ∧
        qualifierOf "is" (entryOf [["True", "open"], ["1"]]) =
          .ok ⟨"is", .oneOf [["True", "open"], ["1"]]⟩) ∧
    qualifierOf "is" (.map [(.text "sets", .list
        [.list [.bool true, .int 1], .list [.text "open", .text "True", .text "1"], .null])]) =
      .error (.refused (.badEntry "is" (.overlap ["1", "True"]))) := by
  have accepted := ((qualifierOf_entry "is" (.map [(.text "sets", .list
      [.list [.bool true, .text "open", .text "True"], .list [.int 1]])])).2.1
    [["True", "open"], ["1"]]).mpr ⟨_, [["True", "open", "True"], ["1"]], ⟨[], [], rfl, by simp⟩,
      by simp, .cons ⟨_, rfl, by decide⟩ (.cons ⟨_, rfl, by decide⟩ .nil),
      ⟨by decide, by decide, by decide⟩, by decide⟩
  have lasting := (qualifierOf_entry "is" _).2.2.2.2.1 _ accepted
  have overlap : IsOverlap [["True", "1"]] ["open", "True", "1"] ["1", "True"] :=
    ⟨by decide, by decide, fun value => by simp; grind⟩
  refine ⟨⟨accepted, lasting.1 "True" (by decide), lasting.2⟩, ?_⟩
  exact ((qualifierOf_entry "is" _).2.2.2.2.2 _).1.mpr ⟨[.list [.bool true, .int 1]],
    [["True", "1"]], [.text "open", .text "True", .text "1"], ["open", "True", "1"], [.null],
    ⟨[], [], rfl, by simp⟩, .cons ⟨_, rfl, by decide⟩ .nil, ⟨by decide, by decide, by decide⟩,
    by decide, overlap⟩

/-- Not every entry is accepted or refused: an integer with too many digits has no text. -/
theorem not_qualifierOf_ok_or_refused :
    ¬ ∀ (name : String) (entry : Value),
      (∃ expects, qualifierOf name entry = .ok ⟨name, expects⟩) ∨
        ∃ error, qualifierOf name entry = .error (.refused (.badEntry name error)) := by
  intro accepted_or_refused
  let value : Value := .int ((10 ^ Number.maxDigits : Nat) : Int)
  let entry : Value := .map [(.text "sets", .list [.list [value]])]
  have broken : qualifierOf "a" entry = .error (.fault .noText) :=
    qualifierOf_eq_noText_iff.mpr (ofEntry_eq_noText_iff.mpr ⟨[], [], [value], [],
      ⟨[], [], rfl, by simp⟩, .nil, ⟨by simp, by simp, .nil⟩, value, by simp, .itself le_rfl⟩)
  rcases accepted_or_refused "a" entry with ⟨_, accepted⟩ | ⟨_, refused⟩
  · cases broken.symm.trans accepted
  · cases broken.symm.trans refused

end Catalog

end SearchQuery
