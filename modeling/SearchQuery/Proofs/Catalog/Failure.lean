import SearchQuery.Proofs.Catalog.Entry

/-!
# Catalogs that fail to load

A catalog is loaded or refused if its path can be given to the system, the file there is a text and
the reader of values answers on it: with a value in which no integer is too long to be written, or
by finding the text malformed.  A path or a file that is not like this breaks the loading off.
-/

namespace SearchQuery

namespace Files

/-- A text with a line feed at the end of each line. -/
def withLineFeeds (text : String) : String := String.ofList (unifyLineEnds text.toList)

theorem fromUTF8?_eq_some_iff {content : ByteArray} {text : String} :
    String.fromUTF8? content = some text ↔ content = text.toUTF8 := by
  rw [String.fromUTF8?]
  split
  case isTrue valid =>
    rw [Option.some.injEq]
    constructor <;> rintro rfl <;> rfl
  case isFalse invalid =>
    refine iff_of_false (by simp) ?_
    rintro rfl
    exact invalid text.isValidUTF8

/-- The text of a file is what its bytes encode. -/
theorem decode?_toUTF8 (text : String) : decode? text.toUTF8 = some (withLineFeeds text) := by
  rw [decode?, fromUTF8?_eq_some_iff.mpr rfl]
  rfl

/-- Bytes that encode no text are no text. -/
theorem decode?_eq_none_iff {content : ByteArray} :
    decode? content = none ↔ ∀ text : String, content ≠ text.toUTF8 := by
  rw [decode?, Option.map_eq_none_iff, Option.eq_none_iff_forall_ne_some]
  exact forall_congr' fun text => not_congr fromUTF8?_eq_some_iff

end Files

/-- The system is not asked for a path exactly if it holds a NUL character. -/
theorem FileTree.read_eq_nulInPath_iff {files : FileTree} {path : String} :
    files.read path = .error .nulInPath ↔ '\x00' ∈ path.toList := by
  have hasNul_iff : Files.hasNul path = true ↔ '\x00' ∈ path.toList := List.contains_iff_mem
  rw [← hasNul_iff, read]
  split
  case isTrue nul => exact iff_of_true rfl nul
  case isFalse nul =>
    refine iff_of_false ?_ nul
    split <;> exact nofun

/-- What is found under a key is one of the values of a mapping. -/
theorem Value.exists_mem_of_lookup? {entries : List (Value × Value)} {word : String} {value : Value}
    (found : lookup? entries word = some value) : ∃ key, (key, value) ∈ entries := by
  rw [lookup?, Option.map_eq_some_iff] at found
  obtain ⟨entry, found, rfl⟩ := found
  exact ⟨entry.1, List.mem_of_find?_eq_some found⟩

/-- The failure of some steps is that of one of them. -/
theorem exists_mem_of_mapM_eq_error {α β ε : Type} {step : α → Except ε β} {error : ε}
    {inputs : List α} (failed : inputs.mapM step = .error error) :
    ∃ input ∈ inputs, step input = .error error := by
  induction inputs with
  | nil => cases failed
  | cons input inputs induction =>
      rw [List.mapM_cons] at failed
      rw [List.exists_mem_cons_iff]
      cases first : step input with
      | error other =>
          rw [first] at failed
          cases failed
          exact .inl rfl
      | ok value =>
          cases others : inputs.mapM step with
          | error other =>
              rw [first, others] at failed
              cases failed
              exact .inr (induction others)
          | ok values =>
              rw [first, others] at failed
              cases failed

namespace Catalog

open Files (withLineFeeds)
open Expectation (HasSets)

/-! ## Values -/

/-- An integer in a member of a group is one in the entry. -/
theorem hasLongInteger_of_hasSets {entry member : Value} {front back : List Value}
    {members : List Value} (has : HasSets entry (front ++ .list members :: back))
    (member_mem : member ∈ members) (long : member.HasLongInteger) : entry.HasLongInteger := by
  obtain ⟨before, after, rfl, -⟩ := has
  exact .value (List.mem_append_right _ List.mem_cons_self)
    (.item (List.mem_append_right _ List.mem_cons_self) (.item member_mem long))

/-- Reading an entry breaks off only at an integer that is too long to be written. -/
theorem noText_of_qualifierOf {name : String} {entry : Value} {fault : CatalogFault}
    (broken : qualifierOf name entry = .error (.fault fault)) :
    fault = .noText ∧ entry.HasLongInteger := by
  rw [qualifierOf] at broken
  split at broken
  case h_1 | h_2 => cases broken
  case h_3 read =>
    obtain ⟨front, texts, members, back, has, -, -, member, member_mem, long⟩ :=
      Expectation.ofEntry_eq_noText_iff.mp read
    cases broken
    exact ⟨rfl, hasLongInteger_of_hasSets has member_mem long⟩

/-- Reading a value breaks off only at an integer that is too long to be written. -/
theorem noText_of_ofValue {value : Value} {fault : CatalogFault}
    (broken : ofValue value = .error (.fault fault)) : fault = .noText ∧ value.HasLongInteger := by
  cases value with
  | map top =>
      rw [ofValue] at broken
      split at broken
      case h_2 => cases broken
      case h_1 entries found =>
        obtain ⟨word, entries_mem⟩ := Value.exists_mem_of_lookup? found
        obtain ⟨⟨key, entry⟩, entry_mem, broken⟩ := exists_mem_of_mapM_eq_error broken
        rw [qualifierAt] at broken
        split at broken
        case h_1 =>
          obtain ⟨rfl, long⟩ := noText_of_qualifierOf broken
          exact ⟨rfl, .value entries_mem (.value entry_mem long)⟩
        case h_2 unwritten =>
          cases broken
          exact ⟨rfl, .value entries_mem
            (.key entry_mem (Value.render?_eq_none_iff.mp unwritten))⟩
  | _ => cases broken

/-- Loading breaks off at a text exactly if the reader does, or at an integer in what it reads. -/
theorem ofReading_eq_fault {reading : Except Yaml.Problem Value} {fault : CatalogFault}
    (broken : ofReading reading = .error (.fault fault)) :
    (∃ error, reading = .error (.badScalar error) ∧ fault = .badScalar error) ∨
      (reading = .error .uncovered ∧ fault = .uncovered) ∨
      fault = .noText ∧ ∃ value, reading = .ok value ∧ value.HasLongInteger := by
  fun_cases ofReading reading with
  | case1 value =>
      obtain ⟨rfl, long⟩ := noText_of_ofValue broken
      exact .inr (.inr ⟨rfl, value, rfl, long⟩)
  | case2 => cases broken
  | case3 error =>
      cases broken
      exact .inl ⟨error, rfl, rfl⟩
  | case4 =>
      cases broken
      exact .inr (.inl ⟨rfl, rfl⟩)

/-! ## Files -/

/-- The reader makes a value of the text, in which no integer is too long to be written, or finds
the text malformed. -/
def AnswersOn (read : String → Except Yaml.Problem Value) (text : String) : Prop :=
  read text = .error .malformed ∨ ∃ value, read text = .ok value ∧ ¬ value.HasLongInteger

instance (read : String → Except Yaml.Problem Value) (text : String) :
    Decidable (AnswersOn read text) :=
  match reading : read text with
  | .ok value => decidable_of_iff (¬ value.HasLongInteger) (by simp [AnswersOn, reading])
  | .error .malformed => .isTrue (.inl reading)
  | .error (.badScalar _) | .error .uncovered => .isFalse (by simp [AnswersOn, reading])

/-- What becomes of the catalog at a path. -/
inductive Loads (read : String → Except Yaml.Problem Value) (files : FileTree) :
    Option String → Except CatalogFailure (List Qualifier) → Prop where
  /-- Without a path it is the packaged one. -/
  | packaged : Loads read files none (.ok packaged)
  /-- The system is not asked for the path. -/
  | nulInPath {place : String} (nul : '\x00' ∈ place.toList) :
      Loads read files (some place) (.error (.fault .nulInPath))
  /-- The system does not open a file. -/
  | unreadable {place : String} {error : FileError}
      (refused : files.read place = .error (.system error)) :
      Loads read files (some place) (.error (.refused (.unreadable error)))
  /-- The file is no text. -/
  | undecodable {place : String} {content : ByteArray} (stands : files.read place = .ok content)
      (no_text : ∀ text : String, content ≠ text.toUTF8) :
      Loads read files (some place) (.error (.fault .undecodable))
  /-- The file holds a text. -/
  | text {place text : String} {result : Except CatalogFailure (List Qualifier)}
      (stands : files.read place = .ok text.toUTF8)
      (reading : ofReading (read (withLineFeeds text)) = result) :
      Loads read files (some place) result

/-- A catalog is loaded in one of these ways. -/
theorem loads_loadWith (read : String → Except Yaml.Problem Value) (files : FileTree)
    (path : Option String) : Loads read files path (loadWith read files path) := by
  cases path with
  | none => exact .packaged
  | some place =>
      rw [loadWith]
      cases stands : files.read place with
      | error failure =>
          cases failure with
          | nulInPath => exact .nulInPath (FileTree.read_eq_nulInPath_iff.mp stands)
          | system error => exact .unreadable stands
      | ok content =>
          by_cases encodes : ∃ text : String, content = text.toUTF8
          case pos =>
            obtain ⟨text, rfl⟩ := encodes
            exact .text stands (by rw [ofContent, Files.decode?_toUTF8])
          case neg =>
            rw [ofContent, Files.decode?_eq_none_iff.mpr (not_exists.mp encodes)]
            exact .undecodable stands (not_exists.mp encodes)

variable {read : String → Except Yaml.Problem Value} {files : FileTree} {path : Option String}

/-- Where the reader answers, nothing breaks off. -/
theorem ok_or_refused_of_answersOn {text : String} (answers : AnswersOn read text) :
    (∃ qualifiers, ofReading (read text) = .ok qualifiers) ∨
      ∃ error, ofReading (read text) = .error (.refused error) := by
  rcases answers with malformed | ⟨value, read_eq, short⟩
  · rw [malformed]
    exact .inr ⟨.malformed, rfl⟩
  · rw [read_eq, ofReading]
    rcases result : ofValue value with (error | fault) | qualifiers
    · exact .inr ⟨error, rfl⟩
    · exact absurd (noText_of_ofValue result).2 short
    · exact .inl ⟨qualifiers, rfl⟩

theorem loadWith_of_toUTF8 {place text : String} (stands : files.read place = .ok text.toUTF8) :
    loadWith read files (some place) = ofReading (read (withLineFeeds text)) := by
  rw [loadWith, stands, ofContent, Files.decode?_toUTF8]

theorem loadWith_eq_undecodable_iff :
    loadWith read files path = .error (.fault .undecodable) ↔ ∃ place content, path = some place ∧
      files.read place = .ok content ∧ ∀ text : String, content ≠ text.toUTF8 := by
  constructor
  · intro broken
    have loads := loads_loadWith read files path
    rw [broken] at loads
    cases loads with
    | undecodable stands no_text => exact ⟨_, _, rfl, stands, no_text⟩
    | text stands reading => simpa using ofReading_eq_fault reading
  · rintro ⟨place, content, rfl, stands, no_text⟩
    rw [loadWith, stands, ofContent, Files.decode?_eq_none_iff.mpr no_text]

theorem loadWith_eq_nulInPath_iff :
    loadWith read files path = .error (.fault .nulInPath) ↔
      ∃ place, path = some place ∧ '\x00' ∈ place.toList := by
  constructor
  · intro broken
    have loads := loads_loadWith read files path
    rw [broken] at loads
    cases loads with
    | nulInPath nul => exact ⟨_, rfl, nul⟩
    | text stands reading => simpa using ofReading_eq_fault reading
  · rintro ⟨place, rfl, nul⟩
    rw [loadWith, FileTree.read_eq_nulInPath_iff.mpr nul, ofContent]

theorem loadWith_eq_badScalar_iff {error : Yaml.ScalarError} :
    loadWith read files path = .error (.fault (.badScalar error)) ↔ ∃ place text,
      path = some place ∧ files.read place = .ok text.toUTF8 ∧
      read (withLineFeeds text) = .error (.badScalar error) := by
  constructor
  · intro broken
    have loads := loads_loadWith read files path
    rw [broken] at loads
    cases loads with
    | text stands reading =>
        rcases ofReading_eq_fault reading with ⟨_, bad, same⟩ | ⟨-, other⟩ | ⟨other, -⟩
        · cases same
          exact ⟨_, _, rfl, stands, bad⟩
        · cases other
        · cases other
  · rintro ⟨place, text, rfl, stands, bad⟩
    rw [loadWith_of_toUTF8 stands, bad, ofReading]

/-- Whatever the reader of values, a catalog is loaded or refused if its path holds no NUL character
and the file there, if it can be read, holds a text on which the reader answers.  Otherwise loading
breaks off: at a NUL character in the path, at bytes that encode no text and at a scalar that the
reader gives no value. -/
theorem loadWith_ok_or_refused (read : String → Except Yaml.Problem Value) (files : FileTree)
    (path : Option String) :
    ((∀ place, path = some place → '\x00' ∉ place.toList) →
      (∀ place content, path = some place → files.read place = .ok content →
        ∃ text : String, content = text.toUTF8 ∧ AnswersOn read (withLineFeeds text)) →
      (∃ qualifiers, loadWith read files path = .ok qualifiers) ∨
        ∃ error, loadWith read files path = .error (.refused error)) ∧
    (loadWith read files path = .error (.fault .nulInPath) ↔
      ∃ place, path = some place ∧ '\x00' ∈ place.toList) ∧
    (loadWith read files path = .error (.fault .undecodable) ↔ ∃ place content,
      path = some place ∧ files.read place = .ok content ∧
      ∀ text : String, content ≠ text.toUTF8) ∧
    ∀ error, loadWith read files path = .error (.fault (.badScalar error)) ↔ ∃ place text,
      path = some place ∧ files.read place = .ok text.toUTF8 ∧
      read (withLineFeeds text) = .error (.badScalar error) := by
  refine ⟨fun no_nul readable => ?_, loadWith_eq_nulInPath_iff, loadWith_eq_undecodable_iff,
    fun error => loadWith_eq_badScalar_iff⟩
  have loads := loads_loadWith read files path
  generalize loadWith read files path = result at loads ⊢
  cases loads with
  | packaged => exact .inl ⟨_, rfl⟩
  | nulInPath nul => exact absurd nul (no_nul _ rfl)
  | unreadable refused => exact .inr ⟨_, rfl⟩
  | undecodable stands no_text =>
      obtain ⟨text, encoded, -⟩ := readable _ _ rfl stands
      exact absurd encoded (no_text text)
  | text stands reading =>
      obtain ⟨_, same, answers⟩ := readable _ _ rfl stands
      obtain rfl := String.toByteArray_inj.mp same
      rw [← reading]
      exact ok_or_refused_of_answersOn answers

/-- A catalog of one entry is loaded.  Loading breaks off at a path of one NUL character and at a
file of one byte that encodes no text. -/
theorem loadWith_of_one_entry :
    let text := "qualifiers: {a: date}";
    let files (content : ByteArray) : FileTree := ⟨[(["catalog.yaml"], .file content)], []⟩;
    '\x00' ∉ "catalog.yaml".toList ∧
      (files text.toUTF8).read "catalog.yaml" = .ok text.toUTF8 ∧
      AnswersOn Yaml.read (withLineFeeds text) ∧
      ((∃ qualifiers, loadWith Yaml.read (files text.toUTF8) (some "catalog.yaml") =
          .ok qualifiers) ∨
        ∃ error, loadWith Yaml.read (files text.toUTF8) (some "catalog.yaml") =
          .error (.refused error)) ∧
      loadWith Yaml.read (files text.toUTF8) (some "\x00") = .error (.fault .nulInPath) ∧
      loadWith Yaml.read (files ⟨#[0xff]⟩) (some "catalog.yaml") =
        .error (.fault .undecodable) := by
  intro text files
  have no_nul : '\x00' ∉ "catalog.yaml".toList := by decide
  have answers : AnswersOn Yaml.read (withLineFeeds "qualifiers: {a: date}") := by decide +kernel
  refine ⟨no_nul, rfl, answers, (loadWith_ok_or_refused Yaml.read _ _).1 ?_ ?_, ?_, ?_⟩
  · rintro _ ⟨⟩
    exact no_nul
  · rintro _ _ ⟨⟩ ⟨⟩
    exact ⟨text, rfl, answers⟩
  · exact (loadWith_ok_or_refused Yaml.read _ _).2.1.mpr ⟨_, rfl, by decide⟩
  · exact (loadWith_ok_or_refused Yaml.read _ _).2.2.1.mpr ⟨_, _, rfl, rfl,
      Files.decode?_eq_none_iff.mp (by decide)⟩

/-- Not every catalog is loaded or refused: the byte 255 encodes no text. -/
theorem not_load_ok_or_refused :
    ¬ ∀ (files : FileTree) (path : Option String),
      (∃ qualifiers, load files path = .ok qualifiers) ∨
        ∃ error, load files path = .error (.refused error) := by
  intro loaded_or_refused
  let files : FileTree := ⟨[(["catalog.yaml"], .file ⟨#[0xff]⟩)], []⟩
  have no_text : ∀ text : String, (⟨#[0xff]⟩ : ByteArray) ≠ text.toUTF8 :=
    Files.decode?_eq_none_iff.mp (by decide)
  have broken : load files (some "catalog.yaml") = .error (.fault .undecodable) :=
    loadWith_eq_undecodable_iff.mpr ⟨_, _, rfl, rfl, no_text⟩
  rcases loaded_or_refused files (some "catalog.yaml") with ⟨_, loaded⟩ | ⟨_, refused⟩
  · cases broken.symm.trans loaded
  · cases broken.symm.trans refused

end Catalog

end SearchQuery
