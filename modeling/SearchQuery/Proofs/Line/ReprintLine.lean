import SearchQuery.Proofs.Line.ReprintItem
import SearchQuery.Proofs.Text.Lines

/-!
# Reading a line again

The items of a line are printed with one space between them.  The first of them is read again in
front of that space, since it was read in front of a gap, and then the others are.
-/

namespace SearchQuery.Line

open Text (isBlank isGap isLineBreak IsContent)
open Reader

/-! ## What follows an item -/

theorem endsWord_of_isGap {cursor : Cursor} (gap : ∀ c ∈ cursor.rest.head?, isGap c = true) :
    endsWord cursor.rest = true := by
  cases rest_eq : cursor.rest with
  | nil => rfl
  | cons c rest => exact Text.isBlank_of_isGap (gap c (by simp [rest_eq]))

/-- At the end of a line nothing follows. -/
theorem follows_end {cursor : Cursor} (atEnd : cursor.skipGap.rest = []) :
    Follows cursor.rest [] where
  ends := by
    apply endsWord_of_isGap
    intro c member
    have rest_eq := cursor.gap_append
    rw [atEnd, List.append_nil] at rest_eq
    exact Cursor.isGap_of_mem_gap (rest_eq ▸ List.mem_of_mem_head? member)
  ends' := rfl
  nil := fun _ => rfl
  quieter := by
    rw [← Cursor.skipGap_rest, atEnd]
    exact Quieter.refl []

theorem ungap_space {text : List Char} (visible : ∀ c ∈ text.head?, isBlank c = false) :
    ungap (' ' :: text) = text := by
  have skipped : ungap (' ' :: text) = ungap text := rfl
  cases text with
  | nil => rfl
  | cons c text => rw [skipped, ungap_cons (visible c rfl)]

/-- Behind a gap, another text can follow after a space. -/
theorem follows_space {cursor : Cursor} {text : List Char}
    (apart : cursor.offset < cursor.skipGap.offset) (visible : ∀ c ∈ text.head?, isBlank c = false)
    (quieter : Quieter cursor.skipGap.rest text) : Follows cursor.rest (' ' :: text) := by
  obtain ⟨c, tail, gap_eq⟩ : ∃ c tail, cursor.gap = c :: tail := by
    apply List.exists_cons_of_ne_nil
    intro empty
    change cursor.offset < cursor.offset + cursor.gap.length at apart
    simp [empty] at apart
  have rest_eq := cursor.gap_append
  rw [gap_eq, List.cons_append] at rest_eq
  have gap : isGap c = true := Cursor.isGap_of_mem_gap (gap_eq ▸ List.mem_cons_self)
  constructor
  · exact endsWord_of_isGap (by simpa [rest_eq] using gap)
  · rfl
  · simp [rest_eq]
  · rw [ungap_space visible]
    exact quieter

/-! ## Items -/

/-- Items that were found, the text that they are printed as, and what is found and missed at that
text. -/
structure ItemsReprint (content : List Char) (cursor : Cursor) (items : List Node)
    (text : List Char) : Prop where
  printed : ∃ words, Node.printList content some items = .ok (words.map String.ofList) ∧
    [' '].intercalate words = text
  empty : items = [] → text = []
  visible : items ≠ [] → ∃ c tail, text = c :: tail ∧ isBlank c = false
  isContent : IsContent text
  quieter : Quieter cursor.skipGap.rest text
  repeats : ∀ place, place.skipGap.rest = text → ∃ found final, Repeats item place found final ∧
    final.skipGap.rest = [] ∧ found.map Node.bare = items.map Node.bare
  missesAt : items ≠ [] → definition.Misses cursor → definition.MissesAt text

/-- The text of a node has no line break if something follows the node. -/
theorem Reprints.isLineBreak_eq_false {before : List (Reader Node)} {content : List Char}
    {reader : Reader Node} {cursor next : Cursor} {node : Node} {text : List Char}
    (reprints : Reprints before content reader cursor next node text)
    (isContent : IsContent content) (more : next.rest ≠ []) :
    ∀ c ∈ text, isLineBreak c = false := by
  obtain ⟨front, back, text_eq, inside, stands⟩ := reprints.unbroken
  intro c member
  rw [text_eq] at member
  rcases List.mem_append.mp member with member | member
  · exact Text.isLineBreak_eq_false_of_visible (inside c member)
  · exact (isContent.of_suffix stands).unbroken more c member

theorem Reprints.isContent {before : List (Reader Node)} {content : List Char}
    {reader : Reader Node} {cursor next : Cursor} {node : Node} {text : List Char}
    (reprints : Reprints before content reader cursor next node text)
    (isContent : IsContent content) : IsContent text := by
  obtain ⟨front, back, text_eq, inside, stands⟩ := reprints.unbroken
  rw [text_eq]
  exact .prepend (fun c member => Text.isLineBreak_eq_false_of_visible (inside c member))
    (isContent.of_suffix stands).of_append_left

section Items

variable {content : List Char} (isContent : IsContent content)

include isContent

/-- The last item is found again, and then nothing. -/
theorem itemsReprint_last {cursor final : Cursor} {node : Node} {text : List Char}
    (reprints : Reprints [definition] content item cursor final node text)
    (atEnd : final.skipGap.rest = []) : ItemsReprint content cursor [node] text := by
  have follows := follows_end atEnd
  have quieter := reprints.quieter follows
  rw [List.append_nil] at quieter
  constructor
  · refine ⟨[text], ?_, List.intercalate_singleton⟩
    rw [Node.printList, reprints.printed]
    rfl
  · simp
  · exact fun _ => reprints.visible
  · exact reprints.isContent isContent
  · exact quieter
  · intro place place_eq
    obtain ⟨found, next, finds, next_eq, bare_eq⟩ :=
      reprints.findsAt follows place (by rw [place_eq, List.append_nil])
    replace next_eq : next.skipGap.rest = [] := next_eq
    refine ⟨[found], next, .more finds (.stop (misses_item_of_blank ?_)), next_eq, ?_⟩
    · simp [next_eq]
    · simp [bare_eq]
  · intro _ misses
    have again := reprints.missesAt definition (by simp) misses follows
    rwa [List.append_nil] at again

/-- An item is found again in front of the space behind it, and then the items after it. -/
theorem itemsReprint_cons {cursor middle : Cursor} {node other : Node} {others : List Node}
    {text text' : List Char} (reprints : Reprints [definition] content item cursor middle node text)
    (apart : middle.offset < middle.skipGap.offset)
    (later : ItemsReprint content middle (other :: others) text') :
    ItemsReprint content cursor (node :: other :: others) (text ++ ' ' :: text') := by
  obtain ⟨c, tail, text'_eq, c_visible⟩ := later.visible (by simp)
  have visible : ∀ c ∈ text'.head?, isBlank c = false := by simpa [text'_eq] using c_visible
  have follows : Follows middle.rest (' ' :: text') := follows_space apart visible later.quieter
  constructor
  · obtain ⟨words, printed, text_eq⟩ := later.printed
    refine ⟨text :: words, ?_, ?_⟩
    · rw [Node.printList, reprints.printed, printed]
      rfl
    · have more : words ≠ [] := by
        rintro rfl
        simp [text'_eq] at text_eq
      rw [List.intercalate_cons_of_ne_nil more, text_eq, List.append_assoc]
      rfl
  · simp
  · intro _
    obtain ⟨d, rest, text_eq, d_visible⟩ := reprints.visible
    exact ⟨d, rest ++ ' ' :: text', by rw [text_eq, List.cons_append], d_visible⟩
  · have more : middle.rest ≠ [] := by
      intro empty
      have := follows.nil empty
      simp at this
    rw [← List.singleton_append, ← List.append_assoc]
    refine .prepend ?_ later.isContent
    intro d member
    rcases List.mem_append.mp member with member | member
    · exact reprints.isLineBreak_eq_false isContent more d member
    · obtain rfl := List.mem_singleton.mp member
      decide
  · exact reprints.quieter follows
  · intro place place_eq
    obtain ⟨found, next, finds, next_eq, bare_eq⟩ := reprints.findsAt follows place place_eq
    rw [ungap_space visible] at next_eq
    obtain ⟨founds, final, repeats, final_eq, bares_eq⟩ := later.repeats next next_eq
    exact ⟨found :: founds, final, .more finds repeats, final_eq, by
      rw [List.map_cons, List.map_cons, bare_eq, bares_eq]⟩
  · exact fun _ misses => reprints.missesAt definition (by simp) misses follows

/-- Items that stand apart are printed and read again, one after the other. -/
theorem exists_itemsReprint {cursor final : Cursor} {items : List Node} (on : cursor.On content)
    (repeats : Repeats item cursor items final) (atEnd : final.skipGap.rest = [])
    (apart : items.IsChain fun left right => left.stop < right.start)
    (plain : ∀ node ∈ items, node.AllPlain content) :
    ∃ text, ItemsReprint content cursor items text := by
  induction repeats with
  | @stop cursor misses =>
      refine ⟨[], ⟨[], rfl, rfl⟩, fun _ => rfl, by simp, .plain (by simp), ?_, ?_, by simp⟩
      · rw [atEnd]
        exact Quieter.refl []
      · intro place place_eq
        exact ⟨[], place, .stop (misses_item_of_blank (by simp [place_eq])), place_eq, rfl⟩
  | @more cursor middle final node nodes finds others induction =>
      rw [List.forall_mem_cons] at plain
      have between := nodeBetween_item on finds
      obtain ⟨text, reprints⟩ := reprintable_item on (List.Subset.refl _) node finds plain.1
      cases others with
      | stop _ => exact ⟨text, itemsReprint_last isContent reprints atEnd⟩
      | @more _ _ _ other others found later =>
          rw [List.isChain_cons_cons] at apart
          obtain ⟨text', laters⟩ := induction between.on atEnd apart.2 plain.2
          have next := nodeBetween_item between.on found
          have stop_eq := between.stop_eq
          have start_eq := next.start_eq
          refine ⟨text ++ ' ' :: text', itemsReprint_cons isContent reprints ?_ laters⟩
          omega

end Items

/-! ## Lines -/

/-- A line that was read, the text that it is printed as, and what is read from that text. -/
structure LineReprints (content : List Char) (node : Node) (text : List Char) : Prop where
  printed : node.print content some = .ok (String.ofList text)
  visible : ∃ c tail, text = c :: tail ∧ isBlank c = false
  isContent : IsContent text
  quieter : Quieter (ungap content) text
  finds : ∃ found next, line.Finds ⟨0, text⟩ found next ∧ found.bare = node.bare

theorem finds_finish {place : Cursor} (atEnd : place.skipGap.rest = []) :
    ∃ lexeme next, (token .finish).Finds place lexeme next := by
  have taken : Token.finish.take? [] = some ([], []) := rfl
  obtain ⟨lexeme, next, finds, _⟩ := findsAt_token taken place atEnd
  exact ⟨lexeme, next, finds⟩

theorem print_queryOf {content : List Char} {cursor : Cursor} {first : Node} {others : List Node}
    {text : List Char} (reprint : ItemsReprint content cursor (first :: others) text) :
    (queryOf first others).print content some = .ok (String.ofList text) := by
  obtain ⟨words, printed, text_eq⟩ := reprint.printed
  rw [queryOf, Node.print, printed, ← text_eq]
  exact congrArg Except.ok (Text.intercalate_map_ofList " " words)

theorem print_definedValue {content : List Char} {cursor : Cursor} {items : List Node}
    {text : List Char} (reprint : ItemsReprint content cursor items text) (stop : Int) :
    (definedValue items stop).print content some = .ok (String.ofList text) := by
  cases items with
  | nil =>
      rw [reprint.empty rfl]
      rfl
  | cons first others => exact print_queryOf reprint

theorem ItemsReprint.ungap_eq {content : List Char} {cursor : Cursor} {items : List Node}
    {text : List Char} (reprint : ItemsReprint content cursor items text) : ungap text = text := by
  by_cases noItem : items = []
  · rw [reprint.empty noItem]
    rfl
  · obtain ⟨c, tail, text_eq, visible⟩ := reprint.visible noItem
    rw [text_eq, ungap_cons visible]

theorem query_findsAt {content : List Char} {cursor : Cursor} {first : Node} {others : List Node}
    {text : List Char} (reprint : ItemsReprint content cursor (first :: others) text) :
    query.FindsAt text [] fun found => found.bare = (queryOf first others).bare := by
  intro place place_eq
  obtain ⟨found, final, repeats, final_eq, same⟩ := reprint.repeats place place_eq
  cases found with
  | nil => simp at same
  | cons first' others' =>
      refine ⟨queryOf first' others', final, ?_, final_eq, ?_⟩
      · exact finds_query_iff.mpr ⟨first', others', repeats, rfl⟩
      · change (queryOf first' others').bare = (queryOf first others).bare
        rw [bare_queryOf, bare_queryOf, same]

theorem definition_findsAt {content : List Char} {cursor : Cursor} {items : List Node}
    {name text : List Char} (reprint : ItemsReprint content cursor items text)
    (named : Token.variable.take? (name ++ '=' :: text) = some (name, '=' :: text)) (stop : Int) :
    definition.FindsAt (name ++ '=' :: text) [] fun found =>
      found.bare = .definition (.point 0) (.variable (.point 0) (String.ofList name) none)
        (definedValue items stop).bare none := by
  have signed : (token .equals).FindsAt (ungap ('=' :: text)) text fun _ => True := by
    have taken : Token.equals.take? ('=' :: text) = some (['='], text) := takeWord?_append _ _
    have finds := findsAt_token taken
    rw [reprint.ungap_eq] at finds
    rw [ungap_cons (by decide)]
    exact finds.mono fun _ _ => trivial
  have itemsAt : FindsAt (many item) text [] fun found =>
      found.map Node.bare = items.map Node.bare := by
    intro place place_eq
    obtain ⟨found, final, repeats, final_eq, same⟩ := reprint.repeats place place_eq
    exact ⟨found, final, finds_many_of_repeats advances_item repeats, final_eq, same⟩
  refine (findsAt_token named).bind fun name' name_eq => signed.bind fun sign' _ =>
    itemsAt.map fun found same => ?_
  simp [Node.bare, Lexeme.text, name_eq, bare_definedValue same stop]

/-- The items of a plain query stand apart and are plain. -/
theorem apart_of_definedValue {content : List Char} {items : List Node} {stop : Int}
    (plain : (definedValue items stop).AllPlain content) :
    (items.IsChain fun left right => left.stop < right.start) ∧
      ∀ node ∈ items, node.AllPlain content := by
  cases items with
  | nil => simp
  | cons first others =>
      refine ⟨plain _ (Node.self_mem_preorder _), fun node member => plain.part ?_⟩
      simpa [definedValue, queryOf] using member

theorem exists_reprints_query {content : List Char} {node : Node} {final : Cursor}
    (isContent : IsContent content) (misses : definition.Misses ⟨0, content⟩)
    (finds : query.Finds ⟨0, content⟩ node final) (atEnd : final.skipGap.rest = [])
    (plain : node.AllPlain content) : ∃ text, LineReprints content node text := by
  obtain ⟨first, others, repeats, rfl⟩ := finds_query_iff.mp finds
  obtain ⟨apart, plainItems⟩ := @apart_of_definedValue content (first :: others) 0 plain
  obtain ⟨text, reprint⟩ := exists_itemsReprint isContent (Cursor.on_start content) repeats atEnd
    apart plainItems
  refine ⟨text, print_queryOf reprint, reprint.visible (by simp), reprint.isContent,
    reprint.quieter, ?_⟩
  obtain ⟨found, back, found_eq, back_eq, bare_eq⟩ :=
    query_findsAt reprint ⟨0, text⟩ reprint.ungap_eq
  obtain ⟨lexeme, next, finish⟩ := finds_finish back_eq
  have missed := reprint.missesAt (by simp) misses ⟨0, text⟩ reprint.ungap_eq
  exact ⟨found, next, finds_line_iff.mpr ⟨back, Or.inr ⟨missed, found_eq⟩, lexeme, finish⟩, bare_eq⟩

theorem exists_reprints_definition {content : List Char} {node : Node} {final : Cursor}
    (isContent : IsContent content) (finds : definition.Finds ⟨0, content⟩ node final)
    (atEnd : final.skipGap.rest = []) (plain : node.AllPlain content) :
    ∃ text, LineReprints content node text := by
  obtain ⟨name, front, name_found, sign, back, sign_found, items, repeats, rfl⟩ :=
    finds_definition_iff.mp finds
  have word := between_of_finds_token (Cursor.on_start content) name_found
  have equals := between_of_finds_token word.on sign_found
  have takes := takes_of_finds_token name_found
  have content_eq : ungap content = name.chars ++ front.rest := takes.split
  obtain ⟨c, tail, chars_eq, begins⟩ := takes.head
  obtain rfl : c = '$' := by simpa [Token.begins] using begins
  have plainValue : (definedValue items sign.span.stop).AllPlain content := plain.part (by simp)
  obtain ⟨apart, plainItems⟩ := apart_of_definedValue plainValue
  obtain ⟨text, reprint⟩ := exists_itemsReprint isContent equals.on repeats atEnd apart plainItems
  have taken : Token.variable.take? (name.chars ++ front.rest) = some (name.chars, front.rest) := by
    rw [← takes.split]
    exact ((finds_token_iff ..).mp name_found).1
  have named : Token.variable.take? (name.chars ++ '=' :: text) =
      some (name.chars, '=' :: text) :=
    takeVariable?_of_outside (by simpa using Text.isNameChar_eq_false_of_sign) taken
  have noGap : ungap (name.chars ++ '=' :: text) = name.chars ++ '=' :: text := by
    rw [chars_eq, List.cons_append, ungap_cons (by decide)]
  have split : name.chars ++ '=' :: text = name.chars ++ ['='] ++ text := by simp
  refine ⟨name.chars ++ '=' :: text, ?_, ?_, ?_, ?_, ?_⟩
  · rw [Node.print, print_definedValue reprint, split, String.ofList_append, String.ofList_append]
    rfl
  · exact ⟨'$', tail ++ '=' :: text, by rw [chars_eq, List.cons_append], by decide⟩
  · rw [split]
    refine .prepend ?_ reprint.isContent
    intro c member
    rcases List.mem_append.mp member with member | member
    · exact Text.isLineBreak_eq_false_of_visible
        (isBlank_eq_false_of_isBare (takes.isBareWord (by decide) c member))
    · obtain rfl := List.mem_singleton.mp member
      decide
  · have hasVariable : Token.variable.take? (name.chars ++ front.rest) ≠ none := by
      rw [taken]
      exact Option.some_ne_none _
    rw [content_eq]
    rw [chars_eq] at hasVariable ⊢
    exact quieter_sign (Or.inr ⟨.variable, by decide, hasVariable⟩) (Or.inl (by decide))
  · obtain ⟨found, back', found_eq, back_eq, bare_eq⟩ :=
      definition_findsAt reprint named sign.span.stop ⟨0, name.chars ++ '=' :: text⟩ noGap
    obtain ⟨lexeme, next, finish⟩ := finds_finish back_eq
    refine ⟨found, next, finds_line_iff.mpr ⟨back', Or.inl found_eq, lexeme, finish⟩, ?_⟩
    rw [bare_eq, Node.bare, Node.bare]
    rfl

/-- A line that is read can be printed, and is read again as what it was. -/
theorem exists_lineReprints {content : List Char} {node : Node} {next : Cursor}
    (isContent : IsContent content) (finds : line.Finds ⟨0, content⟩ node next)
    (plain : node.AllPlain content) : ∃ text, LineReprints content node text := by
  obtain ⟨back, found, lexeme, finish⟩ := finds_line_iff.mp finds
  have atEnd : back.skipGap.rest = [] :=
    (Token.take?_finish_eq_some ((finds_token_iff ..).mp finish).1).1
  rcases found with found | ⟨misses, found⟩
  · exact exists_reprints_definition isContent found atEnd plain
  · exact exists_reprints_query isContent misses found atEnd plain

end SearchQuery.Line
