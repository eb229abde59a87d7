import SearchQuery.Proofs.Document.Totality
import SearchQuery.Proofs.Repository.Split

/-!
# Repositories named by literals

Quotes are taken off a literal twice: when it is read, and when the repository is looked for in what
is printed for it.  Both come to the same, unless the closing quote is absent.  The opening quote is
then no part of the literal's word, but part of the owner.
-/

namespace SearchQuery.Repository

/-- The text that is split for a literal: its word, behind the opening quote of the written literal
if that has no closing one. -/
def literalText (written : List Char) (word : String) : List Char :=
  if IsUnclosed written then '"' :: word.toList else word.toList

variable {text : String} {table : SymbolTable} {format : RepositoryFormat}

/-- The place and the word of the literal that is a value of the qualifier. -/
def literalOf? (target : String) : Node → Option (Span × String)
  | .qualified _ _ qualifier (.literal place word) =>
      if qualifier.word = target then some (place, word) else none
  | _ => none

theorem exists_of_literalOf? {target word : String} {node : Node} {place : Span}
    (literal : literalOf? target node = some (place, word)) :
    ∃ span negated qualifier, qualifier.word = target ∧
      node = .qualified span negated qualifier (.literal place word) := by
  fun_cases literalOf? target node with
  | case1 span negated qualifier other other_word target_eq =>
      rw [literalOf?, if_pos target_eq, Option.some.injEq, Prod.mk.injEq] at literal
      obtain ⟨rfl, rfl⟩ := literal
      exact ⟨span, negated, qualifier, target_eq, rfl⟩
  | case2 span negated qualifier other other_word target_ne =>
      rw [literalOf?, if_neg target_ne] at literal
      cases literal
  | case3 node unmatched =>
      rw [literalOf?] at literal
      · cases literal
      · exact unmatched

variable {text : String} {table : SymbolTable} {format : RepositoryFormat} {node : Node}
  {place : Span} {word : String}

/-- What is split for a literal of a document is told by its word and the way it is written. -/
theorem withoutQuotes_literal
    (member : .literal place word ∈ (Document.ofText text).toNode.preorder) :
    withoutQuotes (place.slice text.toList) = literalText (place.slice text.toList) word := by
  rcases Document.mem_preorder_ofText_iff.mp member with isRoot | ⟨line, line_mem, node_mem⟩
  · cases isRoot
  · have reflects := (Document.placed_of_mem_significantLines line_mem node_mem).reflects
    rw [withoutQuotes_eq, literalText, ← reflects]

/-- The repositories of a document are named node by node.  A literal of the qualifier names the
repository that its text is split into at the first separator, if the owner is not empty, and no
other. -/
theorem namedAt?_literal_iff (member : node ∈ (Document.ofText text).toNode.preorder)
    (literal : literalOf? format.qualifier node = some (place, word)) :
    ofDocument (.ofText text) table format =
        .ok (namedIn table text.toList format (Document.ofText text).toNode) ∧
      (∃ printed, valueText table text.toList (.literal place word) = .ok printed ∧
        withoutQuotes printed.toList = literalText (place.slice text.toList) word) ∧
      ∀ repository, namedAt? table text.toList format node = some repository ↔
        repository.owner ≠ "" ∧
          IsFirstSplit format.separator.toList (literalText (place.slice text.toList) word)
            repository.owner.toList repository.name.toList := by
  obtain ⟨span, negated, qualifier, target_eq, rfl⟩ := exists_of_literalOf? literal
  have split_eq : withoutQuotes (place.slice text.toList) =
      literalText (place.slice text.toList) word :=
    withoutQuotes_literal (Node.mem_preorder_of_mem_parts member (by simp))
  have printed_eq : valueText table text.toList (.literal place word) =
      .ok (String.ofList (place.slice text.toList)) := by rw [valueText, Node.print]
  have text_eq : (Node.literal place word).text text.toList table.valueOf? =
      String.ofList (place.slice text.toList) := by rw [Node.text, Node.print]; rfl
  refine ⟨ofDocument_eq table format (Document.hasNodesOnly_ofText text), ⟨_, printed_eq, ?_⟩,
    fun repository => ?_⟩
  · rw [String.toList_ofList, split_eq]
  · rw [namedAt?, if_pos target_eq, ofValue?_eq_some_iff, text_eq, String.toList_ofList, split_eq]

/-- A quoted literal with a separator in the name, and one whose closing quote is absent. -/
theorem exists_namedAt?_quoted :
    let text := "repo:\"a/b/c\" repo:\"d/e"
    let format : RepositoryFormat := ⟨"repo", "/"⟩
    (∃ node ∈ (Document.ofText text).toNode.preorder,
      literalOf? format.qualifier node = some (⟨5, 12⟩, "a/b/c") ∧
      namedAt? .empty text.toList format node = some ⟨"a", "b/c"⟩) ∧
    ∃ node ∈ (Document.ofText text).toNode.preorder,
      literalOf? format.qualifier node = some (⟨18, 22⟩, "d/e") ∧
      namedAt? .empty text.toList format node = some ⟨"\"d", "e"⟩ := by
  intro text format
  have closed_mem : (⟨5, 12⟩, "a/b/c") ∈
      (Document.ofText text).toNode.preorder.filterMap (literalOf? format.qualifier) := by
    decide +kernel
  have unclosed_mem : (⟨18, 22⟩, "d/e") ∈
      (Document.ofText text).toNode.preorder.filterMap (literalOf? format.qualifier) := by
    decide +kernel
  obtain ⟨closed, closed_mem, closed_literal⟩ := List.mem_filterMap.mp closed_mem
  obtain ⟨unclosed, unclosed_mem, unclosed_literal⟩ := List.mem_filterMap.mp unclosed_mem
  refine ⟨⟨closed, closed_mem, closed_literal, ?_⟩, ⟨unclosed, unclosed_mem, unclosed_literal, ?_⟩⟩
  · exact ((namedAt?_literal_iff closed_mem closed_literal).2.2 _).mpr
      ⟨by decide, by decide +kernel, by decide +kernel⟩
  · exact ((namedAt?_literal_iff unclosed_mem unclosed_literal).2.2 _).mpr
      ⟨by decide, by decide +kernel, by decide +kernel⟩

/-- A literal whose closing quote is absent need not name the repository that its word is split
into. -/
theorem namedAt?_literal_unclosed :
    ¬ ∀ (text : String) (table : SymbolTable) (format : RepositoryFormat),
      ∀ node ∈ (Document.ofText text).toNode.preorder, ∀ place word,
        literalOf? format.qualifier node = some (place, word) →
        ∀ repository, namedAt? table text.toList format node = some repository ↔
          repository.owner ≠ "" ∧
            IsFirstSplit format.separator.toList word.toList
              repository.owner.toList repository.name.toList := by
  intro agree
  have literal_mem : (⟨5, 9⟩, "a/b") ∈ (Document.ofText "repo:\"a/b").toNode.preorder.filterMap
      (literalOf? "repo") := by
    decide +kernel
  obtain ⟨node, member, literal⟩ := List.mem_filterMap.mp literal_mem
  have named := (agree "repo:\"a/b" .empty ⟨"repo", "/"⟩ node member _ _ literal ⟨"a", "b"⟩).mpr
    ⟨by decide, by decide +kernel, by decide +kernel⟩
  have named_mem : (⟨"a", "b"⟩ : Repository) ∈ namedIn .empty "repo:\"a/b".toList ⟨"repo", "/"⟩
      (Document.ofText "repo:\"a/b").toNode := List.mem_filterMap.mpr ⟨node, member, named⟩
  exact absurd named_mem (by decide +kernel)

end SearchQuery.Repository
