/-
**The words of a line of source.**

The words of a text are its longest stretches of characters that may stand in identifiers; spaces, brackets,
commas and dots separate them. Everything follows from one equation at a separator (`words_append_append`):
an identifier is one word (`words_eq_singleton`), and a list of identifiers is read back word by word
(`words_intercalate`).
-/

import Mathlib.Data.List.Basic
import PipelineGraph.Identifier

namespace PipelineGraph.Source

open Text (continuesIdentifier isIdentifierChars)

/-! ### Characters -/

/-- The words of a text, as lists of characters. -/
def wordChars (text : List Char) : List (List Char) :=
  (text.splitOnP fun c => !continuesIdentifier c).filter fun word => !word.isEmpty

/-- **A character that separates belongs to no word.** -/
theorem wordChars_append_cons {c : Char} (separates : continuesIdentifier c = false)
    (front rest : List Char) :
    wordChars (front ++ c :: rest) = wordChars front ++ wordChars rest := by
  have splits : (!continuesIdentifier c) = true := by
    rw [separates]
    rfl
  unfold wordChars
  rw [List.splitOnP_append_cons front rest splits, List.filter_append]

/-- Characters that all separate belong to no word. -/
theorem wordChars_append_of_separate {between : List Char}
    (separate : ∀ c ∈ between, continuesIdentifier c = false) (rest : List Char) :
    wordChars (between ++ rest) = wordChars rest := by
  induction between with
  | nil => rfl
  | cons c between ih =>
    obtain ⟨first, others⟩ := List.forall_mem_cons.mp separate
    rw [List.cons_append, ← ih others]
    exact wordChars_append_cons first [] _

/-- An identifier is one word. -/
theorem wordChars_of_isIdentifierChars {name : List Char} (isName : isIdentifierChars name = true) :
    wordChars name = [name] := by
  have unsplit : ∀ c ∈ name, (!continuesIdentifier c) = false := by
    intro c inside
    rw [Text.continuesIdentifier_of_mem isName c inside]
    rfl
  rw [wordChars, List.splitOnP_eq_singleton unsplit]
  cases name with
  | nil => cases isName
  | cons first rest => rfl

/-! ### Texts -/

/-- The words of a text. -/
def words (text : String) : List String := (wordChars text.toList).map String.ofList

/-- The text separates words: it is not empty, and no character of it may stand in an identifier. -/
def isSeparator (text : String) : Bool :=
  !text.toList.isEmpty && text.toList.all fun c => !continuesIdentifier c

/-- **Words end at a separator.** -/
theorem words_append_append {between : String} (separates : isSeparator between = true)
    (front rest : String) : words (front ++ between ++ rest) = words front ++ words rest := by
  obtain ⟨some, all⟩ := Bool.and_eq_true_iff.mp separates
  have separate : ∀ c ∈ between.toList, continuesIdentifier c = false := fun c inside => by
    simpa using List.all_eq_true.mp all c inside
  rw [words, words, words, String.toList_append, String.toList_append, ← List.map_append]
  revert some separate
  cases between.toList with
  | nil => exact fun some => nomatch some
  | cons c others =>
    intro _ separate
    obtain ⟨first, later⟩ := List.forall_mem_cons.mp separate
    rw [List.append_assoc, List.cons_append, wordChars_append_cons first,
      wordChars_append_of_separate later]

/-- A separator at the end belongs to no word. -/
theorem words_append_of_isSeparator {between : String} (separates : isSeparator between = true)
    (front : String) : words (front ++ between) = words front := by
  have ended := words_append_append separates front ""
  rwa [String.append_empty, show words "" = [] from rfl, List.append_nil] at ended

/-- **An identifier is one word.** -/
theorem words_eq_singleton {name : String} (isName : isIdentifier name = true) : words name = [name] := by
  rw [words, wordChars_of_isIdentifierChars isName, List.map_singleton, String.ofList_toList]

/-- **A list of identifiers is read back word by word.** -/
theorem words_intercalate {names : List String} (areNames : ∀ name ∈ names, isIdentifier name = true) :
    words (String.intercalate ", " names) = names := by
  induction names with
  | nil => rfl
  | cons name rest ih =>
    obtain ⟨first, others⟩ := List.forall_mem_cons.mp areNames
    cases rest with
    | nil => rw [String.intercalate_singleton, words_eq_singleton first]
    | cons next rest =>
      rw [String.intercalate_cons_cons, words_append_append (by decide), words_eq_singleton first,
        ih others]
      rfl

end PipelineGraph.Source
