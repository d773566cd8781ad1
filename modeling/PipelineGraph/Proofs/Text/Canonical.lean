/-
**Canonical names are a normal form.**

A character is settled if it is not white and its lower case is itself: canonical names leave it as it
is. `canonical_normalForm` says that canonical names have no other characters, that the texts of settled
characters are just those that are their own canonical names, so that naming twice is naming once, and
what the name of a label is made of: an underscore for each longest stretch of white characters, the
lower case of the characters of each longest stretch of others.

The canonical form is computed in one walk that knows whether the character before was white. Over a
whole stretch the walk writes its part of the name (`canonicalChars_white`, `canonicalChars_other`), and
stretches of the two kinds alternate, so that after a white one the walk never meets another
(`canonicalChars_flatten`).
-/

import Mathlib.Data.List.SplitBy
import PipelineGraph.Proofs.Text.LowerCase

namespace PipelineGraph.Text

/-! ### Settled characters -/

/-- The character is not white, and its lower case is itself. -/
def IsSettled (c : Char) : Prop := isWhite c = false ∧ lowerChar c = [c]

theorem isSettled_underscore : IsSettled '_' := by
  constructor <;> decide

/-- **Canonical texts have settled characters only.** -/
theorem isSettled_of_mem_canonicalChars (text : List Char) :
    ∀ afterWhite, ∀ d ∈ canonicalChars afterWhite text, IsSettled d := by
  induction text with
  | nil => exact fun _ => nofun
  | cons c rest ih =>
    intro afterWhite d inside
    rw [canonicalChars] at inside
    split at inside
    · split at inside
      · exact ih true d inside
      · rcases List.mem_cons.mp inside with rfl | later
        · exact isSettled_underscore
        · exact ih true d later
    · rename_i notWhite
      rcases List.mem_append.mp inside with image | later
      · exact ⟨isWhite_of_mem_lowerChar image (Bool.eq_false_iff.mpr notWhite), lowerChar_settled image⟩
      · exact ih false d later

/-- **A text of settled characters is its own canonical form.** -/
theorem canonicalChars_of_settled {text : List Char} (settled : ∀ c ∈ text, IsSettled c) :
    ∀ afterWhite, canonicalChars afterWhite text = text := by
  induction text with
  | nil => exact fun _ => rfl
  | cons c rest ih =>
    intro afterWhite
    obtain ⟨⟨notWhite, same⟩, later⟩ := List.forall_mem_cons.mp settled
    rw [canonicalChars, if_neg (Bool.eq_false_iff.mp notWhite), same, ih later, List.singleton_append]

/-! ### Stretches -/

/-- The longest stretches of white characters and of others, in order. -/
def stretches (text : List Char) : List (List Char) :=
  text.splitBy fun c d => isWhite c == isWhite d

/-- All characters of the stretch are white, or none is. -/
def IsUniform (stretch : List Char) : Prop := ∃ white, ∀ c ∈ stretch, isWhite c = white

theorem isUniform_of_isChain {stretch : List Char}
    (alike : stretch.IsChain fun c d => (isWhite c == isWhite d) = true) : IsUniform stretch := by
  cases stretch with
  | nil => exact ⟨true, nofun⟩
  | cons c rest =>
    have : IsTrans Char fun c d => isWhite c = isWhite d := ⟨fun _ _ _ => Eq.trans⟩
    have same : (c :: rest).Pairwise fun c d => isWhite c = isWhite d :=
      List.isChain_iff_pairwise.mp (alike.imp fun _ _ => eq_of_beq)
    refine ⟨isWhite c, List.forall_mem_cons.mpr ⟨rfl, fun d later => ?_⟩⟩
    exact ((List.pairwise_cons.mp same).1 d later).symm

/-- Two stretches stand next to each other only if one is white and the other is not. -/
def Alternate (stretch next : List Char) : Prop :=
  ∃ (ends : stretch ≠ []) (starts : next ≠ []),
    (isWhite (stretch.getLast ends) == isWhite (next.head starts)) = false

/-- The part of a name that stands for a stretch. -/
def stretchName (stretch : List Char) : List Char :=
  if stretch.all isWhite then ['_'] else stretch.flatMap lowerChar

/-! ### The walk over a stretch -/

section Stretch

variable {stretch : List Char} (rest : List Char)

/-- After white characters, more of them leave no trace. -/
theorem canonicalChars_true_white (white : ∀ c ∈ stretch, isWhite c = true) :
    canonicalChars true (stretch ++ rest) = canonicalChars true rest := by
  induction stretch with
  | nil => rfl
  | cons c stretch ih =>
    obtain ⟨first, later⟩ := List.forall_mem_cons.mp white
    rw [List.cons_append, canonicalChars, if_pos first, if_pos rfl, ih later]

/-- **A white stretch is an underscore.** -/
theorem canonicalChars_white (white : ∀ c ∈ stretch, isWhite c = true) (nonempty : stretch ≠ []) :
    canonicalChars false (stretch ++ rest) = '_' :: canonicalChars true rest := by
  obtain ⟨c, stretch, rfl⟩ := List.exists_cons_of_ne_nil nonempty
  obtain ⟨first, later⟩ := List.forall_mem_cons.mp white
  rw [List.cons_append, canonicalChars, if_pos first, if_neg Bool.false_ne_true,
    canonicalChars_true_white rest later]

/-- **Any other stretch is in lower case**, wherever it stands. -/
theorem canonicalChars_other (other : ∀ c ∈ stretch, isWhite c = false) (nonempty : stretch ≠ [])
    (afterWhite : Bool) :
    canonicalChars afterWhite (stretch ++ rest) =
      stretch.flatMap lowerChar ++ canonicalChars false rest := by
  induction stretch generalizing afterWhite with
  | nil => exact absurd rfl nonempty
  | cons c stretch ih =>
    obtain ⟨first, later⟩ := List.forall_mem_cons.mp other
    rw [List.cons_append, canonicalChars, if_neg (Bool.eq_false_iff.mp first), List.flatMap_cons,
      List.append_assoc]
    cases stretch with
    | nil => rfl
    | cons d stretch => rw [ih later (List.cons_ne_nil d stretch)]

end Stretch

/-- **The walk over alternating stretches writes the name of each**, if it does not come from a white
character to a white stretch. -/
theorem canonicalChars_flatten {pieces : List (List Char)} (nonempty : [] ∉ pieces)
    (uniform : ∀ piece ∈ pieces, IsUniform piece) (alternate : pieces.IsChain Alternate) :
    ∀ afterWhite, (afterWhite = true → ∀ piece ∈ pieces.head?, ∀ c ∈ piece, isWhite c = false) →
      canonicalChars afterWhite pieces.flatten = pieces.flatMap stretchName := by
  induction pieces with
  | nil => exact fun _ _ => rfl
  | cons piece pieces ih =>
    intro afterWhite fresh
    obtain ⟨isPiece, arePieces⟩ := not_or.mp (mt List.mem_cons.mpr nonempty)
    obtain ⟨⟨white, same⟩, uniforms⟩ := List.forall_mem_cons.mp uniform
    have ih := ih arePieces uniforms alternate.tail
    have present : piece ≠ [] := fun empty => isPiece empty.symm
    rw [List.flatten_cons, List.flatMap_cons, stretchName]
    cases white with
    | false =>
      have someOther : ¬ piece.all isWhite = true := by
        obtain ⟨c, inside⟩ := List.exists_mem_of_ne_nil piece present
        intro all
        exact Bool.false_ne_true ((same c inside).symm.trans (List.all_eq_true.mp all c inside))
      rw [canonicalChars_other _ same present, if_neg someOther, ih false nofun]
    | true =>
      have notAfterWhite : afterWhite = false := by
        obtain ⟨c, inside⟩ := List.exists_mem_of_ne_nil piece present
        refine Bool.eq_false_iff.mpr fun afterWhite => ?_
        exact Bool.false_ne_true ((fresh afterWhite piece rfl c inside).symm.trans (same c inside))
      have next : ∀ next ∈ pieces.head?, ∀ c ∈ next, isWhite c = false := by
        intro next isNext c inside
        obtain ⟨ends, starts, differ⟩ := (List.isChain_cons.mp alternate).1 next isNext
        obtain ⟨kind, alike⟩ := uniforms next (List.mem_of_mem_head? isNext)
        rw [same _ (List.getLast_mem ends), alike _ (List.head_mem starts)] at differ
        rw [alike c inside]
        exact Bool.eq_false_iff.mpr (beq_eq_false_iff_ne.mp differ).symm
      rw [notAfterWhite, canonicalChars_white _ same present, if_pos (List.all_eq_true.mpr same),
        ih true fun _ => next, List.singleton_append]

/-- **A canonical text is made of the names of the stretches.** -/
theorem canonicalChars_eq_flatMap (text : List Char) :
    canonicalChars false text = (stretches text).flatMap stretchName := by
  have pieces := canonicalChars_flatten (List.nil_notMem_splitBy _ text)
    (fun _ isPiece => isUniform_of_isChain (List.isChain_of_mem_splitBy isPiece))
    (List.isChain_getLast_head_splitBy (fun c d => isWhite c == isWhite d) text) false nofun
  rwa [List.flatten_splitBy] at pieces

end PipelineGraph.Text

namespace PipelineGraph

open Text

/-- **Canonical names are a normal form.** They have no white character and none that lower-casing
changes; a label with neither is its own name, and no other is; the name of a name is the name itself;
and a name is made of an underscore for each longest stretch of white characters and of the characters
of the other stretches in lower case. -/
theorem canonical_normalForm (label : String) :
    (∀ c ∈ (canonical label).toList, isWhite c = false ∧ lowerChar c = [c]) ∧
      (canonical label = label ↔ ∀ c ∈ label.toList, isWhite c = false ∧ lowerChar c = [c]) ∧
      canonical (canonical label) = canonical label ∧
      (canonical label).toList =
        (label.toList.splitBy fun c d => isWhite c == isWhite d).flatMap fun stretch =>
          if stretch.all isWhite then ['_'] else stretch.flatMap lowerChar := by
  have settled : ∀ label, ∀ c ∈ (canonical label).toList, IsSettled c := by
    intro label
    rw [canonical, String.toList_ofList]
    exact isSettled_of_mem_canonicalChars label.toList false
  have fixed : ∀ label : String, (∀ c ∈ label.toList, IsSettled c) → canonical label = label := by
    intro label allSettled
    rw [canonical, canonicalChars_of_settled allSettled, String.ofList_toList]
  refine ⟨settled label, ⟨fun same => ?_, fixed label⟩, fixed _ (settled label), ?_⟩
  · rw [← same]
    exact settled label
  · rw [canonical, String.toList_ofList]
    exact canonicalChars_eq_flatMap label.toList

end PipelineGraph
