/-
**The tokens of a catalog.**

The blocks of a catalog's entries, each with a margin after it, are scanned to one block mapping: for
each entry its name as a key, and a block mapping of its type and its path as the value. The margins
leave no token; the empty lines at the start of one can become part of the path before it.

* `reaches_blockChars` — one entry, from the start of its first line to the token after its margin.
* `scan_marked` — a whole document.
-/

import PipelineGraph.Catalog.Document
import PipelineGraph.Proofs.Yaml.ScalarScanning

namespace PipelineGraph.Catalog

open Yaml

/-- An entry with the margin after its block. -/
structure Marked where
  entry : Entry
  margin : List Char

namespace Marked

/-- The characters of an entry and of the margin after it. -/
def chars (marked : Marked) : List Char := marked.entry.blockChars ++ marked.margin

/-- The location that is read: a literal block may take in the start of the margin. -/
def location (marked : Marked) : String := readBack marked.entry.location marked.margin

/-- The token of a text. -/
def scalarToken (text read : String) : Token := .scalar read (Style.ofText text = .plain)

/-- The tokens of an entry. -/
def tokens (marked : Marked) : List Token :=
  [.key, scalarToken marked.entry.name marked.entry.name, .value, .blockMappingStart,
    .key, .scalar "type" true, .value, scalarToken marked.entry.storageType marked.entry.storageType,
    .key, .scalar "filepath" true, .value, scalarToken marked.entry.location marked.location,
    .blockEnd]

end Marked

/-! ### One entry -/

/-- The names of the two fields are written plainly. -/
theorem fieldName_plain : ∀ name ∈ ["type", "filepath"],
    Style.ofText name = .plain ∧ isSimpleKey name = true := by
  decide +kernel

/-- A scalar with the end of its line starts with a token. -/
theorem atToken_scalarLine (indent : Nat) (text : String) (rest : List Char) :
    AtToken (scalarLine indent text ++ rest) := by
  simp only [scalarLine, List.append_assoc]
  exact atToken_scalarChars (allows_ofText text) indent _

section

variable {mark : Mark} {goal margin : List Char}

/-- **A field of an entry**: its name, a colon and a text with the end of its line. -/
theorem reaches_field (blocks : Blocks) (name text : String)
    (field : name ∈ ["type", "filepath"]) (entered : (blocks.enter 2).indent = 2)
    (within : blocks.indent ≤ 2) (place : mark.column = 2) (between : Margin 2 margin)
    (atToken : AtToken goal) {column : Nat} (outside : column ≤ 2) :
    ∃ landing : Mark, landing.column = column ∧ Scanner.Reaches
      (blocks.scannerAt mark (name.toList ++ ':' :: ' ' :: (scalarLine 4 text ++
        (margin ++ (spaces column ++ goal)))) none true)
      ((((((((blocks.enter 2).push .key).push (.scalar name true)).push .value).push
        (Marked.scalarToken text (readBack text margin))).leave column).scannerAt landing goal none
          true)) := by
  obtain ⟨plain, simple⟩ := fieldName_plain name field
  obtain ⟨inner, further, named⟩ := blocks.reaches_key_space mark (by decide : 0 < 2) simple
    (by rwa [place]) (atToken_scalarLine 4 text (margin ++ (spaces column ++ goal)))
  rw [plain, place] at named
  obtain ⟨landing, atColumn, read⟩ :=
    ((((blocks.enter 2).push .key).push (.scalar name true)).push .value).next_scalarLine inner text
      false 2 entered (by omega) between atToken outside
  exact ⟨landing, atColumn, named.tail read⟩

/-- The fields of an entry. -/
def fieldChars (entry : Entry) : List Char :=
  "type: ".toList ++ scalarLine 4 entry.storageType ++ "  filepath: ".toList ++
    scalarLine 4 entry.location

/-- **The fields of an entry** are a block mapping that ends with the entry. -/
theorem reaches_fields (entry : Entry) {tokens : List Token} (place : mark.column = 2)
    (between : Margin 2 margin) (atToken : AtToken goal) :
    ∃ landing : Mark, landing.column = 0 ∧ Scanner.Reaches
      ((Blocks.mk tokens 0 [-1]).scannerAt mark (fieldChars entry ++ (margin ++ goal)) none true)
      ((Blocks.mk (.blockEnd :: Marked.scalarToken entry.location (readBack entry.location margin) ::
        .value :: .scalar "filepath" true :: .key ::
        Marked.scalarToken entry.storageType entry.storageType :: .value :: .scalar "type" true ::
        .key :: .blockMappingStart :: tokens) 0 [-1]).scannerAt landing goal none true) := by
  have atName : AtToken ("filepath".toList ++ ':' :: ' ' :: (scalarLine 4 entry.location ++
      (margin ++ (spaces 0 ++ goal)))) := by
    rintro c ⟨⟩
    decide
  obtain ⟨inner, atColumn, first⟩ := reaches_field (Blocks.mk tokens 0 [-1]) "type"
    entry.storageType (by decide) rfl (by simp) place .nil atName (Nat.le_refl 2)
  obtain ⟨landing, atStart, second⟩ := reaches_field (Blocks.mk
    (Marked.scalarToken entry.storageType (readBack entry.storageType []) :: .value ::
      .scalar "type" true :: .key :: .blockMappingStart :: tokens) 2 [0, -1]) "filepath"
    entry.location (by decide) rfl (by simp) atColumn between atToken (Nat.zero_le 2)
  refine ⟨landing, atStart, ?_⟩
  have written : fieldChars entry ++ (margin ++ goal) =
      "type".toList ++ ':' :: ' ' :: (scalarLine 4 entry.storageType ++ ([] ++ (spaces 2 ++
        ("filepath".toList ++ ':' :: ' ' :: (scalarLine 4 entry.location ++
          (margin ++ (spaces 0 ++ goal))))))) := by
    have first : "type: ".toList = "type".toList ++ [':', ' '] := rfl
    have second : "  filepath: ".toList = spaces 2 ++ ("filepath".toList ++ [':', ' ']) := rfl
    have none : spaces 0 = [] := rfl
    unfold fieldChars
    simp only [first, second, List.append_assoc, List.cons_append, List.nil_append]
    rw [none, List.nil_append]
  rw [written]
  rw [readBack_nil] at first second
  exact first.trans second

/-- The name of an entry, up to its fields. -/
def nameChars (entry : Entry) : List Char :=
  if isSimpleKey entry.name then
    scalarChars (Style.ofText entry.name) 2 entry.name.toList ++ ":\n  ".toList
  else "? ".toList ++ scalarLine 2 entry.name ++ ": ".toList

theorem blockChars_eq (entry : Entry) : entry.blockChars = nameChars entry ++ fieldChars entry := by
  unfold Entry.blockChars nameChars fieldChars
  simp only [List.append_assoc]

/-- The fields start with a token. -/
theorem atToken_fieldChars (entry : Entry) (rest : List Char) :
    AtToken (fieldChars entry ++ rest) := by
  rintro c ⟨⟩
  decide

/-- An entry starts with a token. -/
theorem atToken_blockChars (entry : Entry) (rest : List Char) : AtToken (entry.blockChars ++ rest) := by
  rw [blockChars_eq, nameChars]
  split
  · simp only [List.append_assoc]
    exact atToken_scalarChars (allows_ofText entry.name) 2 _
  · rintro c ⟨⟩
    decide

/-- **The name of an entry becomes a key**, whether it is written before a colon or after a question
mark. -/
theorem reaches_name (entry : Entry) {blocks : Blocks} (within : blocks.indent ≤ 0)
    (start : mark.column = 0) (atToken : AtToken goal) :
    ∃ landing : Mark, landing.column = 2 ∧ Scanner.Reaches
      (blocks.scannerAt mark (nameChars entry ++ goal) none true)
      (((((blocks.enter 0).push .key).push (Marked.scalarToken entry.name entry.name)).push
        .value).scannerAt landing goal none true) := by
  have inside : blocks.indent ≤ mark.column := by rwa [start]
  rw [nameChars]
  by_cases simple : isSimpleKey entry.name = true
  · obtain ⟨landing, atColumn, reached⟩ := blocks.reaches_key_line mark (by decide : 0 < 2) simple inside
      atToken (by omega : mark.column ≤ 2)
    rw [start] at reached
    refine ⟨landing, atColumn, ?_⟩
    rw [if_pos simple, List.append_assoc]
    exact reached
  · have atColon : AtToken (':' :: ' ' :: goal) := by
      rintro c ⟨⟩
      decide
    have asked := blocks.next_question mark
      (atToken_scalarLine 2 entry.name ([] ++ (spaces 0 ++ ':' :: ' ' :: goal))) inside
    rw [start] at asked
    have indent : ((blocks.enter 0).push .key).indent = 0 := blocks.indent_enter within
    generalize (blocks.enter 0).push .key = asking at asked indent ⊢
    obtain ⟨middle, atStart, read⟩ := asking.next_scalarLine (mark.skip 2) entry.name true 0 indent
      (Nat.succ_pos _) .nil atColon (Nat.le_refl 0)
    have named : (asking.push (Marked.scalarToken entry.name entry.name)).indent = middle.column := by
      rw [atStart]
      exact indent
    have answered := (asking.push (Marked.scalarToken entry.name entry.name)).next_colon middle atToken
      (Int.le_of_eq named)
    rw [readBack_nil, Blocks.leave_of_le (show (asking.push _).indent ≤ (0 : Nat) from
      Int.le_of_eq indent)] at read
    rw [Blocks.enter_of_le (Int.le_of_eq named.symm)] at answered
    refine ⟨middle.skip 2, congrArg (· + 2) atStart, ?_⟩
    rw [if_neg simple, List.append_assoc, List.append_assoc]
    exact .head asked (.head read (.single answered))

/-- **An entry is a key and a block mapping**, up to the token after its margin. -/
theorem reaches_blockChars (marked : Marked) (blocks : Blocks) {tokens : List Token}
    (within : blocks.indent ≤ 0) (entered : blocks.enter 0 = ⟨tokens, 0, [-1]⟩)
    (start : mark.column = 0) (between : Margin 2 marked.margin) (atToken : AtToken goal) :
    ∃ landing : Mark, landing.column = 0 ∧ Scanner.Reaches
      (blocks.scannerAt mark (marked.chars ++ goal) none true)
      ((Blocks.mk (marked.tokens.reverse ++ tokens) 0 [-1]).scannerAt landing goal none true) := by
  obtain ⟨inner, atColumn, named⟩ := reaches_name marked.entry within start
    (atToken_fieldChars marked.entry (marked.margin ++ goal))
  rw [entered] at named
  obtain ⟨landing, atStart, read⟩ := reaches_fields marked.entry atColumn between atToken
  refine ⟨landing, atStart, ?_⟩
  rw [Marked.chars, blockChars_eq, List.append_assoc, List.append_assoc]
  exact named.trans read

end

/-! ### All entries -/

/-- The characters of entries with their margins. -/
def markedChars (all : List Marked) : List Char := all.flatMap Marked.chars

theorem atToken_markedChars (all : List Marked) : AtToken (markedChars all) := by
  cases all with
  | nil =>
    intro c none
    cases none
  | cons marked all =>
    rw [markedChars, List.flatMap_cons, Marked.chars, List.append_assoc]
    exact atToken_blockChars marked.entry _

/-- **Entries are scanned one after the other** inside the block mapping of the first. -/
theorem reaches_markedChars {all : List Marked} :
    ∀ (tokens : List Token) (mark : Mark), (∀ marked ∈ all, Margin 2 marked.margin) → mark.column = 0 →
      ∃ landing : Mark, landing.column = 0 ∧ Scanner.Reaches
        ((Blocks.mk tokens 0 [-1]).scannerAt mark (markedChars all) none true)
        ((Blocks.mk ((all.flatMap Marked.tokens).reverse ++ tokens) 0 [-1]).scannerAt landing [] none
          true) := by
  induction all with
  | nil => exact fun _ mark _ start => ⟨mark, start, .refl⟩
  | cons marked all ih =>
    intro tokens mark between start
    rw [List.forall_mem_cons] at between
    obtain ⟨middle, atStart, first⟩ := reaches_blockChars marked (Blocks.mk tokens 0 [-1])
      (Int.le_refl 0) rfl start between.1 (atToken_markedChars all)
    obtain ⟨landing, atEnd, others⟩ := ih (marked.tokens.reverse ++ tokens) middle between.2 atStart
    refine ⟨landing, atEnd, ?_⟩
    rw [List.flatMap_cons, List.reverse_append, List.append_assoc]
    exact first.trans others

/-- **The tokens of a document**: a margin, and at least one entry with margins after them. -/
theorem scan_marked {intro : List Char} {all : List Marked} (before : Margin 2 intro) (some : all ≠ [])
    (between : ∀ marked ∈ all, Margin 2 marked.margin)
    (legal : ∀ c ∈ intro ++ markedChars all, isAllowed c = true) :
    scan (intro ++ markedChars all) =
      .some (.blockMappingStart :: all.flatMap Marked.tokens ++ [.blockEnd]) := by
  cases all with
  | nil => exact absurd rfl some
  | cons marked all =>
    rw [List.forall_mem_cons] at between
    obtain ⟨first, skips, atFirst, _⟩ :=
      skipSpace_margin before 0 (atToken_markedChars (marked :: all)) {} rfl
    obtain ⟨middle, atMiddle, entry⟩ := reaches_blockChars marked (Blocks.mk [] (-1) [])
      (by decide) rfl atFirst between.1 (atToken_markedChars all)
    obtain ⟨last, _, others⟩ := reaches_markedChars (marked.tokens.reverse ++
      [.blockMappingStart]) middle between.2 atMiddle
    rw [show spaces 0 = [] from rfl, List.nil_append] at skips
    have written : markedChars (marked :: all) = marked.chars ++ markedChars all := List.flatMap_cons
    have settled : Scanner.settle { cursor := { rest := intro ++ markedChars (marked :: all) } } =
        .some ((Blocks.mk [] (-1) []).scannerAt first (markedChars (marked :: all)) none true) := by
      show ((Blocks.mk [] (-1) []).scannerAt {} (intro ++ markedChars (marked :: all)) none
        true).settle = _
      rw [Blocks.settle_scannerAt skips (Blocks.keyAt_none first)]
      rfl
    obtain ⟨left, isRun⟩ := Scanner.runSettled_of_reaches (entry.trans others)
      (intro ++ markedChars (marked :: all)).length (by
        rw [written, List.length_append]
        exact Nat.le_add_left _ _)
    rw [scan, if_pos (List.all_eq_true.mpr legal), Scanner.run_succ, settled]
    rw [written] at isRun ⊢
    show (Scanner.runSettled _ _).map _ = _
    rw [isRun]
    show Option.some (List.reverse (.blockEnd :: ((all.flatMap Marked.tokens).reverse ++
      (marked.tokens.reverse ++ [.blockMappingStart])))) = _
    simp

end PipelineGraph.Catalog
