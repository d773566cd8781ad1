/-
**A catalog is read back.**

A document is a margin and then the blocks of the entries, each with a margin after it: empty lines, and
the lines of the description where these are comments indeed (`Entry.Commented`). Read as YAML it is a
mapping with one pair for each entry (`readWith_marked`), its name and what it says of the type and the
path. The pair does not depend on the other entries or on the comments, but a path that is a literal
block with all its line breaks takes in an empty line that comes after it.

* `readWith_document_of_lines` — entries of texts on one line are read back as they are.
* `readWith_document_of_blocks` — a document is read as its blocks are, one by one.
-/

import Mathlib.Data.List.Forall2
import PipelineGraph.Proofs.Catalog.Scanning
import PipelineGraph.Proofs.Text.Lines
import PipelineGraph.Proofs.Yaml.Legality
import PipelineGraph.Proofs.Yaml.Outline

namespace PipelineGraph.Catalog

open Shape (Content)
open Yaml

/-! ### Marked entries -/

/-- A text that is written plainly reads as a text. -/
theorem reads_of_plain {text : String} (plain : decide (Style.ofText text = .plain) = true) :
    readsAsText text = true := by
  have allows := allows_ofText text
  rw [of_decide_eq_true plain] at allows
  cases allows with
  | plain reads _ => exact reads

namespace Marked

theorem location_of_plain {marked : Marked}
    (plain : decide (Style.ofText marked.entry.location = .plain) = true) :
    readsAsText marked.location = true := by
  rw [location, readBack, if_neg (by rw [of_decide_eq_true plain]; decide)]
  exact reads_of_plain plain

/-- The outline of an entry: its name, and the mapping of its two fields. -/
def outline (marked : Marked) : Outline × Outline :=
  (.text marked.entry.name (Style.ofText marked.entry.name = .plain) reads_of_plain,
    .mapping [
      (.text "type" true fun _ => by decide +kernel,
        .text marked.entry.storageType (Style.ofText marked.entry.storageType = .plain) reads_of_plain),
      (.text "filepath" true fun _ => by decide +kernel,
        .text marked.location (Style.ofText marked.entry.location = .plain) location_of_plain)])

/-- **What an entry says**: its name as the key of its type and its path. -/
def pair (marked : Marked) : Content × Content :=
  (.text marked.entry.name,
    .map [(.text "type", .text marked.entry.storageType), (.text "filepath", .text marked.location)])

end Marked

theorem entryTokens_outline (all : List Marked) :
    entryTokens (all.map Marked.outline) = all.flatMap Marked.tokens := by
  induction all with
  | nil => rfl
  | cons marked all ih =>
    rw [List.map_cons, List.flatMap_cons, ← ih]
    rfl

theorem entryContents_outline (all : List Marked) :
    entryContents (all.map Marked.outline) = all.map Marked.pair := by
  induction all with
  | nil => rfl
  | cons marked all ih =>
    rw [List.map_cons, List.map_cons, ← ih]
    rfl

theorem entriesHeight_outline (all : List Marked) : entriesHeight (all.map Marked.outline) ≤ 1 := by
  induction all with
  | nil => exact Nat.zero_le 1
  | cons marked all ih =>
    rw [List.map_cons]
    exact Nat.max_le.mpr ⟨Nat.le_refl 1, ih⟩

/-- The characters of an entry are allowed. -/
theorem isAllowed_blockChars (entry : Entry) : ∀ c ∈ entry.blockChars, isAllowed c = true := by
  have signs : ∀ c ∈ "type: ".toList ++ "  filepath: ".toList ++ ":\n  ".toList ++ "? ".toList ++
      ": ".toList, isAllowed c = true := List.all_eq_true.mp (by decide)
  rw [List.forall_mem_append, List.forall_mem_append, List.forall_mem_append,
    List.forall_mem_append] at signs
  obtain ⟨⟨⟨⟨type, path⟩, colon⟩, question⟩, answer⟩ := signs
  rw [blockChars_eq, List.forall_mem_append]
  refine ⟨?_, ?_⟩
  · unfold nameChars
    split
    · rw [List.forall_mem_append]
      exact ⟨isAllowed_scalarChars (allows_ofText _) 2, colon⟩
    · rw [List.forall_mem_append, List.forall_mem_append]
      exact ⟨⟨question, isAllowed_scalarLine 2 _⟩, answer⟩
  · unfold fieldChars
    rw [List.forall_mem_append, List.forall_mem_append, List.forall_mem_append]
    exact ⟨⟨⟨type, isAllowed_scalarLine 4 _⟩, path⟩, isAllowed_scalarLine 4 _⟩

/-- **Entries with margins are read back**, each as the pair that it says. -/
theorem readWith_marked (intro : List Char) (all : List Marked) (before : Margin 2 intro)
    (some : all ≠ []) (between : ∀ marked ∈ all, Margin 2 marked.margin)
    (legalBefore : ∀ c ∈ intro, isAllowed c = true)
    (legal : ∀ marked ∈ all, ∀ c ∈ marked.margin, isAllowed c = true) :
    readWith Site.content (String.ofList (intro ++ markedChars all)) =
      .ok (.map (all.map Marked.pair)) := by
  have legalAll : ∀ c ∈ intro ++ markedChars all, isAllowed c = true := by
    rw [List.forall_mem_append]
    refine ⟨legalBefore, fun c inside => ?_⟩
    obtain ⟨marked, isIn, isChar⟩ := List.mem_flatMap.mp inside
    rw [Marked.chars, List.mem_append] at isChar
    exact isChar.elim (isAllowed_blockChars marked.entry c) (legal marked isIn c)
  have scanned : scan (String.ofList (intro ++ markedChars all)).toList =
      .some (Outline.mapping (all.map Marked.outline)).tokens := by
    rw [String.toList_ofList, scan_marked before some between legalAll, Outline.tokens,
      entryTokens_outline]
    rfl
  have shallow : (Outline.mapping (all.map Marked.outline)).height ≤ maxDepth := by
    have low := entriesHeight_outline all
    show entriesHeight (all.map Marked.outline) + 1 ≤ 128
    omega
  rw [readWith_content scanned shallow, Outline.content, entryContents_outline]

/-! ### Blocks -/

namespace Entry

/-- What a block has after its last line, so that it ends with a line feed. -/
def ending (entry : Entry) : List Char := if entry.blockChars.getLast? = some '\n' then [] else ['\n']

theorem block_eq (entry : Entry) :
    entry.block = String.ofList (markedChars [⟨entry, entry.ending⟩]) := by
  rw [block, markedChars, List.flatMap_singleton, Marked.chars, ending]
  split
  · rw [List.append_nil]
  · rfl

theorem margin_ending (entry : Entry) : Margin 2 entry.ending := by
  rw [ending]
  split
  · exact .nil
  · exact .emptyLine .nil

theorem isAllowed_ending (entry : Entry) : ∀ c ∈ entry.ending, isAllowed c = true := by
  rw [ending]
  split <;> exact List.all_eq_true.mp rfl

/-- What the block of an entry says. -/
def pair (entry : Entry) : Content × Content := (Marked.mk entry entry.ending).pair

/-- **A block is read** as one pair. -/
theorem readWith_block (entry : Entry) :
    readWith Site.content entry.block = .ok (.map [entry.pair]) := by
  have between : ∀ marked ∈ [Marked.mk entry entry.ending], Margin 2 marked.margin := by
    simpa only [List.forall_mem_singleton] using entry.margin_ending
  have legal : ∀ marked ∈ [Marked.mk entry entry.ending], ∀ c ∈ marked.margin, isAllowed c = true := by
    simpa only [List.forall_mem_singleton] using entry.isAllowed_ending
  have isRead := readWith_marked [] [⟨entry, entry.ending⟩] .nil (List.cons_ne_nil _ _) between
    (List.forall_mem_nil _) legal
  rwa [List.nil_append, List.map_singleton, ← block_eq] at isRead

end Entry

/-! ### Comments -/

/-- A comment, with the end of its line. -/
def commentLine (line : String) : String := "  # " ++ trimEnd line ++ "\n"

/-- The lines of a description that are shown. -/
def shownLines (entry : Entry) : List String :=
  (lines (entry.description.getD "")).filter fun line => !isBlank line

theorem comments_eq (entry : Entry) :
    entry.comments = String.join ((shownLines entry).map commentLine) := by
  rw [Entry.comments, shownLines]
  cases entry.description <;> rfl

theorem noLineFeed_of_mem_shownLines {entry : Entry} {line : String} (shown : line ∈ shownLines entry) :
    '\n' ∉ (trimEnd line).toList := by
  have isLine : line ∈ lines (entry.description.getD "") := List.mem_of_mem_filter shown
  obtain ⟨chars, isIn, rfl⟩ := List.mem_map.mp isLine
  intro feed
  rw [trimEnd, String.toList_ofList, String.toList_ofList, Text.trimEndChars, List.mem_reverse] at feed
  exact Text.noLineFeed_of_mem_splitLines chars isIn
    (List.mem_reverse.mp ((List.dropWhile_sublist _).mem feed))

/-- **The description is written as comments**: every character is allowed, and the only breaks are the
line feeds that end the comments. -/
def Entry.Commented (entry : Entry) : Prop :=
  ∀ c ∈ entry.comments.toList, isAllowed c = true ∧ (isBreak c = true → c = '\n')

instance (entry : Entry) : Decidable entry.Commented := List.decidableBAll _ _

theorem toList_commentLines (line : String) (shown : List String) :
    (String.join ((line :: shown).map commentLine)).toList =
      spaces 2 ++ '#' :: (' ' :: (trimEnd line).toList) ++
        '\n' :: (String.join (shown.map commentLine)).toList := by
  have before : "  # ".toList = spaces 2 ++ ['#', ' '] := rfl
  have after : "\n".toList = ['\n'] := rfl
  simp only [List.map_cons, String.join_cons, commentLine, String.toList_append, before, after,
    List.append_assoc, List.cons_append, List.nil_append]

/-- Lines without a break of their own are a margin when they are written as comments. -/
theorem margin_commentLines {shown : List String} (noFeed : ∀ line ∈ shown, '\n' ∉ (trimEnd line).toList)
    (breaks : ∀ c ∈ (String.join (shown.map commentLine)).toList, isBreak c = true → c = '\n') :
    Margin 2 (String.join (shown.map commentLine)).toList := by
  induction shown with
  | nil => exact .nil
  | cons line shown ih =>
    rw [List.forall_mem_cons] at noFeed
    rw [toList_commentLines] at breaks ⊢
    rw [List.forall_mem_append, List.forall_mem_append, List.forall_mem_cons, List.forall_mem_cons,
      List.forall_mem_cons] at breaks
    obtain ⟨⟨_, _, _, inLine⟩, _, others⟩ := breaks
    refine .comment (Nat.le_refl 2) ?_ (ih noFeed.2 others)
    rw [List.forall_mem_cons]
    refine ⟨rfl, fun c inside => ?_⟩
    cases ends : isBreak c with
    | false => rfl
    | true => exact absurd (inLine c inside ends ▸ inside) noFeed.1

theorem Entry.Commented.margin {entry : Entry} (commented : entry.Commented) :
    Margin 2 entry.comments.toList := by
  have breaks := fun c inside => (commented c inside).2
  rw [comments_eq] at breaks ⊢
  exact margin_commentLines (fun _ => noLineFeed_of_mem_shownLines) breaks

/-! ### Documents -/

/-- The entries of a document with what stands after them: the end of the block, the comments, and an
empty line before the next entry. -/
def marks : List Entry → List Marked
  | [] => []
  | [entry] => [⟨entry, entry.ending ++ entry.comments.toList⟩]
  | entry :: next :: rest =>
    ⟨entry, entry.ending ++ entry.comments.toList ++ ['\n']⟩ :: marks (next :: rest)

theorem text_toList (entry : Entry) :
    entry.text.toList = entry.blockChars ++ (entry.ending ++ entry.comments.toList) := by
  rw [Entry.text, String.toList_append, entry.block_eq, String.toList_ofList, markedChars,
    List.flatMap_singleton, Marked.chars, List.append_assoc]

theorem markedChars_marks {entries : List Entry} (some : entries ≠ []) :
    (String.join (entries.map fun entry => "\n" ++ entry.text)).toList =
      '\n' :: markedChars (marks entries) := by
  have lineFeed : "\n".toList = ['\n'] := rfl
  induction entries with
  | nil => exact absurd rfl some
  | cons entry rest ih =>
    rw [List.map_cons, String.join_cons, String.toList_append, String.toList_append, text_toList,
      lineFeed]
    cases rest with
    | nil => simp [marks, markedChars, Marked.chars]
    | cons next rest =>
      rw [ih (List.cons_ne_nil _ _)]
      simp [marks, markedChars, Marked.chars]

/-- The header of a document with the default options and the empty line after it. -/
def opening : List Char := (header {}).toList ++ ['\n']

theorem document_eq {entries : List Entry} (some : entries ≠ []) :
    document entries {} = String.ofList (opening ++ markedChars (marks entries)) := by
  rw [← String.toList_inj, String.toList_ofList, document, String.toList_append,
    markedChars_marks some, opening, List.append_assoc]
  rfl

theorem opening_eq :
    opening = spaces 0 ++ '#' :: " Catalog entries for the pipeline".toList ++ '\n' ::
      (spaces 0 ++ '#' :: " Generated by Kedro Pipeline Painter".toList ++ '\n' :: ['\n']) := by
  decide +kernel

theorem margin_opening : Margin 2 opening := by
  have oneLine : ∀ {line : List Char}, isMultiline line = false → ∀ c ∈ line, isBreak c = false :=
    fun one c inside => Bool.eq_false_iff.mpr (List.any_eq_false.mp one c inside)
  rw [opening_eq]
  exact .comment (Nat.zero_le 2) (oneLine (by decide))
    (.comment (Nat.zero_le 2) (oneLine (by decide)) (.emptyLine .nil))

theorem isAllowed_opening : ∀ c ∈ opening, isAllowed c = true := by
  rw [opening_eq]
  exact List.all_eq_true.mp (by decide)

theorem margin_of_mem_marks {entries : List Entry} (commented : ∀ entry ∈ entries, entry.Commented) :
    ∀ marked ∈ marks entries,
      Margin 2 marked.margin ∧ ∀ c ∈ marked.margin, isAllowed c = true := by
  have ofEntry : ∀ entry ∈ entries, Margin 2 (entry.ending ++ entry.comments.toList) ∧
      ∀ c ∈ entry.ending ++ entry.comments.toList, isAllowed c = true := by
    intro entry isIn
    refine ⟨entry.margin_ending.append (commented entry isIn).margin, ?_⟩
    rw [List.forall_mem_append]
    exact ⟨entry.isAllowed_ending, fun c inside => (commented entry isIn c inside).1⟩
  clear commented
  fun_induction marks entries with
  | case1 => exact List.forall_mem_nil _
  | case2 entry =>
    rw [List.forall_mem_singleton] at ofEntry ⊢
    exact ofEntry
  | case3 entry next rest ih =>
    rw [List.forall_mem_cons] at ofEntry ⊢
    refine ⟨⟨ofEntry.1.1.append (.emptyLine .nil), ?_⟩, ih ofEntry.2⟩
    rw [List.forall_mem_append]
    exact ⟨ofEntry.1.2, List.all_eq_true.mp rfl⟩

/-- **The path of an entry is a literal block with all its line breaks**: it takes in the empty lines
that come after it. -/
def Entry.takesIn (entry : Entry) : Bool :=
  Style.ofText entry.location = .literal && chompIndicator entry.location.toList = Chomp.keep.sign

/-- Only the empty lines at the start of a margin matter, and only to a path that takes them in. -/
theorem pair_eq {entry : Entry} {margin : List Char}
    (same : entry.takesIn = true → emptyLines margin = emptyLines entry.ending) :
    (Marked.mk entry margin).pair = entry.pair := by
  have location : readBack entry.location margin = readBack entry.location entry.ending := by
    rw [readBack, readBack]
    by_cases literal : Style.ofText entry.location = .literal
    · have kept : keptLines entry.location.toList margin =
          keptLines entry.location.toList entry.ending := by
        rw [keptLines, keptLines]
        split
        · rename_i keep
          exact same (by simp [Entry.takesIn, literal, keep])
        · rfl
      rw [kept]
    · rw [if_neg literal, if_neg literal]
  rw [Entry.pair, Marked.pair, Marked.pair, Marked.location, Marked.location, location]

/-- Comments start with a space, if there are any. -/
theorem Entry.comments_cases (entry : Entry) :
    entry.comments = "" ∨ ∃ rest, entry.comments.toList = ' ' :: rest := by
  rw [comments_eq]
  cases shownLines entry with
  | nil => exact .inl rfl
  | cons line shown => exact .inr ⟨_, toList_commentLines line shown⟩

/-- Comments end the empty lines after a block. -/
theorem emptyLines_before_comments {entry : Entry} (some : entry.comments ≠ "") (rest : List Char) :
    emptyLines (entry.ending ++ entry.comments.toList ++ rest) = emptyLines entry.ending := by
  obtain ⟨more, spaceFirst⟩ := entry.comments_cases.resolve_left some
  rw [spaceFirst, Entry.ending]
  split <;> rfl

theorem emptyLines_at_end (entry : Entry) :
    emptyLines (entry.ending ++ entry.comments.toList) = emptyLines entry.ending := by
  rcases entry.comments_cases with none | ⟨more, spaceFirst⟩
  · rw [none]
    exact congrArg emptyLines (List.append_nil _)
  · rw [spaceFirst, Entry.ending]
    split <;> rfl

/-- **Entries between which no path takes in an empty line say what their blocks say.** -/
theorem pair_marks {entries : List Entry}
    (closed : ∀ entry ∈ entries.dropLast, entry.takesIn = true → entry.comments ≠ "") :
    (marks entries).map Marked.pair = entries.map Entry.pair := by
  fun_induction marks entries with
  | case1 => rfl
  | case2 entry =>
    have last := pair_eq fun _ => emptyLines_at_end entry
    rw [List.map_singleton, List.map_singleton, last]
  | case3 entry next rest ih =>
    rw [List.dropLast_cons_cons, List.forall_mem_cons] at closed
    have first := pair_eq fun takesIn => emptyLines_before_comments (closed.1 takesIn) ['\n']
    rw [List.map_cons, List.map_cons, first, ih closed.2]

/-! ### Main results -/

/-- A document is read as what its blocks say. -/
theorem readWith_document {entries : List Entry} (some : entries ≠ [])
    (commented : ∀ entry ∈ entries, entry.Commented)
    (closed : ∀ entry ∈ entries.dropLast, entry.takesIn = true → entry.comments ≠ "") :
    readWith Site.content (document entries {}) = .ok (.map (entries.map Entry.pair)) := by
  have someMarks : marks entries ≠ [] := by
    intro none
    have sameLength := congrArg List.length (pair_marks closed)
    rw [none, List.length_map, List.length_map] at sameLength
    exact some (List.length_eq_zero_iff.mp sameLength.symm)
  have between := margin_of_mem_marks commented
  rw [document_eq some, readWith_marked opening (marks entries) margin_opening someMarks
    (fun marked isIn => (between marked isIn).1) isAllowed_opening
    (fun marked isIn => (between marked isIn).2), pair_marks closed]

/-- **A document is read as its blocks are**: every entry gives the pair that its block gives alone, in
order, and nothing else is read. The description has to be written as comments, and a path that is a
literal block with all its line breaks needs a comment or the end of the document after it. -/
theorem readWith_document_of_blocks {entries : List Entry} (some : entries ≠ [])
    (commented : ∀ entry ∈ entries, entry.Commented)
    (closed : ∀ entry ∈ entries.dropLast, entry.takesIn = true → entry.comments ≠ "") :
    ∃ pairs : List (Content × Content),
      List.Forall₂ (fun entry pair => readWith Site.content entry.block = .ok (.map [pair]))
        entries pairs ∧
      readWith Site.content (document entries {}) = .ok (.map pairs) := by
  refine ⟨entries.map Entry.pair, ?_, readWith_document some commented closed⟩
  rw [List.forall₂_map_right_iff, List.forall₂_same]
  exact fun entry _ => entry.readWith_block

/-- Entries whose paths keep their line breaks; the first has comments after it. -/
def describedEntries : List Entry :=
  [⟨"raw", "text.TextDataSet", "a\n\n", .some "First line\n\nSecond line: 1"⟩,
    ⟨"7", "null", "b\u2028\n\n", none⟩]

theorem readWith_document_of_blocks_described :
    ∃ pairs : List (Content × Content),
      List.Forall₂ (fun entry pair => readWith Site.content entry.block = .ok (.map [pair]))
        describedEntries pairs ∧
      readWith Site.content (document describedEntries {}) = .ok (.map pairs) :=
  readWith_document_of_blocks (List.cons_ne_nil _ _) (by decide +kernel) (by decide +kernel)

/-- The number of pairs that are read. -/
def pairCount : Except Error Content → Nat
  | .ok (.map pairs) => pairs.length
  | _ => 0

/-- An entry whose description has a carriage return in a line: what follows it leaves the comment. -/
def leakingEntry : Entry := ⟨"raw", "t", "p", some "first\rsecond: 1"⟩

/-- **A description can add a pair**: a break of YAML that ends no line of the description ends the
comment. -/
theorem document_of_leakingEntry :
    ¬ ∃ pairs : List (Content × Content),
      List.Forall₂ (fun entry pair => readWith Site.content entry.block = .ok (.map [pair]))
        [leakingEntry] pairs ∧
      readWith Site.content (document [leakingEntry] {}) = .ok (.map pairs) := by
  rintro ⟨pairs, each, whole⟩
  have two : pairCount (readWith Site.content (document [leakingEntry] {})) = 2 := by decide +kernel
  have one : 1 = pairs.length := each.length_eq
  rw [whole] at two
  have same : pairs.length = 2 := two
  omega

/-- **Texts on one line are read back as they are**: a document of entries without descriptions is the
mapping of their names to their types and paths, in order, and all of these are texts. -/
theorem readWith_document_of_lines {entries : List Entry} (some : entries ≠ [])
    (noDescription : ∀ entry ∈ entries, entry.description = none)
    (oneLine : ∀ entry ∈ entries, ∀ text ∈ [entry.name, entry.storageType, entry.location],
      isMultiline text.toList = false) :
    readWith Site.content (document entries {}) = .ok (.map (entries.map fun entry =>
      (.text entry.name,
        .map [(.text "type", .text entry.storageType), (.text "filepath", .text entry.location)]))) := by
  have notLiteral : ∀ entry ∈ entries, Style.ofText entry.location ≠ .literal := by
    intro entry isIn literal
    have allows := allows_ofText entry.location
    rw [literal] at allows
    cases allows with
    | literal feed _ =>
      have noBreak := oneLine entry isIn entry.location (by simp)
      rw [isMultiline, List.any_eq_false] at noBreak
      exact noBreak '\n' feed rfl
  have commented : ∀ entry ∈ entries, entry.Commented := by
    intro entry isIn c inside
    rw [Entry.comments, noDescription entry isIn] at inside
    cases inside
  have closed : ∀ entry ∈ entries.dropLast, entry.takesIn = true → entry.comments ≠ "" := by
    intro entry isIn takesIn
    simp [Entry.takesIn, notLiteral entry ((List.dropLast_sublist entries).mem isIn)] at takesIn
  rw [readWith_document some commented closed]
  refine congrArg (fun pairs => Except.ok (Content.map pairs)) (List.map_congr_left fun entry isIn => ?_)
  rw [Entry.pair, Marked.pair, Marked.location, readBack, if_neg (notLiteral entry isIn)]

/-- Names, types and paths that spell other values, comments, tags and collections. -/
theorem readWith_document_of_lines_tricky :
    readWith Site.content (document
      [⟨"", "null", "a: b #", none⟩, ⟨"? - x", "0x1f", "007", none⟩,
        ⟨"~", "&a [!t, *b]", "\t\x00'\"", none⟩] {}) =
      .ok (.map [
        (.text "", .map [(.text "type", .text "null"), (.text "filepath", .text "a: b #")]),
        (.text "? - x", .map [(.text "type", .text "0x1f"), (.text "filepath", .text "007")]),
        (.text "~",
          .map [(.text "type", .text "&a [!t, *b]"), (.text "filepath", .text "\t\x00'\"")])]) :=
  readWith_document_of_lines (List.cons_ne_nil _ _) (by decide) (by decide)

end PipelineGraph.Catalog
