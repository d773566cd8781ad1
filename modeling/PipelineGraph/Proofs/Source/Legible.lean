/-
**What a docstring says.**

The backslashes of user text are left as they are in a docstring, and a reader takes them for escapes. A
text is legible where each of its backslashes stands for itself, before a character with which it makes no
escape or before three quotes, which get backslashes of their own. Line by line, a docstring says what
was written if that is legible (`decode_legible`), and something shorter or nothing at all if it is not
(`firstLine_length`).

Both follow from what is read of one piece of a text (`begins`): a piece that is kept, or a change that
leaves less than there was.
-/

import Mathlib.Data.List.TakeWhile
import PipelineGraph.Proofs.Source.Docstring

namespace PipelineGraph.Source

open Yaml (hexDigit?)
open Text (unlines unlines_cons)

variable {names : CharacterNames}

/-! ### Legible texts -/

/-- **Each backslash of a text stands for itself** in a docstring: three quotes follow, or a character with
which it makes no escape. -/
def isLegible : List Char → Bool
  | [] => true
  | c :: rest =>
    (c ≠ '\\' || Quotes.triple.marks.isPrefixOf rest ||
      rest.head?.any fun next => Escape.ofChar next = .plain) && isLegible rest

/-- A text without backslashes is legible. -/
theorem isLegible_of_notMem {text : List Char} (plain : '\\' ∉ text) : isLegible text = true := by
  induction text with
  | nil => rfl
  | cons c text ih =>
    obtain ⟨other, later⟩ := not_or.mp (mt List.mem_cons.mpr plain)
    simp [isLegible, Ne.symm other, ih later]

/-- The code points of a text up to the end of its first line. -/
def firstLine (points : List Nat) : List Nat := points.takeWhile (· ≠ '\n'.toNat)

/-! ### Escapes in a line of user text -/

theorem readHex_escapedLine {width value : Nat} {text : List Char} {found : Nat × List Char}
    (isRead : readHex width value (escapeTriples text ++ ['\n']) = some found) :
    ∃ later, found.2 = escapeTriples later ++ ['\n'] ∧ later.length ≤ text.length := by
  induction width generalizing value text with
  | zero =>
    cases isRead
    exact ⟨text, rfl, Nat.le_refl _⟩
  | succ width ih =>
    cases line : escapeTriples text ++ ['\n'] with
    | nil => simp at line
    | cons c more =>
      rw [line] at isRead
      obtain ⟨digit, isDigit, isRead⟩ := Option.bind_eq_some_iff.mp isRead
      have notBackslash : c ≠ '\\' := by
        rintro rfl
        cases isDigit
      have notFeed : c ≠ '\n' := by
        rintro rfl
        cases isDigit
      obtain ⟨later, rfl, rfl⟩ := exists_of_escapedLine_eq notBackslash notFeed line
      obtain ⟨last, ends, shorter⟩ := ih isRead
      exact ⟨last, ends, Nat.le_succ_of_le shorter⟩

theorem readOctal_escapedLine (width value : Nat) (text : List Char) :
    ∃ later, (readOctal width value (escapeTriples text ++ ['\n'])).2 =
      escapeTriples later ++ ['\n'] ∧ later.length ≤ text.length := by
  induction width generalizing value text with
  | zero => exact ⟨text, rfl, Nat.le_refl _⟩
  | succ width ih =>
    cases line : escapeTriples text ++ ['\n'] with
    | nil => simp at line
    | cons c more =>
      rw [readOctal]
      split
      · rename_i isDigit
        have notBackslash : c ≠ '\\' := by
          rintro rfl
          cases isDigit
        have notFeed : c ≠ '\n' := by
          rintro rfl
          cases isDigit
        obtain ⟨later, rfl, rfl⟩ := exists_of_escapedLine_eq notBackslash notFeed line
        obtain ⟨last, ends, shorter⟩ := ih _ later
        exact ⟨last, ends, Nat.le_succ_of_le shorter⟩
      · exact ⟨text, line.symm, Nat.le_refl _⟩

theorem toBrace_escapedLine {text : List Char} {found : List Char × List Char}
    (closes : toBrace (escapeTriples text ++ ['\n']) = some found) :
    ∃ later, found.2 = escapeTriples later ++ ['\n'] ∧ later.length ≤ text.length := by
  fun_induction escapeTriples text generalizing found with
  | case1 text ih =>
    have noBrace : ∀ {c : Char}, c ≠ '}' → ∀ more, toBrace (c :: more) =
        (toBrace more).map fun found => (c :: found.1, found.2) := fun other more => by
      rw [toBrace, if_neg other]
    simp only [List.cons_append, noBrace (c := '"') (by decide), noBrace (c := '\\') (by decide),
      Option.map_map] at closes
    obtain ⟨inside, closesLater, rfl⟩ := Option.map_eq_some_iff.mp closes
    obtain ⟨later, ends, shorter⟩ := ih closesLater
    exact ⟨later, ends, Nat.le_trans shorter (Nat.le_add_right _ 3)⟩
  | case2 c text few ih =>
    rw [List.cons_append, toBrace] at closes
    split at closes
    · cases closes
      exact ⟨text, rfl, Nat.le_succ _⟩
    · obtain ⟨inside, closesLater, rfl⟩ := Option.map_eq_some_iff.mp closes
      obtain ⟨later, ends, shorter⟩ := ih closesLater
      exact ⟨later, ends, Nat.le_succ_of_le shorter⟩
  | case3 => cases closes

theorem readName_escapedLine {text : List Char} {found : Nat × List Char}
    (isRead : readName names (escapeTriples text ++ ['\n']) = some found) :
    ∃ later, found.2 = escapeTriples later ++ ['\n'] ∧ later.length ≤ text.length := by
  cases line : escapeTriples text ++ ['\n'] with
  | nil => simp at line
  | cons c more =>
    rw [line] at isRead
    obtain ⟨rfl, isRead⟩ := Option.ite_none_right_eq_some.mp isRead
    obtain ⟨opened, rfl, rfl⟩ := exists_of_escapedLine_eq (by decide) (by decide) line
    obtain ⟨⟨name, after⟩, closes, isRead⟩ := Option.bind_eq_some_iff.mp isRead
    obtain ⟨point, _, isRead⟩ := Option.bind_eq_some_iff.mp isRead
    cases isRead
    obtain ⟨later, ends, shorter⟩ := toBrace_escapedLine closes
    exact ⟨later, ends, Nat.le_succ_of_le shorter⟩

theorem isOctal_of_ofChar {c : Char} (octal : Escape.ofChar c = .octal) : isOctal c = true := by
  unfold Escape.ofChar at octal
  split at octal <;> simp_all

/-- **An escape stands for one code point at most** and ends where a piece of the text ends, if the
character after the backslash belongs to it. -/
theorem readEscape_escapedLine {c : Char} {text : List Char} (escapes : Escape.ofChar c ≠ .plain)
    {found : List Nat × List Char}
    (isRead : readEscape names (c :: (escapeTriples text ++ ['\n'])) = some found) :
    ∃ later, found.2 = escapeTriples later ++ ['\n'] ∧ found.1.length ≤ 1 ∧
      later.length ≤ text.length := by
  rw [readEscape] at isRead
  split at isRead
  · cases isRead
    exact ⟨text, rfl, Nat.zero_le 1, Nat.le_refl _⟩
  · cases isRead
    exact ⟨text, rfl, Nat.le_refl 1, Nat.le_refl _⟩
  · obtain ⟨⟨point, after⟩, digits, isRead⟩ := Option.bind_eq_some_iff.mp isRead
    obtain ⟨_, isRead⟩ := Option.ite_none_right_eq_some.mp isRead
    cases isRead
    obtain ⟨later, ends, shorter⟩ := readHex_escapedLine digits
    exact ⟨later, ends, Nat.le_refl 1, shorter⟩
  · rename_i octal
    cases isRead
    show ∃ later, (readOctal 3 0 (c :: (escapeTriples text ++ ['\n']))).2 = _ ∧ _
    rw [readOctal, if_pos (isOctal_of_ofChar octal)]
    obtain ⟨later, ends, shorter⟩ := readOctal_escapedLine 2 _ text
    exact ⟨later, ends, Nat.le_refl 1, shorter⟩
  · obtain ⟨⟨point, after⟩, named, isRead⟩ := Option.bind_eq_some_iff.mp isRead
    cases isRead
    obtain ⟨later, ends, shorter⟩ := readName_escapedLine named
    exact ⟨later, ends, Nat.le_refl 1, shorter⟩
  · rename_i plain
    exact absurd plain escapes

/-! ### Piece by piece -/

/-- **What is decoded of the first piece of a line of user text.** -/
inductive Begins (names : CharacterNames) : List Char → Prop
  /-- A piece stands for itself. -/
  | kept (piece later : List Char) (some : piece ≠ [])
      (legible : isLegible (piece ++ later) = isLegible later)
      (decoded : decode names (escapeTriples (piece ++ later) ++ ['\n']) =
        (decode names (escapeTriples later ++ ['\n'])).map (piece.map Char.toNat ++ ·)) :
      Begins names (piece ++ later)
  /-- A piece stands for something shorter, if the line is decoded at all. -/
  | changed {text : List Char} (illegible : isLegible text = false)
      (shorter : ∀ {points}, decode names (escapeTriples text ++ ['\n']) = some points →
        ∃ front more later, points = front ++ more ∧ front.length + later.length < text.length ∧
          (more = [] ∨ decode names (escapeTriples later ++ ['\n']) = some more)) :
      Begins names text

theorem decode_triple (names : CharacterNames) (rest : List Char) :
    decode names ('\\' :: '"' :: '\\' :: '"' :: '\\' :: '"' :: rest) =
      (decode names rest).map (Quotes.triple.marks.map Char.toNat ++ ·) := by
  have quote : Escape.ofChar '"' = .sign '"'.toNat := rfl
  rw [decode_sign names quote, decode_sign names quote, decode_sign names quote, Option.map_map,
    Option.map_map]
  rfl

/-- A backslash stands for itself, or for something else together with what follows it. -/
theorem begins_backslash (names : CharacterNames) (text : List Char) : Begins names ('\\' :: text) := by
  have written : ∀ more : List Char, escapeTriples ('\\' :: more) = '\\' :: escapeTriples more :=
    fun more => escapeTriples_cons (by simp [Quotes.marks])
  by_cases quotes : Quotes.triple.marks <+: text
  · obtain ⟨later, rfl⟩ := quotes
    have backslash : Escape.ofChar '\\' = .sign '\\'.toNat := rfl
    have quote : Escape.ofChar '"' = .sign '"'.toNat := rfl
    have escaped : escapeTriples ('\\' :: (Quotes.triple.marks ++ later)) =
        '\\' :: '\\' :: '"' :: '\\' :: '"' :: '\\' :: '"' :: escapeTriples later := written _
    refine .kept ('\\' :: Quotes.triple.marks) later (List.cons_ne_nil _ _)
      (by simp [isLegible, Quotes.marks]) ?_
    simp only [List.cons_append, escaped]
    rw [decode_sign names backslash, decode_cons names (by decide),
      decode_sign names quote, decode_sign names quote, Option.map_map, Option.map_map,
      Option.map_map]
    rfl
  · cases text with
    | nil =>
      refine .changed rfl fun {points} isRead => ⟨[], [], [], ?_, Nat.zero_lt_one, .inl rfl⟩
      have none : decode names ['\\', '\n'] = some [] := by
        rw [decode_backslash]
        exact congrArg (Option.map _) (decode_nil names)
      exact (Option.some.inj (none.symm.trans isRead)).symm
    | cons c text =>
      have line : escapeTriples ('\\' :: c :: text) ++ ['\n'] =
          '\\' :: c :: (escapeTriples text ++ ['\n']) := by
        rw [written, escapeTriples_cons quotes]
        rfl
      by_cases plain : Escape.ofChar c = .plain
      · have notBackslash : c ≠ '\\' := by
          rintro rfl
          cases plain
        refine .kept ['\\', c] text (List.cons_ne_nil _ _)
          (by simp [isLegible, plain, notBackslash]) ?_
        exact (congrArg (decode names) line).trans (decode_plain names plain _)
      · refine .changed (by simp [isLegible, plain, quotes]) fun {points} isRead => ?_
        rw [line, decode_backslash] at isRead
        obtain ⟨found, escape, isRead⟩ := Option.bind_eq_some_iff.mp isRead
        obtain ⟨more, readMore, rfl⟩ := Option.map_eq_some_iff.mp isRead
        obtain ⟨later, ends, one, shorter⟩ := readEscape_escapedLine plain escape
        refine ⟨found.1, more, later, rfl, ?_, .inr (ends ▸ readMore)⟩
        simp only [List.length_cons]
        omega

/-- A line begins with one of these pieces: three quotes, another character that is no backslash, or a
backslash with what makes it stand for itself or for something else. -/
theorem begins (names : CharacterNames) {text : List Char} (some : text ≠ []) : Begins names text := by
  obtain ⟨c, text, rfl⟩ := List.exists_cons_of_ne_nil some
  by_cases quotes : Quotes.triple.marks <+: c :: text
  · obtain ⟨later, same⟩ := quotes
    rw [← same]
    refine .kept Quotes.triple.marks later (List.cons_ne_nil _ _) (by simp [isLegible, Quotes.marks]) ?_
    exact decode_triple names _
  · by_cases backslash : c = '\\'
    · rw [backslash]
      exact begins_backslash names text
    · refine .kept [c] text (List.cons_ne_nil _ _) (by simp [isLegible, backslash]) ?_
      rw [List.singleton_append, escapeTriples_cons quotes, List.cons_append,
        decode_cons names backslash]
      rfl

/-- A kept piece leaves less of the text. -/
theorem length_lt_of_piece {piece : List Char} (some : piece ≠ []) (later : List Char) :
    later.length < (piece ++ later).length := by
  have positive := List.length_pos_iff.mpr some
  rw [List.length_append]
  omega

/-! ### Line by line -/

theorem decode_lineEnd (names : CharacterNames) : decode names ['\n'] = some ['\n'.toNat] := by
  rw [decode_cons names (by decide), decode_nil]
  rfl

/-- **A legible line is decoded as it was written.** -/
theorem decode_legible (names : CharacterNames) {text : List Char} (legible : isLegible text = true) :
    decode names (escapeTriples text ++ ['\n']) = some (text.map Char.toNat ++ ['\n'.toNat]) := by
  induction size : text.length using Nat.strongRecOn generalizing text with
  | ind n ih =>
    by_cases empty : text = []
    · rw [empty]
      exact decode_lineEnd names
    · cases begins names empty with
      | kept piece later nonempty same decoded =>
        have shorter := length_lt_of_piece nonempty later
        rw [decoded, ih later.length (size ▸ shorter) (same ▸ legible) rfl, Option.map_some,
          List.map_append, List.append_assoc]
      | changed illegible _ => exact absurd legible (Bool.eq_false_iff.mp illegible)

theorem firstLine_append_length (points more : List Nat) :
    (firstLine (points ++ more)).length ≤ points.length + (firstLine more).length := by
  induction points with
  | nil => exact Nat.le_add_left _ _
  | cons point points ih =>
    rw [List.cons_append, firstLine, List.takeWhile_cons]
    split
    · rw [List.length_cons, List.length_cons, Nat.add_right_comm]
      exact Nat.succ_le_succ ih
    · exact Nat.zero_le _

/-- **Where a line is not legible, its first line is shorter** than what was written, if it is decoded at
all. -/
theorem firstLine_length {text : List Char} {points : List Nat}
    (isRead : decode names (escapeTriples text ++ ['\n']) = some points) :
    (firstLine points).length ≤ text.length ∧
      (isLegible text = false → (firstLine points).length < text.length) := by
  induction size : text.length using Nat.strongRecOn generalizing text points with
  | ind n ih =>
    by_cases empty : text = []
    · rw [empty, escapeTriples, List.nil_append, decode_lineEnd] at isRead
      cases isRead
      rw [empty]
      exact ⟨Nat.zero_le _, fun illegible => Bool.noConfusion illegible⟩
    · cases begins names empty with
      | kept piece later nonempty same decoded =>
        rw [decoded] at isRead
        obtain ⟨more, readMore, rfl⟩ := Option.map_eq_some_iff.mp isRead
        have shorter := length_lt_of_piece nonempty later
        obtain ⟨most, fewer⟩ := ih later.length (size ▸ shorter) readMore rfl
        have longest := firstLine_append_length (piece.map Char.toNat) more
        rw [List.length_map] at longest
        rw [List.length_append] at size
        rw [same]
        exact ⟨by omega, fun illegible => by have := fewer illegible; omega⟩
      | changed illegible shorter =>
        obtain ⟨front, more, later, rfl, less, ends⟩ := shorter isRead
        have longest := firstLine_append_length front more
        have most : (firstLine more).length ≤ later.length := by
          rcases ends with rfl | readMore
          · exact Nat.zero_le _
          · exact (ih later.length (by omega) readMore rfl).1
        exact ⟨by omega, fun _ => by omega⟩

/-- **Lines are decoded one by one.** -/
theorem decode_unlines_append_isSome (lines : List (List Char)) (rest : List Char) :
    (decode names (unlines lines ++ rest)).isSome = true ↔
      (∀ line ∈ lines, (decode names (line ++ ['\n'])).isSome = true) ∧
        (decode names rest).isSome = true := by
  induction lines with
  | nil => simp
  | cons line lines ih =>
    rw [unlines_cons, List.append_assoc, List.cons_append, decode_line_append, List.forall_mem_cons,
      and_assoc, ← ih]
    cases decode names (line ++ ['\n']) <;> simp

theorem firstLine_append_lineEnd (points more : List Nat) :
    firstLine (points ++ '\n'.toNat :: more) = firstLine points := by
  induction points with
  | nil => rfl
  | cons point points ih =>
    rw [List.cons_append, firstLine, firstLine, List.takeWhile_cons, List.takeWhile_cons]
    split
    · exact congrArg (point :: ·) ih
    · rfl

/-- A text on one line is its own first line. -/
theorem firstLine_map_toNat {text : List Char} (oneLine : '\n' ∉ text) :
    firstLine (text.map Char.toNat) = text.map Char.toNat := by
  rw [firstLine, List.takeWhile_eq_self_iff]
  intro point inside
  obtain ⟨c, isIn, rfl⟩ := List.mem_map.mp inside
  have other : c ≠ '\n' := fun same => oneLine (same ▸ isIn)
  exact decide_eq_true fun same => other (Char.toNat_inj.mp same)

/-- **A docstring that opens with a text and an empty line says the text in its first line** exactly when
the text is legible and the escapes of the other lines are complete. -/
theorem firstLine_docstring_iff (names : CharacterNames) {text : List Char} (oneLine : '\n' ∉ text)
    (lines : List (List Char)) (rest : List Char) :
    (∃ points, decode names (unlines (escapeTriples text :: [] :: lines) ++ rest) = some points ∧
        firstLine points = text.map Char.toNat) ↔
      isLegible text = true ∧ (∀ line ∈ lines, (decode names (line ++ ['\n'])).isSome = true) ∧
        (decode names rest).isSome = true := by
  rw [← decode_unlines_append_isSome]
  have split : decode names (unlines (escapeTriples text :: [] :: lines) ++ rest) =
      (decode names (escapeTriples text ++ ['\n'])).bind fun first =>
        (decode names (unlines lines ++ rest)).map fun later => first ++ '\n'.toNat :: later := by
    rw [unlines_cons, unlines_cons, List.append_assoc, List.cons_append, decode_line_append,
      List.nil_append, List.cons_append, decode_cons names (by decide)]
    simp only [Option.map_map]
    rfl
  rw [split]
  constructor
  · rintro ⟨points, isRead, spelled⟩
    obtain ⟨first, readFirst, isRead⟩ := Option.bind_eq_some_iff.mp isRead
    obtain ⟨later, readLater, rfl⟩ := Option.map_eq_some_iff.mp isRead
    rw [firstLine_append_lineEnd] at spelled
    have whole := (firstLine_length readFirst).2
    rw [spelled, List.length_map] at whole
    refine ⟨Bool.of_not_eq_false fun illegible => Nat.lt_irrefl _ (whole illegible), ?_⟩
    rw [readLater]
    rfl
  · rintro ⟨legible, decoded⟩
    obtain ⟨later, readLater⟩ := Option.isSome_iff_exists.mp decoded
    refine ⟨_, by rw [decode_legible names legible, readLater]; rfl, ?_⟩
    rw [firstLine_append_lineEnd, firstLine_append_lineEnd, firstLine_map_toNat oneLine]

end PipelineGraph.Source
