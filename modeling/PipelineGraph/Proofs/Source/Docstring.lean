/-
**What a docstring holds.**

User text stands in a docstring with a backslash before each of three quotes in a row, line by line.
However its backslashes and quotes fall, no line of it ends the docstring, and the next line is read as if
the docstring had just been opened (`scan_escapedLine`, `scan_escapedLines`). It makes no difference
whether a text is split into lines before or after the backslashes are put in (`splitLines_escapeTriples`).
-/

import PipelineGraph.Proofs.Source.Reading
import PipelineGraph.Proofs.Text.Lines
import PipelineGraph.Source.Docstring

namespace PipelineGraph.Source

open Text (unlines unlines_cons splitLines)

/-! ### Three quotes in a row -/

/-- The text does not start with three quotes. -/
theorem not_marks_prefix {c : Char} {text : List Char}
    (few : ∀ later, c = '"' → text = '"' :: '"' :: later → False) :
    ¬ Quotes.triple.marks <+: c :: text := by
  rintro ⟨later, same⟩
  obtain ⟨quote, quotes⟩ := List.cons.inj same
  exact few later quote.symm quotes.symm

/-- A text that does not start with three quotes keeps its first character. -/
theorem escapeTriples_cons {c : Char} {text : List Char} (few : ¬ Quotes.triple.marks <+: c :: text) :
    escapeTriples (c :: text) = c :: escapeTriples text := by
  refine escapeTriples.eq_2 c text fun later quote quotes => few ?_
  exact ⟨later, by rw [quote, quotes]; rfl⟩

/-- What is written for a text starts as the text does, or with a backslash. -/
theorem exists_of_escapeTriples_eq {text more : List Char} {c : Char} (notBackslash : c ≠ '\\')
    (same : escapeTriples text = c :: more) : ∃ later, text = c :: later ∧ more = escapeTriples later := by
  unfold escapeTriples at same
  split at same
  · exact absurd (List.cons.inj same).1.symm notBackslash
  · rename_i d later _
    obtain ⟨rfl, ends⟩ := List.cons.inj same
    exact ⟨later, rfl, ends.symm⟩
  · cases same

/-- A line starts as the text that it is written for, unless it starts with a backslash. -/
theorem exists_of_escapedLine_eq {text rest more : List Char} {c : Char} (notBackslash : c ≠ '\\')
    (notFeed : c ≠ '\n') (same : escapeTriples text ++ '\n' :: rest = c :: more) :
    ∃ later, text = c :: later ∧ more = escapeTriples later ++ '\n' :: rest := by
  cases written : escapeTriples text with
  | nil =>
    rw [written] at same
    exact absurd (List.cons.inj same).1.symm notFeed
  | cons d line =>
    rw [written] at same
    obtain ⟨rfl, ends⟩ := List.cons.inj same
    obtain ⟨later, rfl, rfl⟩ := exists_of_escapeTriples_eq notBackslash written
    exact ⟨later, rfl, ends.symm⟩

/-- A text that does not start with three quotes is not written with three quotes at its start. -/
theorem few_escapeTriples {text : List Char} (few : ¬ Quotes.triple.marks <+: '"' :: text)
    (rest : List Char) : ¬ Quotes.triple.marks <+: '"' :: (escapeTriples text ++ '\n' :: rest) := by
  rintro ⟨more, same⟩
  obtain ⟨later, rfl, ends⟩ := exists_of_escapedLine_eq (by decide) (by decide)
    (List.cons.inj same).2.symm
  obtain ⟨last, rfl, _⟩ := exists_of_escapedLine_eq (by decide) (by decide) ends.symm
  exact few ⟨last, rfl⟩

/-- **A line of escaped text is passed**, whatever came before it on the line, and nothing of it is left
for the next line: a backslash at its end takes the end of the line along. -/
theorem scan_escapedLine (escaped : Bool) (text rest : List Char) :
    scan .triple escaped (escapeTriples text ++ '\n' :: rest) =
      (scan .triple false rest).map fun found => (escapeTriples text ++ '\n' :: found.1, found.2) := by
  fun_induction escapeTriples text generalizing escaped with
  | case1 text ih =>
    simp only [List.cons_append]
    cases escaped with
    | false =>
      rw [scan_pair rfl, scan_pair rfl, scan_pair rfl, ih, Option.map_map, Option.map_map,
        Option.map_map]
      rfl
    | true =>
      -- The first backslash is taken along, so the first quote stands alone.
      rw [scan_escaped rfl, scan_quote (by simp [Quotes.marks]), scan_pair rfl, scan_pair rfl, ih,
        Option.map_map, Option.map_map, Option.map_map, Option.map_map]
      rfl
  | case2 c text few ih =>
    rw [List.cons_append]
    cases escaped with
    | true =>
      rw [scan_escaped rfl, ih, Option.map_map]
      rfl
    | false =>
      have few := not_marks_prefix few
      by_cases backslash : c = '\\'
      · rw [backslash, scan_backslash, ih, Option.map_map]
        rfl
      · by_cases quote : c = '"'
        · rw [quote] at few ⊢
          rw [scan_quote (few_escapeTriples few rest), ih, Option.map_map]
          rfl
        · rw [scan_other backslash quote rfl, ih, Option.map_map]
          rfl
  | case3 =>
    cases escaped with
    | false => exact scan_other (by decide) (by decide) rfl rest
    | true => exact scan_escaped rfl rest

/-- **Lines of escaped text are passed**, each with its end. -/
theorem scan_escapedLines {lines : List (List Char)}
    (escaped : ∀ line ∈ lines, ∃ text, line = escapeTriples text) (rest : List Char) :
    scan .triple false (unlines lines ++ rest) =
      (scan .triple false rest).map fun found => (unlines lines ++ found.1, found.2) := by
  induction lines with
  | nil => cases ends : scan .triple false rest <;> simp [ends]
  | cons line lines ih =>
    obtain ⟨⟨text, rfl⟩, later⟩ := List.forall_mem_cons.mp escaped
    rw [unlines_cons, List.append_assoc, List.cons_append, scan_escapedLine, ih later, Option.map_map]
    simp only [List.append_assoc, List.cons_append]
    rfl

/-! ### The lines of a text -/

/-- Spaces before a text are written as they are. -/
theorem escapeTriples_replicate_append (width : Nat) (text : List Char) :
    escapeTriples (List.replicate width ' ' ++ text) =
      List.replicate width ' ' ++ escapeTriples text := by
  induction width with
  | zero => rfl
  | succ width ih =>
    have few : ¬ Quotes.triple.marks <+: ' ' :: (List.replicate width ' ' ++ text) := by
      simp [Quotes.marks]
    rw [List.replicate_succ, List.cons_append, escapeTriples_cons few, ih, List.cons_append]

/-- A line of escaped text that is moved right is a line of escaped text. -/
theorem exists_indentLine_eq (width : Nat) (text : List Char) :
    ∃ moved, Text.indentLine width (escapeTriples text) = escapeTriples moved := by
  unfold Text.indentLine
  split
  · exact ⟨[], rfl⟩
  · exact ⟨_, (escapeTriples_replicate_append width text).symm⟩

/-- A character before the first line goes on with the line if it is not one of three quotes. -/
theorem map_escapeTriples_consLine {c : Char} {text : List Char}
    (few : ¬ Quotes.triple.marks <+: c :: text) :
    (Text.consLine c (splitLines text)).map escapeTriples =
      Text.consLine c ((splitLines text).map escapeTriples) := by
  cases split : splitLines text with
  | nil =>
    have alone : ¬ Quotes.triple.marks <+: [c] := by simp [Quotes.marks]
    exact congrArg (fun line => [line]) (escapeTriples_cons alone)
  | cons line lines =>
    have fewInLine : ¬ Quotes.triple.marks <+: c :: line := fun quotes =>
      few (quotes.trans (List.cons_prefix_cons.mpr ⟨rfl, Text.prefix_of_splitLines split⟩))
    exact congrArg (fun line => line :: lines.map escapeTriples) (escapeTriples_cons fewInLine)

/-- **The lines of an escaped text are the lines of the text, escaped.** -/
theorem splitLines_escapeTriples (text : List Char) :
    splitLines (escapeTriples text) = (splitLines text).map escapeTriples := by
  fun_induction escapeTriples text with
  | case1 text ih =>
    have plain : ∀ {c : Char}, c ≠ '\n' → c ≠ '\r' → ∀ more : List Char,
        splitLines (c :: more) = Text.consLine c (splitLines more) :=
      fun notFeed notReturn more => Text.splitLines_cons notFeed fun same => absurd same notReturn
    simp only [plain (c := '"') (by decide) (by decide), plain (c := '\\') (by decide) (by decide), ih]
    cases splitLines text <;> rfl
  | case2 c text few ih =>
    have few := not_marks_prefix few
    by_cases feed : c = '\n'
    · rw [feed, splitLines, splitLines, List.map_cons, ih]
      rfl
    · by_cases ends : c = '\r' ∧ ∃ more, text = '\n' :: more
      · obtain ⟨rfl, more, rfl⟩ := ends
        have feedFirst : escapeTriples ('\n' :: more) = '\n' :: escapeTriples more :=
          escapeTriples_cons (by simp [Quotes.marks])
        rw [feedFirst] at ih ⊢
        exact ih
      · have notReturn : c = '\r' → ∀ more, text ≠ '\n' :: more :=
          fun isReturn more feed => ends ⟨isReturn, more, feed⟩
        have notReturn' : c = '\r' → ∀ more, escapeTriples text ≠ '\n' :: more := by
          intro isReturn more same
          obtain ⟨later, feed, _⟩ := exists_of_escapeTriples_eq (by decide) same
          exact notReturn isReturn later feed
        rw [Text.splitLines_cons feed notReturn', Text.splitLines_cons feed notReturn, ih,
          map_escapeTriples_consLine few]
  | case3 => rfl

end PipelineGraph.Source
