/-
**Texts and their lines.**

A text is written as its lines, each ended by a line feed (`unlines`). A line without line feeds is told
apart from what follows it (`line_append_inj`), and a text on one line is its only line
(`splitLines_eq_singleton`). The lines of a text that ends with no line feed are what stands between its
line feeds, once carriage returns in front of these are left out (`splitOn_withFeeds`).
-/

import PipelineGraph.Text.Lines

namespace PipelineGraph.Text

/-! ### Lines that end with a line feed -/

/-- The lines of a text, each ended by a line feed. -/
def unlines (lines : List (List Char)) : List Char := lines.flatMap (· ++ ['\n'])

@[simp]
theorem unlines_nil : unlines [] = [] := rfl

theorem unlines_cons (line : List Char) (lines : List (List Char)) :
    unlines (line :: lines) = line ++ '\n' :: unlines lines := by
  rw [unlines, List.flatMap_cons, List.append_assoc]
  rfl

/-- Lines joined by line feeds and ended by one. -/
theorem toList_intercalate_lines {lines : List String} (some : lines ≠ []) :
    (String.intercalate "\n" lines).toList ++ ['\n'] = unlines (lines.map String.toList) := by
  induction lines with
  | nil => exact absurd rfl some
  | cons line lines ih =>
    cases lines with
    | nil => simp [unlines]
    | cons next lines =>
      rw [String.intercalate_cons_cons, List.map_cons, unlines_cons, ← ih (List.cons_ne_nil _ _)]
      simp

/-- What stands between the line feeds is the lines, and nothing after the last of them. -/
theorem splitOn_unlines {lines : List (List Char)} (oneLine : ∀ line ∈ lines, '\n' ∉ line) :
    (unlines lines).splitOn '\n' = lines ++ [[]] := by
  induction lines with
  | nil => rfl
  | cons line lines ih =>
    obtain ⟨inLine, later⟩ := List.forall_mem_cons.mp oneLine
    rw [unlines_cons, List.splitOn_append_cons_self_of_not_mem inLine, ih later]
    rfl

/-- An empty line after others is one line feed more. -/
theorem intercalate_append_nil {lines : List (List Char)} (some : lines ≠ []) :
    ['\n'].intercalate (lines ++ [[]]) = ['\n'].intercalate lines ++ ['\n'] := by
  induction lines with
  | nil => exact absurd rfl some
  | cons line lines ih =>
    cases lines with
    | nil => simp
    | cons next lines =>
      have later := ih (List.cons_ne_nil _ _)
      rw [List.cons_append, List.intercalate_cons_of_ne_nil (by simp), later,
        List.intercalate_cons_of_ne_nil (List.cons_ne_nil next lines), List.append_assoc,
        List.append_assoc, List.append_assoc]

/-- **A line tells itself apart** from what follows it. -/
theorem line_append_inj {line other rest more : List Char} (oneLine : '\n' ∉ line)
    (otherOneLine : '\n' ∉ other) (same : line ++ '\n' :: rest = other ++ '\n' :: more) :
    line = other ∧ rest = more := by
  have split := congrArg (List.splitOn '\n') same
  rw [List.splitOn_append_cons_self_of_not_mem oneLine,
    List.splitOn_append_cons_self_of_not_mem otherOneLine] at split
  obtain ⟨rfl, _⟩ := List.cons.inj split
  exact ⟨rfl, (List.cons.inj (List.append_cancel_left same)).2⟩

/-! ### The lines of a text -/

/-- A character that ends no line belongs to the first one. -/
theorem splitLines_cons {c : Char} {text : List Char} (notFeed : c ≠ '\n')
    (notReturn : c = '\r' → ∀ more, text ≠ '\n' :: more) :
    splitLines (c :: text) = consLine c (splitLines text) :=
  splitLines.eq_4 c text notFeed fun more isReturn feed => notReturn isReturn more feed

/-- The first line of a text is what the text starts with. -/
theorem prefix_of_splitLines {text line : List Char} {lines : List (List Char)}
    (split : splitLines text = line :: lines) : line <+: text := by
  fun_induction splitLines text generalizing line lines with
  | case1 => cases split
  | case2 =>
    cases split
    exact List.nil_prefix
  | case3 =>
    cases split
    exact List.nil_prefix
  | case4 c text _ _ ih =>
    cases later : splitLines text with
    | nil =>
      rw [later] at split
      cases split
      exact List.cons_prefix_cons.mpr ⟨rfl, List.nil_prefix⟩
    | cons first others =>
      rw [later] at split
      cases split
      exact List.cons_prefix_cons.mpr ⟨rfl, ih later⟩

/-- No line holds a line feed. -/
theorem noLineFeed_of_mem_splitLines {text : List Char} :
    ∀ line ∈ splitLines text, '\n' ∉ line := by
  fun_induction splitLines text with
  | case1 => exact List.forall_mem_nil _
  | case2 rest ih =>
    rw [List.forall_mem_cons]
    exact ⟨List.not_mem_nil, ih⟩
  | case3 rest ih =>
    rw [List.forall_mem_cons]
    exact ⟨List.not_mem_nil, ih⟩
  | case4 c rest notFeed _ ih =>
    have other : '\n' ≠ c := fun same => notFeed same.symm
    cases others : splitLines rest with
    | nil =>
      rw [consLine, List.forall_mem_singleton, List.mem_singleton]
      exact other
    | cons line more =>
      rw [others, List.forall_mem_cons] at ih
      rw [consLine, List.forall_mem_cons, List.mem_cons, not_or]
      exact ⟨⟨other, ih.1⟩, ih.2⟩

/-- A text on one line is its only line. -/
theorem splitLines_eq_singleton {text : List Char} (some : text ≠ []) (oneLine : '\n' ∉ text) :
    splitLines text = [text] := by
  induction text with
  | nil => exact absurd rfl some
  | cons c text ih =>
    obtain ⟨notFeed, later⟩ := not_or.mp (mt List.mem_cons.mpr oneLine)
    have notReturn : c = '\r' → ∀ more, text ≠ '\n' :: more := by
      rintro _ more rfl
      exact later List.mem_cons_self
    rw [splitLines_cons (Ne.symm notFeed) notReturn]
    cases text with
    | nil => rfl
    | cons d text =>
      rw [ih (List.cons_ne_nil _ _) later]
      rfl

/-- The text with each carriage return left out that stands before a line feed. -/
def withFeeds : List Char → List Char
  | [] => []
  | '\r' :: '\n' :: rest => '\n' :: withFeeds rest
  | c :: rest => c :: withFeeds rest

/-- A text that does not end with a line feed goes on after its first one. -/
theorem getLast?_of_feed {rest : List Char} {c : Char} (notFeed : c ≠ '\n')
    (last : ('\n' :: rest).getLast? = some c) : rest.getLast? = some c := by
  cases rest with
  | nil => exact absurd (Option.some.inj last).symm notFeed
  | cons d rest => rwa [List.getLast?_cons_cons] at last

/-- **The lines of a text are what stands between its line feeds**, if it does not end with one. -/
theorem splitOn_withFeeds {text : List Char} {c : Char} (last : text.getLast? = some c)
    (notFeed : c ≠ '\n') : (withFeeds text).splitOn '\n' = splitLines text := by
  fun_induction splitLines text with
  | case1 => cases last
  | case2 rest ih =>
    have first : withFeeds ('\n' :: rest) = '\n' :: withFeeds rest :=
      withFeeds.eq_3 '\n' rest fun _ isReturn => absurd isReturn (by decide)
    rw [first, List.splitOn_cons_eq_if_modifyHead, if_pos (beq_self_eq_true _),
      ih (getLast?_of_feed notFeed last)]
  | case3 rest ih =>
    rw [List.getLast?_cons_cons] at last
    rw [withFeeds, List.splitOn_cons_eq_if_modifyHead, if_pos (beq_self_eq_true _),
      ih (getLast?_of_feed notFeed last)]
  | case4 d rest other noReturn ih =>
    rw [withFeeds.eq_3 d rest noReturn, List.splitOn_cons_eq_if_modifyHead,
      if_neg (mt eq_of_beq other)]
    cases rest with
    | nil => rfl
    | cons e rest =>
      rw [List.getLast?_cons_cons] at last
      have between := ih last
      cases lines : splitLines (e :: rest) with
      | nil =>
        rw [lines] at between
        exact absurd between (List.splitOn_ne_nil _ _)
      | cons line lines' =>
        rw [between, lines]
        rfl

end PipelineGraph.Text
