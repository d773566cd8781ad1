/-
**Literal blocks are read back.**

A reader of a literal block holds the breaks after a line back until the next line starts; what it has
given back and what it holds back together are the text so far (`readBlock_literalChars`). At the end
the three ways to treat the breaks held back fit the three ways in which a text can end: without a
break, with one break after a line, and with anything else. Only in the last case does the block take in
the empty lines of the margin after it.

* `readBlockScalar_literal` — a literal block with its header and the margin after it.
-/

import PipelineGraph.Proofs.Yaml.FlowScalar

namespace PipelineGraph.Yaml

/-! ### The lines of a block -/

section

variable {chomp : Chomp} {least : Nat} {state : BlockState} {mark : Mark} {rest : List Char}

/-- Inside a line every character is given back. -/
theorem readBlock_inLine (inLine : state.inLine = true) {c : Char} (notBreak : isBreak c = false) :
    readBlock false chomp least state mark (c :: rest) =
      andThen [c] (readBlock false chomp least state (mark.skip 1) rest) := by
  have notReturn := not_return_of_not_break notBreak
  rw [readBlock_cons notReturn, if_neg (by rw [notBreak]; decide), if_pos inLine]
  rfl

/-- A line starts at the column of the lines, with the breaks before it. -/
theorem readBlock_start (notInLine : state.inLine = false) (known : 0 < state.indent)
    (place : mark.column = state.indent) {c : Char} (notBreak : isBreak c = false) :
    readBlock false chomp least state mark (c :: rest) =
      andThen (state.leading ++ state.trailing ++ [c])
        (readBlock false chomp least
          { indent := state.indent, afterBlank := isBlank c, inLine := true } (mark.skip 1) rest) := by
  have notReturn := not_return_of_not_break notBreak
  have notInIndent : state.inIndent mark.column = false := by
    rw [BlockState.inIndent, place, Bool.or_eq_false_iff, decide_eq_false_iff_not,
      decide_eq_false_iff_not]
    omega
  have settled : state.settle least mark.column = state.indent := by
    rw [BlockState.settle, if_neg (by omega)]
  rw [readBlock_cons notReturn, if_neg (by rw [notBreak]; decide), if_neg (by rw [notInLine]; decide),
    if_neg (by simp [notInIndent]), if_neg (by simp [notInIndent])]
  simp only [settled, if_pos place]
  refine congrArg (Option.map · _) (funext fun read => ?_)
  show (state.leading ++ state.trailing ++ c :: read.1, read.2) = _
  rw [List.append_cons]

end

/-- The breaks that a reader of a block holds back. -/
def BlockState.pending (state : BlockState) : List Char :=
  if state.inLine then [] else state.leading ++ state.trailing

theorem BlockState.pending_breakLine (state : BlockState) (column : Nat) (text : List Char) :
    (state.breakLine column text).pending = state.pending ++ text := by
  cases inLine : state.inLine <;> simp [BlockState.breakLine, BlockState.pending, inLine]

theorem BlockState.inLine_breakLine (state : BlockState) (column : Nat) (text : List Char) :
    (state.breakLine column text).inLine = false := by
  cases inLine : state.inLine <;> simp [BlockState.breakLine, inLine]

theorem BlockState.indent_breakLine (state : BlockState) (column : Nat) (text : List Char) :
    (state.breakLine column text).indent = state.indent := by
  cases inLine : state.inLine <;> simp [BlockState.breakLine, inLine]

/-- After a text a reader is between two lines. -/
def endsBetween (between : Bool) : List Char → Bool
  | [] => between
  | c :: rest => endsBetween (isBreak c) rest

theorem endsBetween_eq_endsWithBreak {text : List Char} (some : text ≠ []) :
    ∀ between : Bool, endsBetween between text = endsWithBreak text := by
  induction text with
  | nil => exact absurd rfl some
  | cons c text ih =>
    intro between
    cases text with
    | nil => rfl
    | cons d text =>
      rw [endsBetween, ih (List.cons_ne_nil _ _), endsWithBreak, endsWithBreak,
        List.getLast?_cons_cons]

/-- What stands for one character in a literal block. -/
def literalChar (indent : Nat) (between : Bool) (c : Char) : List Char :=
  if isBreak c then [c] else indentAfter indent between ++ [c]

theorem literalChars_cons (indent : Nat) (between : Bool) (c : Char) (text : List Char) :
    literalChars indent between (c :: text) =
      literalChar indent between c ++ literalChars indent (isBreak c) text := by
  rw [literalChars, literalChar]
  by_cases ends : isBreak c = true
  · rw [if_pos ends, if_pos ends, ends]
    rfl
  · rw [if_neg ends, if_neg ends, Bool.eq_false_iff.mpr ends, List.append_assoc]
    rfl

/-- **A character of a literal block is read as it is**: what is given back and what is held back are
what was held back before and the character. -/
theorem readBlock_literalChar (chomp : Chomp) (least : Nat) {indent : Nat} (positive : 0 < indent)
    {between : Bool} {state : BlockState} {mark : Mark} {c : Char} (printable : isPrintable c = true)
    (isIndent : state.indent = indent) (inLine : state.inLine = !between)
    (start : between = true → mark.column = 0) :
    ∃ (after : BlockState) (place : Mark) (given : List Char),
      (∀ rest, readBlock false chomp least state mark (literalChar indent between c ++ rest) =
        andThen given (readBlock false chomp least after place rest)) ∧
      after.indent = indent ∧ after.inLine = !isBreak c ∧ (isBreak c = true → place.column = 0) ∧
      mark.line ≤ place.line ∧ given ++ after.pending = state.pending ++ [c] := by
  by_cases ends : isBreak c = true
  · refine ⟨state.breakLine mark.column [c], mark.nextLine 1, [], fun rest => ?_,
      (state.indent_breakLine _ _).trans isIndent, ?_, fun _ => rfl, Nat.le_succ _,
      state.pending_breakLine _ _⟩
    · rw [literalChar, if_pos ends, andThen_nil, List.cons_append, List.nil_append,
        readBlock_break ends (not_return_of_printable printable), breakText_of_printable printable ends]
    · rw [state.inLine_breakLine, ends]
      rfl
  · rw [Bool.not_eq_true] at ends
    have written : literalChar indent between c = indentAfter indent between ++ [c] := by
      rw [literalChar, if_neg (by simp [ends])]
    have noStart : ∀ place : Mark, isBreak c = true → place.column = 0 := by
      simp [ends]
    cases between with
    | false =>
      refine ⟨state, mark.skip 1, [c], fun rest => ?_, isIndent, ?_, noStart _, Nat.le_refl _, ?_⟩
      · rw [written]
        exact readBlock_inLine inLine ends
      · rw [inLine, ends]
      · rw [BlockState.pending, inLine]
        rfl
    | true =>
      have notInLine : state.inLine = false := inLine
      refine ⟨{ indent := state.indent, afterBlank := isBlank c, inLine := true },
        (mark.skip indent).skip 1, state.leading ++ state.trailing ++ [c], fun rest => ?_, isIndent, ?_,
        noStart _, Nat.le_refl _, ?_⟩
      · have column : (mark.skip indent).column = state.indent := by
          show mark.column + indent = state.indent
          rw [start rfl, isIndent, Nat.zero_add]
        rw [written, List.append_assoc]
        show readBlock false chomp least state mark (spaces indent ++ c :: rest) = _
        rw [readBlock_spaces notInLine indent (.inr (Nat.le_of_eq column)),
          readBlock_start notInLine (by omega) column ends]
      · rw [ends]
        rfl
      · rw [BlockState.pending, BlockState.pending, notInLine]
        exact List.append_nil _

/-- **The lines of a literal block are read as they are**: what is given back and what is held back are
what was held back before and the text. -/
theorem readBlock_literalChars (chomp : Chomp) (least : Nat) {indent : Nat} (positive : 0 < indent)
    (rest : List Char) {text : List Char} :
    ∀ (between : Bool) (state : BlockState) (mark : Mark), (∀ c ∈ text, isPrintable c = true) →
      state.indent = indent → state.inLine = !between → (between = true → mark.column = 0) →
      ∃ (after : BlockState) (place : Mark) (given : List Char),
        readBlock false chomp least state mark (literalChars indent between text ++ rest) =
          andThen given (readBlock false chomp least after place rest) ∧
        after.indent = indent ∧ after.inLine = !endsBetween between text ∧
        (endsBetween between text = true → place.column = 0) ∧ mark.line ≤ place.line ∧
        given ++ after.pending = state.pending ++ text := by
  induction text with
  | nil =>
    intro between state mark _ isIndent inLine start
    exact ⟨state, mark, [], (andThen_nil _).symm, isIndent, inLine, start, Nat.le_refl _,
      (List.append_nil _).symm⟩
  | cons c text ih =>
    intro between state mark printable isIndent inLine start
    rw [List.forall_mem_cons] at printable
    obtain ⟨next, inside, first, readsFirst, nextIndent, nextInLine, nextStart, nextLine, soFar⟩ :=
      readBlock_literalChar chomp least positive printable.1 isIndent inLine start
    obtain ⟨after, place, given, isRead, kept, line, atStart, later, all⟩ :=
      ih (isBreak c) next inside printable.2 nextIndent nextInLine nextStart
    refine ⟨after, place, first ++ given, ?_, kept, line, atStart, Nat.le_trans nextLine later, ?_⟩
    · rw [literalChars_cons, List.append_assoc, readsFirst, isRead, andThen_andThen]
    · rw [List.append_assoc, all, ← List.append_assoc, soFar, List.append_assoc]
      rfl

/-! ### The end of a block -/

section

variable {least indent depth column : Nat} {mark : Mark} {margin goal text : List Char}

/-- **A text that does not end with a break, and a break after it**: the chomping says what becomes of
the break and of the empty lines after it. -/
theorem readBlock_line (chomp : Chomp) (some : text ≠ []) (printable : ∀ c ∈ text, isPrintable c = true)
    (endsInLine : endsWithBreak text = false) {c : Char} (printableEnd : isPrintable c = true)
    (ends : isBreak c = true) (between : Margin depth margin) (atToken : AtToken goal)
    (deep : depth < indent) (outside : column < indent) (start : mark.column = 0) :
    ∃ (place : Mark) (stop : Cursor), place.column = 0 ∧ mark.line ≤ place.line ∧
      readBlock false chomp least { indent := indent } mark
          (literalChars indent true text ++ c :: (margin ++ (spaces column ++ goal))) =
        .some (text ++
          BlockState.tail { indent := indent, leading := [c], trailing := emptyLines margin } chomp,
          stop) ∧
      Scanner.skipSpace false true false stop.mark stop.rest =
        Scanner.skipSpace false true false place (margin ++ (spaces column ++ goal)) := by
  obtain ⟨after, place, given, isRead, kept, line, _, later, all⟩ :=
    readBlock_literalChars chomp least (Nat.zero_lt_of_lt deep)
      (c :: (margin ++ (spaces column ++ goal))) true { indent := indent } mark printable rfl rfl
      (fun _ => start)
  rw [endsBetween_eq_endsWithBreak some, endsInLine] at line
  have inLine : after.inLine = true := line
  have given_eq : given = text := by
    rw [BlockState.pending, inLine] at all
    exact (List.append_nil _).symm.trans all
  obtain ⟨stop, isStop, skipped⟩ :=
    readBlock_margin false chomp least between atToken (after.breakLine place.column [c])
      (place.nextLine 1) (after.inLine_breakLine _ _) (by rwa [after.indent_breakLine, kept])
      (by rwa [after.indent_breakLine, kept]) rfl
  refine ⟨place.nextLine 1, stop, rfl, Nat.le_trans later (Nat.le_succ _), ?_, skipped⟩
  rw [isRead, readBlock_break ends (not_return_of_printable printableEnd),
    breakText_of_printable printableEnd ends, isStop, given_eq]
  rw [BlockState.breakLine, inLine]
  cases chomp <;> rfl

/-- **A text that ends with a break whose breaks are all kept**, and the empty lines after it. -/
theorem readBlock_keep (some : text ≠ []) (printable : ∀ c ∈ text, isPrintable c = true)
    (ends : endsWithBreak text = true) (between : Margin depth margin) (atToken : AtToken goal)
    (deep : depth < indent) (outside : column < indent) (start : mark.column = 0) :
    ∃ (place : Mark) (stop : Cursor), place.column = 0 ∧ mark.line ≤ place.line ∧
      readBlock false .keep least { indent := indent } mark
          (literalChars indent true text ++ (margin ++ (spaces column ++ goal))) =
        .some (text ++ emptyLines margin, stop) ∧
      Scanner.skipSpace false true false stop.mark stop.rest =
        Scanner.skipSpace false true false place (margin ++ (spaces column ++ goal)) := by
  obtain ⟨after, place, given, isRead, kept, line, first, later, all⟩ :=
    readBlock_literalChars .keep least (Nat.zero_lt_of_lt deep)
      (margin ++ (spaces column ++ goal)) true { indent := indent } mark printable rfl rfl
      (fun _ => start)
  rw [endsBetween_eq_endsWithBreak some, ends] at line first
  have notInLine : after.inLine = false := line
  obtain ⟨stop, isStop, skipped⟩ :=
    readBlock_margin false .keep least between atToken after place notInLine (by rwa [kept])
      (by rwa [kept]) (first rfl)
  refine ⟨place, stop, first rfl, later, ?_, skipped⟩
  rw [isRead, isStop]
  have held : after.pending = after.leading ++ after.trailing := by
    rw [BlockState.pending, notInLine]
    rfl
  show Option.some (given ++ (after.leading ++ (after.trailing ++ emptyLines margin)), stop) = _
  rw [← List.append_assoc after.leading, ← held, ← List.append_assoc, all]
  rfl

end

/-! ### The header -/

/-- The sign of a chomping in a header. -/
def Chomp.sign : Chomp → List Char
  | .strip => ['-']
  | .clip => []
  | .keep => ['+']

/-- A header says what becomes of the breaks at the end, and how many columns the lines are indented. -/
theorem readHeader_sign (chomp : Chomp) (increment : Bool) (mark : Mark) (rest : List Char) :
    ∃ width, readHeader ⟨mark, (if increment then ['2'] else []) ++ chomp.sign ++ '\n' :: rest⟩ =
      some (chomp, if increment then 2 else 0, ⟨mark.skip width, '\n' :: rest⟩) := by
  cases increment with
  | false =>
    cases chomp with
    | strip => exact ⟨1, rfl⟩
    | clip => exact ⟨0, rfl⟩
    | keep => exact ⟨1, rfl⟩
  | true =>
    cases chomp with
    | strip => exact ⟨2, by rw [← Mark.skip_skip mark 1 1]; rfl⟩
    | clip => exact ⟨1, rfl⟩
    | keep => exact ⟨2, by rw [← Mark.skip_skip mark 1 1]; rfl⟩

theorem skipLineEnd?_lineFeed (mark : Mark) (rest : List Char) :
    (Cursor.mk mark ('\n' :: rest)).skipLineEnd? = some ⟨mark.nextLine 1, rest⟩ := rfl

/-- The text starts with a space or a break, so that its first line does not show the indentation. -/
def hidesIndent (text : List Char) : Bool := text.head?.any fun c => isSpace c || isBreak c

theorem indentIndicator_eq (text : List Char) :
    indentIndicator text = if hidesIndent text then ['2'] else [] := by
  cases text with
  | nil => rfl
  | cons c text => rfl

/-- Where the first line shows the indentation, a reader need not be told. -/
theorem readBlock_unsettled {chomp : Chomp} {least indent : Nat} {mark : Mark} {text rest : List Char}
    (some : text ≠ []) (printable : ∀ c ∈ text, isPrintable c = true) (shown : hidesIndent text = false)
    (positive : 0 < indent) (enough : least ≤ indent) (start : mark.column = 0) :
    readBlock false chomp least { indent := 0 } mark (literalChars indent true text ++ rest) =
      readBlock false chomp least { indent := indent } mark (literalChars indent true text ++ rest) := by
  cases text with
  | nil => exact absurd rfl some
  | cons c text =>
    obtain ⟨notSpace, notBreak⟩ : isSpace c = false ∧ isBreak c = false :=
      Bool.or_eq_false_iff.mp shown
    have notBlank : isBlank c = false := by
      cases blank : isBlank c with
      | false => rfl
      | true =>
        rw [eq_space_of_printable (printable c (List.mem_cons_self ..)) blank] at notSpace
        exact notSpace
    have notBlanks : (c == ' ') = false ∧ (c == '\t') = false := by
      rwa [isBlank, Bool.or_eq_false_iff] at notBlank
    have notReturn := not_return_of_printable (printable c (List.mem_cons_self ..))
    have column : (mark.skip indent).column = indent := by
      show mark.column + indent = indent
      rw [start, Nat.zero_add]
    have settled : BlockState.settle { indent := 0 } least indent = indent := by
      show max (max 0 indent) least = indent
      omega
    have written : literalChars indent true (c :: text) ++ rest =
        spaces indent ++ c :: (literalChars indent false text ++ rest) := by
      rw [literalChars, if_neg (by rw [notBreak]; decide), List.append_assoc]
      rfl
    rw [written]
    refine (readBlock_spaces rfl indent (.inl rfl)).trans (Eq.trans ?_
      (readBlock_spaces rfl indent (.inr ?_)).symm)
    · refine Eq.trans ?_ (readBlock_start rfl positive column notBreak).symm
      rw [readBlock_cons notReturn, if_neg (by rw [notBreak]; decide), if_neg (by decide),
        if_neg (by simp [notBlanks.1]), if_neg (by simp [notBlanks.2]), column]
      simp only [settled, if_pos]
      rfl
    · exact Nat.le_of_eq column

/-- **How a text ends**, and the sign that goes with it. -/
theorem chompIndicator_cases {text : List Char} (some : text ≠ []) :
    (endsWithBreak text = false ∧ chompIndicator text = Chomp.strip.sign) ∨
      (∃ line c, text = line ++ [c] ∧ line ≠ [] ∧ endsWithBreak line = false ∧ isBreak c = true ∧
        chompIndicator text = Chomp.clip.sign) ∨
      (endsWithBreak text = true ∧ chompIndicator text = Chomp.keep.sign) := by
  obtain ⟨line, c, rfl⟩ := List.eq_nil_or_concat text |>.resolve_left some
  have last : endsWithBreak (line ++ [c]) = isBreak c := by
    rw [endsWithBreak, List.getLast?_append]
    rfl
  simp only [List.concat_eq_append, last, chompIndicator, List.reverse_append, List.reverse_singleton,
    List.singleton_append]
  cases ends : isBreak c with
  | false => exact .inl ⟨rfl, rfl⟩
  | true =>
    rcases List.eq_nil_or_concat line with rfl | ⟨start, d, rfl⟩
    · exact .inr (.inr ⟨rfl, rfl⟩)
    · rw [List.concat_eq_append]
      have lastInside : endsWithBreak (start ++ [d]) = isBreak d := by
        rw [endsWithBreak, List.getLast?_append]
        rfl
      cases inside : isBreak d with
      | false =>
        refine .inr (.inl ⟨start ++ [d], c, rfl, by simp, lastInside.trans inside, ends, ?_⟩)
        simp [inside, Chomp.sign]
      | true => exact .inr (.inr ⟨rfl, by simp [inside, Chomp.sign]⟩)

theorem literalChars_append_break {indent : Nat} {c : Char} (ends : isBreak c = true)
    {text : List Char} : ∀ between : Bool, literalChars indent between (text ++ [c]) =
      literalChars indent between text ++ [c] := by
  induction text with
  | nil =>
    intro between
    exact if_pos ends
  | cons d text ih =>
    intro between
    rw [List.cons_append, literalChars, literalChars, ih, ih]
    split
    · rfl
    · simp

/-- A reader of a block that has read the header goes on with the lines, at the column that they have. -/
theorem readBlockScalar_header (depth : Nat) {chomp : Chomp} {text : List Char} (some : text ≠ [])
    (printable : ∀ c ∈ text, isPrintable c = true) (sign : chompIndicator text = chomp.sign)
    (mark : Mark) (rest : List Char) :
    ∃ start : Mark, start.column = 0 ∧ mark.line < start.line ∧
      readBlockScalar false depth ⟨mark, indentIndicator text ++ chompIndicator text ++
          '\n' :: (literalChars (depth + 2) true text ++ rest)⟩ =
        readBlock false chomp (depth + 1) { indent := depth + 2 } start
          (literalChars (depth + 2) true text ++ rest) := by
  obtain ⟨width, header⟩ := readHeader_sign chomp (hidesIndent text) mark
    (literalChars (depth + 2) true text ++ rest)
  refine ⟨(mark.skip width).nextLine 1, rfl, Nat.lt_succ_self _, ?_⟩
  have least : (max ((depth : Int) + 1) 1).toNat = depth + 1 := by omega
  have around : (max (depth : Int) 0).toNat = depth := by omega
  rw [sign, indentIndicator_eq, readBlockScalar, header]
  simp only [Option.bind_eq_bind, Option.bind_some, skipLineEnd?_lineFeed, least, around]
  cases hides : hidesIndent text with
  | true => rfl
  | false =>
    exact readBlock_unsettled some printable hides (Nat.succ_pos _) (Nat.le_succ _) rfl

/-- The empty lines of the margin that a literal block takes in. -/
def keptLines (text margin : List Char) : List Char :=
  if chompIndicator text = Chomp.keep.sign then emptyLines margin else []

/-- **A literal block is read back** up to the token after its margin, with the empty lines at the start
of the margin where it keeps all breaks. -/
theorem readBlockScalar_literal {depth column : Nat} {text margin goal : List Char}
    (allowed : allowsLiteral text = true) (between : Margin depth margin) (atToken : AtToken goal)
    (outside : column ≤ depth) (mark : Mark) :
    ∃ (place : Mark) (stop : Cursor), place.column = 0 ∧ mark.line < place.line ∧
      readBlockScalar false depth ⟨mark, indentIndicator text ++ chompIndicator text ++
          '\n' :: (literalChars (depth + 2) true text ++
            ((if endsWithBreak text then [] else ['\n']) ++ (margin ++ (spaces column ++ goal))))⟩ =
        some (text ++ keptLines text margin, stop) ∧
      Scanner.skipSpace false true false stop.mark stop.rest =
        Scanner.skipSpace false true false place (margin ++ (spaces column ++ goal)) := by
  rw [allowsLiteral, isTame] at allowed
  simp only [Bool.and_eq_true, Bool.not_eq_true', List.isEmpty_eq_false_iff, List.all_eq_true] at allowed
  obtain ⟨⟨some, printable, _⟩, _⟩ := allowed
  have deep : depth < depth + 2 := by omega
  have inside : column < depth + 2 := by omega
  have lineFeed : isBreak '\n' = true := rfl
  have begins := fun (chomp : Chomp) (sign : chompIndicator text = chomp.sign) =>
    readBlockScalar_header depth some printable sign mark
      ((if endsWithBreak text then [] else ['\n']) ++ (margin ++ (spaces column ++ goal)))
  rcases chompIndicator_cases some with
    ⟨endsInLine, sign⟩ | ⟨line, c, rfl, someLine, endsInLine, ends, sign⟩ | ⟨ends, sign⟩
  · obtain ⟨start, first, next, isRead⟩ := begins .strip sign
    obtain ⟨place, stop, column, later, isStop, skipped⟩ :=
      readBlock_line .strip some printable endsInLine rfl lineFeed between atToken deep inside first
    refine ⟨place, stop, column, Nat.lt_of_lt_of_le next later, ?_, skipped⟩
    rw [isRead, endsInLine, keptLines, sign]
    exact isStop
  · obtain ⟨start, first, next, isRead⟩ := begins .clip sign
    rw [List.forall_mem_append, List.forall_mem_singleton] at printable
    obtain ⟨place, stop, column, later, isStop, skipped⟩ :=
      readBlock_line .clip someLine printable.1 endsInLine printable.2 ends between atToken deep inside
        first
    refine ⟨place, stop, column, Nat.lt_of_lt_of_le next later, ?_, skipped⟩
    have endsWith : endsWithBreak (line ++ [c]) = true := by
      rw [endsWithBreak, List.getLast?_append]
      exact ends
    have noneKept : keptLines (line ++ [c]) margin = [] := by
      rw [keptLines, sign]
      rfl
    rw [isRead, endsWith, noneKept, List.append_nil, literalChars_append_break ends, List.append_assoc]
    exact isStop
  · obtain ⟨start, first, next, isRead⟩ := begins .keep sign
    obtain ⟨place, stop, column, later, isStop, skipped⟩ :=
      readBlock_keep some printable ends between atToken deep inside first
    refine ⟨place, stop, column, Nat.lt_of_lt_of_le next later, ?_, skipped⟩
    rw [isRead, ends, keptLines, sign]
    exact isStop

end PipelineGraph.Yaml
