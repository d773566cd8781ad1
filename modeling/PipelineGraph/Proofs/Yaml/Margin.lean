/-
**What may stand between a scalar and the next token.**

After a scalar come the end of its line and then a margin, which is empty lines and comments, before the
next token or the end of the text. A reader of a plain or a literal scalar does not know that the scalar
is over until it has passed over some of the margin; wherever it stops, the scanner goes on to the same
token.

* `skipSpace_margin` — the scanner goes to the token after a margin.
* `readPlain_margin` — a plain scalar ends on the way there.
* `readBlock_margin` — so does a block scalar, which may have taken in the empty lines first.
-/

import PipelineGraph.Yaml.Scanner
import PipelineGraph.Yaml.ScalarText

namespace PipelineGraph.Yaml

/-! ### Characters and places -/

theorem not_return_of_not_break {c : Char} (notBreak : isBreak c = false) : c ≠ '\r' := by
  rintro rfl
  exact absurd notBreak (by decide)

/-- The place after one character; none of the texts here has a carriage return. -/
def Mark.over (mark : Mark) (c : Char) : Mark := if isBreak c then mark.nextLine 1 else mark.skip 1

/-- The place after some text. -/
def Mark.after (mark : Mark) (text : List Char) : Mark := text.foldl Mark.over mark

@[simp]
theorem Mark.after_nil (mark : Mark) : mark.after [] = mark := rfl

@[simp]
theorem Mark.after_cons (mark : Mark) (c : Char) (text : List Char) :
    mark.after (c :: text) = (mark.over c).after text := rfl

@[simp]
theorem Mark.after_append (mark : Mark) (text more : List Char) :
    mark.after (text ++ more) = (mark.after text).after more := by
  rw [Mark.after, List.foldl_append]
  rfl

theorem Mark.over_of_break {mark : Mark} {c : Char} (ends : isBreak c = true) :
    mark.over c = mark.nextLine 1 := if_pos ends

theorem Mark.over_of_not_break {mark : Mark} {c : Char} (inside : isBreak c = false) :
    mark.over c = mark.skip 1 := if_neg (by rw [inside]; decide)

theorem Mark.skip_skip (mark : Mark) (first second : Nat) :
    (mark.skip first).skip second = mark.skip (first + second) := by
  simp [Mark.skip, Nat.add_assoc]

/-- On one line each character is one column. -/
theorem Mark.after_of_line {text : List Char} (oneLine : ∀ c ∈ text, isBreak c = false) :
    ∀ mark : Mark, mark.after text = mark.skip text.length := by
  induction text with
  | nil => exact fun _ => rfl
  | cons c text ih =>
    intro mark
    rw [List.forall_mem_cons] at oneLine
    rw [Mark.after_cons, Mark.over_of_not_break oneLine.1, ih oneLine.2, Mark.skip_skip,
      List.length_cons, Nat.add_comm]

theorem Mark.line_le_after (text : List Char) : ∀ mark : Mark, mark.line ≤ (mark.after text).line := by
  induction text with
  | nil => exact fun mark => Nat.le_refl _
  | cons c text ih =>
    intro mark
    refine Nat.le_trans ?_ (ih (mark.over c))
    rw [Mark.over]
    split
    · exact Nat.le_succ _
    · exact Nat.le_refl _

/-! ### Margins -/

/-- **Empty lines and comments**, where no comment is indented by more than `depth`. -/
inductive Margin (depth : Nat) : List Char → Prop
  | nil : Margin depth []
  | emptyLine {margin : List Char} (more : Margin depth margin) : Margin depth ('\n' :: margin)
  | comment {width : Nat} {line margin : List Char} (narrow : width ≤ depth)
      (oneLine : ∀ c ∈ line, isBreak c = false) (more : Margin depth margin) :
      Margin depth (spaces width ++ '#' :: line ++ '\n' :: margin)

/-- A margin after a margin is a margin. -/
theorem Margin.append {depth : Nat} {first second : List Char} (before : Margin depth first)
    (after : Margin depth second) : Margin depth (first ++ second) := by
  induction before with
  | nil => exact after
  | emptyLine _ ih => exact ih.emptyLine
  | comment narrow oneLine _ ih =>
    rw [List.append_assoc, List.cons_append]
    exact ih.comment narrow oneLine

/-- The text is at its end, or a token starts here. -/
def AtToken (text : List Char) : Prop :=
  ∀ c ∈ text.head?, isBlank c = false ∧ isBreak c = false ∧ c ≠ '#' ∧ c ≠ '\ufeff'

/-- The empty lines at the start of a text. -/
def emptyLines (text : List Char) : List Char := text.takeWhile (· == '\n')

/-! ### White space -/

section

variable {flow allowed inComment : Bool} {mark : Mark} {rest : List Char}

theorem skipSpace_cons {c : Char} (notReturn : c ≠ '\r') :
    Scanner.skipSpace flow allowed inComment mark (c :: rest) =
      if isBreak c then Scanner.skipSpace flow (allowed || !flow) false (mark.nextLine 1) rest
      else if inComment || c == ' ' || (c == '\t' && (flow || !allowed)) ||
          (c == '\ufeff' && mark.index == 0) then
        Scanner.skipSpace flow allowed inComment (mark.skip 1) rest
      else if c = '#' then Scanner.skipSpace flow allowed true (mark.skip 1) rest
      else (⟨mark, c :: rest⟩, allowed) := by
  rw [Scanner.skipSpace]
  intro _ same
  exact absurd same notReturn

theorem skipSpace_lineFeed :
    Scanner.skipSpace flow allowed inComment mark ('\n' :: rest) =
      Scanner.skipSpace flow (allowed || !flow) false (mark.nextLine 1) rest := by
  rw [skipSpace_cons (by decide), if_pos (by decide)]

theorem skipSpace_space :
    Scanner.skipSpace flow allowed inComment mark (' ' :: rest) =
      Scanner.skipSpace flow allowed inComment (mark.skip 1) rest := by
  rw [skipSpace_cons (by decide), if_neg (by decide), if_pos (by simp)]

theorem skipSpace_spaces (width : Nat) :
    ∀ {mark : Mark}, Scanner.skipSpace flow allowed inComment mark (spaces width ++ rest) =
      Scanner.skipSpace flow allowed inComment (mark.skip width) rest := by
  induction width with
  | zero => exact rfl
  | succ width ih =>
    intro mark
    show Scanner.skipSpace flow allowed inComment mark (' ' :: (spaces width ++ rest)) = _
    rw [skipSpace_space, ih, Mark.skip_skip, Nat.add_comm]

theorem skipSpace_hash :
    Scanner.skipSpace flow allowed false mark ('#' :: rest) =
      Scanner.skipSpace flow allowed true (mark.skip 1) rest := by
  rw [skipSpace_cons (by decide), if_neg (by decide), if_neg (by simp), if_pos rfl]

theorem skipSpace_comment {line : List Char} (oneLine : ∀ c ∈ line, isBreak c = false) :
    ∀ {mark : Mark}, Scanner.skipSpace flow allowed true mark (line ++ '\n' :: rest) =
      Scanner.skipSpace flow (allowed || !flow) false ((mark.skip line.length).nextLine 1) rest := by
  induction line with
  | nil =>
    intro mark
    exact skipSpace_lineFeed
  | cons c line ih =>
    intro mark
    rw [List.forall_mem_cons] at oneLine
    rw [List.cons_append, skipSpace_cons (not_return_of_not_break oneLine.1), if_neg (by rw [oneLine.1]; decide),
      if_pos (by simp), ih oneLine.2, Mark.skip_skip, List.length_cons, Nat.add_comm]

theorem skipSpace_token (atToken : AtToken rest) :
    Scanner.skipSpace flow allowed false mark rest = (⟨mark, rest⟩, allowed) := by
  cases rest with
  | nil => rfl
  | cons c rest =>
    obtain ⟨notBlank, notBreak, notHash, notMark⟩ := atToken c rfl
    have notReturn := not_return_of_not_break notBreak
    have notSpace : (c == ' ') = false ∧ (c == '\t') = false := by
      rwa [isBlank, Bool.or_eq_false_iff] at notBlank
    rw [skipSpace_cons notReturn, if_neg (by rw [notBreak]; decide),
      if_neg (by simp [notSpace.1, notSpace.2, notMark]), if_neg notHash]

end

/-- **The scanner goes to the token after a margin.** -/
theorem skipSpace_margin {depth : Nat} {goal margin : List Char} (between : Margin depth margin)
    (column : Nat) (atToken : AtToken goal) : ∀ mark : Mark, mark.column = 0 →
      ∃ landing : Mark, Scanner.skipSpace false true false mark (margin ++ (spaces column ++ goal)) =
          (⟨landing, goal⟩, true) ∧
        landing.column = column ∧ mark.line ≤ landing.line := by
  induction between with
  | nil =>
    intro mark start
    refine ⟨mark.skip column, ?_, ?_, Nat.le_refl _⟩
    · rw [List.nil_append, skipSpace_spaces, skipSpace_token atToken]
    · rw [Mark.skip, start, Nat.zero_add]
  | emptyLine _ ih =>
    intro mark _
    obtain ⟨landing, skipped, place, later⟩ := ih (mark.nextLine 1) rfl
    refine ⟨landing, ?_, place, Nat.le_trans (Nat.le_succ _) later⟩
    rw [List.cons_append, skipSpace_lineFeed]
    exact skipped
  | @comment width line margin _ oneLine _ ih =>
    intro mark _
    obtain ⟨landing, skipped, place, later⟩ :=
      ih ((((mark.skip width).skip 1).skip line.length).nextLine 1) rfl
    refine ⟨landing, ?_, place, Nat.le_trans (Nat.le_succ _) later⟩
    simp only [List.append_assoc, List.cons_append]
    rw [skipSpace_spaces, skipSpace_hash, skipSpace_comment oneLine]
    exact skipped

/-! ### The end of a plain scalar -/

theorem Gap.isBroken_addBreak (gap : Gap) (text : List Char) : (gap.addBreak text).isBroken = true := by
  cases gap <;> rfl

theorem Gap.addBlank_of_isBroken {gap : Gap} (broken : gap.isBroken = true) (c : Char) :
    gap.addBlank c = gap := by
  cases gap with
  | blanks text => cases broken
  | breaks first more => rfl

theorem Gap.ne_none_of_isBroken {gap : Gap} (broken : gap.isBroken = true) : gap ≠ .none := by
  rintro rfl
  cases broken

section

variable {context : PlainContext} {gap : Gap} {mark : Mark} {rest : List Char}

theorem readPlain_cons {c : Char} (notReturn : c ≠ '\r') :
    readPlain context gap mark (c :: rest) =
      if isBreak c then readPlain context (gap.addBreak (breakText c)) (mark.nextLine 1) rest
      else if isBlank c then
        if gap.isBroken && c == '\t' && mark.column < context.indent then none
        else readPlain context (gap.addBlank c) (mark.skip 1) rest
      else if context.endsBefore gap mark (c :: rest) then
        some ⟨[], gap.isBroken, ⟨mark, c :: rest⟩⟩
      else if context.isUnclear c rest then none
      else if context.endsAt c rest then some ⟨[], gap.isBroken, ⟨mark, c :: rest⟩⟩
      else
        (readPlain context .none (mark.skip 1) rest).map fun plain =>
          { plain with text := gap.text ++ c :: plain.text } := by
  rw [readPlain]
  intro _ same
  exact absurd same notReturn

theorem readPlain_lineFeed :
    readPlain context gap mark ('\n' :: rest) =
      readPlain context (gap.addBreak ['\n']) (mark.nextLine 1) rest := by
  rw [readPlain_cons (by decide), if_pos (by decide)]
  rfl

theorem readPlain_space :
    readPlain context gap mark (' ' :: rest) =
      readPlain context (gap.addBlank ' ') (mark.skip 1) rest := by
  rw [readPlain_cons (by decide), if_neg (by decide), if_pos (by decide), if_neg (by simp)]

theorem readPlain_spaces (broken : gap.isBroken = true) (width : Nat) :
    ∀ {mark : Mark}, readPlain context gap mark (spaces width ++ rest) =
      readPlain context gap (mark.skip width) rest := by
  induction width with
  | zero => exact rfl
  | succ width ih =>
    intro mark
    show readPlain context gap mark (' ' :: (spaces width ++ rest)) = _
    rw [readPlain_space, Gap.addBlank_of_isBroken broken, ih, Mark.skip_skip, Nat.add_comm]

/-- A plain scalar ends before a comment. -/
theorem readPlain_hash (broken : gap.isBroken = true) :
    readPlain context gap mark ('#' :: rest) = some ⟨[], true, ⟨mark, '#' :: rest⟩⟩ := by
  have ends : context.endsBefore gap mark ('#' :: rest) = true := by
    simp [PlainContext.endsBefore, Gap.ne_none_of_isBroken broken]
  rw [readPlain_cons (by decide), if_neg (by decide), if_neg (by decide), if_pos ends, broken]

/-- A plain scalar ends before a token that is indented less than the scalar has to be. -/
theorem readPlain_token {indent : Nat} (broken : gap.isBroken = true) (atToken : AtToken rest)
    (outside : mark.column < indent) :
    readPlain ⟨false, indent⟩ gap mark rest = some ⟨[], true, ⟨mark, rest⟩⟩ := by
  cases rest with
  | nil => rw [readPlain, broken]
  | cons c rest =>
    obtain ⟨notBlank, notBreak, notHash, notMark⟩ := atToken c rfl
    have notReturn := not_return_of_not_break notBreak
    have ends : PlainContext.endsBefore ⟨false, indent⟩ gap mark (c :: rest) = true := by
      simp [PlainContext.endsBefore, Gap.ne_none_of_isBroken broken, outside]
    rw [readPlain_cons notReturn, if_neg (by rw [notBreak]; decide), if_neg (by rw [notBlank]; decide),
      if_pos ends, broken]

end

/-- **A plain scalar ends in the margin before a token outside of it**, and the scanner goes on to the
token. -/
theorem readPlain_margin {depth indent column : Nat} {goal margin : List Char}
    (between : Margin depth margin) (atToken : AtToken goal) (outside : column < indent) :
    ∀ (gap : Gap) (mark : Mark), gap.isBroken = true → mark.column = 0 →
      ∃ stop : Cursor, readPlain ⟨false, indent⟩ gap mark (margin ++ (spaces column ++ goal)) =
          some ⟨[], true, stop⟩ ∧
        Scanner.skipSpace false true false stop.mark stop.rest =
          Scanner.skipSpace false true false mark (margin ++ (spaces column ++ goal)) := by
  induction between with
  | nil =>
    intro gap mark broken start
    refine ⟨⟨mark.skip column, goal⟩, ?_, skipSpace_spaces column |>.symm⟩
    rw [List.nil_append, readPlain_spaces broken]
    refine readPlain_token broken atToken ?_
    show mark.column + column < indent
    omega
  | emptyLine _ ih =>
    intro gap mark broken _
    obtain ⟨stop, isRead, skipped⟩ :=
      ih (gap.addBreak ['\n']) (mark.nextLine 1) (gap.isBroken_addBreak _) rfl
    refine ⟨stop, ?_, ?_⟩
    · rw [List.cons_append, readPlain_lineFeed]
      exact isRead
    · rw [List.cons_append, skipSpace_lineFeed]
      exact skipped
  | @comment width line margin _ _ _ _ =>
    intro gap mark broken _
    simp only [List.append_assoc, List.cons_append]
    exact ⟨⟨mark.skip width, '#' :: (line ++ '\n' :: (margin ++ (spaces column ++ goal)))⟩,
      (readPlain_spaces broken width).trans (readPlain_hash broken), (skipSpace_spaces width).symm⟩

/-! ### The end of a block scalar -/

section

variable {folded : Bool} {chomp : Chomp} {least : Nat} {state : BlockState} {mark : Mark}
  {rest : List Char}

theorem readBlock_cons {c : Char} (notReturn : c ≠ '\r') :
    readBlock folded chomp least state mark (c :: rest) =
      if isBreak c then
        readBlock folded chomp least (state.breakLine mark.column (breakText c)) (mark.nextLine 1) rest
      else if state.inLine then
        (readBlock folded chomp least state (mark.skip 1) rest).map fun (text, cursor) =>
          (c :: text, cursor)
      else if c == ' ' && state.inIndent mark.column then
        readBlock folded chomp least state (mark.skip 1) rest
      else if c == '\t' && state.inIndent mark.column then none
      else
        let indent := state.settle least mark.column
        if mark.column = indent then
          let started : BlockState :=
            { indent := indent, afterBlank := isBlank c, inLine := true }
          (readBlock folded chomp least started (mark.skip 1) rest).map fun (text, cursor) =>
            (state.joint folded c ++ c :: text, cursor)
        else some (state.tail chomp, ⟨mark, c :: rest⟩) := by
  rw [readBlock]
  intro _ same
  exact absurd same notReturn

theorem readBlock_break {c : Char} (ends : isBreak c = true) (notReturn : c ≠ '\r') :
    readBlock folded chomp least state mark (c :: rest) =
      readBlock folded chomp least (state.breakLine mark.column (breakText c)) (mark.nextLine 1)
        rest := by
  rw [readBlock_cons notReturn, if_pos ends]

theorem readBlock_space (between : state.inLine = false) (inIndent : state.inIndent mark.column = true) :
    readBlock folded chomp least state mark (' ' :: rest) =
      readBlock folded chomp least state (mark.skip 1) rest := by
  rw [readBlock_cons (by decide), if_neg (by decide), if_neg (by rw [between]; decide),
    if_pos (by rw [inIndent]; decide)]

/-- Spaces in front of a line belong to its indentation. -/
theorem readBlock_spaces (between : state.inLine = false) (width : Nat) :
    ∀ {mark : Mark}, (state.indent = 0 ∨ mark.column + width ≤ state.indent) →
      readBlock folded chomp least state mark (spaces width ++ rest) =
        readBlock folded chomp least state (mark.skip width) rest := by
  induction width with
  | zero => exact fun _ => rfl
  | succ width ih =>
    intro mark within
    have inIndent : state.inIndent mark.column = true := by
      rw [BlockState.inIndent, Bool.or_eq_true, decide_eq_true_eq, decide_eq_true_eq]
      exact within.imp_right fun less => by omega
    show readBlock folded chomp least state mark (' ' :: (spaces width ++ rest)) = _
    rw [readBlock_space between inIndent, ih, Mark.skip_skip, Nat.add_comm]
    refine within.imp_right fun less => ?_
    show mark.column + 1 + width ≤ state.indent
    omega

/-- A block scalar ends before what is indented less than its lines. -/
theorem readBlock_outside (between : state.inLine = false) (settled : mark.column < state.indent)
    {c : Char} (notBlank : isBlank c = false) (notBreak : isBreak c = false) :
    readBlock folded chomp least state mark (c :: rest) =
      some (state.tail chomp, ⟨mark, c :: rest⟩) := by
  have notReturn := not_return_of_not_break notBreak
  have notSpace : (c == ' ') = false ∧ (c == '\t') = false := by
    rwa [isBlank, Bool.or_eq_false_iff] at notBlank
  have known : state.indent ≠ 0 := by omega
  rw [readBlock_cons notReturn, if_neg (by rw [notBreak]; decide), if_neg (by rw [between]; decide),
    if_neg (by simp [notSpace.1]), if_neg (by simp [notSpace.2])]
  show (if mark.column = state.settle least mark.column then _ else _) = _
  rw [BlockState.settle, if_neg known, if_neg (by omega)]

end

/-- What has been read of a block scalar between two lines, after some more empty lines. -/
def BlockState.addEmpty (state : BlockState) (text : List Char) : BlockState :=
  { state with trailing := state.trailing ++ text }

/-- An empty line is one more break at the end. -/
theorem BlockState.tail_addEmpty_breakLine {state : BlockState} (between : state.inLine = false)
    (column : Nat) (text : List Char) (chomp : Chomp) :
    ((state.breakLine column ['\n']).addEmpty text).tail chomp =
      (state.addEmpty ('\n' :: text)).tail chomp := by
  rw [BlockState.breakLine, between]
  cases chomp <;> simp [BlockState.tail, BlockState.addEmpty]

/-- **A block scalar ends in the margin before a token outside of it**, and the scanner goes on to the
token. It has the empty lines before the first comment. -/
theorem readBlock_margin (folded : Bool) (chomp : Chomp) (least : Nat) {depth column : Nat}
    {goal margin : List Char} (between : Margin depth margin) (atToken : AtToken goal) :
    ∀ (state : BlockState) (mark : Mark), state.inLine = false → depth < state.indent →
      column < state.indent → mark.column = 0 →
      ∃ stop : Cursor, readBlock folded chomp least state mark (margin ++ (spaces column ++ goal)) =
          some ((state.addEmpty (emptyLines margin)).tail chomp, stop) ∧
        Scanner.skipSpace false true false stop.mark stop.rest =
          Scanner.skipSpace false true false mark (margin ++ (spaces column ++ goal)) := by
  induction between with
  | nil =>
    intro state mark notInLine _ outside start
    refine ⟨⟨mark.skip column, goal⟩, ?_, skipSpace_spaces column |>.symm⟩
    rw [List.nil_append, readBlock_spaces notInLine column (.inr (by omega)), BlockState.addEmpty,
      show emptyLines [] = [] from rfl, List.append_nil]
    cases goal with
    | nil => rw [readBlock]
    | cons c rest =>
      obtain ⟨notBlank, notBreak, _⟩ := atToken c rfl
      refine readBlock_outside notInLine ?_ notBlank notBreak
      show mark.column + column < state.indent
      omega
  | emptyLine _ ih =>
    intro state mark notInLine deep outside _
    have kept : (state.breakLine mark.column ['\n']).indent = state.indent := by
      rw [BlockState.breakLine, notInLine]
      rfl
    have still : (state.breakLine mark.column ['\n']).inLine = false := by
      rw [BlockState.breakLine, notInLine]
      rfl
    obtain ⟨stop, isRead, skipped⟩ := ih _ (mark.nextLine 1) still (by rwa [kept])
      (by rwa [kept]) rfl
    refine ⟨stop, ?_, ?_⟩
    · rw [List.cons_append, readBlock_break (by decide) (by decide)]
      show readBlock folded chomp least (state.breakLine mark.column ['\n']) _ _ = _
      rw [isRead, BlockState.tail_addEmpty_breakLine notInLine]
      rfl
    · rw [List.cons_append, skipSpace_lineFeed]
      exact skipped
  | @comment width line margin narrow _ _ _ =>
    intro state mark notInLine deep _ start
    have noEmpty : emptyLines (spaces width ++ '#' :: line ++ '\n' :: margin) = [] := by
      cases width <;> rfl
    rw [noEmpty, BlockState.addEmpty, List.append_nil]
    simp only [List.append_assoc, List.cons_append]
    refine ⟨⟨mark.skip width, '#' :: (line ++ '\n' :: (margin ++ (spaces column ++ goal)))⟩, ?_,
      (skipSpace_spaces width).symm⟩
    rw [readBlock_spaces notInLine width (.inr (by omega))]
    refine readBlock_outside notInLine ?_ (by decide) (by decide)
    show mark.column + width < state.indent
    omega

end PipelineGraph.Yaml
