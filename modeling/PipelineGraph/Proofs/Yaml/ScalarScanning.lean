/-
**Scalars and keys are scanned as they were written.**

Whatever style a text is written in, the scanner makes one token of it with the text in it
(`scanNext_scalarLine`); only a literal block that keeps all its breaks takes in more, the empty lines
after it. A text that is short enough to stand in front of a colon becomes a key there
(`reaches_key`), and opens a block mapping where none is open at its column.
-/

import PipelineGraph.Proofs.Yaml.Literal
import PipelineGraph.Proofs.Yaml.Scanning

namespace PipelineGraph.Yaml

/-! ### What the choice of a style says -/

/-- **A text allows a style.** -/
inductive Allows (text : String) : Style → Prop
  | plain (reads : readsAsText text = true) (allowed : allowsPlain text.toList = true) :
      Allows text .plain
  | single (noFeed : '\n' ∉ text.toList) (allowed : allowsSingle text.toList = true) :
      Allows text .single
  | double : Allows text .double
  | literal (feed : '\n' ∈ text.toList) (allowed : allowsLiteral text.toList = true) :
      Allows text .literal

/-- A text is written in a style that it allows. -/
theorem allows_ofText (text : String) : Allows text (Style.ofText text) := by
  simp only [Style.ofText]
  split
  · rename_i feed
    split
    · rename_i allowed
      exact .literal (List.contains_iff_mem.mp feed) allowed
    · exact .double
  · rename_i noFeed
    split
    · rename_i both
      obtain ⟨reads, allowed⟩ := Bool.and_eq_true_iff.mp both
      exact .plain reads allowed
    · split
      · rename_i allowed
        exact .single (fun feed => noFeed (List.contains_iff_mem.mpr feed)) allowed
      · exact .double

/-- What a plain scalar is made of. -/
structure PlainText (text : List Char) : Prop where
  printable : ∀ c ∈ text, isPrintable c = true ∧ isBreak c = false
  startsWithSpace : startsWithSpace text = false
  endsWithSpace : endsWithSpace text = false
  startsLikeMarker : startsLikeMarker text = false
  startsLikeIndicator : startsLikeIndicator text = false
  hasInnerIndicator : hasInnerIndicator false text = false

theorem plainText_of_allowsPlain {text : List Char} (allowed : allowsPlain text = true) :
    PlainText text := by
  simp only [allowsPlain, allowsSingle, isTame, isMultiline, Bool.and_eq_true, Bool.not_eq_true',
    List.all_eq_true, List.any_eq_false, Bool.not_eq_true] at allowed
  obtain ⟨⟨⟨⟨⟨⟨⟨⟨printable, _⟩, _⟩, oneLine⟩, noStart⟩, noEnd⟩, noMarker⟩, noIndicator⟩, inner⟩ :=
    allowed
  exact ⟨fun c inside => ⟨printable c inside, oneLine c inside⟩, noStart, noEnd, noMarker, noIndicator,
    inner⟩

theorem PlainText.notBlank {c : Char} {rest : List Char} (plain : PlainText (c :: rest)) :
    isBlank c = false := by
  cases blank : isBlank c with
  | false => rfl
  | true =>
    have notSpace : isSpace c = false := plain.startsWithSpace
    rw [eq_space_of_printable (plain.printable c (List.mem_cons_self ..)).1 blank] at notSpace
    exact notSpace

/-- A text that reads as a text is not empty. -/
theorem ne_nil_of_readsAsText {text : String} (reads : readsAsText text = true) : text.toList ≠ [] := by
  intro empty
  rw [String.toList_eq_nil_iff] at empty
  subst empty
  exact absurd reads (by decide)

/-! ### Where a scalar starts -/

/-- **A scalar starts with a token**, whatever the style. -/
theorem atToken_scalarChars {text : String} {style : Style} (allows : Allows text style) (indent : Nat)
    (rest : List Char) : AtToken (scalarChars style indent text.toList ++ rest) := by
  cases allows with
  | single _ _ =>
    rintro c ⟨⟩
    decide
  | double =>
    rintro c ⟨⟩
    decide
  | literal _ _ =>
    rintro c ⟨⟩
    decide
  | plain reads allowed =>
    intro c first
    have plain := plainText_of_allowsPlain allowed
    show isBlank c = false ∧ _
    cases chars : text.toList with
    | nil => exact absurd chars (ne_nil_of_readsAsText reads)
    | cons d tail =>
      rw [chars] at first plain
      obtain rfl : d = c := Option.some.inj first
      obtain ⟨printable, notBreak⟩ := plain.printable d (List.mem_cons_self ..)
      have noIndicator := (Bool.or_eq_false_iff.mp plain.startsLikeIndicator).1
      refine ⟨plain.notBlank, notBreak, ?_, ?_⟩
      · rintro rfl
        exact absurd noIndicator (by decide)
      · rintro rfl
        exact absurd printable (by decide)

namespace Scanner

/-- A character that is no indicator starts a plain scalar. -/
theorem scanToken_plain {scanner : Scanner} {c : Char} {rest : List Char}
    (outside : scanner.inFlow = false) (ordinary : indicators.contains c = false)
    (notBlank : isBlank c = false) (apart : ((c == '?' || c == ':' || c == '-') && atGap rest) = false)
    (noMarker : scanner.column = 0 → atMarker (c :: rest) = false) :
    scanner.scanToken c rest = scanner.scanPlain := by
  have marker : (decide (scanner.column = 0) && atMarker (c :: rest)) = false := by
    by_cases start : scanner.column = 0
    · rw [noMarker start, Bool.and_false]
    · rw [decide_eq_false start, Bool.false_and]
  simp only [indicators, List.contains_cons, List.contains_nil, Bool.or_false, Bool.or_eq_false_iff,
    beq_eq_false_iff_ne, ne_eq] at ordinary
  have notEntry : ¬ (c = '-' ∧ atGap rest = true) := by
    rintro ⟨rfl, gap⟩
    simp [gap] at apart
  have notKey : ¬ (c = '?' ∧ atGap rest = true) := by
    rintro ⟨rfl, gap⟩
    simp [gap] at apart
  have notValue : ¬ (c = ':' ∧ atGap rest = true) := by
    rintro ⟨rfl, gap⟩
    simp [gap] at apart
  have starts : startsPlain false c rest = true := by
    simp only [Bool.and_eq_false_iff, Bool.or_eq_false_iff, beq_eq_false_iff_ne, ne_eq] at apart
    rcases apart with ⟨⟨notQuestion, notColon⟩, notHyphen⟩ | inside
    · simp [startsPlain, starters, notBlank, ordinary, notQuestion, notColon, notHyphen]
    · by_cases exempt : c = '-' ∨ c = '?' ∨ c = ':'
      · rcases exempt with rfl | rfl | rfl <;> simp [startsPlain, inside]
      · simp only [not_or] at exempt
        simp [startsPlain, starters, notBlank, ordinary, exempt]
  simp [scanToken, marker, outside, ordinary, starts, notEntry, notKey, notValue]

end Scanner

/-! ### Scalars on one line and between quotes -/

namespace Blocks

variable {blocks : Blocks} {mark : Mark} {text : String} {allowed : Bool} {indent : Nat}

/-- The scanner after a scalar where it stopped, with the key that may have begun at the scalar. -/
def afterScalar (blocks : Blocks) (mark : Mark) (allowed : Bool) (text : String) (plain : Bool)
    (stop : Cursor) (allowedThere : Bool) : Scanner :=
  (blocks.push (.scalar text plain)).scannerAt stop.mark stop.rest (blocks.savedKey mark allowed)
    allowedThere

/-- **A plain text is one token**, and the scanner stands where its reader stops after it. -/
theorem scanNext_plain (allows : Allows text .plain) {rest : List Char} {broken : Bool} {stop : Cursor}
    (within : blocks.indent ≤ mark.column)
    (noMarker : mark.column = 0 → atMarker (text.toList ++ rest) = false)
    (stops : readPlain ⟨false, (blocks.indent + 1).toNat⟩ .none (mark.skip text.toList.length) rest =
      some ⟨[], broken, stop⟩) :
    (blocks.scannerAt mark (scalarChars .plain indent text.toList ++ rest) none allowed).scanNext =
      some (blocks.afterScalar mark allowed text true stop broken) := by
  obtain ⟨reads, allowedPlain⟩ := allows
  have plain := plainText_of_allowsPlain allowedPlain
  have some := ne_nil_of_readsAsText reads
  have isRead := readPlain_append (blocks.indent + 1).toNat rest [] mark false some plain.printable
    plain.endsWithSpace plain.hasInnerIndicator (fun blanks => absurd rfl blanks)
    (.inl ⟨rfl, by omega⟩)
  rw [stops] at isRead
  simp only [Option.map_some, List.nil_append, List.append_nil] at isRead
  have scanned : (blocks.scannerAt mark (text.toList ++ rest) none allowed).scanPlain =
      .some (blocks.afterScalar mark allowed text true stop broken) := by
    rw [Scanner.scanPlain, saveKey_scannerAt]
    show (readPlain ⟨false, (blocks.indent + 1).toNat⟩ (.blanks []) mark
      (text.toList ++ rest)).bind _ = _
    rw [isRead]
    show Option.some ((blocks.push (.scalar (String.ofList text.toList) true)).scannerAt _ _ _ _) = _
    rw [String.ofList_toList]
    rfl
  show (blocks.scannerAt mark (text.toList ++ rest) none allowed).scanNext = _
  rw [← scanned]
  cases chars : text.toList with
  | nil => exact absurd chars some
  | cons c tail =>
    rw [chars] at plain noMarker
    obtain ⟨ordinary, apart⟩ := Bool.or_eq_false_iff.mp plain.startsLikeIndicator
    refine Scanner.scanToken_plain rfl ordinary plain.notBlank ?_ noMarker
    cases tail with
    | nil =>
      rw [show atGap [] = true from rfl, Bool.and_true] at apart
      rw [apart, Bool.false_and]
    | cons d tail => exact apart

/-- **A text between single quotes is one token.** -/
theorem scanNext_single (allows : Allows text .single) (positive : 0 < indent) {rest : List Char}
    (noQuote : rest.head? ≠ some '\'') :
    (blocks.scannerAt mark (scalarChars .single indent text.toList ++ rest) none allowed).scanNext =
      some (blocks.afterScalar mark allowed text false
        ⟨mark.after (scalarChars .single indent text.toList), rest⟩ false) := by
  obtain ⟨noFeed, allowedSingle⟩ : '\n' ∉ text.toList ∧ allowsSingle text.toList = true := by
    cases allows with
    | single noFeed allowed => exact ⟨noFeed, allowed⟩
  simp only [allowsSingle, isTame, Bool.and_eq_true, Bool.not_eq_true', List.all_eq_true]
    at allowedSingle
  obtain ⟨⟨printable, tame⟩, tameBreaks⟩ := allowedSingle
  have isRead := readSingle_singleChars positive noQuote .none (mark.skip 1) false
    ⟨printable, noFeed, tame, tameBreaks⟩ (.blanks (.inl rfl)) (.inr (Nat.succ_pos _))
  have written : scalarChars .single indent text.toList ++ rest =
      '\'' :: (singleChars indent false text.toList ++ '\'' :: rest) := by
    rw [scalarChars]
    simp
  have token : ∀ chars, (blocks.scannerAt mark ('\'' :: chars) none allowed).scanNext =
      (blocks.scannerAt mark ('\'' :: chars) none allowed).scanQuoted false := by
    intro chars
    show Scanner.scanToken _ '\'' chars = _
    simp [Scanner.scanToken, atMarker]
  rw [written, token, Scanner.scanQuoted, saveKey_scannerAt]
  show (readSingle .none (mark.skip 1) (singleChars indent false text.toList ++ '\'' :: rest)).bind _ = _
  rw [isRead]
  show Option.some ((blocks.push (.scalar (String.ofList text.toList) false)).scannerAt
    ((mark.skip 1).after (singleChars indent false text.toList ++ ['\''])) rest _ false) = _
  rw [String.ofList_toList]
  rfl

/-- **A text between double quotes is one token.** -/
theorem scanNext_double {rest : List Char} :
    (blocks.scannerAt mark (scalarChars .double indent text.toList ++ rest) none allowed).scanNext =
      some (blocks.afterScalar mark allowed text false
        ⟨mark.skip (scalarChars .double indent text.toList).length, rest⟩ false) := by
  have isRead : readDouble (.text (.blanks [])) (mark.skip 1) (doubleChars text.toList ++ '"' :: rest) =
      some ([] ++ text.toList, ⟨(mark.skip 1).skip ((doubleChars text.toList).length + 1), rest⟩) :=
    readDouble_doubleChars [] (mark.skip 1) (Nat.succ_pos _)
  have written : scalarChars .double indent text.toList ++ rest =
      '"' :: (doubleChars text.toList ++ '"' :: rest) := by
    rw [scalarChars]
    simp
  have token : ∀ chars, (blocks.scannerAt mark ('"' :: chars) none allowed).scanNext =
      (blocks.scannerAt mark ('"' :: chars) none allowed).scanQuoted true := by
    intro chars
    show Scanner.scanToken _ '"' chars = _
    simp [Scanner.scanToken, atMarker]
  have width : (scalarChars .double indent text.toList).length =
      1 + ((doubleChars text.toList).length + 1) := by
    rw [scalarChars]
    simp
    omega
  rw [written, token, Scanner.scanQuoted, saveKey_scannerAt, width, ← Mark.skip_skip]
  show (readDouble (.text (.blanks [])) (mark.skip 1) (doubleChars text.toList ++ '"' :: rest)).bind _ = _
  rw [isRead]
  show some ((blocks.push (.scalar (String.ofList text.toList) false)).scannerAt _ rest _ false) = _
  rw [String.ofList_toList]
  rfl

end Blocks

/-! ### Scalars with the end of their line -/

/-- What is read of a text that stands before a margin: the text, and the empty lines that a literal
block takes in. -/
def readBack (text : String) (margin : List Char) : String :=
  if Style.ofText text = .literal then String.ofList (text.toList ++ keptLines text.toList margin)
  else text

/-- Directly before a token a text is read as it is. -/
theorem readBack_nil (text : String) : readBack text [] = text := by
  have none : keptLines text.toList [] = [] := by
    rw [keptLines]
    split <;> rfl
  rw [readBack, none, List.append_nil, String.ofList_toList]
  split <;> rfl

namespace Blocks

variable {blocks : Blocks} {mark : Mark} {text : String} {allowed : Bool}
  {depth column : Nat} {margin goal : List Char}

/-- A literal block is one token, and no key can begin at it. -/
theorem scanNext_literal (allowedLiteral : allowsLiteral text.toList = true)
    (isIndent : blocks.indent = depth) (between : Margin depth margin) (atToken : AtToken goal)
    (outside : column ≤ depth) :
    ∃ (place : Mark) (stop : Cursor), place.column = 0 ∧ mark.line < place.line ∧
      (blocks.scannerAt mark (scalarChars .literal (depth + 2) text.toList ++
          ((if endsWithBreak text.toList then [] else ['\n']) ++ (margin ++ (spaces column ++ goal))))
          none allowed).scanNext =
        some ((blocks.push (.scalar (String.ofList (text.toList ++ keptLines text.toList margin))
          false)).scannerAt stop.mark stop.rest none true) ∧
      Scanner.skipSpace false true false stop.mark stop.rest =
        Scanner.skipSpace false true false place (margin ++ (spaces column ++ goal)) := by
  obtain ⟨place, stop, first, later, isRead, skipped⟩ :=
    readBlockScalar_literal allowedLiteral between atToken outside (mark.skip 1)
  refine ⟨place, stop, first, later, ?_, skipped⟩
  simp only [scalarChars, List.cons_append, List.append_assoc] at isRead ⊢
  generalize indentIndicator text.toList ++ _ = chars at isRead ⊢
  have token : (blocks.scannerAt mark ('|' :: chars) none allowed).scanNext =
      (blocks.scannerAt mark ('|' :: chars) none allowed).scanBlockScalar false := by
    show Scanner.scanToken _ '|' chars = _
    simp [Scanner.scanToken, atMarker, scannerAt, Scanner.inFlow]
  rw [token, Scanner.scanBlockScalar]
  show (readBlockScalar false blocks.indent ⟨mark.skip 1, chars⟩).bind _ = _
  rw [isIndent, isRead]
  rfl

theorem length_scalarLine_pos (indent : Nat) (text : String) : 0 < (scalarLine indent text).length := by
  simp only [scalarLine]
  cases Style.ofText text with
  | literal => exact Nat.succ_pos _
  | plain => simp
  | single => simp
  | double => simp

/-- A text and the end of its line are one token, and from where the reader stops the scanner goes on as
from the start of the margin. -/
theorem scanNext_scalarLine (text : String) (allowed : Bool) (isIndent : blocks.indent = depth)
    (inside : depth < mark.column) (between : Margin depth margin) (atToken : AtToken goal)
    (outside : column ≤ depth) :
    ∃ (place : Mark) (stop : Cursor) (key : Option PossibleKey) (allowedThere : Bool),
      place.column = 0 ∧ mark.line < place.line ∧ (key = none ∨ key = blocks.savedKey mark allowed) ∧
      (blocks.scannerAt mark (scalarLine (depth + 2) text ++ (margin ++ (spaces column ++ goal))) none
          allowed).scanNext =
        some ((blocks.push (.scalar (readBack text margin) (Style.ofText text = .plain))).scannerAt
          stop.mark stop.rest key allowedThere) ∧
      Scanner.skipSpace false allowedThere false stop.mark stop.rest =
        Scanner.skipSpace false true false place (margin ++ (spaces column ++ goal)) := by
  have allows := allows_ofText text
  generalize isTail : margin ++ (spaces column ++ goal) = tail
  simp only [scalarLine, readBack]
  generalize Style.ofText text = style at allows ⊢
  cases style with
  | plain =>
    have width : (blocks.indent + 1).toNat = depth + 1 := by omega
    obtain ⟨stop, isRead, skipped⟩ := readPlain_margin between atToken (Nat.lt_succ_of_le outside)
      (Gap.none.addBreak ['\n']) ((mark.skip text.toList.length).nextLine 1) rfl rfl
    rw [isTail] at isRead skipped
    refine ⟨_, stop, _, true, rfl, Nat.lt_succ_self _, .inr rfl, ?_, skipped⟩
    rw [List.append_assoc]
    refine scanNext_plain allows (by omega) (by omega) ?_
    rw [width]
    exact readPlain_lineFeed.trans isRead
  | single =>
    rw [List.append_assoc]
    exact ⟨_, _, _, _, rfl, Nat.lt_succ_of_le (Mark.line_le_after _ _), .inr rfl,
      scanNext_single allows (Nat.succ_pos _) (fun same => nomatch same), skipSpace_lineFeed⟩
  | double =>
    rw [List.append_assoc]
    exact ⟨_, _, _, _, rfl, Nat.lt_succ_self _, .inr rfl, scanNext_double, skipSpace_lineFeed⟩
  | literal =>
    subst isTail
    cases allows with
    | literal _ allowedLiteral =>
      obtain ⟨place, stop, first, later, scanned, skipped⟩ :=
        scanNext_literal allowedLiteral isIndent between atToken outside
      refine ⟨place, stop, none, true, first, later, .inl rfl, ?_, skipped⟩
      rw [List.append_assoc]
      exact scanned

/-- A key that may begin inside of a block is given up on the next line. -/
theorem keyAt_savedKey {landing : Mark} (inside : blocks.indent < mark.column)
    (later : mark.line < landing.line) : keyAt landing (blocks.savedKey mark allowed) = some none := by
  cases allowed with
  | false => rfl
  | true =>
    have notRequired : decide (blocks.indent = mark.column) = false :=
      decide_eq_false (Int.ne_of_lt inside)
    rw [savedKey, notRequired]
    simp [keyAt, Scanner.isStale, later, Scanner.giveUp]

/-- **A text and the end of its line are one turn**, up to the token after the margin. -/
theorem next_scalarLine (blocks : Blocks) (mark : Mark) (text : String) (allowed : Bool)
    (depth : Nat) (isIndent : blocks.indent = depth) (inside : depth < mark.column)
    (between : Margin depth margin) (atToken : AtToken goal) (outside : column ≤ depth) :
    ∃ landing : Mark, landing.column = column ∧
      Scanner.Next
        (blocks.scannerAt mark (scalarLine (depth + 2) text ++ (margin ++ (spaces column ++ goal))) none
          allowed)
        (((blocks.push (.scalar (readBack text margin) (Style.ofText text = .plain))).leave
          column).scannerAt landing goal none true) := by
  obtain ⟨place, stop, key, allowedThere, first, later, isKey, scanned, skipped⟩ :=
    scanNext_scalarLine text allowed isIndent inside between atToken outside
  obtain ⟨landing, skips, atColumn, further⟩ := skipSpace_margin between column atToken place first
  have gone : keyAt landing key = some none := by
    rcases isKey with rfl | rfl
    · rfl
    · exact keyAt_savedKey (by omega) (Nat.lt_of_lt_of_le later further)
  refine ⟨landing, atColumn, _, scanned, ?_, ?_⟩
  · rw [settle_scannerAt (skipped.trans skips) gone, atColumn]
  · show goal.length < (scalarLine _ _ ++ _).length
    have positive := length_scalarLine_pos (depth + 2) text
    simp only [List.length_append]
    omega

end Blocks

/-! ### How long a text of one line gets -/

theorem singleChars_of_line {indent : Nat} {text : List Char} (oneLine : ∀ c ∈ text, isBreak c = false) :
    singleChars indent false text = text.flatMap wordChar := by
  induction text with
  | nil => rfl
  | cons c text ih =>
    rw [List.forall_mem_cons] at oneLine
    rw [singleChars_cons, singleChar, oneLine.1, ih oneLine.2, List.flatMap_cons]
    rfl

/-- A text of one line is on one line between single quotes. -/
theorem scalarChars_single_of_line {indent : Nat} {text : List Char}
    (oneLine : ∀ c ∈ text, isBreak c = false) :
    ∀ c ∈ scalarChars .single indent text, isBreak c = false := by
  have quote : isBreak '\'' = false := rfl
  intro c inside
  rw [scalarChars, singleChars_of_line oneLine] at inside
  simp only [List.mem_cons, List.mem_append, List.mem_flatMap, List.not_mem_nil, or_false] at inside
  rcases inside with (rfl | ⟨d, isIn, isChar⟩) | rfl
  · exact quote
  · exact isBreak_of_mem_wordChar (oneLine d isIn) isChar
  · exact quote

theorem length_flatMap_le {write : Char → List Char} {width : Nat}
    (narrow : ∀ c, (write c).length ≤ width) (text : List Char) :
    (text.flatMap write).length ≤ width * text.length := by
  induction text with
  | nil => exact Nat.zero_le _
  | cons c text ih =>
    rw [List.flatMap_cons, List.length_append, List.length_cons, Nat.mul_succ]
    have := narrow c
    omega

theorem length_doubleChar_le (c : Char) : (doubleChar c).length ≤ 6 := by
  rw [doubleChar_eq]
  split
  · rename_i needs
    exact (standsForChar_escape needs).length_le
  · exact Nat.le_add_left 1 5

/-- Every character of a text of one line becomes at most six. -/
theorem length_scalarChars_le {text : String} {style : Style} (allows : Allows text style)
    (oneLine : ∀ c ∈ text.toList, isBreak c = false) (indent : Nat) :
    (scalarChars style indent text.toList).length ≤ 6 * text.toList.length + 2 := by
  cases allows with
  | plain _ _ =>
    show text.toList.length ≤ _
    omega
  | single _ _ =>
    have narrow := length_flatMap_le length_wordChar_le text.toList
    rw [scalarChars, singleChars_of_line oneLine]
    simp only [List.length_append, List.length_cons, List.length_nil]
    omega
  | double =>
    have narrow := length_flatMap_le length_doubleChar_le text.toList
    rw [scalarChars, doubleChars]
    simp only [List.length_append, List.length_cons, List.length_nil]
    omega
  | literal feed _ => exact absurd (oneLine _ feed) (by decide)

/-- A character is at least one byte. -/
theorem length_le_size_utf8Encode (chars : List Char) : chars.length ≤ chars.utf8Encode.size := by
  induction chars with
  | nil => exact Nat.zero_le _
  | cons c chars ih =>
    have positive := c.utf8Size_pos
    rw [List.utf8Encode_cons, ByteArray.size_append, List.utf8Encode_singleton,
      List.size_toByteArray, String.length_utf8EncodeChar, List.length_cons]
    omega

theorem length_toList_le_utf8ByteSize (text : String) : text.toList.length ≤ text.utf8ByteSize := by
  have counts := length_le_size_utf8Encode text.toList
  rwa [String.utf8Encode_toList] at counts

/-- **A text that can stand in front of a colon does not become too long for a key.** -/
theorem length_scalarChars_of_isSimpleKey {text : String} (simple : isSimpleKey text = true)
    (indent : Nat) : (scalarChars (Style.ofText text) indent text.toList).length ≤ 1024 := by
  simp only [isSimpleKey, isMultiline, Bool.and_eq_true, Bool.not_eq_true', List.any_eq_false,
    Bool.not_eq_true, decide_eq_true_eq] at simple
  have narrow := length_scalarChars_le (allows_ofText text) simple.1 indent
  have counts := length_toList_le_utf8ByteSize text
  omega

/-! ### Keys -/

namespace Blocks

variable {blocks : Blocks} {mark : Mark} {text : String} {indent : Nat} {tail : List Char}

theorem not_atMarker_colon {chars : List Char} (noMarker : startsLikeMarker chars = false) :
    atMarker (chars ++ ':' :: tail) = false := by
  unfold atMarker
  split
  all_goals
    rename_i same
    rcases chars with _ | ⟨a, _ | ⟨b, _ | ⟨c, chars⟩⟩⟩
  all_goals try simp at same
  · obtain ⟨rfl, rfl, rfl, _⟩ := same
    cases noMarker
  · obtain ⟨rfl, rfl, rfl, _⟩ := same
    cases noMarker
  all_goals rfl

/-- A plain scalar ends before a colon with a gap after it. -/
theorem readPlain_colon {mark : Mark} {least : Nat} (gap : atGap tail = true) :
    readPlain ⟨false, least⟩ .none mark (':' :: tail) = some ⟨[], false, ⟨mark, ':' :: tail⟩⟩ := by
  rw [readPlain_cons (by decide), if_neg (by decide), if_neg (by decide),
    if_neg (by simp [PlainContext.endsBefore]), if_neg (by simp [PlainContext.isUnclear]),
    if_pos (by simp [PlainContext.endsAt, gap])]
  rfl

/-- A text of one line in front of a colon is one token. -/
theorem scanNext_beforeColon (allowed : Bool) (positive : 0 < indent)
    (oneLine : ∀ c ∈ text.toList, isBreak c = false) (within : blocks.indent ≤ mark.column)
    (gap : atGap tail = true) :
    (blocks.scannerAt mark (scalarChars (Style.ofText text) indent text.toList ++ ':' :: tail) none
        allowed).scanNext =
      some (blocks.afterScalar mark allowed text (Style.ofText text = .plain)
        ⟨mark.skip (scalarChars (Style.ofText text) indent text.toList).length, ':' :: tail⟩ false) := by
  have allows := allows_ofText text
  generalize Style.ofText text = style at allows ⊢
  cases style with
  | plain =>
    cases allows with
    | plain reads allowedPlain =>
      exact scanNext_plain (.plain reads allowedPlain) within
        (fun _ => not_atMarker_colon (plainText_of_allowsPlain allowedPlain).startsLikeMarker)
        (readPlain_colon gap)
  | single =>
    rw [← Mark.after_of_line (scalarChars_single_of_line oneLine)]
    exact scanNext_single allows positive (fun same => nomatch same)
  | double => exact scanNext_double
  | literal =>
    cases allows with
    | literal feed _ => exact absurd (oneLine _ feed) (by decide)

theorem length_scalarChars_pos {style : Style} (allows : Allows text style) (indent : Nat) :
    0 < (scalarChars style indent text.toList).length := by
  cases allows with
  | plain reads _ => exact List.length_pos_iff.mpr (ne_nil_of_readsAsText reads)
  | single _ _ => exact Nat.succ_pos _
  | double => exact Nat.succ_pos _
  | literal _ _ => exact Nat.succ_pos _

/-- A key is not given up at the colon after it. -/
theorem next_beforeColon (positive : 0 < indent) (simple : isSimpleKey text = true)
    (within : blocks.indent ≤ mark.column) (gap : atGap tail = true) :
    Scanner.Next
      (blocks.scannerAt mark (scalarChars (Style.ofText text) indent text.toList ++ ':' :: tail) none
        true)
      (blocks.afterScalar mark true text (Style.ofText text = .plain)
        ⟨mark.skip (scalarChars (Style.ofText text) indent text.toList).length, ':' :: tail⟩ false) := by
  have oneLine : ∀ c ∈ text.toList, isBreak c = false := by
    simp only [isSimpleKey, isMultiline, Bool.and_eq_true, Bool.not_eq_true', List.any_eq_false,
      Bool.not_eq_true] at simple
    exact simple.1
  have narrow := length_scalarChars_of_isSimpleKey simple indent
  have some := length_scalarChars_pos (allows_ofText text) indent
  have scanned := scanNext_beforeColon true positive oneLine within gap
  generalize isChars : scalarChars (Style.ofText text) indent text.toList = chars
    at narrow some scanned ⊢
  have atColon : AtToken (':' :: tail) := by
    rintro c ⟨⟩
    decide
  have kept : keyAt (mark.skip chars.length) (blocks.savedKey mark true) =
      .some (blocks.savedKey mark true) := by
    have fresh : Scanner.isStale (mark.skip chars.length)
        ⟨blocks.tokens.length, mark, decide (blocks.indent = mark.column)⟩ = false := by
      simp [Scanner.isStale, Mark.skip]
      omega
    rw [savedKey, if_pos rfl, keyAt, if_neg (by simp [fresh])]
  refine ⟨_, scanned, ?_, ?_⟩
  · rw [afterScalar, settle_scannerAt (skipSpace_token atColon) kept, leave_of_le]
    show blocks.indent ≤ ((mark.column + chars.length : Nat) : Int)
    omega
  · show (':' :: tail).length < (chars ++ ':' :: tail).length
    rw [List.length_append]
    omega

/-- **At the colon after it a scalar turns out to be a key**, of a block mapping that starts with it
unless one is open at its column. -/
theorem next_colon_afterKey {place landing : Mark} {token : Token} {goal : List Char}
    {allowedThere : Bool} (within : blocks.indent ≤ mark.column) (gap : atGap tail = true)
    (skips : Scanner.skipSpace false false false (place.skip 1) tail = (⟨landing, goal⟩, allowedThere))
    (further : mark.column ≤ landing.column) (shorter : goal.length ≤ tail.length) :
    Scanner.Next
      ((blocks.push token).scannerAt place (':' :: tail) (blocks.savedKey mark true) false)
      (((((blocks.enter mark.column).push .key).push token).push .value).scannerAt landing goal none
        allowedThere) := by
  have scanned : ((blocks.push token).scannerAt place (':' :: tail) (blocks.savedKey mark true)
      false).scanNext = some (((((blocks.enter mark.column).push .key).push token).push
        .value).scannerAt (place.skip 1) tail none false) := by
    have isValue : ((blocks.push token).scannerAt place (':' :: tail) (blocks.savedKey mark true)
        false).scanNext = ((blocks.push token).scannerAt place (':' :: tail) (blocks.savedKey mark true)
        false).scanValue := by
      show Scanner.scanToken _ ':' tail = _
      simp [Scanner.scanToken, atMarker, gap]
    -- The key is put in before the scalar, and the start of the block before the key.
    have inserted : ((blocks.push token).scannerAt place (':' :: tail) (blocks.savedKey mark true)
        false).insert blocks.tokens.length .key =
        (blocks.pushAll [token, .key]).scannerAt place (':' :: tail) (blocks.savedKey mark true) false :=
      insert_scannerAt [token] .key
    rw [isValue]
    show some (((({ (((blocks.push token).scannerAt place (':' :: tail) (blocks.savedKey mark true)
      false).insert blocks.tokens.length .key).openBlock mark.column blocks.tokens.length
        .blockMappingStart with keys := [none] } : Scanner).allowKey false).skip 1).push .value) = _
    rw [inserted, openBlock_scannerAt]
    rfl
  refine ⟨_, scanned, ?_, Nat.lt_succ_of_le shorter⟩
  rw [settle_scannerAt skips rfl, leave_of_le]
  show (blocks.enter mark.column).indent ≤ landing.column
  rw [indent_enter blocks within]
  exact Int.ofNat_le.mpr further

/-- **A short text in front of a colon becomes a key**, of a block mapping that starts with it unless one
is open at its column; then come the white space after the colon and the next token. -/
theorem reaches_key (positive : 0 < indent) (simple : isSimpleKey text = true)
    (within : blocks.indent ≤ mark.column) (gap : atGap tail = true) {landing : Mark} {goal : List Char}
    {allowedThere : Bool}
    (skips : Scanner.skipSpace false false false
      ((mark.skip (scalarChars (Style.ofText text) indent text.toList).length).skip 1) tail =
        (⟨landing, goal⟩, allowedThere))
    (further : mark.column ≤ landing.column) (shorter : goal.length ≤ tail.length) :
    Scanner.Reaches
      (blocks.scannerAt mark (scalarChars (Style.ofText text) indent text.toList ++ ':' :: tail) none
        true)
      (((((blocks.enter mark.column).push .key).push (.scalar text (Style.ofText text = .plain))).push
        .value).scannerAt landing goal none allowedThere) :=
  .head (next_beforeColon positive simple within gap)
    (.single (next_colon_afterKey within gap skips further shorter))

/-- A key whose value is on the same line. -/
theorem reaches_key_space (blocks : Blocks) (mark : Mark) (positive : 0 < indent)
    (simple : isSimpleKey text = true) (within : blocks.indent ≤ mark.column) {goal : List Char}
    (atToken : AtToken goal) :
    ∃ landing : Mark, mark.column < landing.column ∧ Scanner.Reaches
      (blocks.scannerAt mark (scalarChars (Style.ofText text) indent text.toList ++ ':' :: ' ' :: goal)
        none true)
      (((((blocks.enter mark.column).push .key).push (.scalar text (Style.ofText text = .plain))).push
        .value).scannerAt landing goal none false) := by
  have further : mark.column < (((mark.skip (scalarChars (Style.ofText text) indent
      text.toList).length).skip 1).skip 1).column :=
    Nat.lt_succ_of_le (Nat.le_succ_of_le (Nat.le_add_right _ _))
  exact ⟨_, further, reaches_key positive simple within rfl
    (skipSpace_space.trans (skipSpace_token atToken)) (Nat.le_of_lt further) (Nat.le_succ _)⟩

/-- A key whose value is on the next line. -/
theorem reaches_key_line (blocks : Blocks) (mark : Mark) (positive : 0 < indent)
    (simple : isSimpleKey text = true) (within : blocks.indent ≤ mark.column) {goal : List Char}
    (atToken : AtToken goal) {width : Nat} (further : mark.column ≤ width) :
    ∃ landing : Mark, landing.column = width ∧ Scanner.Reaches
      (blocks.scannerAt mark (scalarChars (Style.ofText text) indent text.toList ++
        ':' :: '\n' :: (spaces width ++ goal)) none true)
      (((((blocks.enter mark.column).push .key).push (.scalar text (Style.ofText text = .plain))).push
        .value).scannerAt landing goal none true) := by
  refine ⟨(Mark.nextLine _ 1).skip width, Nat.zero_add _, reaches_key positive simple within rfl
    (skipSpace_lineFeed.trans ((skipSpace_spaces width).trans (skipSpace_token atToken))) ?_ ?_⟩
  · rwa [show ((Mark.nextLine _ 1).skip width).column = width from Nat.zero_add _]
  · simp only [List.length_cons, List.length_append]
    omega

/-- An indicator that starts a line and is one token: the next one is after the space. -/
theorem next_of_indicator {c : Char} {token : Token} {goal : List Char} (atToken : AtToken goal)
    (within : blocks.indent ≤ mark.column)
    (scanned : (blocks.scannerAt mark (c :: ' ' :: goal) none true).scanNext =
      some (((blocks.enter mark.column).push token).scannerAt (mark.skip 1) (' ' :: goal) none true)) :
    Scanner.Next (blocks.scannerAt mark (c :: ' ' :: goal) none true)
      (((blocks.enter mark.column).push token).scannerAt (mark.skip 2) goal none true) := by
  refine ⟨_, scanned, ?_, ?_⟩
  · rw [settle_scannerAt (skipSpace_space.trans (skipSpace_token atToken)) rfl, Mark.skip_skip,
      leave_of_le]
    show (blocks.enter mark.column).indent ≤ ((mark.column + 2 : Nat) : Int)
    rw [indent_enter blocks within]
    omega
  · exact Nat.lt_succ_of_lt (Nat.lt_succ_self _)

/-- **A question mark starts a key** that is written on lines of its own. -/
theorem next_question (blocks : Blocks) (mark : Mark) {goal : List Char} (atToken : AtToken goal)
    (within : blocks.indent ≤ mark.column) :
    Scanner.Next (blocks.scannerAt mark ('?' :: ' ' :: goal) none true)
      (((blocks.enter mark.column).push .key).scannerAt (mark.skip 2) goal none true) := by
  have isKey : (blocks.scannerAt mark ('?' :: ' ' :: goal) none true).scanNext =
      (blocks.scannerAt mark ('?' :: ' ' :: goal) none true).scanKey := by
    show Scanner.scanToken _ '?' (' ' :: goal) = _
    simp [Scanner.scanToken, atMarker, atGap, isBlank]
  have scanned : (blocks.scannerAt mark ('?' :: ' ' :: goal) none true).scanNext =
      some (((blocks.enter mark.column).push .key).scannerAt (mark.skip 1) (' ' :: goal) none true) := by
    rw [isKey]
    show (((blocks.pushAll []).scannerAt mark ('?' :: ' ' :: goal) none true).openBlock mark.column
      blocks.tokens.length .blockMappingStart).removeKey.bind _ = _
    rw [openBlock_scannerAt]
    rfl
  exact next_of_indicator atToken within scanned

/-- **A colon at the start of a line comes before the value** of such a key. -/
theorem next_colon (blocks : Blocks) (mark : Mark) {goal : List Char} (atToken : AtToken goal)
    (within : blocks.indent ≤ mark.column) :
    Scanner.Next (blocks.scannerAt mark (':' :: ' ' :: goal) none true)
      (((blocks.enter mark.column).push .value).scannerAt (mark.skip 2) goal none true) := by
  have isValue : (blocks.scannerAt mark (':' :: ' ' :: goal) none true).scanNext =
      (blocks.scannerAt mark (':' :: ' ' :: goal) none true).scanValue := by
    show Scanner.scanToken _ ':' (' ' :: goal) = _
    simp [Scanner.scanToken, atMarker, atGap, isBlank]
  have scanned : (blocks.scannerAt mark (':' :: ' ' :: goal) none true).scanNext =
      some (((blocks.enter mark.column).push .value).scannerAt (mark.skip 1) (' ' :: goal) none true) := by
    rw [isValue]
    show (fun scanner : Scanner => some (((scanner.allowKey (!scanner.inFlow)).skip 1).push .value))
      (((blocks.pushAll []).scannerAt mark (':' :: ' ' :: goal) none true).openBlock mark.column
        blocks.tokens.length .blockMappingStart) = _
    rw [openBlock_scannerAt]
    rfl
  exact next_of_indicator atToken within scanned

end Blocks

end PipelineGraph.Yaml
