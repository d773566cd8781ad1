/-
**How the string literals of the source are read.**

A literal stands between double quotes, one at each end or three. `scan` finds its end: a backslash
takes the next character along, the first quotes that are not taken along end the literal, and a literal
with one quote at each end has to end on its line. `decode` gives the code points that its characters
stand for, and fails at an escape that is not complete. `readLiteral` does one after the other.

No escape goes on beyond a line, so a text is decoded line by line (`decode_line_append`).
-/

import PipelineGraph.Yaml.Character

namespace PipelineGraph.Source

open Yaml (hexDigit?)

/-! ### The end of a literal -/

/-- The quotes at either end of a literal: one, or three. -/
inductive Quotes
  | single
  | triple

namespace Quotes

/-- The quotes that end a literal. -/
def marks : Quotes → List Char
  | single => ['"']
  | triple => ['"', '"', '"']

/-- The characters that a literal cannot hold: one with single quotes stays on its line. -/
def refuses : Quotes → Char → Bool
  | single, c => c = '\n' || c = '\r'
  | triple, _ => false

end Quotes

/-- What a literal holds up to the quotes that end it, and what follows these. A character that is
`escaped` is taken as it is. -/
def scan (quotes : Quotes) (escaped : Bool) : List Char → Option (List Char × List Char)
  | [] => none
  | c :: rest =>
    if !escaped && quotes.marks.isPrefixOf (c :: rest) then
      some ([], (c :: rest).drop quotes.marks.length)
    else if quotes.refuses c then none
    else (scan quotes (!escaped && c = '\\') rest).map fun found => (c :: found.1, found.2)

section Scan

variable {quotes : Quotes} {c : Char}

/-- The quotes of a literal end it. -/
theorem scan_marks (quotes : Quotes) (rest : List Char) :
    scan quotes false (quotes.marks ++ rest) = some ([], rest) := by
  cases quotes <;> simp [scan, Quotes.marks]

/-- A backslash takes the next character along. -/
theorem scan_backslash (quotes : Quotes) (rest : List Char) :
    scan quotes false ('\\' :: rest) =
      (scan quotes true rest).map fun found => ('\\' :: found.1, found.2) := by
  cases quotes <;> simp [scan, Quotes.marks, Quotes.refuses]

/-- A character that is taken along ends nothing. -/
theorem scan_escaped (allowed : quotes.refuses c = false) (rest : List Char) :
    scan quotes true (c :: rest) =
      (scan quotes false rest).map fun found => (c :: found.1, found.2) := by
  simp [scan, allowed]

/-- A backslash is passed together with the character after it. -/
theorem scan_pair (allowed : quotes.refuses c = false) (rest : List Char) :
    scan quotes false ('\\' :: c :: rest) =
      (scan quotes false rest).map fun found => ('\\' :: c :: found.1, found.2) := by
  rw [scan_backslash, scan_escaped allowed, Option.map_map]
  rfl

/-- A quote is passed where there are fewer than it takes to end the literal. -/
theorem scan_quote (few : ¬ quotes.marks <+: '"' :: rest) :
    scan quotes false ('"' :: rest) =
      (scan quotes false rest).map fun found => ('"' :: found.1, found.2) := by
  have allowed : quotes.refuses '"' = false := by cases quotes <;> rfl
  simp [scan, allowed, few]

/-- Any other character is passed. -/
theorem scan_other (notBackslash : c ≠ '\\') (notQuote : c ≠ '"') (allowed : quotes.refuses c = false)
    (rest : List Char) :
    scan quotes false (c :: rest) =
      (scan quotes false rest).map fun found => (c :: found.1, found.2) := by
  have inside : quotes.marks.isPrefixOf (c :: rest) = false := by
    cases quotes <;> simp [Quotes.marks, List.isPrefixOf, Ne.symm notQuote]
  simp [scan, inside, allowed, notBackslash]

end Scan

/-! ### Escapes -/

/-- The characters that an escape may call by name. No name goes on beyond a line. -/
structure CharacterNames where
  find : List Char → Option Nat
  oneLine : ∀ name, '\n' ∈ name → find name = none

/-- What a backslash makes of the character after it. -/
inductive Escape
  /-- The line goes on. -/
  | lineEnd
  /-- One code point. -/
  | sign (point : Nat)
  /-- The code point with this many hexadecimal digits. -/
  | hex (width : Nat)
  /-- The code point with up to three octal digits, of which the character is the first. -/
  | octal
  /-- The code point with a name in braces. -/
  | name
  /-- No escape: the backslash stands for itself. -/
  | plain
  deriving DecidableEq

/-- A digit from 0 to 7. -/
def isOctal (c : Char) : Bool := '0' ≤ c && c ≤ '7'

/-- What a backslash makes of a character. -/
def Escape.ofChar : Char → Escape
  | '\n' => .lineEnd
  | '\\' => .sign 0x5C
  | '"' => .sign 0x22
  | '\x27' => .sign 0x27
  | 'a' => .sign 0x7
  | 'b' => .sign 0x8
  | 't' => .sign 0x9
  | 'n' => .sign 0xA
  | 'v' => .sign 0xB
  | 'f' => .sign 0xC
  | 'r' => .sign 0xD
  | 'x' => .hex 2
  | 'u' => .hex 4
  | 'U' => .hex 8
  | 'N' => .name
  | c => if isOctal c then .octal else .plain

/-- Reads hexadecimal digits, as many as there have to be. -/
def readHex : Nat → Nat → List Char → Option (Nat × List Char)
  | 0, value, text => some (value, text)
  | _ + 1, _, [] => none
  | width + 1, value, c :: rest => do readHex width (value * 16 + (← hexDigit? c)) rest

/-- Reads octal digits, as many as there are up to a width. -/
def readOctal : Nat → Nat → List Char → Nat × List Char
  | 0, value, text => (value, text)
  | _ + 1, value, [] => (value, [])
  | width + 1, value, c :: rest =>
    if isOctal c then readOctal width (value * 8 + (c.toNat - '0'.toNat)) rest else (value, c :: rest)

/-- What stands before a closing brace, and what follows it. -/
def toBrace : List Char → Option (List Char × List Char)
  | [] => none
  | c :: rest =>
    if c = '}' then some ([], rest)
    else (toBrace rest).map fun found => (c :: found.1, found.2)

/-- Reads a name in braces. -/
def readName (names : CharacterNames) : List Char → Option (Nat × List Char)
  | [] => none
  | c :: rest =>
    if c = '{' then do
      let (name, after) ← toBrace rest
      return (← names.find name, after)
    else none

/-- The code points of an escape whose backslash has been read, and what follows it. -/
def readEscape (names : CharacterNames) : List Char → Option (List Nat × List Char)
  | [] => none
  | c :: rest =>
    match Escape.ofChar c with
    | .lineEnd => some ([], rest)
    | .sign point => some ([point], rest)
    | .hex width => do
      let (point, after) ← readHex width 0 rest
      if point ≤ 0x10FFFF then some ([point], after) else none
    | .octal =>
      let found := readOctal 3 0 (c :: rest)
      some ([found.1], found.2)
    | .name => do
      let (point, after) ← readName names rest
      some ([point], after)
    | .plain => some (['\\'.toNat, c.toNat], rest)

theorem readHex_length {width value : Nat} {text : List Char} {found : Nat × List Char}
    (isRead : readHex width value text = some found) : found.2.length ≤ text.length := by
  fun_induction readHex width value text with
  | case1 value text =>
    cases isRead
    exact Nat.le_refl _
  | case2 => cases isRead
  | case3 width value c rest ih =>
    obtain ⟨digit, _, isRead⟩ := Option.bind_eq_some_iff.mp isRead
    exact Nat.le_succ_of_le (ih digit isRead)

theorem readOctal_length (width value : Nat) (text : List Char) :
    (readOctal width value text).2.length ≤ text.length := by
  fun_induction readOctal width value text with
  | case1 => exact Nat.le_refl _
  | case2 => exact Nat.le_refl _
  | case3 width value c rest digit ih => exact Nat.le_succ_of_le ih
  | case4 => exact Nat.le_refl _

theorem toBrace_length {text : List Char} {found : List Char × List Char}
    (closes : toBrace text = some found) : found.2.length ≤ text.length := by
  induction text generalizing found with
  | nil => cases closes
  | cons c text ih =>
    rw [toBrace] at closes
    split at closes
    · cases closes
      exact Nat.le_succ _
    · obtain ⟨later, closesLater, rfl⟩ := Option.map_eq_some_iff.mp closes
      have shorter := ih closesLater
      exact Nat.le_succ_of_le shorter

theorem readName_length {names : CharacterNames} {text : List Char} {found : Nat × List Char}
    (isRead : readName names text = some found) : found.2.length ≤ text.length := by
  cases text with
  | nil => cases isRead
  | cons c text =>
    obtain ⟨_, isRead⟩ := Option.ite_none_right_eq_some.mp isRead
    obtain ⟨⟨name, after⟩, closes, isRead⟩ := Option.bind_eq_some_iff.mp isRead
    obtain ⟨point, _, isRead⟩ := Option.bind_eq_some_iff.mp isRead
    cases isRead
    exact Nat.le_succ_of_le (toBrace_length closes)

/-- What follows an escape is shorter. -/
theorem readEscape_length {names : CharacterNames} {text : List Char}
    {found : List Nat × List Char} (isRead : readEscape names text = some found) :
    found.2.length ≤ text.length := by
  unfold readEscape at isRead
  split at isRead
  · cases isRead
  · rename_i c rest
    suffices shorter : found.2.length ≤ rest.length ∨ found.2.length ≤ (c :: rest).length from
      shorter.elim Nat.le_succ_of_le id
    split at isRead
    · cases isRead
      exact .inl (Nat.le_refl _)
    · cases isRead
      exact .inl (Nat.le_refl _)
    · obtain ⟨⟨point, after⟩, digits, isRead⟩ := Option.bind_eq_some_iff.mp isRead
      obtain ⟨_, isRead⟩ := Option.ite_none_right_eq_some.mp isRead
      cases isRead
      exact .inl (readHex_length digits)
    · cases isRead
      exact .inr (readOctal_length 3 0 (c :: rest))
    · obtain ⟨⟨point, after⟩, named, isRead⟩ := Option.bind_eq_some_iff.mp isRead
      cases isRead
      exact .inl (readName_length named)
    · cases isRead
      exact .inl (Nat.le_refl _)

/-- The code points that the characters of a literal stand for. -/
def decode (names : CharacterNames) (text : List Char) : Option (List Nat) :=
  match text with
  | [] => some []
  | c :: rest =>
    if c = '\\' then
      match _ : readEscape names rest with
      | none => none
      | some (points, after) => (decode names after).map (points ++ ·)
    else (decode names rest).map (c.toNat :: ·)
termination_by text.length
decreasing_by
  · exact Nat.lt_succ_of_le (readEscape_length ‹_›)
  · exact Nat.lt_succ_self _

@[simp]
theorem decode_nil (names : CharacterNames) : decode names [] = some [] := by rw [decode]

theorem decode_cons (names : CharacterNames) {c : Char} (notBackslash : c ≠ '\\') (rest : List Char) :
    decode names (c :: rest) = (decode names rest).map (c.toNat :: ·) := by
  rw [decode, if_neg notBackslash]

theorem decode_backslash (names : CharacterNames) (rest : List Char) :
    decode names ('\\' :: rest) = (readEscape names rest).bind fun found =>
      (decode names found.2).map (found.1 ++ ·) := by
  rw [decode, if_pos rfl]
  split
  · rename_i failed
    rw [failed, Option.bind_none]
  · rename_i points after isRead
    rw [isRead, Option.bind_some]

theorem decode_sign (names : CharacterNames) {c : Char} {point : Nat}
    (sign : Escape.ofChar c = .sign point) (rest : List Char) :
    decode names ('\\' :: c :: rest) = (decode names rest).map (point :: ·) := by
  rw [decode_backslash, readEscape, sign]
  rfl

/-- A backslash stands for itself before a character with which it makes no escape. -/
theorem decode_plain (names : CharacterNames) {c : Char} (plain : Escape.ofChar c = .plain)
    (rest : List Char) :
    decode names ('\\' :: c :: rest) =
      (decode names rest).map (['\\', c].map Char.toNat ++ ·) := by
  rw [decode_backslash, readEscape, plain]
  rfl

/-! ### Line by line -/

theorem readHex_append (width value : Nat) (front rest : List Char) :
    readHex width value (front ++ '\n' :: rest) =
      (readHex width value front).map fun found => (found.1, found.2 ++ '\n' :: rest) := by
  fun_induction readHex width value front with
  | case1 => rfl
  | case2 => rfl
  | case3 width value c front ih =>
    rw [List.cons_append, readHex]
    cases hexDigit? c with
    | none => rfl
    | some digit => exact ih digit

theorem readOctal_append (width value : Nat) (front rest : List Char) :
    readOctal width value (front ++ '\n' :: rest) =
      ((readOctal width value front).1, (readOctal width value front).2 ++ '\n' :: rest) := by
  fun_induction readOctal width value front with
  | case1 => rfl
  | case2 => rfl
  | case3 width value c front digit ih => rw [List.cons_append, readOctal, if_pos digit, ih]
  | case4 width value c front noDigit => rw [List.cons_append, readOctal, if_neg noDigit]

theorem toBrace_append {front : List Char} {found : List Char × List Char}
    (closes : toBrace front = some found) (rest : List Char) :
    toBrace (front ++ rest) = some (found.1, found.2 ++ rest) := by
  induction front generalizing found with
  | nil => cases closes
  | cons c front ih =>
    rw [toBrace] at closes
    rw [List.cons_append, toBrace]
    split at closes
    · rename_i close
      cases closes
      rw [if_pos close]
    · rename_i inside
      obtain ⟨later, closesLater, rfl⟩ := Option.map_eq_some_iff.mp closes
      rw [if_neg inside, ih closesLater]
      rfl

/-- Where no brace closes on the line, what stands before one holds the end of the line. -/
theorem mem_of_toBrace_append {front : List Char} (opened : toBrace front = none) {rest : List Char}
    {found : List Char × List Char} (closes : toBrace (front ++ '\n' :: rest) = some found) :
    '\n' ∈ found.1 := by
  induction front generalizing found with
  | nil =>
    rw [List.nil_append, toBrace, if_neg (by decide)] at closes
    obtain ⟨later, _, rfl⟩ := Option.map_eq_some_iff.mp closes
    exact List.mem_cons_self
  | cons c front ih =>
    rw [toBrace] at opened
    rw [List.cons_append, toBrace] at closes
    split at opened
    · cases opened
    · rename_i inside
      rw [if_neg inside] at closes
      obtain ⟨later, closesLater, rfl⟩ := Option.map_eq_some_iff.mp closes
      exact List.mem_cons_of_mem _ (ih (Option.map_eq_none_iff.mp opened) closesLater)

theorem readName_append (names : CharacterNames) (front rest : List Char) :
    readName names (front ++ '\n' :: rest) =
      (readName names front).map fun found => (found.1, found.2 ++ '\n' :: rest) := by
  cases front with
  | nil => rfl
  | cons c front =>
    rw [List.cons_append, readName, readName]
    split
    · cases closes : toBrace front with
      | some found =>
        rw [toBrace_append closes]
        show (names.find found.1).bind _ = ((names.find found.1).bind _).map _
        cases names.find found.1 <;> rfl
      | none =>
        cases beyond : toBrace (front ++ '\n' :: rest) with
        | none => rfl
        | some found =>
          have unknown := names.oneLine found.1 (mem_of_toBrace_append closes beyond)
          show (names.find found.1).bind _ = none
          rw [unknown]
          rfl
    · rfl

/-- **An escape ends on its line.** -/
theorem readEscape_append (names : CharacterNames) {front : List Char} (some : front ≠ [])
    (rest : List Char) :
    readEscape names (front ++ '\n' :: rest) =
      (readEscape names front).map fun found => (found.1, found.2 ++ '\n' :: rest) := by
  obtain ⟨c, front, rfl⟩ := List.exists_cons_of_ne_nil some
  rw [List.cons_append, readEscape, readEscape]
  split
  · rfl
  · rfl
  · rename_i width _
    rw [readHex_append]
    cases readHex width 0 front with
    | none => rfl
    | some found =>
      show (if found.1 ≤ 0x10FFFF then _ else _) = Option.map _ (if found.1 ≤ 0x10FFFF then _ else _)
      split <;> rfl
  · rw [← List.cons_append, readOctal_append]
    rfl
  · rw [readName_append]
    cases readName names front <;> rfl
  · rfl

/-- **A text is decoded line by line.** -/
theorem decode_line_append (names : CharacterNames) (line rest : List Char) :
    decode names (line ++ '\n' :: rest) = (decode names (line ++ ['\n'])).bind fun points =>
      (decode names rest).map (points ++ ·) := by
  induction line using decode.induct names with
  | case1 =>
    rw [List.nil_append, List.nil_append, decode_cons names (by decide),
      decode_cons names (by decide), decode_nil]
    rfl
  | case2 line failed =>
    rw [List.cons_append, List.cons_append, decode_backslash, decode_backslash]
    cases line with
    | nil => simp [readEscape, Escape.ofChar]
    | cons c line =>
      have some : c :: line ≠ [] := List.cons_ne_nil _ _
      rw [readEscape_append names some, readEscape_append names some, failed]
      rfl
  | case3 line points after isRead ih =>
    have some : line ≠ [] := by
      rintro rfl
      cases isRead
    rw [List.cons_append, List.cons_append, decode_backslash, decode_backslash,
      readEscape_append names some, readEscape_append names some, isRead]
    show (decode names (after ++ '\n' :: rest)).map _ =
      ((decode names (after ++ ['\n'])).map _).bind _
    rw [ih]
    cases decode names (after ++ ['\n']) <;> cases decode names rest <;> simp
  | case4 c line plain ih =>
    rw [List.cons_append, List.cons_append, decode_cons names plain, decode_cons names plain, ih]
    cases decode names (line ++ ['\n']) <;> cases decode names rest <;> simp

/-! ### Literals -/

/-- The code points of a literal whose opening quotes have been read, and what follows it. -/
def readInside (names : CharacterNames) (quotes : Quotes) (text : List Char) :
    Option (List Nat × List Char) := do
  let (inside, after) ← scan quotes false text
  return (← decode names inside, after)

/-- A string literal at the start of a text: the code points that it stands for, and what follows. -/
def readLiteral (names : CharacterNames) : List Char → Option (List Nat × List Char)
  | '"' :: '"' :: '"' :: rest => readInside names .triple rest
  | '"' :: rest => readInside names .single rest
  | _ => none

theorem readInside_of_scan (names : CharacterNames) {quotes : Quotes} {text inside after : List Char}
    (ends : scan quotes false text = some (inside, after)) :
    readInside names quotes text = (decode names inside).map fun points => (points, after) := by
  rw [readInside, ends]
  show (decode names inside).bind _ = _
  cases decode names inside <;> rfl

/-- A quote that no two others follow opens a literal with one quote at each end. -/
theorem readLiteral_single (names : CharacterNames) {rest : List Char}
    (one : ∀ more, rest ≠ '"' :: '"' :: more) :
    readLiteral names ('"' :: rest) = readInside names .single rest := by
  unfold readLiteral
  split
  · rename_i more same
    exact absurd (List.cons.inj same).2 (one more)
  · rename_i more _ same
    rw [(List.cons.inj same).2]
  · rename_i other
    exact absurd rfl (other rest)

end PipelineGraph.Source
