/-
**String literals are read back.**

A literal without a carriage return is read as the text that it was written for, and ends where it was
meant to; a carriage return is written as it is and ends the line before the closing quote, so nothing is
read (`readLiteral_literal`).

Whatever they hold, literals and lists of literals can be told from each other and from what follows them
(`literal_append_inj`, `literalList_append_inj`).
-/

import PipelineGraph.Proofs.Source.Reading
import PipelineGraph.Source.Literal

namespace PipelineGraph.Source

/-! ### The characters of a literal -/

/-- A character is written with a backslash, as the escape that stands for it, or as it is. -/
theorem escapeChar_cases (c : Char) :
    (∃ d, escapeChar c = ['\\', d] ∧ Escape.ofChar d = .sign c.toNat ∧
      Quotes.single.refuses d = false) ∨
      escapeChar c = [c] ∧ c ≠ '\\' ∧ c ≠ '"' ∧ c ≠ '\n' := by
  unfold escapeChar
  split
  · exact .inl ⟨_, rfl, rfl, rfl⟩
  · exact .inl ⟨_, rfl, rfl, rfl⟩
  · exact .inl ⟨_, rfl, rfl, rfl⟩
  · exact .inl ⟨_, rfl, rfl, rfl⟩
  · rename_i notBackslash notQuote notFeed _
    exact .inr ⟨rfl, notBackslash, notQuote, notFeed⟩

/-- No character is written with a quote at its start. -/
theorem escapeChar_append_ne (c : Char) (rest more : List Char) :
    escapeChar c ++ rest ≠ '"' :: more := by
  rcases escapeChar_cases c with ⟨d, written, _⟩ | ⟨written, _, notQuote, _⟩
  · rw [written]
    exact fun same => absurd (List.cons.inj same).1 (by decide)
  · rw [written]
    exact fun same => notQuote (List.cons.inj same).1

/-- **A character that ends no line is passed as it is written.** -/
theorem scan_escapeChar {c : Char} (inLine : c ≠ '\r') (rest : List Char) :
    scan .single false (escapeChar c ++ rest) =
      (scan .single false rest).map fun found => (escapeChar c ++ found.1, found.2) := by
  rcases escapeChar_cases c with ⟨d, written, _, allowed⟩ | ⟨written, notBackslash, notQuote, notFeed⟩
  · rw [written, List.cons_append, List.singleton_append, scan_pair allowed]
    rfl
  · have allowed : Quotes.single.refuses c = false := by simp [Quotes.refuses, notFeed, inLine]
    rw [written, List.singleton_append, scan_other notBackslash notQuote allowed]
    rfl

/-- What is written for a text is passed up to the quote that ends it, but not a carriage return. -/
theorem scan_flatMap_escapeChar (text rest : List Char) :
    scan .single false (text.flatMap escapeChar ++ '"' :: rest) =
      if '\r' ∈ text then none else some (text.flatMap escapeChar, rest) := by
  induction text with
  | nil => exact scan_marks .single rest
  | cons c text ih =>
    rw [List.flatMap_cons, List.append_assoc]
    by_cases ends : c = '\r'
    · subst ends
      rw [if_pos List.mem_cons_self]
      rfl
    · rw [scan_escapeChar ends, ih]
      by_cases later : '\r' ∈ text
      · rw [if_pos later, if_pos (List.mem_cons_of_mem _ later)]
        rfl
      · rw [if_neg later, if_neg (by simp [later, Ne.symm ends])]
        rfl

/-- **What is written for a text stands for it.** -/
theorem decode_flatMap_escapeChar (names : CharacterNames) (text : List Char) :
    decode names (text.flatMap escapeChar) = some (text.map Char.toNat) := by
  induction text with
  | nil => exact decode_nil names
  | cons c text ih =>
    rw [List.flatMap_cons]
    rcases escapeChar_cases c with ⟨d, written, sign, _⟩ | ⟨written, notBackslash, _⟩
    · rw [written, List.cons_append, List.singleton_append, decode_sign names sign, ih]
      rfl
    · rw [written, List.singleton_append, decode_cons names notBackslash, ih]
      rfl

/-! ### Literals -/

/-- **A literal is read as the text that it was written for**, up to where it ends; a carriage return in
the text keeps it from being read at all. The literal must not run into quotes that follow it. -/
theorem readLiteral_literalChars (names : CharacterNames) (text : List Char) {rest : List Char}
    (apart : rest.head? ≠ some '"') :
    readLiteral names (literalChars text ++ rest) =
      if '\r' ∈ text then none else some (text.map Char.toNat, rest) := by
  have one : ∀ more, text.flatMap escapeChar ++ '"' :: rest ≠ '"' :: '"' :: more := by
    intro more same
    cases text with
    | nil => exact apart (by rw [(List.cons.inj same).2]; rfl)
    | cons c text =>
      rw [List.flatMap_cons, List.append_assoc] at same
      exact escapeChar_append_ne _ _ _ same
  have written : literalChars text ++ rest = '"' :: (text.flatMap escapeChar ++ '"' :: rest) := by
    simp [literalChars]
  rw [written, readLiteral_single names one]
  by_cases ends : '\r' ∈ text
  · rw [if_pos ends, readInside, scan_flatMap_escapeChar, if_pos ends]
    rfl
  · have scanned := scan_flatMap_escapeChar text rest
    rw [if_neg ends] at scanned
    rw [if_neg ends, readInside_of_scan names scanned, decode_flatMap_escapeChar]
    rfl

/-- **A literal is read back**: by itself it is one literal with nothing after it, and stands for the
text that it was written for, unless there is a carriage return in the text; then it is none. -/
theorem readLiteral_literal (names : CharacterNames) (text : String) :
    readLiteral names (literal text).toList =
      if '\r' ∈ text.toList then none else some (text.toList.map Char.toNat, []) := by
  have apart : ([] : List Char).head? ≠ some '"' := nofun
  rw [literal, String.toList_ofList, ← readLiteral_literalChars names text.toList apart,
    List.append_nil]

/-- **A carriage return breaks a literal**: the name of a step may hold one, and what is written for it
is not read as the name. -/
theorem readLiteral_literal_return :
    ¬ ∃ names, readLiteral names (literal "load\rraw_node").toList =
      some ("load\rraw_node".toList.map Char.toNat, []) := by
  rintro ⟨names, isRead⟩
  have apart : ([] : List Char).head? ≠ some '"' := nofun
  have unread := readLiteral_literalChars names "load\rraw_node".toList apart
  rw [if_pos (by decide), List.append_nil] at unread
  rw [literal, String.toList_ofList, unread] at isRead
  cases isRead

/-! ### Different texts are written differently -/

/-- What is written for a character tells it apart, whatever follows. -/
theorem escapeChar_append_inj {c d : Char} {rest more : List Char}
    (same : escapeChar c ++ rest = escapeChar d ++ more) : c = d ∧ rest = more := by
  rcases escapeChar_cases c with ⟨a, written, sign, _⟩ | ⟨written, notBackslash, _⟩
  · rcases escapeChar_cases d with ⟨b, written', sign', _⟩ | ⟨written', notBackslash', _⟩
    · rw [written, written'] at same
      obtain ⟨_, letters⟩ := List.cons.inj same
      obtain ⟨rfl, ends⟩ := List.cons.inj letters
      rw [sign] at sign'
      exact ⟨Char.toNat_inj.mp (Escape.sign.inj sign'), ends⟩
    · rw [written, written'] at same
      exact absurd (List.cons.inj same).1.symm notBackslash'
  · rcases escapeChar_cases d with ⟨b, written', _⟩ | ⟨written', _⟩
    · rw [written, written'] at same
      exact absurd (List.cons.inj same).1 notBackslash
    · rw [written, written'] at same
      exact List.cons.inj same

theorem flatMap_escapeChar_append_inj {text other rest more : List Char}
    (same : text.flatMap escapeChar ++ '"' :: rest = other.flatMap escapeChar ++ '"' :: more) :
    text = other ∧ rest = more := by
  induction text generalizing other with
  | nil =>
    cases other with
    | nil => exact ⟨rfl, (List.cons.inj same).2⟩
    | cons d other =>
      rw [List.flatMap_cons, List.append_assoc] at same
      exact absurd same.symm (escapeChar_append_ne _ _ _)
  | cons c text ih =>
    rw [List.flatMap_cons, List.append_assoc] at same
    cases other with
    | nil => exact absurd same (escapeChar_append_ne _ _ _)
    | cons d other =>
      rw [List.flatMap_cons, List.append_assoc] at same
      obtain ⟨rfl, later⟩ := escapeChar_append_inj same
      obtain ⟨rfl, ends⟩ := ih later
      exact ⟨rfl, ends⟩

/-- **A literal tells its text apart**, whatever follows. -/
theorem literal_append_inj {text other : String} {rest more : List Char}
    (same : (literal text).toList ++ rest = (literal other).toList ++ more) :
    text = other ∧ rest = more := by
  simp only [literal, String.toList_ofList, literalChars, List.cons_append, List.append_assoc,
    List.cons.injEq, true_and, List.nil_append] at same
  obtain ⟨chars, ends⟩ := flatMap_escapeChar_append_inj same
  exact ⟨String.toList_inj.mp chars, ends⟩

/-- What follows the first literal of a list, with the bracket at its end. -/
def laterLiterals : List String → List Char
  | [] => [']']
  | text :: texts => ", ".toList ++ ((literal text).toList ++ laterLiterals texts)

theorem literals_cons (text : String) (texts : List String) :
    (literals (text :: texts)).toList ++ [']'] = (literal text).toList ++ laterLiterals texts := by
  unfold literals
  induction texts generalizing text with
  | nil => simp [laterLiterals]
  | cons next texts ih =>
    rw [List.map_cons, List.map_cons, String.intercalate_cons_cons, String.toList_append,
      String.toList_append, laterLiterals, ← ih next, List.map_cons, List.append_assoc,
      List.append_assoc]

theorem literalList_cons (text : String) (texts : List String) :
    (literalList (text :: texts)).toList =
      '[' :: ((literal text).toList ++ laterLiterals texts) := by
  rw [literalList, String.toList_append, String.toList_append, ← literals_cons, List.append_assoc]
  rfl

theorem laterLiterals_append_inj {texts others : List String} {rest more : List Char}
    (same : laterLiterals texts ++ rest = laterLiterals others ++ more) :
    texts = others ∧ rest = more := by
  induction texts generalizing others with
  | nil =>
    cases others with
    | nil => exact ⟨rfl, (List.cons.inj same).2⟩
    | cons other others => exact absurd (List.cons.inj same).1 (by decide)
  | cons text texts ih =>
    cases others with
    | nil => exact absurd (List.cons.inj same).1 (by decide)
    | cons other others =>
      simp only [laterLiterals, List.append_assoc] at same
      obtain ⟨rfl, later⟩ := literal_append_inj (List.append_cancel_left same)
      obtain ⟨rfl, ends⟩ := ih later
      exact ⟨rfl, ends⟩

/-- A list with literals in it does not start as the empty list does. -/
theorem literalList_cons_append_ne (text : String) (texts : List String) (rest more : List Char) :
    (literalList (text :: texts)).toList ++ rest ≠ (literalList []).toList ++ more := by
  intro same
  rw [literalList_cons, literal, String.toList_ofList] at same
  exact absurd (List.cons.inj (List.cons.inj same).2).1 (by decide)

/-- **A list of literals tells its texts apart**, whatever follows. -/
theorem literalList_append_inj {texts others : List String} {rest more : List Char}
    (same : (literalList texts).toList ++ rest = (literalList others).toList ++ more) :
    texts = others ∧ rest = more := by
  cases texts with
  | nil =>
    cases others with
    | nil => exact ⟨rfl, List.append_cancel_left same⟩
    | cons other others => exact absurd same.symm (literalList_cons_append_ne other others _ _)
  | cons text texts =>
    cases others with
    | nil => exact absurd same (literalList_cons_append_ne text texts _ _)
    | cons other others =>
      rw [literalList_cons, literalList_cons, List.cons_append, List.cons_append, List.append_assoc,
        List.append_assoc] at same
      obtain ⟨rfl, later⟩ := literal_append_inj (List.cons.inj same).2
      obtain ⟨rfl, ends⟩ := laterLiterals_append_inj later
      exact ⟨rfl, ends⟩

end PipelineGraph.Source
