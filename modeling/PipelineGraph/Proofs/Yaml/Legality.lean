/-
**Scalars are written in characters that YAML allows.**

What stands for a character in an escape is allowed, whatever the character is; every other style takes
only printable characters, and all of those are allowed.

* `isAllowed_scalarLine` — a scalar with the end of its line, for every text.
-/

import PipelineGraph.Proofs.Yaml.ScalarScanning

namespace PipelineGraph.Yaml

theorem isAllowed_of_isPrintable {c : Char} (printable : isPrintable c = true) : isAllowed c = true := by
  simp only [isPrintable, isAllowed, Bool.or_eq_true, Bool.and_eq_true] at printable ⊢
  rcases printable with ((feed | ascii) | ⟨basic, _⟩) | wide
  · exact .inl (.inl (.inl (.inl (.inl (.inr feed)))))
  · exact .inl (.inl (.inl (.inr ascii)))
  · exact .inl (.inr basic)
  · exact .inr wide

/-- A hexadecimal digit is allowed. -/
theorem isAllowed_of_hexDigit? {c : Char} (digit : (hexDigit? c).isSome = true) :
    isAllowed c = true := by
  have le_iff : ∀ {d e : Char}, d ≤ e ↔ d.toNat ≤ e.toNat := Iff.rfl
  have between : ' ' ≤ c ∧ c ≤ '~' := by
    have space : ' '.toNat = 0x20 := rfl
    have tilde : '~'.toNat = 0x7E := rfl
    have zero : '0'.toNat = 0x30 := rfl
    have nine : '9'.toNat = 0x39 := rfl
    have a : 'a'.toNat = 0x61 := rfl
    have f : 'f'.toNat = 0x66 := rfl
    have A : 'A'.toNat = 0x41 := rfl
    have F : 'F'.toNat = 0x46 := rfl
    unfold hexDigit? at digit
    simp only [le_iff, Bool.and_eq_true, decide_eq_true_eq] at digit ⊢
    split at digit
    · omega
    · split at digit
      · omega
      · split at digit
        · omega
        · cases digit
  simp [isAllowed, between]

/-- The digits of a number are allowed. -/
theorem isAllowed_of_hexNumber? {digits : List Char} :
    ∀ {value code : Nat}, hexNumber? value digits = some code → ∀ c ∈ digits, isAllowed c = true := by
  induction digits with
  | nil =>
    intro _ _ _
    exact List.forall_mem_nil _
  | cons d digits ih =>
    intro value code number
    rw [hexNumber?] at number
    cases digit : hexDigit? d with
    | none =>
      rw [digit] at number
      cases number
    | some known =>
      rw [digit] at number
      rw [List.forall_mem_cons]
      exact ⟨isAllowed_of_hexDigit? (by rw [digit]; rfl), ih number⟩

/-- **An escape is made of characters that are allowed.** -/
theorem StandsForChar.isAllowed {chars : List Char} {c : Char} (stands : StandsForChar chars c) :
    ∀ d ∈ chars, Yaml.isAllowed d = true := by
  have backslash : Yaml.isAllowed '\\' = true := rfl
  cases stands with
  | @short letter _ means =>
    have letterAllowed : Yaml.isAllowed letter = true := by
      unfold unescape? at means
      split at means <;> first | rfl | cases means
    simpa [backslash] using letterAllowed
  | @code letter _ digits code _ width _ number _ =>
    have letterAllowed : Yaml.isAllowed letter = true := by
      unfold codeWidth? at width
      split at width <;> first | rfl | cases width
    rw [List.forall_mem_cons, List.forall_mem_cons]
    exact ⟨backslash, letterAllowed, isAllowed_of_hexNumber? number⟩

theorem isAllowed_doubleChars (text : List Char) : ∀ c ∈ doubleChars text, isAllowed c = true := by
  intro c inside
  obtain ⟨d, _, isChar⟩ := List.mem_flatMap.mp inside
  rw [doubleChar_eq] at isChar
  split at isChar
  · rename_i needs
    exact (standsForChar_escape needs).isAllowed c isChar
  · rename_i keeps
    rw [Bool.not_eq_true, needsEscape, Bool.not_eq_false'] at keeps
    simp only [Bool.and_eq_true] at keeps
    rw [List.mem_singleton] at isChar
    exact isChar ▸ isAllowed_of_isPrintable keeps.1.1.1

theorem isAllowed_spaces (width : Nat) : ∀ c ∈ spaces width, isAllowed c = true := by
  intro c inside
  rw [List.eq_of_mem_replicate inside]
  rfl

/-- Between single quotes quotes are added to the text, and spaces. -/
theorem isAllowed_singleChars {indent : Nat} {text : List Char} :
    ∀ afterBreak : Bool, (∀ c ∈ text, isAllowed c = true) →
      ∀ c ∈ singleChars indent afterBreak text, isAllowed c = true := by
  induction text with
  | nil =>
    intro afterBreak _
    rw [singleChars]
    split
    · exact isAllowed_spaces indent
    · exact List.forall_mem_nil _
  | cons d text ih =>
    intro afterBreak legal
    rw [List.forall_mem_cons] at legal
    rw [singleChars]
    split
    · rw [List.forall_mem_cons]
      exact ⟨legal.1, ih true legal.2⟩
    · simp only [List.forall_mem_append]
      refine ⟨⟨?_, ?_⟩, ih false legal.2⟩
      · split
        · exact isAllowed_spaces indent
        · exact List.forall_mem_nil _
      · split
        · exact List.all_eq_true.mp rfl
        · rw [List.forall_mem_singleton]
          exact legal.1

/-- In a literal block spaces are added to the text. -/
theorem isAllowed_literalChars {indent : Nat} {text : List Char} :
    ∀ afterBreak : Bool, (∀ c ∈ text, isAllowed c = true) →
      ∀ c ∈ literalChars indent afterBreak text, isAllowed c = true := by
  induction text with
  | nil =>
    intro _ _
    exact List.forall_mem_nil _
  | cons d text ih =>
    intro afterBreak legal
    rw [List.forall_mem_cons] at legal
    rw [literalChars]
    split
    · rw [List.forall_mem_cons]
      exact ⟨legal.1, ih true legal.2⟩
    · rw [List.forall_mem_append, List.forall_mem_cons]
      refine ⟨?_, legal.1, ih false legal.2⟩
      split
      · exact isAllowed_spaces indent
      · exact List.forall_mem_nil _

/-- **A scalar is made of characters that are allowed**, whatever the style. -/
theorem isAllowed_scalarChars {text : String} {style : Style} (allows : Allows text style)
    (indent : Nat) : ∀ c ∈ scalarChars style indent text.toList, isAllowed c = true := by
  have ofTame : isTame text.toList = true → ∀ c ∈ text.toList, isAllowed c = true := by
    intro tame c inside
    simp only [isTame, Bool.and_eq_true, List.all_eq_true] at tame
    exact isAllowed_of_isPrintable (tame.1 c inside)
  have quotes : isAllowed '\'' = true ∧ isAllowed '"' = true ∧ isAllowed '|' = true := by decide
  cases allows with
  | plain _ allowed =>
    intro c inside
    exact isAllowed_of_isPrintable ((plainText_of_allowsPlain allowed).printable c inside).1
  | single _ allowed =>
    rw [allowsSingle, Bool.and_eq_true] at allowed
    rw [scalarChars]
    simp only [List.forall_mem_append, List.forall_mem_cons]
    exact ⟨⟨quotes.1, isAllowed_singleChars false (ofTame allowed.1)⟩, quotes.1,
      List.forall_mem_nil _⟩
  | double =>
    rw [scalarChars]
    simp only [List.forall_mem_append, List.forall_mem_cons]
    exact ⟨⟨quotes.2.1, isAllowed_doubleChars _⟩, quotes.2.1, List.forall_mem_nil _⟩
  | literal _ allowed =>
    simp only [allowsLiteral, Bool.and_eq_true] at allowed
    rw [scalarChars]
    simp only [List.forall_mem_append, List.forall_mem_cons]
    refine ⟨⟨⟨quotes.2.2, ?_⟩, ?_⟩, rfl, isAllowed_literalChars true (ofTame allowed.1.2)⟩
    · rw [indentIndicator_eq]
      split <;> exact List.all_eq_true.mp rfl
    · have some : text.toList ≠ [] := by simpa using allowed.1.1
      rcases chompIndicator_cases some with ⟨_, sign⟩ | ⟨_, _, _, _, _, _, sign⟩ | ⟨_, sign⟩ <;>
        rw [sign] <;> exact List.all_eq_true.mp rfl

/-- A scalar with the end of its line is made of characters that are allowed. -/
theorem isAllowed_scalarLine (indent : Nat) (text : String) :
    ∀ c ∈ scalarLine indent text, isAllowed c = true := by
  simp only [scalarLine, List.forall_mem_append]
  refine ⟨isAllowed_scalarChars (allows_ofText text) indent, ?_⟩
  split <;> exact List.all_eq_true.mp rfl

end PipelineGraph.Yaml
