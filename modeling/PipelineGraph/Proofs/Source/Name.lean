/-
**Names of the generated source, in ASCII.**

A name starts with a letter or an underscore, goes on with letters, digits and underscores, and is none of
the words that the language keeps for itself (`IsName`). The check on identifiers knows the form and not the
words: of an ASCII text it says whether the text has the form of a name
(`hasNameForm_eq_isIdentifier`). Canonical names and trimmed names of ASCII texts are ASCII.
-/

import PipelineGraph.Identifier
import PipelineGraph.Proofs.Text.CodePoints

namespace PipelineGraph

/-! ### ASCII texts -/

namespace Text

/-- The characters of the text are in ASCII. -/
def isAscii (text : List Char) : Bool := text.all fun c => c.toNat < 0x80

theorem isAscii_cons_iff {c : Char} {text : List Char} :
    isAscii (c :: text) = true ↔ c.toNat < 0x80 ∧ isAscii text = true := by
  rw [isAscii, List.all_cons, Bool.and_eq_true, decide_eq_true_eq, isAscii]

theorem isAscii_of_subset {text more : List Char} (among : text ⊆ more)
    (ascii : isAscii more = true) : isAscii text = true :=
  List.all_eq_true.mpr fun c inside => List.all_eq_true.mp ascii c (among inside)

/-- The lower case of an ASCII character is one. -/
theorem toNat_toLower_lt {c : Char} (ascii : c.toNat < 0x80) : c.toLower.toNat < 0x80 :=
  forall_ascii (p := fun c => c.toLower.toNat < 0x80) (by decide) ascii

theorem isAscii_canonicalChars {text : List Char} (afterWhite : Bool) (ascii : isAscii text = true) :
    isAscii (canonicalChars afterWhite text) = true := by
  induction text generalizing afterWhite with
  | nil => rfl
  | cons c text ih =>
    obtain ⟨first, later⟩ := isAscii_cons_iff.mp ascii
    rw [canonicalChars]
    split
    · split
      · exact ih true later
      · exact isAscii_cons_iff.mpr ⟨by decide, ih true later⟩
    · rw [lowerChar, if_pos first]
      exact isAscii_cons_iff.mpr ⟨toNat_toLower_lt first, ih false later⟩

theorem trimChars_subset (text : List Char) : trimChars text ⊆ text := by
  intro c inside
  have atEnd := (List.dropWhile_sublist isWhite).subset (List.mem_reverse.mp inside)
  exact (List.dropWhile_sublist isWhite).subset (List.mem_reverse.mp atEnd)

end Text

theorem isAscii_canonical {label : String} (ascii : Text.isAscii label.toList = true) :
    Text.isAscii (canonical label).toList = true := by
  rw [canonical, String.toList_ofList]
  exact Text.isAscii_canonicalChars false ascii

theorem isAscii_trim {text : String} (ascii : Text.isAscii text.toList = true) :
    Text.isAscii (trim text).toList = true := by
  rw [trim, String.toList_ofList]
  exact Text.isAscii_of_subset (Text.trimChars_subset _) ascii

namespace Source

/-! ### Names -/

/-- The words that the language keeps for itself. -/
def reservedWords : List String :=
  ["False", "None", "True", "and", "as", "assert", "async", "await", "break", "class", "continue",
   "def", "del", "elif", "else", "except", "finally", "for", "from", "global", "if", "import", "in",
   "is", "lambda", "nonlocal", "not", "or", "pass", "raise", "return", "try", "while", "with", "yield"]

/-- The text has the form of a name: `[A-Za-z_][A-Za-z0-9_]*`. -/
def hasNameForm (text : String) : Bool :=
  match text.toList with
  | [] => false
  | first :: rest => (first == '_' || first.isAlpha) && rest.all fun c => c == '_' || c.isAlphanum

/-- **A name**: a text that has the form of one and is no reserved word. -/
structure IsName (text : String) : Prop where
  form : hasNameForm text = true
  free : text ∉ reservedWords

instance (text : String) : Decidable (IsName text) :=
  decidable_of_iff (hasNameForm text = true ∧ text ∉ reservedWords)
    ⟨fun ⟨form, free⟩ => ⟨form, free⟩, fun ⟨form, free⟩ => ⟨form, free⟩⟩

/-- **An ASCII text is an identifier exactly when it has the form of a name.** -/
theorem hasNameForm_eq_isIdentifier {text : String} (ascii : Text.isAscii text.toList = true) :
    hasNameForm text = isIdentifier text := by
  have letter : ∀ {c : Char}, c.toNat < 0x80 → Text.isAlphabetic c = c.isAlpha := by
    intro c isAscii
    rw [Text.isAlphabetic, if_pos isAscii]
  have numeral : ∀ {c : Char}, c.toNat < 0x80 → Text.isAlphanumeric c = c.isAlphanum := by
    intro c isAscii
    rw [Text.isAlphanumeric, letter isAscii, Text.isNumeral, if_pos isAscii, Char.isAlphanum]
  rw [hasNameForm, isIdentifier]
  revert ascii
  cases text.toList with
  | nil => exact fun _ => rfl
  | cons first rest =>
    intro ascii
    obtain ⟨inFirst, inRest⟩ := Text.isAscii_cons_iff.mp ascii
    have starts : (first == '_' || first.isAlpha) = Text.startsIdentifier first := by
      rw [Text.startsIdentifier, letter inFirst]
    have goesOn : (rest.all fun c => c == '_' || c.isAlphanum) = rest.all Text.continuesIdentifier := by
      rw [Bool.eq_iff_iff, List.all_eq_true, List.all_eq_true]
      refine forall₂_congr fun c inside => ?_
      rw [Text.continuesIdentifier, numeral (of_decide_eq_true (List.all_eq_true.mp inRest c inside))]
    rw [Text.isIdentifierChars, ← starts, ← goesOn]

end Source

end PipelineGraph
