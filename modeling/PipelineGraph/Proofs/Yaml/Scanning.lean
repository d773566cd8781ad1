/-
**The scanner goes from token to token.**

A scanner is settled when it stands at the next token, or at the end of the text, with the keys given up
and the blocks ended that end there. `Next` is one turn of the scanner between two settled states: one
token is scanned and the scanner settles again. A turn passes over at least one character, so that the
length of the text is fuel enough for any number of turns (`runSettled_of_reaches`).

Outside of flow collections a settled scanner is its blocks (`Blocks`) at a place, with at most one
possible key. The lemmas about `Blocks.scannerAt` say what each part of a turn does to such a scanner.
-/

import Mathlib.Logic.Relation
import PipelineGraph.Proofs.Yaml.Margin

namespace PipelineGraph.Yaml

namespace Scanner

/-! ### Turns -/

/-- The scanner at the next token, without the keys and blocks that end before it. -/
def settle (scanner : Scanner) : Option Scanner :=
  scanner.toToken.dropStaleKeys.map fun scanner => scanner.closeBlocks scanner.column

/-- Scans the token at which a settled scanner stands. -/
def scanNext (scanner : Scanner) : Option Scanner :=
  match scanner.cursor.rest with
  | [] => none
  | c :: rest => scanner.scanToken c rest

/-- Scans the rest of a text from a settled state on. -/
def runSettled (fuel : Nat) (scanner : Scanner) : Option Scanner :=
  if scanner.cursor.rest.isEmpty then scanner.finish else scanner.scanNext.bind (run fuel)

/-- **One turn of the scanner**: a token is scanned, and the scanner settles after it. -/
def Next (before after : Scanner) : Prop :=
  ∃ scanned, before.scanNext = some scanned ∧ scanned.settle = some after ∧
    after.cursor.rest.length < before.cursor.rest.length

/-- **The scanner gets from one settled state to another** in some turns. -/
abbrev Reaches : Scanner → Scanner → Prop := Relation.ReflTransGen Next

theorem run_succ (fuel : Nat) (scanner : Scanner) :
    run (fuel + 1) scanner = scanner.settle.bind (runSettled fuel) := by
  rw [run, settle]
  cases scanner.toToken.dropStaleKeys with
  | none => rfl
  | some scanner =>
    show (match (scanner.closeBlocks scanner.column).cursor.rest with
      | [] => (scanner.closeBlocks scanner.column).finish
      | c :: rest => ((scanner.closeBlocks scanner.column).scanToken c rest).bind (run fuel)) =
      runSettled fuel (scanner.closeBlocks scanner.column)
    rw [runSettled, scanNext]
    cases (scanner.closeBlocks scanner.column).cursor.rest <;> rfl

theorem runSettled_of_next {before after : Scanner} (next : Next before after) (fuel : Nat) :
    before.runSettled (fuel + 1) = after.runSettled fuel := by
  obtain ⟨scanned, isScanned, settled, less⟩ := next
  have some : before.cursor.rest.isEmpty = false := by
    cases empty : before.cursor.rest with
    | nil =>
      rw [empty] at less
      cases less
    | cons c rest => rfl
  rw [runSettled, some, isScanned]
  show run (fuel + 1) scanned = _
  rw [run_succ, settled]
  rfl

/-- **The length of the text is fuel enough for all turns.** -/
theorem runSettled_of_reaches {first last : Scanner} (turns : Reaches first last) :
    ∀ fuel, first.cursor.rest.length ≤ fuel →
      ∃ left, first.runSettled fuel = last.runSettled left := by
  induction turns using Relation.ReflTransGen.head_induction_on with
  | refl => exact fun fuel _ => ⟨fuel, rfl⟩
  | head next _ ih =>
    intro fuel enough
    have less := next.choose_spec.2.2
    cases fuel with
    | zero => omega
    | succ fuel =>
      rw [runSettled_of_next next]
      exact ih fuel (by omega)

end Scanner

/-! ### Blocks -/

/-- The blocks that are open in a scanner, and the tokens so far, the last one first. -/
structure Blocks where
  tokens : List Token
  indent : Int
  outer : List Int

namespace Blocks

/-- The scanner with these blocks at a place outside of all flow collections. -/
def scannerAt (blocks : Blocks) (mark : Mark) (rest : List Char) (key : Option PossibleKey)
    (keyAllowed : Bool) : Scanner :=
  ⟨⟨mark, rest⟩, blocks.tokens, blocks.indent, blocks.outer, [key], keyAllowed⟩

/-- One more token. -/
def push (blocks : Blocks) (token : Token) : Blocks := { blocks with tokens := token :: blocks.tokens }

/-- Some more tokens, the last one first. -/
def pushAll (blocks : Blocks) (tokens : List Token) : Blocks :=
  { blocks with tokens := tokens ++ blocks.tokens }

/-- A block mapping at a column, unless it is open already. -/
def enter (blocks : Blocks) (column : Nat) : Blocks :=
  if blocks.indent < column then
    ⟨.blockMappingStart :: blocks.tokens, column, blocks.indent :: blocks.outer⟩
  else blocks

/-- The blocks that do not end before a column. -/
def leave (blocks : Blocks) (column : Int) : Blocks :=
  let (indent, tokens, outer) := Scanner.closeFrom column blocks.indent blocks.tokens blocks.outer
  ⟨tokens, indent, outer⟩

theorem leave_of_le {blocks : Blocks} {column : Int} (inside : blocks.indent ≤ column) :
    blocks.leave column = blocks := by
  obtain ⟨tokens, indent, outer⟩ := blocks
  cases outer with
  | nil => rfl
  | cons parent outer =>
    rw [leave, Scanner.closeFrom, if_neg (by exact Int.not_lt.mpr inside)]

theorem indent_enter (blocks : Blocks) {column : Nat} (within : blocks.indent ≤ column) :
    (blocks.enter column).indent = column := by
  rw [enter]
  split
  · rfl
  · omega

theorem enter_of_le {blocks : Blocks} {column : Nat} (inside : column ≤ blocks.indent) :
    blocks.enter column = blocks := if_neg (Int.not_lt.mpr inside)

/-- A key that may begin at a place. -/
def savedKey (blocks : Blocks) (mark : Mark) (keyAllowed : Bool) : Option PossibleKey :=
  if keyAllowed then some ⟨blocks.tokens.length, mark, decide (blocks.indent = mark.column)⟩ else none

/-- The possible key after a turn to a place. -/
def keyAt (mark : Mark) (key : Option PossibleKey) : Option (Option PossibleKey) :=
  if key.any (Scanner.isStale mark) then Scanner.giveUp key else some key

theorem keyAt_none (mark : Mark) : keyAt mark none = some none := rfl

section

variable {blocks : Blocks} {mark : Mark} {text : List Char} {key : Option PossibleKey} {allowed : Bool}

/-- **A scanner settles** where the white space ends. -/
theorem settle_scannerAt {landing : Mark} {goal : List Char} {allowedThere : Bool}
    {keyThere : Option PossibleKey}
    (skips : Scanner.skipSpace false allowed false mark text = (⟨landing, goal⟩, allowedThere))
    (kept : keyAt landing key = some keyThere) :
    (blocks.scannerAt mark text key allowed).settle =
      some ((blocks.leave landing.column).scannerAt landing goal keyThere allowedThere) := by
  have atToken : (blocks.scannerAt mark text key allowed).toToken =
      blocks.scannerAt landing goal key allowedThere := by
    rw [Scanner.toToken]
    show { blocks.scannerAt mark text key allowed with
      cursor := (Scanner.skipSpace false allowed false mark text).1
      keyAllowed := (Scanner.skipSpace false allowed false mark text).2 } = _
    rw [skips]
    rfl
  have keys : (blocks.scannerAt landing goal key allowedThere).dropStaleKeys =
      some (blocks.scannerAt landing goal keyThere allowedThere) := by
    rw [keyAt] at kept
    rw [Scanner.dropStaleKeys]
    show (do
      let keys ← [key].mapM fun key : Option PossibleKey =>
        if key.any (Scanner.isStale landing) then Scanner.giveUp key else some key
      return { blocks.scannerAt landing goal key allowedThere with keys := keys }) = _
    rw [List.mapM_cons, kept]
    rfl
  rw [Scanner.settle, atToken, keys]
  rfl

theorem saveKey_scannerAt : (blocks.scannerAt mark text none allowed).saveKey =
    some (blocks.scannerAt mark text (blocks.savedKey mark allowed) allowed) := by
  cases allowed <;> rfl

theorem insert_scannerAt (after : List Token) (token : Token) :
    ((blocks.pushAll after).scannerAt mark text key allowed).insert blocks.tokens.length token =
      ((blocks.push token).pushAll after).scannerAt mark text key allowed := by
  have counted : (after ++ blocks.tokens).length - blocks.tokens.length = after.length := by
    rw [List.length_append, Nat.add_sub_cancel]
  rw [Scanner.insert]
  show { (blocks.pushAll after).scannerAt mark text key allowed with
    tokens := (after ++ blocks.tokens).take ((after ++ blocks.tokens).length - blocks.tokens.length) ++
      token :: (after ++ blocks.tokens).drop ((after ++ blocks.tokens).length -
        blocks.tokens.length) } = _
  rw [counted, List.take_left, List.drop_left]
  rfl

/-- **A block mapping that starts before some tokens.** -/
theorem openBlock_scannerAt (after : List Token) (column : Nat) :
    ((blocks.pushAll after).scannerAt mark text key allowed).openBlock column blocks.tokens.length
        .blockMappingStart =
      ((blocks.enter column).pushAll after).scannerAt mark text key allowed := by
  rw [Scanner.openBlock, insert_scannerAt, enter]
  show (if (!false && decide (blocks.indent < column)) = true then _ else _) = _
  by_cases outside : blocks.indent < column
  · rw [if_pos (by simpa using outside), if_pos outside]
    rfl
  · rw [if_neg (by simpa using outside), if_neg outside]

end

end Blocks

end PipelineGraph.Yaml
