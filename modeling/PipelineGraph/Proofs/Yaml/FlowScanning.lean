/-
**The scanner goes through flow collections token by token.**

Among flow collections columns mean nothing, and the scanner stands at a `Stage`: the tokens so far and
the number of collections around it. The possible keys of these collections differ, but none of them is
required, so each may be given up; only the key in front of a colon matters, and it is on the line of the
colon and short. `Leads` is what all scanners at a stage do, whatever their possible keys are.

* `leads_open`, `leads_close`, `leads_comma` — the indicators of a collection are tokens.
* `leads_word`, `leads_string` — a word, a numeral and a string of JSON are scalars.
* `leads_key` — **a string in front of a colon is a key.**
* `scan_of_leads` — **a text that leads to its end is scanned as the tokens there.**
-/

import PipelineGraph.Proofs.Yaml.FlowText
import PipelineGraph.Proofs.Yaml.Scanning

namespace PipelineGraph

open Json (stringChars)

namespace Yaml

/-! ### Places -/

/-- The place after some text on one line. -/
def Mark.past (mark : Mark) (text : List Char) : Mark := mark.skip text.length

@[simp]
theorem Mark.past_nil (mark : Mark) : mark.past [] = mark := rfl

theorem Mark.past_cons (mark : Mark) (c : Char) (text : List Char) :
    mark.past (c :: text) = (mark.skip 1).past text := by
  rw [past, past, skip_skip, List.length_cons, Nat.add_comm]

theorem Mark.past_append (mark : Mark) (text more : List Char) :
    mark.past (text ++ more) = (mark.past text).past more := by
  rw [past, past, past, skip_skip, List.length_append]

/-! ### Stages -/

/-- The possible keys of `depth` collections and of the text around them, of which none is required. -/
structure FreeKeys (depth : Nat) (keys : List (Option PossibleKey)) : Prop where
  count : keys.length = depth + 1
  free : ∀ key ∈ keys, ∀ possible ∈ key, possible.required = false

/-- **A place among flow collections**, outside of all blocks: the tokens so far, the last one first, the
number of collections that are open, whether a key may begin here, and what is left of the text. -/
structure Stage where
  tokens : List Token
  depth : Nat
  keyAllowed : Bool
  mark : Mark
  rest : List Char

/-- The scanner at a stage, with its possible keys. -/
def Stage.scanner (stage : Stage) (keys : List (Option PossibleKey)) : Scanner :=
  ⟨⟨stage.mark, stage.rest⟩, stage.tokens, -1, [], keys, stage.keyAllowed⟩

/-- **The scanner gets from one stage to another**, whatever its possible keys are. -/
def Leads (before after : Stage) : Prop :=
  ∀ keys, FreeKeys before.depth keys → ∃ keysThere, FreeKeys after.depth keysThere ∧
    Scanner.Reaches (before.scanner keys) (after.scanner keysThere)

theorem Leads.refl (stage : Stage) : Leads stage stage := fun keys free => ⟨keys, free, .refl⟩

theorem Leads.trans {first second third : Stage} (before : Leads first second)
    (after : Leads second third) : Leads first third := by
  intro keys free
  obtain ⟨middle, freeThere, reached⟩ := before keys free
  obtain ⟨last, freeAtEnd, reachedEnd⟩ := after middle freeThere
  exact ⟨last, freeAtEnd, reached.trans reachedEnd⟩

/-! ### Possible keys -/

section

variable {depth : Nat} {key : Option PossibleKey} {keys : List (Option PossibleKey)}

theorem giveUp_of_free (free : ∀ possible ∈ key, possible.required = false) :
    Scanner.giveUp key = some none := by
  cases key with
  | none => rfl
  | some possible =>
    rw [Scanner.giveUp, free possible rfl]
    rfl

/-- The possible keys that are left at a place. -/
def keysAt (mark : Mark) (keys : List (Option PossibleKey)) : List (Option PossibleKey) :=
  keys.map fun key => if key.any (Scanner.isStale mark) then none else key

theorem FreeKeys.keysAt (free : FreeKeys depth keys) (mark : Mark) :
    FreeKeys depth (Yaml.keysAt mark keys) where
  count := by rw [Yaml.keysAt, List.length_map, free.count]
  free := by
    intro key inside possible isPossible
    obtain ⟨old, isOld, rfl⟩ := List.mem_map.mp inside
    split at isPossible
    · cases isPossible
    · exact free.free old isOld possible isPossible

/-- Possible keys that are not required are given up without harm. -/
theorem mapM_giveUp (mark : Mark) (free : ∀ key ∈ keys, ∀ possible ∈ key, possible.required = false) :
    (keys.mapM fun key => if key.any (Scanner.isStale mark) then Scanner.giveUp key else some key) =
      some (keysAt mark keys) := by
  induction keys with
  | nil => rfl
  | cons key keys ih =>
    rw [List.forall_mem_cons] at free
    rw [List.mapM_cons, ih free.2, giveUp_of_free free.1]
    by_cases stale : key.any (Scanner.isStale mark) = true
    · rw [if_pos stale, keysAt, keysAt, List.map_cons, if_pos stale]
      rfl
    · rw [if_neg stale, keysAt, keysAt, List.map_cons, if_neg stale]
      rfl

theorem FreeKeys.exists_cons (free : FreeKeys depth keys) :
    ∃ key outer, keys = key :: outer ∧ outer.length = depth ∧
      (∀ possible ∈ key, possible.required = false) ∧
        ∀ key ∈ outer, ∀ possible ∈ key, possible.required = false := by
  obtain ⟨count, free⟩ := free
  cases keys with
  | nil => cases count
  | cons key outer =>
    rw [List.forall_mem_cons] at free
    exact ⟨key, outer, rfl, Nat.succ.inj count, free.1, free.2⟩

/-- The possible keys with another one for the innermost collection. -/
theorem FreeKeys.replace {outer : List (Option PossibleKey)} (free : FreeKeys depth (key :: outer))
    {other : Option PossibleKey} (isFree : ∀ possible ∈ other, possible.required = false) :
    FreeKeys depth (other :: outer) where
  count := free.count
  free := List.forall_mem_cons.mpr ⟨isFree, (List.forall_mem_cons.mp free.free).2⟩

theorem not_required_none : ∀ possible ∈ (none : Option PossibleKey), possible.required = false := by
  rintro possible ⟨⟩

/-! ### Turns -/

/-- A scanner at a stage settles where it is, if a token starts there. -/
theorem settle_scanner (stage : Stage) (free : FreeKeys stage.depth keys) (atToken : AtToken stage.rest) :
    (stage.scanner keys).settle = some (stage.scanner (keysAt stage.mark keys)) := by
  have standing : (stage.scanner keys).toToken = stage.scanner keys := by
    rw [Scanner.toToken]
    show { stage.scanner keys with
      cursor := (Scanner.skipSpace (stage.scanner keys).inFlow stage.keyAllowed false stage.mark
        stage.rest).1
      keyAllowed := (Scanner.skipSpace (stage.scanner keys).inFlow stage.keyAllowed false stage.mark
        stage.rest).2 } = _
    rw [skipSpace_token atToken]
    rfl
  have dropped : (stage.scanner keys).dropStaleKeys =
      some (stage.scanner (keysAt stage.mark keys)) := by
    rw [Scanner.dropStaleKeys]
    show (keys.mapM fun key : Option PossibleKey =>
      if key.any (Scanner.isStale stage.mark) then Scanner.giveUp key else some key).bind _ = _
    rw [mapM_giveUp stage.mark free.free]
    rfl
  rw [Scanner.settle, standing, dropped, Option.map_some, Scanner.closeBlocks]
  split <;> rfl

variable {stage : Stage}

theorem removeKey_scanner (free : FreeKeys stage.depth keys) :
    (stage.scanner keys).removeKey = some (stage.scanner (none :: keys.tail)) := by
  obtain ⟨key, outer, rfl, _, isFree, _⟩ := free.exists_cons
  show (Scanner.giveUp key).bind _ = _
  rw [giveUp_of_free isFree]
  rfl

/-- The possible keys after one may have begun at a stage. -/
def Stage.savedKeys (stage : Stage) (keys : List (Option PossibleKey)) : List (Option PossibleKey) :=
  if stage.keyAllowed then some ⟨stage.tokens.length, stage.mark, false⟩ :: keys.tail else keys

theorem FreeKeys.savedKeys (free : FreeKeys stage.depth keys) :
    FreeKeys stage.depth (stage.savedKeys keys) := by
  rw [Stage.savedKeys]
  split
  · obtain ⟨key, outer, rfl, _⟩ := free.exists_cons
    refine free.replace ?_
    rintro possible ⟨⟩
    rfl
  · exact free

theorem saveKey_scanner (free : FreeKeys stage.depth keys) :
    (stage.scanner keys).saveKey = some (stage.scanner (stage.savedKeys keys)) := by
  rw [Scanner.saveKey, Stage.savedKeys]
  show (if stage.keyAllowed = true then _ else _) = _
  cases stage.keyAllowed with
  | false => rfl
  | true =>
    rw [if_pos rfl, if_pos rfl, removeKey_scanner free]
    have notRequired : decide ((-1 : Int) = stage.mark.column) = false := decide_eq_false (by omega)
    show some (stage.scanner (some ⟨_, _, !_ && decide ((-1 : Int) = stage.mark.column)⟩ :: _)) = _
    rw [notRequired, Bool.and_false]
    rfl

end

/-- **One turn leads from stage to stage** when it does so for all possible keys. -/
theorem Leads.of_scanned {before after : Stage} (atToken : AtToken after.rest)
    (shorter : after.rest.length < before.rest.length)
    (scanned : ∀ keys, FreeKeys before.depth keys → ∃ keysThere, FreeKeys after.depth keysThere ∧
      (before.scanner keys).scanNext = some (after.scanner keysThere)) : Leads before after := by
  intro keys free
  obtain ⟨keysThere, freeThere, isScanned⟩ := scanned keys free
  exact ⟨keysAt after.mark keysThere, freeThere.keysAt after.mark,
    .single ⟨_, isScanned, settle_scanner _ freeThere atToken, shorter⟩⟩

/-! ### Indicators -/

/-- The start of a flow collection. -/
inductive Opens : Char → Token → Prop
  | sequence : Opens '[' .flowSequenceStart
  | mapping : Opens '\x7b' .flowMappingStart

/-- The end of a flow collection. -/
inductive Closes : Char → Token → Prop
  | sequence : Closes ']' .flowSequenceEnd
  | mapping : Closes '\x7d' .flowMappingEnd

namespace Scanner

variable {scanner : Scanner} {c : Char} {token : Token} {rest : List Char}

theorem scanToken_open (opens : Opens c token) :
    scanner.scanToken c rest = scanner.scanFlowStart token := by
  cases opens <;> simp [scanToken, atMarker]

theorem scanToken_close (closes : Closes c token) :
    scanner.scanToken c rest = scanner.scanFlowEnd token := by
  cases closes <;> simp [scanToken, atMarker]

theorem scanToken_comma : scanner.scanToken ',' rest = scanner.scanFlowEntry := by
  simp [scanToken, atMarker]

theorem scanToken_colon (inFlow : scanner.inFlow = true) :
    scanner.scanToken ':' rest = scanner.scanValue := by
  simp [scanToken, atMarker, inFlow]

theorem scanToken_quote : scanner.scanToken '"' rest = scanner.scanQuoted true := by
  simp [scanToken, atMarker]

/-- A word or a numeral is no marker and starts with no indicator. -/
theorem scanToken_bare (starts : StartsBare (c :: rest)) : scanner.scanToken c rest = scanner.scanPlain := by
  have apart : ∀ {d e : Char}, d.isAlphanum = true → e.isAlphanum = false → d ≠ e := by
    rintro d e alphanumeric notAlphanumeric rfl
    rw [alphanumeric] at notAlphanumeric
    cases notAlphanumeric
  have ordinary : ∀ {d : Char}, d.isAlphanum = true →
      isBlank d = false ∧ isBreak d = false ∧ d ∉ starters := by
    intro d alphanumeric
    have bare : isBareChar d = true := by simp [isBareChar, alphanumeric]
    obtain ⟨_, inLine, notBlank, _⟩ := ordinary_of_isBareChar bare
    refine ⟨notBlank, inLine, fun isStarter => ?_⟩
    have none : ∀ e ∈ starters, e.isAlphanum = false := by
      simpa using (by decide : starters.all (fun e => !e.isAlphanum) = true)
    exact apart alphanumeric (none d isStarter) rfl
  cases starts with
  | word alphanumeric =>
    obtain ⟨notBlank, _, notStarter⟩ := ordinary alphanumeric
    have noMarker : atMarker (c :: rest) = false := by
      rw [atMarker]
      · intro _ same
        cases same
        exact absurd alphanumeric (by decide)
      · intro _ same
        cases same
        exact absurd alphanumeric (by decide)
    simp only [starters, List.mem_cons, List.not_mem_nil, or_false, not_or] at notStarter
    simp [scanToken, noMarker, notStarter, startsPlain, starters, notBlank]
  | @negative d rest alphanumeric =>
    obtain ⟨notBlank, inLine, _⟩ := ordinary alphanumeric
    have noMarker : atMarker ('-' :: d :: rest) = false := by
      rw [atMarker]
      · intro _ same
        cases same
        exact absurd alphanumeric (by decide)
      · intro _ same
        cases same
    have noGap : atGap (d :: rest) = false := by
      rw [atGap, notBlank, inLine]
      rfl
    simp [scanToken, noMarker, noGap, startsPlain, isBlank, starters]

end Scanner

/-- **The text goes on with an indicator** of a collection. -/
def GoesOn (rest : List Char) : Prop := ∃ c more, rest = c :: more ∧ isFlowIndicator c = true

theorem GoesOn.atToken {rest : List Char} (goesOn : GoesOn rest) : AtToken rest := by
  obtain ⟨indicator, more, rfl, indicates⟩ := goesOn
  rintro c ⟨⟩
  simp only [isFlowIndicator, Bool.or_eq_true, beq_iff_eq] at indicates
  rcases indicates with (((rfl | rfl) | rfl) | rfl) | rfl <;> decide

section

variable {tokens : List Token} {depth : Nat} {allowed : Bool} {mark : Mark} {rest : List Char}

theorem Stage.scanNext_cons {c : Char} {keys : List (Option PossibleKey)} :
    (Stage.scanner ⟨tokens, depth, allowed, mark, c :: rest⟩ keys).scanNext =
      (Stage.scanner ⟨tokens, depth, allowed, mark, c :: rest⟩ keys).scanToken c rest := rfl

theorem inFlow_scanner {keys : List (Option PossibleKey)} (free : FreeKeys (depth + 1) keys) :
    (Stage.scanner ⟨tokens, depth + 1, allowed, mark, rest⟩ keys).inFlow = true := by
  simp [Scanner.inFlow, Stage.scanner, free.count]

theorem leads_open {c : Char} {token : Token} (opens : Opens c token) (atToken : AtToken rest) :
    Leads ⟨tokens, depth, allowed, mark, c :: rest⟩
      ⟨token :: tokens, depth + 1, true, mark.skip 1, rest⟩ := by
  refine .of_scanned atToken (Nat.lt_succ_self _) fun keys free => ?_
  refine ⟨none :: Stage.savedKeys ⟨tokens, depth, allowed, mark, c :: rest⟩ keys, ?_, ?_⟩
  · exact ⟨congrArg (· + 1) free.savedKeys.count,
      List.forall_mem_cons.mpr ⟨not_required_none, free.savedKeys.free⟩⟩
  · rw [Stage.scanNext_cons, Scanner.scanToken_open opens, Scanner.scanFlowStart, saveKey_scanner free]
    rfl

theorem leads_close {c : Char} {token : Token} (closes : Closes c token) (atToken : AtToken rest) :
    Leads ⟨tokens, depth + 1, allowed, mark, c :: rest⟩
      ⟨token :: tokens, depth, false, mark.skip 1, rest⟩ := by
  refine .of_scanned atToken (Nat.lt_succ_self _) fun keys free => ?_
  obtain ⟨key, outer, rfl, count, _, isFree⟩ := free.exists_cons
  refine ⟨outer, ⟨count, isFree⟩, ?_⟩
  rw [Stage.scanNext_cons, Scanner.scanToken_close closes, Scanner.scanFlowEnd, removeKey_scanner free]
  simp only [List.tail_cons, Option.bind_eq_bind, Option.bind_some,
    inFlow_scanner (free.replace not_required_none), if_true]
  rfl

theorem leads_comma (atToken : AtToken rest) :
    Leads ⟨tokens, depth, allowed, mark, ',' :: rest⟩
      ⟨.flowEntry :: tokens, depth, true, mark.skip 1, rest⟩ := by
  refine .of_scanned atToken (Nat.lt_succ_self _) fun keys free => ?_
  obtain ⟨key, outer, rfl, _⟩ := free.exists_cons
  refine ⟨none :: outer, free.replace not_required_none, ?_⟩
  rw [Stage.scanNext_cons, Scanner.scanToken_comma, Scanner.scanFlowEntry, removeKey_scanner free]
  rfl

/-! ### Scalars -/

/-- **A word or a numeral is one token** in front of an indicator. -/
theorem leads_word {word : List Char} (bare : BareWord word) (goesOn : GoesOn rest) :
    Leads ⟨tokens, depth + 1, allowed, mark, word ++ rest⟩
      ⟨.scalar (String.ofList word) true :: tokens, depth + 1, false, mark.past word, rest⟩ := by
  have starts := bare.starts.append rest
  have shorter : rest.length < (word ++ rest).length := by
    rw [List.length_append]
    exact Nat.lt_add_of_pos_left bare.starts.length_pos
  refine .of_scanned goesOn.atToken shorter fun keys free => ⟨_, free.savedKeys, ?_⟩
  obtain ⟨indicator, more, rfl, indicates⟩ := goesOn
  have isRead := readPlain_bareWord 0 more indicates mark bare.all
  generalize word ++ indicator :: more = text at starts free isRead ⊢
  cases text with
  | nil => cases starts
  | cons c text =>
    rw [Stage.scanNext_cons, Scanner.scanToken_bare starts, Scanner.scanPlain, saveKey_scanner free]
    show (readPlain ⟨(Stage.scanner _ _).inFlow, 0⟩ .none mark (c :: text)).bind _ = _
    rw [inFlow_scanner free.savedKeys, isRead]
    rfl

/-- A string is one token, and a key may have begun at it. -/
theorem scanNext_string {text : String} (shared : ∀ c ∈ text.toList, isShared c = true)
    {keys : List (Option PossibleKey)} (free : FreeKeys depth keys) :
    (Stage.scanner ⟨tokens, depth, allowed, mark, stringChars text ++ rest⟩ keys).scanNext =
      some (Stage.scanner ⟨.scalar text false :: tokens, depth, false, mark.past (stringChars text), rest⟩
        (Stage.savedKeys ⟨tokens, depth, allowed, mark, stringChars text ++ rest⟩ keys)) := by
  have written : stringChars text ++ rest =
      '"' :: (text.toList.flatMap Json.escapeChar ++ '"' :: rest) := by
    simp [stringChars]
  have place : (mark.skip 1).skip ((text.toList.flatMap Json.escapeChar).length + 1) =
      mark.past (stringChars text) := by
    rw [Mark.past, Mark.skip_skip, stringChars]
    congr 1
    simp
    omega
  have isRead := readDouble_stringChars shared (show 0 < (mark.skip 1).column from Nat.succ_pos _) rest
  rw [written, Stage.scanNext_cons, Scanner.scanToken_quote, Scanner.scanQuoted, saveKey_scanner free]
  show (readDouble (.text .none) (mark.skip 1)
    (text.toList.flatMap Json.escapeChar ++ '"' :: rest)).bind _ = _
  rw [isRead, place]
  show some (Stage.scanner ⟨.scalar (String.ofList text.toList) false :: tokens, depth, false, _, rest⟩
    _) = _
  rw [String.ofList_toList]
  rfl

/-- A string in quotes takes up room. -/
theorem length_lt_stringChars (text : String) (rest : List Char) :
    rest.length < (stringChars text ++ rest).length := by
  simp only [stringChars, List.length_append, List.length_cons]
  omega

theorem leads_string {text : String} (shared : ∀ c ∈ text.toList, isShared c = true)
    (atToken : AtToken rest) :
    Leads ⟨tokens, depth, allowed, mark, stringChars text ++ rest⟩
      ⟨.scalar text false :: tokens, depth, false, mark.past (stringChars text), rest⟩ :=
  .of_scanned atToken (length_lt_stringChars text rest) fun _ free =>
    ⟨_, free.savedKeys, scanNext_string shared free⟩

/-- **A key of an object**: a string that both formats read alike, and that is short enough to be a key. -/
structure IsCommonKey (key : String) : Prop where
  shared : ∀ c ∈ key.toList, isShared c = true
  short : (stringChars key).length ≤ 1024

theorem isCommonKey_iff {key : String} :
    key.toList.all isShared = true ∧ (stringChars key).length ≤ 1024 ↔ IsCommonKey key :=
  ⟨fun both => ⟨List.all_eq_true.mp both.1, both.2⟩,
    fun common => ⟨List.all_eq_true.mpr common.shared, common.short⟩⟩

instance (key : String) : Decidable (IsCommonKey key) := decidable_of_iff _ isCommonKey_iff

/-- At the colon the token of the key is put in before that of the string. -/
theorem scanNext_colon {key : String} {outer : List (Option PossibleKey)} {there : Mark}
    (count : outer.length = depth + 1) :
    (Stage.scanner ⟨.scalar key false :: tokens, depth + 1, false, there, ':' :: rest⟩
        (some ⟨tokens.length, mark, false⟩ :: outer)).scanNext =
      some (Stage.scanner ⟨.value :: .scalar key false :: .key :: tokens, depth + 1, false, there.skip 1,
        rest⟩ (none :: outer)) := by
  have inFlow : ∀ tokens key, (Stage.scanner ⟨tokens, depth + 1, false, there, ':' :: rest⟩
      (key :: outer)).inFlow = true := by
    intro tokens key
    simp [Scanner.inFlow, Stage.scanner, count]
  have inserted : ∀ keys, Scanner.insert (Stage.scanner ⟨.scalar key false :: tokens, depth + 1, false,
      there, ':' :: rest⟩ keys) tokens.length .key =
      Stage.scanner ⟨.scalar key false :: .key :: tokens, depth + 1, false, there, ':' :: rest⟩ keys := by
    intro keys
    simp [Scanner.insert, Stage.scanner]
  rw [Stage.scanNext_cons, Scanner.scanToken_colon (inFlow _ _)]
  show some (((({ (Scanner.insert _ tokens.length .key).openBlock mark.column tokens.length
    .blockMappingStart with keys := none :: outer } : Scanner).allowKey false).skip 1).push .value) = _
  rw [inserted, Scanner.openBlock, inFlow]
  rfl

/-- **A string in front of a colon is a key.** -/
theorem leads_key {key : String} (common : IsCommonKey key) (atToken : AtToken rest) :
    Leads ⟨tokens, depth + 1, true, mark, stringChars key ++ ':' :: rest⟩
      ⟨.value :: .scalar key false :: .key :: tokens, depth + 1, false,
        (mark.past (stringChars key)).skip 1, rest⟩ := by
  intro keys free
  obtain ⟨possible, outer, rfl, count, _, _⟩ := free.exists_cons
  have atColon : AtToken (':' :: rest) := by
    rintro c ⟨⟩
    decide
  let there := keysAt (mark.past (stringChars key)) outer
  have freeThere : FreeKeys (depth + 1) (none :: there) :=
    (free.replace not_required_none).keysAt (mark.past (stringChars key))
  -- The possible key is not given up at the colon, because it is short and on the same line.
  have fresh : Scanner.isStale (mark.past (stringChars key)) ⟨tokens.length, mark, false⟩ = false := by
    have short := common.short
    simp [Scanner.isStale, Mark.past, Mark.skip]
    omega
  have freeThen : FreeKeys (Stage.mk (.scalar key false :: tokens) (depth + 1) false
      (mark.past (stringChars key)) (':' :: rest)).depth (some ⟨tokens.length, mark, false⟩ :: outer) :=
    free.savedKeys
  have atKey : Scanner.Next
      (Stage.scanner ⟨tokens, depth + 1, true, mark, stringChars key ++ ':' :: rest⟩ (possible :: outer))
      (Stage.scanner ⟨.scalar key false :: tokens, depth + 1, false, mark.past (stringChars key),
        ':' :: rest⟩ (some ⟨tokens.length, mark, false⟩ :: there)) := by
    have settled := settle_scanner _ freeThen atColon
    rw [keysAt, List.map_cons, Option.any_some, fresh] at settled
    exact ⟨_, scanNext_string common.shared free, settled, length_lt_stringChars key _⟩
  exact ⟨_, freeThere.keysAt _, .head atKey (.single ⟨_,
    scanNext_colon (Nat.succ.inj freeThere.count), settle_scanner _ freeThere atToken,
    Nat.lt_succ_self _⟩)⟩

end

/-! ### Whole texts -/

theorem atToken_nil : AtToken [] := by
  rintro c ⟨⟩

/-- **A text that leads to its end is scanned as the tokens there.** -/
theorem scan_of_leads {text : List Char} {tokens : List Token} {allowed : Bool} {mark : Mark}
    (legal : ∀ c ∈ text, isAllowed c = true) (atToken : AtToken text)
    (leads : Leads ⟨[], 0, true, {}, text⟩ ⟨tokens, 0, allowed, mark, []⟩) :
    scan text = some tokens.reverse := by
  have outside : FreeKeys 0 [none] := ⟨rfl, List.forall_mem_singleton.mpr not_required_none⟩
  have settled : Scanner.settle { cursor := { rest := text } } = _ :=
    settle_scanner ⟨[], 0, true, {}, text⟩ outside atToken
  obtain ⟨keys, free, turns⟩ := leads _ (outside.keysAt {})
  obtain ⟨left, isRun⟩ := Scanner.runSettled_of_reaches turns text.length (Nat.le_refl _)
  have finished : (Stage.scanner ⟨tokens, 0, allowed, mark, []⟩ keys).finish =
      some (Stage.scanner ⟨tokens, 0, allowed, mark, []⟩ (none :: keys.tail)) := by
    rw [Scanner.finish, Scanner.closeBlocks]
    split
    · exact removeKey_scanner free
    · exact removeKey_scanner free
  rw [scan, if_pos (List.all_eq_true.mpr legal), Scanner.run_succ, settled]
  show (Scanner.runSettled _ _).map _ = _
  rw [isRun]
  show (Scanner.finish _).map _ = _
  rw [finished]
  rfl

end Yaml

end PipelineGraph
