/-
**The text of a JSON value is scanned as its tokens.**

`IsCommon` says of a value that both formats read alike what it is written with: its strings hold no
character that YAML takes for something else, its keys are short enough for YAML, and each of its numbers
means the same to both. The tokens of such a value (`flowTokens`) follow the way in which it is written,
and so does the scanner, item by item and member by member.

* `leads_value` — a value is scanned as its tokens, up to the next indicator.
* `scan_object` — **the text of an object is scanned as its tokens.**
-/

import PipelineGraph.Json.Record
import PipelineGraph.Proofs.Yaml.FlowScanning

namespace PipelineGraph.Yaml

open Json (stringChars itemsChars membersChars)

/-! ### Values that both formats read alike -/

/-- **A number that both formats read alike**: it is written as a numeral that says this number, and that
means it to YAML too. -/
structure IsCommonNumber (number : Json.Number) : Prop where
  written : number.IsWritten
  means : Scalar.plainFound (String.ofList number.chars) = number.found

mutual

/-- **A value that both formats read alike.** -/
def IsCommon : Json.Value → Prop
  | .null => True
  | .bool _ => True
  | .number number => IsCommonNumber number
  | .string text => ∀ c ∈ text.toList, isShared c = true
  | .array items => AreCommon items
  | .object members => MembersAreCommon members

/-- Each item is read alike by both formats. -/
def AreCommon : List Json.Value → Prop
  | [] => True
  | item :: rest => IsCommon item ∧ AreCommon rest

/-- Each member is read alike by both formats. -/
def MembersAreCommon : List (String × Json.Value) → Prop
  | [] => True
  | (key, value) :: rest => IsCommonKey key ∧ IsCommon value ∧ MembersAreCommon rest

end

mutual

/-- A value that both formats read alike is read back as JSON. -/
theorem IsCommon.isWritten : ∀ {value : Json.Value}, IsCommon value → value.IsWritten
  | .null, _ => trivial
  | .bool _, _ => trivial
  | .number _, common => common.written
  | .string _, _ => trivial
  | .array _, common => AreCommon.areWritten common
  | .object _, common => MembersAreCommon.membersWritten common

theorem AreCommon.areWritten : ∀ {items : List Json.Value}, AreCommon items → Json.AreWritten items
  | [], _ => trivial
  | _ :: _, common => ⟨IsCommon.isWritten common.1, AreCommon.areWritten common.2⟩

theorem MembersAreCommon.membersWritten : ∀ {members : List (String × Json.Value)},
    MembersAreCommon members → Json.MembersWritten members
  | [], _ => trivial
  | (_, _) :: _, ⟨_, value, others⟩ =>
    ⟨IsCommon.isWritten value, MembersAreCommon.membersWritten others⟩

end

mutual

/-- The tokens of a value. -/
def flowTokens : Json.Value → List Token
  | .null => [.scalar Json.Value.null.text true]
  | .bool value => [.scalar (Json.Value.bool value).text true]
  | .number number => [.scalar (Json.Value.number number).text true]
  | .string text => [.scalar text false]
  | .array [] => [.flowSequenceStart, .flowSequenceEnd]
  | .array (item :: rest) =>
    .flowSequenceStart :: flowTokens item ++ itemsTokens rest ++ [.flowSequenceEnd]
  | .object [] => [.flowMappingStart, .flowMappingEnd]
  | .object ((key, value) :: rest) =>
    .flowMappingStart :: .key :: .scalar key false :: .value :: flowTokens value ++ membersTokens rest ++
      [.flowMappingEnd]

/-- The tokens of the items after the first one. -/
def itemsTokens : List Json.Value → List Token
  | [] => []
  | item :: rest => .flowEntry :: flowTokens item ++ itemsTokens rest

/-- The tokens of the members after the first one. -/
def membersTokens : List (String × Json.Value) → List Token
  | [] => []
  | (key, value) :: rest =>
    .flowEntry :: .key :: .scalar key false :: .value :: flowTokens value ++ membersTokens rest

end

/-! ### Where values start, and what they are written with -/

theorem StartsBare.atToken {word : List Char} (starts : StartsBare word) : AtToken word := by
  have ordinary : ∀ {c : Char}, isBareChar c = true →
      isBlank c = false ∧ isBreak c = false ∧ c ≠ '#' ∧ c ≠ '\ufeff' := by
    intro c bare
    obtain ⟨_, inLine, notBlank, _⟩ := ordinary_of_isBareChar bare
    refine ⟨notBlank, inLine, ?_, ?_⟩
    · rintro rfl
      exact absurd bare (by decide)
    · rintro rfl
      exact absurd bare (by decide)
  rintro c first
  cases starts with
  | word alphanumeric =>
    cases first
    exact ordinary (by simp [isBareChar, alphanumeric])
  | negative _ =>
    cases first
    exact ordinary rfl

theorem atToken_stringChars (text : String) (rest : List Char) : AtToken (stringChars text ++ rest) := by
  rintro c ⟨⟩
  decide

/-- **A value starts with a token.** -/
theorem atToken_chars {value : Json.Value} (common : IsCommon value) (rest : List Char) :
    AtToken (value.chars ++ rest) := by
  cases value with
  | null => exact (bareWord_null.starts.append rest).atToken
  | bool value => exact ((bareWord_bool value).starts.append rest).atToken
  | number number =>
    obtain ⟨_, spelled, _⟩ := common.written
    exact ((bareWord_of_spellsNumeral spelled).starts.append rest).atToken
  | string text => exact atToken_stringChars text rest
  | array items =>
    cases items <;>
      · rintro c ⟨⟩
        decide
  | object members =>
    cases members <;>
      · rintro c ⟨⟩
        decide

theorem goesOn_comma (rest : List Char) : GoesOn (',' :: rest) := ⟨',', rest, rfl, rfl⟩

theorem goesOn_itemsChars (items : List Json.Value) {rest : List Char} (goesOn : GoesOn rest) :
    GoesOn (itemsChars items ++ rest) := by
  cases items with
  | nil => exact goesOn
  | cons item items => exact goesOn_comma _

theorem goesOn_membersChars (members : List (String × Json.Value)) {rest : List Char} (goesOn : GoesOn rest) :
    GoesOn (membersChars members ++ rest) := by
  cases members with
  | nil => exact goesOn
  | cons member members => exact goesOn_comma _

theorem chars_array_cons (item : Json.Value) (rest : List Json.Value) :
    (Json.Value.array (item :: rest)).chars = '[' :: item.chars ++ itemsChars rest ++ [']'] := rfl

theorem chars_object_cons (key : String) (value : Json.Value) (rest : List (String × Json.Value)) :
    (Json.Value.object ((key, value) :: rest)).chars =
      '\x7b' :: stringChars key ++ ':' :: value.chars ++ membersChars rest ++ ['\x7d'] := rfl

theorem BareWord.isAllowed {word : List Char} (bare : BareWord word) :
    ∀ c ∈ word, Yaml.isAllowed c = true := fun c inside => (ordinary_of_isBareChar (bare.all c inside)).1

mutual

/-- **A value is written in characters that YAML allows.** -/
theorem isAllowed_chars : ∀ {value : Json.Value}, IsCommon value → ∀ c ∈ value.chars, isAllowed c = true
  | .null, _ => bareWord_null.isAllowed
  | .bool value, _ => (bareWord_bool value).isAllowed
  | .number _, common => (bareWord_of_spellsNumeral common.written.choose_spec.1).isAllowed
  | .string _, shared => isAllowed_stringChars shared
  | .array [], _ => List.all_eq_true.mp (by decide)
  | .array (_ :: _), common => by
    rw [chars_array_cons, List.forall_mem_append, List.forall_mem_append]
    exact ⟨⟨List.forall_mem_cons.mpr ⟨rfl, isAllowed_chars common.1⟩, isAllowed_itemsChars common.2⟩,
      List.forall_mem_singleton.mpr rfl⟩
  | .object [], _ => List.all_eq_true.mp (by decide)
  | .object ((_, _) :: _), ⟨key, value, others⟩ => by
    rw [chars_object_cons, List.forall_mem_append, List.forall_mem_append, List.forall_mem_append]
    exact ⟨⟨⟨List.forall_mem_cons.mpr ⟨rfl, isAllowed_stringChars key.shared⟩,
      List.forall_mem_cons.mpr ⟨rfl, isAllowed_chars value⟩⟩, isAllowed_membersChars others⟩,
      List.forall_mem_singleton.mpr rfl⟩

theorem isAllowed_itemsChars : ∀ {items : List Json.Value}, AreCommon items →
    ∀ c ∈ itemsChars items, isAllowed c = true
  | [], _ => List.forall_mem_nil _
  | _ :: _, common => by
    rw [itemsChars, List.forall_mem_append]
    exact ⟨List.forall_mem_cons.mpr ⟨rfl, isAllowed_chars common.1⟩, isAllowed_itemsChars common.2⟩

theorem isAllowed_membersChars : ∀ {members : List (String × Json.Value)}, MembersAreCommon members →
    ∀ c ∈ membersChars members, isAllowed c = true
  | [], _ => List.forall_mem_nil _
  | (_, _) :: _, ⟨key, value, others⟩ => by
    rw [membersChars, List.forall_mem_append, List.forall_mem_append]
    exact ⟨⟨List.forall_mem_cons.mpr ⟨rfl, isAllowed_stringChars key.shared⟩,
      List.forall_mem_cons.mpr ⟨rfl, isAllowed_chars value⟩⟩, isAllowed_membersChars others⟩

end

/-! ### From stage to stage -/

mutual

/-- **The text of a value is scanned as its tokens**, among the items of a collection. -/
theorem leads_value : ∀ {value : Json.Value} {tokens : List Token} {depth : Nat} {allowed : Bool} {mark : Mark}
    {rest : List Char}, IsCommon value → GoesOn rest →
    Leads ⟨tokens, depth + 1, allowed, mark, value.chars ++ rest⟩
      ⟨(flowTokens value).reverse ++ tokens, depth + 1, false, mark.past value.chars, rest⟩
  | .null, _, _, _, _, _, _, goesOn => leads_word bareWord_null goesOn
  | .bool value, _, _, _, _, _, _, goesOn => leads_word (bareWord_bool value) goesOn
  | .number _, _, _, _, _, _, common, goesOn =>
    leads_word (bareWord_of_spellsNumeral common.written.choose_spec.1) goesOn
  | .string _, _, _, _, _, _, shared, goesOn => leads_string shared goesOn.atToken
  | .array _, _, _, _, _, _, common, goesOn => leads_array common goesOn.atToken
  | .object _, _, _, _, _, _, common, goesOn => leads_object common goesOn.atToken

/-- An array is scanned as its tokens, wherever it stands. -/
theorem leads_array : ∀ {items : List Json.Value} {tokens : List Token} {depth : Nat} {allowed : Bool}
    {mark : Mark} {rest : List Char}, AreCommon items → AtToken rest →
    Leads ⟨tokens, depth, allowed, mark, (Json.Value.array items).chars ++ rest⟩
      ⟨(flowTokens (.array items)).reverse ++ tokens, depth, false, mark.past (Json.Value.array items).chars,
        rest⟩
  | [], _, _, _, _, rest, _, atToken =>
    have closing : GoesOn (']' :: rest) := ⟨_, _, rfl, rfl⟩
    (leads_open .sequence closing.atToken).trans (leads_close .sequence atToken)
  | item :: items, _, _, _, _, rest, common, atToken => by
    have closing : GoesOn (']' :: rest) := ⟨_, _, rfl, rfl⟩
    simp only [chars_array_cons, flowTokens, Mark.past_cons, Mark.past_append, Mark.past_nil,
      List.reverse_cons, List.reverse_append, List.append_assoc, List.cons_append, List.nil_append,
      List.reverse_nil]
    refine (leads_open .sequence (atToken_chars common.1 _)).trans ?_
    refine (leads_value common.1 (goesOn_itemsChars items closing)).trans ?_
    exact (leads_items common.2 closing).trans (leads_close .sequence atToken)

/-- The items after the first one are scanned as their tokens. -/
theorem leads_items : ∀ {items : List Json.Value} {tokens : List Token} {depth : Nat} {mark : Mark}
    {rest : List Char}, AreCommon items → GoesOn rest →
    Leads ⟨tokens, depth + 1, false, mark, itemsChars items ++ rest⟩
      ⟨(itemsTokens items).reverse ++ tokens, depth + 1, false, mark.past (itemsChars items), rest⟩
  | [], _, _, _, _, _, _ => .refl _
  | item :: items, _, _, _, rest, common, goesOn => by
    simp only [itemsChars, itemsTokens, Mark.past_cons, Mark.past_append, List.reverse_cons,
      List.reverse_append, List.append_assoc, List.cons_append, List.nil_append]
    refine (leads_comma (atToken_chars common.1 _)).trans ?_
    exact (leads_value common.1 (goesOn_itemsChars items goesOn)).trans (leads_items common.2 goesOn)

/-- An object is scanned as its tokens, wherever it stands. -/
theorem leads_object : ∀ {members : List (String × Json.Value)} {tokens : List Token} {depth : Nat}
    {allowed : Bool} {mark : Mark} {rest : List Char}, MembersAreCommon members → AtToken rest →
    Leads ⟨tokens, depth, allowed, mark, (Json.Value.object members).chars ++ rest⟩
      ⟨(flowTokens (.object members)).reverse ++ tokens, depth, false,
        mark.past (Json.Value.object members).chars, rest⟩
  | [], _, _, _, _, rest, _, atToken =>
    have closing : GoesOn ('\x7d' :: rest) := ⟨_, _, rfl, rfl⟩
    (leads_open .mapping closing.atToken).trans (leads_close .mapping atToken)
  | (key, value) :: members, _, _, _, _, rest, ⟨keyCommon, valueCommon, others⟩, atToken => by
    have closing : GoesOn ('\x7d' :: rest) := ⟨_, _, rfl, rfl⟩
    simp only [chars_object_cons, flowTokens, Mark.past_cons, Mark.past_append, Mark.past_nil,
      List.reverse_cons, List.reverse_append, List.append_assoc, List.cons_append, List.nil_append,
      List.reverse_nil]
    refine (leads_open .mapping (atToken_stringChars key _)).trans ?_
    refine (leads_key keyCommon (atToken_chars valueCommon _)).trans ?_
    refine (leads_value valueCommon (goesOn_membersChars members closing)).trans ?_
    exact (leads_members others closing).trans (leads_close .mapping atToken)

/-- The members after the first one are scanned as their tokens. -/
theorem leads_members : ∀ {members : List (String × Json.Value)} {tokens : List Token} {depth : Nat}
    {mark : Mark} {rest : List Char}, MembersAreCommon members → GoesOn rest →
    Leads ⟨tokens, depth + 1, false, mark, membersChars members ++ rest⟩
      ⟨(membersTokens members).reverse ++ tokens, depth + 1, false, mark.past (membersChars members), rest⟩
  | [], _, _, _, _, _, _ => .refl _
  | (key, value) :: members, _, _, _, rest, ⟨keyCommon, valueCommon, others⟩, goesOn => by
    simp only [membersChars, membersTokens, Mark.past_cons, Mark.past_append, List.reverse_cons,
      List.reverse_append, List.append_assoc, List.cons_append, List.nil_append]
    refine (leads_comma (atToken_stringChars key _)).trans ?_
    refine (leads_key keyCommon (atToken_chars valueCommon _)).trans ?_
    exact (leads_value valueCommon (goesOn_membersChars members goesOn)).trans (leads_members others goesOn)

end

/-- **The text of an object is scanned as its tokens.** -/
theorem scan_object {members : List (String × Json.Value)} (common : MembersAreCommon members) :
    scan (Json.Value.object members).chars = some (flowTokens (.object members)) := by
  have whole : IsCommon (.object members) := common
  have atToken := atToken_chars whole []
  have leads : Leads ⟨[], 0, true, {}, (Json.Value.object members).chars ++ []⟩ _ :=
    leads_object common atToken_nil
  rw [List.append_nil] at atToken leads
  have scanned := scan_of_leads (isAllowed_chars whole) atToken leads
  rwa [List.append_nil, List.reverse_reverse] at scanned

end PipelineGraph.Yaml
