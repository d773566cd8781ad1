/-
**The tokens of a JSON value are a document of YAML.**

As for the outlines of blocks, the tokens are parsed to a tree (`readNode_tokens`), and the tree has no
anchor and is linked to its occurrence (`link_flowTree`). Both go through the value in the way in which
its tokens are written; after a comma a collection is read as at its start, so that the first item is no
case of its own.

* `ofText_object` — **the document of an object's text** is the occurrence of the object.
-/

import PipelineGraph.Proofs.Yaml.JsonScanning
import PipelineGraph.Yaml.Document

namespace PipelineGraph.Yaml

/-! ### Trees and occurrences -/

mutual

/-- The tree of a value. -/
def flowTree : Json.Value → Tree
  | .null => .scalar {} true Json.Value.null.text
  | .bool value => .scalar {} true (Json.Value.bool value).text
  | .number number => .scalar {} true (Json.Value.number number).text
  | .string text => .scalar {} false text
  | .array items => .sequence {} (itemTrees items)
  | .object members => .mapping {} (memberTrees members)

/-- The trees of items. -/
def itemTrees : List Json.Value → List Tree
  | [] => []
  | item :: rest => flowTree item :: itemTrees rest

/-- The trees of members. -/
def memberTrees : List (String × Json.Value) → List (Tree × Tree)
  | [] => []
  | (key, value) :: rest => (.scalar {} false key, flowTree value) :: memberTrees rest

end

/-- The occurrence of a scalar without a tag. -/
def scalarOccurrence (plain : Bool) (text : String) : Occurrence :=
  .value none (.scalar ⟨none, plain, text⟩)

mutual

/-- The occurrence of a value. -/
def flowOccurrence : Json.Value → Occurrence
  | .null => scalarOccurrence true Json.Value.null.text
  | .bool value => scalarOccurrence true (Json.Value.bool value).text
  | .number number => scalarOccurrence true (Json.Value.number number).text
  | .string text => scalarOccurrence false text
  | .array items => .value none (.sequence none (itemOccurrences items))
  | .object members => .value none (.mapping none (memberOccurrences members))

/-- The occurrences of items. -/
def itemOccurrences : List Json.Value → List Occurrence
  | [] => []
  | item :: rest => flowOccurrence item :: itemOccurrences rest

/-- The occurrences of members. -/
def memberOccurrences : List (String × Json.Value) → List (Occurrence × Occurrence)
  | [] => []
  | (key, value) :: rest => (scalarOccurrence false key, flowOccurrence value) :: memberOccurrences rest

end

/-! ### From tokens to trees -/

section

variable (handles : Handles)

/-- After a comma the items of a sequence are read as at its start. -/
theorem readFlowItems_comma (fuel : Nat) (tokens : List Token) :
    readFlowItems handles (fuel + 1) false (.flowEntry :: tokens) =
      readFlowItems handles (fuel + 1) true tokens := by
  cases tokens with
  | nil => rfl
  | cons token tokens => cases token <;> rfl

/-- After a comma the entries of a mapping are read as at its start. -/
theorem readFlowEntries_comma (fuel : Nat) (tokens : List Token) :
    readFlowEntries handles (fuel + 1) false (.flowEntry :: tokens) =
      readFlowEntries handles (fuel + 1) true tokens := by
  cases tokens with
  | nil => rfl
  | cons token tokens => cases token <;> rfl

/-- A value is an item of its own, and no key of an entry. -/
theorem readFlowItems_value (fuel : Nat) (value : Json.Value) (rest : List Token) :
    readFlowItems handles (fuel + 1) true (flowTokens value ++ rest) =
      (readNode handles fuel false false (flowTokens value ++ rest)).bind fun (item, rest) =>
        (readFlowItems handles fuel false rest).bind fun (items, rest) => some (item :: items, rest) := by
  cases value with
  | array items => cases items <;> rfl
  | object members => cases members <;> rfl
  | _ => rfl

/-- A key and a value are an entry. -/
theorem readFlowEntries_member (fuel : Nat) (key : String) (value : Json.Value) (rest : List Token) :
    readFlowEntries handles (fuel + 4) true
        (.key :: .scalar key false :: .value :: (flowTokens value ++ rest)) =
      (readNode handles (fuel + 1) false false (flowTokens value ++ rest)).bind fun (value, rest) =>
        (readFlowEntries handles (fuel + 3) false rest).bind fun (entries, rest) =>
          some ((.scalar {} false key, value) :: entries, rest) := by
  cases value with
  | array items => cases items <;> rfl
  | object members => cases members <;> rfl
  | _ => rfl

mutual

/-- **The tokens of a value are parsed to its tree**, whatever follows. -/
theorem readNode_tokens : ∀ (value : Json.Value) (fuel : Nat) (block : Bool) (rest : List Token),
    2 * (flowTokens value).length ≤ fuel →
    readNode handles fuel block false (flowTokens value ++ rest) = some (flowTree value, rest)
  | .null, fuel + 1, _, _, _ => rfl
  | .bool _, fuel + 1, _, _, _ => rfl
  | .number _, fuel + 1, _, _, _ => rfl
  | .string _, fuel + 1, _, _, _ => rfl
  | .array [], fuel + 2, _, _, _ => rfl
  | .array (item :: items), fuel, block, rest, enough => by
    have counted : (flowTokens (.array (item :: items))).length =
        (flowTokens item).length + (itemsTokens items).length + 2 := by
      simp [flowTokens]
      omega
    obtain ⟨fuel, rfl⟩ := Nat.exists_eq_add_of_le' (show 2 ≤ fuel by omega)
    have isItem := readNode_tokens item fuel false (itemsTokens items ++ .flowSequenceEnd :: rest)
      (by omega)
    have areItems := readFlowItems_tokens items fuel rest (by omega)
    have written : flowTokens (.array (item :: items)) ++ rest =
        .flowSequenceStart :: (flowTokens item ++ (itemsTokens items ++ .flowSequenceEnd :: rest)) := by
      simp [flowTokens]
    rw [written]
    show (readFlowItems handles (fuel + 1) true _).bind _ = _
    rw [readFlowItems_value, isItem]
    show ((readFlowItems handles fuel false _).bind _).bind _ = _
    rw [areItems]
    rfl
  | .object [], fuel + 2, _, _, _ => rfl
  | .object ((key, value) :: members), fuel, block, rest, enough => by
    have counted : (flowTokens (.object ((key, value) :: members))).length =
        (flowTokens value).length + (membersTokens members).length + 5 := by
      simp [flowTokens]
      omega
    obtain ⟨fuel, rfl⟩ := Nat.exists_eq_add_of_le' (show 5 ≤ fuel by omega)
    have isValue := readNode_tokens value (fuel + 1) false
      (membersTokens members ++ .flowMappingEnd :: rest) (by omega)
    have areMembers := readFlowEntries_tokens members (fuel + 3) rest (by omega)
    have written : flowTokens (.object ((key, value) :: members)) ++ rest =
        .flowMappingStart :: .key :: .scalar key false :: .value ::
          (flowTokens value ++ (membersTokens members ++ .flowMappingEnd :: rest)) := by
      simp [flowTokens]
    rw [written]
    show (readFlowEntries handles (fuel + 4) true _).bind _ = _
    rw [readFlowEntries_member, isValue]
    show ((readFlowEntries handles (fuel + 3) false _).bind _).bind _ = _
    rw [areMembers]
    rfl

/-- The tokens of the items after the first one are parsed to their trees, up to the end of the
sequence. -/
theorem readFlowItems_tokens : ∀ (items : List Json.Value) (fuel : Nat) (rest : List Token),
    2 * (itemsTokens items).length < fuel →
    readFlowItems handles fuel false (itemsTokens items ++ .flowSequenceEnd :: rest) =
      some (itemTrees items, rest)
  | [], fuel + 1, _, _ => rfl
  | item :: items, fuel + 1, rest, enough => by
    have counted : (itemsTokens (item :: items)).length =
        (flowTokens item).length + (itemsTokens items).length + 1 := by
      simp [itemsTokens]
    have isItem := readNode_tokens item fuel false (itemsTokens items ++ .flowSequenceEnd :: rest)
      (by omega)
    have areItems := readFlowItems_tokens items fuel rest (by omega)
    have written : itemsTokens (item :: items) ++ .flowSequenceEnd :: rest =
        .flowEntry :: (flowTokens item ++ (itemsTokens items ++ .flowSequenceEnd :: rest)) := by
      simp [itemsTokens]
    rw [written, readFlowItems_comma, readFlowItems_value, isItem]
    show (readFlowItems handles fuel false _).bind _ = _
    rw [areItems]
    rfl

/-- The tokens of the members after the first one are parsed to their trees, up to the end of the
mapping. -/
theorem readFlowEntries_tokens : ∀ (members : List (String × Json.Value)) (fuel : Nat)
    (rest : List Token), 2 * (membersTokens members).length < fuel →
    readFlowEntries handles fuel false (membersTokens members ++ .flowMappingEnd :: rest) =
      some (memberTrees members, rest)
  | [], fuel + 1, _, _ => rfl
  | (key, value) :: members, fuel, rest, enough => by
    have counted : (membersTokens ((key, value) :: members)).length =
        (flowTokens value).length + (membersTokens members).length + 4 := by
      simp [membersTokens]
    obtain ⟨fuel, rfl⟩ := Nat.exists_eq_add_of_le' (show 4 ≤ fuel by omega)
    have isValue := readNode_tokens value (fuel + 1) false
      (membersTokens members ++ .flowMappingEnd :: rest) (by omega)
    have areMembers := readFlowEntries_tokens members (fuel + 3) rest (by omega)
    have written : membersTokens ((key, value) :: members) ++ .flowMappingEnd :: rest =
        .flowEntry :: .key :: .scalar key false :: .value ::
          (flowTokens value ++ (membersTokens members ++ .flowMappingEnd :: rest)) := by
      simp [membersTokens]
    rw [written, readFlowEntries_comma, readFlowEntries_member, isValue]
    show (readFlowEntries handles (fuel + 3) false _).bind _ = _
    rw [areMembers]
    rfl

end

end

/-- **The tokens of an object are a document.** -/
theorem ofTokens_object (members : List (String × Json.Value)) :
    Tree.ofTokens (flowTokens (.object members)) = some (some (flowTree (.object members))) := by
  obtain ⟨tokens, same⟩ : ∃ tokens, flowTokens (.object members) = .flowMappingStart :: tokens := by
    cases members with
    | nil => exact ⟨_, rfl⟩
    | cons member members => exact ⟨_, rfl⟩
  have isRead := readNode_tokens standardHandles (.object members)
    (6 * (flowTokens (.object members)).length + 6) true [] (by omega)
  rw [List.append_nil] at isRead
  rw [same] at isRead ⊢
  show (readNode standardHandles _ true false _).bind _ = _
  rw [isRead]
  rfl

/-! ### From trees to occurrences -/

mutual

/-- **The tree of a value is linked to its occurrence**, and no anchor is numbered. -/
theorem link_flowTree : ∀ (value : Json.Value) (names : Names),
    (flowTree value).link.run names = some (flowOccurrence value, names)
  | .null, _ => rfl
  | .bool _, _ => rfl
  | .number _, _ => rfl
  | .string _, _ => rfl
  | .array items, names => by
    show ((linkItems (itemTrees items)).run names).bind _ = _
    rw [linkItems_itemTrees items names]
    rfl
  | .object members, names => by
    show ((linkEntries (memberTrees members)).run names).bind _ = _
    rw [linkEntries_memberTrees members names]
    rfl

/-- The trees of items are linked to their occurrences. -/
theorem linkItems_itemTrees : ∀ (items : List Json.Value) (names : Names),
    (linkItems (itemTrees items)).run names = some (itemOccurrences items, names)
  | [], _ => rfl
  | item :: items, names => by
    show ((flowTree item).link.run names).bind _ = _
    rw [link_flowTree item names]
    show ((linkItems (itemTrees items)).run names).bind _ = _
    rw [linkItems_itemTrees items names]
    rfl

/-- The trees of members are linked to their occurrences. -/
theorem linkEntries_memberTrees : ∀ (members : List (String × Json.Value)) (names : Names),
    (linkEntries (memberTrees members)).run names = some (memberOccurrences members, names)
  | [], _ => rfl
  | (key, value) :: members, names => by
    show ((flowTree value).link.run names).bind _ = _
    rw [link_flowTree value names]
    show ((linkEntries (memberTrees members)).run names).bind _ = _
    rw [linkEntries_memberTrees members names]
    rfl

end

/-- **The document of an object's text.** -/
theorem ofText_object {members : List (String × Json.Value)} (common : MembersAreCommon members) :
    ∃ anchored, Document.ofText (Json.Value.object members).text =
      some ⟨flowOccurrence (.object members), anchored⟩ := by
  refine ⟨(flowOccurrence (.object members)).anchored.reverse, ?_⟩
  rw [Document.ofText, Tree.ofText, Json.Value.text, String.toList_ofList, scan_object common]
  show ((Tree.ofTokens (flowTokens (.object members))).bind _) = _
  rw [ofTokens_object]
  show ((flowTree (.object members)).link.run []).bind _ = _
  rw [link_flowTree]
  rfl

end PipelineGraph.Yaml
