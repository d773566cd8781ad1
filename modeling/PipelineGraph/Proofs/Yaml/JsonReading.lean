/-
**What readers of YAML get from JSON values.**

`Reads` says that a reader gets a result from a value wherever the value stands, without following any
alias. Texts, content, sequences and records are read from the values that JSON has for them; for a record
it is enough that each member in turn is read into the draft (`Fills`).

* `reads_content` — **the content of a value is the one that JSON has for it.**
* `readWith_object` — who reads a result from an object reads it from the text of the object.
-/

import PipelineGraph.Proofs.Json.Standing
import PipelineGraph.Proofs.Yaml.JsonOutline
import PipelineGraph.Proofs.Yaml.Outline

namespace PipelineGraph.Yaml

open Shape (Content Record Field Found)
open Json (itemsDepth membersDepth itemsToContent membersToContent)

variable {α σ : Type}

/-- **A result is read from a value**, where so many collections may still be opened. -/
def Reads (read : Site → Decoder α) (depth : Nat) (value : Json.Value) (result : α) : Prop :=
  ∀ document place left,
    (read ⟨document, depth, place, flowOccurrence value⟩).run left = .ok (result, left)

theorem reads_text (expected text : String) (depth : Nat) :
    Reads (Site.readText expected) depth (.string text) text := fun _ _ _ => rfl

/-! ### Items -/

/-- Items are read one after the other, wherever they stand. -/
theorem run_mapM_items {read : Site → Decoder α} {depth : Nat} {items : List Json.Value}
    {results : List α} (each : List.Forall₂ (Reads read depth) items results) (document : Document)
    (left : Nat) : ∀ placeAt : Nat → Place,
      (((itemOccurrences items).mapIdx fun index item =>
        (⟨document, depth, placeAt index, item⟩ : Site)).mapM read).run left = .ok (results, left) := by
  induction each with
  | nil => exact fun _ => rfl
  | cons first _ ih =>
    intro placeAt
    rw [itemOccurrences, List.mapIdx_cons, List.mapM_cons]
    exact (run_bind_ok (first document (placeAt 0) left)).trans
      (run_bind_ok (ih fun index => placeAt (index + 1)))

/-- **A sequence is read item by item**, one level further inside. -/
theorem reads_sequence {read : Site → Decoder α} {depth : Nat} {items : List Json.Value}
    {results : List α} (each : List.Forall₂ (Reads read depth) items results) :
    Reads (Site.readSequence read) (depth + 1) (.array items) results :=
  fun document place left => run_mapM_items each document left fun index => .index place index

/-! ### Content -/

section

variable {plain : Bool} {text : String} {found : Found} {content : Content}

/-- A scalar is kept as what it means. -/
theorem run_contentWithin_scalar (means : Scalar.found ⟨none, plain, text⟩ = .ok found)
    (kept : ∀ site : Site, site.foundContent "any value" found = return content) (document : Document)
    (depth : Nat) (place : Place) (left : Nat) :
    (Site.contentWithin depth ⟨document, depth, place, scalarOccurrence plain text⟩).run left =
      .ok (content, left) := by
  cases depth with
  | zero =>
    simp only [Site.contentWithin, Site.contentWith, Site.value, scalarOccurrence, pure_bind, means]
    exact congrArg (·.run left) (kept _)
  | succ depth =>
    simp only [Site.contentWithin, Site.contentWith, Site.value, scalarOccurrence, pure_bind, means]
    exact congrArg (·.run left) (kept _)

end

/-- A number is kept as what it is. -/
theorem foundContent_number (number : Json.Number) (site : Site) (expected : String) :
    site.foundContent expected number.found = return number.content := by
  cases number <;> rfl

mutual

/-- **The content of a value is the one that JSON has for it**, if the value is not too deep. -/
theorem reads_contentWithin : ∀ (value : Json.Value) (depth : Nat), IsCommon value →
    value.depth ≤ depth → Reads (Site.contentWithin depth) depth value value.toContent
  | .null, depth, _, _ => fun document => run_contentWithin_scalar rfl (fun _ => rfl) document depth
  | .bool true, depth, _, _ => fun document =>
    run_contentWithin_scalar rfl (fun _ => rfl) document depth
  | .bool false, depth, _, _ => fun document =>
    run_contentWithin_scalar rfl (fun _ => rfl) document depth
  | .number number, depth, common, _ => fun document => by
    have means : Scalar.found ⟨none, true, (Json.Value.number number).text⟩ = .ok number.found :=
      congrArg Except.ok common.means
    exact run_contentWithin_scalar means (fun site => foundContent_number number site _) document depth
  | .string _, depth, _, _ => fun document =>
    run_contentWithin_scalar rfl (fun _ => rfl) document depth
  | .array items, depth + 1, common, shallow => fun document place left => by
    have inside := run_mapM_items (reads_contents items depth common (Nat.le_of_succ_le_succ shallow))
      document left fun index => .index place index
    show ((Site.items ⟨document, depth, place, _⟩ (itemOccurrences items)).mapM
      (Site.contentWithin depth) >>= fun items => return Content.sequence items : Decoder Content).run
        left = _
    exact run_bind_ok inside
  | .object members, depth + 1, common, shallow => fun document place left => by
    have inside := run_mapM_members members depth document place (flowOccurrence (.object members)) left
      common (Nat.le_of_succ_le_succ shallow)
    show ((Site.entries ⟨document, depth, place, _⟩ (memberOccurrences members)).mapM
      (entryWithin depth) >>= fun entries => return Content.map entries : Decoder Content).run left = _
    exact run_bind_ok inside

/-- Each item is read as its content. -/
theorem reads_contents : ∀ (items : List Json.Value) (depth : Nat), AreCommon items →
    itemsDepth items ≤ depth →
    List.Forall₂ (Reads (Site.contentWithin depth) depth) items (itemsToContent items)
  | [], _, _, _ => .nil
  | item :: items, depth, common, shallow => by
    rw [itemsDepth, Nat.max_le] at shallow
    exact .cons (reads_contentWithin item depth common.1 shallow.1)
      (reads_contents items depth common.2 shallow.2)

/-- The members are read one after the other as their contents. -/
theorem run_mapM_members : ∀ (members : List (String × Json.Value)) (depth : Nat) (document : Document)
    (place : Place) (occurrence : Occurrence) (left : Nat), MembersAreCommon members →
    membersDepth members ≤ depth →
    ((Site.entries ⟨document, depth, place, occurrence⟩ (memberOccurrences members)).mapM
      (entryWithin depth)).run left = .ok (membersToContent members, left)
  | [], _, _, _, _, _, _, _ => rfl
  | (key, value) :: members, depth, document, place, occurrence, left, common, shallow => by
    rw [membersDepth, Nat.max_le] at shallow
    have isKey := reads_contentWithin (.string key) depth common.1.shared (Nat.zero_le _) document place
      left
    have isValue := reads_contentWithin value depth common.2.1 shallow.1 document (.key place key) left
    have areOthers := run_mapM_members members depth document place occurrence left common.2.2 shallow.2
    have isEntry : (entryWithin depth (⟨document, depth, place, scalarOccurrence false key⟩,
        ⟨document, depth, .key place key, flowOccurrence value⟩)).run left =
          .ok ((.text key, value.toContent), left) :=
      (run_bind_ok isKey).trans (run_bind_ok isValue)
    show (((_, _) :: Site.entries _ (memberOccurrences members)).mapM (entryWithin depth)).run left = _
    rw [List.mapM_cons]
    exact (run_bind_ok isEntry).trans (run_bind_ok areOthers)

end

/-- The content of a value is the one that JSON has for it. -/
theorem reads_content {value : Json.Value} {depth : Nat} (common : IsCommon value)
    (shallow : value.depth ≤ depth) : Reads Site.content depth value value.toContent :=
  reads_contentWithin value depth common shallow

/-! ### Records -/

/-- **The members are read into a draft**, each into a field that is not set yet. -/
inductive Fills (record : Record Site Decoder σ) (depth : Nat) : σ → List (String × Json.Value) → σ → Prop
  | done {draft last : σ} (complete : record.complete draft = .ok last) : Fills record depth draft [] last
  | member {draft next last : σ} {name : String} {value : Json.Value}
      {rest : List (String × Json.Value)} {field : Field Site Decoder σ}
      (named : record.fieldNamed? name = some field) (isNew : field.isSet draft = false)
      (reads : Reads (field.set · draft) depth value next) (more : Fills record depth next rest last) :
      Fills record depth draft ((name, value) :: rest) last

theorem Fills.run_readEntries {record : Record Site Decoder σ} {depth : Nat} {draft last : σ}
    {members : List (String × Json.Value)} (fills : Fills record depth draft members last) (site : Site)
    (document : Document) (place : Place) (occurrence : Occurrence) (left : Nat) :
    (Site.readEntries record site draft
      (Site.entries ⟨document, depth, place, occurrence⟩ (memberOccurrences members))).run left =
        .ok (last, left) := by
  induction fills with
  | done complete =>
    show (Site.orRefuse site (record.complete _)).run left = _
    rw [complete]
    rfl
  | @member draft next last name value rest field named isNew reads _ ih =>
    have isRead := reads document (.key place name) left
    show (Site.readEntries record site draft ((_, _) :: Site.entries _ (memberOccurrences rest))).run
      left = _
    rw [Site.readEntries]
    refine (run_bind_ok (reads_text "field identifier" name depth document place left)).trans ?_
    simp only [named, isNew]
    exact (run_bind_ok isRead).trans ih

/-- **A record is read from an object** whose members are read into it. -/
theorem reads_record {record : Record Site Decoder σ} {depth : Nat} {last : σ}
    {members : List (String × Json.Value)} (fills : Fills record depth record.draft members last) :
    Reads (Site.readRecord record) (depth + 1) (.object members) last :=
  fun document place left =>
    fills.run_readEntries ⟨document, depth + 1, place, flowOccurrence (.object members)⟩ document place
      (flowOccurrence (.object members)) left

/-! ### Whole texts -/

/-- **Who reads a result from an object reads it from the text of the object.** -/
theorem readWith_object {read : Site → Decoder α} {members : List (String × Json.Value)} {result : α}
    (common : MembersAreCommon members) (reads : Reads read maxDepth (.object members) result) :
    readWith read (Json.Value.object members).text = .ok result := by
  obtain ⟨anchored, isDocument⟩ := ofText_object common
  have isRead := reads ⟨flowOccurrence (.object members), anchored⟩ .root
    (aliasesPerEvent * (flowOccurrence (.object members)).events)
  rw [readWith, isDocument]
  exact congrArg (Prod.fst <$> ·) isRead

end PipelineGraph.Yaml
