/-
**A record filled from named values.**

Readers of both formats put named values into a record one after the other, and stop at the first
problem. `Record.fill` is what they have in common. Which values go where does not depend on their
order, because a field sees of the draft only its own place: a `Slot` is a field with the place that it
reads and writes, and `Record.MadeOf` says that a record has these slots, each with a place of its own.

* `exists_fill_iff` — a record can be filled exactly when each slot accepts the values under its name:
  not more than one, at least one if it is required, and one that can be read.
* `fill_holds` — then each slot holds what was read from the value under its name, or what it held
  before where there is none.
* `fills_of_fill`, `exists_fill_of_fills` — both for a record that is empty at first, said of the values
  under each name alone (`Fills`).
* `fill_finish_iff` — so what is made of the slots of a filled record is what the values under their
  names say.
-/

import Mathlib.Data.List.Nodup
import PipelineGraph.Shape.Content

namespace PipelineGraph.Shape

variable {ν ε σ : Type}

/-! ### Values under a name -/

/-- The values under a name, in order. -/
def named (name : String) (values : List (String × ν)) : List ν :=
  values.filterMap fun value => if value.1 = name then some value.2 else none

@[simp]
theorem named_nil (name : String) : named name ([] : List (String × ν)) = [] := rfl

@[simp]
theorem named_cons_self (name : String) (value : ν) (rest : List (String × ν)) :
    named name ((name, value) :: rest) = value :: named name rest := by
  simp [named]

@[simp]
theorem named_cons_of_ne {name other : String} (different : other ≠ name) (value : ν)
    (rest : List (String × ν)) : named name ((other, value) :: rest) = named name rest := by
  simp [named, different]

@[simp]
theorem named_append (name : String) (values more : List (String × ν)) :
    named name (values ++ more) = named name values ++ named name more :=
  List.filterMap_append

/-- Lists of named values with the same names, and related values, have related values under a
name. -/
theorem forall₂_named {μ : Type} {R : ν → μ → Prop} {values : List (String × ν)}
    {values' : List (String × μ)}
    (related : List.Forall₂ (fun value value' => value.1 = value'.1 ∧ R value.2 value'.2) values values')
    (name : String) : List.Forall₂ R (named name values) (named name values') := by
  induction related with
  | nil => exact .nil
  | @cons value value' rest rest' first _ ih =>
    obtain ⟨key, value⟩ := value
    obtain ⟨key', value'⟩ := value'
    obtain ⟨rfl, isRelated⟩ := first
    by_cases same : key = name
    · subst same
      rw [named_cons_self, named_cons_self]
      exact .cons isRelated ih
    · rw [named_cons_of_ne same, named_cons_of_ne same]
      exact ih

/-! ### Filling -/

/-- Puts named values into a draft, one after the other. -/
def Record.fill (record : Record ν (Except ε) σ) (refuse : Problem → ε) (draft : σ) :
    List (String × ν) → Except ε σ
  | [] => (record.complete draft).mapError refuse
  | (name, value) :: rest =>
    match record.fieldNamed? name with
    | none => record.fill refuse draft rest
    | some field =>
      if field.isSet draft then .error (refuse (.duplicateField field.name))
      else do record.fill refuse (← field.set value draft) rest

/-- **A field with its place in the draft**: how its values are read, and how they are looked up and
put there. -/
structure Slot (ν ε σ : Type) where
  name : String
  required : Bool
  {α : Type}
  read : ν → Except ε α
  get : σ → Option α
  put : α → σ → σ

namespace Slot

/-- The field of a slot. -/
def field (slot : Slot ν ε σ) : Field ν (Except ε) σ :=
  ⟨slot.name, slot.required, fun draft => (slot.get draft).isSome,
    fun value draft => (slot.read value).map (slot.put · draft)⟩

/-- The slot accepts the values under its name: no more than one in all, and one if it is required. -/
def Accepts (slot : Slot ν ε σ) (isSet : Bool) : List ν → Prop
  | [] => slot.required = true → isSet = true
  | [value] => isSet = false ∧ ∃ a, slot.read value = .ok a
  | _ :: _ :: _ => False

/-- What the slot holds, `old` before the values under its name and `new` after them. -/
def Holds (slot : Slot ν ε σ) (old : Option slot.α) : List ν → Option slot.α → Prop
  | [], new => new = old
  | [value], new => old = none ∧ ∃ a, slot.read value = .ok a ∧ new = some a
  | _ :: _ :: _, _ => False

theorem accepts_cons_iff {slot : Slot ν ε σ} {value : ν} {a : slot.α}
    (read : slot.read value = .ok a) (values : List ν) :
    slot.Accepts false (value :: values) ↔ slot.Accepts true values := by
  match values with
  | [] => exact ⟨fun _ _ => rfl, fun _ => ⟨rfl, a, read⟩⟩
  | [_] => exact ⟨False.elim, fun accepts => Bool.noConfusion accepts.1⟩
  | _ :: _ :: _ => exact Iff.rfl

theorem not_accepts_cons {slot : Slot ν ε σ} {value : ν} {values : List ν} :
    ¬ slot.Accepts true (value :: values) := by
  match values with
  | [] => exact fun accepts => Bool.noConfusion accepts.1
  | _ :: _ => exact id

theorem Accepts.read {slot : Slot ν ε σ} {isSet : Bool} {value : ν} {values : List ν}
    (accepts : slot.Accepts isSet (value :: values)) : ∃ a, slot.read value = .ok a := by
  match values with
  | [] => exact accepts.2
  | _ :: _ => exact accepts.elim

theorem Holds.cons {slot : Slot ν ε σ} {value : ν} {a : slot.α} {values : List ν}
    {new : Option slot.α} (read : slot.read value = .ok a) (holds : slot.Holds (some a) values new) :
    slot.Holds none (value :: values) new := by
  match values with
  | [] => exact ⟨rfl, a, read, holds⟩
  | [_] => cases holds.1
  | _ :: _ :: _ => exact holds

end Slot

/-- **A record is made of slots**, each with a name and a place of its own, empty at first. -/
structure Record.MadeOf (record : Record ν (Except ε) σ) (slots : List (Slot ν ε σ)) : Prop where
  fields : record.fields = slots.map Slot.field
  names : (slots.map Slot.name).Nodup
  get_put : ∀ slot ∈ slots, ∀ a draft, slot.get (slot.put a draft) = some a
  frame : ∀ slot ∈ slots, ∀ other ∈ slots, other.name ≠ slot.name →
    ∀ a draft, other.get (slot.put a draft) = other.get draft
  empty : ∀ slot ∈ slots, slot.get record.draft = none

namespace Record.MadeOf

variable {record : Record ν (Except ε) σ} {slots : List (Slot ν ε σ)}

theorem slot_unique (made : record.MadeOf slots) {slot other : Slot ν ε σ} (inside : slot ∈ slots)
    (inside' : other ∈ slots) (same : slot.name = other.name) : slot = other :=
  List.inj_on_of_nodup_map made.names inside inside' same

/-- A name is looked up among the names of the slots. -/
theorem fieldNamed?_cases (made : record.MadeOf slots) (name : String) :
    (record.fieldNamed? name = none ∧ ∀ slot ∈ slots, name ≠ slot.name) ∨
      ∃ slot ∈ slots, slot.name = name ∧ record.fieldNamed? name = some slot.field := by
  rw [Record.fieldNamed?, made.fields, List.find?_map]
  cases found : slots.find? ((fun field => decide (field.name = name)) ∘ Slot.field) with
  | none =>
    refine .inl ⟨rfl, fun slot inside same => ?_⟩
    have different := List.find?_eq_none.mp found slot inside
    exact different (decide_eq_true same.symm)
  | some slot =>
    have same := List.find?_some found
    rw [Function.comp_apply, decide_eq_true_eq] at same
    exact .inr ⟨slot, List.mem_of_find?_eq_some found, same, rfl⟩

/-- A draft is complete exactly when each required slot is set. -/
theorem complete_eq (made : record.MadeOf slots) (draft : σ) :
    record.complete draft = .ok draft ∧ (∀ slot ∈ slots, slot.Accepts (slot.get draft).isSome []) ∨
      (∃ problem, record.complete draft = .error problem) ∧
        ¬ ∀ slot ∈ slots, slot.Accepts (slot.get draft).isSome [] := by
  rw [Record.complete, Record.missing?, made.fields, List.find?_map]
  cases found : slots.find? ((fun field => field.required && !field.isSet draft) ∘ Slot.field) with
  | none =>
    refine .inl ⟨rfl, fun slot inside required => ?_⟩
    have notMissing := List.find?_eq_none.mp found slot inside
    simpa [Slot.field, required, Option.isSome_iff_ne_none] using notMissing
  | some slot =>
    have missing := List.find?_some found
    simp only [Function.comp_apply, Slot.field, Bool.and_eq_true, Bool.not_eq_true'] at missing
    refine .inr ⟨⟨_, rfl⟩, fun accepts => ?_⟩
    have isSet := accepts slot (List.mem_of_find?_eq_some found) missing.1
    rw [missing.2] at isSet
    cases isSet

/-- A value under the name of a slot is read and put into its place, unless that is taken. -/
theorem fill_cons_slot {slot : Slot ν ε σ}
    (known : record.fieldNamed? slot.name = some slot.field) (refuse : Problem → ε) (draft : σ)
    (value : ν) (rest : List (String × ν)) :
    record.fill refuse draft ((slot.name, value) :: rest) =
      match slot.get draft, slot.read value with
      | some _, _ => .error (refuse (.duplicateField slot.name))
      | none, .error problem => .error problem
      | none, .ok a => record.fill refuse (slot.put a draft) rest := by
  rw [Record.fill, known]
  cases isSet : slot.get draft with
  | some a =>
    have taken : slot.field.isSet draft = true := by simp [Slot.field, isSet]
    exact if_pos taken
  | none =>
    have free : ¬ slot.field.isSet draft = true := by simp [Slot.field, isSet]
    simp only [if_neg free]
    have set : slot.field.set value draft = (slot.read value).map (slot.put · draft) := rfl
    rw [set]
    cases slot.read value <;> rfl

/-- **A record can be filled exactly when each slot accepts the values under its name.** -/
theorem exists_fill_iff (made : record.MadeOf slots) (refuse : Problem → ε)
    (values : List (String × ν)) : ∀ draft, (∃ filled, record.fill refuse draft values = .ok filled) ↔
      ∀ slot ∈ slots, slot.Accepts (slot.get draft).isSome (named slot.name values) := by
  induction values with
  | nil =>
    intro draft
    rw [Record.fill]
    rcases made.complete_eq draft with ⟨complete, accepts⟩ | ⟨⟨problem, lacking⟩, accepts⟩
    · rw [complete]
      exact iff_of_true ⟨draft, rfl⟩ accepts
    · rw [lacking]
      refine iff_of_false ?_ accepts
      rintro ⟨filled, ⟨⟩⟩
  | cons value rest ih =>
    obtain ⟨name, value⟩ := value
    intro draft
    rcases made.fieldNamed?_cases name with ⟨unknown, others⟩ | ⟨slot, inside, rfl, known⟩
    · rw [Record.fill, unknown]
      simp only [ih]
      refine forall₂_congr fun slot inside => ?_
      rw [named_cons_of_ne (others slot inside)]
    · rw [fill_cons_slot known]
      cases isSet : slot.get draft with
      | some held =>
        refine iff_of_false (fun ⟨_, filled⟩ => by cases filled) fun accepts => ?_
        have own := accepts slot inside
        rw [isSet, named_cons_self] at own
        exact Slot.not_accepts_cons own
      | none =>
        cases read : slot.read value with
        | error problem =>
          refine iff_of_false (fun ⟨_, filled⟩ => by cases filled) fun accepts => ?_
          have own := accepts slot inside
          rw [named_cons_self] at own
          obtain ⟨a, readable⟩ := own.read
          rw [read] at readable
          cases readable
        | ok a =>
          show (∃ filled, record.fill refuse (slot.put a draft) rest = .ok filled) ↔ _
          rw [ih]
          refine forall₂_congr fun other otherInside => ?_
          by_cases same : other.name = slot.name
          · obtain rfl := made.slot_unique otherInside inside same
            rw [made.get_put other inside, isSet, named_cons_self]
            exact (Slot.accepts_cons_iff read _).symm
          · rw [made.frame slot inside other otherInside same, named_cons_of_ne (Ne.symm same)]

/-- **In a filled record each slot holds what was read from the value under its name.** -/
theorem fill_holds (made : record.MadeOf slots) {refuse : Problem → ε} {filled : σ}
    (values : List (String × ν)) : ∀ draft, record.fill refuse draft values = .ok filled →
      ∀ slot ∈ slots, slot.Holds (slot.get draft) (named slot.name values) (slot.get filled) := by
  induction values with
  | nil =>
    intro draft isFilled slot inside
    rw [Record.fill] at isFilled
    rcases made.complete_eq draft with ⟨complete, _⟩ | ⟨⟨problem, lacking⟩, _⟩
    · rw [complete] at isFilled
      cases isFilled
      exact rfl
    · rw [lacking] at isFilled
      cases isFilled
  | cons value rest ih =>
    obtain ⟨name, value⟩ := value
    intro draft isFilled other otherInside
    rcases made.fieldNamed?_cases name with ⟨unknown, others⟩ | ⟨slot, inside, rfl, known⟩
    · rw [Record.fill, unknown] at isFilled
      rw [named_cons_of_ne (others other otherInside)]
      exact ih draft isFilled other otherInside
    · rw [fill_cons_slot known] at isFilled
      cases isSet : slot.get draft with
      | some held =>
        rw [isSet] at isFilled
        cases isFilled
      | none =>
        rw [isSet] at isFilled
        cases read : slot.read value with
        | error problem =>
          rw [read] at isFilled
          cases isFilled
        | ok a =>
          rw [read] at isFilled
          have later := ih (slot.put a draft) isFilled other otherInside
          by_cases same : other.name = slot.name
          · obtain rfl := made.slot_unique otherInside inside same
            rw [made.get_put other inside] at later
            rw [isSet, named_cons_self]
            exact later.cons read
          · rw [made.frame slot inside other otherInside same] at later
            rwa [named_cons_of_ne (Ne.symm same)]

end Record.MadeOf

/-! ### Filling an empty record -/

variable {μ α : Type}

/-- **The values under the name of a field fill it**, given what can be read from each: there is no more
than one, and at least one if the field is required. -/
def Fills (Reads : ν → α → Prop) (required : Bool) : List ν → Option α → Prop
  | [], found => required = false ∧ found = none
  | [value], found => ∃ a, Reads value a ∧ found = some a
  | _ :: _ :: _, _ => False

/-- Lists of named values with the same names and related values fill a field alike, if the related
values under its name are read alike. -/
theorem fills_named_congr {R : ν → μ → Prop} {Reads : ν → α → Prop} {Reads' : μ → α → Prop}
    {values : List (String × ν)} {values' : List (String × μ)} {name : String} {required : Bool}
    {found : Option α}
    (related : List.Forall₂ (fun value value' => value.1 = value'.1 ∧ R value.2 value'.2) values values')
    (alike : ∀ value' ∈ named name values', ∀ value, R value value' →
      ∀ a, Reads value a ↔ Reads' value' a) :
    Fills Reads required (named name values) found ↔
      Fills Reads' required (named name values') found := by
  have relatedUnder := forall₂_named related name
  generalize named name values = under at relatedUnder
  generalize named name values' = under' at relatedUnder alike
  match relatedUnder with
  | .nil => exact Iff.rfl
  | .cons first .nil =>
    exact exists_congr fun a => and_congr_left' (alike _ (List.mem_singleton_self _) _ first a)
  | .cons _ (.cons _ _) => exact Iff.rfl

/-- What a slot reads from a value. -/
def Slot.Reads (slot : Slot ν ε σ) (value : ν) (a : slot.α) : Prop := slot.read value = .ok a

namespace Record.MadeOf

variable {record : Record ν (Except ε) σ} {slots : List (Slot ν ε σ)} {refuse : Problem → ε}
  {values : List (String × ν)}

/-- **In a filled record each slot is filled by the values under its name.** -/
theorem fills_of_fill (made : record.MadeOf slots) {filled : σ}
    (isFilled : record.fill refuse record.draft values = .ok filled) {slot : Slot ν ε σ}
    (inside : slot ∈ slots) :
    Fills slot.Reads slot.required (named slot.name values) (slot.get filled) := by
  have holds := made.fill_holds values record.draft isFilled slot inside
  have accepts := (made.exists_fill_iff refuse values record.draft).mp ⟨filled, isFilled⟩ slot inside
  rw [made.empty slot inside] at holds accepts
  match named slot.name values, holds, accepts with
  | [], holds, accepts =>
    refine ⟨?_, holds⟩
    cases required : slot.required with
    | false => rfl
    | true => cases accepts required
  | [value], holds, _ => exact holds.2

/-- **A record that could hold what the values under each name say is filled with it.** -/
theorem exists_fill_of_fills (made : record.MadeOf slots) (target : σ)
    (fills : ∀ slot ∈ slots,
      Fills slot.Reads slot.required (named slot.name values) (slot.get target)) :
    ∃ filled, record.fill refuse record.draft values = .ok filled ∧
      ∀ slot ∈ slots, slot.get filled = slot.get target := by
  have accepted : ∀ slot ∈ slots,
      slot.Accepts (slot.get record.draft).isSome (named slot.name values) := by
    intro slot inside
    have wanted := fills slot inside
    rw [made.empty slot inside]
    match named slot.name values, wanted with
    | [], wanted =>
      intro required
      rw [wanted.1] at required
      cases required
    | [value], ⟨a, read, _⟩ => exact ⟨rfl, a, read⟩
  obtain ⟨filled, isFilled⟩ := (made.exists_fill_iff refuse values record.draft).mpr accepted
  refine ⟨filled, isFilled, fun slot inside => ?_⟩
  have wanted := fills slot inside
  have got := made.fills_of_fill isFilled inside
  match named slot.name values, wanted, got with
  | [], wanted, got => exact got.2.trans wanted.2.symm
  | [value], ⟨a, read, wanted⟩, ⟨b, readAlso, got⟩ =>
    rw [Slot.Reads, read] at readAlso
    cases readAlso
    exact got.trans wanted.symm

/-- **What is made of a filled record is what the values under each name say**, if nothing but the slots
is looked at. -/
theorem fill_finish_iff {β : Type} (made : record.MadeOf slots) {finish : σ → β} {result : β}
    (looks : ∀ draft other, (∀ slot ∈ slots, slot.get draft = slot.get other) →
      finish draft = finish other) :
    (∃ filled, record.fill refuse record.draft values = .ok filled ∧ finish filled = result) ↔
      ∃ target, (∀ slot ∈ slots, Fills slot.Reads slot.required (named slot.name values)
        (slot.get target)) ∧ finish target = result := by
  constructor
  · rintro ⟨filled, isFilled, same⟩
    exact ⟨filled, fun _ inside => made.fills_of_fill isFilled inside, same⟩
  · rintro ⟨target, fills, rfl⟩
    obtain ⟨filled, isFilled, same⟩ := made.exists_fill_of_fills target fills
    exact ⟨filled, isFilled, looks filled target same⟩

end Record.MadeOf

/-! ### Content -/

/-- **Content with text for keys is put into a record as named values.** -/
theorem Content.readEntries_eq_fill (record : Record Content (Except Problem) σ)
    (values : List (String × Content)) : ∀ draft,
      Content.readEntries record draft (values.map fun value => (.text value.1, value.2)) =
        record.fill id draft values := by
  induction values with
  | nil =>
    intro draft
    show record.complete draft = (record.complete draft).mapError id
    cases record.complete draft <;> rfl
  | cons value rest ih =>
    intro draft
    rw [List.map_cons, Content.readEntries, Record.fill]
    cases named : record.fieldNamed? value.1 with
    | none =>
      simp only [fieldOf, bind, Except.bind, named, ih]
    | some field =>
      simp only [fieldOf, bind, Except.bind, named, ih]
      rfl

end PipelineGraph.Shape
