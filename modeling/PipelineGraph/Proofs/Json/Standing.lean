/-
**Readings that stand for values.**

A reading without faults stands for a value (`Reading.value`), and whoever reads a shape from it sees
that value alone: its parts stand for the parts of the value (`StandsFor.object`, `StandsFor.array`),
what is passed over has no fault (`StandsFor.ignore`), what is kept for later is the content of the value
(`StandsFor.content`), and the members of an object fill a record as their values do
(`readMembersInto_eq_fill`).
-/

import PipelineGraph.Json.Record
import PipelineGraph.Proofs.Results
import PipelineGraph.Proofs.Shape.Filling

namespace PipelineGraph.Json

open Shape

/-! ### Values as content -/

mutual

/-- The number of arrays and objects that are in each other. -/
def Value.depth : Value → Nat
  | .null => 0
  | .bool _ => 0
  | .number _ => 0
  | .string _ => 0
  | .array items => itemsDepth items + 1
  | .object members => membersDepth members + 1

/-- The depth of the deepest item. -/
def itemsDepth : List Value → Nat
  | [] => 0
  | item :: rest => max item.depth (itemsDepth rest)

/-- The depth of the deepest member. -/
def membersDepth : List (String × Value) → Nat
  | [] => 0
  | (_, value) :: rest => max value.depth (membersDepth rest)

end

mutual

/-- The content of a value. -/
def Value.toContent : Value → Content
  | .null => .nothing
  | .bool value => .bool value
  | .number number => number.content
  | .string text => .text text
  | .array items => .sequence (itemsToContent items)
  | .object members => .map (membersToContent members)

/-- The contents of items. -/
def itemsToContent : List Value → List Content
  | [] => []
  | item :: rest => item.toContent :: itemsToContent rest

/-- The contents of members. -/
def membersToContent : List (String × Value) → List (Content × Content)
  | [] => []
  | (name, value) :: rest => (.text name, value.toContent) :: membersToContent rest

end

/-! ### Readings and values -/

/-- **A reading stands for a value**: it has no fault, and this is what it says. -/
def Reading.StandsFor (reading : Reading) (value : Value) : Prop := reading.value = .ok value

/-- A member that has been read stands for a member. -/
structure StandsForMember (read : Quoted × Reading) (member : String × Value) : Prop where
  key : read.1.text = .ok member.1
  value : read.2.StandsFor member.2

theorem itemsValue_eq_ok {stop : Option Fault} {readings : List Reading} :
    ∀ {items : List Value}, itemsValue stop readings = .ok items →
      stop = none ∧ List.Forall₂ Reading.StandsFor readings items := by
  induction readings with
  | nil =>
    intro items same
    cases stop with
    | none =>
      cases same
      exact ⟨rfl, .nil⟩
    | some fault => cases same
  | cons reading rest ih =>
    intro items same
    rw [itemsValue] at same
    obtain ⟨value, first, same⟩ := bind_eq_ok_iff.mp same
    obtain ⟨values, others, same⟩ := bind_eq_ok_iff.mp same
    cases same
    obtain ⟨closed, stand⟩ := ih others
    exact ⟨closed, .cons first stand⟩

theorem membersValue_eq_ok {stop : Option Fault} {readings : List (Quoted × Reading)} :
    ∀ {members : List (String × Value)}, membersValue stop readings = .ok members →
      stop = none ∧ List.Forall₂ StandsForMember readings members := by
  induction readings with
  | nil =>
    intro members same
    cases stop with
    | none =>
      cases same
      exact ⟨rfl, .nil⟩
    | some fault => cases same
  | cons reading rest ih =>
    obtain ⟨key, reading⟩ := reading
    intro members same
    rw [membersValue] at same
    obtain ⟨text, name, same⟩ := bind_eq_ok_iff.mp same
    obtain ⟨value, first, same⟩ := bind_eq_ok_iff.mp same
    obtain ⟨values, others, same⟩ := bind_eq_ok_iff.mp same
    cases same
    obtain ⟨closed, stand⟩ := ih others
    exact ⟨closed, .cons ⟨name, first⟩ stand⟩

/-- **How a reading says a value**, as far as its outermost form goes. -/
inductive Reading.Says : Reading → Value → Prop
  | null : Says .null .null
  | bool (value : Bool) : Says (.bool value) (.bool value)
  | number {numeral : Numeral} {number : Number} (inRange : numeral.number? = some number) :
      Says (.number numeral) (.number number)
  | string {quoted : Quoted} {text : String} (read : quoted.text = .ok text) :
      Says (.string quoted) (.string text)
  | array {readings : List Reading} {items : List Value}
      (each : List.Forall₂ StandsFor readings items) : Says (.array readings none) (.array items)
  | object {readings : List (Quoted × Reading)} {members : List (String × Value)}
      (each : List.Forall₂ StandsForMember readings members) :
      Says (.object readings none) (.object members)

theorem Reading.StandsFor.toSays {reading : Reading} {value : Value}
    (stands : reading.StandsFor value) : reading.Says value := by
  unfold StandsFor at stands
  cases reading with
  | null =>
    cases stands
    exact .null
  | bool value =>
    cases stands
    exact .bool value
  | number numeral =>
    rw [Reading.value] at stands
    split at stands
    · cases stands
      rename_i inRange
      exact .number inRange
    · cases stands
  | brokenNumber fault => cases stands
  | string quoted =>
    rw [Reading.value] at stands
    obtain ⟨text, read, rfl⟩ := map_eq_ok_iff.mp stands
    exact .string read
  | array readings stop =>
    rw [Reading.value] at stands
    obtain ⟨items, read, rfl⟩ := map_eq_ok_iff.mp stands
    obtain ⟨rfl, each⟩ := itemsValue_eq_ok read
    exact .array each
  | object readings stop =>
    rw [Reading.value] at stands
    obtain ⟨members, read, rfl⟩ := map_eq_ok_iff.mp stands
    obtain ⟨rfl, each⟩ := membersValue_eq_ok read
    exact .object each
  | fault fault => cases stands

/-- What is expected and not found is an error. -/
theorem Reading.unexpected_ne_ok {α : Type} (reading : Reading) (expected : String) (a : α) :
    reading.unexpected expected ≠ .ok a := by
  rw [Reading.unexpected]
  cases reading.found <;> rintro ⟨⟩

/-! ### What is passed over -/

theorem stop_of_joinUnits {stop : Option Fault} :
    ∀ {units : List StringUnit} {text : List Char}, joinUnits stop units = .ok text → stop = none
  | [], _, joined => by
    cases stop with
    | none => rfl
    | some fault => cases joined
  | .char c :: rest, _, joined => by
    rw [joinUnits] at joined
    obtain ⟨_, others, _⟩ := map_eq_ok_iff.mp joined
    exact stop_of_joinUnits others
  | [.surrogate _], _, joined => by cases joined
  | .surrogate _ :: .char _ :: _, _, joined => by cases joined
  | .surrogate high :: .surrogate low :: rest, _, joined => by
    rw [joinUnits] at joined
    split at joined
    · obtain ⟨_, others, _⟩ := map_eq_ok_iff.mp joined
      exact stop_of_joinUnits others
    · cases joined

/-- A string that has a text is closed. -/
theorem stop_of_text {quoted : Quoted} {text : String} (read : quoted.text = .ok text) :
    quoted.stop = none := by
  obtain ⟨_, joined, _⟩ := map_eq_ok_iff.mp read
  exact stop_of_joinUnits joined

mutual

/-- **What stands for a value has no fault.** -/
theorem Reading.StandsFor.fault? : ∀ {reading : Reading} {value : Value},
    reading.StandsFor value → reading.fault? = none
  | .null, _, _ => rfl
  | .bool _, _, _ => rfl
  | .number _, _, _ => rfl
  | .brokenNumber _, _, stands => by cases stands
  | .string _, _, stands => by
    cases stands.toSays with
    | string read => exact stop_of_text read
  | .array readings _, _, stands => by
    cases stands.toSays with
    | array each => rw [Reading.fault?, itemsFault?_of_stands each, Option.or_none]
  | .object readings _, _, stands => by
    cases stands.toSays with
    | object each => rw [Reading.fault?, membersFault?_of_stands each, Option.or_none]
  | .fault _, _, stands => by cases stands

theorem itemsFault?_of_stands : ∀ {readings : List Reading} {items : List Value},
    List.Forall₂ Reading.StandsFor readings items → itemsFault? readings = none
  | [], _, _ => rfl
  | reading :: rest, _, .cons first others => by
    rw [itemsFault?, first.fault?, itemsFault?_of_stands others]
    rfl

theorem membersFault?_of_stands : ∀ {readings : List (Quoted × Reading)}
    {members : List (String × Value)},
    List.Forall₂ StandsForMember readings members → membersFault? readings = none
  | [], _, _ => rfl
  | (key, reading) :: rest, _, .cons first others => by
    rw [membersFault?, stop_of_text first.key, first.value.fault?, membersFault?_of_stands others]
    rfl

end

/-! ### What is kept for later -/

mutual

/-- **What stands for a value is kept as the content of the value**, if it is not too deep. -/
theorem Reading.StandsFor.content : ∀ {reading : Reading} {value : Value} {depth : Nat},
    reading.StandsFor value → value.depth ≤ depth → reading.content depth = .ok value.toContent
  | .null, _, _, stands, _ => by
    cases stands.toSays
    rfl
  | .bool _, _, _, stands, _ => by
    cases stands.toSays
    rfl
  | .number _, _, _, stands, _ => by
    cases stands.toSays with
    | number inRange =>
      rw [Reading.content, inRange]
      rfl
  | .brokenNumber _, _, _, stands, _ => by cases stands
  | .string _, _, _, stands, _ => by
    cases stands.toSays with
    | string read =>
      rw [Reading.content, read]
      rfl
  | .array readings _, _, depth, stands, shallow => by
    cases stands.toSays with
    | array each =>
      obtain ⟨inside, rfl⟩ : ∃ inside, depth = inside + 1 := Nat.exists_eq_add_one.mpr (by
        rw [Value.depth] at shallow
        omega)
      have contents := itemsContent_of_stands each (Nat.le_of_succ_le_succ shallow)
      show (itemsContent inside none readings).bind _ = _
      rw [contents]
      rfl
  | .object readings _, _, depth, stands, shallow => by
    cases stands.toSays with
    | object each =>
      obtain ⟨inside, rfl⟩ : ∃ inside, depth = inside + 1 := Nat.exists_eq_add_one.mpr (by
        rw [Value.depth] at shallow
        omega)
      have contents := membersContent_of_stands each (Nat.le_of_succ_le_succ shallow)
      show (membersContent inside none readings).bind _ = _
      rw [contents]
      rfl
  | .fault _, _, _, stands, _ => by cases stands

theorem itemsContent_of_stands : ∀ {readings : List Reading} {items : List Value} {depth : Nat},
    List.Forall₂ Reading.StandsFor readings items → itemsDepth items ≤ depth →
      itemsContent depth none readings = .ok (itemsToContent items)
  | [], _, _, .nil, _ => rfl
  | reading :: rest, _, depth, .cons first others, shallow => by
    rw [itemsDepth] at shallow
    rw [itemsContent, first.content (by omega), itemsContent_of_stands others (by omega)]
    rfl

theorem membersContent_of_stands : ∀ {readings : List (Quoted × Reading)}
    {members : List (String × Value)} {depth : Nat},
    List.Forall₂ StandsForMember readings members → membersDepth members ≤ depth →
      membersContent depth none readings = .ok (membersToContent members)
  | [], _, _, .nil, _ => rfl
  | (key, reading) :: rest, (name, value) :: members, depth, .cons first others, shallow => by
    rw [membersDepth] at shallow
    have own : value.depth ≤ depth := by omega
    rw [membersContent, first.key, first.value.content own, membersContent_of_stands others (by omega)]
    rfl

end

/-! ### Objects as records -/

/-- A site inside an object stands for a value. -/
structure Site.StandsFor (depth : Nat) (site : Site) (value : Value) : Prop where
  depth : site.depth = depth
  reading : site.reading.StandsFor value

/-- **The members of an object fill a record as sites that stand for their values.** -/
theorem readMembersInto_eq_fill {σ : Type} (record : Record Site (Except Error) σ) (depth : Nat)
    {readings : List (Quoted × Reading)} {members : List (String × Value)}
    (each : List.Forall₂ StandsForMember readings members) :
    ∃ values : List (String × Site),
      List.Forall₂ (fun value member => value.1 = member.1 ∧ value.2.StandsFor depth member.2)
        values members ∧
      ∀ draft, readMembersInto record depth none draft readings =
        record.fill .shape draft values := by
  induction each with
  | nil =>
    refine ⟨[], .nil, fun draft => ?_⟩
    show orShape (record.complete draft) = (record.complete draft).mapError .shape
    cases record.complete draft <;> rfl
  | @cons reading member readings members first _ ih =>
    obtain ⟨key, reading⟩ := reading
    obtain ⟨name, value⟩ := member
    obtain ⟨values, stand, filled⟩ := ih
    refine ⟨(name, ⟨depth, reading⟩) :: values, .cons ⟨rfl, rfl, first.value⟩ stand, fun draft => ?_⟩
    have passedOver : reading.ignore = .ok () := by
      rw [Reading.ignore, first.value.fault?]
    rw [readMembersInto, Record.fill, first.key]
    cases named : record.fieldNamed? name with
    | none =>
      simp only [orFault, bind, Except.bind, named, passedOver, filled]
    | some field =>
      simp only [orFault, bind, Except.bind, named, filled]
      rfl

/-- **An object fills a record**, one level further inside. -/
theorem Site.StandsFor.readRecord {σ : Type} {depth : Nat} {site : Site}
    {members : List (String × Value)} (stands : site.StandsFor (depth + 1) (.object members))
    (record : Record Site (Except Error) σ) :
    ∃ values : List (String × Site),
      List.Forall₂ (fun value member => value.1 = member.1 ∧ value.2.StandsFor depth member.2)
        values members ∧
      site.readRecord record = record.fill .shape record.draft values := by
  obtain ⟨siteDepth, reading⟩ := site
  obtain ⟨rfl, stands⟩ := stands
  cases stands.toSays with
  | object each =>
    obtain ⟨values, stand, filled⟩ := readMembersInto_eq_fill record depth each
    exact ⟨values, stand, filled record.draft⟩

end PipelineGraph.Json
