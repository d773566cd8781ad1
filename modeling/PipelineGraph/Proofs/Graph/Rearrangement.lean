/-
**Members in another order, and members that a graph file does not know.**

Two values are alike (`Alike`) if, at any depth, one has the members of its objects in another order
than the other, or has members with names that do not occur in graph files.

* `RearrangedBy.gives_iff` — under a known name, rearranged members have values that are alike, or both
  have none, or both have too many; so they give the same.
* `Graph.describedBy_iff_of_rearranged` — rearranged members describe the same graph.
-/

import PipelineGraph.Proofs.Graph.Description

namespace PipelineGraph

open Shape

namespace Json

/-- The names that members of a graph file have. -/
def knownNames : List String :=
  ["nodes", "edges", "id", "source", "target", "type", "position", "data", "x", "y", "label",
    "filepath", "description", "function_name", "code"]

/-- **Members are rearranged**: put in another order, or with some more or less that are not known, and
with values that are related. -/
inductive RearrangedBy (Related : Value → Value → Prop) : Members → Members → Prop
  | nil : RearrangedBy Related [] []
  | member (name : String) {value value' : Value} {rest rest' : Members} (first : Related value value')
      (others : RearrangedBy Related rest rest') :
      RearrangedBy Related ((name, value) :: rest) ((name, value') :: rest')
  | swap (one two : String × Value) (rest : Members) :
      RearrangedBy Related (one :: two :: rest) (two :: one :: rest)
  | less {name : String} (unknown : name ∉ knownNames) (value : Value) (rest : Members) :
      RearrangedBy Related ((name, value) :: rest) rest
  | more {name : String} (unknown : name ∉ knownNames) (value : Value) (rest : Members) :
      RearrangedBy Related rest ((name, value) :: rest)
  | trans {members middle members' : Members} (first : RearrangedBy Related members middle)
      (second : RearrangedBy Related middle members') : RearrangedBy Related members members'

/-- **Values are alike**, up to the order of members and to members that are not known. -/
inductive Alike : Value → Value → Prop
  | same (value : Value) : Alike value value
  | array {items items' : List Value} (each : List.Forall₂ Alike items items') :
      Alike (.array items) (.array items')
  | object {members members' : Members} (inside : RearrangedBy Alike members members') :
      Alike (.object members) (.object members')

variable {α : Type} {Says : Value → α → Prop} {default : Option α}

/-- **Rearranged members give the same under a name that is known.** -/
theorem RearrangedBy.gives_iff {Related : Value → Value → Prop} {members members' : Members}
    (rearranged : RearrangedBy Related members members') {name : String} (known : name ∈ knownNames)
    (alike : ∀ {value value'}, Related value value' → ∀ a, Says value a ↔ Says value' a) :
    (named name members = [] ↔ named name members' = []) ∧
      ∀ a, Gives Says default (named name members) a ↔ Gives Says default (named name members') a := by
  have passedOver : ∀ {other : String}, other ∉ knownNames → ∀ (value : Value) (rest : Members),
      named name ((other, value) :: rest) = named name rest := fun unknown value rest =>
    named_cons_of_ne (fun same : _ = name => unknown (by rwa [same])) value rest
  induction rearranged with
  | nil => exact ⟨Iff.rfl, fun _ => Iff.rfl⟩
  | @member other value value' rest rest' first _ ih =>
    by_cases same : other = name
    · subst same
      simp only [named_cons_self, gives_cons_iff]
      exact ⟨iff_of_false (List.cons_ne_nil _ _) (List.cons_ne_nil _ _),
        fun a => and_congr ih.1 (alike first a)⟩
    · rw [named_cons_of_ne same, named_cons_of_ne same]
      exact ih
  | swap one two rest =>
    obtain ⟨nameOne, valueOne⟩ := one
    obtain ⟨nameTwo, valueTwo⟩ := two
    by_cases isOne : nameOne = name <;> by_cases isTwo : nameTwo = name
    · subst isOne isTwo
      simp only [named_cons_self, gives_cons_iff]
      exact ⟨iff_of_false (List.cons_ne_nil _ _) (List.cons_ne_nil _ _),
        fun a => iff_of_false (fun gives => List.cons_ne_nil _ _ gives.1)
          fun gives => List.cons_ne_nil _ _ gives.1⟩
    · subst isOne
      rw [named_cons_self, named_cons_of_ne isTwo, named_cons_of_ne isTwo, named_cons_self]
      exact ⟨Iff.rfl, fun _ => Iff.rfl⟩
    · subst isTwo
      rw [named_cons_of_ne isOne, named_cons_self, named_cons_self, named_cons_of_ne isOne]
      exact ⟨Iff.rfl, fun _ => Iff.rfl⟩
    · rw [named_cons_of_ne isOne, named_cons_of_ne isTwo, named_cons_of_ne isTwo,
        named_cons_of_ne isOne]
      exact ⟨Iff.rfl, fun _ => Iff.rfl⟩
  | less unknown value rest =>
    rw [passedOver unknown]
    exact ⟨Iff.rfl, fun _ => Iff.rfl⟩
  | more unknown value rest =>
    rw [passedOver unknown]
    exact ⟨Iff.rfl, fun _ => Iff.rfl⟩
  | trans _ _ ihFirst ihSecond =>
    exact ⟨ihFirst.1.trans ihSecond.1, fun a => (ihFirst.2 a).trans (ihSecond.2 a)⟩

/-! ### Alike values say the same -/

namespace Alike

variable {value value' : Value}

/-- **What no array and no object says, alike values say alike**, since they are the same value. -/
theorem says_iff_of_scalar (noArray : ∀ items a, ¬ Says (.array items) a)
    (noObject : ∀ members a, ¬ Says (.object members) a) (alike : Alike value value') (a : α) :
    Says value a ↔ Says value' a := by
  cases alike with
  | same => exact Iff.rfl
  | array => exact iff_of_false (noArray _ a) (noArray _ a)
  | object => exact iff_of_false (noObject _ a) (noObject _ a)

theorem saysObject_iff {DescribedBy : α → Members → Prop}
    (inside : ∀ {members members'}, RearrangedBy Alike members members' →
      ∀ a, DescribedBy a members ↔ DescribedBy a members')
    (alike : Alike value value') (a : α) :
    SaysObject DescribedBy value a ↔ SaysObject DescribedBy value' a := by
  cases alike with
  | same => exact Iff.rfl
  | array => exact iff_of_false nofun nofun
  | object rearranged =>
    constructor
    · rintro ⟨described⟩
      exact .object ((inside rearranged a).mp described)
    · rintro ⟨described⟩
      exact .object ((inside rearranged a).mpr described)

theorem saysArray_iff {Says : Value → α → Prop}
    (inside : ∀ {item item'}, Alike item item' → ∀ a, Says item a ↔ Says item' a)
    (alike : Alike value value') (as : List α) :
    SaysArray Says value as ↔ SaysArray Says value' as := by
  cases alike with
  | same => exact Iff.rfl
  | object => exact iff_of_false nofun nofun
  | @array items items' each =>
    have sameItems : List.Forall₂ Says items as ↔ List.Forall₂ Says items' as := by
      induction each generalizing as with
      | nil => exact Iff.rfl
      | cons first _ ih =>
        cases as with
        | nil => exact iff_of_false nofun nofun
        | cons a rest =>
          rw [List.forall₂_cons, List.forall₂_cons]
          exact and_congr (inside first a) (ih rest)
    constructor
    · rintro ⟨said⟩
      exact .array (sameItems.mp said)
    · rintro ⟨said⟩
      exact .array (sameItems.mpr said)

end Alike

end Json

open Json

/-! ### Rearranged members describe the same -/

variable {members members' : Members}

/-- A field whose value is neither an array nor an object gives the same. -/
theorem Json.RearrangedBy.scalar_iff {α : Type} {Says : Value → α → Prop} {default : Option α}
    (rearranged : RearrangedBy Alike members members') {name : String} (known : name ∈ knownNames)
    (noArray : ∀ items a, ¬ Says (.array items) a) (noObject : ∀ members a, ¬ Says (.object members) a)
    {a : α} :
    Gives Says default (named name members) a ↔ Gives Says default (named name members') a :=
  (rearranged.gives_iff known (Alike.says_iff_of_scalar noArray noObject)).2 a

theorem Edge.describedBy_iff_of_rearranged (rearranged : RearrangedBy Alike members members')
    (edge : Edge) : edge.DescribedBy members ↔ edge.DescribedBy members' := by
  rw [Edge.describedBy_iff, Edge.describedBy_iff]
  refine and_congr ?_ (and_congr ?_ ?_) <;> exact rearranged.scalar_iff (by decide) nofun nofun

theorem Position.describedBy_iff_of_rearranged (rearranged : RearrangedBy Alike members members')
    (position : Position) : position.DescribedBy members ↔ position.DescribedBy members' := by
  rw [Position.describedBy_iff, Position.describedBy_iff]
  refine and_congr ?_ ?_ <;> exact rearranged.scalar_iff (by decide) nofun nofun

theorem Payload.describedBy_iff_of_rearranged (rearranged : RearrangedBy Alike members members')
    (payload : Payload) : payload.DescribedBy members ↔ payload.DescribedBy members' := by
  cases payload with
  | dataset payload =>
    show payload.DescribedBy members ↔ payload.DescribedBy members'
    rw [DatasetPayload.describedBy_iff, DatasetPayload.describedBy_iff]
    refine and_congr ?_ (and_congr ?_ ?_) <;> exact rearranged.scalar_iff (by decide) nofun nofun
  | function payload =>
    show payload.DescribedBy members ↔ payload.DescribedBy members'
    rw [FunctionPayload.describedBy_iff, FunctionPayload.describedBy_iff]
    refine and_congr ?_ (and_congr ?_ ?_) <;> exact rearranged.scalar_iff (by decide) nofun nofun

theorem NodeData.describedBy_iff_of_rearranged (rearranged : RearrangedBy Alike members members')
    (data : NodeData) : data.DescribedBy members ↔ data.DescribedBy members' := by
  rw [NodeData.describedBy_iff, NodeData.describedBy_iff]
  exact and_congr (rearranged.scalar_iff (by decide) nofun nofun)
    (Payload.describedBy_iff_of_rearranged rearranged data.payload)

theorem Node.describedBy_iff_of_rearranged (rearranged : RearrangedBy Alike members members')
    (node : Node) : node.DescribedBy members ↔ node.DescribedBy members' := by
  rw [Node.describedBy_iff, Node.describedBy_iff]
  exact and_congr (rearranged.scalar_iff (by decide) nofun nofun)
    (and_congr (rearranged.scalar_iff (by decide) nofun nofun)
      (and_congr
        ((rearranged.gives_iff (by decide)
          (Alike.saysObject_iff Position.describedBy_iff_of_rearranged)).2 node.position)
        ((rearranged.gives_iff (by decide)
          (Alike.saysObject_iff NodeData.describedBy_iff_of_rearranged)).2 node.data)))

/-- **Rearranged members describe the same graph.** -/
theorem Graph.describedBy_iff_of_rearranged (rearranged : RearrangedBy Alike members members')
    (graph : Graph) : graph.DescribedBy members ↔ graph.DescribedBy members' := by
  rw [Graph.describedBy_iff, Graph.describedBy_iff]
  exact and_congr
    ((rearranged.gives_iff (by decide)
      (Alike.saysArray_iff (Alike.saysObject_iff Node.describedBy_iff_of_rearranged))).2 graph.nodes)
    ((rearranged.gives_iff (by decide)
      (Alike.saysArray_iff (Alike.saysObject_iff Edge.describedBy_iff_of_rearranged))).2 graph.edges)

end PipelineGraph
