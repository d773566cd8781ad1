/-
**A graph that is written is read back.**

The members that a graph is written with describe it (`Graph.toJson_describedBy`), whatever its ids,
labels, payloads and edges are, and its text spells them; so `Graph.ofJson` reads the graph back from
its text (`Graph.ofJson_toJson`). What stands where is left to the description; only of its coordinates
it is needed that their texts are read back as the same numbers.
-/

import PipelineGraph.Proofs.Graph.Reading
import PipelineGraph.Proofs.Json.Writing

namespace PipelineGraph

open Shape Json

/-! ### What is written describes the graph -/

section

variable {α : Type} {Says : Value → α → Prop} {default : Option α} {name : String} {members : Members}

/-- The only value under a name gives what it says. -/
theorem Json.Gives.of_only {value : Value} {a : α} (only : named name members = [value])
    (said : Says value a) : Gives Says default (named name members) a := by
  rw [only]
  exact .value said

/-- The member of an optional text gives the text, if no other has its name. -/
theorem gives_optionalMember {text : Option String}
    (only : named name members = named name (optionalMember name text)) :
    Gives SaysOptionalText (some none) (named name members) text := by
  rw [only]
  cases text with
  | none => exact .default rfl
  | some text =>
    rw [optionalMember, named_cons_self]
    exact .value (.some text)

end

@[simp]
theorem named_optionalMember_of_ne {name other : String} (different : other ≠ name)
    (text : Option String) : named name (optionalMember other text) = [] := by
  cases text with
  | none => rfl
  | some text => exact named_cons_of_ne different _ _

/-- The members that the data of a node are written with. -/
def Payload.toMembers (label : String) : Payload → Members
  | .dataset payload =>
    [("label", .string label), ("type", .string payload.storageType),
      ("filepath", .string payload.location)] ++ optionalMember "description" payload.description
  | .function payload =>
    [("label", .string label)] ++ optionalMember "function_name" payload.functionName ++
      optionalMember "code" payload.body ++ optionalMember "description" payload.description

theorem Payload.toJson_eq (label : String) (payload : Payload) :
    payload.toJson label = .object (payload.toMembers label) := by
  cases payload <;> rfl

theorem NodeData.toMembers_describedBy (data : NodeData) :
    data.DescribedBy (data.payload.toMembers data.label) := by
  obtain ⟨label, payload⟩ := data
  cases payload with
  | dataset payload =>
    refine ⟨.of_only ?_ (.text label), .of_only ?_ (.text payload.storageType),
      .of_only ?_ (.text payload.location), gives_optionalMember ?_⟩
    all_goals simp [Payload.toMembers]
  | function payload =>
    refine ⟨.of_only ?_ (.text label), gives_optionalMember ?_, gives_optionalMember ?_,
      gives_optionalMember ?_⟩
    all_goals simp [Payload.toMembers]

theorem Position.toJson_says (position : Position) :
    SaysObject Position.DescribedBy position.toJson position :=
  .object ⟨.value (.number (.float position.x)), .value (.number (.float position.y))⟩

theorem Node.toJson_says (node : Node) : SaysObject Node.DescribedBy node.toJson node := by
  have data : SaysObject NodeData.DescribedBy (node.payload.toJson node.label) node.data := by
    rw [Payload.toJson_eq]
    exact .object node.data.toMembers_describedBy
  exact .object ⟨.value (.kind node.kind), .value (.text node.id), .value node.position.toJson_says,
    .value data⟩

theorem Edge.toJson_says (edge : Edge) : SaysObject Edge.DescribedBy edge.toJson edge :=
  .object ⟨.value (.text edge.id), .value (.text edge.source), .value (.text edge.target)⟩

theorem saysArray_map {α : Type} {Says : Value → α → Prop} {write : α → Value}
    (each : ∀ a, Says (write a) a) (as : List α) : SaysArray Says (.array (as.map write)) as := by
  refine .array ?_
  rw [List.forall₂_map_left_iff, List.forall₂_same]
  exact fun a _ => each a

/-- The members that a graph is written with. -/
def Graph.toMembers (graph : Graph) : Members :=
  [("nodes", .array (graph.nodes.map Node.toJson)), ("edges", .array (graph.edges.map Edge.toJson))]

/-- **The members that a graph is written with describe it.** -/
theorem Graph.toMembers_describedBy (graph : Graph) : graph.DescribedBy graph.toMembers :=
  ⟨.value (saysArray_map Node.toJson_says graph.nodes),
    .value (saysArray_map Edge.toJson_says graph.edges)⟩

/-! ### What is written can be read -/

theorem itemsDepth_le {items : List Value} {bound : Nat}
    (each : ∀ item ∈ items, item.depth ≤ bound) : itemsDepth items ≤ bound := by
  induction items with
  | nil => exact Nat.zero_le _
  | cons item rest ih =>
    rw [List.forall_mem_cons] at each
    rw [itemsDepth]
    exact Nat.max_le.mpr ⟨each.1, ih each.2⟩

theorem membersDepth_le {members : Members} {bound : Nat}
    (each : ∀ member ∈ members, member.2.depth ≤ bound) : membersDepth members ≤ bound := by
  induction members with
  | nil => exact Nat.zero_le _
  | cons member rest ih =>
    obtain ⟨name, value⟩ := member
    rw [List.forall_mem_cons] at each
    rw [membersDepth]
    exact Nat.max_le.mpr ⟨each.1, ih each.2⟩

theorem areWritten {items : List Value} (each : ∀ item ∈ items, item.IsWritten) :
    AreWritten items := by
  induction items with
  | nil => trivial
  | cons item rest ih =>
    rw [List.forall_mem_cons] at each
    exact ⟨each.1, ih each.2⟩

theorem membersWritten {members : Members} (each : ∀ member ∈ members, member.2.IsWritten) :
    MembersWritten members := by
  induction members with
  | nil => trivial
  | cons member rest ih =>
    rw [List.forall_mem_cons] at each
    exact ⟨each.1, ih each.2⟩

/-- The data of a node are texts. -/
theorem Payload.texts (label : String) (payload : Payload) :
    ∀ member ∈ payload.toMembers label, ∃ text, member.2 = .string text := by
  have optional : ∀ (name : String) (text : Option String),
      ∀ member ∈ optionalMember name text, ∃ text, member.2 = .string text := by
    intro name text member inside
    cases text with
    | none => cases inside
    | some text => exact ⟨text, congrArg Prod.snd (List.mem_singleton.mp inside)⟩
  cases payload with
  | dataset payload =>
    simp only [Payload.toMembers, List.forall_mem_append, List.forall_mem_cons]
    exact ⟨⟨⟨_, rfl⟩, ⟨_, rfl⟩, ⟨_, rfl⟩, List.forall_mem_nil _⟩, optional _ _⟩
  | function payload =>
    simp only [Payload.toMembers, List.forall_mem_append, List.forall_mem_cons]
    exact ⟨⟨⟨⟨⟨_, rfl⟩, List.forall_mem_nil _⟩, optional _ _⟩, optional _ _⟩, optional _ _⟩

theorem Payload.depth_toJson (label : String) (payload : Payload) :
    (payload.toJson label).depth ≤ 1 := by
  have inside : membersDepth (payload.toMembers label) ≤ 0 := membersDepth_le fun member isIn => by
    obtain ⟨text, same⟩ := payload.texts label member isIn
    rw [same]
    exact Nat.le_refl 0
  rw [Payload.toJson_eq]
  exact Nat.succ_le_succ inside

theorem Node.depth_toJson (node : Node) : node.toJson.depth ≤ 2 := by
  have data := node.payload.depth_toJson node.label
  show max 0 (max 0 (max 1 (max (node.payload.toJson node.label).depth 0))) + 1 ≤ 2
  omega

theorem Edge.depth_toJson (edge : Edge) : edge.toJson.depth ≤ 2 := by
  show 1 ≤ 2
  decide

theorem Graph.depth_toMembers (graph : Graph) : (Value.object graph.toMembers).depth ≤ 4 := by
  have nodes : itemsDepth (graph.nodes.map Node.toJson) ≤ 2 := itemsDepth_le (by
    simpa using fun node _ => Node.depth_toJson node)
  have edges : itemsDepth (graph.edges.map Edge.toJson) ≤ 2 := itemsDepth_le (by
    simpa using fun edge _ => Edge.depth_toJson edge)
  show max (itemsDepth (graph.nodes.map Node.toJson) + 1)
    (max (itemsDepth (graph.edges.map Edge.toJson) + 1) 0) + 1 ≤ 4
  omega

theorem Graph.framed_toMembers (graph : Graph) : Graph.Framed graph.toMembers := by
  have nodes : named "nodes" graph.toMembers = [.array (graph.nodes.map Node.toJson)] := rfl
  have edges : named "edges" graph.toMembers = [.array (graph.edges.map Edge.toJson)] := rfl
  constructor
  · rintro items inside item isItem
    rw [nodes, List.mem_singleton] at inside
    cases inside
    obtain ⟨node, _, rfl⟩ := List.mem_map.mp isItem
    refine ⟨_, rfl, ?_, ?_⟩
    · rintro value isIn
      exact ⟨_, List.mem_singleton.mp isIn⟩
    · rintro value isIn
      rw [List.mem_singleton.mp isIn, Payload.toJson_eq]
      exact ⟨_, rfl⟩
  · rintro items inside item isItem
    rw [edges, List.mem_singleton] at inside
    cases inside
    obtain ⟨edge, _, rfl⟩ := List.mem_map.mp isItem
    exact ⟨_, rfl⟩

/-! ### The way there and back -/

theorem Node.isWritten_toJson {node : Node} (x : ReadsBack node.position.x)
    (y : ReadsBack node.position.y) : node.toJson.IsWritten := by
  have data : MembersWritten (node.payload.toMembers node.label) :=
    membersWritten fun member isIn => by
      obtain ⟨text, same⟩ := node.payload.texts node.label member isIn
      rw [same]
      trivial
  have payload : (node.payload.toJson node.label).IsWritten := by
    rw [Payload.toJson_eq]
    exact data
  exact ⟨trivial, trivial, ⟨x.isWritten, y.isWritten, trivial⟩, payload, trivial⟩

/-- **A graph is read back from its text**, whatever stands in it, given that its coordinates are. -/
theorem Graph.ofJson_toJson (graph : Graph)
    (coordinates : ∀ node ∈ graph.nodes, ReadsBack node.position.x ∧ ReadsBack node.position.y) :
    Graph.ofJson graph.toJson.text = .ok graph := by
  have nodes : AreWritten (graph.nodes.map Node.toJson) := areWritten fun item isItem => by
    obtain ⟨node, inside, rfl⟩ := List.mem_map.mp isItem
    exact Node.isWritten_toJson (coordinates node inside).1 (coordinates node inside).2
  have edges : AreWritten (graph.edges.map Edge.toJson) := areWritten fun item isItem => by
    obtain ⟨edge, _, rfl⟩ := List.mem_map.mp isItem
    exact ⟨trivial, trivial, trivial, trivial⟩
  have written : (Value.object graph.toMembers).IsWritten := ⟨nodes, edges, trivial⟩
  have shallow : (Value.object graph.toMembers).depth ≤ maxDepth :=
    Nat.le_trans graph.depth_toMembers (by decide)
  exact (Graph.ofJson_iff written.spelledBy shallow graph.framed_toMembers graph).mpr
    graph.toMembers_describedBy

/-- Nodes of both kinds under one id, with texts that are empty or need escapes, and coordinates in each
of the layouts. -/
def Graph.oddities : Graph where
  nodes :=
    [⟨"a", "", ⟨250, -0.5⟩, .dataset ⟨"", "C:\\data\n", some ""⟩⟩,
     ⟨"a", "\t\"é\" \u0007", ⟨1e-7, 1e22⟩, .function ⟨some "f", none, some "𝄞"⟩⟩]
  edges := [⟨"e", "a", "nowhere"⟩, ⟨"e", "a", "nowhere"⟩]

theorem Graph.ofJson_toJson_oddities : Graph.ofJson oddities.toJson.text = .ok oddities :=
  Graph.ofJson_toJson oddities (by decide +kernel)

end PipelineGraph
