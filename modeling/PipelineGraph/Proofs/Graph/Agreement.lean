/-
**Both formats read a written graph as that graph.**

The text that a graph is written as is JSON, and YAML too: the members that it is written with are common
to both formats (`Graph.toMembers_isCommon`) when its texts hold only characters that both formats read
alike and each of its coordinates is read back by both. A reader of YAML gets the same nodes and edges from
these members, one by one, as a reader of JSON does.

* `Graph.readers_agree` — **the graph is read back by either reader**, so that it does not matter which one
  the path of a file asks for.
-/

import PipelineGraph.Files.Loading
import PipelineGraph.Proofs.Graph.RoundTrip
import PipelineGraph.Proofs.Yaml.JsonReading

namespace PipelineGraph

open Shape Json

/-! ### Texts and coordinates -/

/-- The texts in a payload. -/
def Payload.strings : Payload → List String
  | .dataset payload => [payload.storageType, payload.location] ++ payload.description.toList
  | .function payload =>
    payload.functionName.toList ++ payload.body.toList ++ payload.description.toList

/-- The texts in a node. -/
def Node.strings (node : Node) : List String := node.id :: node.label :: node.payload.strings

/-- The texts in an edge. -/
def Edge.strings (edge : Edge) : List String := [edge.id, edge.source, edge.target]

/-- The texts in a graph. -/
def Graph.strings (graph : Graph) : List String :=
  graph.nodes.flatMap Node.strings ++ graph.edges.flatMap Edge.strings

/-- Each character of a text means the same in both formats. -/
def IsSharedText (text : String) : Prop := ∀ c ∈ text.toList, Yaml.isShared c = true

instance (text : String) : Decidable (IsSharedText text) :=
  decidable_of_iff (text.toList.all Yaml.isShared = true) List.all_eq_true

/-- **A float is finite, and both formats read its text back** as the same number: JSON as a value, and
YAML where it looks for a float. -/
structure BothReadBack (x : Float) : Prop where
  json : ReadsBack x
  yaml : Yaml.float? (Decimal.floatText Decimal.json x).toList = some x

theorem bothReadBack_iff {x : Float} :
    ReadsBack x ∧ Yaml.float? (Decimal.floatText Decimal.json x).toList = some x ↔ BothReadBack x :=
  ⟨fun both => ⟨both.1, both.2⟩, fun both => ⟨both.json, both.yaml⟩⟩

instance (x : Float) : Decidable (BothReadBack x) := decidable_of_iff _ bothReadBack_iff

/-! ### What a graph is written with -/

theorem BothReadBack.isCommonNumber {x : Float} (both : BothReadBack x) :
    Yaml.IsCommonNumber (.float x) where
  written := both.json.isWritten
  means := by
    rw [Number.chars, if_pos both.json.finite, String.ofList_toList]
    exact Yaml.plainFound_floatText both.json.finite both.yaml

theorem areCommon {items : List Value} (each : ∀ item ∈ items, Yaml.IsCommon item) :
    Yaml.AreCommon items := by
  induction items with
  | nil => trivial
  | cons item rest ih =>
    rw [List.forall_mem_cons] at each
    exact ⟨each.1, ih each.2⟩

theorem membersAreCommon {members : Members}
    (each : ∀ member ∈ members, Yaml.IsCommonKey member.1 ∧ Yaml.IsCommon member.2) :
    Yaml.MembersAreCommon members := by
  induction members with
  | nil => trivial
  | cons member rest ih =>
    rw [List.forall_mem_cons] at each
    exact ⟨each.1.1, each.1.2, ih each.2⟩

theorem optionalMember_isCommon {name : String} {text : Option String} (key : Yaml.IsCommonKey name)
    (shared : ∀ s ∈ text.toList, IsSharedText s) :
    ∀ member ∈ optionalMember name text, Yaml.IsCommonKey member.1 ∧ Yaml.IsCommon member.2 := by
  cases text with
  | none => exact List.forall_mem_nil _
  | some text => exact List.forall_mem_singleton.mpr ⟨key, shared text (List.mem_singleton_self _)⟩

theorem Payload.toMembers_isCommon {label : String} {payload : Payload} (isLabel : IsSharedText label)
    (shared : ∀ text ∈ payload.strings, IsSharedText text) :
    Yaml.MembersAreCommon (payload.toMembers label) := by
  have labelKey : Yaml.IsCommonKey "label" := by decide
  have descriptionKey : Yaml.IsCommonKey "description" := by decide
  refine membersAreCommon ?_
  cases payload with
  | dataset payload =>
    simp only [strings, List.forall_mem_append, List.forall_mem_cons] at shared
    obtain ⟨⟨storageType, location, _⟩, description⟩ := shared
    simp only [toMembers, List.forall_mem_append, List.forall_mem_cons]
    exact ⟨⟨⟨labelKey, isLabel⟩, ⟨by decide, storageType⟩, ⟨by decide, location⟩,
      List.forall_mem_nil _⟩, optionalMember_isCommon descriptionKey description⟩
  | function payload =>
    simp only [strings, List.forall_mem_append] at shared
    obtain ⟨⟨functionName, body⟩, description⟩ := shared
    simp only [toMembers, List.forall_mem_append, List.forall_mem_cons]
    exact ⟨⟨⟨⟨⟨labelKey, isLabel⟩, List.forall_mem_nil _⟩, optionalMember_isCommon (by decide) functionName⟩,
      optionalMember_isCommon (by decide) body⟩, optionalMember_isCommon descriptionKey description⟩

/-- The members of a node after its type. -/
def Node.partMembers (node : Node) : Members :=
  [("id", .string node.id), ("position", node.position.toJson),
    ("data", node.payload.toJson node.label)]

theorem Node.partMembers_isCommon {node : Node}
    (coordinates : BothReadBack node.position.x ∧ BothReadBack node.position.y)
    (shared : ∀ text ∈ node.strings, IsSharedText text) : Yaml.MembersAreCommon node.partMembers := by
  simp only [strings, List.forall_mem_cons] at shared
  obtain ⟨id, label, payload⟩ := shared
  have position : Yaml.IsCommon node.position.toJson :=
    ⟨by decide, coordinates.1.isCommonNumber, by decide, coordinates.2.isCommonNumber, trivial⟩
  have data : Yaml.IsCommon (node.payload.toJson node.label) := by
    rw [Payload.toJson_eq]
    exact Payload.toMembers_isCommon label payload
  exact ⟨by decide, id, by decide, position, by decide, data, trivial⟩

theorem Node.toJson_isCommon {node : Node}
    (coordinates : BothReadBack node.position.x ∧ BothReadBack node.position.y)
    (shared : ∀ text ∈ node.strings, IsSharedText text) : Yaml.IsCommon node.toJson := by
  have kind : IsSharedText node.kind.name := by
    cases node.kind <;> decide
  exact ⟨by decide, kind, Node.partMembers_isCommon coordinates shared⟩

theorem Edge.toJson_isCommon {edge : Edge} (shared : ∀ text ∈ edge.strings, IsSharedText text) :
    Yaml.IsCommon edge.toJson := by
  simp only [strings, List.forall_mem_cons] at shared
  obtain ⟨id, source, target, _⟩ := shared
  exact ⟨by decide, id, by decide, source, by decide, target, trivial⟩

/-- **The members that a graph is written with are common to both formats.** -/
theorem Graph.toMembers_isCommon {graph : Graph}
    (coordinates : ∀ node ∈ graph.nodes, BothReadBack node.position.x ∧ BothReadBack node.position.y)
    (shared : ∀ text ∈ graph.strings, IsSharedText text) : Yaml.MembersAreCommon graph.toMembers := by
  simp only [strings, List.forall_mem_append, List.mem_flatMap] at shared
  have nodes : Yaml.AreCommon (graph.nodes.map Node.toJson) := areCommon fun item isItem => by
    obtain ⟨node, inside, rfl⟩ := List.mem_map.mp isItem
    exact Node.toJson_isCommon (coordinates node inside) fun text isText =>
      shared.1 text ⟨node, inside, isText⟩
  have edges : Yaml.AreCommon (graph.edges.map Edge.toJson) := areCommon fun item isItem => by
    obtain ⟨edge, inside, rfl⟩ := List.mem_map.mp isItem
    exact Edge.toJson_isCommon fun text isText => shared.2 text ⟨edge, inside, isText⟩
  exact ⟨by decide, nodes, by decide, edges, trivial⟩

/-! ### Nodes -/

namespace Yaml

/-- The content of the members after the type of a node is kept, and its kind. -/
theorem run_readTagged {members : Members} {depth : Nat} (site : Site) (kind : Kind) (document : Document)
    (place : Place) (occurrence : Occurrence) (left : Nat)
    (noType : ∀ member ∈ members, member.1 ≠ "type") (common : MembersAreCommon members)
    (shallow : membersDepth members ≤ depth) :
    (site.readTagged (some kind)
      (Site.entries ⟨document, depth, place, occurrence⟩ (memberOccurrences members))).run left =
        .ok ((kind, membersToContent members), left) := by
  induction members with
  | nil => rfl
  | cons member members ih =>
    obtain ⟨name, value⟩ := member
    rw [List.forall_mem_cons] at noType
    rw [membersDepth, Nat.max_le] at shallow
    obtain ⟨_, isCommon, others⟩ := common
    have isKey : (Site.nodeKey ⟨document, depth, place, scalarOccurrence false name⟩).run left =
        .ok (.text name, left) := rfl
    have isValue := reads_content isCommon shallow.1 document (.key place name) left
    have isNext := ih noType.2 others shallow.2
    show (Site.readTagged site (some kind) ((_, _) :: Site.entries _ (memberOccurrences members))).run
      left = _
    rw [Site.readTagged]
    refine (run_bind_ok isKey).trans ?_
    split
    · rename_i same
      cases same
      exact absurd rfl noType.1
    · exact (run_bind_ok isValue).trans (run_bind_ok isNext)

/-- **A node is kept as its kind and the content of its other members**, if the type comes first. -/
theorem reads_nodeContent {members : Members} {depth : Nat} (kind : Kind)
    (noType : ∀ member ∈ members, member.1 ≠ "type") (common : MembersAreCommon members)
    (shallow : membersDepth members ≤ depth) :
    Reads Site.readNodeContent (depth + 1) (.object (("type", .string kind.name) :: members))
      (kind, (Value.object members).toContent) := by
  intro document place left
  let site : Site := ⟨document, depth + 1, place, flowOccurrence (.object (("type", .string kind.name) ::
    members))⟩
  let inside : Site := { site with depth := depth }
  have isKey : (Site.nodeKey { inside with occurrence := scalarOccurrence false "type" }).run left =
      .ok (.text "type", left) := rfl
  have isKind : (Site.readKind { inside with
      place := .key place "type", occurrence := scalarOccurrence false kind.name }).run left =
        .ok (kind, left) := by
    cases kind <;> rfl
  have isTagged : (site.readTagged none
      (inside.entries (memberOccurrences (("type", .string kind.name) :: members)))).run left =
        .ok ((kind, membersToContent members), left) := by
    show (Site.readTagged site none ((_, _) :: Site.entries _ (memberOccurrences members))).run left = _
    rw [Site.readTagged]
    refine (run_bind_ok isKey).trans ?_
    exact (run_bind_ok isKind).trans
      (run_readTagged site kind document place site.occurrence left noType common shallow)
  have isValue : site.value.run left =
      .ok (.mapping none (memberOccurrences (("type", .string kind.name) :: members)), left) := rfl
  -- A mapping without a tag is not refused for its tag.
  have notRefused : (return () : Decoder Unit).run left = .ok ((), left) := rfl
  have isInside : site.enter.run left = .ok (inside, left) := rfl
  rw [Site.readNodeContent]
  refine (run_bind_ok isValue).trans ?_
  refine (run_bind_ok notRefused).trans ?_
  exact (run_bind_ok isInside).trans (run_bind_ok isTagged)

end Yaml

theorem Node.membersDepth_partMembers (node : Node) : membersDepth node.partMembers ≤ 1 := by
  have shallow := node.depth_toJson
  have whole : node.toJson.depth = max 0 (membersDepth node.partMembers) + 1 := rfl
  omega

theorem Node.ofContent_partMembers (node : Node) :
    Node.ofContent node.kind (Value.object node.partMembers).toContent = .ok node := by
  have framed : Node.Framed node.partMembers := by
    constructor
    · rintro value isIn
      exact ⟨_, List.mem_singleton.mp isIn⟩
    · rintro value isIn
      rw [List.mem_singleton.mp isIn, Payload.toJson_eq]
      exact ⟨_, rfl⟩
  have described : Node.DescribedBy node _ := saysObject_object_iff.mp node.toJson_says
  exact (Node.ofContent_iff framed).mpr ⟨rfl, described.id, described.position, described.data⟩

/-- **A node is read from the object that it is written as.** -/
theorem Node.reads_toJson {node : Node} {depth : Nat} (deep : 1 ≤ depth)
    (common : Yaml.MembersAreCommon node.partMembers) (site : Yaml.Site) :
    Yaml.Reads (fun item => do
      let (kind, content) ← item.readNodeContent
      site.orRefuse (Node.ofContent kind content)) (depth + 1) node.toJson node := by
  intro document place left
  have noType : ∀ member ∈ node.partMembers, member.1 ≠ "type" := by
    simp [Node.partMembers]
  have isContent := Yaml.reads_nodeContent node.kind noType common
    (Nat.le_trans node.membersDepth_partMembers deep) document place left
  refine (Yaml.run_bind_ok isContent).trans ?_
  show (site.orRefuse (Node.ofContent node.kind (Value.object node.partMembers).toContent)).run left = _
  rw [node.ofContent_partMembers]
  rfl

/-! ### Edges and graphs -/

/-- An edge is read from the object that it is written as. -/
theorem Edge.reads_toJson (edge : Edge) (depth : Nat) :
    Yaml.Reads Yaml.Site.readEdge (depth + 1) edge.toJson edge := by
  have fills : Yaml.Fills (Edge.record Yaml.Site.asText) depth {} [("id", .string edge.id),
      ("source", .string edge.source), ("target", .string edge.target)]
        ⟨some edge.id, some edge.source, some edge.target⟩ :=
    .member rfl rfl (fun _ _ _ => rfl) (.member rfl rfl (fun _ _ _ => rfl)
      (.member rfl rfl (fun _ _ _ => rfl) (.done rfl)))
  exact fun document place left => Yaml.run_bind_ok (Yaml.reads_record fills document place left)

theorem forall₂_map_self {α β : Type} {R : β → α → Prop} {write : α → β} {as : List α}
    (each : ∀ a ∈ as, R (write a) a) : List.Forall₂ R (as.map write) as := by
  rw [List.forall₂_map_left_iff, List.forall₂_same]
  exact each

/-- **A graph is read from the members that it is written with.** -/
theorem Graph.reads_toMembers (graph : Graph)
    (common : ∀ node ∈ graph.nodes, Yaml.MembersAreCommon node.partMembers) :
    Yaml.Reads Yaml.Site.readGraph Yaml.maxDepth (.object graph.toMembers) graph := by
  have nodes : Yaml.Reads Yaml.Site.readNodes 127 (.array (graph.nodes.map Node.toJson)) graph.nodes :=
    fun document place left => Yaml.reads_sequence (forall₂_map_self fun node inside =>
      Node.reads_toJson (by decide : 1 ≤ 125) (common node inside) _) document place left
  have edges : Yaml.Reads (Yaml.Site.readSequence Yaml.Site.readEdge) 127
      (.array (graph.edges.map Edge.toJson)) graph.edges :=
    Yaml.reads_sequence (forall₂_map_self fun edge _ => edge.reads_toJson 125)
  have fills : Yaml.Fills (Graph.record Yaml.Site.readNodes (Yaml.Site.readSequence Yaml.Site.readEdge))
      127 {} graph.toMembers ⟨some graph.nodes, some graph.edges⟩ :=
    .member rfl rfl (fun document place left => Yaml.run_bind_ok (nodes document place left))
      (.member rfl rfl (fun document place left => Yaml.run_bind_ok (edges document place left))
        (.done rfl))
  exact fun document place left => Yaml.run_bind_ok (Yaml.reads_record fills document place left)

/-! ### Both readers -/

/-- **Both readers read a written graph as that graph**, so that it does not matter which of them the path
of a file asks for. -/
theorem Graph.readers_agree (graph : Graph)
    (coordinates : ∀ node ∈ graph.nodes, BothReadBack node.position.x ∧ BothReadBack node.position.y)
    (shared : ∀ text ∈ graph.strings, IsSharedText text) :
    Graph.ofYaml graph.toJson.text = .ok graph ∧ Graph.ofJson graph.toJson.text = .ok graph ∧
      ∀ path, Graph.ofFileText path graph.toJson.text = .ok graph := by
  have common := Graph.toMembers_isCommon coordinates shared
  have nodes : ∀ node ∈ graph.nodes, Yaml.MembersAreCommon node.partMembers := by
    intro node inside
    refine Node.partMembers_isCommon (coordinates node inside) fun text isText => shared text ?_
    exact List.mem_append_left _ (List.mem_flatMap.mpr ⟨node, inside, isText⟩)
  have asYaml : Graph.ofYaml graph.toJson.text = .ok graph :=
    Yaml.readWith_object common (graph.reads_toMembers nodes)
  have asJson : Graph.ofJson graph.toJson.text = .ok graph := by
    have written : (Value.object graph.toMembers).IsWritten := common.membersWritten
    have shallow : (Value.object graph.toMembers).depth ≤ maxDepth :=
      Nat.le_trans graph.depth_toMembers (by decide)
    exact (Graph.ofJson_iff written.spelledBy shallow graph.framed_toMembers graph).mpr
      graph.toMembers_describedBy
  refine ⟨asYaml, asJson, fun path => ?_⟩
  rw [Graph.ofFileText, asYaml, asJson]
  split <;> rfl

theorem Graph.readers_agree_oddities :
    Graph.ofYaml oddities.toJson.text = .ok oddities ∧ Graph.ofJson oddities.toJson.text = .ok oddities ∧
      ∀ path, Graph.ofFileText path oddities.toJson.text = .ok oddities :=
  Graph.readers_agree oddities (by decide +kernel) (by decide +kernel)

end PipelineGraph
