/-
**What the members of a JSON object say of a graph.**

The shape of a graph file, apart from any reader of it: which value stands under which name, what it
says, and what is meant where a name is left out.

* `Graph.DescribedBy` — the members of an object describe a graph.
* `Graph.Documented` — the members are of the documented shape: which names occur, how often, and what
  kind of value stands there.
* `Graph.exists_describedBy_iff` — members are of that shape exactly when they describe a graph.
-/

import Mathlib.Tactic.MkIffOfInductiveProp
import PipelineGraph.Graph.Json
import PipelineGraph.Proofs.Shape.Filling

namespace PipelineGraph

open Shape

/-! ### What a value says -/

namespace Json

/-- The members of an object, in the order in which they are written. -/
abbrev Members := List (String × Value)

/-- The float that a number stands for. -/
def Number.toFloat : Number → Float
  | .natural value => Float.ofInt value
  | .negative magnitude => Float.ofInt (-(magnitude : Int))
  | .float value => value

/-- A value says a text. -/
inductive SaysText : Value → String → Prop
  | text (text : String) : SaysText (.string text) text

/-- A value says a text, or that there is none. -/
inductive SaysOptionalText : Value → Option String → Prop
  | none : SaysOptionalText .null none
  | some (text : String) : SaysOptionalText (.string text) (some text)

/-- A value says a number. -/
inductive SaysFloat : Value → Float → Prop
  | number (number : Number) : SaysFloat (.number number) number.toFloat

/-- A value names a kind of nodes. -/
inductive SaysKind : Value → Kind → Prop
  | kind (kind : Kind) : SaysKind (.string kind.name) kind

variable {α : Type}

/-- A value is an object whose members describe something. -/
inductive SaysObject (DescribedBy : α → Members → Prop) : Value → α → Prop
  | object {members : Members} {a : α} (described : DescribedBy a members) :
      SaysObject DescribedBy (.object members) a

/-- A value is an array whose items say something one by one. -/
inductive SaysArray (Says : Value → α → Prop) : Value → List α → Prop
  | array {items : List Value} {as : List α} (each : List.Forall₂ Says items as) :
      SaysArray Says (.array items) as

/-- **The values under a name give something**: the only one of them says it, or there is none and it is
the default. -/
inductive Gives (Says : Value → α → Prop) (default : Option α) : List Value → α → Prop
  | value {value : Value} {a : α} (said : Says value a) : Gives Says default [value] a
  | default {a : α} (isDefault : default = some a) : Gives Says default [] a

theorem saysObject_object_iff {DescribedBy : α → Members → Prop} {members : Members} {a : α} :
    SaysObject DescribedBy (.object members) a ↔ DescribedBy a members := by
  constructor
  · rintro ⟨described⟩
    exact described
  · exact .object

theorem gives_cons_iff {Says : Value → α → Prop} {default : Option α} {value : Value}
    {values : List Value} {a : α} :
    Gives Says default (value :: values) a ↔ values = [] ∧ Says value a := by
  constructor
  · rintro ⟨said⟩
    exact ⟨rfl, said⟩
  · rintro ⟨rfl, said⟩
    exact .value said

end Json

open Json

/-! ### What members describe -/

/-- The members describe an edge. -/
@[mk_iff]
structure Edge.DescribedBy (edge : Edge) (members : Members) : Prop where
  id : Gives SaysText none (named "id" members) edge.id
  source : Gives SaysText none (named "source" members) edge.source
  target : Gives SaysText none (named "target" members) edge.target

/-- The members describe a position. -/
@[mk_iff]
structure Position.DescribedBy (position : Position) (members : Members) : Prop where
  x : Gives SaysFloat none (named "x" members) position.x
  y : Gives SaysFloat none (named "y" members) position.y

/-- The members describe what a dataset holds. -/
@[mk_iff]
structure DatasetPayload.DescribedBy (payload : DatasetPayload) (members : Members) : Prop where
  storageType : Gives SaysText (some "") (named "type" members) payload.storageType
  location : Gives SaysText (some "") (named "filepath" members) payload.location
  description :
    Gives SaysOptionalText (some none) (named "description" members) payload.description

/-- The members describe what a function holds. -/
@[mk_iff]
structure FunctionPayload.DescribedBy (payload : FunctionPayload) (members : Members) : Prop where
  functionName :
    Gives SaysOptionalText (some none) (named "function_name" members) payload.functionName
  body : Gives SaysOptionalText (some none) (named "code" members) payload.body
  description :
    Gives SaysOptionalText (some none) (named "description" members) payload.description

/-- The members describe what a node of its kind holds. -/
def Payload.DescribedBy : Payload → Members → Prop
  | .dataset payload, members => payload.DescribedBy members
  | .function payload, members => payload.DescribedBy members

/-- The label and the payload of a node. -/
structure NodeData where
  label : String
  payload : Payload

/-- The members describe the data of a node. -/
@[mk_iff]
structure NodeData.DescribedBy (data : NodeData) (members : Members) : Prop where
  label : Gives SaysText none (named "label" members) data.label
  payload : data.payload.DescribedBy members

/-- The data of a node. -/
def Node.data (node : Node) : NodeData := ⟨node.label, node.payload⟩

/-- The members describe a node. -/
@[mk_iff]
structure Node.DescribedBy (node : Node) (members : Members) : Prop where
  kind : Gives SaysKind none (named "type" members) node.kind
  id : Gives SaysText none (named "id" members) node.id
  position :
    Gives (SaysObject Position.DescribedBy) (some {}) (named "position" members) node.position
  data : Gives (SaysObject NodeData.DescribedBy) none (named "data" members) node.data

/-- **The members describe a graph**: its nodes and its edges, in order. -/
@[mk_iff]
structure Graph.DescribedBy (graph : Graph) (members : Members) : Prop where
  nodes : Gives (SaysArray (SaysObject Node.DescribedBy)) (some []) (named "nodes" members) graph.nodes
  edges : Gives (SaysArray (SaysObject Edge.DescribedBy)) (some []) (named "edges" members) graph.edges

/-! ### The documented shape -/

namespace Json

/-- A text. -/
def IsText (value : Value) : Prop := ∃ text, value = .string text

/-- A text, or nothing. -/
def IsTextOrNull (value : Value) : Prop := IsText value ∨ value = .null

/-- A number. -/
def IsNumber (value : Value) : Prop := ∃ number, value = .number number

/-- An object whose members are of a shape. -/
def IsObjectOf (Documented : Members → Prop) (value : Value) : Prop :=
  ∃ members, value = .object members ∧ Documented members

/-- An array whose items are of a shape. -/
def IsArrayOf (Documented : Value → Prop) (value : Value) : Prop :=
  ∃ items, value = .array items ∧ ∀ item ∈ items, Documented item

/-- A name occurs exactly once, with a value of a shape. -/
def Once (Documented : Value → Prop) (name : String) (members : Members) : Prop :=
  ∃ value, named name members = [value] ∧ Documented value

/-- A name occurs at most once, and if so, with a value of a shape. -/
def AtMostOnce (Documented : Value → Prop) (name : String) (members : Members) : Prop :=
  named name members = [] ∨ Once Documented name members

end Json

/-- The shape of an edge. -/
structure Edge.Documented (members : Members) : Prop where
  id : Once IsText "id" members
  source : Once IsText "source" members
  target : Once IsText "target" members

/-- The shape of a position. -/
structure Position.Documented (members : Members) : Prop where
  x : Once IsNumber "x" members
  y : Once IsNumber "y" members

/-- The shape of what a dataset holds. -/
structure DatasetPayload.Documented (members : Members) : Prop where
  storageType : AtMostOnce IsText "type" members
  location : AtMostOnce IsText "filepath" members
  description : AtMostOnce IsTextOrNull "description" members

/-- The shape of what a function holds. -/
structure FunctionPayload.Documented (members : Members) : Prop where
  functionName : AtMostOnce IsTextOrNull "function_name" members
  body : AtMostOnce IsTextOrNull "code" members
  description : AtMostOnce IsTextOrNull "description" members

/-- The shape of what a node of a kind holds. -/
def Payload.Documented : Kind → Members → Prop
  | .dataset => DatasetPayload.Documented
  | .function => FunctionPayload.Documented

/-- The shape of the data of a node of a kind. -/
structure NodeData.Documented (kind : Kind) (members : Members) : Prop where
  label : Once IsText "label" members
  payload : Payload.Documented kind members

/-- The shape of a node of a kind. -/
structure Node.DocumentedAs (kind : Kind) (members : Members) : Prop where
  type : Once (· = .string kind.name) "type" members
  id : Once IsText "id" members
  position : AtMostOnce (IsObjectOf Position.Documented) "position" members
  data : Once (IsObjectOf (NodeData.Documented kind)) "data" members

/-- The shape of a node. -/
def Node.Documented (members : Members) : Prop := ∃ kind, Node.DocumentedAs kind members

/-- **The documented shape of a graph.** -/
structure Graph.Documented (members : Members) : Prop where
  nodes : AtMostOnce (IsArrayOf (IsObjectOf Node.Documented)) "nodes" members
  edges : AtMostOnce (IsArrayOf (IsObjectOf Edge.Documented)) "edges" members

/-! ### The documented shape is the shape of what describes a graph -/

namespace Json

variable {α : Type}

theorem exists_saysText_iff {value : Value} : (∃ text, SaysText value text) ↔ IsText value := by
  constructor
  · rintro ⟨text, ⟨⟩⟩
    exact ⟨text, rfl⟩
  · rintro ⟨text, rfl⟩
    exact ⟨text, .text text⟩

theorem exists_saysOptionalText_iff {value : Value} :
    (∃ text, SaysOptionalText value text) ↔ IsTextOrNull value := by
  constructor
  · rintro ⟨found, said⟩
    cases said with
    | none => exact .inr rfl
    | some text => exact .inl ⟨text, rfl⟩
  · rintro (⟨text, rfl⟩ | rfl)
    · exact ⟨some text, .some text⟩
    · exact ⟨none, .none⟩

theorem exists_saysFloat_iff {value : Value} : (∃ x, SaysFloat value x) ↔ IsNumber value := by
  constructor
  · rintro ⟨x, ⟨number⟩⟩
    exact ⟨number, rfl⟩
  · rintro ⟨number, rfl⟩
    exact ⟨number.toFloat, .number number⟩

theorem saysKind_iff {value : Value} {kind : Kind} :
    SaysKind value kind ↔ value = .string kind.name := by
  constructor
  · rintro ⟨⟩
    rfl
  · rintro rfl
    exact .kind kind

theorem exists_saysObject_iff {DescribedBy : α → Members → Prop} {Documented : Members → Prop}
    (inside : ∀ members, (∃ a, DescribedBy a members) ↔ Documented members) {value : Value} :
    (∃ a, SaysObject DescribedBy value a) ↔ IsObjectOf Documented value := by
  constructor
  · rintro ⟨a, said⟩
    cases said with
    | @object members _ described => exact ⟨members, rfl, (inside members).mp ⟨a, described⟩⟩
  · rintro ⟨members, rfl, documented⟩
    obtain ⟨a, described⟩ := (inside members).mpr documented
    exact ⟨a, .object described⟩

theorem exists_saysArray_iff {Says : Value → α → Prop} {Documented : Value → Prop}
    (inside : ∀ item, (∃ a, Says item a) ↔ Documented item) {value : Value} :
    (∃ as, SaysArray Says value as) ↔ IsArrayOf Documented value := by
  constructor
  · rintro ⟨as, said⟩
    cases said with
    | @array items _ each =>
      refine ⟨items, rfl, ?_⟩
      induction each with
      | nil => exact List.forall_mem_nil _
      | cons first _ ih => exact List.forall_mem_cons.mpr ⟨(inside _).mp ⟨_, first⟩, ih⟩
  · rintro ⟨items, rfl, documented⟩
    induction items with
    | nil => exact ⟨[], .array .nil⟩
    | cons item rest ih =>
      rw [List.forall_mem_cons] at documented
      obtain ⟨a, said⟩ := (inside item).mpr documented.1
      obtain ⟨as, ⟨each⟩⟩ := ih documented.2
      exact ⟨a :: as, .array (.cons said each)⟩

theorem exists_gives_iff_once {Says : Value → α → Prop} {Documented : Value → Prop}
    (inside : ∀ value, (∃ a, Says value a) ↔ Documented value) {name : String} {members : Members} :
    (∃ a, Gives Says none (named name members) a) ↔ Once Documented name members := by
  constructor
  · rintro ⟨a, gives⟩
    generalize under : named name members = values at gives
    cases gives with
    | value said => exact ⟨_, under, (inside _).mp ⟨a, said⟩⟩
    | default isDefault => cases isDefault
  · rintro ⟨value, only, documented⟩
    obtain ⟨a, said⟩ := (inside value).mpr documented
    rw [only]
    exact ⟨a, .value said⟩

theorem exists_gives_iff_atMostOnce {Says : Value → α → Prop} {Documented : Value → Prop} {a : α}
    (inside : ∀ value, (∃ a, Says value a) ↔ Documented value) {name : String} {members : Members} :
    (∃ found, Gives Says (some a) (named name members) found) ↔
      AtMostOnce Documented name members := by
  constructor
  · rintro ⟨found, gives⟩
    generalize under : named name members = values at gives
    cases gives with
    | value said => exact .inr ⟨_, under, (inside _).mp ⟨found, said⟩⟩
    | default _ => exact .inl under
  · rintro (missing | ⟨value, only, documented⟩)
    · rw [missing]
      exact ⟨a, .default rfl⟩
    · obtain ⟨found, said⟩ := (inside value).mpr documented
      rw [only]
      exact ⟨found, .value said⟩

theorem exists_text_iff {name : String} {members : Members} :
    (∃ text, Gives SaysText none (named name members) text) ↔ Once IsText name members :=
  exists_gives_iff_once fun _ => exists_saysText_iff

theorem exists_textOr_iff {name default : String} {members : Members} :
    (∃ text, Gives SaysText (some default) (named name members) text) ↔
      AtMostOnce IsText name members :=
  exists_gives_iff_atMostOnce fun _ => exists_saysText_iff

theorem exists_optionalText_iff {name : String} {default : Option String} {members : Members} :
    (∃ text, Gives SaysOptionalText (some default) (named name members) text) ↔
      AtMostOnce IsTextOrNull name members :=
  exists_gives_iff_atMostOnce fun _ => exists_saysOptionalText_iff

end Json

theorem Edge.exists_describedBy_iff {members : Members} :
    (∃ edge : Edge, edge.DescribedBy members) ↔ Edge.Documented members := by
  constructor
  · rintro ⟨edge, described⟩
    exact ⟨exists_text_iff.mp ⟨_, described.id⟩, exists_text_iff.mp ⟨_, described.source⟩,
      exists_text_iff.mp ⟨_, described.target⟩⟩
  · intro documented
    obtain ⟨id, givesId⟩ := exists_text_iff.mpr documented.id
    obtain ⟨source, givesSource⟩ := exists_text_iff.mpr documented.source
    obtain ⟨target, givesTarget⟩ := exists_text_iff.mpr documented.target
    exact ⟨⟨id, source, target⟩, givesId, givesSource, givesTarget⟩

theorem Position.exists_describedBy_iff {members : Members} :
    (∃ position : Position, position.DescribedBy members) ↔ Position.Documented members := by
  have numbers : ∀ {name : String}, (∃ x, Gives SaysFloat none (named name members) x) ↔
      Once IsNumber name members := exists_gives_iff_once fun _ => exists_saysFloat_iff
  constructor
  · rintro ⟨position, described⟩
    exact ⟨numbers.mp ⟨_, described.x⟩, numbers.mp ⟨_, described.y⟩⟩
  · intro documented
    obtain ⟨x, givesX⟩ := numbers.mpr documented.x
    obtain ⟨y, givesY⟩ := numbers.mpr documented.y
    exact ⟨⟨x, y⟩, givesX, givesY⟩

theorem DatasetPayload.exists_describedBy_iff {members : Members} :
    (∃ payload : DatasetPayload, payload.DescribedBy members) ↔
      DatasetPayload.Documented members := by
  constructor
  · rintro ⟨payload, described⟩
    exact ⟨exists_textOr_iff.mp ⟨_, described.storageType⟩,
      exists_textOr_iff.mp ⟨_, described.location⟩,
      exists_optionalText_iff.mp ⟨_, described.description⟩⟩
  · intro documented
    obtain ⟨storageType, givesType⟩ := exists_textOr_iff.mpr documented.storageType
    obtain ⟨location, givesLocation⟩ := exists_textOr_iff.mpr documented.location
    obtain ⟨description, givesDescription⟩ := exists_optionalText_iff.mpr documented.description
    exact ⟨⟨storageType, location, description⟩, givesType, givesLocation, givesDescription⟩

theorem FunctionPayload.exists_describedBy_iff {members : Members} :
    (∃ payload : FunctionPayload, payload.DescribedBy members) ↔
      FunctionPayload.Documented members := by
  constructor
  · rintro ⟨payload, described⟩
    exact ⟨exists_optionalText_iff.mp ⟨_, described.functionName⟩,
      exists_optionalText_iff.mp ⟨_, described.body⟩,
      exists_optionalText_iff.mp ⟨_, described.description⟩⟩
  · intro documented
    obtain ⟨functionName, givesName⟩ := exists_optionalText_iff.mpr documented.functionName
    obtain ⟨body, givesBody⟩ := exists_optionalText_iff.mpr documented.body
    obtain ⟨description, givesDescription⟩ := exists_optionalText_iff.mpr documented.description
    exact ⟨⟨functionName, body, description⟩, givesName, givesBody, givesDescription⟩

theorem Payload.exists_describedBy_iff {kind : Kind} {members : Members} :
    (∃ payload : Payload, payload.kind = kind ∧ payload.DescribedBy members) ↔
      Payload.Documented kind members := by
  constructor
  · rintro ⟨payload | payload, rfl, described⟩
    · exact DatasetPayload.exists_describedBy_iff.mp ⟨payload, described⟩
    · exact FunctionPayload.exists_describedBy_iff.mp ⟨payload, described⟩
  · intro documented
    cases kind with
    | dataset =>
      obtain ⟨payload, described⟩ := DatasetPayload.exists_describedBy_iff.mpr documented
      exact ⟨.dataset payload, rfl, described⟩
    | function =>
      obtain ⟨payload, described⟩ := FunctionPayload.exists_describedBy_iff.mpr documented
      exact ⟨.function payload, rfl, described⟩

/-- Data of a kind. -/
theorem NodeData.exists_describedBy_iff {kind : Kind} {members : Members} :
    (∃ data : NodeData, data.payload.kind = kind ∧ data.DescribedBy members) ↔
      NodeData.Documented kind members := by
  constructor
  · rintro ⟨data, isKind, described⟩
    exact ⟨exists_text_iff.mp ⟨_, described.label⟩,
      Payload.exists_describedBy_iff.mp ⟨data.payload, isKind, described.payload⟩⟩
  · intro documented
    obtain ⟨label, givesLabel⟩ := exists_text_iff.mpr documented.label
    obtain ⟨payload, isKind, described⟩ := Payload.exists_describedBy_iff.mpr documented.payload
    exact ⟨⟨label, payload⟩, isKind, givesLabel, described⟩

theorem Node.exists_describedBy_iff {members : Members} :
    (∃ node : Node, node.DescribedBy members) ↔ Node.Documented members := by
  have positions : (∃ position, Gives (SaysObject Position.DescribedBy) (some {})
      (named "position" members) position) ↔
        AtMostOnce (IsObjectOf Position.Documented) "position" members :=
    exists_gives_iff_atMostOnce fun _ =>
      exists_saysObject_iff fun _ => Position.exists_describedBy_iff
  constructor
  · rintro ⟨node, described⟩
    refine ⟨node.kind, ?_, exists_text_iff.mp ⟨_, described.id⟩,
      positions.mp ⟨_, described.position⟩, ?_⟩
    · have gives := described.kind
      generalize under : named "type" members = values at gives
      cases gives with
      | value said => exact ⟨_, under, saysKind_iff.mp said⟩
      | default isDefault => cases isDefault
    · have gives := described.data
      generalize under : named "data" members = values at gives
      cases gives with
      | value said =>
        obtain ⟨inside⟩ := said
        exact ⟨_, under, _, rfl, NodeData.exists_describedBy_iff.mp ⟨node.data, rfl, inside⟩⟩
      | default isDefault => cases isDefault
  · rintro ⟨kind, documented⟩
    obtain ⟨type, onlyType, isKind⟩ := documented.type
    obtain ⟨id, givesId⟩ := exists_text_iff.mpr documented.id
    obtain ⟨position, givesPosition⟩ := positions.mpr documented.position
    obtain ⟨_, onlyData, part, rfl, inside⟩ := documented.data
    obtain ⟨⟨label, payload⟩, rfl, described⟩ := NodeData.exists_describedBy_iff.mpr inside
    refine ⟨⟨id, label, position, payload⟩, ?_, givesId, givesPosition, ?_⟩
    · rw [onlyType]
      exact .value (saysKind_iff.mpr isKind)
    · rw [onlyData]
      exact .value (.object described)

/-- **Members are of the documented shape exactly when they describe a graph.** -/
theorem Graph.exists_describedBy_iff {members : Members} :
    (∃ graph : Graph, graph.DescribedBy members) ↔ Graph.Documented members := by
  have nodeLists : (∃ nodes, Gives (SaysArray (SaysObject Node.DescribedBy)) (some [])
      (named "nodes" members) nodes) ↔
        AtMostOnce (IsArrayOf (IsObjectOf Node.Documented)) "nodes" members :=
    exists_gives_iff_atMostOnce fun _ => exists_saysArray_iff fun _ =>
      exists_saysObject_iff fun _ => Node.exists_describedBy_iff
  have edgeLists : (∃ edges, Gives (SaysArray (SaysObject Edge.DescribedBy)) (some [])
      (named "edges" members) edges) ↔
        AtMostOnce (IsArrayOf (IsObjectOf Edge.Documented)) "edges" members :=
    exists_gives_iff_atMostOnce fun _ => exists_saysArray_iff fun _ =>
      exists_saysObject_iff fun _ => Edge.exists_describedBy_iff
  constructor
  · rintro ⟨graph, described⟩
    exact ⟨nodeLists.mp ⟨_, described.nodes⟩, edgeLists.mp ⟨_, described.edges⟩⟩
  · intro documented
    obtain ⟨nodes, givesNodes⟩ := nodeLists.mpr documented.nodes
    obtain ⟨edges, givesEdges⟩ := edgeLists.mpr documented.edges
    exact ⟨⟨nodes, edges⟩, givesNodes, givesEdges⟩

end PipelineGraph
