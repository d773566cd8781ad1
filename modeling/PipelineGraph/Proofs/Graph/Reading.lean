/-
**What is read of a graph is what its members describe.**

Each record of a graph file is made of slots (`Position.record_madeOf` and its like), so a record is
filled exactly when the members describe something, and what is made of it is that
(`Record.MadeOf.fill_finish_iff`). From the inside out:

* `Position.ofContent_iff`, `Kind.readData_iff`, `Node.ofContent_iff` — positions, the data of a node, and
  a node but for its type.
* `readTagged_iff` — the members of a node, its type among them wherever it stands.
* `Site.readNode_iff`, `Site.readEdge_iff` — a node and an edge.
* `Site.readGraph_iff` — **a graph is read exactly when the members describe it.**
-/

import PipelineGraph.Proofs.Graph.Description
import PipelineGraph.Proofs.Json.Reading
import PipelineGraph.Proofs.Json.Standing
import PipelineGraph.Proofs.Results

namespace PipelineGraph

open Shape Json

/-! ### Given values -/

section

variable {α : Type} {Says : Value → α → Prop} {under : List Value} {found : Option α} {a : α}

theorem Json.Gives.of_fills_required (fills : Fills Says true under found) :
    Gives Says none under (found.getD a) := by
  match under, found, fills with
  | [], _, fills => cases fills.1
  | [_], some _, ⟨_, said, rfl⟩ => exact .value said

theorem Json.Gives.of_fills (fills : Fills Says false under found) :
    Gives Says (some a) under (found.getD a) := by
  match under, found, fills with
  | [], none, _ => exact .default rfl
  | [_], some _, ⟨_, said, rfl⟩ => exact .value said

theorem Json.Gives.fills (gives : Gives Says none under a) : Fills Says true under (some a) := by
  cases gives with
  | value said => exact ⟨a, said, rfl⟩
  | default isDefault => cases isDefault

theorem Json.Gives.exists_fills {default : α} (gives : Gives Says (some default) under a) :
    ∃ found, Fills Says false under found ∧ found.getD default = a := by
  cases gives with
  | value said => exact ⟨some a, ⟨a, said, rfl⟩, rfl⟩
  | default isDefault => exact ⟨none, ⟨rfl, rfl⟩, Option.some.inj isDefault⟩

end

/-! ### Members as content -/

namespace Json

/-- The contents of members, with their names. -/
def contents (members : Members) : List (String × Content) :=
  members.map fun member => (member.1, member.2.toContent)

theorem membersToContent_eq (members : Members) :
    membersToContent members = (contents members).map fun value => (.text value.1, value.2) := by
  induction members with
  | nil => rfl
  | cons member rest ih =>
    rw [membersToContent, ih]
    rfl

/-- A record filled with the contents of members. -/
def fillContents {σ : Type} (record : Record Content (Except Problem) σ) (members : Members) :
    Except Problem σ :=
  record.fill id record.draft (contents members)

theorem readRecord_object {σ : Type} (record : Record Content (Except Problem) σ) (members : Members) :
    (Value.object members).toContent.readRecord record = fillContents record members := by
  show Content.readEntries record record.draft (membersToContent members) = _
  rw [membersToContent_eq, Content.readEntries_eq_fill, fillContents]

/-- The contents of the values under a name fill a field as the values do. -/
theorem fills_contents_iff {α : Type} {Reads : Content → α → Prop} {Says : Value → α → Prop}
    {members : Members} {name : String} {required : Bool} {found : Option α}
    (alike : ∀ value ∈ named name members, ∀ a, Reads value.toContent a ↔ Says value a) :
    Fills Reads required (named name (contents members)) found ↔
      Fills Says required (named name members) found := by
  let IsContentOf (content : Content) (value : Value) : Prop := content = value.toContent
  have related : List.Forall₂ (fun (content : String × Content) (member : String × Value) =>
      content.1 = member.1 ∧ IsContentOf content.2 member.2) (contents members) members := by
    rw [contents, List.forall₂_map_left_iff, List.forall₂_same]
    exact fun _ _ => ⟨rfl, rfl⟩
  refine fills_named_congr related fun value inside content same a => ?_
  rw [same]
  exact alike value inside a

theorem asText_toContent_iff (value : Value) (text : String) :
    value.toContent.asText = .ok text ↔ SaysText value text := by
  cases value with
  | string text =>
    constructor
    · rintro ⟨⟩
      exact .text _
    · rintro ⟨⟩
      rfl
  | number number => cases number <;> exact iff_of_false nofun nofun
  | _ => exact iff_of_false nofun nofun

theorem asOptionalText_toContent_iff (value : Value) (text : Option String) :
    value.toContent.asOptionalText = .ok text ↔ SaysOptionalText value text := by
  cases value with
  | null =>
    constructor
    · rintro ⟨⟩
      exact .none
    · rintro ⟨⟩
      rfl
  | string text =>
    constructor
    · rintro ⟨⟩
      exact .some _
    · rintro ⟨⟩
      rfl
  | number number => cases number <;> exact iff_of_false nofun nofun
  | _ => exact iff_of_false nofun nofun

theorem asFloat_toContent_iff (value : Value) (x : Float) :
    value.toContent.asFloat = .ok x ↔ SaysFloat value x := by
  cases value with
  | number number =>
    have reads : (Value.number number).toContent.asFloat = .ok number.toFloat := by
      cases number <;> rfl
    rw [reads]
    constructor
    · rintro ⟨⟩
      exact .number number
    · rintro ⟨⟩
      rfl
  | _ => exact iff_of_false nofun nofun

variable {members : Members} {name : String} {required : Bool}

theorem fills_text_iff {found : Option String} :
    Fills (fun content text => content.asText = .ok text) required (named name (contents members))
      found ↔ Fills SaysText required (named name members) found :=
  fills_contents_iff fun value _ => asText_toContent_iff value

theorem fills_optionalText_iff {found : Option (Option String)} :
    Fills (fun content text => content.asOptionalText = .ok text) required
      (named name (contents members)) found ↔
        Fills SaysOptionalText required (named name members) found :=
  fills_contents_iff fun value _ => asOptionalText_toContent_iff value

theorem fills_float_iff {found : Option Float} :
    Fills (fun content x => content.asFloat = .ok x) required (named name (contents members)) found ↔
      Fills SaysFloat required (named name members) found :=
  fills_contents_iff fun value _ => asFloat_toContent_iff value

end Json

/-! ### Positions -/

namespace Position

/-- The slot of the first coordinate. -/
def xSlot : Slot Content Problem Draft :=
  ⟨"x", true, Content.asFloat, Draft.x, fun x draft => { draft with x := some x }⟩

/-- The slot of the second coordinate. -/
def ySlot : Slot Content Problem Draft :=
  ⟨"y", true, Content.asFloat, Draft.y, fun y draft => { draft with y := some y }⟩

theorem record_madeOf : record.MadeOf [xSlot, ySlot] where
  fields := rfl
  names := by decide
  get_put := by simp [xSlot, ySlot]
  frame := by simp [xSlot, ySlot]
  empty := by simp [xSlot, ySlot, record]

theorem fill_position_iff {members : Members} {position : Position} :
    (∃ draft, fillContents record members = .ok draft ∧
        (⟨draft.x.getD 0, draft.y.getD 0⟩ : Position) = position) ↔ position.DescribedBy members := by
  rw [fillContents, record_madeOf.fill_finish_iff]
  · constructor
    · rintro ⟨draft, fills, rfl⟩
      have x : Fills xSlot.Reads true (named "x" (contents members)) draft.x := fills xSlot (by simp)
      have y : Fills ySlot.Reads true (named "y" (contents members)) draft.y := fills ySlot (by simp)
      exact ⟨.of_fills_required (fills_float_iff.mp x), .of_fills_required (fills_float_iff.mp y)⟩
    · intro described
      have x : Fills xSlot.Reads true (named "x" (contents members)) (some position.x) :=
        fills_float_iff.mpr described.x.fills
      have y : Fills ySlot.Reads true (named "y" (contents members)) (some position.y) :=
        fills_float_iff.mpr described.y.fills
      exact ⟨⟨some position.x, some position.y⟩, by simpa using ⟨x, y⟩, rfl⟩
  · intro draft other same
    have x : draft.x = other.x := same xSlot (by simp)
    have y : draft.y = other.y := same ySlot (by simp)
    rw [x, y]

/-- **A position is read exactly when the members describe it.** -/
theorem ofContent_iff {members : Members} {position : Position} :
    ofContent (Value.object members).toContent = .ok position ↔ position.DescribedBy members := by
  rw [ofContent, readRecord_object, map_eq_ok_iff, fill_position_iff]

end Position

/-! ### The data of a node -/

namespace DataDraft

/-- The slot of the label. -/
def labelSlot : Slot Content Problem DataDraft :=
  ⟨"label", true, Content.asText, label, fun text draft => { draft with label := some text }⟩

/-- The slot of the kind of storage. -/
def typeSlot : Slot Content Problem DataDraft :=
  ⟨"type", false, Content.asText, storageType,
    fun text draft => { draft with storageType := some text }⟩

/-- The slot of the place of the stored data. -/
def filepathSlot : Slot Content Problem DataDraft :=
  ⟨"filepath", false, Content.asText, location,
    fun text draft => { draft with location := some text }⟩

/-- The slot of the name of a function. -/
def functionNameSlot : Slot Content Problem DataDraft :=
  ⟨"function_name", false, Content.asOptionalText, functionName,
    fun text draft => { draft with functionName := some text }⟩

/-- The slot of the body of a function. -/
def codeSlot : Slot Content Problem DataDraft :=
  ⟨"code", false, Content.asOptionalText, code, fun text draft => { draft with code := some text }⟩

/-- The slot of the description. -/
def descriptionSlot : Slot Content Problem DataDraft :=
  ⟨"description", false, Content.asOptionalText, description,
    fun text draft => { draft with description := some text }⟩

/-- The slots of a dataset. -/
def datasetSlots : List (Slot Content Problem DataDraft) :=
  [labelSlot, typeSlot, filepathSlot, descriptionSlot]

/-- The slots of a function. -/
def functionSlots : List (Slot Content Problem DataDraft) :=
  [labelSlot, functionNameSlot, codeSlot, descriptionSlot]

theorem dataset_madeOf : dataset.MadeOf datasetSlots where
  fields := rfl
  names := by decide
  get_put := by simp [datasetSlots, labelSlot, typeSlot, filepathSlot, descriptionSlot]
  frame := by simp [datasetSlots, labelSlot, typeSlot, filepathSlot, descriptionSlot]
  empty := by simp [datasetSlots, labelSlot, typeSlot, filepathSlot, descriptionSlot, dataset]

theorem function_madeOf : function.MadeOf functionSlots where
  fields := rfl
  names := by decide
  get_put := by simp [functionSlots, labelSlot, functionNameSlot, codeSlot, descriptionSlot]
  frame := by simp [functionSlots, labelSlot, functionNameSlot, codeSlot, descriptionSlot]
  empty := by simp [functionSlots, labelSlot, functionNameSlot, codeSlot, descriptionSlot, function]

/-- The data of a draft. -/
def data (draft : DataDraft) (kind : Kind) : NodeData := ⟨draft.label.getD "", draft.payload kind⟩

theorem payload_kind (draft : DataDraft) (kind : Kind) : (draft.payload kind).kind = kind := by
  cases kind <;> rfl

variable {members : Members}

/-- The data of a dataset look at the slots of a dataset. -/
theorem data_dataset_congr {draft other : DataDraft}
    (same : ∀ slot ∈ datasetSlots, slot.get draft = slot.get other) :
    draft.data .dataset = other.data .dataset := by
  have label : draft.label = other.label := same labelSlot (by simp [datasetSlots])
  have storageType : draft.storageType = other.storageType := same typeSlot (by simp [datasetSlots])
  have location : draft.location = other.location := same filepathSlot (by simp [datasetSlots])
  have description : draft.description = other.description :=
    same descriptionSlot (by simp [datasetSlots])
  rw [data, data, payload, payload, label, storageType, location, description]

/-- **A dataset is filled in exactly when the members describe its data.** -/
theorem fill_dataset_iff {data : NodeData} :
    (∃ draft, fillContents dataset members = .ok draft ∧ draft.data .dataset = data) ↔
      data.payload.kind = .dataset ∧ data.DescribedBy members := by
  rw [fillContents, dataset_madeOf.fill_finish_iff]
  · constructor
    · rintro ⟨draft, fills, rfl⟩
      have label : Fills labelSlot.Reads true (named "label" (contents members)) draft.label :=
        fills labelSlot (by simp [datasetSlots])
      have storageType :
          Fills typeSlot.Reads false (named "type" (contents members)) draft.storageType :=
        fills typeSlot (by simp [datasetSlots])
      have location :
          Fills filepathSlot.Reads false (named "filepath" (contents members)) draft.location :=
        fills filepathSlot (by simp [datasetSlots])
      have description : Fills descriptionSlot.Reads false (named "description" (contents members))
          draft.description := fills descriptionSlot (by simp [datasetSlots])
      exact ⟨rfl, .of_fills_required (fills_text_iff.mp label),
        .of_fills (fills_text_iff.mp storageType), .of_fills (fills_text_iff.mp location),
        .of_fills (fills_optionalText_iff.mp description)⟩
    · rintro ⟨isKind, described⟩
      obtain ⟨label, payload⟩ := data
      cases payload with
      | function payload => cases isKind
      | dataset payload =>
        have inside : payload.DescribedBy members := described.payload
        obtain ⟨storageType, fillsType, sameType⟩ := inside.storageType.exists_fills
        obtain ⟨location, fillsLocation, sameLocation⟩ := inside.location.exists_fills
        obtain ⟨description, fillsDescription, sameDescription⟩ := inside.description.exists_fills
        have label : Fills labelSlot.Reads true (named "label" (contents members)) (some label) :=
          fills_text_iff.mpr described.label.fills
        have type : Fills typeSlot.Reads false (named "type" (contents members)) storageType :=
          fills_text_iff.mpr fillsType
        have filepath : Fills filepathSlot.Reads false (named "filepath" (contents members)) location :=
          fills_text_iff.mpr fillsLocation
        have text : Fills descriptionSlot.Reads false (named "description" (contents members))
            description := fills_optionalText_iff.mpr fillsDescription
        refine ⟨{ label := some _, storageType, location, description }, by
          simpa [datasetSlots] using ⟨label, type, filepath, text⟩, ?_⟩
        rw [data, DataDraft.payload, sameType, sameLocation, sameDescription]
        rfl
  · exact fun draft other => data_dataset_congr

/-- The data of a function look at the slots of a function. -/
theorem data_function_congr {draft other : DataDraft}
    (same : ∀ slot ∈ functionSlots, slot.get draft = slot.get other) :
    draft.data .function = other.data .function := by
  have label : draft.label = other.label := same labelSlot (by simp [functionSlots])
  have functionName : draft.functionName = other.functionName :=
    same functionNameSlot (by simp [functionSlots])
  have code : draft.code = other.code := same codeSlot (by simp [functionSlots])
  have description : draft.description = other.description :=
    same descriptionSlot (by simp [functionSlots])
  rw [data, data, payload, payload, label, functionName, code, description]

/-- **A function is filled in exactly when the members describe its data.** -/
theorem fill_function_iff {data : NodeData} :
    (∃ draft, fillContents function members = .ok draft ∧ draft.data .function = data) ↔
      data.payload.kind = .function ∧ data.DescribedBy members := by
  rw [fillContents, function_madeOf.fill_finish_iff]
  · constructor
    · rintro ⟨draft, fills, rfl⟩
      have label : Fills labelSlot.Reads true (named "label" (contents members)) draft.label :=
        fills labelSlot (by simp [functionSlots])
      have functionName : Fills functionNameSlot.Reads false
          (named "function_name" (contents members)) draft.functionName :=
        fills functionNameSlot (by simp [functionSlots])
      have code : Fills codeSlot.Reads false (named "code" (contents members)) draft.code :=
        fills codeSlot (by simp [functionSlots])
      have description : Fills descriptionSlot.Reads false (named "description" (contents members))
          draft.description := fills descriptionSlot (by simp [functionSlots])
      exact ⟨rfl, .of_fills_required (fills_text_iff.mp label),
        .of_fills (fills_optionalText_iff.mp functionName), .of_fills (fills_optionalText_iff.mp code),
        .of_fills (fills_optionalText_iff.mp description)⟩
    · rintro ⟨isKind, described⟩
      obtain ⟨label, payload⟩ := data
      cases payload with
      | dataset payload => cases isKind
      | function payload =>
        have inside : payload.DescribedBy members := described.payload
        obtain ⟨functionName, fillsName, sameName⟩ := inside.functionName.exists_fills
        obtain ⟨code, fillsCode, sameCode⟩ := inside.body.exists_fills
        obtain ⟨description, fillsDescription, sameDescription⟩ := inside.description.exists_fills
        have label : Fills labelSlot.Reads true (named "label" (contents members)) (some label) :=
          fills_text_iff.mpr described.label.fills
        have name : Fills functionNameSlot.Reads false (named "function_name" (contents members))
            functionName := fills_optionalText_iff.mpr fillsName
        have body : Fills codeSlot.Reads false (named "code" (contents members)) code :=
          fills_optionalText_iff.mpr fillsCode
        have text : Fills descriptionSlot.Reads false (named "description" (contents members))
            description := fills_optionalText_iff.mpr fillsDescription
        refine ⟨{ label := some _, functionName, code, description }, by
          simpa [functionSlots] using ⟨label, name, body, text⟩, ?_⟩
        rw [data, DataDraft.payload, sameName, sameCode, sameDescription]
        rfl
  · exact fun draft other => data_function_congr

end DataDraft

/-- **Data of a kind are read exactly when the members describe them.** -/
theorem Kind.readData_iff {kind : Kind} {members : Members} {data : NodeData} :
    (∃ draft, (Value.object members).toContent.readRecord kind.dataRecord = .ok draft ∧
        draft.data kind = data) ↔ data.payload.kind = kind ∧ data.DescribedBy members := by
  simp only [readRecord_object]
  cases kind with
  | dataset => exact DataDraft.fill_dataset_iff
  | function => exact DataDraft.fill_function_iff

/-! ### Nodes -/

namespace Node

/-- The slot of the id. -/
def idSlot : Slot Content Problem Draft :=
  ⟨"id", true, Content.asText, Draft.id, fun text draft => { draft with id := some text }⟩

/-- The slot of the position. -/
def positionSlot : Slot Content Problem Draft :=
  ⟨"position", false, Position.ofContent, Draft.position,
    fun position draft => { draft with position := some position }⟩

/-- The slot of the data. -/
def dataSlot (kind : Kind) : Slot Content Problem Draft :=
  ⟨"data", true, fun content => content.readRecord kind.dataRecord, Draft.data,
    fun data draft => { draft with data := some data }⟩

/-- The slots of a node. -/
def slots (kind : Kind) : List (Slot Content Problem Draft) := [idSlot, positionSlot, dataSlot kind]

theorem record_madeOf (kind : Kind) : (record kind).MadeOf (slots kind) where
  fields := rfl
  names := by
    show ["id", "position", "data"].Nodup
    decide
  get_put := by simp [slots, idSlot, positionSlot, dataSlot]
  frame := by simp [slots, idSlot, positionSlot, dataSlot]
  empty := by simp [slots, idSlot, positionSlot, dataSlot, record]

/-- The node of a draft. -/
def Draft.node (kind : Kind) (draft : Draft) : Node :=
  let data := draft.data.getD {}
  ⟨draft.id.getD "", data.label.getD "", draft.position.getD {}, data.payload kind⟩

/-- The positions and the data of a node are objects. -/
structure Framed (members : Members) : Prop where
  position : ∀ value ∈ named "position" members, ∃ part, value = .object part
  data : ∀ value ∈ named "data" members, ∃ part, value = .object part

theorem fills_position_iff {members : Members} (framed : Framed members) {required : Bool}
    {found : Option Position} :
    Fills positionSlot.Reads required (named "position" (contents members)) found ↔
      Fills (SaysObject Position.DescribedBy) required (named "position" members) found := by
  refine fills_contents_iff fun value inside position => ?_
  obtain ⟨part, rfl⟩ := framed.position value inside
  have reads : positionSlot.Reads (Value.object part).toContent position ↔
      position.DescribedBy part := Position.ofContent_iff
  exact reads.trans saysObject_object_iff.symm

theorem fills_data_iff {kind : Kind} {members : Members} {required : Bool} {found : Option DataDraft} :
    Fills (dataSlot kind).Reads required (named "data" (contents members)) found ↔
      Fills (fun value draft => value.toContent.readRecord kind.dataRecord = .ok draft) required
        (named "data" members) found :=
  fills_contents_iff fun _ _ _ => Iff.rfl

section

variable {members : Members} {node : Node}

/-- What is filled in for the data of a node is described by the data's members. -/
theorem gives_data_of_fills {kind : Kind} {draft : Draft} (framed : Framed members)
    (fills : Fills (fun value data => value.toContent.readRecord kind.dataRecord = .ok data) true
      (named "data" members) draft.data) :
    Gives (SaysObject NodeData.DescribedBy) none (named "data" members) (draft.node kind).data := by
  have isObject := framed.data
  match named "data" members, fills, isObject with
  | [], fills, _ => cases fills.1
  | [value], ⟨data, isRead, held⟩, isObject =>
    obtain ⟨part, rfl⟩ := isObject value (List.mem_singleton_self value)
    have same : (draft.node kind).data = data.data kind := by
      rw [Draft.node, held]
      rfl
    rw [same]
    exact .value (.object (Kind.readData_iff.mp ⟨data, isRead, rfl⟩).2)

/-- Data that the members describe can be filled in. -/
theorem exists_fills_of_gives_data
    (gives : Gives (SaysObject NodeData.DescribedBy) none (named "data" members) node.data) :
    ∃ data : DataDraft,
      Fills (fun value data => value.toContent.readRecord node.kind.dataRecord = .ok data) true
        (named "data" members) (some data) ∧ data.data node.kind = node.data := by
  generalize named "data" members = values at gives
  cases gives with
  | default isDefault => cases isDefault
  | value said =>
    obtain ⟨described⟩ := said
    obtain ⟨data, isRead, same⟩ := Kind.readData_iff.mpr ⟨rfl, described⟩
    exact ⟨data, ⟨data, isRead, rfl⟩, same⟩

/-- **A node is filled in exactly when the members besides its type describe it.** -/
theorem fill_node_iff {kind : Kind} (framed : Framed members) :
    (∃ draft, fillContents (record kind) members = .ok draft ∧ draft.node kind = node) ↔
      node.kind = kind ∧ Gives SaysText none (named "id" members) node.id ∧
        Gives (SaysObject Position.DescribedBy) (some {}) (named "position" members) node.position ∧
        Gives (SaysObject NodeData.DescribedBy) none (named "data" members) node.data := by
  rw [fillContents, (record_madeOf kind).fill_finish_iff]
  · constructor
    · rintro ⟨draft, fills, rfl⟩
      have id : Fills idSlot.Reads true (named "id" (contents members)) draft.id :=
        fills idSlot (by simp [slots])
      have position : Fills positionSlot.Reads false (named "position" (contents members))
          draft.position := fills positionSlot (by simp [slots])
      have data : Fills (dataSlot kind).Reads true (named "data" (contents members)) draft.data :=
        fills (dataSlot kind) (by simp [slots])
      exact ⟨DataDraft.payload_kind _ kind, .of_fills_required (fills_text_iff.mp id),
        .of_fills ((fills_position_iff framed).mp position),
        gives_data_of_fills framed (fills_data_iff.mp data)⟩
    · rintro ⟨rfl, givesId, givesPosition, givesData⟩
      obtain ⟨position, fillsPosition, samePosition⟩ := givesPosition.exists_fills
      obtain ⟨data, fillsData, sameData⟩ := exists_fills_of_gives_data givesData
      have id : Fills idSlot.Reads true (named "id" (contents members)) (some node.id) :=
        fills_text_iff.mpr givesId.fills
      have fillsPosition : Fills positionSlot.Reads false (named "position" (contents members))
          position := (fills_position_iff framed).mpr fillsPosition
      have fillsData : Fills (dataSlot node.kind).Reads true (named "data" (contents members))
          (some data) := fills_data_iff.mpr fillsData
      refine ⟨⟨some node.id, position, some data⟩, by
        simpa [slots] using ⟨id, fillsPosition, fillsData⟩, ?_⟩
      have label : data.label.getD "" = node.label := congrArg NodeData.label sameData
      have payload : data.payload node.kind = node.payload := congrArg NodeData.payload sameData
      show Node.mk node.id (data.label.getD "") (position.getD {}) (data.payload node.kind) = node
      rw [label, samePosition, payload]
  · intro draft other same
    have id : draft.id = other.id := same idSlot (by simp [slots])
    have position : draft.position = other.position := same positionSlot (by simp [slots])
    have data : draft.data = other.data := same (dataSlot kind) (by simp [slots])
    rw [Draft.node, Draft.node, id, position, data]

/-- **A node is read exactly when the members besides its type describe it.** -/
theorem ofContent_iff {kind : Kind} (framed : Framed members) :
    ofContent kind (Value.object members).toContent = .ok node ↔
      node.kind = kind ∧ Gives SaysText none (named "id" members) node.id ∧
        Gives (SaysObject Position.DescribedBy) (some {}) (named "position" members) node.position ∧
        Gives (SaysObject NodeData.DescribedBy) none (named "data" members) node.data := by
  rw [ofContent, readRecord_object, map_eq_ok_iff]
  exact fill_node_iff framed

end

end Node

namespace Json

/-! ### The members of a node -/

/-- The members besides the type. -/
def besidesType (members : Members) : Members := members.filter fun member => member.1 ≠ "type"

theorem named_besidesType {name : String} (different : name ≠ "type") (members : Members) :
    named name (besidesType members) = named name members := by
  induction members with
  | nil => rfl
  | cons member rest ih =>
    obtain ⟨other, value⟩ := member
    by_cases isType : other = "type"
    · have dropped : besidesType ((other, value) :: rest) = besidesType rest := by
        simp [besidesType, isType]
      rw [dropped, ih, isType, named_cons_of_ne (Ne.symm different)]
    · have kept : besidesType ((other, value) :: rest) = (other, value) :: besidesType rest := by
        simp [besidesType, isType]
      rw [kept]
      by_cases same : other = name
      · rw [same, named_cons_self, named_cons_self, ih]
      · rw [named_cons_of_ne same, named_cons_of_ne same, ih]

theorem asText_iff {reading : Reading} {value : Value} (stands : reading.StandsFor value)
    (text : String) : reading.asText = .ok text ↔ SaysText value text := by
  cases stands.toSays with
  | @string quoted said read =>
    have reads : (Reading.string quoted).asText = .ok said := by
      rw [Reading.asText, read]
      rfl
    rw [reads]
    constructor
    · rintro ⟨⟩
      exact .text _
    · rintro ⟨⟩
      rfl
  | _ =>
    refine iff_of_false ?_ nofun
    unfold Reading.asText
    exact Reading.unexpected_ne_ok _ _ _

theorem ofName_iff {name : String} {kind : Kind} : Kind.ofName name = .ok kind ↔ name = kind.name := by
  constructor
  · intro named
    rw [Kind.ofName] at named
    split at named
    · cases named
      assumption
    · split at named
      · cases named
        assumption
      · cases named
  · rintro rfl
    exact Kind.ofName_name kind

theorem orShape_eq_ok_iff {α : Type} {result : Except Problem α} {a : α} :
    orShape result = .ok a ↔ result = .ok a := by
  cases result with
  | error problem => exact iff_of_false nofun nofun
  | ok found =>
    show Except.ok found = .ok a ↔ _
    rw [Except.ok.injEq, Except.ok.injEq]

theorem asKind_iff {reading : Reading} {value : Value} (stands : reading.StandsFor value)
    (kind : Kind) : reading.asKind = .ok kind ↔ SaysKind value kind := by
  cases stands.toSays with
  | @string quoted said read =>
    have reads : (Reading.string quoted).asKind = orShape (Kind.ofName said) := by
      rw [Reading.asKind, read]
      rfl
    rw [reads, orShape_eq_ok_iff, ofName_iff, saysKind_iff, Value.string.injEq]
  | _ =>
    refine iff_of_false ?_ nofun
    unfold Reading.asKind
    exact Reading.unexpected_ne_ok _ _ _

/-- **The type of a node**: the one that is known from the members before, or that of the only member
with this name. -/
def Tagged : Option Kind → List Value → Kind → Prop
  | none, under, kind => Gives SaysKind none under kind
  | some known, under, kind => under = [] ∧ known = kind

section

variable {key : Quoted} {reading : Reading} {name : String} {value : Value}
  {readings : List (Quoted × Reading)} {depth : Nat}

/-- The member that gives the type makes it known. -/
theorem readTagged_type (first : StandsForMember (key, reading) ("type", value)) (kind : Kind)
    (entries : List (Content × Content)) :
    readTagged depth none none ((key, reading) :: readings) = .ok (kind, entries) ↔
      ∃ found, SaysKind value found ∧
        readTagged depth none (some found) readings = .ok (kind, entries) := by
  rw [readTagged, first.key]
  show (reading.asKind).bind (fun found => readTagged depth none (some found) readings) = _ ↔ _
  refine bind_eq_ok_iff.trans (exists_congr fun found => and_congr_left' ?_)
  exact asKind_iff first.value found

/-- Another member is kept in front of those after it. -/
theorem readTagged_other (first : StandsForMember (key, reading) (name, value))
    (isOther : name ≠ "type") (shallow : value.depth ≤ depth) (known : Option Kind) (kind : Kind)
    (entries : List (Content × Content)) :
    readTagged depth none known ((key, reading) :: readings) = .ok (kind, entries) ↔
      ∃ rest, readTagged depth none known readings = .ok (kind, rest) ∧
        entries = (.text name, value.toContent) :: rest := by
  have content : reading.content depth = .ok value.toContent := first.value.content shallow
  rw [readTagged, first.key]
  show (if name = "type" then _ else (reading.content depth).bind fun content =>
    (readTagged depth none known readings).bind fun read =>
      .ok (read.1, (Content.text name, content) :: read.2)) = .ok (kind, entries) ↔ _
  rw [if_neg isOther, content]
  show (readTagged depth none known readings).bind _ = _ ↔ _
  refine bind_eq_ok_iff.trans ⟨?_, ?_⟩
  · rintro ⟨⟨found, rest⟩, others, ⟨⟩⟩
    exact ⟨rest, others, rfl⟩
  · rintro ⟨rest, others, rfl⟩
    exact ⟨(kind, rest), others, rfl⟩

end

/-- **The members of a node are read exactly when their type is given once**; the others are kept in
order. -/
theorem readTagged_iff {readings : List (Quoted × Reading)} {members : Members} {depth : Nat}
    (each : List.Forall₂ StandsForMember readings members) :
    membersDepth members ≤ depth → ∀ (known : Option Kind) (kind : Kind)
      (entries : List (Content × Content)),
      readTagged depth none known readings = .ok (kind, entries) ↔
        entries = membersToContent (besidesType members) ∧
          Tagged known (named "type" members) kind := by
  induction each with
  | nil =>
    intro _ known kind entries
    cases known with
    | none => exact iff_of_false nofun nofun
    | some known =>
      constructor
      · rintro ⟨⟩
        exact ⟨rfl, rfl, rfl⟩
      · rintro ⟨rfl, _, rfl⟩
        rfl
  | @cons reading member readings members first _ ih =>
    obtain ⟨key, reading⟩ := reading
    obtain ⟨name, value⟩ := member
    intro shallow known kind entries
    rw [membersDepth] at shallow
    have ih := ih (by omega)
    by_cases isType : name = "type"
    · subst isType
      have dropped : besidesType (("type", value) :: members) = besidesType members := by
        simp [besidesType]
      rw [named_cons_self, dropped]
      cases known with
      | some known =>
        rw [readTagged, first.key]
        exact iff_of_false nofun fun ⟨_, isNil, _⟩ => List.cons_ne_nil _ _ isNil
      | none =>
        rw [readTagged_type first, Tagged, gives_cons_iff]
        constructor
        · rintro ⟨found, said, others⟩
          obtain ⟨isEntries, noOther, rfl⟩ := (ih _ _ _).mp others
          exact ⟨isEntries, noOther, said⟩
        · rintro ⟨isEntries, noOther, said⟩
          exact ⟨kind, said, (ih _ _ _).mpr ⟨isEntries, noOther, rfl⟩⟩
    · have kept : besidesType ((name, value) :: members) = (name, value) :: besidesType members := by
        simp [besidesType, isType]
      rw [readTagged_other first isType (by omega), named_cons_of_ne isType, kept, membersToContent]
      constructor
      · rintro ⟨rest, others, rfl⟩
        obtain ⟨rfl, tagged⟩ := (ih known kind rest).mp others
        exact ⟨rfl, tagged⟩
      · rintro ⟨rfl, tagged⟩
        exact ⟨_, (ih known kind _).mpr ⟨rfl, tagged⟩, rfl⟩

/-! ### Arrays, nodes and edges -/

theorem membersDepth_of_named {name : String} {members : Members} {value : Value}
    (inside : value ∈ named name members) : value.depth ≤ membersDepth members := by
  induction members with
  | nil => cases inside
  | cons member rest ih =>
    obtain ⟨other, first⟩ := member
    rw [membersDepth]
    by_cases same : other = name
    · rw [same, named_cons_self, List.mem_cons] at inside
      rcases inside with rfl | later
      · exact Nat.le_max_left _ _
      · exact Nat.le_trans (ih later) (Nat.le_max_right _ _)
    · rw [named_cons_of_ne same] at inside
      exact Nat.le_trans (ih inside) (Nat.le_max_right _ _)

theorem itemsDepth_of_mem {items : List Value} {item : Value} (inside : item ∈ items) :
    item.depth ≤ itemsDepth items := by
  induction items with
  | nil => cases inside
  | cons first rest ih =>
    rw [itemsDepth]
    rw [List.mem_cons] at inside
    rcases inside with rfl | later
    · exact Nat.le_max_left _ _
    · exact Nat.le_trans (ih later) (Nat.le_max_right _ _)

/-- The items of an array are read one by one exactly when each says what is read from it. -/
theorem readEach_iff {α : Type} {each : Site → Except Error α} {Says : Value → α → Prop} {depth : Nat}
    {readings : List Reading} {items : List Value}
    (stand : List.Forall₂ Reading.StandsFor readings items)
    (inside : ∀ item ∈ items, ∀ site : Site, site.StandsFor depth item →
      ∀ a, each site = .ok a ↔ Says item a) (as : List α) :
    readEach each depth none readings = .ok as ↔ List.Forall₂ Says items as := by
  induction stand generalizing as with
  | nil =>
    rw [List.forall₂_nil_left_iff]
    constructor
    · rintro ⟨⟩
      rfl
    · rintro rfl
      rfl
  | @cons reading item readings items first _ ih =>
    rw [List.forall_mem_cons] at inside
    have own := inside.1 ⟨depth, reading⟩ ⟨rfl, first⟩
    rw [readEach, bind_eq_ok_iff, List.forall₂_cons_left_iff]
    constructor
    · rintro ⟨a, isRead, others⟩
      obtain ⟨rest, readOthers, ⟨⟩⟩ := bind_eq_ok_iff.mp others
      exact ⟨a, rest, (own a).mp isRead, (ih inside.2 rest).mp readOthers, rfl⟩
    · rintro ⟨a, rest, said, saidOthers, rfl⟩
      exact ⟨a, (own a).mpr said, bind_eq_ok_iff.mpr ⟨rest, (ih inside.2 rest).mpr saidOthers, rfl⟩⟩

/-- **An array is read exactly when its items say what is read from them.** -/
theorem Site.StandsFor.readSequence_iff {α : Type} {each : Site → Except Error α}
    {Says : Value → α → Prop} {depth : Nat} {site : Site} {value : Value}
    (stands : site.StandsFor (depth + 1) value)
    (inside : ∀ items, value = .array items → ∀ item ∈ items, ∀ site : Site,
      site.StandsFor depth item → ∀ a, each site = .ok a ↔ Says item a) (as : List α) :
    site.readSequence each = .ok as ↔ SaysArray Says value as := by
  obtain ⟨siteDepth, reading⟩ := site
  obtain ⟨rfl, stands⟩ := stands
  cases stands.toSays with
  | @array readings items stand =>
    show readEach each depth none readings = .ok as ↔ _
    rw [readEach_iff stand (inside items rfl)]
    constructor
    · exact .array
    · rintro ⟨related⟩
      exact related
  | _ =>
    refine iff_of_false ?_ nofun
    unfold Site.readSequence
    exact Reading.unexpected_ne_ok _ _ _

/-- **A node is read exactly when the members describe it.** -/
theorem Site.StandsFor.readNode_iff {depth : Nat} {site : Site} {members : Members}
    (stands : site.StandsFor (depth + 1) (.object members)) (shallow : membersDepth members ≤ depth)
    (framed : Node.Framed members) (node : Node) :
    site.readNode = .ok node ↔ node.DescribedBy members := by
  obtain ⟨siteDepth, reading⟩ := site
  obtain ⟨rfl, stands⟩ := stands
  have others : ∀ {name : String}, name ≠ "type" →
      named name (besidesType members) = named name members :=
    fun different => named_besidesType different members
  have framedOthers : Node.Framed (besidesType members) := by
    constructor
    · rw [others (by decide)]
      exact framed.position
    · rw [others (by decide)]
      exact framed.data
  cases stands.toSays with
  | @object readings _ each =>
    have tagged := readTagged_iff each shallow none
    have inside : ∀ kind, Node.ofContent kind (.map (membersToContent (besidesType members))) =
        .ok node ↔ _ := fun kind => Node.ofContent_iff framedOthers
    simp only [others (show "id" ≠ "type" by decide), others (show "position" ≠ "type" by decide),
      others (show "data" ≠ "type" by decide)] at inside
    rw [Node.describedBy_iff]
    show (readTagged depth none none readings).bind
      (fun read => orShape (Node.ofContent read.1 (.map read.2))) = .ok node ↔ _
    refine bind_eq_ok_iff.trans ⟨?_, ?_⟩
    · rintro ⟨⟨kind, entries⟩, isTagged, others⟩
      obtain ⟨rfl, isKind⟩ := (tagged kind entries).mp isTagged
      obtain ⟨rfl, described⟩ := (inside kind).mp (orShape_eq_ok_iff.mp others)
      exact ⟨isKind, described⟩
    · rintro ⟨isKind, described⟩
      refine ⟨(node.kind, _), (tagged node.kind _).mpr ⟨rfl, isKind⟩, ?_⟩
      exact orShape_eq_ok_iff.mpr ((inside node.kind).mpr ⟨rfl, described⟩)

/-! ### Edges -/

/-- The fields of an edge. -/
def edgeRecord : Record Site (Except Error) Edge.Draft := Edge.record fun site => site.reading.asText

/-- The slot of the id of an edge. -/
def edgeIdSlot : Slot Site Error Edge.Draft :=
  ⟨"id", true, fun site => site.reading.asText, Edge.Draft.id,
    fun text draft => { draft with id := some text }⟩

/-- The slot of the source. -/
def sourceSlot : Slot Site Error Edge.Draft :=
  ⟨"source", true, fun site => site.reading.asText, Edge.Draft.source,
    fun text draft => { draft with source := some text }⟩

/-- The slot of the target. -/
def targetSlot : Slot Site Error Edge.Draft :=
  ⟨"target", true, fun site => site.reading.asText, Edge.Draft.target,
    fun text draft => { draft with target := some text }⟩

/-- The slots of an edge. -/
def edgeSlots : List (Slot Site Error Edge.Draft) := [edgeIdSlot, sourceSlot, targetSlot]

theorem edge_madeOf : edgeRecord.MadeOf edgeSlots where
  fields := rfl
  names := by decide
  get_put := by simp [edgeSlots, edgeIdSlot, sourceSlot, targetSlot]
  frame := by simp [edgeSlots, edgeIdSlot, sourceSlot, targetSlot]
  empty := by simp [edgeSlots, edgeIdSlot, sourceSlot, targetSlot, edgeRecord, Edge.record]

/-- An edge looks at the slots of an edge. -/
theorem edge_congr {draft other : Edge.Draft}
    (same : ∀ slot ∈ edgeSlots, slot.get draft = slot.get other) : draft.edge = other.edge := by
  have id : draft.id = other.id := same edgeIdSlot (by simp [edgeSlots])
  have source : draft.source = other.source := same sourceSlot (by simp [edgeSlots])
  have target : draft.target = other.target := same targetSlot (by simp [edgeSlots])
  rw [Edge.Draft.edge, Edge.Draft.edge, id, source, target]

/-- **An edge is read exactly when the members describe it.** -/
theorem Site.StandsFor.readEdge_iff {depth : Nat} {site : Site} {members : Members}
    (stands : site.StandsFor (depth + 1) (.object members)) (edge : Edge) :
    site.readEdge = .ok edge ↔ edge.DescribedBy members := by
  obtain ⟨values, related, reads⟩ := stands.readRecord edgeRecord
  have texts : ∀ {name : String} {found : Option String},
      Fills (fun (site : Site) text => site.reading.asText = .ok text) true (named name values) found ↔
        Fills SaysText true (named name members) found := fun {_ _} =>
    fills_named_congr related fun _ _ _ isStanding => asText_iff isStanding.reading
  show (site.readRecord edgeRecord).map Edge.Draft.edge = .ok edge ↔ _
  rw [reads, map_eq_ok_iff, edge_madeOf.fill_finish_iff fun draft other => edge_congr]
  constructor
  · rintro ⟨draft, fills, rfl⟩
    have id : Fills edgeIdSlot.Reads true (named "id" values) draft.id :=
      fills edgeIdSlot (by simp [edgeSlots])
    have source : Fills sourceSlot.Reads true (named "source" values) draft.source :=
      fills sourceSlot (by simp [edgeSlots])
    have target : Fills targetSlot.Reads true (named "target" values) draft.target :=
      fills targetSlot (by simp [edgeSlots])
    exact ⟨.of_fills_required (texts.mp id), .of_fills_required (texts.mp source),
      .of_fills_required (texts.mp target)⟩
  · intro described
    have id : Fills edgeIdSlot.Reads true (named "id" values) (some edge.id) :=
      texts.mpr described.id.fills
    have source : Fills sourceSlot.Reads true (named "source" values) (some edge.source) :=
      texts.mpr described.source.fills
    have target : Fills targetSlot.Reads true (named "target" values) (some edge.target) :=
      texts.mpr described.target.fills
    exact ⟨⟨some edge.id, some edge.source, some edge.target⟩, by
      simpa [edgeSlots] using ⟨id, source, target⟩, rfl⟩

/-! ### Graphs -/

/-- The fields of a graph. -/
def graphRecord : Record Site (Except Error) Graph.Draft :=
  Graph.record (Site.readSequence Site.readNode) (Site.readSequence Site.readEdge)

/-- The slot of the nodes. -/
def nodesSlot : Slot Site Error Graph.Draft :=
  ⟨"nodes", false, Site.readSequence Site.readNode, Graph.Draft.nodes,
    fun nodes draft => { draft with nodes := some nodes }⟩

/-- The slot of the edges. -/
def edgesSlot : Slot Site Error Graph.Draft :=
  ⟨"edges", false, Site.readSequence Site.readEdge, Graph.Draft.edges,
    fun edges draft => { draft with edges := some edges }⟩

theorem graph_madeOf : graphRecord.MadeOf [nodesSlot, edgesSlot] where
  fields := rfl
  names := by decide
  get_put := by simp [nodesSlot, edgesSlot]
  frame := by simp [nodesSlot, edgesSlot]
  empty := by simp [nodesSlot, edgesSlot, graphRecord, Graph.record]

/-- A graph looks at the slots of a graph. -/
theorem graph_congr {draft other : Graph.Draft}
    (same : ∀ slot ∈ [nodesSlot, edgesSlot], slot.get draft = slot.get other) :
    draft.graph = other.graph := by
  have nodes : draft.nodes = other.nodes := same nodesSlot (by simp)
  have edges : draft.edges = other.edges := same edgesSlot (by simp)
  rw [Graph.Draft.graph, Graph.Draft.graph, nodes, edges]

end Json

/-- The nodes and the edges of a graph are objects, and so is what is in the nodes. -/
structure Graph.Framed (members : Members) : Prop where
  nodes : ∀ items, .array items ∈ named "nodes" members →
    ∀ item ∈ items, ∃ part, item = .object part ∧ Node.Framed part
  edges : ∀ items, .array items ∈ named "edges" members → ∀ item ∈ items, ∃ part, item = .object part

namespace Json

/-- **A graph is read exactly when the members describe it.** -/
theorem Site.StandsFor.readGraph_iff {depth : Nat} {site : Site} {members : Members}
    (stands : site.StandsFor (depth + 3) (.object members)) (shallow : membersDepth members ≤ depth + 2)
    (framed : Graph.Framed members) (graph : Graph) :
    site.readGraph = .ok graph ↔ graph.DescribedBy members := by
  obtain ⟨values, related, reads⟩ := stands.readRecord graphRecord
  have nodeLists : ∀ {found : Option (List Node)},
      Fills nodesSlot.Reads false (named "nodes" values) found ↔
        Fills (SaysArray (SaysObject Node.DescribedBy)) false (named "nodes" members) found := by
    refine fills_named_congr related fun value inside site isStanding nodes =>
      isStanding.readSequence_iff ?_ nodes
    rintro items rfl item isItem site isStanding node
    obtain ⟨part, rfl, framedPart⟩ := framed.nodes items inside item isItem
    have shallowPart : membersDepth part ≤ depth := by
      have first := membersDepth_of_named inside
      have second := itemsDepth_of_mem isItem
      simp only [Value.depth] at first second
      omega
    rw [isStanding.readNode_iff shallowPart framedPart, saysObject_object_iff]
  have edgeLists : ∀ {found : Option (List Edge)},
      Fills edgesSlot.Reads false (named "edges" values) found ↔
        Fills (SaysArray (SaysObject Edge.DescribedBy)) false (named "edges" members) found := by
    refine fills_named_congr related fun value inside site isStanding edges =>
      isStanding.readSequence_iff ?_ edges
    rintro items rfl item isItem site isStanding edge
    obtain ⟨part, rfl⟩ := framed.edges items inside item isItem
    rw [isStanding.readEdge_iff, saysObject_object_iff]
  show (site.readRecord graphRecord).map Graph.Draft.graph = .ok graph ↔ _
  rw [reads, map_eq_ok_iff, graph_madeOf.fill_finish_iff fun draft other => graph_congr]
  constructor
  · rintro ⟨draft, fills, rfl⟩
    have nodes : Fills nodesSlot.Reads false (named "nodes" values) draft.nodes :=
      fills nodesSlot (by simp)
    have edges : Fills edgesSlot.Reads false (named "edges" values) draft.edges :=
      fills edgesSlot (by simp)
    exact ⟨.of_fills (nodeLists.mp nodes), .of_fills (edgeLists.mp edges)⟩
  · intro described
    obtain ⟨nodes, fillsNodes, sameNodes⟩ := described.nodes.exists_fills
    obtain ⟨edges, fillsEdges, sameEdges⟩ := described.edges.exists_fills
    refine ⟨⟨nodes, edges⟩, by simpa using ⟨nodeLists.mpr fillsNodes, edgeLists.mpr fillsEdges⟩, ?_⟩
    rw [Graph.Draft.graph, sameNodes, sameEdges]

end Json

/-- **A text that spells members is read as a graph exactly when they describe it.** -/
theorem Graph.ofJson_iff {members : Members} {text : String}
    (spelled : (Value.object members).SpelledBy text)
    (shallow : (Value.object members).depth ≤ maxDepth) (framed : Graph.Framed members)
    (graph : Graph) : ofJson text = .ok graph ↔ graph.DescribedBy members := by
  obtain ⟨reading, read, stands⟩ := spelled.read
  have inside : membersDepth members ≤ 124 + 2 := by
    rw [maxDepth] at shallow
    simp only [Value.depth] at shallow
    omega
  have standing : Site.StandsFor (124 + 3) ⟨maxDepth, reading⟩ (.object members) := ⟨rfl, stands⟩
  rw [← standing.readGraph_iff inside framed, ofJson, read, Document.readWith]
  cases Site.readGraph ⟨maxDepth, reading⟩ with
  | error error => exact Iff.rfl
  | ok found => exact Iff.rfl

end PipelineGraph
