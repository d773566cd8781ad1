/-
**Content: a value of an input format, kept for later.**

A node of the graph is read whole before its fields are looked at, because its type may come last. Both
formats are read into the same content. A record is read from content either as a map, with its fields
by name or by their place in the order, or as a sequence, with its fields in order.
-/

import PipelineGraph.Shape.Record

namespace PipelineGraph.Shape

/-- A value of either input format. -/
inductive Content
  | nothing
  | bool (value : Bool)
  | integer (value : Int)
  | float (value : Float)
  | text (value : String)
  | sequence (items : List Content)
  | map (entries : List (Content × Content))
  deriving Inhabited

namespace Content

/-- What a message calls the value. -/
def found : Content → Found
  | .nothing => .nothing
  | .bool value => .bool value
  | .integer value => .integer value
  | .float value => .float value
  | .text value => .text value
  | .sequence _ => .sequence
  | .map _ => .map

/-- A text. -/
def asText : Content → Except Problem String
  | .text value => .ok value
  | content => .error (.invalidType content.found "a string")

/-- A text, or nothing. -/
def asOptionalText : Content → Except Problem (Option String)
  | .nothing => .ok none
  | content => content.asText.map some

/-- A number, as a float. -/
def asFloat : Content → Except Problem Float
  | .float value => .ok value
  | .integer value => .ok (Float.ofInt value)
  | content => .error (.invalidType content.found "f64")

variable {σ : Type}

/-- The field that a key stands for, if it stands for one of the record's. -/
def fieldOf (record : Record Content (Except Problem) σ) :
    Content → Except Problem (Option (Field Content (Except Problem) σ))
  | .text name => .ok (record.fieldNamed? name)
  | .integer index =>
    if index < 0 then .error (.invalidType (.integer index) "field identifier")
    else .ok (record.fieldAt? index.toNat)
  | key => .error (.invalidType key.found "field identifier")

/-- Puts the entries of a map into the draft, one after the other. -/
def readEntries (record : Record Content (Except Problem) σ) (draft : σ) :
    List (Content × Content) → Except Problem σ
  | [] => record.complete draft
  | (key, value) :: rest => do
    match ← fieldOf record key with
    | none => readEntries record draft rest
    | some field =>
      if field.isSet draft then throw (.duplicateField field.name)
      else readEntries record (← field.set value draft) rest

/-- Puts the items of a sequence into the draft, one for each field; `index` counts them. -/
def readItems (record : Record Content (Except Problem) σ) (index : Nat) (draft : σ) :
    List (Field Content (Except Problem) σ) → List Content → Except Problem σ
  | [], [] => .ok draft
  | [], rest =>
    .error (.invalidLength (index + rest.length) (elements index ++ " in sequence"))
  | field :: fields, [] =>
    if field.required then .error (record.tooShort index)
    else readItems record (index + 1) draft fields []
  | field :: fields, item :: rest => do
    readItems record (index + 1) (← field.set item draft) fields rest

/-- Reads a record. -/
def readRecord (record : Record Content (Except Problem) σ) : Content → Except Problem σ
  | .map entries => readEntries record record.draft entries
  | .sequence items => readItems record 0 record.draft record.fields items
  | content => .error (.invalidType content.found record.title)

end Content

end PipelineGraph.Shape
