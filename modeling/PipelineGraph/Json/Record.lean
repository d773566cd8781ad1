/-
**Shapes read from JSON.**

A JSON text is read and understood in one pass: of the faults of the text and the problems of its shape
the first one met decides. At most 127 arrays and objects may be open around a value that is wanted;
values that nobody wants may be nested at will.
-/

import PipelineGraph.Json.Reading
import PipelineGraph.Shape.Content

namespace PipelineGraph.Json

open Shape

/-- Why a JSON text is not read: it is not JSON, or not of the shape that is wanted. -/
inductive Error
  | fault (fault : Fault)
  | shape (problem : Problem)

/-- The words of messages about JSON. -/
def wording : Wording := ⟨"null", Decimal.json⟩

/-- The number of arrays and objects that may be open at once. -/
def maxDepth : Nat := 127

/-- A value with the number of arrays and objects that may still be opened. -/
structure Site where
  depth : Nat
  reading : Reading

/-- A fault, or a result that is no error. -/
def orFault {α : Type} : Except Fault α → Except Error α
  | .ok value => .ok value
  | .error fault => .error (.fault fault)

/-- A problem of shape, or a result that is no error. -/
def orShape {α : Type} : Except Problem α → Except Error α
  | .ok value => .ok value
  | .error problem => .error (.shape problem)

/-- The fault that a list stops at, or else a result. -/
def orStop {α : Type} (stop : Option Fault) (result : Except Error α) : Except Error α :=
  match stop with
  | some fault => .error (.fault fault)
  | none => result

/-- Opens an array or an object: the depth inside it. -/
def openDepth (depth : Nat) : Except Error Nat :=
  match depth with
  | 0 => .error (.fault .malformed)
  | depth + 1 => .ok depth

/-- What a message calls a number. -/
def Number.found : Number → Found
  | .natural value => .integer value
  | .negative magnitude => .integer (-(magnitude : Int))
  | .float value => .float value

/-- What a message calls a value. -/
def Reading.found : Reading → Except Fault Found
  | .null => .ok .nothing
  | .bool value => .ok (.bool value)
  | .number numeral =>
    match numeral.number? with
    | some read => .ok read.found
    | none => .error .malformed
  | .brokenNumber cause => .error cause
  | .string value => value.text.map .text
  | .array _ _ => .ok .sequence
  | .object _ _ => .ok .map
  | .fault cause => .error cause

/-- The error of a value where something else was expected. -/
def Reading.unexpected {α : Type} (reading : Reading) (expected : String) : Except Error α :=
  match reading.found with
  | .ok found => .error (.shape (.invalidType found expected))
  | .error cause => .error (.fault cause)

/-- A text. -/
def Reading.asText : Reading → Except Error String
  | .string value => orFault value.text
  | reading => reading.unexpected "a string"

/-- Passes over a value that nobody wants. -/
def Reading.ignore (reading : Reading) : Except Error Unit :=
  match reading.fault? with
  | some cause => .error (.fault cause)
  | none => .ok ()

/-! ### Content -/

/-- The content of a number. -/
def Number.content : Number → Content
  | .natural value => .integer value
  | .negative magnitude => .integer (-(magnitude : Int))
  | .float value => .float value

mutual

/-- The content of a value. -/
def Reading.content (depth : Nat) : Reading → Except Error Content
  | .null => .ok .nothing
  | .bool value => .ok (.bool value)
  | .number numeral =>
    match numeral.number? with
    | some read => .ok read.content
    | none => .error (.fault .malformed)
  | .brokenNumber cause => .error (.fault cause)
  | .string value => orFault (value.text.map .text)
  | .array items stop => do
    let depth ← openDepth depth
    return .sequence (← itemsContent depth stop items)
  | .object members stop => do
    let depth ← openDepth depth
    return .map (← membersContent depth stop members)
  | .fault cause => .error (.fault cause)

/-- The contents of items. -/
def itemsContent (depth : Nat) (stop : Option Fault) : List Reading → Except Error (List Content)
  | [] => orStop stop (.ok [])
  | item :: rest => do
    let item ← item.content depth
    let rest ← itemsContent depth stop rest
    return item :: rest

/-- The contents of members. -/
def membersContent (depth : Nat) (stop : Option Fault) :
    List (Quoted × Reading) → Except Error (List (Content × Content))
  | [] => orStop stop (.ok [])
  | (key, value) :: rest => do
    let key ← orFault key.text
    let value ← value.content depth
    let rest ← membersContent depth stop rest
    return (.text key, value) :: rest

end

/-! ### Sequences and records -/

/-- Reads the items of an array, one after the other. -/
def readEach {α : Type} (each : Site → Except Error α) (depth : Nat) (stop : Option Fault) :
    List Reading → Except Error (List α)
  | [] => orStop stop (.ok [])
  | item :: rest => do
    let item ← each ⟨depth, item⟩
    let rest ← readEach each depth stop rest
    return item :: rest

/-- Reads an array. -/
def Site.readSequence {α : Type} (each : Site → Except Error α) (site : Site) :
    Except Error (List α) :=
  match site.reading with
  | .array items stop => do readEach each (← openDepth site.depth) stop items
  | reading => reading.unexpected "a sequence"

variable {σ : Type}

/-- Puts the members of an object into the draft, one after the other. -/
def readMembersInto (record : Record Site (Except Error) σ) (depth : Nat) (stop : Option Fault) (draft : σ) :
    List (Quoted × Reading) → Except Error σ
  | [] => orStop stop (orShape (record.complete draft))
  | (key, value) :: rest => do
    match record.fieldNamed? (← orFault key.text) with
    | none =>
      value.ignore
      readMembersInto record depth stop draft rest
    | some field =>
      if field.isSet draft then throw (.shape (.duplicateField field.name))
      else readMembersInto record depth stop (← field.set ⟨depth, value⟩ draft) rest

/-- Puts the items of an array into the draft, one for each field; `index` counts them. -/
def readItemsInto (record : Record Site (Except Error) σ) (depth : Nat) (stop : Option Fault) (index : Nat)
    (draft : σ) : List (Field Site (Except Error) σ) → List Reading → Except Error σ
  | [], [] => orStop stop (.ok draft)
  | [], _ :: _ => .error (.fault .malformed)
  | field :: fields, [] =>
    if field.required then orStop stop (.error (.shape (record.tooShort index)))
    else do
      orStop stop (.ok ())
      readItemsInto record depth stop (index + 1) draft fields []
  | field :: fields, item :: rest => do
    readItemsInto record depth stop (index + 1) (← field.set ⟨depth, item⟩ draft) fields rest

/-- Reads a record. -/
def Site.readRecord (record : Record Site (Except Error) σ) (site : Site) : Except Error σ :=
  match site.reading with
  | .object members stop => do
    readMembersInto record (← openDepth site.depth) stop record.draft members
  | .array items stop => do
    readItemsInto record (← openDepth site.depth) stop 0 record.draft record.fields items
  | reading => reading.unexpected record.title

/-- Reads a whole text. -/
def Document.readWith {α : Type} (document : Document) (root : Site → Except Error α) :
    Except Error α := do
  let value ← root ⟨maxDepth, document.root⟩
  if document.trailing then throw (.fault .malformed) else return value

end PipelineGraph.Json
