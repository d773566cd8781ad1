/-
**Records with named fields.**

A record is read field by field into a draft, in the order in which the input has them. A field may
occur once; a field that is required has to occur. `fieldNamed?` finds a field by its name and
`missing?` the first required field that a draft lacks.
-/

import PipelineGraph.Shape.Problem

namespace PipelineGraph.Shape

/-- A field of a record: `ν` is what its value is read from, `m` how it is read, and `σ` the draft that
it is put into. -/
structure Field (ν : Type) (m : Type → Type) (σ : Type) where
  name : String
  required : Bool
  isSet : σ → Bool
  set : ν → σ → m σ

/-- A record: what messages call it, its fields in order, and the draft without any field. -/
structure Record (ν : Type) (m : Type → Type) (σ : Type) where
  title : String
  fields : List (Field ν m σ)
  draft : σ

variable {ν : Type} {m : Type → Type} {σ : Type}

namespace Record

/-- The field with a name. -/
def fieldNamed? (record : Record ν m σ) (name : String) : Option (Field ν m σ) :=
  record.fields.find? fun field => field.name = name

/-- The field at a place in the order. -/
def fieldAt? (record : Record ν m σ) (index : Nat) : Option (Field ν m σ) := record.fields[index]?

/-- The first required field that the draft lacks. -/
def missing? (record : Record ν m σ) (draft : σ) : Option String :=
  (record.fields.find? fun field => field.required && !field.isSet draft).map Field.name

/-- The draft, if it lacks no required field. -/
def complete (record : Record ν m σ) (draft : σ) : Except Problem σ :=
  match record.missing? draft with
  | some name => .error (.missingField name)
  | none => .ok draft

/-- The problem of a list that is too short. -/
def tooShort (record : Record ν m σ) (length : Nat) : Problem :=
  .invalidLength length (record.title ++ " with " ++ elements record.fields.length)

end Record

end PipelineGraph.Shape
