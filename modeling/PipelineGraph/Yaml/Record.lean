/-
**Shapes read from YAML.**

Only a text that is well-formed as a whole is read. Values are read from left to right, aliases as the
values that they stand for; values that nobody wants are passed over. At most 128 collections may be
open around a value that is wanted, and aliases may be followed a hundred times for every event of the
document.

Texts are read as they are written. What a scalar means matters only in content and in messages: a
plain scalar means what it spells, unless a standard tag says what it has to be.
-/

import PipelineGraph.Shape.Content
import PipelineGraph.Yaml.Document
import PipelineGraph.Yaml.Place

namespace PipelineGraph.Yaml

open Shape

/-- Why a YAML text is not read. -/
inductive Error
  | malformed
  | tooDeep
  | tooManyAliases
  | shape (place : Place) (problem : Problem)

/-- The words of messages about YAML. -/
def wording : Wording := ⟨"unit value", Decimal.plain⟩

/-- The number of collections that may be open at once. -/
def maxDepth : Nat := 128

/-- The number of times that aliases may be followed for every event. -/
def aliasesPerEvent : Nat := 100

/-- Reading, with the number of times that aliases may still be followed. -/
abbrev Decoder := StateT Nat (Except Error)

/-- An occurrence with its place in a document and the number of collections that may still be
opened. -/
structure Site where
  document : Document
  depth : Nat
  place : Place
  occurrence : Occurrence

/-! ### Scalars -/

namespace Scalar

/-- A tag with a standard meaning. -/
def standardTag (name : String) : String := "tag:yaml.org,2002:" ++ name

/-- The tag is one of the document's own. -/
def isOwnTag (tag : Option String) : Bool := tag.any fun tag => tag.toList.head? = some '!'

/-- What an integer is called; one that fits in 64 bits, with a sign or without, is an ordinary one. -/
def integerFound (value : Int) : Found :=
  if -0x8000000000000000 ≤ value && value ≤ 0xFFFFFFFFFFFFFFFF then .integer value else .wide value

/-- What a plain scalar means. -/
def plainFound (text : String) : Found :=
  match Meaning.ofPlain text with
  | .nothing => .nothing
  | .bool value => .bool value
  | .integer value => integerFound value
  | .float value => .float value
  | .text => .text text

/-- A meaning that a tag asks for. -/
def demanded (text expected : String) (meaning : Option Found) : Except Problem Found :=
  match meaning with
  | some found => .ok found
  | none => .error (.invalidValue (.text text) expected)

/-- What a scalar means. -/
def found (scalar : Scalar) : Except Problem Found :=
  let text := scalar.text
  match scalar.tag with
  | none => .ok (if scalar.plain then plainFound text else .text text)
  | some tag =>
    if tag = standardTag "bool" then demanded text "a boolean" ((bool? text).map .bool)
    else if tag = standardTag "int" then
      demanded text "an integer" ((integer? text.toList).map integerFound)
    else if tag = standardTag "float" then
      demanded text "a float" ((float? text.toList).map .float)
    else if tag = standardTag "null" then
      demanded text "null" (if nulls.contains text then some .nothing else none)
    else .ok (if scalar.plain && isOwnTag (some tag) then plainFound text else .text text)

/-- Nothing is written here at all. -/
def isAbsent (scalar : Scalar) : Bool := scalar.plain && scalar.text.isEmpty

end Scalar

/-! ### Sites -/

namespace Site

variable {α : Type}

/-- Stops at a problem. -/
def refuse (site : Site) (problem : Problem) : Decoder α := throw (.shape site.place problem)

/-- A result or a problem. -/
def orRefuse (site : Site) : Except Problem α → Decoder α
  | .ok value => return value
  | .error problem => site.refuse problem

/-- The value that stands here; an alias is followed. -/
def value (site : Site) : Decoder Value :=
  match site.occurrence with
  | .value _ value => return value
  | .alias anchor => do
    match ← get, site.document.anchor? anchor with
    | 0, _ => throw .tooManyAliases
    | _ + 1, none => throw .malformed
    | left + 1, some value =>
      set left
      return value

/-- Opens a collection. -/
def enter (site : Site) : Decoder Site :=
  match site.depth with
  | 0 => throw .tooDeep
  | depth + 1 => return { site with depth := depth }

/-- The sites of items. -/
def items (site : Site) (items : List Occurrence) : List Site :=
  items.mapIdx fun index item =>
    { site with place := .index site.place index, occurrence := item }

/-- The place of the value after a key. -/
def placeUnder (site : Site) : Occurrence → Place
  | .value _ (.scalar scalar) => .key site.place scalar.text
  | _ => .unnamed site.place

/-- The sites of entries. A key stands where its mapping stands. -/
def entries (site : Site) (entries : List (Occurrence × Occurrence)) : List (Site × Site) :=
  entries.map fun (key, value) =>
    ({ site with occurrence := key },
      { site with place := site.placeUnder key, occurrence := value })

/-- Stops at a value where something else was expected. -/
def unexpected (site : Site) (expected : String) : Value → Decoder α
  | .scalar scalar => do
    let found ← site.orRefuse scalar.found
    site.refuse (.invalidType found expected)
  | .sequence _ _ => site.refuse (.invalidType .sequence expected)
  | .mapping _ _ => site.refuse (.invalidType .map expected)

/-- The text of a scalar, as it is written. -/
def readText (expected : String) (site : Site) : Decoder String := do
  match ← site.value with
  | .scalar scalar => return scalar.text
  | value => site.unexpected expected value

/-- A text that is wanted as such. -/
def asText (site : Site) : Decoder String := site.readText "a string"

/-! ### Content -/

/-- The content of a meaning. -/
def foundContent (site : Site) (expected : String) : Found → Decoder Content
  | .nothing => return .nothing
  | .bool value => return .bool value
  | .integer value => return .integer value
  | .float value => return .float value
  | .text value => return .text value
  | found => site.refuse (.invalidType found expected)

/-- The content of a value, which is refused if it has a tag of its own; `inside` reads what stands in
a collection. -/
def contentWith (ownTag : Problem) (expected : String) (inside : Site → Decoder Content)
    (site : Site) : Decoder Content := do
  match ← site.value with
  | .scalar scalar =>
    if Scalar.isOwnTag scalar.tag then site.refuse ownTag
    else site.foundContent expected (← site.orRefuse scalar.found)
  | .sequence tag items =>
    if Scalar.isOwnTag tag then site.refuse ownTag
    else return .sequence (← ((← site.enter).items items).mapM inside)
  | .mapping tag entries =>
    if Scalar.isOwnTag tag then site.refuse ownTag
    else
      let entries ← ((← site.enter).entries entries).mapM fun (key, value) => do
        return (← inside key, ← inside value)
      return .map entries

/-- The content of a value with at most a number of collections in each other. -/
def contentWithin : Nat → Site → Decoder Content
  | 0 => contentWith .taggedContent "any value" fun _ => throw .tooDeep
  | depth + 1 => contentWith .taggedContent "any value" (contentWithin depth)

/-- The content of a value. -/
def content (site : Site) : Decoder Content := contentWithin site.depth site

/-! ### Sequences and records -/

/-- Reads a sequence. One that is left out has no items. -/
def readSequence (each : Site → Decoder α) (site : Site) : Decoder (List α) := do
  match ← site.value with
  | .sequence _ items => ((← site.enter).items items).mapM each
  | .scalar scalar =>
    if scalar.isAbsent then return []
    else site.unexpected "a sequence" (.scalar scalar)
  | value => site.unexpected "a sequence" value

variable {σ : Type}

/-- Puts the entries of a mapping into the draft, one after the other. -/
def readEntries (record : Record Site Decoder σ) (site : Site) (draft : σ) :
    List (Site × Site) → Decoder σ
  | [] => site.orRefuse (record.complete draft)
  | (key, value) :: rest => do
    match record.fieldNamed? (← key.readText "field identifier") with
    | none => readEntries record site draft rest
    | some field =>
      if field.isSet draft then site.refuse (.duplicateField field.name)
      else readEntries record site (← field.set value draft) rest

/-- Reads a record. One that is left out has no fields. -/
def readRecord (record : Record Site Decoder σ) (site : Site) : Decoder σ := do
  match ← site.value with
  | .mapping _ entries =>
    readEntries record site record.draft ((← site.enter).entries entries)
  | .scalar scalar =>
    if scalar.isAbsent then site.orRefuse (record.complete record.draft)
    else site.unexpected record.title (.scalar scalar)
  | value => site.unexpected record.title value

end Site

/-- Reads a whole text. -/
def readWith {α : Type} (root : Site → Decoder α) (text : String) : Except Error α :=
  match Document.ofText text with
  | none => .error .malformed
  | some document =>
    (root ⟨document, maxDepth, .root, document.root⟩).run'
      (aliasesPerEvent * document.root.events)

end PipelineGraph.Yaml
