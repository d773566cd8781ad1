/-
**Documents: trees whose aliases are resolved.**

An alias stands for a value with an anchor of its name. The anchors are numbered as they come, by the
number of names in use before them, and an alias has the number that its name has where it stands; a
name without an anchor before it makes the text malformed. When a name is given again, a later name may
come to the same number: the number then stands for the value that was anchored last.
-/

import PipelineGraph.Yaml.Scalar
import PipelineGraph.Yaml.Tree

namespace PipelineGraph.Yaml

mutual

/-- A place where a value is written, or an alias for one. -/
inductive Occurrence
  | alias (anchor : Nat)
  | value (anchor : Option Nat) (value : Value)

/-- A value. -/
inductive Value
  | scalar (scalar : Scalar)
  | sequence (tag : Option String) (items : List Occurrence)
  | mapping (tag : Option String) (entries : List (Occurrence × Occurrence))

end

/-! ### Numbering anchors -/

/-- The names of anchors with their numbers. -/
abbrev Names := List (String × Nat)

/-- Reading with the names that are in use. -/
abbrev Linking := StateT Names Option

/-- Numbers an anchor, if there is one. -/
def numberAnchor : Option String → Linking (Option Nat)
  | none => return none
  | some name => do
    let names ← get
    set ((name, names.length) :: names.filter (·.1 != name))
    return some names.length

mutual

/-- The occurrence that a tree is, its aliases resolved. -/
def Tree.link : Tree → Linking Occurrence
  | .alias name => do
    match (← get).lookup name with
    | some anchor => return .alias anchor
    | none => failure
  | .scalar properties plain text => do
    return .value (← numberAnchor properties.anchor) (.scalar ⟨properties.tag, plain, text⟩)
  | .sequence properties items => do
    let anchor ← numberAnchor properties.anchor
    return .value anchor (.sequence properties.tag (← linkItems items))
  | .mapping properties entries => do
    let anchor ← numberAnchor properties.anchor
    return .value anchor (.mapping properties.tag (← linkEntries entries))

/-- The occurrences that the items of a sequence are. -/
def linkItems : List Tree → Linking (List Occurrence)
  | [] => return []
  | item :: rest => do
    let item ← item.link
    let rest ← linkItems rest
    return item :: rest

/-- The occurrences that the entries of a mapping are. -/
def linkEntries : List (Tree × Tree) → Linking (List (Occurrence × Occurrence))
  | [] => return []
  | (key, value) :: rest => do
    let key ← key.link
    let value ← value.link
    let rest ← linkEntries rest
    return (key, value) :: rest

end

/-! ### Anchored values -/

mutual

/-- The values with anchors, in the order in which they start. -/
def Occurrence.anchored : Occurrence → List (Nat × Value)
  | .alias _ => []
  | .value (some anchor) value => (anchor, value) :: value.anchoredInside
  | .value none value => value.anchoredInside

/-- The values with anchors inside a value. -/
def Value.anchoredInside : Value → List (Nat × Value)
  | .scalar _ => []
  | .sequence _ items => itemsAnchored items
  | .mapping _ entries => entriesAnchored entries

/-- The values with anchors among items. -/
def itemsAnchored : List Occurrence → List (Nat × Value)
  | [] => []
  | item :: rest => item.anchored ++ itemsAnchored rest

/-- The values with anchors among entries. -/
def entriesAnchored : List (Occurrence × Occurrence) → List (Nat × Value)
  | [] => []
  | (key, value) :: rest => key.anchored ++ value.anchored ++ entriesAnchored rest

end

mutual

/-- The number of events that a value is: one for a scalar or an alias, two for the ends of a
collection. -/
def Occurrence.events : Occurrence → Nat
  | .alias _ => 1
  | .value _ value => value.events

/-- The number of events that a value is. -/
def Value.events : Value → Nat
  | .scalar _ => 1
  | .sequence _ items => 2 + itemsEvents items
  | .mapping _ entries => 2 + entriesEvents entries

/-- The number of events of items. -/
def itemsEvents : List Occurrence → Nat
  | [] => 0
  | item :: rest => item.events + itemsEvents rest

/-- The number of events of entries. -/
def entriesEvents : List (Occurrence × Occurrence) → Nat
  | [] => 0
  | (key, value) :: rest => key.events + value.events + entriesEvents rest

end

/-- A document. -/
structure Document where
  root : Occurrence
  /-- The values with anchors, the last one first. -/
  anchored : List (Nat × Value)

namespace Document

/-- The value that an anchor's number stands for. -/
def anchor? (document : Document) (anchor : Nat) : Option Value := document.anchored.lookup anchor

/-- The document of a text, if the text is well-formed. A text without a document has an empty one. -/
def ofText (text : String) : Option Document := do
  let tree := (← Tree.ofText text).getD (Tree.empty {})
  let (root, _) ← tree.link.run []
  return ⟨root, root.anchored.reverse⟩

end Document

end PipelineGraph.Yaml
