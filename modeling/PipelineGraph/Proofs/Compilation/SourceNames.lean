/-
**The names in the modules of a graph.**

Functions and their parameters stand in the generated modules as they are, without quotes. Where no name is
reported they are words of the lines that they stand in: those of the signatures after `def`, and those that
the pipeline imports (`sourceNames_eq_words`). `mem_sourceNames_iff` says where they come from: from the
function nodes and from the datasets that an edge leaves. Nothing keeps the reserved words of the language out. Where labels and given names are ASCII and no
name is reported, each of these names has the form of a name, and all of them are names exactly when no node
is written with a reserved word (`sourceNames_isName_iff`); a graph with such labels compiles without a
report on them (`sourceNames_reserved`).
-/

import PipelineGraph.Proofs.Compilation.Agreement
import PipelineGraph.Proofs.Compilation.Names
import PipelineGraph.Proofs.Source.Name
import PipelineGraph.Proofs.Source.Words

namespace PipelineGraph

/-- The label of the node, and the name given to it, are in ASCII. -/
def Node.isAscii (node : Node) : Bool :=
  Text.isAscii node.label.toList && match node.payload with
    | .dataset _ => true
    | .function payload => payload.functionName.all fun name => Text.isAscii name.toList

/-! ### The words of a signature and of the imports -/

section Words

open Source (words words_append_append words_append_of_isSeparator words_eq_singleton
  words_intercalate)

/-- **The words of a signature**, where names are identifiers: the keyword, the function and its
parameters. -/
theorem FunctionRef.words_signature {function : FunctionRef}
    (identifier : isIdentifier function.identifier = true)
    (inputs : ∀ name ∈ function.inputNames, isIdentifier name = true) :
    words function.signature = "def" :: function.identifier :: function.inputNames := by
  have keyword : "def " = "def" ++ " " := rfl
  have isWord : words "def" = ["def"] := words_eq_singleton (by decide)
  rw [signature, words_append_of_isSeparator (by decide), words_append_append (by decide),
    words_intercalate inputs, keyword, words_append_append (by decide), isWord,
    words_eq_singleton identifier]
  rfl

/-- **The words of the line of imports**, where functions are identifiers: three that any such line
begins with, and the functions. -/
theorem Assembly.words_importLine {assembly : Assembly}
    (functions : ∀ name ∈ assembly.functions, isIdentifier name = true) :
    words assembly.importLine =
      (if assembly.steps.isEmpty then [] else ["from", "nodes", "import"]) ++ assembly.functions := by
  unfold importLine
  split
  · rename_i noStep
    rw [Assembly.functions, List.isEmpty_iff.mp noStep]
    rfl
  · have opening : "from .nodes import " = "from" ++ " ." ++ ("nodes" ++ " " ++ "import") ++ " " := rfl
    have isFrom : isIdentifier "from" = true := by decide
    have isNodes : isIdentifier "nodes" = true := by decide
    have isImport : isIdentifier "import" = true := by decide
    rw [words_append_of_isSeparator (by decide), opening, words_append_append (by decide),
      words_intercalate functions, words_append_append (by decide), words_append_append (by decide),
      words_eq_singleton isFrom, words_eq_singleton isNodes, words_eq_singleton isImport]
    rfl

end Words

namespace Graph

variable {graph : Graph} {options : Options}

/-! ### Where names come from -/

/-- The names that stand in the modules as they are: the function and the parameters of each definition,
and the functions that the pipeline imports and calls. -/
def sourceNames (graph : Graph) (options : Options) : List String :=
  (graph.wiring.functions.flatMap fun function => function.identifier :: function.inputNames) ++
    (graph.assembly options).functions

/-- **A name that the graph writes**: the one that a function node goes by, or the canonical name of a
dataset that an edge leaves. -/
inductive Writes (graph : Graph) : String → Prop
  | function {node : Node} {name : String} (inside : node ∈ graph.nodes)
      (called : node.identifier? = some name) : Writes graph name
  | parameter {node : Node} {edge : Edge} (inside : node ∈ graph.nodes)
      (isDataset : node.kind = .dataset) (isEdge : edge ∈ graph.edges)
      (leaves : edge.source = node.id) : Writes graph (canonical node.label)

/-- Where no id is repeated, the functions go by the names of the function nodes. -/
theorem mem_identifiers_iff (ids : (graph.nodes.map Node.id).Nodup) {name : String} :
    name ∈ graph.wiring.functions.map FunctionRef.identifier ↔
      ∃ node ∈ graph.nodes, node.identifier? = some name := by
  rw [map_identifier_functions, keptNodes_eq_nodes ids, List.mem_filterMap]

/-- A dataset of the wiring stands for a node. -/
theorem exists_standsFor_of_mem_datasets {dataset : DatasetRef}
    (inside : dataset ∈ graph.wiring.datasets) :
    ∃ node ∈ graph.nodes, DatasetRef.StandsFor node dataset := by
  obtain ⟨node, kept, shown⟩ := List.mem_filterMap.mp inside
  exact ⟨node, mem_of_mem_firsts Node.id kept, Node.standsFor_datasetRef? shown⟩

/-- **Where all edges bind, the parameters are the datasets that an edge leaves**, by canonical name. -/
theorem mem_inputNames_iff (ids : (graph.nodes.map Node.id).Nodup)
    (binds : ∀ edge ∈ graph.edges, ∃ binding, graph.Binds edge binding) {name : String} :
    (∃ function ∈ graph.wiring.functions, name ∈ function.inputNames) ↔
      ∃ node ∈ graph.nodes, node.kind = .dataset ∧ (∃ edge ∈ graph.edges, edge.source = node.id) ∧
        canonical node.label = name := by
  constructor
  · rintro ⟨function, isFunction, isInput⟩
    obtain ⟨dataset, read, rfl⟩ := List.mem_map.mp isInput
    obtain ⟨node, inside, payload, holds, rfl⟩ := exists_standsFor_of_mem_datasets
      (mem_datasets_of_bound isFunction (List.mem_append_left _ read))
    have bound := reads_iff.mp ⟨function, isFunction, rfl, List.mem_map_of_mem read⟩
    obtain ⟨edge, isEdge, alongEdge⟩ := mem_bindings_iff.mp bound
    obtain ⟨⟨leaves, _⟩, _⟩ := binds_iff.mp alongEdge
    exact ⟨node, inside, by rw [Node.kind, holds]; rfl, ⟨edge, isEdge, leaves⟩, rfl⟩
  · rintro ⟨node, inside, isDataset, ⟨edge, isEdge, leaves⟩, rfl⟩
    have isSource : graph.HasKind edge.source .dataset :=
      (hasKind_iff ids).mpr ⟨node, inside, leaves.symm, isDataset⟩
    obtain ⟨_, direction, isDataset', isFunction⟩ := binds edge isEdge
    cases direction with
    | output => cases isSource.unique isFunction
    | input =>
      obtain ⟨function, isRef, _, read⟩ :=
        reads_iff.mpr (mem_bindings_iff.mpr ⟨edge, isEdge, .along .input isDataset' isFunction⟩)
      obtain ⟨dataset, isInput, sameId⟩ := List.mem_map.mp read
      obtain ⟨other, inside', payload, holds, rfl⟩ := exists_standsFor_of_mem_datasets
        (mem_datasets_of_bound isRef (List.mem_append_left _ isInput))
      have same : other = node :=
        List.inj_on_of_nodup_map ids inside' inside (sameId.trans leaves)
      exact ⟨function, isRef, List.mem_map.mpr ⟨_, isInput, by rw [same]⟩⟩

/-- The pipeline imports the functions that are defined. -/
theorem mem_functions_assembly_iff {name : String} :
    name ∈ (graph.assembly options).functions ↔
      name ∈ graph.wiring.functions.map FunctionRef.identifier := by
  have imported : (graph.assembly options).functions =
      (firsts FunctionRef.identifier graph.wiring.functions).map FunctionRef.identifier := by
    rw [assembly, Assembly.functions, Assembly.steps_ofFunctions, List.map_map]
    rfl
  rw [imported]
  constructor
  · intro isFirst
    obtain ⟨function, kept, rfl⟩ := List.mem_map.mp isFirst
    exact List.mem_map_of_mem (mem_of_mem_firsts _ kept)
  · intro inside
    obtain ⟨function, isFunction, rfl⟩ := List.mem_map.mp inside
    exact List.mem_map.mpr (exists_firsts FunctionRef.identifier _ function isFunction)

theorem mem_sourceNames {name : String} :
    name ∈ graph.sourceNames options ↔
      name ∈ graph.wiring.functions.map FunctionRef.identifier ∨
        ∃ function ∈ graph.wiring.functions, name ∈ function.inputNames := by
  rw [sourceNames, List.mem_append, mem_functions_assembly_iff, List.mem_flatMap, List.mem_map]
  simp only [List.mem_cons]
  constructor
  · rintro (⟨function, inside, rfl | isInput⟩ | defined)
    · exact .inl ⟨function, inside, rfl⟩
    · exact .inr ⟨function, inside, isInput⟩
    · exact .inl defined
  · rintro (defined | ⟨function, inside, isInput⟩)
    · exact .inr defined
    · exact .inl ⟨function, inside, .inr isInput⟩

/-- **The names in the modules of a graph that compiles are those that the graph writes.** -/
theorem mem_sourceNames_iff (success : (graph.compile options).success = true) {name : String} :
    name ∈ graph.sourceNames options ↔ graph.Writes name := by
  obtain ⟨⟨ids, binds⟩, _, identifiers⟩ := (success_iff_stages graph options).mp success
  rw [mem_sourceNames, mem_identifiers_iff ids, mem_inputNames_iff ids binds]
  constructor
  · rintro (⟨node, inside, called⟩ | ⟨node, inside, isDataset, ⟨edge, isEdge, leaves⟩, rfl⟩)
    · exact .function inside called
    · exact .parameter inside isDataset isEdge leaves
  · intro writes
    cases writes with
    | function inside called => exact .inl ⟨_, inside, called⟩
    | parameter inside isDataset isEdge leaves =>
      exact .inr ⟨_, inside, isDataset, ⟨_, isEdge, leaves⟩, rfl⟩

/-! ### The form of names -/

/-- The name given to a function is in ASCII if what is written for it is. -/
theorem isAscii_givenName {payload : FunctionPayload} {name : String}
    (ascii : (payload.functionName.all fun given => Text.isAscii given.toList) = true)
    (given : payload.givenName = some name) : Text.isAscii name.toList = true := by
  obtain ⟨trimmed, _⟩ := Option.filter_eq_some_iff.mp given
  obtain ⟨written, isWritten, rfl⟩ := Option.map_eq_some_iff.mp trimmed
  rw [isWritten] at ascii
  exact isAscii_trim ascii

/-- **An ASCII graph writes ASCII names.** -/
theorem Writes.isAscii {name : String} (writes : graph.Writes name)
    (ascii : ∀ node ∈ graph.nodes, node.isAscii = true) : Text.isAscii name.toList = true := by
  cases writes with
  | parameter inside _ _ _ => exact isAscii_canonical (Bool.and_eq_true_iff.mp (ascii _ inside)).1
  | @function node name inside called =>
    obtain ⟨inLabel, inPayload⟩ := Bool.and_eq_true_iff.mp (ascii _ inside)
    unfold Node.identifier? at called
    split at called
    · cases called
    · rename_i payload holds
      rw [holds] at inPayload
      cases given : payload.givenName with
      | none =>
        rw [given] at called
        cases called
        exact isAscii_canonical inLabel
      | some other =>
        rw [given] at called
        cases called
        exact isAscii_givenName inPayload given

/-- Where nothing is reported of names, the names in the modules are identifiers. -/
theorem isIdentifier_of_mem_sourceNames
    (silent : ∀ diagnostic ∈ graph.diagnostics options, diagnostic.code ≠ .invalidIdentifier)
    {name : String} (inside : name ∈ graph.sourceNames options) : isIdentifier name = true := by
  obtain ⟨functions, datasets⟩ := isIdentifier_of_silent silent
  rcases mem_sourceNames.mp inside with isFunction | ⟨function, isFunction, isInput⟩
  · obtain ⟨function, isRef, rfl⟩ := List.mem_map.mp isFunction
    exact functions function isRef
  · obtain ⟨dataset, read, rfl⟩ := List.mem_map.mp isInput
    exact datasets dataset (mem_datasets_of_bound isFunction (List.mem_append_left _ read))

/-- **Where nothing is reported of names, the names in the modules are words of the modules**: those of
each signature after the keyword, and those of the line of imports after the three that it begins with. -/
theorem sourceNames_eq_words (graph : Graph) (options : Options)
    (silent : ∀ diagnostic ∈ (graph.compile options).diagnostics,
      diagnostic.code ≠ .invalidIdentifier) :
    graph.sourceNames options =
      (graph.wiring.functions.flatMap fun function => (Source.words function.signature).drop 1) ++
        (Source.words (graph.assembly options).importLine).drop 3 := by
  have legal : ∀ name ∈ graph.sourceNames options, isIdentifier name = true :=
    fun name inside => isIdentifier_of_mem_sourceNames silent inside
  have signatures : (graph.wiring.functions.flatMap fun function =>
      (Source.words function.signature).drop 1) =
        graph.wiring.functions.flatMap fun function => function.identifier :: function.inputNames := by
    refine List.flatMap_congr fun function inside => ?_
    rw [FunctionRef.words_signature
      (legal _ (mem_sourceNames.mpr (.inl (List.mem_map_of_mem inside))))
      fun name isInput => legal name (mem_sourceNames.mpr (.inr ⟨function, inside, isInput⟩))]
    rfl
  have imports : (Source.words (graph.assembly options).importLine).drop 3 =
      (graph.assembly options).functions := by
    rw [Assembly.words_importLine fun name isFunction => legal name (List.mem_append_right _ isFunction)]
    split
    · rename_i noStep
      rw [Assembly.functions, List.isEmpty_iff.mp noStep]
      rfl
    · rfl
  rw [signatures, imports, sourceNames]

/-- **The names in the modules of an ASCII graph that compiles with no report on names** have the form of
names. They all are names exactly when the graph writes no reserved word. -/
theorem sourceNames_isName_iff (graph : Graph) (options : Options)
    (ascii : ∀ node ∈ graph.nodes, node.isAscii = true)
    (success : (graph.compile options).success = true)
    (silent : ∀ diagnostic ∈ (graph.compile options).diagnostics,
      diagnostic.code ≠ .invalidIdentifier) :
    (∀ name ∈ graph.sourceNames options, Source.hasNameForm name = true) ∧
      ((∀ name ∈ graph.sourceNames options, Source.IsName name) ↔
        ∀ word ∈ Source.reservedWords, ¬ graph.Writes word) := by
  have form : ∀ name ∈ graph.sourceNames options, Source.hasNameForm name = true := by
    intro name inside
    have writes := (mem_sourceNames_iff success).mp inside
    rw [Source.hasNameForm_eq_isIdentifier (writes.isAscii ascii)]
    exact isIdentifier_of_mem_sourceNames silent inside
  refine ⟨form, fun legal word reserved writes => ?_, fun free name inside => ⟨form name inside, ?_⟩⟩
  · exact (legal word ((mem_sourceNames_iff success).mpr writes)).free reserved
  · exact fun reserved => free name reserved ((mem_sourceNames_iff success).mp inside)

/-- A function with a name of its own, which reads one dataset and writes another. -/
def scored : Graph :=
  { nodes :=
      [{ id := "d1", label := "Raw Data", payload := .dataset {} },
       { id := "f1", label := "Class", payload := .function { functionName := some " _score2\n" } },
       { id := "d2", label := "Return", payload := .dataset {} }]
    edges := [⟨"e1", "d1", "f1"⟩, ⟨"e2", "f1", "d2"⟩] }

/-- Labels that are reserved words do no harm where they are not written. -/
theorem sourceNames_scored :
    scored.sourceNames {} = ["_score2", "raw_data", "_score2"] ∧
      (∀ name ∈ scored.sourceNames {}, Source.hasNameForm name = true) ∧
        ∀ word ∈ Source.reservedWords, ¬ scored.Writes word := by
  obtain ⟨form, legal⟩ := sourceNames_isName_iff scored {} (by decide) (by decide) (by decide)
  exact ⟨by decide, form, legal.mp (by decide)⟩

/-- A function and a dataset that it reads, both with reserved words for labels. -/
def reserved : Graph :=
  { nodes :=
      [{ id := "d1", label := "Lambda", payload := .dataset { description := some "Numbers" } },
       { id := "f1", label := "Class"
         payload := .function { body := some "return None", description := some "Sorts" } }]
    edges := [⟨"e1", "d1", "f1"⟩] }

/-- **Reserved words are written as names**, in a graph that compiles with nothing to report. -/
theorem sourceNames_reserved :
    (∀ node ∈ reserved.nodes, node.isAscii = true) ∧ (reserved.compile {}).success = true ∧
      (reserved.compile {}).diagnostics = [] ∧
      reserved.wiring.functions.map FunctionRef.signature = ["def class(lambda):"] ∧
      ¬ ∀ name ∈ reserved.sourceNames {}, Source.IsName name := by
  decide

end Graph

end PipelineGraph
