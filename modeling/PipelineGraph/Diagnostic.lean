/-
**Diagnostics.**

A diagnostic says what is wrong, how bad it is, and at which node or edge. Structural problems are
collected and never stop the compiler; a single error makes the compilation fail, warnings do not.
-/

import PipelineGraph.Graph.Basic

namespace PipelineGraph

/-- How bad a problem is. -/
inductive Severity
  | warning
  | error
  deriving DecidableEq, Inhabited, Repr

/-- The word for a severity. -/
def Severity.name : Severity → String
  | .warning => "warning"
  | .error => "error"

/-- The kinds of problems. -/
inductive Code
  | danglingEdge
  | typeMismatchEdge
  | nameCollision
  | duplicateNodeId
  | duplicateBinding
  | emptyFunctionBody
  | noDescription
  | orphanDataset
  | invalidIdentifier
  | emitFailure
  deriving DecidableEq, Inhabited, Repr

/-- The word for a kind of problem. -/
def Code.name : Code → String
  | .danglingEdge => "dangling_edge"
  | .typeMismatchEdge => "type_mismatch_edge"
  | .nameCollision => "name_collision"
  | .duplicateNodeId => "duplicate_node_id"
  | .duplicateBinding => "duplicate_binding"
  | .emptyFunctionBody => "empty_function_body"
  | .noDescription => "no_description"
  | .orphanDataset => "orphan_dataset"
  | .invalidIdentifier => "invalid_identifier"
  | .emitFailure => "emit_failure"

/-- The kinds of problems, in the order of their declaration. -/
def Code.all : List Code :=
  [.danglingEdge, .typeMismatchEdge, .nameCollision, .duplicateNodeId, .duplicateBinding,
   .emptyFunctionBody, .noDescription, .orphanDataset, .invalidIdentifier, .emitFailure]

/-- The kind of problem that a word stands for. -/
def Code.ofName? (name : String) : Option Code := Code.all.find? fun code => code.name = name

theorem Code.ofName?_name (code : Code) : Code.ofName? code.name = some code := by
  cases code <;> decide

/-- A problem with its place. -/
structure Diagnostic where
  code : Code
  message : String
  nodeId : Option String := none
  edgeId : Option String := none
  severity : Severity
  deriving DecidableEq, Inhabited, Repr

namespace Diagnostic

/-- The problem makes the compilation fail. -/
def isError (diagnostic : Diagnostic) : Bool := diagnostic.severity = .error

/-- The place of a problem, in brackets. -/
def place : Option String → Option String → String
  | some node, some edge => s!" (node '{node}', edge '{edge}')"
  | some node, none => s!" (node '{node}')"
  | none, some edge => s!" (edge '{edge}')"
  | none, none => ""

/-- The line that shows a diagnostic. -/
def line (diagnostic : Diagnostic) : String :=
  diagnostic.severity.name ++ "[" ++ diagnostic.code.name ++ "]: " ++ diagnostic.message ++
    place diagnostic.nodeId diagnostic.edgeId

end Diagnostic

/-- The errors of a list, counted. -/
def errorCount (diagnostics : List Diagnostic) : Nat := diagnostics.countP Diagnostic.isError

/-- The warnings of a list, counted. -/
def warningCount (diagnostics : List Diagnostic) : Nat :=
  diagnostics.countP fun diagnostic => !diagnostic.isError

/-- Some diagnostic of the list is an error. -/
def hasErrors (diagnostics : List Diagnostic) : Bool := diagnostics.any Diagnostic.isError

/-- Every diagnostic is an error or a warning, and not both. -/
theorem errorCount_add_warningCount (diagnostics : List Diagnostic) :
    errorCount diagnostics + warningCount diagnostics = diagnostics.length := by
  rw [List.length_eq_countP_add_countP Diagnostic.isError]
  congr 1
  simp [warningCount]

theorem hasErrors_iff (diagnostics : List Diagnostic) :
    hasErrors diagnostics = true ↔ 0 < errorCount diagnostics := by
  simp [hasErrors, errorCount, List.countP_pos_iff]

end PipelineGraph
