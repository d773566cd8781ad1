/-
**The steps of the pipeline.**

Every function of the wiring becomes a step. Of several functions with one identifier the first has
the step, and each later one is reported. A step is named by the identifier and the suffix of the
options.

One walk under the options gives the steps and the problems (`build`). The steps are those of the first
functions (`steps_ofFunctions`), and the problems do not depend on the options (`problems_build`).
-/

import PipelineGraph.Options
import PipelineGraph.Wiring

namespace PipelineGraph

/-- What a step writes: nothing, one dataset, or a list of datasets. -/
inductive StepOutputs
  | none
  | single (name : String)
  | many (names : List String)
  deriving DecidableEq, Inhabited, Repr

/-- The outputs with these names. -/
def StepOutputs.ofNames : List String → StepOutputs
  | [] => .none
  | [name] => .single name
  | names => .many names

/-- The names of the outputs. -/
def StepOutputs.names : StepOutputs → List String
  | .none => []
  | .single name => [name]
  | .many names => names

theorem StepOutputs.names_ofNames (names : List String) : (ofNames names).names = names := by
  match names with
  | [] => rfl
  | [_] => rfl
  | _ :: _ :: _ => rfl

/-- A step of the pipeline. -/
structure Step where
  nodeId : String := ""
  name : String
  func : String
  inputs : List String
  outputs : StepOutputs
  deriving DecidableEq, Inhabited, Repr

/-- The steps of the pipeline. -/
structure Assembly where
  steps : List Step := []
  deriving DecidableEq, Inhabited, Repr

namespace Assembly

/-- The functions that the steps call. -/
def functions (assembly : Assembly) : List String := assembly.steps.map Step.func

/-- The first step with a name. -/
def step? (assembly : Assembly) (name : String) : Option Step :=
  assembly.steps.find? fun step => step.name = name

/-- A function whose identifier is taken by an earlier one. -/
structure Problem where
  function : FunctionRef
  first : FunctionRef

/-- The diagnostic that reports a problem. -/
def Problem.diagnostic (problem : Problem) : Diagnostic :=
  let function := problem.function
  let first := problem.first
  { code := .nameCollision, severity := .error, nodeId := some function.id
    message := s!"Function '{function.label}' and function '{first.label}' (node '{first.id}') both " ++
        s!"compile to identifier '{function.identifier}'" }

/-- The step of a function. -/
def stepOf (options : Options) (function : FunctionRef) : Step :=
  { nodeId := function.id, name := function.identifier ++ options.stepSuffix
    func := function.identifier, inputs := function.inputNames
    outputs := .ofNames function.outputNames }

/-- The walk over the rest of the functions. `owners` are the functions that have a step, and a function
with the identifier of one of them is reported. -/
def buildFrom (options : Options) (owners : List FunctionRef) :
    List FunctionRef → List Step × List Problem
  | [] => ([], [])
  | function :: rest =>
    match owners.find? fun owner => owner.identifier = function.identifier with
    | some first =>
      let (steps, problems) := buildFrom options owners rest
      (steps, ⟨function, first⟩ :: problems)
    | none =>
      let (steps, problems) := buildFrom options (owners ++ [function]) rest
      (stepOf options function :: steps, problems)

/-- The steps of a list of functions, and the functions whose identifier is taken. -/
def build (functions : List FunctionRef) (options : Options) : List Step × List Problem :=
  buildFrom options [] functions

/-- The steps of a list of functions. -/
def ofFunctions (functions : List FunctionRef) (options : Options) : Assembly :=
  ⟨(build functions options).1⟩

/-- The problems without the walk: the functions whose identifier is taken, each with the first function
that has it. -/
def problems (functions : List FunctionRef) : List Problem :=
  (repeats FunctionRef.identifier functions).map fun (function, first) => ⟨function, first⟩

/-- The walk looks among the owners only. An identifier has the same first function among them as among
all functions before, so a function is kept just if no earlier one has its identifier. -/
theorem buildFrom_eq (options : Options) (functions : List FunctionRef) :
    ∀ {owners before : List FunctionRef},
      (∀ identifier, (owners.find? fun owner => owner.identifier = identifier) =
        before.find? fun earlier => earlier.identifier = identifier) →
      buildFrom options owners functions =
        ((unpreceded (withEarlierFrom FunctionRef.identifier before functions)).map (stepOf options),
          (withEarlierFrom FunctionRef.identifier before functions).filterMap
            fun (function, earlier) => earlier.map fun first => ⟨function, first⟩) := by
  induction functions with
  | nil => exact fun _ => rfl
  | cons function rest ih =>
    intro owners before same
    rw [buildFrom, withEarlierFrom, same]
    cases found : before.find? fun earlier => earlier.identifier = function.identifier with
    | some first =>
      have next : ∀ identifier, (owners.find? fun owner => owner.identifier = identifier) =
          (before ++ [function]).find? fun earlier => earlier.identifier = identifier := by
        intro identifier
        rw [same, List.find?_append]
        by_cases isOwned : function.identifier = identifier
        · rw [← isOwned, found]
          rfl
        · rw [List.find?_singleton, if_neg (by rwa [decide_eq_true_eq]), Option.or_none]
      dsimp only
      rw [ih next]
      rfl
    | none =>
      have next : ∀ identifier,
          ((owners ++ [function]).find? fun owner => owner.identifier = identifier) =
            (before ++ [function]).find? fun earlier => earlier.identifier = identifier := by
        intro identifier
        rw [List.find?_append, List.find?_append, same]
      dsimp only
      rw [ih next]
      rfl

/-- **The steps are those of the functions whose identifier no earlier one has.** -/
theorem steps_ofFunctions (functions : List FunctionRef) (options : Options) :
    (ofFunctions functions options).steps =
      (firsts FunctionRef.identifier functions).map (stepOf options) := by
  rw [ofFunctions, build, buildFrom_eq options functions fun _ => rfl]
  rfl

/-- **The problems do not depend on the options.** -/
theorem problems_build (functions : List FunctionRef) (options : Options) :
    (build functions options).2 = problems functions := by
  rw [build, buildFrom_eq options functions fun _ => rfl, problems, repeats, List.map_filterMap]
  simp only [Option.map_map, Function.comp_def, withEarlier]

end Assembly

end PipelineGraph
