/-
**The module of the pipeline tells its steps apart.**

Names, inputs and outputs of a step are written as literals, which end where they were meant to, and the
function that it calls ends with its line. So a step is told apart from the text after it
(`Step.text_append_inj`), steps from the lines that close the definition (`steps_append_inj`), and two
modules written with the same options are the same exactly when their steps are, position by position, in
everything but the nodes that they come from (`text_determines_steps`).
-/

import Mathlib.Data.List.Forall2
import PipelineGraph.Assembly.PipelineModule
import PipelineGraph.Proofs.Source.Literal
import PipelineGraph.Proofs.Text.Lines

namespace PipelineGraph

open Source (literal literalList literalList_append_inj literal_append_inj)

/-! ### The outputs of a step -/

/-- What outputs start with. -/
def StepOutputs.mark : StepOutputs → Char
  | .none => 'N'
  | .single _ => '"'
  | .many _ => '['

theorem StepOutputs.head_text_append (outputs : StepOutputs) (rest : List Char) :
    (outputs.text.toList ++ rest).head? = some outputs.mark := by
  cases outputs with
  | none => rfl
  | single name =>
    rw [text, literal, String.toList_ofList]
    rfl
  | many names =>
    rw [text, literalList, String.append_assoc, String.toList_append]
    rfl

/-- **Outputs tell themselves apart**: nothing, one name and a list of names start differently. -/
theorem StepOutputs.text_append_inj {outputs others : StepOutputs} {rest more : List Char}
    (same : outputs.text.toList ++ rest = others.text.toList ++ more) :
    outputs = others ∧ rest = more := by
  have marks := congrArg List.head? same
  rw [head_text_append, head_text_append, Option.some.injEq] at marks
  cases outputs with
  | none =>
    cases others with
    | none => exact ⟨rfl, List.append_cancel_left same⟩
    | single | many => exact absurd marks (by simp [mark])
  | single name =>
    cases others with
    | single other =>
      obtain ⟨rfl, ends⟩ := literal_append_inj same
      exact ⟨rfl, ends⟩
    | none | many => exact absurd marks (by simp [mark])
  | many names =>
    cases others with
    | many others =>
      obtain ⟨rfl, ends⟩ := literalList_append_inj same
      exact ⟨rfl, ends⟩
    | none | single => exact absurd marks (by simp [mark])

/-! ### Steps -/

/-- Two steps agree in everything but the nodes that they come from. -/
def Step.Alike (step other : Step) : Prop :=
  step.func = other.func ∧ step.inputs = other.inputs ∧ step.outputs = other.outputs ∧
    step.name = other.name

instance (step other : Step) : Decidable (step.Alike other) :=
  inferInstanceAs (Decidable (_ ∧ _ ∧ _ ∧ _))

theorem Step.Alike.text_eq {step other : Step} (alike : step.Alike other) :
    step.text = other.text := by
  obtain ⟨func, inputs, outputs, name⟩ := alike
  unfold text
  rw [func, inputs, outputs, name]

/-- A step is a line with the function that it calls, and what follows it. -/
theorem Step.toList_text_append (step : Step) (rest : List Char) :
    step.text.toList ++ rest = "            node(\n                func=".toList ++
      ((step.func ++ ",").toList ++ '\n' :: ("                inputs=".toList ++
        ((literalList step.inputs).toList ++ (",\n                outputs=".toList ++
          (step.outputs.text.toList ++ (",\n                name=".toList ++
            ((literal step.name).toList ++ (",\n            ),\n".toList ++ rest)))))))) := by
  have comma : ",\n                inputs=".toList =
      ",".toList ++ '\n' :: "                inputs=".toList := by simp
  unfold text
  simp only [comma, String.toList_append, List.append_assoc, List.cons_append]

/-- **A step tells itself apart** from what follows it. -/
theorem Step.text_append_inj {step other : Step} (oneLine : '\n' ∉ step.func.toList)
    (otherOneLine : '\n' ∉ other.func.toList) {rest more : List Char}
    (same : step.text.toList ++ rest = other.text.toList ++ more) : step.Alike other ∧ rest = more := by
  have inLine : ∀ {func : String}, '\n' ∉ func.toList → '\n' ∉ (func ++ ",").toList := by
    intro func feed
    simp [String.toList_append, feed]
  rw [toList_text_append, toList_text_append] at same
  obtain ⟨func, same⟩ := Text.line_append_inj (inLine oneLine) (inLine otherOneLine)
    (List.append_cancel_left same)
  obtain ⟨inputs, same⟩ := literalList_append_inj (List.append_cancel_left same)
  obtain ⟨outputs, same⟩ := StepOutputs.text_append_inj (List.append_cancel_left same)
  obtain ⟨name, same⟩ := literal_append_inj (List.append_cancel_left same)
  have sameFunc := (String.append_left_inj ",").mp (String.toList_inj.mp func)
  exact ⟨⟨sameFunc, inputs, outputs, name⟩, List.append_cancel_left same⟩

namespace Assembly

/-- A step does not start as the lines after the last one do. -/
theorem text_append_ne_closing (step : Step) (rest : List Char) :
    step.text.toList ++ rest ≠ closing.toList := by
  intro same
  have further : "            node(\n                func=".toList =
      "        ".toList ++ ' ' :: "   node(\n                func=".toList := by simp
  have bracket : closing.toList = "        ".toList ++ ']' :: "\n    )\n".toList := by simp [closing]
  rw [step.toList_text_append, further, bracket, List.append_assoc] at same
  exact absurd (List.cons.inj (List.append_cancel_left same)).1 (by decide)

/-- **Steps tell themselves apart** from the lines that close the definition. -/
theorem steps_append_inj {steps others : List Step}
    (oneLine : ∀ step ∈ steps, '\n' ∉ step.func.toList)
    (otherOneLine : ∀ step ∈ others, '\n' ∉ step.func.toList)
    (same : (String.join (steps.map Step.text)).toList ++ closing.toList =
      (String.join (others.map Step.text)).toList ++ closing.toList) :
    List.Forall₂ Step.Alike steps others := by
  induction steps generalizing others with
  | nil =>
    cases others with
    | nil => exact .nil
    | cons other others =>
      rw [List.map_cons, String.join_cons, String.toList_append, List.append_assoc] at same
      exact absurd same.symm (text_append_ne_closing other _)
  | cons step steps ih =>
    rw [List.map_cons, String.join_cons, String.toList_append, List.append_assoc] at same
    cases others with
    | nil => exact absurd same (text_append_ne_closing step _)
    | cons other others =>
      rw [List.map_cons, String.join_cons, String.toList_append, List.append_assoc] at same
      obtain ⟨first, later⟩ := List.forall_mem_cons.mp oneLine
      obtain ⟨otherFirst, otherLater⟩ := List.forall_mem_cons.mp otherOneLine
      obtain ⟨alike, ends⟩ := Step.text_append_inj first otherFirst same
      exact .cons alike (ih later otherLater ends)

/-! ### The module -/

/-- What looks at steps without the nodes that they come from finds the same in steps that agree. -/
theorem map_congr_of_alike {α : Type} {view : Step → α} {steps others : List Step}
    (same : ∀ {step other : Step}, step.Alike other → view step = view other)
    (alike : List.Forall₂ Step.Alike steps others) : steps.map view = others.map view := by
  induction alike with
  | nil => rfl
  | cons step _ ih => rw [List.map_cons, List.map_cons, same step, ih]

variable {first second : Assembly}

/-- **A module shows its steps** without the nodes that they come from. -/
theorem text_congr (options : Options) (alike : List.Forall₂ Step.Alike first.steps second.steps) :
    first.text options = second.text options := by
  have functions : first.functions = second.functions := map_congr_of_alike And.left alike
  have isEmpty : first.steps.isEmpty = second.steps.isEmpty := by
    have same := congrArg List.isEmpty functions
    rwa [Assembly.functions, Assembly.functions, List.isEmpty_map, List.isEmpty_map] at same
  have texts : first.steps.map Step.text = second.steps.map Step.text :=
    map_congr_of_alike Step.Alike.text_eq alike
  unfold text importLine
  rw [functions, isEmpty, texts]

/-- Functions that are imported stay on one line. -/
theorem notMem_intercalate {functions : List String}
    (oneLine : ∀ func ∈ functions, '\n' ∉ func.toList) :
    '\n' ∉ (String.intercalate ", " functions).toList := by
  induction functions with
  | nil => decide
  | cons func functions ih =>
    obtain ⟨inFunc, later⟩ := List.forall_mem_cons.mp oneLine
    cases functions with
    | nil => rwa [String.intercalate_singleton]
    | cons next functions =>
      rw [String.intercalate_cons_cons, String.toList_append, String.toList_append, List.mem_append,
        List.mem_append, not_or, not_or]
      exact ⟨⟨inFunc, by decide⟩, ih later⟩

/-- What imports the functions is nothing or one line. -/
theorem importLine_cases {assembly : Assembly}
    (oneLine : ∀ step ∈ assembly.steps, '\n' ∉ step.func.toList) :
    assembly.importLine.toList = [] ∨
      ∃ line, '\n' ∉ line ∧ ∀ rest, assembly.importLine.toList ++ rest = 'f' :: line ++ '\n' :: rest := by
  unfold importLine
  split
  · exact .inl rfl
  · have inFunctions : ∀ func ∈ assembly.functions, '\n' ∉ func.toList :=
      List.forall_mem_map.mpr oneLine
    have imports : "from .nodes import ".toList = 'f' :: "rom .nodes import ".toList := by simp
    have feed : "\n".toList = ['\n'] := rfl
    refine .inr ⟨("rom .nodes import " ++ String.intercalate ", " assembly.functions).toList, ?_,
      fun rest => ?_⟩
    · rw [String.toList_append, List.mem_append, not_or]
      exact ⟨by decide, notMem_intercalate inFunctions⟩
    · simp only [String.toList_append, imports, feed, List.append_assoc, List.cons_append,
        List.nil_append]

/-- The definition starts with an empty line. -/
theorem exists_opening_eq : ∃ later, opening.toList = '\n' :: later := by
  have feed : ∃ later, "\n\ndef create_pipeline(**kwargs) -> Pipeline:\n    ".toList = '\n' :: later :=
    ⟨_, String.toList_ofList⟩
  obtain ⟨later, starts⟩ := feed
  unfold opening
  simp only [String.toList_append, starts, List.cons_append]
  exact ⟨_, rfl⟩

/-- **The line that imports the functions ends before the definition.** -/
theorem importLine_append_inj (oneLine : ∀ step ∈ first.steps, '\n' ∉ step.func.toList)
    (otherOneLine : ∀ step ∈ second.steps, '\n' ∉ step.func.toList) {rest more : List Char}
    (same : first.importLine.toList ++ (opening.toList ++ rest) =
      second.importLine.toList ++ (opening.toList ++ more)) : rest = more := by
  obtain ⟨definition, opens⟩ := exists_opening_eq
  rcases importLine_cases oneLine with none | ⟨line, inLine, shown⟩
  · rcases importLine_cases otherOneLine with none' | ⟨line', _, shown'⟩
    · rw [none, none', List.nil_append, List.nil_append] at same
      exact List.append_cancel_left same
    · rw [none, shown', opens] at same
      exact absurd (List.cons.inj same).1 (by decide)
  · rcases importLine_cases otherOneLine with none' | ⟨line', inLine', shown'⟩
    · rw [none', shown, opens] at same
      exact absurd (List.cons.inj same).1 (by decide)
    · rw [shown, shown'] at same
      obtain ⟨_, same⟩ := Text.line_append_inj inLine inLine' (List.cons.inj same).2
      exact List.append_cancel_left same

/-- **The module of the pipeline determines its steps**, and everything in them but the nodes that they
come from, if each function that they call is on one line. -/
theorem text_determines_steps (first second : Assembly) (options : Options)
    (oneLine : ∀ step ∈ first.steps ++ second.steps, '\n' ∉ step.func.toList) :
    first.text options = second.text options ↔
      List.Forall₂ Step.Alike first.steps second.steps := by
  refine ⟨fun same => ?_, text_congr options⟩
  obtain ⟨inFirst, inSecond⟩ := List.forall_mem_append.mp oneLine
  have chars := congrArg String.toList same
  unfold text at chars
  simp only [String.toList_append, List.append_assoc] at chars
  exact steps_append_inj inFirst inSecond
    (importLine_append_inj inFirst inSecond (List.append_cancel_left chars))

/-- The step that writes these outputs. -/
def loadStep (outputs : StepOutputs) : Step where
  name := "load_node"
  func := "load"
  inputs := []
  outputs := outputs

/-- No output, one with the name of the text for none, and a list with that name are written
differently. -/
theorem text_determines_steps_of_outputs :
    (Assembly.mk [loadStep .none]).text {} ≠ (Assembly.mk [loadStep (.single "None")]).text {} ∧
      (Assembly.mk [loadStep .none]).text {} ≠ (Assembly.mk [loadStep (.many ["None"])]).text {} ∧
      (Assembly.mk [loadStep (.single "None")]).text {} ≠
        (Assembly.mk [loadStep (.many ["None"])]).text {} :=
  ⟨mt (text_determines_steps _ _ {} (by decide)).mp (by decide),
    mt (text_determines_steps _ _ {} (by decide)).mp (by decide),
    mt (text_determines_steps _ _ {} (by decide)).mp (by decide)⟩

end Assembly

end PipelineGraph
