/-
**Options shape texts and nothing else.**

The verdict on a graph and its diagnostics do not depend on the options: the walk that names the steps
under the options reports the same functions under all of them (`Assembly.problems_build`). Of the
texts, each shows the generator in its head; besides that the module of functions depends on the
description that functions without one are given, and the module of the pipeline on the ending of the
step names. The name of the pipeline is in none of them.

`options_shape_texts` says so of any two options. Each text is a head that shows the generator and
nothing else of the options, and a rest that does not depend on the generator
(`FunctionModule.text_eq_iff`, `Assembly.text_eq_iff`, `Catalog.document_eq_iff`).
-/

import PipelineGraph.Proofs.Compilation.Verdict

namespace PipelineGraph

variable {first second : Options}

/-! ### The module of functions -/

/-- The text of a function depends on the description it is given if it has none. -/
theorem FunctionRef.text_congr (same : first.defaultDescription = second.defaultDescription)
    (function : FunctionRef) : function.text first = function.text second := by
  rw [text, text, docstringLines, docstringLines, summaryLines, summaryLines, same]

theorem FunctionModule.header_inj :
    header first = header second ↔ first.generator = second.generator := by
  unfold header
  simp only [String.append_left_inj, String.append_right_inj]

/-- **Two modules of functions differ only in the generator** if functions without a description are
given the same one. -/
theorem FunctionModule.text_eq_iff (same : first.defaultDescription = second.defaultDescription)
    (functions : List FunctionRef) :
    text functions first = text functions second ↔ first.generator = second.generator := by
  have definitions : (functions.map fun function => "\n\n" ++ function.text first) =
      functions.map fun function => "\n\n" ++ function.text second :=
    List.map_congr_left fun function _ => by rw [function.text_congr same]
  rw [text, text, definitions]
  exact (String.append_left_inj _).trans header_inj

/-! ### The module of the pipeline -/

/-- The steps depend on the ending of their names. -/
theorem Assembly.ofFunctions_congr (same : first.stepSuffix = second.stepSuffix)
    (functions : List FunctionRef) : ofFunctions functions first = ofFunctions functions second := by
  have step : stepOf first = stepOf second := by
    funext function
    rw [stepOf, stepOf, same]
  have steps : (ofFunctions functions first).steps = (ofFunctions functions second).steps := by
    rw [steps_ofFunctions, steps_ofFunctions, step]
  exact congrArg Assembly.mk steps

theorem Assembly.header_inj :
    header first = header second ↔ first.generator = second.generator := by
  unfold header
  simp only [String.append_left_inj, String.append_right_inj]

/-- **Two modules of the pipeline differ only in the generator** if step names end alike. -/
theorem Assembly.text_eq_iff (same : first.stepSuffix = second.stepSuffix)
    (functions : List FunctionRef) :
    (ofFunctions functions first).text first = (ofFunctions functions second).text second ↔
      first.generator = second.generator := by
  rw [ofFunctions_congr same]
  unfold text
  simp only [String.append_left_inj]
  exact header_inj

/-! ### The catalog -/

theorem Catalog.header_inj :
    header first = header second ↔ first.generator = second.generator := by
  unfold header
  exact (String.append_left_inj _).trans (String.append_right_inj _)

/-- **Two catalogs differ only in the generator.** -/
theorem Catalog.document_eq_iff (entries : List Entry) :
    document entries first = document entries second ↔ first.generator = second.generator := by
  unfold document
  exact (String.append_left_inj _).trans header_inj

/-! ### Any two options -/

namespace Graph

/-- **Options shape texts and nothing else.** With any two options a graph has the same verdict and the
same diagnostics. If it compiles, the modules of functions are the same, if functions without a
description are given the same one, exactly when the generators are; so are the modules of the pipeline,
if step names end alike, and the catalogs in any case. -/
theorem options_shape_texts (graph : Graph) (first second : Options) :
    (graph.compile first).success = (graph.compile second).success ∧
      (graph.compile first).diagnostics = (graph.compile second).diagnostics ∧
      ((graph.compile first).success = true → ∃ texts others,
        (graph.compile first).artifacts = some texts ∧
        (graph.compile second).artifacts = some others ∧
        (first.defaultDescription = second.defaultDescription →
          (texts.functions = others.functions ↔ first.generator = second.generator)) ∧
        (first.stepSuffix = second.stepSuffix →
          (texts.assembly = others.assembly ↔ first.generator = second.generator)) ∧
        (texts.catalog = others.catalog ↔ first.generator = second.generator)) := by
  have diagnostics : (graph.compile first).diagnostics = (graph.compile second).diagnostics :=
    graph.diagnostics_congr first second
  have verdict : (graph.compile first).success = (graph.compile second).success := by
    rw [Compilation.success, Compilation.success, diagnostics]
  refine ⟨verdict, diagnostics, fun success => ?_⟩
  exact ⟨graph.artifacts first, graph.artifacts second, artifacts_of_success success,
    artifacts_of_success (verdict ▸ success),
    fun same => FunctionModule.text_eq_iff same graph.wiring.functions,
    fun same => Assembly.text_eq_iff same graph.wiring.functions,
    Catalog.document_eq_iff graph.entries⟩

/-- A function without a description. -/
def plain : Graph :=
  { nodes :=
      [{ id := "d1", label := "Raw Data", payload := .dataset {} },
       { id := "f1", label := "Split", payload := .function {} }]
    edges := [⟨"e1", "d1", "f1"⟩] }

/-- With other options of each kind but the generator, the catalog is the same; so is the module of
functions if the description is, and the module of the pipeline if the ending is. -/
theorem options_shape_texts_plain :
    let first : Options := {}
    let second : Options := { pipelineName := "other", stepSuffix := "_step" }
    let third : Options := { pipelineName := "other", defaultDescription := "To do." }
    (plain.compile first).success = true ∧
      (∃ texts others, (plain.compile first).artifacts = some texts ∧
        (plain.compile second).artifacts = some others ∧ texts.functions = others.functions ∧
        texts.catalog = others.catalog) ∧
      ∃ texts others, (plain.compile first).artifacts = some texts ∧
        (plain.compile third).artifacts = some others ∧ texts.assembly = others.assembly ∧
        texts.catalog = others.catalog := by
  intro first second third
  have success : (plain.compile first).success = true := by decide
  constructor
  · exact success
  constructor
  · obtain ⟨texts, others, compiled, compiled', functions, _, catalog⟩ :=
      (options_shape_texts plain first second).2.2 success
    exact ⟨texts, others, compiled, compiled', (functions rfl).mpr rfl, catalog.mpr rfl⟩
  · obtain ⟨texts, others, compiled, compiled', _, assembly, catalog⟩ :=
      (options_shape_texts plain first third).2.2 success
    exact ⟨texts, others, compiled, compiled', (assembly rfl).mpr rfl, catalog.mpr rfl⟩

end Graph

end PipelineGraph
