/-
**What a run does to the files.**

A run first loads the options and the graph, which changes nothing (`requestOptions_spec`,
`loadGraph_spec`). If one of them does not load, the run fails and leaves everything as it was; else it
does its task (`ran_cases`). Only a compilation into a directory writes, and only if no diagnostic is an
error: the artifacts are then received in their places (`receives_of_succeeds`). A compilation exits by
its artifacts and a check by its success, and both with one code (`exitCode_compile_eq_check`).

* `files_change_only_after_success` — which runs change files, what they change, and with which codes
  they exit. Files are those of a `FileSystem`, a tree without symbolic or hard links.
-/

import PipelineGraph.Proofs.Compilation.Verdict
import PipelineGraph.Proofs.Files.Writing

namespace PipelineGraph

namespace FileSystem

variable (system : FileSystem)

/-! ### Loading -/

/-- The file of options: the one that is asked for, or else the one that the environment names with a
name that is not empty, or else the default file if it is there. -/
def optionsFile? (asked environment : Option String) : Option String :=
  asked <|> environment.filter (!·.isEmpty) <|>
    if system.isThere Files.defaultOptionsPath then some Files.defaultOptionsPath else none

/-- The options load: they stand in their file, or they are the defaults. -/
def LoadsOptions (asked environment : Option String) (options : Options) : Prop :=
  match system.optionsFile? asked environment with
  | none => options = {}
  | some path => ∃ text, system.read path = .ok text ∧ Options.ofYaml text = .ok options

/-- The graph loads from a file. -/
def LoadsGraph (path : String) (graph : Graph) : Prop :=
  ∃ text, system.read path = .ok text ∧ Graph.ofFileText path text = .ok graph

/-- Loading changes nothing and gives what the text of the file stands for. -/
theorem load_spec {α : Type} (path : String) (ofText : String → Except LoadError α) :
    ∃ loaded, (files.load path ofText).run system = (loaded, system) ∧
      ∀ value, loaded = .ok value ↔ ∃ text, system.read path = .ok text ∧ ofText text = .ok value := by
  unfold Files.load
  rw [run_bind_of (read_run path)]
  cases system.read path with
  | error cause => exact ⟨_, rfl, by simp⟩
  | ok text => exact ⟨_, rfl, by simp⟩

theorem loadGraph_spec (path : String) :
    ∃ loaded, (files.loadGraph path).run system = (loaded, system) ∧
      ∀ graph, loaded = .ok graph ↔ system.LoadsGraph path graph :=
  system.load_spec path _

theorem loadOptions_spec (path : String) :
    ∃ loaded, (files.loadOptions path).run system = (loaded, system) ∧
      ∀ options, loaded = .ok options ↔
        ∃ text, system.read path = .ok text ∧ Options.ofYaml text = .ok options := by
  obtain ⟨loaded, ran, loads⟩ :=
    system.load_spec path fun text => (Options.ofYaml text).mapError LoadError.yaml
  exact ⟨loaded, ran, fun options => by simp only [loads, mapError_eq_ok_iff]⟩

theorem optionsPath?_run (asked environment : Option String) :
    (files.optionsPath? asked environment).run system =
      (system.optionsFile? asked environment, system) := by
  unfold Files.optionsPath? optionsFile?
  cases asked with
  | some path => rfl
  | none =>
    cases environment.filter (!·.isEmpty) with
    | some path => rfl
    | none =>
      dsimp only
      rw [run_bind_of (isThere_run _)]
      cases system.isThere Files.defaultOptionsPath <;> rfl

theorem requestOptions_spec (asked environment : Option String) :
    ∃ loaded, (files.requestOptions asked environment).run system = (loaded, system) ∧
      ∀ options, loaded = .ok options ↔ system.LoadsOptions asked environment options := by
  unfold Files.requestOptions LoadsOptions
  rw [run_bind_of (system.optionsPath?_run asked environment)]
  cases system.optionsFile? asked environment with
  | none => exact ⟨.ok {}, rfl, fun options => by simp [eq_comm]⟩
  | some path =>
    obtain ⟨loaded, ran, loads⟩ := system.loadOptions_spec path
    refine ⟨loaded.mapError (path, ·), ?_, fun options => ?_⟩
    · dsimp only
      rw [run_bind_of ran]
      rfl
    · rw [mapError_eq_ok_iff, loads]

/-- What a run shows and what it leaves. -/
def ran (asked environment : Option String) (graphPath : String) (task : Task) : Outcome × FileSystem :=
  (files.run { optionsPath := asked, graphPath, task } environment).run system

/-- **A run fails and changes nothing, unless options and a graph load**; then it does its task with
them. -/
theorem ran_cases (asked environment : Option String) (graphPath : String) :
    (∃ options graph,
        (∀ other, system.LoadsOptions asked environment other ↔ other = options) ∧
        (∀ other, system.LoadsGraph graphPath other ↔ other = graph) ∧
        ∀ task, system.ran asked environment graphPath task =
          (files.perform task graph options).run system) ∨
      (¬ ∃ options graph, system.LoadsOptions asked environment options ∧
        system.LoadsGraph graphPath graph) ∧
      ∀ task, ∃ outcome, system.ran asked environment graphPath task = (outcome, system) ∧
        outcome.exitCode = 1 := by
  obtain ⟨loaded, ran, loads⟩ := system.requestOptions_spec asked environment
  obtain ⟨loaded', ran', loads'⟩ := system.loadGraph_spec graphPath
  unfold FileSystem.ran Files.run
  cases loaded with
  | error failure =>
    refine .inr ⟨?_, fun task => ?_⟩
    · rintro ⟨options, _, found, _⟩
      cases (loads options).mpr found
    · rw [run_bind_of ran]
      exact ⟨_, rfl, rfl⟩
  | ok options =>
    cases loaded' with
    | error failure =>
      refine .inr ⟨?_, fun task => ?_⟩
      · rintro ⟨_, graph, _, found⟩
        cases (loads' graph).mpr found
      · rw [run_bind_of ran]
        dsimp only
        rw [run_bind_of ran']
        exact ⟨_, rfl, rfl⟩
    | ok graph =>
      refine .inl ⟨options, graph, fun other => ?_, fun other => ?_, fun task => ?_⟩
      · rw [← loads, Except.ok.injEq, eq_comm]
      · rw [← loads', Except.ok.injEq, eq_comm]
      · rw [run_bind_of ran]
        dsimp only
        rw [run_bind_of ran']

/-! ### Doing the task -/

/-- Everything that a compilation needs: options and a graph load, and no diagnostic of the graph is an
error. -/
structure Succeeds (asked environment : Option String) (graphPath : String) (options : Options)
    (graph : Graph) : Prop where
  loadsOptions : system.LoadsOptions asked environment options
  loadsGraph : system.LoadsGraph graphPath graph
  success : (graph.compile options).success = true

/-- A compilation with an error has no artifacts; it fails and changes nothing. -/
theorem compile_run_of_failure {graph : Graph} {options : Options}
    (failure : (graph.compile options).success = false) (directory : Option String) (project : String)
    (json : Bool) :
    (files.perform (.compile directory project json) graph options).run system =
      (((graph.compile options).report json).exit 1, system) := by
  have absent : (graph.compile options).artifacts = none := by
    rw [← Option.not_isSome_iff_eq_none, graph.isSome_artifacts, failure]
    exact Bool.false_ne_true
  dsimp only [Files.perform]
  generalize (graph.compile options).report json = printed
  rw [absent]
  rfl

/-- A compilation whose artifacts are printed changes nothing, and exits by whether there are any. -/
theorem compile_run_of_print (graph : Graph) (options : Options) (project : String) (json : Bool) :
    ∃ outcome,
      (files.perform (.compile none project json) graph options).run system = (outcome, system) ∧
        outcome.exitCode = if (graph.compile options).artifacts.isSome then 0 else 1 := by
  dsimp only [Files.perform]
  generalize (graph.compile options).report json = printed
  cases (graph.compile options).artifacts with
  | none => exact ⟨_, rfl, rfl⟩
  | some artifacts => exact ⟨_, rfl, rfl⟩

/-- A check reports no artifacts and changes nothing, and exits by whether there was success. -/
theorem check_run (graph : Graph) (options : Options) (json : Bool) :
    ∃ outcome, (files.perform (.check json) graph options).run system = (outcome, system) ∧
      outcome.exitCode = if (graph.compile options).success then 0 else 1 :=
  ⟨_, rfl, rfl⟩

/-- **A compilation and a check exit with the same code**: there are artifacts just where there is
success. -/
theorem exitCode_compile_eq_check (graph : Graph) (options : Options) (project : String)
    (json json' : Bool) :
    ((files.perform (.compile none project json) graph options).run system).1.exitCode =
      ((files.perform (.check json') graph options).run system).1.exitCode := by
  obtain ⟨outcome, printed, code⟩ := system.compile_run_of_print graph options project json
  obtain ⟨outcome', checked, code'⟩ := system.check_run graph options json'
  rw [printed, checked, code, code', graph.isSome_artifacts]

variable {system}

/-- **A compilation into a directory puts the artifacts into their places.** -/
theorem compile_run_of_accepts {graph : Graph} {options : Options} {artifacts : Artifacts}
    (compiled : (graph.compile options).artifacts = some artifacts) {directory project : String}
    (accepts : system.Accepts ((Layout.ofProject directory project options).files artifacts))
    (json : Bool) :
    ∃ outcome after,
      (files.perform (.compile (some directory) project json) graph options).run system =
          (outcome, after) ∧
        outcome.exitCode = 0 ∧
        system.Receives after ((Layout.ofProject directory project options).files artifacts) := by
  obtain ⟨after, ran, received⟩ := receives_of_accepts accepts (Layout.apart_files _ artifacts)
  dsimp only [Files.perform]
  generalize (graph.compile options).report json = printed
  rw [compiled]
  dsimp only [Files.writeProject]
  rw [run_bind_of ran]
  exact ⟨_, after, rfl, rfl, received⟩

/-! ### Which runs change files -/

section Runs

variable {asked environment : Option String} {graphPath : String}

theorem ran_of_succeeds {options : Options} {graph : Graph}
    (succeeds : system.Succeeds asked environment graphPath options graph) (task : Task) :
    system.ran asked environment graphPath task = (files.perform task graph options).run system := by
  rcases system.ran_cases asked environment graphPath with
    ⟨options', graph', isOptions, isGraph, performs⟩ | ⟨notLoaded, _⟩
  · rw [(isOptions options).mp succeeds.loadsOptions, (isGraph graph).mp succeeds.loadsGraph, performs]
  · exact absurd ⟨options, graph, succeeds.loadsOptions, succeeds.loadsGraph⟩ notLoaded

/-- **Without success nothing changes**, and a compilation or a check fails. -/
theorem ran_of_not_succeeds
    (failure : ¬ ∃ options graph, system.Succeeds asked environment graphPath options graph)
    (task : Task) :
    (system.ran asked environment graphPath task).2 = system ∧
      ((∀ format, task ≠ .convert format) →
        (system.ran asked environment graphPath task).1.exitCode = 1) := by
  rcases system.ran_cases asked environment graphPath with
    ⟨options, graph, isOptions, isGraph, performs⟩ | ⟨_, fails⟩
  · have unsuccessful : (graph.compile options).success = false := by
      by_contra success
      exact failure ⟨options, graph, (isOptions _).mpr rfl, (isGraph _).mpr rfl,
        Bool.of_not_eq_false success⟩
    rw [performs]
    cases task with
    | compile directory project json =>
      rw [system.compile_run_of_failure unsuccessful]
      exact ⟨rfl, fun _ => rfl⟩
    | check json =>
      obtain ⟨outcome, checked, code⟩ := system.check_run graph options json
      rw [checked]
      rw [unsuccessful] at code
      exact ⟨rfl, fun _ => code⟩
    | convert format => exact ⟨rfl, fun other => absurd rfl (other format)⟩
  · obtain ⟨outcome, failed, code⟩ := fails task
    rw [failed]
    exact ⟨rfl, fun _ => code⟩

/-- **Only a compilation into a directory changes anything.** -/
theorem ran_of_no_directory {task : Task}
    (noDirectory : ∀ directory project json, task ≠ .compile (some directory) project json) :
    (system.ran asked environment graphPath task).2 = system := by
  rcases system.ran_cases asked environment graphPath with
    ⟨options, graph, _, _, performs⟩ | ⟨_, fails⟩
  · rw [performs]
    cases task with
    | compile directory project json =>
      cases directory with
      | none =>
        obtain ⟨outcome, printed, _⟩ := system.compile_run_of_print graph options project json
        rw [printed]
      | some directory => exact absurd rfl (noDirectory directory project json)
    | check json => rfl
    | convert format => rfl
  · obtain ⟨outcome, failed, _⟩ := fails task
    rw [failed]

section Success

variable {options : Options} {graph : Graph}
  (succeeds : system.Succeeds asked environment graphPath options graph) (project : String) (json : Bool)

include succeeds

theorem exitCode_check : (system.ran asked environment graphPath (.check json)).1.exitCode = 0 := by
  obtain ⟨outcome, checked, code⟩ := system.check_run graph options json
  rw [ran_of_succeeds succeeds, checked, code, if_pos succeeds.success]

/-- **With success the artifacts are received in their places**, if they are accepted there. -/
theorem receives_of_succeeds {directory : String}
    (accepts : ∀ artifacts, (graph.compile options).artifacts = some artifacts →
      system.Accepts ((Layout.ofProject directory project options).files artifacts)) :
    ∃ artifacts, (graph.compile options).artifacts = some artifacts ∧
      system.Receives
        (system.ran asked environment graphPath (.compile (some directory) project json)).2
        ((Layout.ofProject directory project options).files artifacts) ∧
      (system.ran asked environment graphPath (.compile (some directory) project json)).1.exitCode =
        0 := by
  have compiled := Graph.artifacts_of_success succeeds.success
  obtain ⟨outcome, after, ran, code, received⟩ :=
    compile_run_of_accepts compiled (accepts _ compiled) json
  refine ⟨_, compiled, ?_⟩
  rw [ran_of_succeeds succeeds, ran]
  exact ⟨received, code⟩

end Success

/-- A check ends with success exactly when options and a graph load and no diagnostic is an error. -/
theorem exitCode_check_iff (json : Bool) :
    (system.ran asked environment graphPath (.check json)).1.exitCode = 0 ↔
      ∃ options graph, system.Succeeds asked environment graphPath options graph := by
  constructor
  · intro code
    by_contra failure
    have code' := (ran_of_not_succeeds failure (.check json)).2 nofun
    rw [code] at code'
    cases code'
  · rintro ⟨options, graph, succeeds⟩
    exact exitCode_check succeeds json

/-- A compilation that prints its artifacts exits as a check does, also where nothing loads. -/
theorem exitCode_print_eq_check (project : String) (json json' : Bool) :
    (system.ran asked environment graphPath (.compile none project json)).1.exitCode =
      (system.ran asked environment graphPath (.check json')).1.exitCode := by
  rcases system.ran_cases asked environment graphPath with
    ⟨options, graph, _, _, performs⟩ | ⟨_, fails⟩
  · rw [performs, performs]
    exact system.exitCode_compile_eq_check graph options project json json'
  · obtain ⟨outcome, failed, code⟩ := fails (.compile none project json)
    obtain ⟨outcome', failed', code'⟩ := fails (.check json')
    rw [failed, failed', code, code']

end Runs

/-- **Files change only after success.** A compilation into a directory changes something only if options
and a graph load and no diagnostic is an error. Then, if the calls for the three files do their work, the
artifacts are received there: the modules in the directory of the pipeline and the catalog in that of
catalogs. A check, a conversion and a compilation without a directory change nothing. A compilation and a
check exit with the same code, which is that of success exactly when options and a graph load and no
diagnostic is an error. The file system is a tree without symbolic or hard links, so that files at
different locations are different files. -/
theorem files_change_only_after_success (system : FileSystem) (asked environment : Option String)
    (graphPath project : String) :
    let ran := system.ran asked environment graphPath
    let files := fun (directory : String) (options : Options) (artifacts : Artifacts) =>
      let root := Path.join directory project
      let modules :=
        ["src", packageName project, "pipelines", options.pipelineName].foldl Path.join root
      let catalogs := ["conf", "base", "catalog"].foldl Path.join root
      [(Path.join modules "nodes.py", artifacts.functions),
       (Path.join modules "pipeline.py", artifacts.assembly),
       (Path.join catalogs (options.pipelineName ++ ".yml"), artifacts.catalog)]
    let accepts := fun (directory : String) => ∀ options graph artifacts,
      system.Succeeds asked environment graphPath options graph →
        (graph.compile options).artifacts = some artifacts →
          system.Accepts (files directory options artifacts)
    (∀ directory json, (ran (.compile (some directory) project json)).2 ≠ system →
        ∃ options graph, system.Succeeds asked environment graphPath options graph) ∧
      (∀ directory json, accepts directory →
        ∀ options graph, system.Succeeds asked environment graphPath options graph →
          ∃ artifacts, (graph.compile options).artifacts = some artifacts ∧
            system.Receives (ran (.compile (some directory) project json)).2
              (files directory options artifacts)) ∧
      (∀ json format, (ran (.check json)).2 = system ∧ (ran (.convert format)).2 = system ∧
        (ran (.compile none project json)).2 = system) ∧
      (∀ json json', (ran (.compile none project json)).1.exitCode = (ran (.check json')).1.exitCode ∧
        ∀ directory, accepts directory →
          (ran (.compile (some directory) project json)).1.exitCode = (ran (.check json')).1.exitCode) ∧
      ∀ json, (ran (.check json)).1.exitCode = 0 ↔
        ∃ options graph, system.Succeeds asked environment graphPath options graph := by
  intro ran files accepts
  have places : ∀ directory options artifacts, files directory options artifacts =
      (Layout.ofProject directory project options).files artifacts := fun _ _ _ => rfl
  have received : ∀ {directory options graph} (json : Bool), accepts directory →
      system.Succeeds asked environment graphPath options graph →
        ∃ artifacts, (graph.compile options).artifacts = some artifacts ∧
          system.Receives (ran (.compile (some directory) project json)).2
            (files directory options artifacts) ∧
          (ran (.compile (some directory) project json)).1.exitCode = 0 := by
    intro directory options graph json accepted succeeds
    simp only [places]
    refine receives_of_succeeds succeeds project json fun artifacts compiled => ?_
    rw [← places]
    exact accepted options graph artifacts succeeds compiled
  refine ⟨?_, ?_, ?_, ?_, ?_⟩
  · intro directory json changed
    by_contra failure
    exact changed (ran_of_not_succeeds failure _).1
  · intro directory json accepted options graph succeeds
    obtain ⟨artifacts, compiled, inPlace, _⟩ := received json accepted succeeds
    exact ⟨artifacts, compiled, inPlace⟩
  · intro json format
    exact ⟨ran_of_no_directory nofun, ran_of_no_directory nofun, ran_of_no_directory nofun⟩
  · intro json json'
    refine ⟨exitCode_print_eq_check project json json', fun directory accepted => ?_⟩
    by_cases success : ∃ options graph, system.Succeeds asked environment graphPath options graph
    · obtain ⟨options, graph, succeeds⟩ := success
      obtain ⟨_, _, _, code⟩ := received json accepted succeeds
      exact code.trans (exitCode_check succeeds json').symm
    · have compiled := (ran_of_not_succeeds success (.compile (some directory) project json)).2 nofun
      have checked := (ran_of_not_succeeds success (.check json')).2 nofun
      exact compiled.trans checked.symm
  · exact exitCode_check_iff

/-- A graph of one function. -/
def cleaning : String :=
  "\x7b\"nodes\": [\x7b\"type\": \"function\", \"id\": \"f\", " ++
    "\"position\": \x7b\"x\": 0, \"y\": 0\x7d, \"data\": \x7b\"label\": \"clean\"\x7d\x7d], " ++
    "\"edges\": []\x7d"

/-- A file system with nothing but this graph in the working directory. -/
def fresh : FileSystem := { entries := [(["g.json"], .file cleaning.toUTF8)] }

/-- The places of the artifacts in a project. -/
def freshFiles (artifacts : Artifacts) : List (String × String) :=
  [("out/P/src/p/pipelines/data_processing/nodes.py", artifacts.functions),
   ("out/P/src/p/pipelines/data_processing/pipeline.py", artifacts.assembly),
   ("out/P/conf/base/catalog/data_processing.yml", artifacts.catalog)]

theorem files_fresh (artifacts : Artifacts) :
    (Layout.ofProject "out" "P" {}).files artifacts = freshFiles artifacts := by
  rfl

theorem compiles_fresh :
    (Graph.ofFileText "g.json" cleaning).toOption.any (fun graph =>
      (graph.compile {}).success && fresh.Accepts (freshFiles (graph.artifacts {}))) = true := by
  decide +kernel

theorem loadsOptions_fresh (options : Options) :
    fresh.LoadsOptions none none options ↔ options = {} := by
  have noFile : fresh.optionsFile? none none = none := by decide +kernel
  rw [LoadsOptions, noFile]

theorem loadsGraph_fresh (graph : Graph) :
    fresh.LoadsGraph "g.json" graph ↔ Graph.ofFileText "g.json" cleaning = .ok graph := by
  have isText : fresh.read "g.json" = .ok cleaning :=
    read_eq_ok_iff.mpr ⟨["g.json"], _, rfl, rfl, fromUTF8?_toUTF8 cleaning⟩
  simp only [LoadsGraph, isText, Except.ok.injEq, exists_eq_left']

theorem succeeds_fresh :
    (∃ graph, fresh.Succeeds none none "g.json" {} graph) ∧
      ∀ options graph artifacts, fresh.Succeeds none none "g.json" options graph →
        (graph.compile options).artifacts = some artifacts →
          options = {} ∧ fresh.Accepts (freshFiles artifacts) := by
  have compiles := compiles_fresh
  cases loaded : Graph.ofFileText "g.json" cleaning with
  | error _ =>
    rw [loaded] at compiles
    cases compiles
  | ok graph =>
    rw [loaded] at compiles
    obtain ⟨success, accepts⟩ := Bool.and_eq_true_iff.mp compiles
    refine ⟨⟨graph, (loadsOptions_fresh _).mpr rfl, (loadsGraph_fresh _).mpr loaded, success⟩, ?_⟩
    intro options other artifacts succeeds compiled
    cases (loadsOptions_fresh _).mp succeeds.loadsOptions
    cases loaded.symm.trans ((loadsGraph_fresh _).mp succeeds.loadsGraph)
    cases (Graph.artifacts_of_success success).symm.trans compiled
    exact ⟨rfl, of_decide_eq_true accepts⟩

/-- The graph is compiled into a project that is not there before. -/
theorem files_change_only_after_success_fresh :
    (fresh.ran none none "g.json" (.check true)).1.exitCode = 0 ∧
      (fresh.ran none none "g.json" (.check true)).2 = fresh ∧
      (fresh.ran none none "g.json" (.compile (some "out") "P" false)).1.exitCode = 0 ∧
      (fresh.ran none none "g.json" (.compile (some "out") "P" false)).2 ≠ fresh ∧
      ∃ (graph : Graph) (artifacts : Artifacts), fresh.LoadsGraph "g.json" graph ∧
        (graph.compile {}).artifacts = some artifacts ∧
        fresh.Receives (fresh.ran none none "g.json" (.compile (some "out") "P" false)).2
          [("out/P/src/p/pipelines/data_processing/nodes.py", artifacts.functions),
           ("out/P/src/p/pipelines/data_processing/pipeline.py", artifacts.assembly),
           ("out/P/conf/base/catalog/data_processing.yml", artifacts.catalog)] := by
  obtain ⟨⟨graph, succeeds⟩, accepted⟩ := succeeds_fresh
  obtain ⟨_, receives, unchanged, codes, code⟩ :=
    files_change_only_after_success fresh none none "g.json" "P"
  have accepts : ∀ options graph artifacts, fresh.Succeeds none none "g.json" options graph →
      (graph.compile options).artifacts = some artifacts →
        fresh.Accepts ((Layout.ofProject "out" "P" options).files artifacts) := by
    intro options graph artifacts succeeds compiled
    obtain ⟨rfl, accepts⟩ := accepted options graph artifacts succeeds compiled
    rw [files_fresh]
    exact accepts
  obtain ⟨artifacts, compiled, received⟩ := receives "out" false accepts {} graph succeeds
  have checked := (code true).mpr ⟨{}, graph, succeeds⟩
  have placed : fresh.Receives (fresh.ran none none "g.json" (.compile (some "out") "P" false)).2
      (freshFiles artifacts) := by
    rw [← files_fresh]
    exact received
  refine ⟨checked, (unchanged true .dot).1, ((codes false true).2 "out" accepts).trans checked,
    fun same => ?_, graph, artifacts, succeeds.loadsGraph, compiled, placed⟩
  have absent : (fresh.read "out/P/src/p/pipelines/data_processing/nodes.py").toOption = none := by
    decide +kernel
  rw [same] at placed
  have text := placed.text _ List.mem_cons_self
  rw [text] at absent
  cases absent

end FileSystem

end PipelineGraph
