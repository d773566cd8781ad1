/-
**When the artifacts stay inside their project.**

The names of the project and of the pipeline are put into paths as they are. `files_inside_iff` says
when the paths of all artifacts are inside the root of the project: a pipeline whose name does not start
at the root must not lead up; then the catalog is inside, and the modules are inside if the name of the
project does not lead up either, or, where this starts at the root, if it is its own package name. A
pipeline whose name starts at the root is its own directory, wherever that is.

The package is named segment by segment (`splitSegments_packageChars`): naming makes no slashes and no
dots, so the package leads up just where the project does.
-/

import PipelineGraph.Proofs.Files.Components
import PipelineGraph.Proofs.Text.Canonical

namespace PipelineGraph

/-! ### The name of a package -/

namespace Text

/-- What is neither a letter nor the combining dot is the lower case of itself only. -/
theorem eq_of_mem_lowerChar {c d : Char} (notLetter : isAlphabetic d = false) (notDot : d ≠ '\u0307')
    (image : d ∈ lowerChar c) : c = d := by
  by_cases plain : c = 'İ'
  · subst plain
    rcases mem_lowerChar_dotted_iff.mp image with rfl | dot
    · exact absurd notLetter (by decide)
    · exact absurd dot notDot
  · rcases lowerChar_cases plain with same | ⟨letter, lower, isLetter⟩
    · rw [same, List.mem_singleton] at image
      exact image.symm
    · rw [lower, List.mem_singleton] at image
      rw [image, isLetter] at notLetter
      cases notLetter

/-- **A canonical text has slashes and dots where the text has them.** -/
theorem mem_of_mem_canonicalChars {d : Char} (notLetter : isAlphabetic d = false)
    (notDot : d ≠ '\u0307') (notUnderscore : d ≠ '_') {text : List Char} :
    ∀ {afterWhite}, d ∈ canonicalChars afterWhite text → d ∈ text := by
  induction text with
  | nil => exact id
  | cons c rest ih =>
    intro afterWhite inside
    rw [canonicalChars] at inside
    split at inside
    · split at inside
      · exact List.mem_cons_of_mem c (ih inside)
      · exact List.mem_cons_of_mem c (ih ((List.mem_cons.mp inside).resolve_left notUnderscore))
    · rcases List.mem_append.mp inside with image | later
      · rw [eq_of_mem_lowerChar notLetter notDot image]
        exact List.mem_cons_self
      · exact List.mem_cons_of_mem c (ih later)

/-- **The canonical form starts anew after each slash.** -/
theorem canonicalChars_append_slash (rest front : List Char) :
    ∀ afterWhite, canonicalChars afterWhite (front ++ '/' :: rest) =
      canonicalChars afterWhite front ++ '/' :: canonicalChars false rest := by
  induction front with
  | nil => exact fun _ => rfl
  | cons c front ih =>
    intro afterWhite
    rw [List.cons_append, canonicalChars, canonicalChars, ih, ih]
    split
    · split
      · rfl
      · rfl
    · rw [List.append_assoc]

/-- **A canonical text of dots is the text itself.** -/
theorem canonicalChars_of_dots {text : List Char}
    (dots : ∀ d ∈ canonicalChars false text, d = '.') : canonicalChars false text = text := by
  induction text with
  | nil => rfl
  | cons c rest ih =>
    rw [canonicalChars] at dots ⊢
    split at dots
    · rw [if_neg Bool.false_ne_true] at dots
      exact absurd (dots '_' List.mem_cons_self) (by decide)
    · rename_i notWhite
      obtain ⟨first, later⟩ := List.forall_mem_append.mp dots
      have same : lowerChar c = [c] := by
        by_cases plain : c = 'İ'
        · subst plain
          exact absurd (first 'i' (mem_lowerChar_dotted_iff.mpr (.inl rfl))) (by decide)
        · refine (lowerChar_cases plain).resolve_right ?_
          rintro ⟨letter, lower, isLetter⟩
          rw [first letter (lower ▸ List.mem_cons_self)] at isLetter
          exact absurd isLetter (by decide)
      rw [if_neg notWhite, same, ih later, List.singleton_append]

end Text

/-- The characters of the name of a package. -/
def packageChars (project : List Char) : List Char :=
  (Text.canonicalChars false project).map fun c => if c = '-' then '_' else c

theorem toList_packageName (project : String) :
    (packageName project).toList = packageChars project.toList := by
  rw [packageName, canonical, String.toList_ofList, String.toList_ofList, packageChars]

theorem packageChars_append_slash (front rest : List Char) :
    packageChars (front ++ '/' :: rest) = packageChars front ++ '/' :: packageChars rest := by
  rw [packageChars, Text.canonicalChars_append_slash, List.map_append, List.map_cons]
  rfl

theorem slash_notMem_packageChars {segment : List Char} (noSlash : '/' ∉ segment) :
    '/' ∉ packageChars segment := by
  intro inside
  obtain ⟨c, isCanonical, same⟩ := List.mem_map.mp inside
  by_cases hyphen : c = '-'
  · rw [if_pos hyphen] at same
    cases same
  · rw [if_neg hyphen] at same
    subst same
    exact noSlash (Text.mem_of_mem_canonicalChars (by decide) (by decide) (by decide) isCanonical)

/-- **The package is named segment by segment.** -/
theorem splitSegments_packageChars (project : List Char) :
    Path.splitSegments (packageChars project) = (Path.splitSegments project).map packageChars := by
  by_cases slash : '/' ∈ project
  · obtain ⟨front, rest, split, noSlash⟩ := List.eq_append_cons_of_mem slash
    have shorter : rest.length < project.length := by
      rw [split, List.length_append, List.length_cons]
      omega
    have alone := slash_notMem_packageChars noSlash
    rw [split, packageChars_append_slash, Path.splitSegments_append_slash, Path.splitSegments_append_slash,
      Path.splitSegments_of_noSlash noSlash, Path.splitSegments_of_noSlash alone, List.map_append,
      splitSegments_packageChars rest, List.map_singleton]
  · rw [Path.splitSegments_of_noSlash slash,
      Path.splitSegments_of_noSlash (slash_notMem_packageChars slash), List.map_singleton]
termination_by project.length

/-- **A segment of dots is the name of itself**, and of no other segment. -/
theorem packageChars_eq_iff {segment dots : List Char} (areDots : ∀ d ∈ dots, d = '.') :
    packageChars segment = dots ↔ segment = dots := by
  have unhyphened : ∀ {text : List Char}, (∀ d ∈ text, d = '.') →
      text.map (fun c => if c = '-' then '_' else c) = text := by
    intro text allDots
    refine (List.map_congr_left fun d inside => ?_).trans (List.map_id text)
    rw [allDots d inside]
    rfl
  constructor
  · intro same
    have canonicalDots : ∀ d ∈ Text.canonicalChars false segment, d = '.' := by
      intro d inside
      have dot : (if d = '-' then '_' else d) = '.' :=
        areDots _ (same ▸ List.mem_map.mpr ⟨d, inside, rfl⟩)
      by_cases hyphen : d = '-'
      · rw [if_pos hyphen] at dot
        cases dot
      · rwa [if_neg hyphen] at dot
    rw [← same, packageChars, unhyphened canonicalDots, Text.canonicalChars_of_dots canonicalDots]
  · rintro rfl
    have settled : ∀ d ∈ segment, Text.IsSettled d := by
      intro d inside
      rw [areDots d inside]
      constructor <;> decide
    rw [packageChars, Text.canonicalChars_of_settled settled, unhyphened areDots]

theorem names_packageChars (project : List Char) :
    Path.names (packageChars project) = (Path.names project).map packageChars := by
  have idle : ∀ segment, Path.isIdle (packageChars segment) = Path.isIdle segment := by
    intro segment
    have empty : packageChars segment = [] ↔ segment = [] := packageChars_eq_iff (by simp)
    have dot : packageChars segment = ['.'] ↔ segment = ['.'] := packageChars_eq_iff (by simp)
    rw [Path.isIdle, Path.isIdle, Bool.eq_iff_iff]
    simp only [Bool.or_eq_true, decide_eq_true_eq, empty, dot]
  rw [Path.names, splitSegments_packageChars, List.filter_map, Path.names]
  exact congrArg _ (List.filter_congr fun segment _ => congrArg _ (idle segment))

theorem up_mem_names_packageChars_iff {project : List Char} :
    Path.up ∈ Path.names (packageChars project) ↔ Path.up ∈ Path.names project := by
  have areDots : ∀ d ∈ Path.up, d = '.' :=
    List.forall_mem_cons.mpr ⟨rfl, List.forall_mem_singleton.mpr rfl⟩
  rw [names_packageChars, List.mem_map]
  constructor
  · rintro ⟨segment, inside, leadsUp⟩
    rwa [(packageChars_eq_iff areDots).mp leadsUp] at inside
  · exact fun inside => ⟨_, inside, (packageChars_eq_iff areDots).mpr rfl⟩

/-- **The package starts at the root just if the project does.** -/
theorem isAbsolute_packageChars (project : List Char) :
    Path.isAbsolute (packageChars project) = Path.isAbsolute project := by
  cases project with
  | nil => rfl
  | cons c rest =>
    by_cases slash : c = '/'
    · subst slash
      rw [show packageChars ('/' :: rest) = '/' :: packageChars rest from
        packageChars_append_slash [] rest]
      rfl
    · have relative : Path.isAbsolute (c :: rest) = false := by simpa [Path.isAbsolute] using slash
      rw [relative, Bool.eq_false_iff]
      intro absolute
      obtain ⟨first, others, split⟩ := List.exists_cons_of_ne_nil (Path.splitSegments_ne_nil rest)
      have named := splitSegments_packageChars (c :: rest)
      rw [Path.splitSegments_cons slash split, List.map_cons] at named
      -- the first segment of an absolute path is empty, and only the empty segment is named so
      obtain ⟨tail, starts⟩ := List.head?_eq_some_iff.mp (of_decide_eq_true absolute)
      rw [starts, Path.splitSegments, if_pos rfl] at named
      have empty : c :: first = [] := (packageChars_eq_iff (by simp)).mp (List.cons.inj named).1.symm
      cases empty

/-- A project that starts at the root has as many components as its package. -/
theorem length_components_packageChars {project : List Char}
    (absolute : Path.isAbsolute project = true) :
    (Path.components (packageChars project)).length = (Path.components project).length := by
  have starts := Path.isAbsolute_iff.mp absolute
  have starts' := Path.isAbsolute_iff.mp ((isAbsolute_packageChars project).trans absolute)
  rw [Path.components_eq, Path.components_eq, starts, starts', names_packageChars, List.length_append,
    List.length_append, List.length_map]

/-! ### The paths of the artifacts -/

namespace Layout

/-- Parts that start with names add their names one after the other. -/
theorem components_inside {parts : List String}
    (named : ∀ part ∈ parts, Path.beginning part.toList = []) (directory : String) :
    Path.components (inside directory parts).toList =
      Path.components directory.toList ++ parts.flatMap fun part => Path.names part.toList := by
  induction parts generalizing directory with
  | nil => exact (List.append_nil _).symm
  | cons part rest ih =>
    obtain ⟨first, later⟩ := List.forall_mem_cons.mp named
    rw [inside, List.foldl_cons, ← inside, ih later, Path.toList_join,
      Path.components_joinChars_named first, List.append_assoc, List.flatMap_cons]

/-- **A part of any kind follows parts that start with names.** -/
theorem components_join_inside {directory part : String} (parts : List String)
    (named : ∀ part ∈ parts, Path.beginning part.toList = [])
    (nonempty : (inside directory parts).toList ≠ []) (relative : Path.isAbsolute part.toList = false) :
    Path.components (Path.join (inside directory parts) part).toList =
      Path.components directory.toList ++
        ((parts.flatMap fun part => Path.names part.toList) ++ Path.names part.toList) := by
  rw [Path.toList_join, Path.components_joinChars nonempty relative, components_inside named,
    List.append_assoc]

variable {layout : Layout}

/-- The directory of the package. -/
def packageDirectory (layout : Layout) : String := inside layout.root ["src", layout.package]

/-- Where the package does not start at the root, its directory is in the project. -/
theorem components_packageDirectory (relative : Path.isAbsolute layout.package.toList = false) :
    Path.components layout.packageDirectory.toList =
      Path.components layout.root.toList ++ "src".toList :: Path.names layout.package.toList :=
  components_join_inside ["src"] (by decide) (Path.join_ne_nil (.inr (by decide))) relative

theorem packageDirectory_of_isAbsolute (absolute : Path.isAbsolute layout.package.toList = true) :
    layout.packageDirectory = layout.package :=
  Path.join_of_isAbsolute absolute

theorem isAbsolute_append_yml (pipeline : List Char) :
    Path.isAbsolute (pipeline ++ ".yml".toList) = Path.isAbsolute pipeline := by
  cases pipeline <;> rfl

section Relative

variable (relative : Path.isAbsolute layout.pipeline.toList = false)
include relative

/-- Where the pipeline does not start at the root, it is in the package. -/
theorem components_pipelineDirectory :
    Path.components layout.pipelineDirectory.toList =
      Path.components layout.packageDirectory.toList ++
        "pipelines".toList :: Path.names layout.pipeline.toList :=
  components_join_inside ["pipelines"] (by decide) (Path.join_ne_nil (.inr (by decide))) relative

/-- Where the pipeline does not start at the root, the catalog is in the project. -/
theorem components_catalogPath :
    Path.components layout.catalogPath.toList =
      Path.components layout.root.toList ++ "conf".toList :: "base".toList :: "catalog".toList ::
        Path.names (layout.pipeline ++ ".yml").toList := by
  have relative : Path.isAbsolute (layout.pipeline ++ ".yml").toList = false := by
    rw [String.toList_append, isAbsolute_append_yml, relative]
  exact components_join_inside ["conf", "base", "catalog"] (by decide)
    (Path.join_ne_nil (.inr (by decide))) relative

end Relative

section Absolute

variable (absolute : Path.isAbsolute layout.pipeline.toList = true)
include absolute

theorem pipelineDirectory_of_isAbsolute : layout.pipelineDirectory = layout.pipeline :=
  Path.join_of_isAbsolute absolute

theorem catalogPath_of_isAbsolute : layout.catalogPath = layout.pipeline ++ ".yml" := by
  refine Path.join_of_isAbsolute ?_
  rw [String.toList_append, isAbsolute_append_yml, absolute]

end Absolute

/-- **The modules are inside just if their directory stays within the root.** -/
theorem files_inside_iff_directories (artifacts : Artifacts) :
    (∀ file ∈ layout.files artifacts, Path.Inside layout.root file.1) ↔
      Path.Within layout.root layout.pipelineDirectory ∧ Path.Inside layout.root layout.catalogPath := by
  have nonempty : layout.pipelineDirectory.toList ≠ [] :=
    Path.join_ne_nil (.inl (Path.join_ne_nil (.inr (by decide))))
  have nodes : Path.Inside layout.root layout.nodesPath ↔
      Path.Within layout.root layout.pipelineDirectory :=
    Path.inside_join_iff nonempty rfl rfl (by decide)
  have pipeline : Path.Inside layout.root layout.pipelinePath ↔
      Path.Within layout.root layout.pipelineDirectory :=
    Path.inside_join_iff nonempty rfl rfl (by decide)
  rw [files, List.forall_mem_cons, List.forall_mem_cons, List.forall_mem_singleton, nodes, pipeline,
    ← and_assoc, and_self]

/-- The file of the catalog leads up only where the pipeline does. -/
theorem up_mem_names_of_yml {pipeline : List Char}
    (leadsUp : Path.up ∈ Path.names (pipeline ++ ".yml".toList)) : Path.up ∈ Path.names pipeline := by
  have noSlash : '/' ∉ ".yml".toList := by decide
  obtain ⟨front, last, split, longer⟩ := Path.splitSegments_append noSlash pipeline
  obtain ⟨inside, isName⟩ := List.mem_filter.mp leadsUp
  rw [longer] at inside
  refine List.mem_filter.mpr ⟨?_, isName⟩
  rw [split]
  rcases List.mem_append.mp inside with early | final
  · exact List.mem_append_left _ early
  · have ending := congrArg List.getLast? (List.mem_singleton.mp final)
    rw [List.getLast?_append] at ending
    cases ending

/-- **A pipeline that does not start at the root** keeps the artifacts inside just if it does not lead up
and the package stays within the root. -/
theorem files_inside_iff_of_relative (artifacts : Artifacts)
    (relative : Path.isAbsolute layout.pipeline.toList = false)
    (long : (Path.components layout.root.toList).length ≤
      (Path.components layout.packageDirectory.toList).length) :
    (∀ file ∈ layout.files artifacts, Path.Inside layout.root file.1) ↔
      Path.up ∉ Path.names layout.pipeline.toList ∧
        Path.Within layout.root layout.packageDirectory := by
  have modules := Path.within_added_iff (components_pipelineDirectory relative) long
  have catalog := Path.inside_iff (components_catalogPath relative)
  have pipelines : Path.up ∉ "pipelines".toList :: Path.names layout.pipeline.toList ↔
      Path.up ∉ Path.names layout.pipeline.toList := by
    rw [List.mem_cons, not_or, and_iff_right (by decide)]
  rw [files_inside_iff_directories, modules, catalog, pipelines]
  constructor
  · exact fun both => ⟨both.1.2, both.1.1⟩
  · rintro ⟨noUp, stays⟩
    have noUp' : Path.up ∉ Path.names (layout.pipeline ++ ".yml").toList := by
      rw [String.toList_append]
      exact mt up_mem_names_of_yml noUp
    refine ⟨⟨stays, noUp⟩, List.cons_ne_nil _ _, ?_⟩
    rw [List.mem_cons, List.mem_cons, List.mem_cons, not_or, not_or, not_or]
    exact ⟨by decide, by decide, by decide, noUp'⟩

section Project

variable (directory : String) {project : String} (options : Options)

theorem isAbsolute_package :
    Path.isAbsolute (ofProject directory project options).package.toList =
      Path.isAbsolute project.toList := by
  rw [ofProject, toList_packageName, isAbsolute_packageChars]

/-- **A project that starts at the root** has its package at the root too, so the package stays within
the project just if it is the project. -/
theorem package_within_iff_of_isAbsolute (absolute : Path.isAbsolute project.toList = true) :
    (Path.components (ofProject directory project options).packageDirectory.toList).length =
        (Path.components (ofProject directory project options).root.toList).length ∧
      (Path.Within (ofProject directory project options).root
          (ofProject directory project options).packageDirectory ↔
        Path.components (packageName project).toList = Path.components project.toList) := by
  have root : (ofProject directory project options).root = project :=
    Path.join_of_isAbsolute absolute
  have package : (ofProject directory project options).packageDirectory = packageName project :=
    packageDirectory_of_isAbsolute ((isAbsolute_package directory options).trans absolute)
  have length : (Path.components (packageName project).toList).length =
      (Path.components project.toList).length := by
    rw [toList_packageName, length_components_packageChars absolute]
  rw [root, package]
  refine ⟨length, ?_, fun same => ⟨[], by rw [same, List.append_nil], List.not_mem_nil⟩⟩
  rintro ⟨rest, same, _⟩
  rw [same, List.length_append, Nat.add_eq_left, List.length_eq_zero_iff] at length
  rw [same, length, List.append_nil]

/-- **Any other project** has its package inside, so the package stays within the project just if the
project does not lead up. -/
theorem package_within_iff_of_relative (relative : Path.isAbsolute project.toList = false) :
    (Path.components (ofProject directory project options).root.toList).length ≤
        (Path.components (ofProject directory project options).packageDirectory.toList).length ∧
      (Path.Within (ofProject directory project options).root
          (ofProject directory project options).packageDirectory ↔
        Path.up ∉ Path.names project.toList) := by
  have added := components_packageDirectory ((isAbsolute_package directory options).trans relative)
  have names : Path.up ∉ "src".toList :: Path.names (packageName project).toList ↔
      Path.up ∉ Path.names project.toList := by
    rw [List.mem_cons, not_or, and_iff_right (by decide), toList_packageName,
      up_mem_names_packageChars_iff]
  rw [Path.within_iff added, added, List.length_append]
  exact ⟨Nat.le_add_right _ _, names⟩

end Project

/-- **When the artifacts stay inside their project.** No two of their paths have the same components.
All are inside the root of the project just in these cases: the name of the pipeline starts at the root,
is that of a path within the project, and with the ending of the catalog that of one inside it; or it
does not start at the root and does not lead up, and the name of the project does not lead up or, if it
starts at the root, is its own package name. In a file system, which is a tree without symbolic or hard
links, paths inside the root lead to places below that of the root. -/
theorem files_inside_iff (directory project : String) (options : Options) (artifacts : Artifacts) :
    let layout := ofProject directory project options
    ((layout.files artifacts).Pairwise fun file other =>
        Path.components file.1.toList ≠ Path.components other.1.toList) ∧
      ((∀ file ∈ layout.files artifacts, Path.Inside layout.root file.1) ↔
        if Path.isAbsolute options.pipelineName.toList then
          Path.Within layout.root options.pipelineName ∧
            Path.Inside layout.root (options.pipelineName ++ ".yml")
        else ".." ∉ Path.segments options.pipelineName ∧
          if Path.isAbsolute project.toList then
            Path.components (packageName project).toList = Path.components project.toList
          else ".." ∉ Path.segments project) ∧
      ∀ (system : FileSystem) (place : Location), system.locate layout.root = .ok place →
        ∀ file ∈ layout.files artifacts, Path.Inside layout.root file.1 →
          ∀ location, system.locate file.1 = .ok location →
            ∃ names, names ≠ [] ∧ location = place ++ names := by
  intro layout
  refine ⟨?_, ?_, fun system place foundRoot file _ inside location found =>
    FileSystem.locate_inside inside foundRoot found⟩
  · refine (layout.files_named artifacts).imp ?_
    rintro file other ⟨name, name', ends, isName, ends', isName', different⟩ same
    have last := ends.getLast?_components isName
    rw [same, ends'.getLast?_components isName'] at last
    exact different (String.toList_inj.mp (Option.some.inj last).symm)
  · have name : layout.pipeline = options.pipelineName := rfl
    rw [← Path.up_mem_names_iff, ← Path.up_mem_names_iff, ← name]
    cases absolute : Path.isAbsolute layout.pipeline.toList with
    | true =>
      rw [if_pos rfl, files_inside_iff_directories, pipelineDirectory_of_isAbsolute absolute,
        catalogPath_of_isAbsolute absolute]
    | false =>
      rw [if_neg Bool.false_ne_true]
      cases absoluteProject : Path.isAbsolute project.toList with
      | true =>
        obtain ⟨long, stays⟩ := package_within_iff_of_isAbsolute directory options absoluteProject
        rw [if_pos rfl, files_inside_iff_of_relative artifacts absolute long.ge, stays]
      | false =>
        obtain ⟨long, stays⟩ := package_within_iff_of_relative directory options absoluteProject
        rw [if_neg Bool.false_ne_true, files_inside_iff_of_relative artifacts absolute long, stays]

/-- The directories of a project and of its catalog. -/
def demoSystem : FileSystem :=
  { entries :=
      [(["work"], .directory), (["work", "Demo"], .directory), (["work", "Demo", "conf"], .directory),
       (["work", "Demo", "conf", "base"], .directory),
       (["work", "Demo", "conf", "base", "catalog"], .directory)] }

/-- The artifacts of a project with plain names are inside, and so is the place of its catalog. -/
theorem files_inside_demo :
    (∀ file ∈ (ofProject "/work" "Demo" {}).files default,
      Path.Inside (ofProject "/work" "Demo" {}).root file.1) ∧
      ∃ names, names ≠ [] ∧
        ["work", "Demo", "conf", "base", "catalog", "data_processing.yml"] =
          ["work", "Demo"] ++ names := by
  obtain ⟨_, inside, below⟩ := files_inside_iff "/work" "Demo" {} default
  have plain : ".." ∉ Path.segments "data_processing" ∧ ".." ∉ Path.segments "Demo" := by decide +kernel
  have allInside := inside.mpr (by
    rw [if_neg (by decide), if_neg (by decide)]
    exact plain)
  have isFile : ((ofProject "/work" "Demo" {}).catalogPath, "") ∈
      (ofProject "/work" "Demo" {}).files default := by decide +kernel
  exact ⟨allInside, below demoSystem ["work", "Demo"] rfl _ isFile (allInside _ isFile) _ rfl⟩

/-- **A pipeline whose name starts at the root is written there**, outside the project. -/
theorem files_leave_project :
    (ofProject "/work" "Demo" { pipelineName := "/etc/cron.d" }).root = "/work/Demo" ∧
      (ofProject "/work" "Demo" { pipelineName := "/etc/cron.d" }).nodesPath =
        "/etc/cron.d/nodes.py" ∧
      ¬ Path.Inside (ofProject "/work" "Demo" { pipelineName := "/etc/cron.d" }).root
        (ofProject "/work" "Demo" { pipelineName := "/etc/cron.d" }).nodesPath := by
  have root : (ofProject "/work" "Demo" { pipelineName := "/etc/cron.d" }).root = "/work/Demo" := by
    decide +kernel
  have nodes : (ofProject "/work" "Demo" { pipelineName := "/etc/cron.d" }).nodesPath =
      "/etc/cron.d/nodes.py" := by
    decide +kernel
  refine ⟨root, nodes, ?_⟩
  rw [root, nodes]
  rintro ⟨rest, same, _⟩
  have isPrefix : Path.components "/work/Demo".toList <+:
      Path.components "/etc/cron.d/nodes.py".toList := ⟨rest, same.symm⟩
  exact absurd isPrefix (by decide +kernel)

end Layout

end PipelineGraph
