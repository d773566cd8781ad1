/-
**Where paths lead.**

However its directory is written, a path leads to a place whose last name is the last segment of the
path, if that segment is a name of its own. Paths with different last names so never lead to one place,
and the three artifacts of a project get three places (`Layout.apart_files`), whatever the project and
the pipeline are called.
-/

import PipelineGraph.Files.FileSystem
import PipelineGraph.Files.Layout
import PipelineGraph.Proofs.Results

namespace PipelineGraph

/-! ### The last segment of a path -/

namespace Path

theorem splitSegments_ne_nil (path : List Char) : splitSegments path ≠ [] := by
  cases path with
  | nil => exact nofun
  | cons c rest =>
    rw [splitSegments]
    split
    · exact nofun
    · split <;> exact nofun

/-- A character that is no slash belongs to the first segment. -/
theorem splitSegments_cons {c : Char} (notSlash : c ≠ '/') {rest segment : List Char}
    {segments : List (List Char)} (split : splitSegments rest = segment :: segments) :
    splitSegments (c :: rest) = (c :: segment) :: segments := by
  rw [splitSegments, if_neg notSlash, split]

/-- **A path is split at every slash.** -/
theorem splitSegments_append_slash (front rest : List Char) :
    splitSegments (front ++ '/' :: rest) = splitSegments front ++ splitSegments rest := by
  induction front with
  | nil => simp [splitSegments]
  | cons c front ih =>
    by_cases slash : c = '/'
    · rw [List.cons_append, splitSegments, splitSegments, if_pos slash, if_pos slash, ih,
        List.cons_append]
    · obtain ⟨segment, segments, split⟩ := List.exists_cons_of_ne_nil (splitSegments_ne_nil front)
      rw [splitSegments_cons slash split, List.cons_append]
      rw [split, List.cons_append] at ih
      exact splitSegments_cons slash ih

/-- What has no slash is one segment. -/
theorem splitSegments_of_noSlash {text : List Char} (noSlash : '/' ∉ text) :
    splitSegments text = [text] := by
  induction text with
  | nil => rfl
  | cons c text ih =>
    obtain ⟨notSlash, noSlash⟩ := not_or.mp (mt List.mem_cons.mpr noSlash)
    exact splitSegments_cons (Ne.symm notSlash) (ih noSlash)

/-- **What has no slash stays at the end of the last segment.** -/
theorem splitSegments_append {ending : List Char} (noSlash : '/' ∉ ending) (path : List Char) :
    ∃ front last, splitSegments path = front ++ [last] ∧
      splitSegments (path ++ ending) = front ++ [last ++ ending] := by
  induction path with
  | nil => exact ⟨[], [], rfl, splitSegments_of_noSlash noSlash⟩
  | cons c path ih =>
    obtain ⟨front, last, split, longer⟩ := ih
    by_cases slash : c = '/'
    · refine ⟨[] :: front, last, ?_, ?_⟩
      · rw [splitSegments, if_pos slash, split, List.cons_append]
      · rw [List.cons_append, splitSegments, if_pos slash, longer, List.cons_append]
    · cases front with
      | nil => exact ⟨[], c :: last, splitSegments_cons slash split, splitSegments_cons slash longer⟩
      | cons segment front =>
        exact ⟨(c :: segment) :: front, last, splitSegments_cons slash split,
          splitSegments_cons slash longer⟩

/-- **A part of a path keeps its segments.** -/
theorem splitSegments_joinChars (directory part : List Char) :
    ∃ front, splitSegments (joinChars directory part) = front ++ splitSegments part := by
  unfold joinChars
  split
  · exact ⟨[], rfl⟩
  · split
    · rename_i closed
      rcases Bool.or_eq_true_iff.mp closed with empty | slash
      · rw [List.isEmpty_iff.mp empty]
        exact ⟨[], rfl⟩
      · obtain ⟨front, rfl⟩ := List.getLast?_eq_some_iff.mp (of_decide_eq_true slash)
        refine ⟨splitSegments front, ?_⟩
        rw [List.append_assoc, List.singleton_append, splitSegments_append_slash]
    · exact ⟨_, splitSegments_append_slash directory part⟩

/-- The last segment of a path. -/
def EndsIn (path name : String) : Prop := ∃ front, segments path = front ++ [name]

theorem EndsIn.join {part name : String} (ends : EndsIn part name) (directory : String) :
    EndsIn (join directory part) name := by
  obtain ⟨front, split⟩ := ends
  obtain ⟨above, joined⟩ := splitSegments_joinChars directory.toList part.toList
  refine ⟨above.map String.ofList ++ front, ?_⟩
  rw [segments, Path.join, String.toList_ofList, joined, List.map_append, List.append_assoc, ← split,
    segments]

/-- The segment is the name of a directory or of a file. -/
def IsName (segment : String) : Prop := segment ≠ "" ∧ segment ≠ "." ∧ segment ≠ ".."

instance (segment : String) : Decidable (IsName segment) :=
  inferInstanceAs (Decidable (_ ∧ _ ∧ _))

end Path

/-! ### The last name of a place -/

namespace FileSystem

variable {system : FileSystem}

/-- A step starts at a directory. -/
theorem isDirectory_of_step {location next : Location} {segment : String}
    (stepped : system.step location segment = .ok next) :
    system.entryAt? location = some .directory := by
  unfold step at stepped
  split at stepped
  · cases stepped
  · cases stepped
  · assumption

/-- **A name leads one step down.** -/
theorem eq_append_of_step {location next : Location} {name : String} (isName : Path.IsName name)
    (stepped : system.step location name = .ok next) : next = location ++ [name] := by
  obtain ⟨notEmpty, notHere, notAbove⟩ := isName
  have isDirectory := isDirectory_of_step stepped
  simp only [step, isDirectory, notEmpty, notHere, notAbove, decide_false, Bool.or_false,
    Bool.false_eq_true, if_false] at stepped
  split at stepped
  · cases stepped
  · cases stepped
    rfl

/-- **A path leads to a place with the path's last name.** -/
theorem locate_endsIn {path name : String} (ends : Path.EndsIn path name) (isName : Path.IsName name)
    {location : Location} (found : system.locate path = .ok location) :
    location.getLast? = some name := by
  obtain ⟨front, split⟩ := ends
  obtain ⟨_, _, walked⟩ := bind_eq_ok_iff.mp found
  rw [split, List.foldlM_append, bind_eq_ok_iff] at walked
  obtain ⟨above, _, walked⟩ := walked
  rw [List.foldlM_cons, bind_eq_ok_iff] at walked
  obtain ⟨last, stepped, ended⟩ := walked
  cases ended
  rw [eq_append_of_step isName stepped, List.getLast?_concat]

/-- Two paths never lead to one place. -/
def Apart (path other : String) : Prop :=
  ∀ (system : FileSystem) (location : Location),
    system.locate path = .ok location → system.locate other ≠ .ok location

/-- **Paths with different last names never lead to one place.** -/
theorem apart_of_names {path other name name' : String} (ends : Path.EndsIn path name)
    (isName : Path.IsName name) (ends' : Path.EndsIn other name') (isName' : Path.IsName name')
    (different : name ≠ name') : Apart path other := by
  intro system location found found'
  have same := (locate_endsIn ends isName found).symm.trans (locate_endsIn ends' isName' found')
  exact different (Option.some.inj same)

end FileSystem

/-! ### The places of the artifacts -/

namespace Layout

variable (layout : Layout)

theorem nodesPath_endsIn : Path.EndsIn layout.nodesPath "nodes.py" :=
  .join ⟨[], rfl⟩ _

theorem pipelinePath_endsIn : Path.EndsIn layout.pipelinePath "pipeline.py" :=
  .join ⟨[], rfl⟩ _

/-- The name of the catalog ends like those of all catalogs, whatever the pipeline is called. -/
theorem catalogPath_endsIn :
    ∃ name, Path.EndsIn layout.catalogPath name ∧ name.toList.getLast? = some 'l' := by
  have noSlash : '/' ∉ ".yml".toList := by decide
  obtain ⟨front, last, _, split⟩ := Path.splitSegments_append noSlash layout.pipeline.toList
  refine ⟨String.ofList (last ++ ".yml".toList), .join ⟨front.map String.ofList, ?_⟩ _, ?_⟩
  · rw [Path.segments, String.toList_append, split, List.map_append, List.map_singleton]
  · rw [String.toList_ofList, List.getLast?_append]
    rfl

/-- **The artifacts have last names of their own.** -/
theorem files_named (artifacts : Artifacts) :
    (layout.files artifacts).Pairwise fun file other =>
      ∃ name name', Path.EndsIn file.1 name ∧ Path.IsName name ∧
        Path.EndsIn other.1 name' ∧ Path.IsName name' ∧ name ≠ name' := by
  obtain ⟨name, isCatalog, ending⟩ := layout.catalogPath_endsIn
  have differs : ∀ other : String, other.toList.getLast? ≠ some 'l' → name ≠ other := by
    rintro other different rfl
    exact different ending
  have isName : Path.IsName name :=
    ⟨differs _ (by decide), differs _ (by decide), differs _ (by decide)⟩
  have nodes := layout.nodesPath_endsIn
  have pipeline := layout.pipelinePath_endsIn
  have isNodes : Path.IsName "nodes.py" := by decide
  have isPipeline : Path.IsName "pipeline.py" := by decide
  refine List.pairwise_cons.mpr ⟨?_, List.pairwise_pair.mpr ?_⟩
  · refine List.forall_mem_cons.mpr ⟨?_, List.forall_mem_singleton.mpr ?_⟩
    · exact ⟨_, _, nodes, isNodes, pipeline, isPipeline, by decide⟩
    · exact ⟨_, _, nodes, isNodes, isCatalog, isName, (differs _ (by decide)).symm⟩
  · exact ⟨_, _, pipeline, isPipeline, isCatalog, isName, (differs _ (by decide)).symm⟩

/-- **The artifacts have places of their own.** -/
theorem apart_files (artifacts : Artifacts) :
    (layout.files artifacts).Pairwise fun file other => FileSystem.Apart file.1 other.1 :=
  (layout.files_named artifacts).imp fun ⟨_, _, ends, isName, ends', isName', different⟩ =>
    FileSystem.apart_of_names ends isName ends' isName' different

end Layout

end PipelineGraph
