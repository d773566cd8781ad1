/-
**Files written one after the other.**

Writing a file makes the directories on the way to it and puts the file where its path leads. What has
been written stays readable as long as directories stay directories, because paths then lead where they
led before (`walk_of_keeps`).

* `createDirectories_spec`, `write_spec` — what one call changes, and that paths still lead there.
* `receives_of_accepts` — what many calls do, if each of them does its work and no two of the paths lead
  to one place: each file has its text, the directories above it are there, and everything else is as it
  was but for directories that have been made on the way.
* `apart_of_names` — paths whose last names differ never lead to one place.
-/

import Mathlib.Data.List.Basic
import PipelineGraph.Command.Run
import PipelineGraph.Proofs.Files.Places

namespace PipelineGraph

/-- One thing after another starts with what the first leaves. -/
theorem run_bind_of {σ α β : Type} {first : StateM σ α} {next : α → StateM σ β} {before middle : σ}
    {value : α} (ran : first.run before = (value, middle)) :
    (first >>= next).run before = (next value).run middle := by
  rw [StateT.run_bind, ran]
  rfl

namespace FileSystem

variable {before middle after system : FileSystem}

/-! ### Paths as directories stay -/

/-- **Directories stay directories.** -/
structure KeepsDirectories (before after : FileSystem) : Prop where
  workingDirectory : after.workingDirectory = before.workingDirectory
  directories : ∀ location, before.entryAt? location = some .directory →
    after.entryAt? location = some .directory

theorem KeepsDirectories.refl (system : FileSystem) : system.KeepsDirectories system :=
  ⟨rfl, fun _ => id⟩

theorem KeepsDirectories.trans (first : before.KeepsDirectories middle)
    (second : middle.KeepsDirectories after) : before.KeepsDirectories after :=
  ⟨second.workingDirectory.trans first.workingDirectory,
    fun location old => second.directories location (first.directories location old)⟩

/-- A step looks only at the place where it starts. -/
theorem step_of_keeps (keeps : before.KeepsDirectories after) {location next : Location}
    {segment : String} (stepped : before.step location segment = .ok next) :
    after.step location segment = .ok next := by
  have start := isDirectory_of_step stepped
  rw [← stepped, step, step, keeps.directories location start, start]

/-- **A walk leads where it led before, if directories stay directories.** -/
theorem walk_of_keeps (keeps : before.KeepsDirectories after) {segments : List String} :
    ∀ {location last : Location}, segments.foldlM before.step location = .ok last →
      segments.foldlM after.step location = .ok last := by
  induction segments with
  | nil => exact id
  | cons segment rest ih =>
    intro location last walked
    rw [List.foldlM_cons, bind_eq_ok_iff] at walked ⊢
    obtain ⟨next, stepped, walks⟩ := walked
    exact ⟨next, step_of_keeps keeps stepped, ih walks⟩

theorem start_of_keeps (keeps : before.KeepsDirectories after) (path : String) :
    after.start path = before.start path := by
  rw [start, start, keeps.workingDirectory]

theorem locate_of_keeps (keeps : before.KeepsDirectories after) {path : String} {location : Location}
    (found : before.locate path = .ok location) : after.locate path = .ok location := by
  obtain ⟨_, checked, walked⟩ := bind_eq_ok_iff.mp found
  refine bind_eq_ok_iff.mpr ⟨_, checked, ?_⟩
  rw [start_of_keeps keeps]
  exact walk_of_keeps keeps walked

/-- The path is that of a directory; the empty path is that of the working directory. -/
def IsDirectory (system : FileSystem) (path : String) : Prop :=
  path = "" ∨ ∃ location, system.locate path = .ok location ∧
    system.entryAt? location = some .directory

theorem IsDirectory.of_keeps {path : String} (isDirectory : before.IsDirectory path)
    (keeps : before.KeepsDirectories after) : after.IsDirectory path := by
  refine isDirectory.imp_right ?_
  rintro ⟨location, found, entry⟩
  exact ⟨location, locate_of_keeps keeps found, keeps.directories location entry⟩

/-- The path passes the location: some of its segments, taken from the start, lead there. -/
def Passes (system : FileSystem) (path : String) (location : Location) : Prop :=
  ∃ count, ((Path.segments path).take count).foldlM system.step (system.start path) = .ok location

theorem Passes.of_keeps {path : String} {location : Location} (passes : before.Passes path location)
    (keeps : before.KeepsDirectories after) : after.Passes path location := by
  obtain ⟨count, walked⟩ := passes
  exact ⟨count, by rw [start_of_keeps keeps]; exact walk_of_keeps keeps walked⟩

/-! ### Making directories -/

/-- **Nothing changes but that directories appear**, and only at some of the locations. -/
structure Makes (before after : FileSystem) (new : Location → Prop) : Prop where
  workingDirectory : after.workingDirectory = before.workingDirectory
  entries : ∀ location, after.entryAt? location = before.entryAt? location ∨
    before.entryAt? location = none ∧ after.entryAt? location = some .directory ∧ new location

theorem Makes.keeps {new : Location → Prop} (makes : before.Makes after new) :
    before.KeepsDirectories after where
  workingDirectory := makes.workingDirectory
  directories := by
    intro location old
    rcases makes.entries location with same | ⟨absent, _⟩
    · rw [same, old]
    · rw [old] at absent
      cases absent

theorem Makes.trans {new new' : Location → Prop} (first : before.Makes middle new)
    (second : middle.Makes after new') :
    before.Makes after fun location => new location ∨ new' location where
  workingDirectory := second.workingDirectory.trans first.workingDirectory
  entries := by
    intro location
    rcases first.entries location with same | ⟨absent, made, isNew⟩
    · rcases second.entries location with same' | ⟨absent', made', isNew'⟩
      · exact .inl (same'.trans same)
      · exact .inr ⟨same ▸ absent', made', .inr isNew'⟩
    · exact .inr ⟨absent, second.keeps.directories location made, .inl isNew⟩

theorem Makes.imp {new new' : Location → Prop} (makes : before.Makes after new)
    (weaker : ∀ location, new location → new' location) : before.Makes after new' :=
  ⟨makes.workingDirectory, fun location => (makes.entries location).imp_right
    fun ⟨absent, made, isNew⟩ => ⟨absent, made, weaker location isNew⟩⟩

theorem entryAt?_root (system : FileSystem) : system.entryAt? [] = some .directory := rfl

theorem stepInto_spec {location next : Location} {segment : String}
    (stepped : stepInto (before, location) segment = .ok (after, next)) :
    before.step location segment = .ok next ∧ before.Makes after (· = next) := by
  obtain ⟨there, found, stepped⟩ := bind_eq_ok_iff.mp stepped
  split at stepped
  · cases stepped
    exact ⟨found, rfl, fun _ => .inl rfl⟩
  · rename_i absent
    cases stepped
    refine ⟨found, rfl, fun other => ?_⟩
    have inside : next ≠ [] := by
      rintro rfl
      cases absent
    by_cases same : other = next
    · rw [same]
      exact .inr ⟨absent, entryAt?_put_self _ _ _ inside, rfl⟩
    · exact .inl (entryAt?_put_of_ne _ _ _ _ same)

/-- **A walk that makes directories passes each of them.** -/
theorem walkInto_spec {segments : List String} :
    ∀ {before : FileSystem} {location last : Location},
      segments.foldlM stepInto (before, location) = .ok (after, last) →
      segments.foldlM after.step location = .ok last ∧
        before.Makes after fun other =>
          ∃ count, (segments.take count).foldlM after.step location = .ok other := by
  induction segments with
  | nil =>
    intro before location last walked
    cases walked
    exact ⟨rfl, rfl, fun _ => .inl rfl⟩
  | cons segment rest ih =>
    intro before location last walked
    rw [List.foldlM_cons, bind_eq_ok_iff] at walked
    obtain ⟨⟨middle, next⟩, stepped, walked⟩ := walked
    obtain ⟨found, made⟩ := stepInto_spec stepped
    obtain ⟨walks, later⟩ := ih walked
    have first := step_of_keeps (made.keeps.trans later.keeps) found
    have behind : ∀ {others : List String} {other : Location},
        others.foldlM after.step next = .ok other →
          (segment :: others).foldlM after.step location = .ok other :=
      fun there => bind_eq_ok_iff.mpr ⟨next, first, there⟩
    refine ⟨behind walks, (made.trans later).imp ?_⟩
    rintro other (rfl | ⟨count, there⟩)
    · exact ⟨1, behind rfl⟩
    · exact ⟨count + 1, behind there⟩

/-- **Making a directory makes what is missing on the way to it.** -/
theorem createDirectories_spec {path : String} (made : before.createDirectories path = .ok after) :
    after.IsDirectory path ∧ before.Makes after (after.Passes path) := by
  unfold createDirectories at made
  by_cases empty : path.isEmpty = true
  · rw [if_pos empty] at made
    cases made
    exact ⟨.inl (String.isEmpty_iff.mp empty), rfl, fun _ => .inl rfl⟩
  · rw [if_neg empty] at made
    obtain ⟨_, checked, made⟩ := bind_eq_ok_iff.mp made
    obtain ⟨⟨last, location⟩, walked, made⟩ := bind_eq_ok_iff.mp made
    obtain ⟨walks, makes⟩ := walkInto_spec walked
    dsimp only at made
    split at made
    · rename_i isDirectory
      cases made
      rw [← start_of_keeps makes.keeps path] at walks makes
      exact ⟨.inr ⟨location, bind_eq_ok_iff.mpr ⟨_, checked, walks⟩, isDirectory⟩, makes⟩
    · cases made

/-! ### Writing files -/

/-- **Writing changes the place that the path leads to**, which is no directory, and no other. -/
theorem write_spec {path : String} {content : ByteArray}
    (written : before.write path content = .ok after) :
    ∃ location, before.locate path = .ok location ∧
      after.entryAt? location = some (.file content) ∧ before.KeepsDirectories after ∧
      ∀ other, other ≠ location → after.entryAt? other = before.entryAt? other := by
  obtain ⟨location, found, written⟩ := bind_eq_ok_iff.mp written
  split at written
  · cases written
  · rename_i noDirectory
    cases written
    have inside : location ≠ [] := by
      rintro rfl
      exact noDirectory before.entryAt?_root
    refine ⟨location, found, entryAt?_put_self _ _ _ inside, ⟨rfl, fun other old => ?_⟩,
      fun other different => entryAt?_put_of_ne _ _ _ _ different⟩
    have different : other ≠ location := by
      rintro rfl
      exact noDirectory old
    rw [entryAt?_put_of_ne _ _ _ _ different, old]

theorem fromUTF8?_toUTF8 (text : String) : String.fromUTF8? text.toUTF8 = some text :=
  dif_pos text.isValidUTF8

/-- A text is read off the file that the path leads to. -/
theorem read_eq_ok_iff {path text : String} :
    system.read path = .ok text ↔ ∃ location content, system.locate path = .ok location ∧
      system.entryAt? location = some (.file content) ∧ String.fromUTF8? content = some text := by
  rw [read, bind_eq_ok_iff]
  refine exists_congr fun location => ?_
  rw [exists_and_left]
  refine and_congr_right fun _ => ?_
  cases entry : system.entryAt? location with
  | none => simp
  | some found =>
    cases found with
    | directory => simp
    | file content =>
      simp only [Option.some.injEq, FileEntry.file.injEq, exists_eq_left']
      cases String.fromUTF8? content <;> simp

/-- **Each call does its work**: the directories above each file are made and the file is written, one
after the other. -/
def Accepts : FileSystem → List (String × String) → Prop
  | _, [] => True
  | system, (path, text) :: rest =>
    ∃ made written, system.createDirectories ((Path.parent? path).getD "") = .ok made ∧
      made.write path text.toUTF8 = .ok written ∧ written.Accepts rest

/-- After the calls for one file, those for the others are left. -/
theorem accepts_cons_iff {path text : String} {rest : List (String × String)}
    (made : before.createDirectories ((Path.parent? path).getD "") = .ok middle)
    (written : middle.write path text.toUTF8 = .ok after) :
    before.Accepts ((path, text) :: rest) ↔ after.Accepts rest := by
  constructor
  · rintro ⟨_, _, made', written', later⟩
    rw [made] at made'
    cases made'
    rw [written] at written'
    cases written'
    exact later
  · exact fun later => ⟨middle, after, made, written, later⟩

instance decidableAccepts :
    ∀ (system : FileSystem) (texts : List (String × String)), Decidable (system.Accepts texts)
  | _, [] => .isTrue trivial
  | system, (path, text) :: rest =>
    match made : system.createDirectories ((Path.parent? path).getD "") with
    | .error _ => .isFalse fun ⟨_, _, made', _⟩ => nomatch made.symm.trans made'
    | .ok middle =>
      match written : middle.write path text.toUTF8 with
      | .error _ => .isFalse fun ⟨_, _, made', written', _⟩ => by
          cases made.symm.trans made'
          cases written.symm.trans written'
      | .ok after =>
        have := decidableAccepts after rest
        decidable_of_iff' (after.Accepts rest) (accepts_cons_iff made written)

/-- **A file system receives texts**: each text is in its file, in directories that are there; all else
is as it was, but for directories that have been made on the way to a file. -/
structure Receives (before after : FileSystem) (texts : List (String × String)) : Prop where
  keeps : before.KeepsDirectories after
  text : ∀ file ∈ texts, after.read file.1 = .ok file.2
  parent : ∀ file ∈ texts, ∀ directory ∈ Path.parent? file.1, after.IsDirectory directory
  rest : ∀ location, (∀ file ∈ texts, after.locate file.1 ≠ .ok location) →
    after.entryAt? location = before.entryAt? location ∨
      before.entryAt? location = none ∧ after.entryAt? location = some .directory ∧
        ∃ file ∈ texts, ∃ directory ∈ Path.parent? file.1, after.Passes directory location

/-- **One file is received.** -/
theorem receives_file {path text : String}
    (made : before.createDirectories ((Path.parent? path).getD "") = .ok middle)
    (written : middle.write path text.toUTF8 = .ok after) :
    before.Receives after [(path, text)] := by
  obtain ⟨isDirectory, makes⟩ := createDirectories_spec made
  obtain ⟨location, found, entry, keeps, others⟩ := write_spec written
  have found' := locate_of_keeps keeps found
  refine ⟨makes.keeps.trans keeps, ?_, ?_, fun other elsewhere => ?_⟩
  · exact List.forall_mem_singleton.mpr
      (read_eq_ok_iff.mpr ⟨location, _, found', entry, fromUTF8?_toUTF8 text⟩)
  · refine List.forall_mem_singleton.mpr fun directory above => ?_
    rw [Option.mem_def.mp above] at isDirectory
    exact isDirectory.of_keeps keeps
  · have different : other ≠ location := by
      rintro rfl
      exact elsewhere _ (List.mem_singleton_self _) found'
    rw [others other different]
    cases above : Path.parent? path with
    | none =>
      -- nothing is made for a path without a directory above it
      rw [above] at made
      cases made
      exact .inl rfl
    | some directory =>
      rw [above] at makes
      refine (makes.entries other).imp_right fun ⟨absent, isNew, passes⟩ => ?_
      exact ⟨absent, isNew, _, List.mem_singleton_self _, directory, above, passes.of_keeps keeps⟩

/-- **Texts are received one list after another**, if no path of the one list leads where a path of the
other leads. -/
theorem Receives.append {texts others : List (String × String)} (first : before.Receives middle texts)
    (second : middle.Receives after others)
    (apart : ∀ file ∈ texts, ∀ other ∈ others, Apart file.1 other.1) :
    before.Receives after (texts ++ others) where
  keeps := first.keeps.trans second.keeps
  text := by
    refine List.forall_mem_append.mpr ⟨fun file inside => ?_, second.text⟩
    obtain ⟨location, content, found, entry, decoded⟩ := read_eq_ok_iff.mp (first.text file inside)
    have found' := locate_of_keeps second.keeps found
    refine read_eq_ok_iff.mpr ⟨location, content, found', ?_, decoded⟩
    rcases second.rest location fun other isOther => apart file inside other isOther after location found'
      with same | ⟨absent, _⟩
    · rw [same, entry]
    · rw [entry] at absent
      cases absent
  parent := List.forall_mem_append.mpr
    ⟨fun file inside directory above => (first.parent file inside directory above).of_keeps second.keeps,
      second.parent⟩
  rest := by
    intro location elsewhere
    obtain ⟨notFirst, notSecond⟩ := List.forall_mem_append.mp elsewhere
    have earlier := first.rest location fun file inside found =>
      notFirst file inside (locate_of_keeps second.keeps found)
    rcases earlier with same | ⟨absent, isNew, file, inside, directory, above, passes⟩
    · rcases second.rest location notSecond with same' | ⟨absent, isNew, file, inside, way⟩
      · exact .inl (same'.trans same)
      · exact .inr ⟨same ▸ absent, isNew, file, List.mem_append_right _ inside, way⟩
    · exact .inr ⟨absent, second.keeps.directories location isNew, file, List.mem_append_left _ inside,
        directory, above, passes.of_keeps second.keeps⟩

theorem receives_nil (system : FileSystem) : system.Receives system [] :=
  ⟨.refl system, fun _ => nofun, fun _ => nofun, fun _ _ => .inl rfl⟩

/-! ### Running the operations -/

theorem read_run (path : String) : (files.read path).run system = (system.read path, system) := rfl

theorem isThere_run (path : String) :
    (files.isThere path).run system = (system.isThere path, system) := rfl

theorem createDirectories_run {path : String} (made : before.createDirectories path = .ok after) :
    (files.createDirectories path).run before = (.ok (), after) := by
  simp only [files, StateT.run_bind, StateT.run_get, pure_bind, made]
  rfl

theorem write_run {path text : String} (written : before.write path text.toUTF8 = .ok after) :
    (files.write path text).run before = (.ok (), after) := by
  simp only [files, StateT.run_bind, StateT.run_get, pure_bind, written]
  rfl

theorem writeFile_run {path text : String}
    (made : before.createDirectories ((Path.parent? path).getD "") = .ok middle)
    (written : middle.write path text.toUTF8 = .ok after) :
    (files.writeFile path text).run before = (.ok (), after) := by
  unfold Files.writeFile
  rw [run_bind_of (createDirectories_run made)]
  dsimp only
  rw [run_bind_of (write_run written)]
  rfl

/-- **Where each call does its work, all texts are received.** -/
theorem receives_of_accepts {texts : List (String × String)} :
    ∀ {before : FileSystem}, before.Accepts texts → (texts.Pairwise fun file other => Apart file.1 other.1) →
      ∃ after, (files.writeFiles texts).run before = (.ok (), after) ∧ before.Receives after texts := by
  induction texts with
  | nil => exact fun {before} _ _ => ⟨before, rfl, receives_nil before⟩
  | cons file rest ih =>
    intro before accepts apart
    obtain ⟨path, text⟩ := file
    obtain ⟨made, written, isMade, isWritten, later⟩ := accepts
    obtain ⟨here, others⟩ := List.pairwise_cons.mp apart
    obtain ⟨after, ran, received⟩ := ih later others
    refine ⟨after, ?_, (receives_file isMade isWritten).append received
      (List.forall_mem_singleton.mpr here)⟩
    rw [Files.writeFiles, run_bind_of (writeFile_run isMade isWritten)]
    exact ran

end FileSystem

end PipelineGraph
