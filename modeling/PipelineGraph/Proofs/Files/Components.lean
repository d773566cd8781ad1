/-
**What paths are made of.**

The components of a path are its beginning and its names, which are the segments that stand for
something (`components_eq`). A part that does not start at the root adds its names to the components of
the directory that it is put in (`components_joinChars`).

A path is `Inside` another if its components go on from those of the other and never go up. This is said
of texts; `FileSystem.locate_inside` says that where both paths lead somewhere, the one leads to a place
below the other.
-/

import Mathlib.Data.List.Basic
import PipelineGraph.Proofs.Files.Places

namespace PipelineGraph

namespace Path

/-! ### Names -/

/-- The segments that stand for something. -/
def names (path : List Char) : List (List Char) :=
  (splitSegments path).filter fun segment => !isIdle segment

theorem names_append_slash (front rest : List Char) :
    names (front ++ '/' :: rest) = names front ++ names rest := by
  rw [names, splitSegments_append_slash, List.filter_append]
  rfl

theorem names_slash (rest : List Char) : names ('/' :: rest) = names rest :=
  names_append_slash [] rest

theorem slash_notMem_of_mem_splitSegments {path segment : List Char}
    (inside : segment ∈ splitSegments path) : '/' ∉ segment := by
  induction path generalizing segment with
  | nil =>
    rw [List.mem_singleton.mp inside]
    exact List.not_mem_nil
  | cons c rest ih =>
    by_cases slash : c = '/'
    · rw [splitSegments, if_pos slash] at inside
      rcases List.mem_cons.mp inside with rfl | later
      · exact List.not_mem_nil
      · exact ih later
    · obtain ⟨first, others, split⟩ := List.exists_cons_of_ne_nil (splitSegments_ne_nil rest)
      rw [splitSegments_cons slash split] at inside
      rcases List.mem_cons.mp inside with rfl | later
      · rw [List.mem_cons, not_or]
        exact ⟨Ne.symm slash, ih (split ▸ List.mem_cons_self)⟩
      · exact ih (split ▸ List.mem_cons_of_mem _ later)

/-- The slash and the dot at the beginning of a path are no names. -/
theorem beginning_notMem_names (path : List Char) : ['/'] ∉ names path ∧ ['.'] ∉ names path := by
  constructor
  · intro inside
    exact slash_notMem_of_mem_splitSegments (List.mem_filter.mp inside).1 List.mem_cons_self
  · intro inside
    exact absurd (List.mem_filter.mp inside).2 (by decide)

/-- A path whose first segment is empty is empty or starts with a slash. -/
theorem eq_nil_or_slash {path : List Char} {others : List (List Char)}
    (split : splitSegments path = [] :: others) : path = [] ∨ ∃ rest, path = '/' :: rest := by
  cases path with
  | nil => exact .inl rfl
  | cons c rest =>
    by_cases slash : c = '/'
    · exact .inr ⟨rest, by rw [slash]⟩
    · obtain ⟨first, more, later⟩ := List.exists_cons_of_ne_nil (splitSegments_ne_nil rest)
      rw [splitSegments_cons slash later] at split
      cases split

/-! ### Components -/

/-- The beginning of a path, if it has one. -/
def beginning (path : List Char) : List (List Char) :=
  if (splitRoot path).1.isEmpty then [] else [(splitRoot path).1]

/-- **A path that starts neither at the root nor with a dot starts with a name**, if it is not empty. -/
theorem beginning_cases (path : List Char) :
    (isAbsolute path = true ∧ beginning path = [['/']]) ∨
      isAbsolute path = false ∧
        (beginning path = [['.']] ∨ beginning path = [] ∧ (path = [] ∨ names path ≠ [])) := by
  unfold beginning splitRoot
  split
  · exact .inl ⟨rfl, rfl⟩
  · exact .inr ⟨rfl, .inl rfl⟩
  · exact .inr ⟨rfl, .inl rfl⟩
  · rename_i notSlash notDot notDotSlash
    cases path with
    | nil => exact .inr ⟨rfl, .inr ⟨rfl, .inl rfl⟩⟩
    | cons c rest =>
      have notSlash : c ≠ '/' := fun slash => notSlash rest (by rw [slash])
      refine .inr ⟨by simpa [isAbsolute] using notSlash, .inr ⟨rfl, .inr ?_⟩⟩
      obtain ⟨first, others, split⟩ := List.exists_cons_of_ne_nil (splitSegments_ne_nil rest)
      have isName : isIdle (c :: first) = false := by
        refine Bool.eq_false_iff.mpr fun idle => ?_
        obtain ⟨rfl, rfl⟩ : c = '.' ∧ first = [] := by simpa [isIdle] using idle
        rcases eq_nil_or_slash split with rfl | ⟨rest, rfl⟩
        · exact notDot rfl
        · exact notDotSlash rest rfl
      refine List.ne_nil_of_mem (a := c :: first) (List.mem_filter.mpr ⟨?_, by rw [isName]; rfl⟩)
      rw [splitSegments_cons notSlash split]
      exact List.mem_cons_self

theorem isAbsolute_iff {path : List Char} : isAbsolute path = true ↔ beginning path = [['/']] := by
  rcases beginning_cases path with ⟨absolute, starts⟩ | ⟨relative, starts | ⟨starts, _⟩⟩ <;>
    simp [*]

/-- **A path is made of its beginning and its names.** -/
theorem components_eq (path : List Char) : components path = beginning path ++ names path := by
  have body : names (splitRoot path).2 = names path := by
    unfold splitRoot
    split
    · exact (names_slash _).symm
    · rfl
    · rename_i rest
      exact (names_slash rest).trans (names_append_slash ['.'] rest).symm
    · rfl
  rw [components, beginning, ← body]
  rfl

theorem components_ne_nil {path : List Char} (nonempty : path ≠ []) : components path ≠ [] := by
  rw [components_eq]
  rcases beginning_cases path with ⟨_, starts⟩ | ⟨_, starts | ⟨starts, empty | named⟩⟩
  · rw [starts]
    exact List.cons_ne_nil _ _
  · rw [starts]
    exact List.cons_ne_nil _ _
  · exact absurd empty nonempty
  · rw [starts]
    exact named

theorem splitRoot_of_plain {c d : Char} (notSlash : c ≠ '/') (notDotSlash : ¬(c = '.' ∧ d = '/'))
    (rest : List Char) : splitRoot (c :: d :: rest) = ([], c :: d :: rest) := by
  unfold splitRoot
  split
  · rename_i same
    cases same
    exact absurd rfl notSlash
  · rename_i same
    cases same
  · rename_i same
    cases same
    exact absurd ⟨rfl, rfl⟩ notDotSlash
  · rfl

/-- What follows a slash leaves the beginning of a path as it is. -/
theorem beginning_append_slash {front : List Char} (nonempty : front ≠ []) (rest : List Char) :
    beginning (front ++ '/' :: rest) = beginning front := by
  unfold beginning
  rcases front with _ | ⟨c, _ | ⟨d, front⟩⟩
  · exact absurd rfl nonempty
  · by_cases slash : c = '/'
    · subst slash
      rfl
    · by_cases dot : c = '.'
      · subst dot
        rfl
      · simp [splitRoot, slash, dot]
  · by_cases slash : c = '/'
    · subst slash
      rfl
    · by_cases dot : c = '.' ∧ d = '/'
      · obtain ⟨rfl, rfl⟩ := dot
        rfl
      · rw [List.cons_append, List.cons_append, splitRoot_of_plain slash dot,
          splitRoot_of_plain slash dot]

theorem components_append_slash {front : List Char} (nonempty : front ≠ []) (rest : List Char) :
    components (front ++ '/' :: rest) = components front ++ names rest := by
  rw [components_eq, components_eq, beginning_append_slash nonempty, names_append_slash,
    List.append_assoc]

/-! ### Parts in directories -/

theorem toList_join (directory part : String) :
    (join directory part).toList = joinChars directory.toList part.toList := by
  rw [join, String.toList_ofList]

/-- A part that starts at the root stands alone. -/
theorem join_of_isAbsolute {directory part : String} (absolute : isAbsolute part.toList = true) :
    join directory part = part := by
  rw [join, joinChars, if_pos absolute, String.ofList_toList]

section Join

variable {directory part : List Char}

theorem joinChars_ne_nil (nonempty : directory ≠ [] ∨ part ≠ []) : joinChars directory part ≠ [] := by
  unfold joinChars
  split
  · rename_i absolute
    rintro rfl
    cases absolute
  · split
    · exact mt List.append_eq_nil_iff.mp (not_and_or.mpr nonempty)
    · exact List.append_ne_nil_of_right_ne_nil _ (List.cons_ne_nil _ _)

/-- **A part that does not start at the root adds its names.** -/
theorem components_joinChars (nonempty : directory ≠ []) (relative : isAbsolute part = false) :
    components (joinChars directory part) = components directory ++ names part := by
  have isOpen : directory.isEmpty = false := by simpa using nonempty
  rw [joinChars, if_neg (Bool.eq_false_iff.mp relative), isOpen, Bool.false_or]
  by_cases closed : directory.getLast? = some '/'
  · obtain ⟨front, rfl⟩ := List.getLast?_eq_some_iff.mp closed
    rw [if_pos (decide_eq_true closed), List.append_assoc, List.singleton_append]
    cases front with
    | nil => rfl
    | cons c front =>
      rw [components_append_slash (List.cons_ne_nil c front),
        components_append_slash (List.cons_ne_nil c front), List.append_assoc]
      rfl
  · rw [if_neg (mt of_decide_eq_true closed), components_append_slash nonempty]

/-- A part that starts with a name adds its names to any directory, the empty one too. -/
theorem components_joinChars_named (named : beginning part = []) :
    components (joinChars directory part) = components directory ++ names part := by
  have relative : isAbsolute part = false := by
    refine Bool.eq_false_iff.mpr fun absolute => ?_
    rw [isAbsolute_iff.mp absolute] at named
    cases named
  by_cases empty : directory = []
  · subst empty
    rw [joinChars, if_neg (Bool.eq_false_iff.mp relative), List.isEmpty_nil, Bool.true_or, if_pos rfl,
      List.nil_append, components_eq, named]
    rfl
  · exact components_joinChars empty relative

end Join

theorem join_ne_nil {directory part : String} (nonempty : directory.toList ≠ [] ∨ part.toList ≠ []) :
    (join directory part).toList ≠ [] :=
  toList_join directory part ▸ joinChars_ne_nil nonempty

/-! ### Paths inside paths -/

/-- The segment that leads up. -/
def up : List Char := ['.', '.']

theorem isName_ofList_iff {segment : List Char} :
    IsName (String.ofList segment) ↔ isIdle segment = false ∧ segment ≠ up := by
  have same : ∀ other : List Char, String.ofList segment = String.ofList other ↔ segment = other :=
    fun _ => String.ofList_inj
  have idle : isIdle segment = false ↔ segment ≠ [] ∧ segment ≠ ['.'] := by simp [isIdle]
  rw [idle, and_assoc]
  exact and_congr (same []).not (and_congr (same ['.']).not (same up).not)

/-- **The last segment of a path is its last component**, if it is the name of a file. -/
theorem EndsIn.getLast?_components {path name : String} (ends : EndsIn path name)
    (isName : IsName name) : (components path.toList).getLast? = some name.toList := by
  obtain ⟨front, split⟩ := ends
  have chars : splitSegments path.toList = front.map String.toList ++ [name.toList] := by
    have back := congrArg (List.map String.toList) split
    simpa [segments] using back
  rw [← String.ofList_toList (s := name), isName_ofList_iff] at isName
  have kept : names path.toList =
      (front.map String.toList).filter (fun segment => !isIdle segment) ++ [name.toList] := by
    rw [names, chars, List.filter_append, List.filter_cons, isName.1]
    rfl
  rw [components_eq, kept, ← List.append_assoc, List.getLast?_concat]

/-- A path goes up by its names just if it does by its segments. -/
theorem up_mem_names_iff {path : String} : up ∈ names path.toList ↔ ".." ∈ segments path := by
  rw [names, List.mem_filter, segments, List.mem_map]
  constructor
  · exact fun both => ⟨up, both.1, rfl⟩
  · rintro ⟨segment, inside, same⟩
    rw [String.ofList_inj.mp (same : String.ofList segment = String.ofList up)] at inside
    exact ⟨inside, rfl⟩

/-- The components of the path are those of the root and some that do not lead up. -/
def Within (root path : String) : Prop :=
  ∃ rest, components path.toList = components root.toList ++ rest ∧ up ∉ rest

/-- **The components of the path are those of the root and at least one more**, and none of these leads
up. -/
def Inside (root path : String) : Prop :=
  ∃ rest, components path.toList = components root.toList ++ rest ∧ rest ≠ [] ∧ up ∉ rest

section Added

variable {root path : String} {added : List (List Char)}
  (same : components path.toList = components root.toList ++ added)
include same

/-- A path that adds components to those of the root stays within it just if none leads up. -/
theorem within_iff : Within root path ↔ up ∉ added := by
  constructor
  · rintro ⟨rest, other, noUp⟩
    rw [same, List.append_cancel_left_eq] at other
    exact other ▸ noUp
  · exact fun noUp => ⟨added, same, noUp⟩

/-- A path that adds components to those of the root is inside it just if there are some and none leads
up. -/
theorem inside_iff : Inside root path ↔ added ≠ [] ∧ up ∉ added := by
  constructor
  · rintro ⟨rest, other, more, noUp⟩
    rw [same, List.append_cancel_left_eq] at other
    exact other ▸ ⟨more, noUp⟩
  · exact fun both => ⟨added, same, both⟩

end Added

/-- **What is added to a path that is long enough for the root** stays within the root just if the path
does and nothing that is added leads up. -/
theorem within_added_iff {root path directory : String} {added : List (List Char)}
    (same : components path.toList = components directory.toList ++ added)
    (long : (components root.toList).length ≤ (components directory.toList).length) :
    Within root path ↔ Within root directory ∧ up ∉ added := by
  constructor
  · rintro ⟨rest, other, noUp⟩
    obtain ⟨between, split⟩ :=
      List.prefix_of_prefix_length_le ⟨rest, other.symm⟩ ⟨added, same.symm⟩ long
    rw [same, ← split, List.append_assoc, List.append_cancel_left_eq] at other
    rw [← other, List.mem_append, not_or] at noUp
    exact ⟨⟨between, split.symm, noUp.1⟩, noUp.2⟩
  · rintro ⟨⟨between, split, noUp⟩, noUp'⟩
    refine ⟨between ++ added, by rw [same, split, List.append_assoc], ?_⟩
    rw [List.mem_append, not_or]
    exact ⟨noUp, noUp'⟩

/-- **A file is inside the root just if its directory is the root or inside it.** -/
theorem inside_join_iff {root directory name : String} (nonempty : directory.toList ≠ [])
    (relative : isAbsolute name.toList = false) (isName : names name.toList = [name.toList])
    (notUp : name.toList ≠ up) : Inside root (join directory name) ↔ Within root directory := by
  have joined : components (join directory name).toList =
      components directory.toList ++ [name.toList] := by
    rw [toList_join, components_joinChars nonempty relative, isName]
  constructor
  · rintro ⟨rest, same, more, noUp⟩
    obtain ⟨front, last, rfl⟩ := (List.eq_nil_or_concat' rest).resolve_left more
    rw [joined, ← List.append_assoc] at same
    exact ⟨front, (List.append_inj' same rfl).1, mt (List.mem_append_left [last]) noUp⟩
  · rintro ⟨rest, same, noUp⟩
    refine ⟨rest ++ [name.toList], ?_, by simp, ?_⟩
    · rw [joined, same, List.append_assoc]
    · rw [List.mem_append, List.mem_singleton, not_or]
      exact ⟨noUp, Ne.symm notUp⟩

/-- **The first component of a path is its beginning or a name.** -/
theorem beginning_eq (path : List Char) :
    beginning path = ((components path).take 1).filter fun first => first = ['/'] || first = ['.'] := by
  obtain ⟨noSlash, noDot⟩ := beginning_notMem_names path
  rw [components_eq]
  rcases beginning_cases path with ⟨_, starts⟩ | ⟨_, starts | ⟨starts, _⟩⟩
  · rw [starts]
    rfl
  · rw [starts]
    rfl
  · rw [starts, eq_comm, List.filter_eq_nil_iff]
    intro first inside isBeginning
    have isName : first ∈ names path := List.mem_of_mem_take inside
    rcases Bool.or_eq_true_iff.mp isBeginning with slash | dot
    · exact noSlash (of_decide_eq_true slash ▸ isName)
    · exact noDot (of_decide_eq_true dot ▸ isName)

/-- **The names of a path go on from those of another** if its components do, and the two paths start at
one place. -/
theorem names_of_components {root path : List Char} {rest : List (List Char)} (nonempty : root ≠ [])
    (same : components path = components root ++ rest) :
    isAbsolute path = isAbsolute root ∧ names path = names root ++ rest := by
  have starts : beginning path = beginning root := by
    obtain ⟨first, others, split⟩ := List.exists_cons_of_ne_nil (components_ne_nil nonempty)
    rw [beginning_eq, beginning_eq, same, split]
    rfl
  constructor
  · rw [Bool.eq_iff_iff, isAbsolute_iff, isAbsolute_iff, starts]
  · rw [components_eq, components_eq, starts, List.append_assoc] at same
    exact List.append_cancel_left same

end Path

/-! ### Places inside places -/

namespace FileSystem

variable {system : FileSystem}

/-- A segment that stands for nothing leads nowhere else. -/
theorem eq_of_step_idle {location next : Location} {segment : List Char}
    (idle : Path.isIdle segment = true)
    (stepped : system.step location (String.ofList segment) = .ok next) : next = location := by
  have isDirectory := isDirectory_of_step stepped
  have nothing : (String.ofList segment = "" || String.ofList segment = ".") = true := by
    rcases Bool.or_eq_true_iff.mp idle with empty | dot
    · rw [of_decide_eq_true empty]
      rfl
    · rw [of_decide_eq_true dot]
      rfl
  simp only [step, isDirectory] at stepped
  rw [if_pos nothing] at stepped
  cases stepped
  rfl

/-- **A walk needs only the names of a path.** -/
theorem walk_names {segments : List (List Char)} {location last : Location}
    (walked : (segments.map String.ofList).foldlM system.step location = .ok last) :
    ((segments.filter fun segment => !Path.isIdle segment).map String.ofList).foldlM system.step
      location = .ok last := by
  induction segments generalizing location with
  | nil => exact walked
  | cons segment rest ih =>
    rw [List.map_cons, List.foldlM_cons, bind_eq_ok_iff] at walked
    obtain ⟨next, stepped, walks⟩ := walked
    cases idle : Path.isIdle segment with
    | true =>
      rw [List.filter_cons, idle, ← eq_of_step_idle idle stepped]
      exact ih walks
    | false =>
      rw [List.filter_cons, idle]
      exact bind_eq_ok_iff.mpr ⟨next, stepped, ih walks⟩

/-- **Names that do not lead up lead down.** -/
theorem walk_down {names : List (List Char)} (areNames : ∀ name ∈ names, Path.isIdle name = false)
    (noUp : Path.up ∉ names) {location last : Location}
    (walked : (names.map String.ofList).foldlM system.step location = .ok last) :
    last = location ++ names.map String.ofList := by
  induction names generalizing location with
  | nil =>
    cases walked
    exact (List.append_nil _).symm
  | cons name rest ih =>
    rw [List.map_cons, List.foldlM_cons, bind_eq_ok_iff] at walked
    obtain ⟨next, stepped, walks⟩ := walked
    obtain ⟨first, later⟩ := List.forall_mem_cons.mp areNames
    obtain ⟨notUp, noUp⟩ := not_or.mp (mt List.mem_cons.mpr noUp)
    have isName : Path.IsName (String.ofList name) := Path.isName_ofList_iff.mpr ⟨first, Ne.symm notUp⟩
    rw [ih later noUp walks, eq_append_of_step isName stepped, List.append_assoc, List.map_cons,
      List.singleton_append]

/-- **A path inside another leads to a place below**, where the two lead somewhere. -/
theorem locate_inside {root path : String} (inside : Path.Inside root path) {place location : Location}
    (foundRoot : system.locate root = .ok place) (found : system.locate path = .ok location) :
    ∃ names, names ≠ [] ∧ location = place ++ names := by
  obtain ⟨rest, same, more, noUp⟩ := inside
  obtain ⟨_, checked, walkedRoot⟩ := bind_eq_ok_iff.mp foundRoot
  obtain ⟨_, _, walked⟩ := bind_eq_ok_iff.mp found
  have nonempty : root.toList ≠ [] := by
    rintro empty
    rw [String.toList_eq_nil_iff.mp empty] at checked
    cases checked
  obtain ⟨starts, named⟩ := Path.names_of_components nonempty same
  have areNames : ∀ name ∈ rest, Path.isIdle name = false := by
    intro name isRest
    have isName : name ∈ Path.names path.toList := named ▸ List.mem_append_right _ isRest
    simpa using (List.mem_filter.mp isName).2
  have toRoot : ((Path.names root.toList).map String.ofList).foldlM system.step (system.start root) =
      .ok place := walk_names walkedRoot
  have toPath : ((Path.names path.toList).map String.ofList).foldlM system.step (system.start path) =
      .ok location := walk_names walked
  rw [named, List.map_append, List.foldlM_append, start, starts, bind_eq_ok_iff] at toPath
  obtain ⟨middle, above, below⟩ := toPath
  cases above.symm.trans toRoot
  exact ⟨rest.map String.ofList, by simpa using more, walk_down areNames noUp below⟩

end FileSystem

end PipelineGraph
