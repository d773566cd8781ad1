/-
**A file system as a value.**

Every file and directory stands at its location, the list of the names on the way from the root. A path
leads from the working directory, or from the root, name by name; everything on the way has to be a
directory. There are no links, symbolic or hard, so a location has one way from the root and a file one
location. `entryAt?_put_self` and `entryAt?_put_of_ne` say what becomes of locations when something is
put at one of them; `files` are the operations of a program on a file system that is a state.
-/

import PipelineGraph.Files.Basic
import PipelineGraph.Files.Path

namespace PipelineGraph

/-- The names on the way from the root. -/
abbrev Location := List String

/-- What may stand at a location. -/
inductive FileEntry
  | directory
  | file (content : ByteArray)
  deriving Inhabited

/-- The bytes of a file. -/
def FileEntry.bytes? : FileEntry → Option (List UInt8)
  | .directory => none
  | .file content => some content.data.toList

/-- Files and directories by their locations, and the working directory. It is a tree without symbolic
or hard links: `..` leads to the location above, and what is written at one location is seen at no
other. -/
structure FileSystem where
  entries : List (Location × FileEntry) := []
  workingDirectory : Location := []
  deriving Inhabited

namespace FileSystem

/-- What stands at a location. The root is a directory. -/
def entryAt? (system : FileSystem) (location : Location) : Option FileEntry :=
  if location.isEmpty then some .directory else system.entries.lookup location

/-- Puts an entry at a location, in place of what stood there. -/
def put (system : FileSystem) (location : Location) (entry : FileEntry) : FileSystem :=
  { system with
    entries := (location, entry) :: system.entries.filter fun other => other.1 != location }

/-- What was put at a location stands there. -/
theorem entryAt?_put_self (system : FileSystem) (location : Location) (entry : FileEntry)
    (inside : location ≠ []) : (system.put location entry).entryAt? location = some entry := by
  simp [entryAt?, put, inside]

/-- Entries elsewhere are found as before when those at a location are taken out. -/
theorem lookup_filter_of_ne {location other : Location} (different : other ≠ location)
    (entries : List (Location × FileEntry)) :
    (entries.filter fun entry => entry.1 != location).lookup other = entries.lookup other := by
  induction entries with
  | nil => rfl
  | cons head rest hypothesis =>
    obtain ⟨key, entry⟩ := head
    by_cases same : key = location
    · subst same
      simp [List.lookup_cons, beq_false_of_ne different, hypothesis]
    · simp [same, List.lookup_cons, hypothesis]

/-- Every other location keeps what stood there. -/
theorem entryAt?_put_of_ne (system : FileSystem) (location other : Location) (entry : FileEntry)
    (different : other ≠ location) :
    (system.put location entry).entryAt? other = system.entryAt? other := by
  simp [entryAt?, put, List.lookup_cons, beq_false_of_ne different, lookup_filter_of_ne different]

/-- The number of bytes that a name may have. -/
def maxNameBytes : Nat := 255

/-- Where a segment leads from a location, which has to be a directory. -/
def step (system : FileSystem) (location : Location) (segment : String) :
    Except FileError Location :=
  match system.entryAt? location with
  | none => .error .notFound
  | some (.file _) => .error .notDirectory
  | some .directory =>
    if segment = "" || segment = "." then .ok location
    else if segment = ".." then .ok location.dropLast
    else if maxNameBytes < segment.utf8ByteSize then .error .nameTooLong
    else .ok (location ++ [segment])

/-- Where a path starts. -/
def start (system : FileSystem) (path : String) : Location :=
  if Path.isAbsolute path.toList then [] else system.workingDirectory

/-- The path can be looked up at all. -/
def checkPath (path : String) : Except FileError Unit :=
  if path.isEmpty then .error .notFound
  else if path.toList.contains '\x00' then .error .nulInPath
  else .ok ()

/-- The location that a path leads to, whether anything stands there or not. -/
def locate (system : FileSystem) (path : String) : Except FileError Location := do
  checkPath path
  (Path.segments path).foldlM system.step (system.start path)

/-- Something stands where the path leads. -/
def isThere (system : FileSystem) (path : String) : Bool :=
  match system.locate path with
  | .ok location => (system.entryAt? location).isSome
  | .error _ => false

/-- The text of a file. -/
def read (system : FileSystem) (path : String) : Except FileError String := do
  match system.entryAt? (← system.locate path) with
  | none => .error .notFound
  | some .directory => .error .isDirectory
  | some (.file content) =>
    match String.fromUTF8? content with
    | some text => .ok text
    | none => .error .notText

/-- Goes where a segment leads, and makes a directory there if nothing stands there. -/
def stepInto (place : FileSystem × Location) (segment : String) :
    Except FileError (FileSystem × Location) := do
  let (system, location) := place
  let next ← system.step location segment
  match system.entryAt? next with
  | some _ => return (system, next)
  | none => return (system.put next .directory, next)

/-- Makes a directory and those on the way to it. The empty path asks for none. -/
def createDirectories (system : FileSystem) (path : String) : Except FileError FileSystem := do
  if path.isEmpty then return system
  checkPath path
  let (system, location) ← (Path.segments path).foldlM stepInto (system, system.start path)
  match system.entryAt? location with
  | some .directory => return system
  | _ => throw .notDirectory

/-- Writes a file in a directory that is there. -/
def write (system : FileSystem) (path : String) (content : ByteArray) :
    Except FileError FileSystem := do
  let location ← system.locate path
  match system.entryAt? location with
  | some .directory => throw .isDirectory
  | _ => return system.put location (.file content)

/-- The operations on a file system that is a state. -/
def files : Files (StateM FileSystem) where
  read path := do return (← get).read path
  isThere path := do return (← get).isThere path
  createDirectories path := do
    match (← get).createDirectories path with
    | .ok system => set system; return .ok ()
    | .error cause => return .error cause
  write path text := do
    match (← get).write path text.toUTF8 with
    | .ok system => set system; return .ok ()
    | .error cause => return .error cause

/-- The location as seen from the working directory, if it is inside. -/
def relative? (system : FileSystem) (location : Location) : Option String :=
  if system.workingDirectory.isPrefixOf location then
    some (String.intercalate "/" (location.drop system.workingDirectory.length))
  else none

/-- The files in the working directory that are not as they were before, with their contents. -/
def changesSince (system before : FileSystem) : List (String × ByteArray) :=
  system.entries.filterMap fun (location, entry) =>
    match entry, system.relative? location with
    | .file content, some path =>
      if (before.entryAt? location).bind FileEntry.bytes? = entry.bytes? then none
      else some (path, content)
    | _, _ => none

end FileSystem

end PipelineGraph
