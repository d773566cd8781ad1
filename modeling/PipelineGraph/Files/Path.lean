/-
**Paths of files.**

A path is a text; its segments stand between slashes, and a path that starts with a slash starts at the
root. Empty segments and single dots stand for nothing, except that a dot at the very start is kept.
Paths are put together without looking at what the segments mean.
-/

namespace PipelineGraph.Path

/-- The path starts at the root. -/
def isAbsolute (path : List Char) : Bool := path.head? = some '/'

/-- Puts a part after a directory, with a slash between them unless the directory ends with one. A part
that starts at the root stands alone. -/
def joinChars (directory part : List Char) : List Char :=
  if isAbsolute part then part
  else if directory.isEmpty || directory.getLast? = some '/' then directory ++ part
  else directory ++ '/' :: part

/-- The path of a part in a directory. -/
def join (directory part : String) : String :=
  String.ofList (joinChars directory.toList part.toList)

/-- The texts between slashes. -/
def splitSegments : List Char → List (List Char)
  | [] => [[]]
  | c :: rest =>
    if c = '/' then [] :: splitSegments rest
    else
      match splitSegments rest with
      | [] => [[c]]
      | segment :: segments => (c :: segment) :: segments

/-- The texts between slashes. -/
def segments (path : String) : List String := (splitSegments path.toList).map String.ofList

/-- A segment that stands for nothing. -/
def isIdle (segment : List Char) : Bool := segment = [] || segment = ['.']

/-! ### The beginning and the end of a path -/

/-- The beginning of a path, which is the slash or the dot at its start, and the rest. -/
def splitRoot : List Char → List Char × List Char
  | '/' :: rest => (['/'], rest)
  | ['.'] => (['.'], [])
  | '.' :: '/' :: rest => (['.'], '/' :: rest)
  | path => ([], path)

/-- What a path is made of: the beginning, and the segments that stand for something. -/
def components (path : List Char) : List (List Char) :=
  let (root, body) := splitRoot path
  (if root.isEmpty then [] else [root]) ++ (splitSegments body).filter fun segment => !isIdle segment

/-- The reversed path without the segments at its end that stand for nothing. -/
def dropIdle : List Char → List Char
  | '/' :: rest => dropIdle rest
  | ['.'] => []
  | '.' :: '/' :: rest => dropIdle rest
  | path => path

/-- The path without its last name, if it has one. -/
def parentChars? (path : List Char) : Option (List Char) :=
  let (root, body) := splitRoot path
  match dropIdle body.reverse with
  | [] => if root = ['.'] then some [] else none
  | reversed => some (root ++ (dropIdle (reversed.dropWhile (· != '/'))).reverse)

/-- The path without its last name, if it has one. -/
def parent? (path : String) : Option String := (parentChars? path.toList).map String.ofList

/-- The last name of a path, if it names a file. -/
def fileName? (path : List Char) : Option (List Char) :=
  let name := ((dropIdle (splitRoot path).2.reverse).takeWhile (· != '/')).reverse
  if name.isEmpty || name = ['.', '.'] then none else some name

/-- The extension of a file: what follows the last dot of its name, if anything stands before it. -/
def extension? (path : String) : Option String := do
  let reversed := (← fileName? path.toList).reverse
  match reversed.dropWhile (· != '.') with
  | _ :: _ :: _ => return String.ofList (reversed.takeWhile (· != '.')).reverse
  | _ => failure

end PipelineGraph.Path
