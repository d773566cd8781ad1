/-
What a program can do with files, in any monad, and why it may fail.
-/

namespace PipelineGraph

/-- Why a file cannot be read or written. -/
inductive FileError
  | notFound
  | isDirectory
  | notDirectory
  | nameTooLong
  | nulInPath
  | notText
  | other (message : String)
  deriving DecidableEq, Inhabited, Repr

/-- The words for an error. -/
def FileError.message : FileError → String
  | .notFound => "No such file or directory (os error 2)"
  | .isDirectory => "Is a directory (os error 21)"
  | .notDirectory => "Not a directory (os error 20)"
  | .nameTooLong => "File name too long (os error 36)"
  | .nulInPath => "file name contained an unexpected NUL byte"
  | .notText => "stream did not contain valid UTF-8"
  | .other message => message

/-- What a program can do with files. -/
structure Files (m : Type → Type) where
  read : String → m (Except FileError String)
  isThere : String → m Bool
  createDirectories : String → m (Except FileError Unit)
  write : String → String → m (Except FileError Unit)

end PipelineGraph
