/-
The program: runs the arguments on the files of the system, prints what the run shows, and exits with
its code.
-/

import PipelineGraph.Command.Run

namespace PipelineGraph

/-- The error that the system reports. -/
def FileError.ofSystem : IO.Error → FileError
  | .noFileOrDirectory .. => .notFound
  | .inappropriateType _ code _ => if code = 21 then .isDirectory else .notDirectory
  | error => .other (toString error)

/-- Does something with files, and gives the error that it ends with, if it does. -/
def attempt {α : Type} (action : IO α) : IO (Except FileError α) := do
  match ← action.toBaseIO with
  | .ok value => return .ok value
  | .error error => return .error (.ofSystem error)

/-- The files of the system. -/
def systemFiles : Files IO where
  read path := do
    match ← attempt (IO.FS.readBinFile path) with
    | .error cause => return .error cause
    | .ok content =>
      return match String.fromUTF8? content with
        | some text => .ok text
        | none => .error .notText
  isThere path := do
    match ← attempt (IO.FS.readBinFile path) with
    | .error .notFound => return false
    | _ => return true
  createDirectories path := do
    if path.isEmpty then return .ok () else attempt (IO.FS.createDirAll path)
  write path text := attempt (IO.FS.writeFile path text)

/-- The causes of a failure, as they are printed after it. -/
def Outcome.trace (outcome : Outcome) : String :=
  if outcome.causes.isEmpty then ""
  else "\n\nCaused by:\n" ++ String.join (outcome.causes.map fun cause => "    " ++ cause ++ "\n")

/-- The variable that names a file of options. -/
def optionsVariable : String := "PIPEPAINT_CONFIG"

end PipelineGraph

open PipelineGraph

/-- Runs the program. -/
def main (arguments : List String) : IO UInt32 := do
  let environment ← IO.getEnv optionsVariable
  let outcome ← runArguments systemFiles arguments environment
  IO.print outcome.output
  IO.eprint (outcome.errors ++ outcome.trace)
  return outcome.exitCode.toUInt32
