import Rpn.Command

/-!
# The command line

Everything that the command does is decided by `Command.run`. This module looks up the files that
the command may ask for, and carries out what is decided. Archives are looked up as mere bytes.
-/

namespace Rpn

/-- A view in which every path leads to a file. -/
def everywhereFiles : FileView := fun _ => .ok (.file (.plain []))

/-- The paths that the command may ask for: the file among its arguments and the results file. -/
def askedPaths (texts : List String) : List Path :=
  match Arguments.ofTexts everywhereFiles texts with
  | .ok arguments => arguments.file.toList ++ (arguments.file.bind Path.results?).toList
  | .error _ => []

/-- What a path leads to in the file system. -/
def lookUp (path : Path) : IO (Except FileError FileNode) := do
  try
    let bytes ← IO.FS.readBinFile path.text
    return .ok (.file (.plain bytes.toList))
  catch
    | .noFileOrDirectory _ _ _ => return .error .notFound
    | _ => return .ok .directory

/-- How the arguments are written. -/
def usage : String :=
  "usage: rpn [-h] [-f FILE] [-v] [expressions ...]"

/-- The exit status of an ending, and what is said about it. -/
def conclusion : Ending → UInt32 × Option String
  | .status code => (UInt32.ofNat code, none)
  | .stopped .help => (0, some usage)
  | .stopped .refused => (2, some usage)
  | .escaped (.read (.notArchive _)) => (1, some "The input is no archive that can be opened.")
  | .escaped (.path path) => (1, some path.emptyNameMessage)
  | .escaped _ => (1, some "The input or the results file cannot be opened.")

end Rpn

open Rpn in
/-- Runs the command on the arguments of the process. -/
def main (texts : List String) : IO UInt32 := do
  let known ← (askedPaths texts).mapM fun path => return (path, ← lookUp path)
  let view : FileView := fun path => (known.lookup path).getD (.error .notFound)
  let run := Command.run view texts
  IO.print run.stdout
  for record in run.log do
    IO.eprint (Logger.line (toString (← IO.monoMsNow) ++ " ms") record)
  for (path, text) in run.written.toList do
    IO.FS.writeFile path.text text
  let (status, remark) := conclusion run.ending
  for text in remark.toList do
    IO.eprintln text
  return status
