import Uniprocessor.CommandLine

/-!
The program: reads the files that its arguments name and writes what the
command line answers.
-/

namespace Uniprocessor

/-- Why a file is not read. A failure to open it names the file; a directory is
opened and fails only when it is read. -/
def refusalOf : IO.Error → Refusal
  | .inappropriateType none .. => .isADirectory
  | .inappropriateType (some _) .. => .notADirectory
  | .invalidArgument _ code text | .permissionDenied _ code text => .other code.toNat text
  | .otherError code text | .hardwareFault code text => .other code.toNat text
  | _ => .missing

def readText (path : String) : IO (Except ReadError (List Char)) := do
  try
    let bytes ← IO.FS.readBinFile path
    return decodeText (bytes.toList.map (·.toNat))
  catch e => return .error (.refused (refusalOf e) path)

end Uniprocessor

open Uniprocessor in
def main (arguments : List String) : IO UInt32 := do
  let mut files : List (String × Except ReadError (List Char)) := []
  for path in CommandLine.filesRead arguments do
    files := (path, ← readText path) :: files
  let read : Reader := fun path =>
    ((files.find? (·.1 == path)).map (·.2)).getD (.error (.refused .missing path))
  match CommandLine.run CommandLine.registered read arguments with
  | .ok outcome => do
      (← IO.getStdout).putStr (CommandLine.textOf outcome.out).string
      (← IO.getStderr).putStr (Text.escaped (CommandLine.textOf outcome.err))
      return outcome.status.toUInt32
  | .error u => do
      (← IO.getStderr).putStrLn s!"py-sched: {u.message}"
      return 1
