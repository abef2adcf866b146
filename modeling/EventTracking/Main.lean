import EventTracking.CommandLine.Outcome

/-!
This module contains the program: it reads the file that its arguments name, does what they ask for, and
prints the outcome.
-/

namespace EventTracking

def readFiles (name : String) : IO FileTree := do
  let path := Path.ofText name
  let files : FileTree := { FileTree.empty with here := (Path.ofText (← IO.currentDir).toString).steps }
  let place := files.resolve path
  let passed := (List.range path.steps.length).map fun n =>
    files.resolve { path with steps := path.steps.take n }
  try
    let content ← IO.FS.readBinFile name
    return { files with directories := passed, files := [(place, content.toList)] }
  catch
    | .inappropriateType .. => return { files with directories := place :: passed }
    | _ => return files

def outcomeOf (command : Command) : IO Outcome := do
  let files ←
    match command.path? with
    | some name => readFiles name
    | none => pure .empty
  let session : Session Unit := .initial () (.whole 0) "" toString
  match (command.run files).run session with
  | (.ok outcome, _) => return outcome
  | (.error fault, _) => return .crashed fault

end EventTracking

open EventTracking in
def main (args : List String) : IO UInt32 := do
  let outcome ←
    match Command.read? args with
    | some command => outcomeOf command
    | none => pure .misused
  let output ← IO.getStdout
  let errors ← IO.getStderr
  outcome.outputLines.forM output.putStrLn
  outcome.errorLines.forM errors.putStrLn
  match outcome.fault? with
  | some fault => errors.putStrLn fault.message
  | none => pure ()
  return outcome.exitCode.toUInt32
