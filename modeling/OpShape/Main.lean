/-
# `OpShape.Main` — the program.

The command line on the files of the machine.
-/
import OpShape.CommandLine
import OpShape.Settings

namespace OpShape

/-- What went wrong with a file, in the words of the system. -/
def fileErrorText : IO.Error → String
  | .noFileOrDirectory _ code details => details ++ " (os error " ++ toString code ++ ")"
  | .permissionDenied _ code details => details ++ " (os error " ++ toString code ++ ")"
  | .inappropriateType _ code details => details ++ " (os error " ++ toString code ++ ")"
  | .alreadyExists _ code details => details ++ " (os error " ++ toString code ++ ")"
  | .resourceExhausted _ code details => details ++ " (os error " ++ toString code ++ ")"
  | .resourceBusy code details => details ++ " (os error " ++ toString code ++ ")"
  | .otherError code details => details ++ " (os error " ++ toString code ++ ")"
  | other => toString other

/-- Take an error of the system as an answer. -/
def caught {α : Type} (act : IO α) : IO (Except String α) := do
  match ← act.toBaseIO with
  | .ok value => pure (.ok value)
  | .error error => pure (.error (fileErrorText error))

/-- The files of the machine. -/
def machineFiles : FileOps IO where
  read path := caught (IO.FS.readBinFile path)
  write path contents := caught (IO.FS.writeFile path contents)
  rename source target := caught (IO.FS.rename source target)
  remove path := caught (IO.FS.removeFile path)

/-- Run the command on the files of the machine and print what it says. -/
def runCommand (words : List String) : IO UInt32 := do
  let program := (← IO.appPath).toString
  let verbose := Settings.isVerbose (← IO.getEnv Settings.verboseVariable)
  let outcome ← CommandLine.run machineFiles program verbose words
  for note in outcome.notes do
    IO.eprintln note
  IO.print outcome.output
  pure outcome.exitCode

end OpShape

/-- The program. -/
def main (words : List String) : IO UInt32 :=
  OpShape.runCommand words
