/-
  The command line.

  The launcher runs here on a modelled machine: the programs of the system and nothing else, with
  the variables of the process that may bear on the search.  This module only reads the arguments,
  the variables and the input, and writes what the run has left; `invoke` decides everything.
-/
import Handover.Machine.Run

namespace Handover.CommandLine

open Machine (World)

/-- The working directory of the machine. -/
def workingDirectory : Path := Path.ofString "/root"

/-- The directory of the launcher on the machine. -/
def launcherDir : Path := Path.ofString "/usr/local/lib/handover"

/-- The launcher itself, argument zero of its runs. -/
def launcher : Path := Path.join launcherDir (Path.ofString "handover")

/-- The variables that the launcher, its interpreter and its executable may look at. -/
def inherited : List String := ["PATH", "HOME", "PYTHONPATH", "PYTHONUSERBASE"]

/-- The machine with the variables of the process. -/
def readWorld : IO World :=
  inherited.foldlM
    (fun w name => do
      match ← IO.getEnv name with
      | some value => return w.setVariable (Text.encode name) (Text.encode value)
      | none => return w)
    (Machine.fresh workingDirectory)

/-- All that can be read from a stream. -/
partial def readAll (stream : IO.FS.Stream) (read : ByteArray) : IO ByteArray := do
  let part ← stream.read 65536
  if part.isEmpty then return read else readAll stream (read ++ part)

/-- Run the launcher and give its exit code. -/
def run (args : List String) : IO UInt32 := do
  let w ← readWorld
  let input ← readAll (← IO.getStdin) ByteArray.empty
  let (outcome, _) := (invoke (Machine.system (some launcherDir) input.toList)
    (launcher :: args.map Text.encode) w).value
  let finished := outcome.finished
  (← IO.getStdout).write ⟨finished.output.toArray⟩
  (← IO.getStderr).write ⟨finished.errors.toArray⟩
  return UInt32.ofNat finished.ending.forwarded.toNat

end Handover.CommandLine

/-- Run the launcher with the arguments of the command line. -/
def main (args : List String) : IO UInt32 := Handover.CommandLine.run args
