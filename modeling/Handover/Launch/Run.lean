/-
  A whole run of the launcher.

  Three stages follow one another: the host is asked about its installation, the executable is
  looked for, and the process is handed over to it.  A stage that fails ends the run; the launcher
  then reports what it was about to do and why it failed, and exits with code 1.

  The system that all this happens on is a parameter: how a program starts, which paths are files,
  and where the launcher is.
-/
import Handover.Host.Discovery
import Handover.Launch.Report

namespace Handover

/-- The system that the launcher runs on, with states `σ`. -/
structure System (σ : Type) where
  /-- Run a program without input, as a child, to its end. -/
  query : Command → σ → Except OsError Finished × σ
  /-- The path names a regular file. -/
  isRegularFile : σ → Path → Bool
  /-- Run a program with the launcher's input in the launcher's place. -/
  replace : Command → σ → Except OsError Finished × σ
  /-- Run a program with the launcher's input as a child, and wait for it. -/
  spawn : Command → σ → Except OsError Child × σ
  /-- The directory that the launcher is in. -/
  launcherDir : Option Path

/-! ## Handoffs -/

/-- What a handoff that could be made came to. -/
inductive HandedOver where
  /-- The launcher's process became the program's and ended as that did. -/
  | replaced (finished : Finished)
  /-- The program was a child.  Its exit code is to be passed on. -/
  | waited (exitCode : Int) (output errors : Bytes)
  /-- The program was a child, and has killed the launcher. -/
  | killed (signal : Nat) (output errors : Bytes)
deriving Repr, DecidableEq

/-- The launcher's process once it is over. -/
def HandedOver.terminated : HandedOver → Finished
  | .replaced finished => finished
  | .waited exitCode output errors => ⟨.ofExit exitCode, output, errors⟩
  | .killed signal output errors => ⟨.killed signal, output, errors⟩

/-- A handoff that failed, and what was written meanwhile: a child that could not be waited for was
    run all the same. -/
structure FailedHandoff where
  error : LaunchError
  output : Bytes
  errors : Bytes
deriving Repr, DecidableEq

/-- A handoff that failed before anything was run. -/
def FailedHandoff.unstarted (error : LaunchError) : FailedHandoff := ⟨error, [], []⟩

/-- Give the process up for the program at a path. -/
def replaceProcess {σ : Type} (sys : System σ) (path : Path) (args : List Bytes) (s : σ) :
    Except FailedHandoff HandedOver × σ :=
  match sys.replace ⟨path, args⟩ s with
  | (.error source, s) => (.error (.unstarted (.replace path source)), s)
  | (.ok finished, s) => (.ok (.replaced finished), s)

/-- Run the program at a path as a child, and wait for it. -/
def spawnAndWait {σ : Type} (sys : System σ) (path : Path) (args : List Bytes) (s : σ) :
    Except FailedHandoff HandedOver × σ :=
  match sys.spawn ⟨path, args⟩ s with
  | (.error source, s) => (.error (.unstarted (.spawn path source)), s)
  | (.ok child, s) =>
    match child.waited with
    | .ended ending => (.ok (.waited ending.forwarded child.output child.errors), s)
    | .failed source => (.error ⟨.wait path source, child.output, child.errors⟩, s)
    | .killedBy signal => (.ok (.killed signal child.output child.errors), s)

/-- Hand the process over to the program at a path. -/
def handOff {σ : Type} (sys : System σ) (mode : Handoff) (path : Path) (args : List Bytes) (s : σ) :
    Traced (Except FailedHandoff HandedOver × σ) := do
  Traced.emit (.handingOff mode path args.length)
  Traced.step (.handedOver mode ⟨path, args⟩)
  match mode with
  | .replace => return replaceProcess sys path args s
  | .spawnAndWait => return spawnAndWait sys path args s

/-! ## The stages -/

/-- What the launcher is about to do. -/
inductive Stage where
  | readInstallation
  | locateExecutable
  | launch (path : Path)
deriving Repr, DecidableEq

/-- The context of a stage in a report. -/
def Stage.context : Stage → String
  | .readInstallation => "failed to read the host installation configuration"
  | .locateExecutable => s!"failed to locate the {targetBaseName} executable"
  | .launch path => s!"failed to launch {Path.display path}"

/-- What came of a run. -/
inductive Outcome where
  | handedOver (result : HandedOver)
  /-- A stage failed.  What a child wrote before that is kept. -/
  | failed (stage : Stage) (failure : Failure) (output errors : Bytes)

/-- The process of the launcher once the run is over.  The launcher's own errors are its report
    alone: the lines of its log, which go to the same stream, are left out. -/
def Outcome.finished : Outcome → Finished
  | .handedOver result => result.terminated
  | .failed stage failure output errors =>
    ⟨.exited Report.exitCode, output,
      errors ++ Text.encode (Report.printed (Report.ofFailure [stage.context] failure))⟩

/-- A run with the given arguments. -/
def launch {σ : Type} (sys : System σ) (args : List Bytes) (s : σ) : Traced (Outcome × σ) := do
  let (found, s) ← Host.discover sys.query sys.launcherDir Host.defaultInterpreters targetBaseName s
  match found with
  | .error e => return (.failed .readInstallation (.host e) [] [], s)
  | .ok installation =>
    match ← resolve installation.provider (sys.isRegularFile s) targetBaseName with
    | .error e => return (.failed .locateExecutable (.resolve e) [] [], s)
    | .ok c =>
      Traced.emit (.resolved c.kind c.path)
      let (handed, s) ← handOff sys .forHost c.path args s
      match handed with
      | .error f => return (.failed (.launch c.path) (.launch f.error) f.output f.errors, s)
      | .ok result => return (.handedOver result, s)

/-- The arguments that are passed on: all but argument zero, by which the launcher was called. -/
def forwarded (argv : List Bytes) : List Bytes := argv.drop 1

/-- A run of a launcher that was called with an argument vector. -/
def invoke {σ : Type} (sys : System σ) (argv : List Bytes) (s : σ) : Traced (Outcome × σ) :=
  launch sys (forwarded argv) s

end Handover
