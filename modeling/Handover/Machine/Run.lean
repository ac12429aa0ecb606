/-
  The programs of the system, and the system as the launcher sees it.

  A program may start others, so a run takes fuel: how many programs may still be started by one
  another.  What a program leaves behind is reported as the system reports it: eight bits of an
  exit code, seven of a signal.
-/
import Handover.Interpreter.Program
import Handover.Launch.Run
import Handover.Shell.Run
import Handover.Tools.Table

namespace Handover.Machine

open Files (Tool Node)

/-! ## All programs -/

/-- A run as the system reports it. -/
def Ran.reported (r : Ran) : Ran := { r with ending := r.ending.reported }

/-- Run a program of the system to its end. -/
def run : Nat → World → Tool → List Bytes → Bytes → Ran
  | 0, w, _, _, input => ⟨w, .exited 126, [], input, []⟩
  | fuel + 1, w, tool, argv, input =>
    let start := startWith (run fuel) .readByShell
    Ran.reported <| match tool with
      | .shell => Shell.program start w argv input
      | .interpreter => Interpreter.program start w argv input
      | .small name => Tools.run start name (Tools.Call.ofArguments w argv input)

/-- How many programs may be started by one another. -/
def deepestStart : Nat := 40

/-- Start a program and wait for its end.  `rule` says what happens to files that are neither
    programs nor scripts. -/
def World.start (w : World) (rule : Unrecognised) (c : Command) (input : Bytes) :
    Except OsError Ran :=
  startWith (run deepestStart) rule w c input

/-! ## The system of the launcher -/

/-- The signal of a pipe that nobody reads. -/
def closedPipe : Nat := 13

/-- The signal of a child that has ended. -/
def childEnded : Nat := 17

/-- The world that a launcher starts a program in.  The launcher passes over the signal of a closed
    pipe, whatever it was started with, and its programs do not. -/
def World.forProgram (w : World) : World :=
  { w with ignored := w.ignored.filter fun signal => signal != closedPipe }

/-- The world after a run: the files are as the run has left them. -/
def World.after (w : World) (ran : Ran) : World := { w with files := ran.world.files }

/-- The signals among those of a child that a launcher gets.  The first signal of either kind of bad
    access to memory is used up by a guard that the launcher has set up for its stack. -/
def World.received (w : World) (signals : List (Nat × Nat)) : List Nat :=
  (((signals.filter fun e => e.1 == w.process).map Prod.snd).erase 7).erase 11

/-- The signal kills a launcher. -/
def World.isKilledBy (w : World) (signal : Nat) : Bool :=
  Shell.Signal.isDeadly signal && signal != closedPipe
    && !(Shell.Signal.isCatchable signal && w.ignored.contains signal)

/-- What waiting for a child comes to.  A process that passes over the ends of its children is not
    told of them. -/
def World.waitFor (w : World) (ran : Ran) : Waited :=
  match (w.received ran.signals).find? w.isKilledBy with
  | some signal => .killedBy signal
  | none =>
    if w.ignored.contains childEnded then .failed .noChildProcesses else .ended ran.ending

/-- Run a program as a child, to its end.  What is asked for is how the child ended; a launcher that
    the child kills is left out. -/
def World.query (w : World) (c : Command) : Except OsError Finished × World :=
  match w.forProgram.ofChild.start .refused c [] with
  | .error e => (.error e, w)
  | .ok ran =>
    (if w.ignored.contains childEnded then .error .noChildProcesses else .ok ran.finished,
      w.after ran)

/-- Run a program in the place of a launcher.  Only here does the shell stand in for files that
    nothing else can run. -/
def World.replace (w : World) (c : Command) (input : Bytes) : Except OsError Finished × World :=
  match w.forProgram.start .readByShell c input with
  | .error e => (.error e, w)
  | .ok ran => (.ok ran.finished, w.after ran)

/-- Run a program as a child of a launcher that waits for it. -/
def World.spawn (w : World) (c : Command) (input : Bytes) : Except OsError Child × World :=
  match w.forProgram.ofChild.start .refused c input with
  | .error e => (.error e, w)
  | .ok ran => (.ok ⟨w.waitFor ran, ran.written .output, ran.written .errors⟩, w.after ran)

/-- A machine as the system of a launcher that lies in a directory and was given an input. -/
def system (launcherDir : Option Path) (input : Bytes) : System World where
  query c w := w.query c
  isRegularFile w path := w.isRegularFile path
  replace c w := w.replace c input
  spawn c w := w.spawn c input
  launcherDir := launcherDir

/-! ## A machine to start with -/

/-- The programs of the system, by name. -/
def programs : List (String × Tool) :=
  [("sh", .shell), ("dash", .shell), ("bash", .shell), ("python3", .interpreter)]
    ++ Tools.table.map fun e => (e.1, .small e.1)

/-- The location of a path without links, `.` or `..`. -/
def locationOf (path : Path) : Files.Location :=
  ((Path.pieces path).filter fun p => p != []).reverse

/-- The files of the system alone. -/
def systemFiles : Files.Tree :=
  let dir := fun (t : Files.Tree) (path : String) =>
    t.makeDirectories (locationOf (Path.ofString path))
  let tree := ["/usr/bin", "/usr/local/bin", "/usr/local/sbin", "/usr/sbin", "/dev", "/etc",
    "/root", "/tmp", "/var"].foldl dir Files.Tree.empty
  let put := fun (t : Files.Tree) (path : String) (node : Node) =>
    t.put (locationOf (Path.ofString path)) node
  let tree := programs.foldl (fun t p => put t ("/usr/bin/" ++ p.1) (.program p.2)) tree
  let tree := put tree "/bin" (.symlink (Path.ofString "usr/bin"))
  let tree := put tree "/sbin" (.symlink (Path.ofString "usr/sbin"))
  let tree := put tree "/dev/null" .device
  put tree "/etc/passwd"
    (.file 0o644 (Text.encode "root:x:0:0:root:/root:/bin/sh\n"))

/-- The directories of programs of a fresh machine. -/
def usualPath : String := "/usr/local/sbin:/usr/local/bin:/usr/sbin:/usr/bin:/sbin:/bin"

/-- A fresh machine with a working directory in which nothing is. -/
def fresh (cwd : Path) : World where
  files := systemFiles.makeDirectories (locationOf cwd)
  cwd := locationOf cwd
  environment := [(pathVariable, Text.encode usualPath)]

end Handover.Machine
