/-
  The machine on which programs run: its files, and what a process inherits.
-/
import Handover.Ending
import Handover.Event
import Handover.Files.Lookup

namespace Handover.Machine

/-- The state that a program runs in and may change. -/
structure World where
  files : Files.Tree
  /-- The working directory. -/
  cwd : Files.Location
  /-- The environment, a value for each name. -/
  environment : List (Bytes × Bytes)
  /-- The permission bits that new files do not get. -/
  umask : Nat := 0o022
  /-- The signals that a process passes over from its start on. -/
  ignored : List Nat := []
  /-- The number of the process, and that of the process that has started it. -/
  process : Nat := 4242
  parent : Nat := 4241

/-- The two streams that a program writes to. -/
inductive Outlet where
  | output
  | errors
deriving Repr, DecidableEq

/-- What a run leaves behind: the world, how the process ended, what it wrote, in the order in which
    it did, the input that it did not read, and the signals that it sent to other processes. -/
structure Ran where
  world : World
  ending : Ending
  writes : List (Outlet × Bytes)
  input : Bytes
  signals : List (Nat × Nat) := []

namespace Ran

/-- What was written to one of the streams. -/
def written (r : Ran) (outlet : Outlet) : Bytes :=
  r.writes.flatMap fun e => if e.1 = outlet then e.2 else []

/-- The process as it has ended. -/
def finished (r : Ran) : Finished := ⟨r.ending, r.written .output, r.written .errors⟩

end Ran

namespace World

/-- The value of a variable of the environment. -/
def valueOf? (w : World) (name : Bytes) : Option Bytes :=
  (w.environment.find? fun e => e.1 == name).map Prod.snd

/-- The world with a variable set: a new one stands behind the others. -/
def setVariable (w : World) (name value : Bytes) : World :=
  { w with environment :=
      if w.environment.any fun e => e.1 == name
      then w.environment.map fun e => if e.1 == name then (name, value) else e
      else w.environment ++ [(name, value)] }

/-- The world without a variable. -/
def unsetVariable (w : World) (name : Bytes) : World :=
  { w with environment := w.environment.filter fun e => e.1 != name }

/-- The world of a process that is started in this one. -/
def ofChild (w : World) : World := { w with process := w.process + 1, parent := w.process }

/-- The path of a location. -/
def pathOf (at_ : Files.Location) : Path :=
  if at_ = [] then [Path.slash] else at_.reverse.flatMap fun name => Path.slash :: name

/-- The path of the working directory. -/
def cwdPath (w : World) : Path := pathOf w.cwd

/-- The path names a regular file. -/
def isRegularFile (w : World) (path : Path) : Bool := w.files.isRegularFile w.cwd path

/-- Make a directory, a link or whatever else stands at a path, with the directories above it. -/
def make (w : World) (path : Path) (node : Files.Node) : World :=
  let files := w.files.makeParents w.cwd path
  match files.newLocation w.cwd path with
  | .ok at_ =>
    match node, files.node? at_ with
    | .directory, some .directory => { w with files }
    | _, _ => { w with files := files.put at_ node }
  | .error _ => { w with files }

/-- Make a file with its permission bits, with the directories above it.  A link at the path is
    written through. -/
def makeFile (w : World) (path : Path) (mode : Nat) (content : Bytes) : World :=
  let files := w.files.makeParents w.cwd path
  match files.writeFile w.cwd path mode false content with
  | .error _ => { w with files }
  | .ok files =>
    match files.status w.cwd path with
    | .ok (at_, .file _ content) => { w with files := files.put at_ (.file mode content) }
    | _ => { w with files }

/-- Delete a file, a link or a directory with all that is in it; `none` if there is nothing. -/
def delete? (w : World) (path : Path) : Option World :=
  match w.files.locate w.cwd false path with
  | .ok at_ =>
    match w.files.node? at_ with
    | some _ => some { w with files := w.files.remove at_ }
    | none => none
  | .error _ => none

/-- The content of a file. -/
def read? (w : World) (path : Path) : Option Bytes :=
  match w.files.status w.cwd path with
  | .ok (_, .file _ content) => some content
  | _ => none

end World

end Handover.Machine
