/-
  Changing what stands in a file system.

  Each change either gives a new tree or says why the system refuses it.  Links at the end of a path
  are meant themselves, except where permission bits are changed.
-/
import Handover.Files.Lookup

namespace Handover.Files.Tree

/-- Make a directory. -/
def makeDirectory (t : Tree) (cwd : Location) (path : Path) : Except OsError Tree :=
  match t.locate cwd false path with
  | .ok _ => .error .alreadyExists
  | .error e =>
    if e = .notFound then (t.newLocation cwd path).map fun at_ => t.put at_ .directory else .error e

/-- Make a link. -/
def makeLink (t : Tree) (cwd : Location) (target path : Path) : Except OsError Tree :=
  if target = [] then .error .notFound
  else
    match t.locate cwd false path with
    | .ok _ => .error .alreadyExists
    | .error e =>
      if e = .notFound then (t.newLocation cwd path).map fun at_ => t.put at_ (.symlink target)
      else .error e

/-- Remove a file or a link. -/
def removeFile (t : Tree) (cwd : Location) (path : Path) : Except OsError Tree := do
  let at_ ← t.locate cwd false path
  match t.node? at_ with
  | none => throw .notFound
  | some .directory => throw .isADirectory
  | some _ => return t.remove at_

/-- Remove a directory in which nothing is. -/
def removeDirectory (t : Tree) (cwd : Location) (path : Path) : Except OsError Tree := do
  let at_ ← t.locate cwd false path
  match t.node? at_ with
  | none => throw .notFound
  | some .directory =>
    if !(t.children at_).isEmpty then throw (.code 39)
    else if at_ = [] then throw (.code 16)
    else return t.remove at_
  | some _ => throw .notADirectory

/-- Move what stands at a path, with all that lies below it. -/
def rename (t : Tree) (cwd : Location) (source target : Path) : Except OsError Tree := do
  let from_ ← t.locate cwd false source
  let some node := t.node? from_ | throw .notFound
  let goal ← match t.locate cwd false target with
    | .ok at_ => .ok at_
    | .error e => if e = .notFound then t.newLocation cwd target else .error e
  if from_ = goal then return t
  else
    match node, t.node? goal with
    | .directory, some .directory =>
      if !(t.children goal).isEmpty then throw (.code 39)
    | .directory, some _ => throw .notADirectory
    | _, some .directory => throw .isADirectory
    | _, _ => pure ()
    if from_.isSuffixOf goal then throw (.code 22)
    let below := t.entries.filter fun e => from_.isSuffixOf e.1
    let moved := below.map fun e => (e.1.take (e.1.length - from_.length) ++ goal, e.2)
    return ⟨moved ++ ((t.remove from_).remove goal).entries⟩

/-- Set the permission bits of a file. -/
def changeMode (t : Tree) (cwd : Location) (path : Path) (mode : Nat) : Except OsError Tree := do
  match ← t.status cwd path with
  | (at_, .file _ content) => return t.put at_ (.file mode content)
  | _ => return t

/-- The target of a link. -/
def readLink (t : Tree) (cwd : Location) (path : Path) : Except OsError Path := do
  let at_ ← t.locate cwd false path
  match t.node? at_ with
  | none => throw .notFound
  | some (.symlink target) => return target
  | some _ => throw (.code 22)

end Handover.Files.Tree
