/-
  A file system as data.

  Everything that exists has one *location*, the names from the root down to it.  A tree records
  what stands at each location; the root is always a directory.  Links are kept as they were made;
  following them is the business of `Files/Lookup`.
-/
import Handover.Path

namespace Handover.Files

/-- The name of an entry of a directory. -/
abbrev Name := Bytes

/-- Where something stands: its own name first, the name under the root last. -/
abbrev Location := List Name

/-- A program that is part of the system. -/
inductive Tool where
  | shell
  | interpreter
  /-- One of the small tools. -/
  | small (name : String)
deriving Repr, DecidableEq

/-- What stands at a location. -/
inductive Node where
  /-- A file with its permission bits. -/
  | file (mode : Nat) (content : Bytes)
  /-- A file that holds a program of the system. -/
  | program (tool : Tool)
  | directory
  | symlink (target : Path)
  | fifo
  | device
deriving Repr, DecidableEq

/-- A file system. -/
structure Tree where
  entries : List (Location × Node)
deriving Repr

namespace Tree

/-- A file system with a root and nothing in it. -/
def empty : Tree := ⟨[]⟩

/-- What stands at a location. -/
def node? (t : Tree) (at_ : Location) : Option Node :=
  if at_ = [] then some .directory
  else (t.entries.find? fun e => e.1 == at_).map Prod.snd

/-- The tree with a node put at a location, in the place of what stood there. -/
def put (t : Tree) (at_ : Location) (node : Node) : Tree :=
  ⟨(at_, node) :: t.entries.filter fun e => e.1 != at_⟩

/-- The tree without a location and all that lies below it. -/
def remove (t : Tree) (at_ : Location) : Tree :=
  ⟨t.entries.filter fun e => !at_.isSuffixOf e.1⟩

/-- The names of what stands in a directory. -/
def children (t : Tree) (dir : Location) : List Name :=
  t.entries.filterMap fun e =>
    match e.1 with
    | name :: above => if above = dir then some name else none
    | [] => none

/-- The directories from the root down to a location, as far as they are missing. -/
def makeDirectories (t : Tree) : Location → Tree
  | [] => t
  | name :: above =>
    let t := t.makeDirectories above
    match t.node? (name :: above) with
    | none => t.put (name :: above) .directory
    | some _ => t

end Tree

end Handover.Files
