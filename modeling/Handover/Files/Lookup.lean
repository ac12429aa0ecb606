/-
  Finding what a path names.

  A path is followed piece by piece from a directory.  `.` stays, `..` goes up, a link in the way
  is replaced by its target, and so is a link at the end unless the link itself is meant.  A path
  that ends in a separator or in `.` names a directory.  At most forty links are followed; a name
  has at most 255 bytes, a path at most 4095.
-/
import Handover.Files.Tree
import Handover.OsError

namespace Handover.Files

/-- The most bytes of a name. -/
def longestName : Nat := 255

/-- The most bytes of a path. -/
def longestPath : Nat := 4095

/-- The most links followed for one path. -/
def mostLinks : Nat := 40

/-- How far a path was followed. -/
inductive Progress where
  /-- To its end. -/
  | arrived (at_ : Location)
  /-- To a link in the given directory, with pieces after it. -/
  | link (dir : Location) (target : Path) (rest : List Bytes)

namespace Tree

/-- Follow pieces from a directory to their end or to a link.  `through` says that a link at the
    end is to be followed too. -/
def advance (t : Tree) (through : Bool) (here : Location) : List Bytes → Except OsError Progress
  | [] => .ok (.arrived here)
  | piece :: rest =>
    match t.node? here with
    | none => .error .notFound
    | some .directory =>
      if Path.isSilent piece then t.advance through here rest
      else if piece = [Path.dot, Path.dot] then t.advance through here.tail rest
      else if longestName < piece.length then .error .nameTooLong
      else
        match t.node? (piece :: here) with
        | none => .error .notFound
        | some (.symlink target) =>
          if rest = [] ∧ !through then .ok (.arrived (piece :: here))
          else .ok (.link here target rest)
        | some _ => t.advance through (piece :: here) rest
    | some _ => .error .notADirectory

/-- Follow pieces from a directory, and as many links as are allowed. -/
def follow (t : Tree) (through : Bool) :
    Nat → Location → List Bytes → Except OsError Location
  | links, here, pieces =>
    match t.advance through here pieces with
    | .error e => .error e
    | .ok (.arrived at_) => .ok at_
    | .ok (.link dir target rest) =>
      match links with
      | 0 => .error .tooManyLinks
      | links + 1 =>
        let start := if Path.isAbsolute target then [] else dir
        t.follow through links start (Path.pieces target ++ rest)

/-- The location that a path names from a working directory. -/
def locate (t : Tree) (cwd : Location) (through : Bool) (path : Path) : Except OsError Location :=
  if path.contains 0 then .error .zeroByte
  else if path = [] then .error .notFound
  else if longestPath < path.length then .error .nameTooLong
  else t.follow through mostLinks (if Path.isAbsolute path then [] else cwd) (Path.pieces path)

/-- What a path names, with all links followed. -/
def status (t : Tree) (cwd : Location) (path : Path) : Except OsError (Location × Node) := do
  let at_ ← t.locate cwd true path
  match t.node? at_ with
  | some node => return (at_, node)
  | none => throw .notFound

/-- The path names a regular file, with all links followed. -/
def isRegularFile (t : Tree) (cwd : Location) (path : Path) : Bool :=
  match t.status cwd path with
  | .ok (_, .file _ _) | .ok (_, .program _) => true
  | _ => false

/-! ## Changing what a path names -/

/-- The path up to its last name, and that name. -/
def splitLast (path : Path) : List Bytes × Bytes :=
  let ps := Path.dropSilent (Path.pieces path)
  (ps.dropLast, ps.getLastD [])

/-- The location at which a path would make something: that of its directory, which must be
    there, and the last name. -/
def newLocation (t : Tree) (cwd : Location) (path : Path) : Except OsError Location := do
  if path = [] then throw .notFound
  let (above, name) := splitLast path
  let start := if Path.isAbsolute path then [] else cwd
  let dir ← t.follow true mostLinks start above
  if name = [] ∨ name = [Path.dot, Path.dot] then throw .alreadyExists
  if longestName < name.length then throw .nameTooLong
  match t.node? dir with
  | some .directory => return name :: dir
  | _ => throw .notADirectory

/-- Write a file: an old one keeps its permission bits. -/
def writeFile (t : Tree) (cwd : Location) (path : Path) (mode : Nat) (append : Bool)
    (content : Bytes) : Except OsError Tree :=
  match t.status cwd path with
  | .ok (at_, .file mode' old) =>
    .ok (t.put at_ (.file mode' (if append then old ++ content else content)))
  | .ok (_, .directory) => .error .isADirectory
  | .ok (_, .device) => .ok t
  | .ok _ => .error .permissionDenied
  | .error e =>
    if e = .notFound then (t.newLocation cwd path).map fun at_ => t.put at_ (.file mode content)
    else .error e

/-- Make the directories above a path. -/
def makeParents (t : Tree) (cwd : Location) (path : Path) : Tree :=
  let start := if Path.isAbsolute path then [] else cwd
  (splitLast path).1.foldl
    (fun (state : Tree × Location) piece =>
      let (t, here) := state
      if Path.isSilent piece then (t, here)
      else if piece = [Path.dot, Path.dot] then (t, here.tail)
      else
        match t.follow true mostLinks here [piece] with
        | .ok there => (t, there)
        | .error _ => (t.put (piece :: here) .directory, piece :: here))
    (t, start) |>.1

end Tree

end Handover.Files
