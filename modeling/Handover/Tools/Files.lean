/-
  Tools that make, remove, move and list files.

  A tool does one thing after another and goes on where one of them is refused; it ends with a code
  that says whether all were done.
-/
import Handover.Files.Change
import Handover.Shell.Builtin.Names
import Handover.Tools.Names

namespace Handover.Tools

open Machine (World Ran Outlet)
open Files (Tree Node Location)

/-! ## One thing after another -/

/-- Where a tool is while it changes files. -/
structure Work where
  files : Tree
  writes : List (Outlet × Bytes) := []
  failed : Bool := false

namespace Work

/-- Write something. -/
def write (k : Work) (text : Bytes) : Work := { k with writes := k.writes ++ [(.output, text)] }

/-- Note that something was refused. -/
def refuse (k : Work) (c : Call) (message : Bytes) : Work :=
  { k with failed := true, writes := k.writes ++ [c.saying message] }

/-- Go on with changed files, or note why they could not be changed. -/
def take (k : Work) (c : Call) (message : Bytes) (change : Except OsError Tree)
    (said : Bytes := []) : Work :=
  match change with
  | .ok files => { k with files }.write said
  | .error e => k.refuse c (message ++ Text.encode ": " ++ faultText e)

end Work

/-- End as the work was done. -/
def Call.done (c : Call) (k : Work) : Ran :=
  { c.ends (if k.failed then 1 else 0) k.writes with world := { c.world with files := k.files } }

/-- Do something for each of some words. -/
def Call.each (c : Call) (words : List Bytes) (act : Work → Bytes → Work) : Ran :=
  c.done (words.foldl act { files := c.world.files })

/-- A message of two parts with a name between them. -/
def about (before : String) (path : Path) (after : String := "") : Bytes :=
  Text.encode before ++ named.inWords path ++ Text.encode after

/-! ## Permission bits -/

/-- Permission bits as they are written, on the ground of those that are there. -/
def modeOf? (old : Nat) (word : Bytes) : Option Nat :=
  let isOctal := !word.isEmpty && word.all fun b => 0x30 ≤ b && b ≤ 0x37
  if isOctal then
    let n := word.foldl (fun n b => n * 8 + (b.toNat - 0x30)) 0
    if n < 0o10000 then some n else none
  else if word.any fun b => 0x30 ≤ b && b ≤ 0x39 then none
  else
    -- A mask holds the bits that are not given.
    (Shell.Builtin.umask.symbolic? (0o777 - old % 0o1000) (Shell.Chars.ofBytes word)).map
      fun mask => 0o777 - mask

/-- Set the permission bits of files. -/
def chmod (c : Call) : Ran :=
  c.withOptions [⟨'R', "recursive", .none, true⟩, ⟨'f', "silent", .none, true⟩,
      ⟨'v', "verbose", .none, true⟩] 1 fun _ words =>
    match words with
    | [] => c.misused 1 (Text.encode "missing operand")
    | mode :: [] => c.misused 1 (Text.encode "missing operand after " ++ quoted mode)
    | mode :: paths =>
      if (modeOf? 0 mode).isNone then c.misused 1 (Text.encode "invalid mode: " ++ quoted mode)
      else
        c.each paths fun k path =>
          let old := match k.files.status c.world.cwd path with
            | .ok (_, .file old _) => old
            | _ => 0o755
          k.take c (about "cannot access " path)
            (k.files.changeMode c.world.cwd path ((modeOf? old mode).getD old))

/-! ## Directories -/

/-- Make directories. -/
def mkdir (c : Call) : Ran :=
  c.withOptions [⟨'p', "parents", .none, true⟩, ⟨'m', "mode", .needed, true⟩,
      ⟨'v', "verbose", .none, true⟩] 1 fun given words =>
    let has := fun (letter : Char) => given.any fun g => g.1 == letter
    let mode := (given.find? fun g => g.1 == 'm').bind Prod.snd
    let said := fun (path : Path) =>
      if has 'v' then c.name ++ about ": created directory " path "\n" else []
    match words, mode.filter fun word => (modeOf? 0o777 word).isNone with
    | [], _ => c.misused 1 (Text.encode "missing operand")
    | _, some word => c.ends 1 [c.saying (Text.encode "invalid mode " ++ quoted word)]
    | paths, none =>
      let make := fun (k : Work) (path : Path) =>
        k.take c (about "cannot create directory " path)
          (k.files.makeDirectory c.world.cwd path) (said path)
      c.each paths fun k path =>
        if !has 'p' then make k path
        else
          (steps path).foldl (fun k step =>
            match k.files.status c.world.cwd step with
            | .ok (_, .directory) => k
            | .ok _ =>
              if k.failed then k
              else k.refuse c (about "cannot create directory " step
                (if step = path then ": File exists" else ": Not a directory"))
            | .error _ => if k.failed then k else make k step) k
where
  /-- The paths of the directories on the way. -/
  steps (path : Path) : List Path :=
    let ends := (path.zipIdx).filterMap fun e =>
      if e.1 = Path.slash ∧ e.2 ≠ 0 then some (path.take e.2) else none
    ends ++ [path]

/-- Remove directories in which nothing is. -/
def rmdir (c : Call) : Ran :=
  c.withOptions [⟨'p', "parents", .none, true⟩, ⟨'v', "verbose", .none, true⟩] 1
    fun given words =>
      let above := given.any fun g => g.1 == 'p'
      if words = [] then c.misused 1 (Text.encode "missing operand")
      else
        c.each words fun k path =>
          let path := if above then withoutEnd path else path
          let paths := if above then (mkdir.steps path).reverse else [path]
          paths.foldl (fun k path =>
            if k.failed then k
            else if path = [Path.dot] then k.refuse c (about "failed to remove " path ": Invalid argument")
            else k.take c (about "failed to remove " path) (k.files.removeDirectory c.world.cwd path)) k

/-! ## Removal -/

/-- Remove what stands at a path with all that is in it, and tell it if that is wanted. -/
def removeAll (c : Call) (tells : Bool) : Nat → Work → Path → Work
  | 0, k, _ => k
  | fuel + 1, k, path =>
    match k.files.locate c.world.cwd false path with
    | .error e => k.refuse c (about "cannot remove " path ": " ++ faultText e)
    | .ok at_ =>
      match k.files.node? at_ with
      | some .directory =>
        let names := (k.files.children at_).mergeSort fun a b => a ≤ b
        let k := names.foldl (fun k name => removeAll c tells fuel k (path ++ Path.slash :: name)) k
        k.take c (about "cannot remove " path) (k.files.removeDirectory c.world.cwd path)
          (if tells then about "removed directory " path "\n" else [])
      | _ =>
        k.take c (about "cannot remove " path) (k.files.removeFile c.world.cwd path)
          (if tells then about "removed " path "\n" else [])

/-- How deep directories are removed. -/
def deepestRemoval : Nat := 1000

/-- Remove files. -/
def rm (c : Call) : Ran :=
  c.withOptions [⟨'f', "force", .none, true⟩, ⟨'r', "recursive", .none, true⟩,
      ⟨'R', "", .none, true⟩, ⟨'v', "verbose", .none, true⟩, ⟨'d', "dir", .none, true⟩,
      ⟨'i', "", .none, true⟩, ⟨'I', "", .none, true⟩] 1 fun given words =>
    let has := fun (letter : Char) => given.any fun g => g.1 == letter
    let isDeep := has 'r' || has 'R'
    if words = [] then
      if has 'f' then c.ends 0 [] else c.misused 1 (Text.encode "missing operand")
    else
      c.each words fun k path =>
        let isDot := lastName path = [Path.dot] ∨ lastName path = [Path.dot, Path.dot]
        match k.files.locate c.world.cwd false path with
        | .error e =>
          if has 'f' ∧ (e = .notFound ∨ e = .notADirectory) then k
          else k.refuse c (about "cannot remove " path ": " ++ faultText e)
        | .ok at_ =>
          match k.files.node? at_ with
          | none => if has 'f' then k
            else k.refuse c (about "cannot remove " path ": No such file or directory")
          | some .directory =>
            if isDeep ∧ isDot then
              k.refuse c (Text.encode
                "refusing to remove \x27.\x27 or \x27..\x27 directory: skipping " ++ named.inWords path)
            else if isDeep then removeAll c (has 'v') deepestRemoval k path
            else if has 'd' then
              k.take c (about "cannot remove " path) (k.files.removeDirectory c.world.cwd path)
                (if has 'v' then about "removed directory " path "\n" else [])
            else k.refuse c (about "cannot remove " path ": Is a directory")
          | some _ =>
            k.take c (about "cannot remove " path) (k.files.removeFile c.world.cwd path)
              (if has 'v' then about "removed " path "\n" else [])

/-! ## New files -/

/-- The permission bits of a new file. -/
def newMode (w : World) (mode : Nat) : Nat := mode - (mode &&& w.umask)

/-- Make files that are not there. -/
def touch (c : Call) : Ran :=
  c.withOptions [⟨'c', "no-create", .none, true⟩, ⟨'a', "", .none, true⟩, ⟨'m', "", .none, true⟩,
      ⟨'d', "date", .needed, true⟩, ⟨'r', "reference", .needed, true⟩,
      ⟨'t', "", .needed, true⟩] 1 fun given words =>
    if words = [] then c.misused 1 (Text.encode "missing file operand")
    else
      c.each words fun k path =>
        match k.files.status c.world.cwd path with
        | .ok _ => k
        | .error e =>
          if given.any fun g => g.1 == 'c' then k
          else if e = .notFound then
            k.take c (about "cannot touch " path)
              (k.files.writeFile c.world.cwd path (newMode c.world 0o666) true [])
          else k.refuse c (about "cannot touch " path ": " ++ faultText e)

/-! ## Copies -/

/-- The path of a thing in the place that it is put to: within a directory under its own name. -/
def placeIn (files : Tree) (w : World) (target source : Path) : Path :=
  match files.status w.cwd target with
  | .ok (_, .directory) =>
    (if target = [Path.slash] then target else withoutEnd target ++ [Path.slash]) ++ lastName source
  | _ => target

/-- The sources and the target of a tool that puts things somewhere, or why there are none.  Several
    sources need a directory. -/
def sourcesAndTarget (c : Call) (words : List Bytes) : Except Ran (List Path × Path) :=
  match words with
  | [] => .error (c.misused 1 (Text.encode "missing file operand"))
  | [one] =>
    .error (c.misused 1 (Text.encode "missing destination file operand after "
      ++ named.inWords one))
  | words =>
    let target := words.getLastD []
    let sources := words.dropLast
    match sources, c.world.files.status c.world.cwd target with
    | _ :: _ :: _, .error e =>
      .error (c.ends 1 [c.saying (about "target " target ": " ++ faultText e)])
    | _ :: _ :: _, .ok (_, node) =>
      if node = .directory then .ok (sources, target)
      else .error (c.ends 1 [c.saying (about "target " target ": Not a directory")])
    | sources, _ => .ok (sources, target)

/-- Copy what stands at a path to another path. -/
def copyOne (c : Call) (isDeep : Bool) : Nat → Work → Path → Path → Work
  | 0, k, _, _ => k
  | fuel + 1, k, source, target =>
    match k.files.status c.world.cwd source with
    | .error e => k.refuse c (about "cannot stat " source ": " ++ faultText e)
    | .ok (from_, .directory) =>
      if !isDeep then
        k.refuse c (about "-r not specified; omitting directory " source)
      else
        let made := match k.files.status c.world.cwd target with
          | .ok (goal, .directory) =>
            if from_.isSuffixOf goal then
              k.refuse c (about "cannot copy a directory, " source ", into itself, "
                ++ named.inWords target)
            else k
          | .ok _ => k.refuse c (about "cannot overwrite non-directory " target " with directory "
              ++ named.inWords source)
          | .error _ =>
            match k.files.newLocation c.world.cwd target with
            | .ok goal =>
              if from_.isSuffixOf goal then
                k.refuse c (about "cannot copy a directory, " source ", into itself, "
                  ++ named.inWords target)
              else k.take c (about "cannot create directory " target)
                (k.files.makeDirectory c.world.cwd target)
            | .error e => k.refuse c (about "cannot create directory " target ": " ++ faultText e)
        if made.failed && !k.failed then made
        else
          ((k.files.children from_).mergeSort fun a b => a ≤ b).foldl (fun k name =>
            copyOne c isDeep fuel k (source ++ Path.slash :: name)
              (target ++ Path.slash :: name)) made
    | .ok (from_, node) =>
      let same := match k.files.status c.world.cwd target with
        | .ok (goal, _) => goal == from_
        | _ => false
      if same then
        k.refuse c (named.inWords source ++ about " and " target " are the same file")
      else
        let written : Except (Bytes × OsError) Tree := match node with
          | .file mode content =>
            match k.files.status c.world.cwd target with
            | .error e =>
              if e = .notADirectory then .error (about "cannot stat " target, e)
              else (k.files.writeFile c.world.cwd target (newMode c.world mode) false content).mapError
                fun e => (about "cannot create regular file " target, e)
            | .ok _ =>
              (k.files.writeFile c.world.cwd target (newMode c.world mode) false content).mapError
                fun e => (about "cannot create regular file " target, e)
          | node =>
            ((k.files.newLocation c.world.cwd target).map fun at_ => k.files.put at_ node).mapError
              fun e => (about "cannot create regular file " target, e)
        match written with
        | .ok files => { k with files }
        | .error (message, e) => k.refuse c (message ++ Text.encode ": " ++ faultText e)

/-- Copy files. -/
def cp (c : Call) : Ran :=
  c.withOptions [⟨'r', "recursive", .none, true⟩, ⟨'R', "", .none, true⟩,
      ⟨'a', "archive", .none, true⟩, ⟨'p', "", .none, true⟩, ⟨'f', "force", .none, true⟩,
      ⟨'i', "interactive", .none, true⟩, ⟨'n', "no-clobber", .none, true⟩] 1 fun given words =>
    let isDeep := given.any fun g => ['r', 'R', 'a'].contains g.1
    match sourcesAndTarget c words with
    | .error ran => ran
    | .ok (sources, target) =>
      c.each sources fun k source =>
        copyOne c isDeep deepestRemoval k source (placeIn k.files c.world target source)

/-- Move files. -/
def mv (c : Call) : Ran :=
  c.withOptions [⟨'f', "force", .none, true⟩, ⟨'i', "interactive", .none, true⟩,
      ⟨'n', "no-clobber", .none, true⟩, ⟨'v', "verbose", .none, true⟩] 1 fun _ words =>
    match sourcesAndTarget c words with
    | .error ran => ran
    | .ok (sources, target) =>
      c.each sources fun k source =>
        let target := placeIn k.files c.world target source
        match k.files.locate c.world.cwd false source, k.files.locate c.world.cwd false target with
        | .error e, _ => k.refuse c (about "cannot stat " source ": " ++ faultText e)
        | .ok from_, .ok goal =>
          if from_ = goal then
            k.refuse c (named.inWords source ++ about " and " target " are the same file")
          else
            match k.files.node? from_, k.files.node? goal with
            | some .directory, some .directory | some .directory, none => move k source target
            | some .directory, some _ =>
              k.refuse c (about "cannot overwrite non-directory " target " with directory "
                ++ named.inWords source)
            | none, _ => k.refuse c (about "cannot stat " source ": No such file or directory")
            | _, _ => move k source target
        | .ok _, .error _ => move k source target
where
  /-- Move one thing. -/
  move (k : Work) (source target : Path) : Work :=
    match k.files.rename c.world.cwd source target with
    | .ok files => { k with files }
    | .error e =>
      if e = .code 22 then
        k.refuse c (about "cannot move " source " to a subdirectory of itself, "
          ++ named.inWords target)
      else
        k.refuse c (about "cannot move " source " to " ++ named.inWords target
          ++ Text.encode ": " ++ faultText e)

/-- Make links. -/
def ln (c : Call) : Ran :=
  c.withOptions [⟨'s', "symbolic", .none, true⟩, ⟨'f', "force", .none, true⟩,
      ⟨'n', "no-dereference", .none, true⟩, ⟨'v', "verbose", .none, true⟩] 1 fun given words =>
    let has := fun (letter : Char) => given.any fun g => g.1 == letter
    let pair : Except Ran (List Path × Path) := match words with
      | [one] => .ok ([one], [Path.dot])
      | words => sourcesAndTarget c words
    match pair with
    | .error ran => ran
    | .ok (sources, target) =>
      c.each sources fun k source =>
        let target := placeIn k.files c.world target source
        let k := if has 'f' then
            match k.files.removeFile c.world.cwd target with
            | .ok files => { k with files }
            | .error _ => k
          else k
        if has 's' then
          k.take c (about "failed to create symbolic link " target)
            (k.files.makeLink c.world.cwd source target)
        else
          match k.files.status c.world.cwd source with
          | .error e => k.refuse c (about "failed to access " source ": " ++ faultText e)
          | .ok (_, .directory) =>
            k.refuse c (named.inWords source ++ Text.encode ": hard link not allowed for directory")
          | .ok (_, node) =>
            let put : Except OsError Tree := match k.files.locate c.world.cwd false target with
              | .ok _ => .error .alreadyExists
              | .error _ => (k.files.newLocation c.world.cwd target).map fun at_ => k.files.put at_ node
            k.take c (about "failed to create hard link " target) put

/-! ## Lists -/

/-- The sign that shows what a thing is. -/
def kindSign (node : Option Node) : Bytes :=
  match node with
  | some .directory => [0x2F]
  | some (.symlink _) => [0x40]
  | some .fifo => [0x7C]
  | some (.program _) => [0x2A]
  | some (.file mode _) => if mode &&& 0o111 != 0 then [0x2A] else []
  | _ => []

/-- List files. -/
def ls (c : Call) : Ran :=
  c.withOptions [⟨'a', "all", .none, true⟩, ⟨'A', "almost-all", .none, true⟩,
      ⟨'1', "", .none, true⟩, ⟨'d', "directory", .none, true⟩, ⟨'r', "reverse", .none, true⟩,
      ⟨'F', "classify", .none, true⟩, ⟨'U', "", .none, true⟩, ⟨'p', "", .none, true⟩] 2
    fun given words =>
      let has := fun (letter : Char) => given.any fun g => g.1 == letter
      let w := c.world
      let ordered := fun (names : List Bytes) =>
        let names := names.mergeSort fun a b => a ≤ b
        if has 'r' then names.reverse else names
      let line := fun (path : Path) (at_ : Option Location) =>
        path ++ (if has 'F' then kindSign (at_.bind w.files.node?) else []) ++ [0x0A]
      let isHidden := fun (name : Bytes) => name.head? == some Path.dot
      let content := fun (at_ : Location) =>
        let names := w.files.children at_
        let names := if has 'a' then [Path.dot] :: [Path.dot, Path.dot] :: names
          else if has 'A' then names
          else names.filter fun name => !isHidden name
        (ordered names).flatMap fun name => line name (some (name :: at_))
      let words := if words = [] then [[Path.dot]] else words
      let missing := words.filterMap fun path =>
        match w.files.locate w.cwd false path with
        | .ok at_ => if (w.files.node? at_).isSome then none else some (path, OsError.notFound)
        | .error e => some (path, e)
      let faults := missing.map fun e =>
        c.saying (about "cannot access " e.1 ": " ++ faultText e.2)
      let there := ordered (words.filter fun path => !missing.any fun e => e.1 == path)
      let directory? := fun (path : Path) =>
        match w.files.status w.cwd path with
        | .ok (at_, .directory) => if has 'd' then none else some at_
        | _ => none
      let files := there.filter fun path => (directory? path).isNone
      let plain := files.flatMap fun path => line path (w.files.locate w.cwd false path).toOption
      let parts := (there.filterMap fun path => (directory? path).map fun at_ =>
        (if words.length = 1 then [] else path ++ Text.encode ":\n") ++ content at_)
      let all := (if plain = [] then [] else [plain]) ++ parts
      c.ends (if missing.isEmpty then 0 else 2)
        (faults ++ [(.output, ([0x0A] : Bytes).intercalate all)])

end Handover.Tools
