/-
  Tools that take the names of files apart or look where they lead.
-/
import Handover.Tools.Report

namespace Handover.Tools

open Machine (World Ran Outlet)

/-! ## Parts of names -/

/-- A path without the separators at its end. -/
def withoutEnd (path : Path) : Path := (path.reverse.dropWhile (· == Path.slash)).reverse

/-- The last name of a path. -/
def lastName (path : Path) : Bytes :=
  match withoutEnd path with
  | [] => if path = [] then [] else [Path.slash]
  | path => (path.reverse.takeWhile (· != Path.slash)).reverse

/-- The path up to its last name. -/
def upToLast (path : Path) : Path :=
  let above := ((withoutEnd path).reverse.dropWhile (· != Path.slash)).reverse
  match withoutEnd above with
  | [] => if above = [] ∧ (withoutEnd path ≠ [] ∨ path = []) then [Path.dot] else [Path.slash]
  | above => above

/-- A name without an ending, unless nothing else is left. -/
def withoutEnding (ending name : Bytes) : Bytes :=
  if ending ≠ [] ∧ name ≠ ending ∧ ending.isSuffixOf name
  then name.take (name.length - ending.length) else name

/-- Write the last names of paths. -/
def basename (c : Call) : Ran :=
  c.withOptions [⟨'a', "multiple", .none, true⟩, ⟨'s', "suffix", .needed, true⟩,
      ⟨'z', "zero", .none, true⟩] 1 fun given words =>
    let ending := (given.find? fun g => g.1 == 's').bind Prod.snd
    let stop : UInt8 := if given.any fun g => g.1 == 'z' then 0 else 0x0A
    let several := ending.isSome || given.any fun g => g.1 == 'a'
    let line := fun (ending path : Bytes) => withoutEnding ending (lastName path) ++ [stop]
    match words, several with
    | [], _ => c.misused 1 (Text.encode "missing operand")
    | words, true => c.ends 0 [(.output, words.flatMap (line (ending.getD [])))]
    | [path], false => c.ends 0 [(.output, line [] path)]
    | [path, ending], false => c.ends 0 [(.output, line ending path)]
    | _ :: _ :: extra :: _, false =>
      c.misused 1 (Text.encode "extra operand " ++ quoted extra)

/-- Write the directories of paths. -/
def dirname (c : Call) : Ran :=
  c.withOptions [⟨'z', "zero", .none, true⟩] 1 fun given words =>
    let stop : UInt8 := if given.any fun g => g.1 == 'z' then 0 else 0x0A
    if words = [] then c.misused 1 (Text.encode "missing operand")
    else c.ends 0 [(.output, words.flatMap fun path => upToLast path ++ [stop])]

/-! ## Where names lead -/

/-- The location of a path from a directory.  Its last name need not be there; a link that stands
    there leads on. -/
def locationFrom (t : Files.Tree) : Nat → Files.Location → Path → Except OsError Files.Location
  | 0, _, _ => .error .tooManyLinks
  | links + 1, dir, path =>
    match t.locate dir true path with
    | .ok at_ => .ok at_
    | .error .notFound => do
      let at_ ← t.newLocation dir path
      match t.node? at_ with
      | some (.symlink target) => locationFrom t links at_.tail target
      | _ => return at_
    | .error e => .error e

/-- The location of a path, whose last name need not be there. -/
def wholeLocation (w : World) (path : Path) : Except OsError Files.Location :=
  locationFrom w.files Files.mostLinks w.cwd path

/-- Write where links lead. -/
def readlink (c : Call) : Ran :=
  c.withOptions [⟨'f', "canonicalize", .none, true⟩, ⟨'e', "canonicalize-existing", .none, true⟩,
      ⟨'m', "canonicalize-missing", .none, true⟩, ⟨'n', "no-newline", .none, true⟩,
      ⟨'q', "quiet", .none, true⟩, ⟨'s', "silent", .none, true⟩,
      ⟨'v', "verbose", .none, true⟩] 1 fun given words =>
    let has := fun (letter : Char) => given.any fun g => g.1 == letter
    let w := c.world
    let found := fun (path : Path) => (
      if has 'e' then (w.files.status w.cwd path).map fun r => World.pathOf r.1
      else if has 'f' || has 'm' then (wholeLocation w path).map World.pathOf
      else
        match w.files.locate w.cwd false path with
        | .ok at_ =>
          match w.files.node? at_ with
          | some (.symlink target) => .ok target
          | some _ => .error (.code 22)
          | none => .error .notFound
        | .error e => .error e : Except OsError Path)
    if words = [] then c.misused 1 (Text.encode "missing operand")
    else
      let ending : Bytes := if has 'n' ∧ words.length = 1 then [] else [0x0A]
      let writes := words.flatMap fun path =>
        match found path with
        | .ok target => [(Outlet.output, target ++ ending)]
        | .error e => if has 'v' then [c.saying (named path ++ Text.encode ": " ++ faultText e)] else []
      let failed := words.any fun path => match found path with
        | .ok _ => false
        | .error _ => true
      c.ends (if failed then 1 else 0) writes

/-- Write the whole paths of files. -/
def realpath (c : Call) : Ran :=
  c.withOptions [⟨'e', "canonicalize-existing", .none, true⟩,
      ⟨'m', "canonicalize-missing", .none, true⟩, ⟨'q', "quiet", .none, true⟩,
      ⟨'s', "no-symlinks", .none, true⟩] 1 fun given words =>
    let has := fun (letter : Char) => given.any fun g => g.1 == letter
    let w := c.world
    let found := fun (path : Path) =>
      if has 'e' then (w.files.status w.cwd path).map Prod.fst else wholeLocation w path
    if words = [] then c.misused 1 (Text.encode "missing operand")
    else
      let results := words.map fun path =>
        match found path with
        | .ok at_ => (false, [(Outlet.output, World.pathOf at_ ++ [0x0A])])
        | .error e => (true, if has 'q' then []
            else [c.saying (named path ++ Text.encode ": " ++ faultText e)])
      c.ends (if results.any Prod.fst then 1 else 0) (results.flatMap Prod.snd)

/-- Write the path of the working directory. -/
def pwd (c : Call) : Ran :=
  c.withOptions [⟨'L', "logical", .none, true⟩, ⟨'P', "physical", .none, true⟩] 1
    fun given words =>
      let told := (c.world.valueOf? (Text.encode "PWD")).getD []
      let isTrue := Path.isAbsolute told && (match c.world.files.status c.world.cwd told with
        | .ok (at_, .directory) => at_ == c.world.cwd
        | _ => false)
      let asTold := isTrue && (given.getLast?.any fun g => g.1 == 'L')
      let note := if words = [] then [] else [c.saying (Text.encode "ignoring non-option arguments")]
      c.ends 0 (note ++ [(.output, (if asTold then told else c.world.cwdPath) ++ [0x0A])])

example : upToLast (Path.ofString "a//b") = Path.ofString "a" := by decide +kernel
example : upToLast (Path.ofString "/b/") = Path.ofString "/" := by decide +kernel
example : lastName (Path.ofString "//") = Path.ofString "/" := by decide +kernel

end Handover.Tools
