/-
  The directories in which an interpreter looks for modules.

  A program given on the command line sees the working directory first among them.  The query
  program takes it away before it loads anything: first the two spellings that name it without any
  resolving, then every entry whose absolute form is the working directory.

  The absolute form is made from the text alone.  Two leading slashes are kept as they are, because
  a system may give them a meaning of their own; three or more count as one.
-/
import Handover.Path

namespace Handover.Interpreter

/-! ## Absolute forms -/

/-- How many slashes a normal form begins with. -/
def leadingSlashes (p : Path) : Nat :=
  match p with
  | a :: b :: c :: _ =>
    if a ≠ Path.slash then 0
    else if b ≠ Path.slash then 1
    else if c ≠ Path.slash then 2
    else 1
  | [a, b] => if a ≠ Path.slash then 0 else if b ≠ Path.slash then 1 else 2
  | [a] => if a ≠ Path.slash then 0 else 1
  | [] => 0

/-- The piece that goes up. -/
def up : Bytes := [Path.dot, Path.dot]

/-- Take one piece more into a normal form, whose last piece comes first.  Under a root there is
    nothing to go up to; without one the pieces that go up stay at the start. -/
def climb (rooted : Bool) (done : List Bytes) (piece : Bytes) : List Bytes :=
  if Path.isSilent piece then done
  else if piece ≠ up ∨ (!rooted ∧ done = []) ∨ done.head? = some up then piece :: done
  else done.tail

/-- The normal form of a path, made from its text alone. -/
def normalise (p : Path) : Path :=
  let slashes := leadingSlashes p
  let done := (Path.pieces p).foldl (climb (slashes != 0)) []
  let text := List.replicate slashes Path.slash ++ Path.ofPieces done.reverse
  if text = [] then [Path.dot] else text

/-- The normal form of a path seen from a directory. -/
def absolute (cwd : Path) (p : Path) : Path := normalise (Path.join cwd p)

/-! ## The entries -/

/-- The entry names the working directory without any resolving. -/
def isBareCwd (entry : Path) : Bool := entry == [] || entry == [Path.dot]

/-- The entries without the working directory.  If it cannot be told, only the entries go that name
    it in any case. -/
def withoutCwd (cwd : Option Path) (entries : List Path) : List Path :=
  let named := entries.filter fun e => !isBareCwd e
  match cwd with
  | none => named
  | some cwd => named.filter fun e => absolute cwd e != cwd

/-- The same entries without those that were there before. -/
def dropRepeated : List Path → List Path → List Path
  | _, [] => []
  | seen, e :: rest =>
    if seen.contains e then dropRepeated seen rest else e :: dropRepeated (e :: seen) rest

/-! ## Readings -/

example : absolute (Path.ofString "/w") (Path.ofString "a/../b/.") = Path.ofString "/w/b" := by
  decide
example : absolute (Path.ofString "/w") (Path.ofString "///w/") = Path.ofString "/w" := by decide
example : absolute (Path.ofString "/w") (Path.ofString "//w") = Path.ofString "//w" := by decide
example : withoutCwd (some (Path.ofString "/w")) (["", "lib", "../w", "."].map Path.ofString)
    = [Path.ofString "lib"] := by decide

end Handover.Interpreter
