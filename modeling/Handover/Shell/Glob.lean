/-
  Words that stand for the files they match.

  A pattern is matched name by name along the path.  A name that starts with a dot is matched only
  by a pattern that does.  A pattern that matches nothing stands for itself.
-/
import Handover.Shell.State

namespace Handover.Shell

/-- The parts of a pattern between the separators. -/
def splitPattern : Marked → List Marked
  | [] => [[]]
  | c :: rest =>
    match splitPattern rest with
    | [] => [[c]]
    | part :: more => if c.1 = '/' then [] :: part :: more else (c :: part) :: more

/-- One text comes before another, or is the same, by the numbers of the characters. -/
def inOrder : Chars → Chars → Bool
  | [], _ => true
  | _ :: _, [] => false
  | a :: as, b :: bs => if a = b then inOrder as bs else decide (a.toNat < b.toNat)

/-- The names in a directory, in their order.  The directory itself and the one above it have names
    there too. -/
def namesIn (w : Machine.World) (dir : Chars) : List Chars :=
  match w.files.status w.cwd (Chars.toBytes (if dir.isEmpty then ['.'] else dir)) with
  | .ok (at_, .directory) =>
    (['.'] :: ['.', '.'] :: (w.files.children at_).map Chars.ofBytes).mergeSort inOrder
  | _ => []

/-- The paths that a path goes on to by a part of a pattern. -/
def matchPart (w : Machine.World) (part : Marked) (dir : Chars) : List Chars :=
  if part.isPattern then
    ((namesIn w dir).filter fun name =>
      part.accepts name && (name.head? != some '.' || part.head?.any fun c => c.1 == '.')).map
        fun name => dir ++ name
  else [dir ++ part.text]

/-- The paths that a pattern stands for, from those reached so far. -/
def matchParts (w : Machine.World) : List Marked → List Chars → List Chars
  | [], paths => paths
  | [part], paths => paths.flatMap (matchPart w part)
  | part :: rest, paths =>
    matchParts w rest ((paths.flatMap (matchPart w part)).map fun p => p ++ ['/'])

/-- The path names something. -/
def isThere (w : Machine.World) (path : Chars) : Bool :=
  match w.files.locate w.cwd false (Chars.toBytes path) with
  | .ok at_ => (w.files.node? at_).isSome
  | .error _ => false

/-- What a field stands for. -/
def filesOf (w : Machine.World) (field : Marked) : List Chars :=
  if field.isPattern then
    match (matchParts w (splitPattern field) [[]]).filter (isThere w) with
    | [] => [field.text]
    | paths => paths
  else [field.text]

end Handover.Shell
