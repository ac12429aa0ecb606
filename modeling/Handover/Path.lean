/-
  Paths as byte strings.

  A path is kept byte for byte.  What it names is read off its components: a leading slash is the
  root, a leading `.` stands for itself, and after that empty pieces and `.` pieces count for
  nothing.  The two operations work on the bytes:

  1. `join` appends one path to another;
  2. `parent` takes the last component away, and with it the separators and `.` pieces that would
     then end the path.

  `components` is the view on which their laws are stated.
-/
import Handover.Text.Utf8

namespace Handover

/-- A path, byte for byte as it was given. -/
abbrev Path := Bytes

namespace Path

/-- The separator of a path. -/
def slash : UInt8 := 0x2F

/-- The byte of the pieces `.` and `..`. -/
def dot : UInt8 := 0x2E

/-- The path of a text. -/
def ofString (s : String) : Path := Text.encode s

/-- The path as text, for messages. -/
def display (p : Path) : String := Text.display p

/-- The path starts at the root. -/
def isAbsolute (p : Path) : Bool := p.head? == some slash

/-! ## Pieces -/

/-- The pieces between the separators, empty ones included: one more than there are separators. -/
def pieces : Bytes → List Bytes
  | [] => [[]]
  | b :: rest =>
    if b = slash then [] :: pieces rest
    else
      match pieces rest with
      | [] => [[b]]
      | piece :: more => (b :: piece) :: more

/-- The bytes that have these pieces. -/
def ofPieces : List Bytes → Bytes
  | [] => []
  | [piece] => piece
  | piece :: more => piece ++ slash :: ofPieces more

/-- A piece that names nothing after the start of a path. -/
def isSilent (piece : Bytes) : Bool := piece == [] || piece == [dot]

/-! ## Components -/

/-- What one step of a path names. -/
inductive Component where
  | root
  | current
  | up
  | name (bytes : Bytes)
deriving Repr, DecidableEq

/-- How a path starts. -/
inductive Anchor where
  /-- At the root. -/
  | root
  /-- At the working directory, which is named by a leading `.`. -/
  | current
  /-- At the working directory, unnamed. -/
  | none
deriving Repr, DecidableEq

/-- The bytes of a start. -/
def Anchor.bytes : Anchor → Bytes
  | .root => [slash]
  | .current => [dot]
  | .none => []

/-- The components of a start. -/
def Anchor.components : Anchor → List Component
  | .root => [.root]
  | .current => [.current]
  | .none => []

/-- The start of a path, and the bytes after it. -/
def unanchor (p : Path) : Anchor × Bytes :=
  match p with
  | [] => (.none, [])
  | b :: rest =>
    if b = slash then (.root, rest)
    else if b = dot ∧ (rest = [] ∨ rest.head? = some slash) then (.current, rest)
    else (.none, p)

/-- What a piece after the start names. -/
def Component.ofPiece? (piece : Bytes) : Option Component :=
  if isSilent piece then none
  else if piece = [dot, dot] then some .up
  else some (.name piece)

/-- The components of a path. -/
def components (p : Path) : List Component :=
  let (anchor, body) := unanchor p
  anchor.components ++ (pieces body).filterMap Component.ofPiece?

/-! ## Joining -/

/-- The second path seen from the first.  An absolute second path stands alone; otherwise one
    separator comes between the two, unless the first is empty or has it already. -/
def join (base tail : Path) : Path :=
  if isAbsolute tail then tail
  else if base = [] ∨ base.getLast? = some slash then base ++ tail
  else base ++ slash :: tail

/-! ## The parent -/

/-- The pieces without the silent ones at their end. -/
def dropSilent (ps : List Bytes) : List Bytes := (ps.reverse.dropWhile isSilent).reverse

/-- The path without its last component; `none` where there is nothing but a root, or nothing at
    all. -/
def parent? (p : Path) : Option Path :=
  let (anchor, body) := unanchor p
  match dropSilent (pieces body) with
  | [] =>
    match anchor with
    | .current => some []
    | _ => none
  | ps => some (anchor.bytes ++ ofPieces (dropSilent ps.dropLast))

/-! ## Readings -/

example : join (ofString "a") (ofString "b") = ofString "a/b" := by decide
example : join (ofString "a/") (ofString "") = ofString "a/" := by decide
example : join (ofString "a") (ofString "/b") = ofString "/b" := by decide
example : parent? (ofString "a/b/.") = some (ofString "a") := by decide
example : parent? (ofString "./a") = some (ofString ".") := by decide
example : parent? (ofString "//a") = some (ofString "/") := by decide
example : parent? (ofString "/.") = none := by decide
example : parent? (ofString ".") = some [] := by decide

end Path

end Handover
