/-
  The values of the interpreter's language.

  A value is either complete in itself (a number, a text, a tuple of values) or the address of an
  object that can change.  What the interpreter provides is known by its name: `provided` names a
  function, `kind` names a class.

  `same` is the equality of what is complete in itself.  It is the one by which entries of a table
  are found: numbers are equal across their kinds, and objects are equal to themselves alone.
-/
import Handover.Interpreter.CodePoints

namespace Handover.Interpreter

/-- A value. -/
inductive Value where
  | none
  | bool (b : Bool)
  | int (n : Int)
  | float (x : Float)
  | text (s : CodePoints)
  | bytes (b : Bytes)
  | tuple (items : List Value)
  /-- The whole numbers from a start by steps up to a stop. -/
  | range (start stop step : Int)
  /-- A part of a sequence. -/
  | slice (start stop step : Value)
  | ellipsis
  /-- What an operation gives back that cannot handle its operands. -/
  | notImplemented
  /-- A function that the interpreter provides. -/
  | provided (name : String)
  /-- A class that the interpreter provides. -/
  | kind (name : String)
  /-- A function with its first argument. -/
  | bound (self function : Value)
  /-- An object that can change. -/
  | object (address : Nat)

namespace Value

instance : Inhabited Value := ⟨.none⟩

/-- The value of a string. -/
def ofString (s : String) : Value := .text (CodePoints.ofString s)

/-- The value of a count. -/
def ofNat (n : Nat) : Value := .int n

/-- The value of a path. -/
def ofPath (p : Bytes) : Value := .text (CodePoints.ofPath p)

/-! ## Numbers -/

/-- A whole number in double precision. -/
def floatOfInt (n : Int) : Float := Float.ofInt n

/-- The whole number that a number is, if it is one. -/
def int? : Value → Option Int
  | .bool b => some (if b then 1 else 0)
  | .int n => some n
  | _ => Option.none

/-- A number in double precision. -/
def float? : Value → Option Float
  | .float x => some x
  | v => v.int?.map floatOfInt

/-- Two numbers are equal, if both values are numbers. -/
def sameNumber? (a b : Value) : Option Bool :=
  match a.int?, b.int? with
  | some m, some n => some (m == n)
  | _, _ =>
    match a.float?, b.float? with
    | some x, some y => some (x == y)
    | _, _ => Option.none

/-! ## Equality -/

mutual

/-- Two values are equal as far as they are complete in themselves. -/
def same (a b : Value) : Bool :=
  match sameNumber? a b with
  | some answer => answer
  | Option.none =>
    match a, b with
    | .none, .none | .ellipsis, .ellipsis | .notImplemented, .notImplemented => true
    | .text s, .text t => s == t
    | .bytes s, .bytes t => s == t
    | .tuple s, .tuple t => sameItems s t
    | .range a b c, .range x y z => a == x && b == y && c == z
    | .slice a b c, .slice x y z => same a x && same b y && same c z
    | .provided m, .provided n => m == n
    | .kind m, .kind n => m == n
    | .bound s f, .bound t g => same s t && same f g
    | .object m, .object n => m == n
    | _, _ => false

/-- Two lists hold equal values. -/
def sameItems : List Value → List Value → Bool
  | [], [] => true
  | a :: as, b :: bs => same a b && sameItems as bs
  | _, _ => false

end

/-- Two values are one. -/
def isIdentical (a b : Value) : Bool :=
  match a, b with
  | .bool a, .bool b => a == b
  | .bool _, _ | _, .bool _ => false
  | .float x, .float y => x.toBits == y.toBits
  | .float _, _ | _, .float _ => false
  | a, b => same a b

/-- The value is no value. -/
def isNone : Value → Bool
  | .none => true
  | _ => false

/-- The characters of a text. -/
def text? : Value → Option CodePoints
  | .text s => some s
  | _ => Option.none

/-! ## Ranges -/

/-- How many numbers a range has. -/
def rangeLength (start stop step : Int) : Nat :=
  if 0 < step then ((stop - start + step - 1) / step).toNat
  else if step < 0 then ((start - stop - step - 1) / (-step)).toNat
  else 0

/-- The numbers of a range. -/
def rangeItems (start stop step : Int) : List Value :=
  (List.range (rangeLength start stop step)).map fun (n : Nat) => .int (start + step * n)

/-! ## Readings -/

example : same (.bool true) (.int 1) = true := by decide
example : same (.tuple [.int 1, ofString "a"]) (.tuple [.bool true, ofString "a"]) = true := by
  decide
example : rangeLength 0 5 2 = 3 ∧ rangeLength 5 0 (-2) = 3 ∧ rangeLength 0 5 (-1) = 0 := by decide

end Value

/-! ## Tables of names -/

/-- Entries of a table, in the order in which their keys came. -/
abbrev Entries := List (Value × Value)

namespace Entries

/-- The value of a key. -/
def find? (key : Value) (entries : Entries) : Option Value :=
  (List.find? (fun e => e.1.same key) entries).map Prod.snd

/-- The entries with a value set: in its place if the key is there, at the end if it is new. -/
def put (key value : Value) : Entries → Entries
  | [] => [(key, value)]
  | (k, v) :: rest => if k.same key then (k, value) :: rest else (k, v) :: put key value rest

/-- The entries without a key. -/
def erase (key : Value) (entries : Entries) : Entries := entries.filter fun e => !e.1.same key

end Entries

end Handover.Interpreter
