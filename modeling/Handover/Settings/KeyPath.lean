/-
  Names of settings that say where in a table of tables the value goes.

  A name such as `a.b[2].c` is a path: an identifier, followed by any number of members and
  subscripts.  A name of any other form is one plain name, with whatever signs are in it.
-/
import Handover.Text.LowerCase

namespace Handover.Settings

/-- One step of a path into a value. -/
inductive PathStep where
  | member (name : String)
  | item (index : Nat)
deriving Repr, DecidableEq

/-- A path into a table: the name it starts at and the steps from there. -/
structure KeyPath where
  root : String
  steps : List PathStep
deriving Repr, DecidableEq

/-- A character of an identifier: an ASCII letter or digit, a blank, `_` or `-`. -/
def isIdentifierChar (c : Char) : Bool := c.isAlphanum || c == ' ' || c == '_' || c == '-'

/-- A blank inside the brackets of a subscript. -/
def isPadding (c : Char) : Bool := c == ' ' || c == '\t'

/-- The greatest subscript. -/
def greatestIndex : Nat := Nat.pow 2 63 - 1

/-- An identifier, and the characters after it. -/
def readIdentifier (s : List Char) : Option (String × List Char) :=
  match s.span isIdentifierChar with
  | ([], _) => none
  | (name, rest) => some (String.ofList name, rest)

/-- A sign before a number, and what follows it. -/
def readMinus (s : List Char) : Bool × List Char :=
  match s with
  | '-' :: rest => (true, rest)
  | s => (false, s)

/-- A subscript, from the character after its opening bracket.  Zero may have a minus before it;
    nothing else may. -/
def readIndex (s : List Char) : Option (Nat × List Char) :=
  let (minus, s) := readMinus (s.dropWhile isPadding)
  let (digits, rest) := s.span Char.isDigit
  let index := digits.foldl (fun n c => n * 10 + (c.toNat - '0'.toNat)) 0
  match digits, rest.dropWhile isPadding with
  | _ :: _, ']' :: rest =>
    if index ≤ (if minus then 0 else greatestIndex) then some (index, rest) else none
  | _, _ => none

/-- The steps of a path, up to the end of the name. -/
def readSteps : Nat → List Char → Option (List PathStep)
  | _, [] => some []
  | 0, _ => none
  | fuel + 1, '.' :: rest => do
    let (name, rest) ← readIdentifier rest
    let steps ← readSteps fuel rest
    return .member (Text.lower name) :: steps
  | fuel + 1, '[' :: rest => do
    let (index, rest) ← readIndex rest
    let steps ← readSteps fuel rest
    return .item index :: steps
  | _, _ => none

/-- The path that a name spells, with its parts in lower case. -/
def KeyPath.read? (name : String) : Option KeyPath := do
  let (root, rest) ← readIdentifier name.toList
  let steps ← readSteps rest.length rest
  return ⟨Text.lower root, steps⟩

/-- Where the value of a name goes: along the path it spells, else under the name itself. -/
def KeyPath.ofName (name : String) : KeyPath :=
  (KeyPath.read? name).getD ⟨Text.lower name, []⟩

/-! ## Readings -/

example : KeyPath.ofName "a.B[ 2 ]" = ⟨"a", [.member "b", .item 2]⟩ := by decide +kernel
example : KeyPath.ofName "a..b" = ⟨"a..b", []⟩ := by decide +kernel
example : KeyPath.ofName "a[b]" = ⟨"a[b]", []⟩ := by decide +kernel
example : KeyPath.ofName "a[-0]" = ⟨"a", [.item 0]⟩ := by decide +kernel

end Handover.Settings
