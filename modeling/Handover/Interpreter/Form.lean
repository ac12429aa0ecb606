/-
  The forms in which values are written.

  A form tells how wide a text is at least, on which side it is filled up and with what, how a number
  shows its sign, its base and its places, and how its digits are grouped.  A form that does not
  fit the value is refused.
-/
import Handover.Interpreter.Numeral

namespace Handover.Interpreter

/-- A form. -/
structure Form where
  fill : Char := ' '
  /-- The side on which the value stands: `<`, `>`, `^`, or `=` behind the sign of a number. -/
  side : Option Char := none
  sign : Char := '-'
  /-- The base of a number is shown, and its zeros are kept. -/
  full : Bool := false
  width : Nat := 0
  grouping : Option Char := none
  places : Option Nat := none
  type : Option Char := none

namespace Form

/-- A character that tells a side. -/
def isSide (c : Char) : Bool := c == '<' || c == '>' || c == '^' || c == '='

/-- The number in front, if there is one, and what follows. -/
def takeNumber (cs : List Char) : Option Nat × List Char :=
  let ds := cs.takeWhile Char.isDigit
  (if ds.isEmpty then none else some (ds.foldl (fun n c => n * 10 + (c.toNat - '0'.toNat)) 0),
    cs.drop ds.length)

/-- Read a form. -/
def ofChars? (cs : List Char) : Option Form := do
  let (f, cs) : Form × List Char := match cs with
    | c :: s :: rest =>
      if isSide s then ({ fill := c, side := some s }, rest)
      else if isSide c then ({ side := some c }, s :: rest)
      else ({}, cs)
    | [c] => if isSide c then ({ side := some c }, []) else ({}, cs)
    | [] => ({}, [])
  let (f, cs) := match cs with
    | c :: rest => if c == '+' || c == '-' || c == ' ' then ({ f with sign := c }, rest) else (f, cs)
    | [] => (f, cs)
  let cs := if cs.head? = some 'z' then cs.drop 1 else cs
  let (f, cs) := if cs.head? = some '#' then ({ f with full := true }, cs.drop 1) else (f, cs)
  let (f, cs) :=
    if cs.head? = some '0' then
      (if f.side.isNone then { f with fill := '0', side := some '=' } else f, cs.drop 1)
    else (f, cs)
  let (width, cs) := takeNumber cs
  let f := { f with width := width.getD 0 }
  let (f, cs) := match cs with
    | c :: rest => if c == ',' || c == '_' then ({ f with grouping := some c }, rest) else (f, cs)
    | [] => (f, cs)
  let (f, cs) ← match cs with
    | '.' :: rest =>
      match takeNumber rest with
      | (some n, rest) => some ({ f with places := some n }, rest)
      | (none, _) => none
    | _ => some (f, cs)
  match cs with
  | [] => some f
  | [c] => some { f with type := some c }
  | _ => none

/-- Fill a text up to the width of a form; `sign` stands in front of it. -/
def fillUp (f : Form) (side : Char) (sign body : CodePoints) : CodePoints :=
  let missing := f.width - (sign.length + body.length)
  let fill := fun (n : Nat) => List.replicate n f.fill.toNat
  match f.side.getD side with
  | '<' => sign ++ body ++ fill missing
  | '^' => fill (missing / 2) ++ sign ++ body ++ fill (missing - missing / 2)
  | '=' => sign ++ fill missing ++ body
  | _ => fill missing ++ sign ++ body

/-- Digits with a sign between groups of them, the last ones first. -/
def groupReversed (sign : Char) (size : Nat) : Nat → List Char → List Char
  | _, [] => []
  | 0, d :: ds => sign :: d :: groupReversed sign size (size - 1) ds
  | n + 1, d :: ds => d :: groupReversed sign size n ds

/-- The digits before a point with a sign between groups. -/
def grouped (f : Form) (size : Nat) (ds : List Char) : List Char :=
  match f.grouping with
  | none => ds
  | some sign =>
    let whole := ds.takeWhile fun c => (CodePoints.digitValue? c.toNat).isSome && c != 'e'
    (groupReversed sign size size whole.reverse).reverse ++ ds.drop whole.length

/-- The sign of a number. -/
def signText (f : Form) (negative : Bool) : List Char :=
  if negative then ['-'] else if f.sign = '-' then [] else [f.sign]

/-- A text in a form. -/
def ofText (f : Form) (text : CodePoints) : Option CodePoints :=
  if !(f.type.all (· == 's')) || f.sign != '-' || f.side == some '=' && f.fill != '0' then none
  else
    let text := match f.places with
      | some n => text.take n
      | none => text
    let f := if f.side = some '=' then { f with side := some '<' } else f
    some (f.fillUp '<' [] text)

/-- A number of double precision in a form. -/
def ofFloat (f : Form) (x : Float) : Option CodePoints := do
  let upper := fun (ds : List Char) => ds.map Char.toUpper
  let body := fun (m : Decimal.Magnitude) => do
    match f.type with
    | some 'f' | some 'F' => some (Decimal.fixed m (f.places.getD 6))
    | some 'e' => some (Decimal.scientific m (f.places.getD 6))
    | some 'E' => some (upper (Decimal.scientific m (f.places.getD 6)))
    | some 'g' | some 'n' =>
      let count := max (f.places.getD 6) 1
      some (Decimal.general m count f.full count)
    | some 'G' =>
      let count := max (f.places.getD 6) 1
      some (upper (Decimal.general m count f.full count))
    | some '%' =>
      let (n, d) := m.ratio
      let places := f.places.getD 6
      some (Decimal.placed (Decimal.roundRatio (n * 100 * Nat.pow 10 places) d) places ++ ['%'])
    | none =>
      match f.places with
      | none => some (Numeral.shortestText m)
      | some n =>
        let count := max n 1
        let ds := Decimal.general m count false (count - 1)
        some (if ds.contains 'e' || ds.contains '.' then ds else ds ++ ['.', '0'])
    | _ => none
  let (negative, ds) ← match Numeral.read x with
    | .notANumber => some (false, "nan".toList)
    | .infinite negative => some (negative, "inf".toList)
    | .finite negative m => (body m).map fun ds => (negative, f.grouped 3 ds)
  let code := fun (cs : List Char) => cs.map Char.toNat
  return f.fillUp '>' (code (f.signText negative)) (code ds)

/-- A whole number in a form. -/
def ofInt (f : Form) (n : Int) : Option CodePoints := do
  let code := fun (cs : List Char) => cs.map Char.toNat
  let based := fun (base : Nat) (mark : String) (size : Nat) =>
    some (mark, f.grouped size (Nat.toDigits base n.natAbs))
  match f.type with
  | some 'e' | some 'E' | some 'f' | some 'F' | some 'g' | some 'G' | some '%' =>
    f.ofFloat (Value.floatOfInt n)
  | some 'c' =>
    if n < 0 ∨ 0x110000 ≤ n then none else some (f.fillUp '<' [] [n.toNat])
  | type => do
    if f.places.isSome then none
    let (mark, ds) ← match type with
      | none | some 'd' | some 'n' => based 10 "" 3
      | some 'b' => based 2 "0b" 4
      | some 'o' => based 8 "0o" 4
      | some 'x' => based 16 "0x" 4
      | some 'X' => (based 16 "0X" 4).map fun p => (p.1, p.2.map Char.toUpper)
      | _ => none
    let sign := f.signText (decide (n < 0)) ++ (if f.full then mark.toList else [])
    return f.fillUp '>' (code sign) (code ds)

/-! ## Readings -/

/-- What a form makes of a whole number, for readings. -/
def shownInt (form : String) (n : Int) : Option CodePoints := do (← ofChars? form.toList).ofInt n

example : shownInt "05d" (-42) = some (CodePoints.ofString "-0042") := by decide
example : shownInt "#x" 255 = some (CodePoints.ofString "0xff") := by decide
example : shownInt "," 1234567 = some (CodePoints.ofString "1,234,567") := by decide
example : shownInt "*^7" 42 = some (CodePoints.ofString "**42***") := by decide

end Form

end Handover.Interpreter
