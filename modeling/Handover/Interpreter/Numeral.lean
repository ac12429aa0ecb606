/-
  Numbers as text.

  A number of double precision is written with the fewest digits that read back as the same number:
  positionally where its first digit counts at least a ten-thousandth and less than ten to the
  sixteenth, otherwise with an exponent of at least two digits.
-/
import Handover.Decimal.Places
import Handover.Interpreter.Value
import Handover.Text.Blank

namespace Handover.Interpreter.Numeral

open Decimal (Magnitude digits exponentText pointed)

/-! ## Numbers of double precision, exactly -/

/-- A number of double precision. -/
inductive Reading where
  | notANumber
  | infinite (negative : Bool)
  | finite (negative : Bool) (magnitude : Magnitude)

/-- The number exactly. -/
def read (x : Float) : Reading :=
  let bits := x.toBits.toNat
  let negative := decide (Nat.pow 2 63 ≤ bits)
  let exponent := bits / Nat.pow 2 52 % Nat.pow 2 11
  let fraction := bits % Nat.pow 2 52
  if exponent = 0x7FF then if fraction = 0 then .infinite negative else .notANumber
  else if exponent = 0 then .finite negative ⟨fraction, Decimal.leastExponent⟩
  else .finite negative ⟨fraction + Decimal.fullMantissa, (exponent : Int) - 1075⟩

/-- The largest whole number that is not greater; `none` if there is none. -/
def floor? (x : Float) : Option Int :=
  match read x with
  | .finite negative m =>
    let (n, d) := m.ratio
    some (if negative then -((n + d - 1) / d : Nat) else (n / d : Nat))
  | _ => none

/-- The whole number without the places behind the point; `none` if there is none. -/
def truncated? (x : Float) : Option Int :=
  match read x with
  | .finite negative m =>
    let (n, d) := m.ratio
    some (if negative then -(n / d : Nat) else (n / d : Nat))
  | _ => none

/-- The nearest whole number, a tie to the even one; `none` if there is none. -/
def rounded? (x : Float) : Option Int :=
  match read x with
  | .finite negative m =>
    let (n, d) := m.ratio
    let whole : Nat := Decimal.roundRatio n d
    some (if negative then -(whole : Int) else whole)
  | _ => none

/-- The number is whole. -/
def isWhole (x : Float) : Bool :=
  match read x with
  | .finite _ m => let (n, d) := m.ratio; n % d == 0
  | _ => false

/-! ## Text -/

/-- The sign of a number before its digits. -/
def signed (negative : Bool) (ds : List Char) : List Char := if negative then '-' :: ds else ds

/-- The shortest text of a magnitude. -/
def shortestText (m : Magnitude) : List Char :=
  if m.mantissa = 0 then ['0', '.', '0']
  else
    let (n, k) := Decimal.shortest m
    let ds := (digits n).reverse.dropWhile (· == '0') |>.reverse
    let first : Int := (digits n).length + k - 1
    if -4 ≤ first ∧ first < 16 then
      if first < 0 then '0' :: '.' :: List.replicate (-first - 1).toNat '0' ++ ds
      else
        let whole := first.toNat + 1
        if ds.length ≤ whole then ds ++ List.replicate (whole - ds.length) '0' ++ ['.', '0']
        else ds.take whole ++ '.' :: ds.drop whole
    else pointed ds ++ exponentText first

/-- The text of a number. -/
def text (x : Float) : String :=
  String.ofList <| match read x with
    | .notANumber => "nan".toList
    | .infinite negative => signed negative "inf".toList
    | .finite negative m => signed negative (shortestText m)

/-! ## Reading -/

/-- A list of characters without the blanks around it. -/
def strip (cs : List Char) : List Char := Text.stripBoth Text.isBlank cs

/-! ## Readings -/

example : shortestText ⟨Nat.pow 2 52, -52⟩ = ['1', '.', '0'] := by decide +kernel

end Handover.Interpreter.Numeral
