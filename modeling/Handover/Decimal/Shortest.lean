/-
  The shortest decimal text of a binary number.

  A number of double precision stands for every real number that rounds to it.  Its shortest text
  is the one with the fewest digits among those reals; of two with equally few digits the nearer
  one is taken, and of two equally near the larger.

  The digits are found by going down the decimal grids `10 ^ k`, the coarsest first: on each grid
  only the two neighbours of the number can lie in its interval, and the first grid on which one
  of them does is the answer.  All comparisons are between natural numbers.
-/
import Handover.Decimal.Binary64

namespace Handover.Decimal

/-- The reals that round to a magnitude, as the bounds `low / den` and `high / den` around the
    value `mid / den`; the bounds themselves belong when `closed` holds. -/
structure Interval where
  low : Nat
  mid : Nat
  high : Nat
  den : Nat
  closed : Bool

/-- The interval of a magnitude: half a step up, and down half a step, or a quarter where the
    step below is half as wide. -/
def Interval.of (x : Magnitude) : Interval :=
  let narrow := x.mantissa = fullMantissa ∧ leastExponent < x.exponent
  let below := if narrow then 1 else 2
  let (up, den) := if 0 ≤ x.exponent then (Nat.pow 2 x.exponent.toNat, 4)
    else (1, 4 * Nat.pow 2 (-x.exponent).toNat)
  { low := (4 * x.mantissa - below) * up
    mid := 4 * x.mantissa * up
    high := (4 * x.mantissa + 2) * up
    den
    closed := x.mantissa % 2 == 0 }

/-- The point `num / den` of the interval's own scale lies in the interval. -/
def Interval.holds (i : Interval) (num scale : Nat) : Bool :=
  if i.closed then decide (i.low * scale ≤ num) && decide (num ≤ i.high * scale)
  else decide (i.low * scale < num) && decide (num < i.high * scale)

/-- The digits on the grid `10 ^ k`, if a neighbour of the value lies in the interval. -/
def Interval.onGrid (i : Interval) (k : Int) : Option Nat :=
  -- `d · 10 ^ k` against `mid / den`: compare `d · step` with `mid · scale`
  let (step, scale) :=
    if 0 ≤ k then (i.den * Nat.pow 10 k.toNat, 1) else (i.den, Nat.pow 10 (-k).toNat)
  let target := i.mid * scale
  let down := target / step
  let up := down + 1
  let downFits := i.holds (down * step) scale
  let upFits := i.holds (up * step) scale
  if downFits && upFits then
    some (if target - down * step < up * step - target then down else up)
  else if downFits then some down
  else if upFits then some up
  else none

/-- The first grid, from `10 ^ k` downwards, that has digits. -/
def Interval.search (i : Interval) : Nat → Int → Nat × Int
  | 0, k => (0, k)
  | fuel + 1, k =>
    match i.onGrid k with
    | some digits => (digits, k)
    | none => i.search fuel (k - 1)

/-- The shortest digits of a magnitude that is not zero, and the power of ten they count. -/
def shortest (x : Magnitude) : Nat × Int := (Interval.of x).search 700 310

/-- How a number is written: always positionally; `pointAlways` keeps `.0` on whole numbers. -/
structure Style where
  pointAlways : Bool

/-- The digits `digits · 10 ^ k` written positionally. -/
def positional (style : Style) (digits : Nat) (k : Int) : List Char :=
  let ds := Nat.toDigits 10 digits
  if 0 ≤ k then
    ds ++ List.replicate k.toNat '0' ++ (if style.pointAlways then ['.', '0'] else [])
  else
    let places := (-k).toNat
    if places < ds.length then
      ds.take (ds.length - places) ++ '.' :: ds.drop (ds.length - places)
    else '0' :: '.' :: List.replicate (places - ds.length) '0' ++ ds

/-- The text of a number. -/
def Binary64.render (style : Style) (x : Binary64) : String :=
  let body :=
    if x.isZero then positional style 0 0
    else
      let (digits, k) := shortest x.magnitude
      positional style digits k
  String.ofList (if x.negative then '-' :: body else body)

/-! ## Readings -/

example : shortest ⟨2 ^ 52, -52⟩ = (1, 0) := by decide +kernel
example : shortest ⟨1, -1074⟩ = (5, -324) := by decide +kernel
example : positional ⟨false⟩ 15 (-1) = ['1', '.', '5'] := by decide
example : positional ⟨false⟩ 5 (-3) = ['0', '.', '0', '0', '5'] := by decide

end Handover.Decimal
