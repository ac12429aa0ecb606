/-
  Magnitudes with a given number of digits.

  The exact value is rounded, a tie to the even digit.  A magnitude is written positionally with places
  behind the point, with an exponent of at least two digits, or in the shorter of these ways.
-/
import Handover.Decimal.Shortest

namespace Handover.Decimal

/-! ## Digits -/

/-- The decimal digits of a number. -/
def digits (n : Nat) : List Char := Nat.toDigits 10 n

/-- An exponent with its sign and at least two digits. -/
def exponentText (e : Int) : List Char :=
  let ds := digits e.natAbs
  'e' :: (if e < 0 then '-' else '+') :: (if ds.length < 2 then '0' :: ds else ds)

/-- A digit, a point and the other digits. -/
def pointed (ds : List Char) : List Char :=
  match ds with
  | d :: (e :: rest) => d :: '.' :: e :: rest
  | ds => ds

/-- A point `places` digits from the end. -/
def placed (n places : Nat) : List Char :=
  let ds := digits n
  let ds := List.replicate (places + 1 - ds.length) '0' ++ ds
  if places = 0 then ds else ds.take (ds.length - places) ++ '.' :: ds.drop (ds.length - places)

/-! ## Given numbers of digits -/

/-- The digits of a magnitude with places behind the point. -/
def fixed (m : Magnitude) (places : Nat) : List Char :=
  let (n, d) := m.ratio
  placed (roundRatio (n * Nat.pow 10 places) d) places

/-- The ratio `n / d` counted in units of ten to a power. -/
def inUnits (n d : Nat) (power : Int) : Nat × Nat :=
  if 0 ≤ power then (n, d * Nat.pow 10 power.toNat) else (n * Nat.pow 10 (-power).toNat, d)

/-- The first `count` digits of a magnitude as a number, rounded, and the power of ten that the
    first of them counts. -/
def leading (m : Magnitude) (count : Nat) : Nat × Int :=
  if m.mantissa = 0 then (0, 0)
  else
    let (n, d) := m.ratio
    let (s, k) := shortest m
    let guess : Int := (digits s).length + k - 1
    let (a, b) := inUnits n d guess
    let first := if a < b then guess - 1 else guess
    let (a, b) := inUnits n d (first - count + 1)
    let rounded := roundRatio a b
    if rounded = Nat.pow 10 count then (rounded / 10, first + 1) else (rounded, first)

/-- The digits of a magnitude with an exponent. -/
def scientific (m : Magnitude) (places : Nat) : List Char :=
  let (n, first) := leading m (places + 1)
  let ds := digits n
  pointed (ds ++ List.replicate (places + 1 - ds.length) '0') ++ exponentText first

/-- Digits behind a point without the zeros at their end. -/
def dropZeros (ds : List Char) : List Char :=
  let (mantissa, exponent) := (ds.takeWhile (· != 'e'), ds.dropWhile (· != 'e'))
  if !mantissa.contains '.' then ds
  else
    let short := mantissa.reverse.dropWhile (· == '0')
    (if short.head? = some '.' then short.drop 1 else short).reverse ++ exponent

/-- The digits of a magnitude, so many of them, in the shorter way; `keep` keeps zeros at the end. -/
def general (m : Magnitude) (count : Nat) (keep : Bool) (limit : Nat) : List Char :=
  let count := max count 1
  let (_, first) := leading m count
  let ds :=
    if -4 ≤ first ∧ first < limit then fixed m (count - 1 - first).toNat
    else scientific m (count - 1)
  if keep then ds else dropZeros ds

/-! ## Readings -/

example : fixed ⟨5, -1⟩ 0 = ['2'] := by decide +kernel
example : scientific ⟨1, -1074⟩ 2 = "4.94e-324".toList := by decide +kernel
example : general ⟨Nat.pow 2 52, -52⟩ 6 false 6 = ['1'] := by decide +kernel

end Handover.Decimal
