/-
  Binary numbers of double precision, exactly.

  A finite number is kept as its sign and the magnitude `mantissa · 2 ^ exponent`.  Arithmetic is
  done on ratios of natural numbers and rounded once, to the nearest number of double precision,
  a tie to the even mantissa.  The results have at most 53 bits of mantissa and no exponent below
  −1074; a result beyond the largest finite number is `none`.
-/

namespace Handover.Decimal

/-- The magnitude `mantissa · 2 ^ exponent`. -/
structure Magnitude where
  mantissa : Nat
  exponent : Int
deriving Repr, DecidableEq

/-- A finite number of double precision. -/
structure Binary64 where
  negative : Bool
  magnitude : Magnitude
deriving Repr, DecidableEq

/-- The smallest exponent of a magnitude. -/
def leastExponent : Int := -1074

/-- The largest exponent of a magnitude. -/
def greatestExponent : Int := 971

/-- The mantissa of a number with all its bits is at least this. -/
def fullMantissa : Nat := Nat.pow 2 52

/-- The magnitude zero. -/
def Magnitude.zero : Magnitude := ⟨0, leastExponent⟩

/-- `num / den` to the nearest natural number, a tie to the even one. -/
def roundRatio (num den : Nat) : Nat :=
  let whole := num / den
  let twice := 2 * (num % den)
  if twice < den then whole
  else if den < twice then whole + 1
  else whole + whole % 2

/-- The ratio `num / den` divided by `2 ^ exponent`, again as a ratio. -/
def scaleRatio (num den : Nat) (exponent : Int) : Nat × Nat :=
  if 0 ≤ exponent then (num, den * Nat.pow 2 exponent.toNat)
  else (num * Nat.pow 2 (-exponent).toNat, den)

/-- The magnitude nearest to `num / den`. -/
def Magnitude.ofRatio (num den : Nat) : Option Magnitude :=
  if num = 0 then some .zero
  else
    -- `num / den` lies between `2 ^ (guess + 51)` and `2 ^ (guess + 53)`
    let guess : Int := (Nat.log2 num : Int) - (Nat.log2 den : Int) - 52
    let (n, d) := scaleRatio num den guess
    let exponent := max (if n < fullMantissa * d then guess - 1 else guess) leastExponent
    let (n, d) := scaleRatio num den exponent
    let mantissa := roundRatio n d
    let (mantissa, exponent) :=
      if mantissa = 2 * fullMantissa then (fullMantissa, exponent + 1) else (mantissa, exponent)
    if greatestExponent < exponent then none else some ⟨mantissa, exponent⟩

/-- The magnitude as a ratio of natural numbers. -/
def Magnitude.ratio (x : Magnitude) : Nat × Nat :=
  if 0 ≤ x.exponent then (x.mantissa * Nat.pow 2 x.exponent.toNat, 1)
  else (x.mantissa, Nat.pow 2 (-x.exponent).toNat)

/-- The magnitude nearest to a natural number. -/
def Magnitude.ofNat (n : Nat) : Option Magnitude := Magnitude.ofRatio n 1

/-- The rounded product with the double nearest to `10 ^ power`. -/
def Magnitude.timesTenPower (x : Magnitude) (power : Nat) : Option Magnitude :=
  match Magnitude.ofNat (Nat.pow 10 power) with
  | none => none
  | some ten =>
    let (n, d) := x.ratio
    let (n', d') := ten.ratio
    Magnitude.ofRatio (n * n') (d * d')

/-- The rounded quotient by the double nearest to `10 ^ power`. -/
def Magnitude.overTenPower (x : Magnitude) (power : Nat) : Option Magnitude :=
  match Magnitude.ofNat (Nat.pow 10 power) with
  | none => none
  | some ten =>
    let (n, d) := x.ratio
    let (n', d') := ten.ratio
    Magnitude.ofRatio (n * d') (d * n')

/-- The number is zero, of either sign. -/
def Binary64.isZero (x : Binary64) : Bool := x.magnitude.mantissa == 0

/-! ## Readings -/

example : Magnitude.ofNat 1 = some ⟨2 ^ 52, -52⟩ := by decide +kernel
example : Magnitude.ofNat (2 ^ 53 + 1) = some ⟨2 ^ 52, 1⟩ := by decide +kernel
example : Magnitude.ofNat (10 ^ 309) = none := by decide +kernel
example : Magnitude.ofRatio 1 (2 ^ 1075) = some ⟨0, -1074⟩ := by decide +kernel

end Handover.Decimal
