/-
  The numbers of a document.

  The written form is a sign, digits without a leading zero, an optional fraction and an optional
  exponent.  The value is worked out from the first digits that fit 64 bits, the *significand*:

  1. a whole number whose digits all fit is exact, and stays whole if it fits 64 bits with a sign;
  2. otherwise the significand is rounded to double precision and then multiplied or divided by
     the power of ten that is left, each step rounded on its own.  Digits of the whole part
     that did not fit count as powers of ten; digits of the fraction that did not fit count for
     nothing.
-/
import Handover.Json.Fault
import Handover.Json.Value

namespace Handover.Json

open Decimal (Binary64 Magnitude)

/-- A step of reading: a value and the characters after it, or a stop. -/
abbrev Read (α : Type) := Except Stop (α × List Char)

/-- Stop before the given characters. -/
def stopAt {α : Type} (reason : Reason) (rest : List Char) : Read α := .error ⟨reason, rest, 0⟩

/-- Stop with the first byte of the given characters looked at. -/
def stopOn {α : Type} (reason : Reason) (rest : List Char) : Read α := .error ⟨reason, rest, 1⟩

/-- The value of a decimal digit. -/
def digitValue (c : Char) : Nat := c.toNat - '0'.toNat

/-- The leading decimal digits, and the characters after them. -/
def spanDigits (s : List Char) : List Char × List Char := s.span Char.isDigit

/-! ## The significand -/

/-- The greatest number of 64 bits. -/
def greatestWord : Nat := Nat.pow 2 64 - 1

/-- The greatest number of 64 bits with a sign. -/
def greatestSigned : Nat := Nat.pow 2 63 - 1

/-- Append digits to a number as long as it fits 64 bits; the second part is the number of digits
    left over. -/
def appendDigits (n : Nat) : List Char → Nat × Nat
  | [] => (n, 0)
  | c :: rest =>
    let next := n * 10 + digitValue c
    if greatestWord < next then (n, rest.length + 1) else appendDigits next rest

/-- The number `x · 10 ^ power`, rounded step by step. -/
def scaleByTen (x : Magnitude) : Nat → Int → Option Magnitude
  | 0, _ => some x
  | fuel + 1, power =>
    if power.natAbs ≤ 308 then
      if 0 ≤ power then x.timesTenPower power.natAbs else x.overTenPower power.natAbs
    else if x.mantissa = 0 then some x
    else if 0 ≤ power then none
    else
      match x.overTenPower 308 with
      | none => none
      | some y => scaleByTen y fuel (power + 308)

/-- A significand times a power of ten as a number of double precision. -/
def ofParts (negative : Bool) (significand : Nat) (power : Int) : Option Json := do
  let x ← Magnitude.ofNat significand
  let y ← scaleByTen x (power.natAbs / 308 + 1) power
  return .float ⟨negative, y⟩

/-- A whole number: exact where 64 bits with a sign hold it. -/
def ofWhole (negative : Bool) (n : Nat) : Option Json :=
  if negative then
    if n = 0 ∨ greatestSigned + 1 < n then ofParts true n 0 else some (.integer (-n))
  else if n ≤ greatestSigned then some (.integer n)
  else ofParts false n 0

/-! ## Reading -/

/-- The greatest written exponent. -/
def greatestExponent : Nat := Nat.pow 2 31 - 1

/-- Read the digits of an exponent.  The number is `none` once it passes the greatest exponent;
    the characters are then those after the digit that made it pass. -/
def exponentDigits (n : Nat) : List Char → Option Nat × List Char
  | [] => (some n, [])
  | c :: rest =>
    if c.isDigit then
      let next := n * 10 + digitValue c
      if greatestExponent < next then (none, rest) else exponentDigits next rest
    else (some n, c :: rest)

/-- Give a number, or stop after it if it is too large. -/
def finish (value : Option Json) (rest : List Char) : Read Json :=
  match value with
  | some v => .ok (v, rest)
  | none => stopAt .numberOutOfRange rest

/-- Read an exponent, from the character after its mark. -/
def readExponent (negative : Bool) (significand : Nat) (power : Int) (s : List Char) : Read Json :=
  let (down, digits) :=
    match s with
    | '+' :: rest => (false, rest)
    | '-' :: rest => (true, rest)
    | _ => (false, s)
  match digits with
  | [] => stopAt .endInValue []
  | c :: _ =>
    if !c.isDigit then stopOn .invalidNumber digits
    else
      match exponentDigits 0 digits with
      | (some n, rest) =>
        finish (ofParts negative significand (if down then power - n else power + n)) rest
      | (none, rest) =>
        if significand ≠ 0 ∧ !down then stopAt .numberOutOfRange rest
        else .ok (.float ⟨negative, .zero⟩, (spanDigits rest).2)

/-- Read what may follow the digits of a number that is no longer a plain whole number. -/
def readScale (negative : Bool) (significand : Nat) (power : Int) (s : List Char) : Read Json :=
  match s with
  | 'e' :: rest | 'E' :: rest => readExponent negative significand power rest
  | _ => finish (ofParts negative significand power) s

/-- Read a fraction, from the character after the point. -/
def readFraction (negative : Bool) (significand : Nat) (power : Int) (s : List Char) : Read Json :=
  let (digits, rest) := spanDigits s
  match digits, rest with
  | [], [] => stopAt .endInValue []
  | [], _ => stopOn .invalidNumber rest
  | _, _ =>
    let (significand, left) := appendDigits significand digits
    readScale negative significand (power - ((digits.length : Int) - left)) rest

/-- Read a number, from the character after its sign. -/
def readNumber (negative : Bool) (s : List Char) : Read Json :=
  match s with
  | [] => stopAt .endInValue []
  | '0' :: rest =>
    match rest with
    | c :: _ =>
      if c.isDigit then stopOn .invalidNumber rest
      else if c = '.' then readFraction negative 0 0 (rest.drop 1)
      else if c = 'e' ∨ c = 'E' then readExponent negative 0 0 (rest.drop 1)
      else finish (ofWhole negative 0) rest
    | [] => finish (ofWhole negative 0) rest
  | c :: _ =>
    if !c.isDigit then stopOn .invalidNumber s
    else
      let (digits, rest) := spanDigits s
      let (significand, left) := appendDigits 0 digits
      match rest with
      | '.' :: tail => readFraction negative significand left tail
      | 'e' :: tail | 'E' :: tail => readExponent negative significand left tail
      | _ =>
        if left = 0 then finish (ofWhole negative significand) rest
        else finish (ofParts negative significand left) rest

end Handover.Json
