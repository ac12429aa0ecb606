/-
  Base64 with the standard alphabet and required padding.

  `encode` writes three bytes as four symbols and fills the last group with `=`.  `decode` accepts
  exactly what `encode` writes; everything else is a fault that names the first place where the
  text departs from the form.  The checks come in this order:

  1. a single byte after the full groups that is neither a symbol nor `=`;
  2. the bytes of all groups but the last, from the left;
  3. the bytes of the last group, from the left, where `=` may stand only at its third and fourth
     place and only `=` may follow it;
  4. the number of symbols in the last group;
  5. the length of the last group;
  6. the bits of the last symbol that no byte takes up.
-/
import Handover.Text.Utf8

namespace Handover.Base64

/-! ## The alphabet -/

/-- The sign that fills the last group. -/
def pad : UInt8 := 0x3D

/-- The symbol of a number below 64. -/
def symbol (n : Nat) : UInt8 :=
  if n < 26 then UInt8.ofNat (n + 65)
  else if n < 52 then UInt8.ofNat (n + 71)
  else if n < 62 then UInt8.ofNat (n - 4)
  else if n = 62 then 0x2B
  else 0x2F

/-- The number of a symbol: `A` to `Z`, `a` to `z`, `0` to `9`, `+` and `/` in this order. -/
def value? (b : UInt8) : Option Nat :=
  if 65 ≤ b ∧ b ≤ 90 then some (b.toNat - 65)
  else if 97 ≤ b ∧ b ≤ 122 then some (b.toNat - 71)
  else if 48 ≤ b ∧ b ≤ 57 then some (b.toNat + 4)
  else if b = 0x2B then some 62
  else if b = 0x2F then some 63
  else none

/-! ## Encoding -/

/-- The padded form of a byte string. -/
def encode : Bytes → Bytes
  | [] => []
  | [a] => [symbol (a.toNat / 4), symbol (a.toNat % 4 * 16), pad, pad]
  | [a, b] =>
    [symbol (a.toNat / 4), symbol (a.toNat % 4 * 16 + b.toNat / 16), symbol (b.toNat % 16 * 4), pad]
  | a :: b :: c :: rest =>
    symbol (a.toNat / 4) :: symbol (a.toNat % 4 * 16 + b.toNat / 16)
      :: symbol (b.toNat % 16 * 4 + c.toNat / 64) :: symbol (c.toNat % 64) :: encode rest

/-! ## Decoding -/

/-- Where and how a text departs from the form.  Offsets count bytes from the start. -/
inductive Fault where
  /-- A byte that has no place where it stands. -/
  | byte (b : UInt8) (offset : Nat)
  /-- The text ends after one symbol of a group. -/
  | length (symbols : Nat)
  /-- The last group is not filled. -/
  | padding
  /-- The last symbol has bits that no byte takes up. -/
  | lastSymbol (b : UInt8) (offset : Nat)
deriving Repr, DecidableEq

/-- The words of a fault. -/
def Fault.message : Fault → String
  | .byte b offset => s!"Invalid symbol {b}, offset {offset}."
  | .length symbols => s!"Invalid input length: {symbols}"
  | .padding => "Invalid padding"
  | .lastSymbol b offset => s!"Invalid last symbol {b}, offset {offset}."

/-- The number of the symbol at an offset. -/
def symbolAt (b : UInt8) (offset : Nat) : Except Fault Nat :=
  match value? b with
  | some n => .ok n
  | none => .error (.byte b offset)

/-- The numbers of a run of symbols that starts at an offset. -/
def symbolsAt : Nat → Bytes → Except Fault (List Nat)
  | _, [] => .ok []
  | offset, b :: rest => do
    let n ← symbolAt b offset
    let ns ← symbolsAt (offset + 1) rest
    return n :: ns

/-- The bytes of the last group from its symbols; `last` is the byte of the last symbol. -/
def closing (last : UInt8) (offset : Nat) : List Nat → Except Fault Bytes
  | [p, q] =>
    if q % 16 = 0 then .ok [UInt8.ofNat (p * 4 + q / 16)]
    else .error (.lastSymbol last (offset + 1))
  | [p, q, r] =>
    if r % 4 = 0 then
      .ok [UInt8.ofNat (p * 4 + q / 16), UInt8.ofNat (q % 16 * 16 + r / 4)]
    else .error (.lastSymbol last (offset + 2))
  | [p, q, r, s] =>
    .ok [UInt8.ofNat (p * 4 + q / 16), UInt8.ofNat (q % 16 * 16 + r / 4),
      UInt8.ofNat (r % 4 * 64 + s)]
  | _ => .error .padding

/-- The bytes of the last group, of one to four bytes, that starts at an offset. -/
def lastGroup (offset : Nat) (group : Bytes) : Except Fault Bytes := do
  let symbols := group.takeWhile (· ≠ pad)
  let fill := group.dropWhile (· ≠ pad)
  let numbers ← symbolsAt offset symbols
  if fill ≠ [] ∧ (symbols.length < 2 ∨ fill.any (· ≠ pad)) then
    throw (.byte pad (offset + symbols.length))
  if symbols.length < 2 then
    throw (.length (offset + symbols.length))
  if (symbols.length + fill.length) % 4 ≠ 0 then
    throw .padding
  closing (symbols.getLastD pad) offset numbers

/-- Decode the groups from an offset on. -/
def groupsFrom (offset : Nat) : Bytes → Except Fault Bytes
  | [] => .ok []
  | a :: b :: c :: d :: rest =>
    if rest.isEmpty then lastGroup offset [a, b, c, d]
    else do
      let p ← symbolAt a offset
      let q ← symbolAt b (offset + 1)
      let r ← symbolAt c (offset + 2)
      let s ← symbolAt d (offset + 3)
      let tail ← groupsFrom (offset + 4) rest
      return UInt8.ofNat (p * 4 + q / 16) :: UInt8.ofNat (q % 16 * 16 + r / 4)
        :: UInt8.ofNat (r % 4 * 64 + s) :: tail
  | group => lastGroup offset group

/-- The bytes that a text stands for. -/
def decode (text : Bytes) : Except Fault Bytes :=
  let stray :=
    if text.length % 4 = 1 then
      text.getLast?.filter fun b => (value? b).isNone && b != pad
    else none
  match stray with
  | some b => .error (.byte b (text.length - 1))
  | none => groupsFrom 0 text

/-! ## Readings -/

example : encode [0x66, 0x6F] = Text.encode "Zm8=" := by decide
example : (decode (Text.encode "Zm8=")).toOption = some [0x66, 0x6F] := by decide
example : (decode (Text.encode "Zm9=")).toOption = none := by decide
example : (decode (Text.encode "Zm8")).toOption = none := by decide

end Handover.Base64
