/-
  Text as bytes and bytes as text.

  Paths, arguments and what a process writes are byte strings; messages are text.  Two directions
  connect them:

  1. `encode` gives the UTF-8 form of a text;
  2. `decodeLossy` reads any bytes at all as text.  Where the bytes are no UTF-8 the longest piece
     that could still have begun a character counts as one error, and each error is shown as one
     replacement character.
-/

namespace Handover

/-- A byte string: a path, an argument, or what a process writes. -/
abbrev Bytes := List UInt8

namespace Text

/-! ## Encoding -/

/-- The UTF-8 form of a list of characters. -/
def encodeChars (cs : List Char) : Bytes := cs.flatMap String.utf8EncodeChar

/-- The UTF-8 form of a text. -/
def encode (s : String) : Bytes := encodeChars s.toList

@[simp] theorem encodeChars_cons (c : Char) (cs : List Char) :
    encodeChars (c :: cs) = String.utf8EncodeChar c ++ encodeChars cs := rfl

@[simp] theorem encodeChars_append (xs ys : List Char) :
    encodeChars (xs ++ ys) = encodeChars xs ++ encodeChars ys := by
  simp [encodeChars]

/-! ## Lossy decoding

  The decoder reads byte by byte.  Between two bytes it holds at most one character that is begun:
  how many bytes are still to come, what the next of them may be, and the bits read so far. -/

/-- A character that is begun.  The bounds on the next byte keep out overlong forms, surrogates
    and code points past the last. -/
structure Partial where
  /-- Bytes to come after the next one. -/
  further : Nat
  low : UInt8
  high : UInt8
  /-- The bits read so far. -/
  bits : Nat
deriving Repr, DecidableEq

/-- The byte lies between the two bounds. -/
def within (low high b : UInt8) : Bool := decide (low ≤ b) && decide (b ≤ high)

/-- The character shown for bytes that are no text. -/
def replacement : Char := '\uFFFD'

/-- Read a byte where a character may begin: what is shown for it, and the character it begins. -/
def firstByte (b : UInt8) : List Char × Option Partial :=
  if b < 0x80 then ([Char.ofNat b.toNat], none)
  else if b < 0xC2 then ([replacement], none)
  else if b < 0xE0 then ([], some ⟨0, 0x80, 0xBF, b.toNat % 0x20⟩)
  else if b = 0xE0 then ([], some ⟨1, 0xA0, 0xBF, 0⟩)
  else if b = 0xED then ([], some ⟨1, 0x80, 0x9F, 0x0D⟩)
  else if b < 0xF0 then ([], some ⟨1, 0x80, 0xBF, b.toNat % 0x10⟩)
  else if b = 0xF0 then ([], some ⟨2, 0x90, 0xBF, 0⟩)
  else if b < 0xF4 then ([], some ⟨2, 0x80, 0xBF, b.toNat % 0x08⟩)
  else if b = 0xF4 then ([], some ⟨2, 0x80, 0x8F, 4⟩)
  else ([replacement], none)

/-- Read a byte inside a character.  A byte that cannot continue it makes what was read an error
    and is itself read as a first byte. -/
def Partial.nextByte (p : Partial) (b : UInt8) : List Char × Option Partial :=
  if within p.low p.high b then
    let bits := p.bits * 0x40 + b.toNat % 0x40
    match p.further with
    | 0 => ([Char.ofNat bits], none)
    | n + 1 => ([], some ⟨n, 0x80, 0xBF, bits⟩)
  else
    let (shown, begun) := firstByte b
    (replacement :: shown, begun)

/-- Decode with a character possibly begun. -/
def decodeFrom : Option Partial → Bytes → List Char
  | none, [] => []
  | some _, [] => [replacement]
  | begun, b :: rest =>
    let (shown, begun') := match begun with
      | none => firstByte b
      | some p => p.nextByte b
    shown ++ decodeFrom begun' rest

/-- Bytes as characters, one replacement character for each maximal piece that is no UTF-8. -/
def decodeLossy (bytes : Bytes) : List Char := decodeFrom none bytes

/-- Bytes as text, for messages. -/
def display (bytes : Bytes) : String := String.ofList (decodeLossy bytes)

/-- The bytes are the UTF-8 form of a text. -/
def isUtf8 (bytes : Bytes) : Bool := encodeChars (decodeLossy bytes) == bytes

/-! ## Readings -/

example : encode "é" = [0xC3, 0xA9] := by decide
example : decodeLossy [0x63, 0xE9, 0x2F] = ['c', replacement, '/'] := by decide
example : decodeLossy [0xE2, 0x82, 0x2F] = [replacement, '/'] := by decide
example : decodeLossy [0xED, 0xA0, 0x80] = [replacement, replacement, replacement] := by decide
example : decodeLossy [0xF0, 0x9F, 0x98, 0x80] = ['😀'] := by decide

end Text

end Handover
