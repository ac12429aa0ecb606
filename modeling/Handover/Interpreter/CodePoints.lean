/-
  Texts that need not be texts.

  The interpreter keeps a text as the list of its code points.  A half of a surrogate pair may stand
  alone in it: the halves from U+DC80 to U+DCFF stand for the single bytes of a path that is no
  UTF-8, so that every path can be held as a text and given back byte for byte.

  Two directions connect texts and bytes, and each meets pieces that it cannot carry over; what
  then happens is told by a *policy*.
-/
import Handover.Text.LowerCase
import Handover.Text.Utf8

namespace Handover.Interpreter

/-- A text by its code points. -/
abbrev CodePoints := List Nat

/-- What happens to a piece that has no counterpart. -/
inductive Policy where
  | strict
  | ignore
  | replace
  /-- A half of a pair from U+DC80 to U+DCFF stands for one byte. -/
  | surrogateEscape
  /-- A half of a pair is written as any other code point of its size. -/
  | surrogatePass
  | backslashReplace
deriving DecidableEq

/-- The policy of a name. -/
def Policy.ofName? : String → Option Policy
  | "strict" => some .strict
  | "ignore" => some .ignore
  | "replace" => some .replace
  | "surrogateescape" => some .surrogateEscape
  | "surrogatepass" => some .surrogatePass
  | "backslashreplace" => some .backslashReplace
  | _ => none

namespace CodePoints

/-- The code points of a string. -/
def ofString (s : String) : CodePoints := s.toList.map Char.toNat

/-- A half of a surrogate pair. -/
def isHalf (n : Nat) : Bool := decide (0xD800 ≤ n) && decide (n ≤ 0xDFFF)

/-- The character of a code point; what is no character is shown as the replacement character. -/
def charOf (n : Nat) : Char := if n.isValidChar then Char.ofNat n else Text.replacement

/-- The characters of a text. -/
def chars (text : CodePoints) : List Char := text.map charOf

/-- The text as a string, for messages. -/
def display (text : CodePoints) : String := String.ofList text.chars

/-- The code point of an ASCII character. -/
def isAscii (n : Nat) (c : Char) : Bool := n == c.toNat

/-! ## Digits -/

/-- The lower-case digit of a number below 36. -/
def digit (n : Nat) : Nat := if n < 10 then n + '0'.toNat else n - 10 + 'a'.toNat

/-- The number of a digit, of either case. -/
def digitValue? (n : Nat) : Option Nat :=
  if '0'.toNat ≤ n ∧ n ≤ '9'.toNat then some (n - '0'.toNat)
  else if 'a'.toNat ≤ n ∧ n ≤ 'z'.toNat then some (n - 'a'.toNat + 10)
  else if 'A'.toNat ≤ n ∧ n ≤ 'Z'.toNat then some (n - 'A'.toNat + 10)
  else none

/-- The digits of a number in a base. -/
def digits (base n : Nat) : CodePoints := (Nat.toDigits base n).map Char.toNat

/-- The last `width` hexadecimal digits of a number. -/
def hexadecimal (width n : Nat) : CodePoints :=
  (List.range width).reverse.map fun k => digit (n / Nat.pow 16 k % 16)

/-- A code point as an escape of a backslash, a letter and hexadecimal digits. -/
def escaped (n : Nat) : CodePoints :=
  if n < 0x100 then ofString "\\x" ++ hexadecimal 2 n
  else if n < 0x10000 then ofString "\\u" ++ hexadecimal 4 n
  else ofString "\\U" ++ hexadecimal 8 n

/-! ## To bytes -/

/-- The bytes of a code point that is a half of a pair, written like any other of its size. -/
def passedHalf (n : Nat) : Bytes :=
  [UInt8.ofNat (0xE0 + n / 0x1000), UInt8.ofNat (0x80 + n / 0x40 % 0x40),
    UInt8.ofNat (0x80 + n % 0x40)]

/-- The bytes of a code point that is smaller than `limit`, or is a character if there is no limit;
    any other is treated by the policy.  `none` if the policy refuses it. -/
def encodeOne (limit : Option Nat) (policy : Policy) (n : Nat) : Option Bytes :=
  let plain := match limit with
    | some limit => decide (n < limit)
    | none => n.isValidChar
  if plain then
    some (if limit.isSome then [UInt8.ofNat n] else String.utf8EncodeChar (Char.ofNat n))
  else
    match policy with
    | .strict => none
    | .ignore => some []
    | .replace => some [0x3F]
    | .surrogateEscape => if 0xDC80 ≤ n ∧ n ≤ 0xDCFF then some [UInt8.ofNat (n - 0xDC00)] else none
    | .surrogatePass => if isHalf n && limit.isNone then some (passedHalf n) else none
    | .backslashReplace => some ((escaped n).map UInt8.ofNat)

/-- The bytes of a text, or the place of the first code point that has none. -/
def encodeWith (limit : Option Nat) (policy : Policy) (text : CodePoints) : Except Nat Bytes :=
  go 0 text
where
  /-- Encode the text from a place on. -/
  go (at_ : Nat) : CodePoints → Except Nat Bytes
    | [] => .ok []
    | n :: rest =>
      match encodeOne limit policy n with
      | none => .error at_
      | some bytes => (go (at_ + 1) rest).map (bytes ++ ·)

/-- The bytes of a path. -/
def toPath? (text : CodePoints) : Option Bytes :=
  (encodeWith none .surrogateEscape text).toOption

/-! ## From bytes -/

/-- Why bytes are no UTF-8. -/
inductive Malformed where
  | start
  | continuation
  | cut
deriving DecidableEq

/-- The words for it. -/
def Malformed.message : Malformed → String
  | .start => "invalid start byte"
  | .continuation => "invalid continuation byte"
  | .cut => "unexpected end of data"

/-- What the first bytes are: a code point and how many bytes it takes, or a fault and how many
    bytes it takes. -/
def decodeFirst : Bytes → Except (Malformed × Nat) (Nat × Nat)
  | [] => .error (.cut, 1)
  | b :: rest =>
    match Text.firstByte b with
    | (shown, none) => if b < 0x80 then .ok ((shown.headD ' ').toNat, 1) else .error (.start, 1)
    | (_, some p) => go p 1 rest
where
  /-- Read the bytes that continue a code point. -/
  go (p : Text.Partial) (taken : Nat) : Bytes → Except (Malformed × Nat) (Nat × Nat)
    | [] => .error (.cut, taken)
    | b :: rest =>
      if !Text.within p.low p.high b then .error (.continuation, taken)
      else
        match p.nextByte b with
        | (_, some p) => go p (taken + 1) rest
        | (shown, none) => .ok ((shown.headD ' ').toNat, taken + 1)

/-- What a policy makes of bytes that stand for nothing; `none` if it refuses them. -/
def decodeFaulty (policy : Policy) (bytes : Bytes) : Option CodePoints :=
  match policy with
  | .strict | .surrogatePass => none
  | .ignore => some []
  | .replace => some [Text.replacement.toNat]
  | .surrogateEscape => some (bytes.map fun b => b.toNat + 0xDC00)
  | .backslashReplace => some (bytes.flatMap fun b => ofString "\\x" ++ hexadecimal 2 b.toNat)

/-- Why bytes cannot be decoded: the fault, its place and its length. -/
structure DecodeFault where
  reason : String
  at_ : Nat
  length : Nat

/-- The text of bytes that are UTF-8.  `fuel` bounds the number of steps. -/
def decodeUtf8 (policy : Policy) : Nat → Nat → Bytes → Except DecodeFault CodePoints
  | 0, _, _ | _, _, [] => .ok []
  | fuel + 1, at_, bytes =>
    match decodeFirst bytes with
    | .ok (n, taken) =>
      (decodeUtf8 policy fuel (at_ + taken) (bytes.drop taken)).map (n :: ·)
    | .error (fault, taken) =>
      match decodeFaulty policy (bytes.take taken) with
      | none => .error ⟨fault.message, at_, taken⟩
      | some text =>
        (decodeUtf8 policy fuel (at_ + taken) (bytes.drop taken)).map (text ++ ·)

/-- The text of bytes of which each stands for one code point below `limit`. -/
def decodeSingle (limit : Nat) (policy : Policy) (reason : String) (bytes : Bytes) :
    Except DecodeFault CodePoints :=
  go 0 bytes
where
  /-- Decode the bytes from a place on. -/
  go (at_ : Nat) : Bytes → Except DecodeFault CodePoints
    | [] => .ok []
    | b :: rest =>
      if b.toNat < limit then (go (at_ + 1) rest).map (b.toNat :: ·)
      else
        match decodeFaulty policy [b] with
        | none => .error ⟨reason, at_, 1⟩
        | some text => (go (at_ + 1) rest).map (text ++ ·)

/-- The text of a path. -/
def ofPath (path : Bytes) : CodePoints :=
  match decodeUtf8 .surrogateEscape path.length 0 path with
  | .ok text => text
  | .error _ => []

/-! ## Letters -/

/-- The simple lower-case form of a text. -/
def lower (text : CodePoints) : CodePoints :=
  if text.any isHalf then text.map fun n => if isHalf n then n else (Text.lowerSimple (charOf n)).toNat
  else (Text.lowerFrom [] text.chars).map Char.toNat

/-- The upper-case form of a code point: the one whose lower-case form it is. -/
def upperOne (n : Nat) : CodePoints :=
  if 'a'.toNat ≤ n ∧ n ≤ 'z'.toNat then [n - 32]
  else if n < 0x80 then [n]
  else if n = 0xDF then ['S'.toNat, 'S'.toNat]
  else if n = 0xFF then [0x178]
  else if n = 0xB5 then [0x39C]
  else
    match Text.lowerRows.find? fun row =>
      let m : Int := n - row.shift
      decide (0 ≤ m) && row.shift != 0 && row.holds m.toNat with
    | some row => [((n : Int) - row.shift).toNat]
    | none => [n]

/-- The upper-case form of a text. -/
def upper (text : CodePoints) : CodePoints := text.flatMap upperOne

/-- A letter of ASCII, or any other cased letter. -/
def isCasedLetter (n : Nat) : Bool := lower [n] != [n] || upperOne n != [n]

/-! ## Parts -/

/-- A text begins with another. -/
def startsWith (text start : CodePoints) : Bool := start.isPrefixOf text

/-- The place of the first occurrence of a part in a text. -/
def find? (part : CodePoints) : CodePoints → Option Nat
  | [] => if part.isEmpty then some 0 else none
  | n :: rest =>
    if part.isPrefixOf (n :: rest) then some 0 else (find? part rest).map (· + 1)

/-- The parts of a text between the occurrences of a separator, at most `most` of them split off. -/
def splitOn (separator : CodePoints) : Nat → Nat → CodePoints → List CodePoints
  | 0, _, text | _, 0, text => [text]
  | fuel + 1, most + 1, text =>
    match find? separator text with
    | none => [text]
    | some n =>
      text.take n :: splitOn separator fuel most (text.drop (n + separator.length))

/-! ## Readings -/

example : ofPath [0x61, 0xE9] = [0x61, 0xDCE9] := by decide
example : toPath? [0x61, 0xDCE9] = some [0x61, 0xE9] := by decide
example : toPath? [0xD83D] = none := by decide
example : escaped 0xE9 = ofString "\\xe9" := by decide

end CodePoints

end Handover.Interpreter
