/-
  Byte strings as texts of a small alphabet.
-/
import Handover.Base64
import Handover.Interpreter.Provided.Methods

namespace Handover.Interpreter

/-- The bytes of an argument that may be a text of ASCII. -/
def asciiBytes (v : Value) : Act Bytes := do
  match ← plain v, ← bytes? v with
  | .text t, _ => encodeText .ascii .strict t
  | _, some b => return b
  | _, none =>
    let kind ← kindName v
    fail "TypeError" s!"argument should be bytes, buffer or ASCII string, not '{kind}'"

/-- The bytes of an argument that must not be a text. -/
def bytesArgument (v : Value) : Act Bytes := do
  match ← bytes? v with
  | some b => return b
  | none =>
    let kind ← kindName v
    fail "TypeError" s!"a bytes-like object is required, not '{kind}'"

/-- The symbols of a text that are left when all others are passed over, up to its padding. -/
def base64Symbols (b : Bytes) : Bytes :=
  b.filter fun x => (Base64.value? x).isSome

/-- The bytes of a text in which signs that are no symbols are passed over. -/
def base64Lenient (b : Bytes) : Act Bytes := do
  let symbols := base64Symbols (b.takeWhile (· != Base64.pad))
  let padding := (b.filter (· == Base64.pad)).length
  let values := symbols.filterMap Base64.value?
  let rest := values.length % 4
  if rest = 1 then
    fail "Error"
      ("Invalid base64-encoded string: number of data characters (" ++ toString values.length
        ++ ") cannot be 1 more than a multiple of 4")
  if rest ≠ 0 ∧ rest + padding < 4 then fail "Error" "Incorrect padding"
  return decodeGroups (values.length + 1) values
where
  /-- The bytes of the values of symbols, four at a time. -/
  decodeGroups : Nat → List Nat → Bytes
    | 0, _ => []
    | fuel + 1, a :: b :: c :: d :: rest =>
      UInt8.ofNat (a * 4 + b / 16) :: UInt8.ofNat (b % 16 * 16 + c / 4)
        :: UInt8.ofNat (c % 4 * 64 + d) :: decodeGroups fuel rest
    | _, [a, b, c] => [UInt8.ofNat (a * 4 + b / 16), UInt8.ofNat (b % 16 * 16 + c / 4)]
    | _, [a, b] => [UInt8.ofNat (a * 4 + b / 16)]
    | _, _ => []

/-- The next state of a sum that checks bytes. -/
def checkStep (sum : Nat) (b : UInt8) : Nat :=
  (List.range 8).foldl
    (fun (s : Nat) _ => if s % 2 = 1 then (s / 2) ^^^ 0xEDB88320 else s / 2) (sum ^^^ b.toNat)

/-- Carry out a function of the module `binascii`. -/
def binaryFunction (ev : Evaluator) (name : String) (g : Given) : Act Value := do
  match name with
  | "b2a_base64" =>
    let b ← bytesArgument g.first
    let newline ← match g.named? "newline" with
      | some v => truth ev v
      | none => pure true
    return .bytes (Base64.encode b ++ if newline then [0x0A] else [])
  | "a2b_base64" =>
    let b ← asciiBytes g.first
    if ← truth ev ((g.named? "strict_mode").getD .none) then
      match Base64.decode b with
      | .ok bytes => return .bytes bytes
      | .error _ => fail "Error" "Only base64 data is allowed"
    else return .bytes (← base64Lenient b)
  | "hexlify" | "b2a_hex" =>
    let b ← bytesArgument g.first
    return .bytes ((b.flatMap fun x => CodePoints.hexadecimal 2 x.toNat).map UInt8.ofNat)
  | "unhexlify" | "a2b_hex" =>
    let b ← asciiBytes g.first
    match bytesOfHex (rawText b) with
    | some bytes => return .bytes bytes
    | none =>
      fail "Error" (if b.length % 2 = 1 then "Odd-length string" else "Non-hexadecimal digit found")
  | "crc32" =>
    let b ← bytesArgument g.first
    return .ofNat ((b.foldl checkStep 0xFFFFFFFF) ^^^ 0xFFFFFFFF)
  | n => fail "AttributeError" s!"module 'binascii' has no attribute '{n}'"

end Handover.Interpreter
