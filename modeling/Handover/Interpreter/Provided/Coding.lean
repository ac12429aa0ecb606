/-
  Texts as bytes and bytes as texts, by the name of a coding.
-/
import Handover.Interpreter.Provided.Arguments

namespace Handover.Interpreter

/-- How texts and bytes correspond. -/
inductive Coding where
  | utf8
  | ascii
  | latin

/-- The coding of a name. -/
def Coding.ofName? (name : String) : Option Coding :=
  let plain := (name.toLower.toList.filter fun c => c.isAlphanum)
  match String.ofList plain with
  | "utf8" | "u8" | "utf" | "cp65001" | "mbcs" => some .utf8
  | "ascii" | "usascii" | "646" => some .ascii
  | "latin1" | "latin" | "iso88591" | "88591" | "l1" | "cp819" | "8859" => some .latin
  | _ => none

/-- The name of a coding in messages. -/
def Coding.name : Coding → String
  | .utf8 => "utf-8"
  | .ascii => "ascii"
  | .latin => "latin-1"

/-- The coding and the policy that two arguments name. -/
def codingOf (coding policy : Value) : Act (Coding × Policy) := do
  let name ← if coding.isNone then pure "utf-8" else nameArgument "encoding" coding
  let policyName ← if policy.isNone then pure "strict" else nameArgument "errors" policy
  match Coding.ofName? name, Policy.ofName? policyName with
  | some c, some p => return (c, p)
  | none, _ => fail "LookupError" s!"unknown encoding: {name}"
  | _, none => fail "LookupError" s!"unknown error handler name '{policyName}'"

/-- The bytes of a text. -/
def encodeText (coding : Coding) (policy : Policy) (text : CodePoints) : Act Bytes := do
  let (limit, reason) := match coding with
    | .utf8 => (none, "surrogates not allowed")
    | .ascii => (some 0x80, "ordinal not in range(128)")
    | .latin => (some 0x100, "ordinal not in range(256)")
  match CodePoints.encodeWith limit policy text with
  | .ok b => return b
  | .error at_ => refuseEncoding coding.name reason text at_

/-- The text of bytes. -/
def decodeBytes (coding : Coding) (policy : Policy) (bytes : Bytes) : Act CodePoints := do
  let result := match coding with
    | .utf8 => CodePoints.decodeUtf8 policy (bytes.length + 1) 0 bytes
    | .ascii => CodePoints.decodeSingle 0x80 policy "ordinal not in range(128)" bytes
    | .latin => CodePoints.decodeSingle 0x100 policy "" bytes
  match result with
  | .ok text => return text
  | .error fault =>
    failWith "UnicodeDecodeError"
      [.ofString coding.name, .bytes bytes, .ofNat fault.at_, .ofNat (fault.at_ + fault.length),
        .ofString fault.reason]

end Handover.Interpreter
