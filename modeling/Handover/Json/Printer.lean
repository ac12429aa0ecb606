/-
  Writing a value as a document.

  The text holds ASCII alone: every other character is written as one `\u` escape of four digits,
  or as two such escapes, the halves of a pair, where its code point does not fit four digits.
  Members and items are separated by a comma and a blank, a name and its value by a colon and a
  blank.
-/
import Handover.Json.Value
import Handover.Decimal.Shortest

namespace Handover.Json

/-- The lower-case hexadecimal digit of a number below 16. -/
def hexDigit (n : Nat) : Char :=
  if n < 10 then Char.ofNat (n + '0'.toNat) else Char.ofNat (n - 10 + 'a'.toNat)

/-- The escape of a code unit of 16 bits. -/
def unitEscape (n : Nat) : List Char :=
  ['\\', 'u', hexDigit (n / 0x1000 % 16), hexDigit (n / 0x100 % 16), hexDigit (n / 0x10 % 16),
    hexDigit (n % 16)]

/-- The escape of a code point, as a pair where it does not fit 16 bits. -/
def codePointEscape (n : Nat) : List Char :=
  if n < 0x10000 then unitEscape n
  else unitEscape (0xD800 + (n - 0x10000) / 0x400) ++ unitEscape (0xDC00 + (n - 0x10000) % 0x400)

/-- One character of a string. -/
def printChar (c : Char) : List Char :=
  if c = '"' then ['\\', '"']
  else if c = '\\' then ['\\', '\\']
  else if c = '\n' then ['\\', 'n']
  else if c = '\r' then ['\\', 'r']
  else if c = '\t' then ['\\', 't']
  else if c = '\x08' then ['\\', 'b']
  else if c = '\x0c' then ['\\', 'f']
  else if 0x20 ≤ c.toNat ∧ c.toNat < 0x7F then [c]
  else codePointEscape c.toNat

/-- A string between its quotes. -/
def printString (s : String) : List Char := '"' :: s.toList.flatMap printChar ++ ['"']

mutual

/-- A value. -/
def print : Json → List Char
  | .null => ['n', 'u', 'l', 'l']
  | .bool true => ['t', 'r', 'u', 'e']
  | .bool false => ['f', 'a', 'l', 's', 'e']
  | .integer n => (toString n).toList
  | .float x => (x.render ⟨true⟩).toList
  | .string s => printString s
  | .array items => '[' :: printItems items ++ [']']
  | .object members => '\x7b' :: printMembers members ++ ['\x7d']

/-- The items of an array with their separators. -/
def printItems : List Json → List Char
  | [] => []
  | [item] => print item
  | item :: rest => print item ++ [',', ' '] ++ printItems rest

/-- The members of an object with their separators. -/
def printMembers : List (String × Json) → List Char
  | [] => []
  | [(name, value)] => printString name ++ [':', ' '] ++ print value
  | (name, value) :: rest =>
    printString name ++ [':', ' '] ++ print value ++ [',', ' '] ++ printMembers rest

end

/-- The document of a value. -/
def toDocument (value : Json) : String := String.ofList (print value)

/-! ## Readings -/

example : printChar 'é' = ['\\', 'u', '0', '0', 'e', '9'] := by decide
example : printChar '😀' = "\\ud83d\\ude00".toList := by decide

end Handover.Json
