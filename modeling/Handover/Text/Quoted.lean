/-
  A text between double quotes, with everything in it visible.

  The quote, the backslash and four controls have escapes of a backslash and one letter.  Any
  other character that has no printed form of its own, or that would attach to the character
  before it, is written as its code point in lower-case hexadecimal between braces.

  Two refinements of the two properties decide what is visible: the halfwidth sound marks attach to
  the character before them but take a cell of their own, and the fillers of the Korean script are
  letters without any form.
-/
import Handover.Text.Unprintable
import Handover.Text.GraphemeExtend

namespace Handover.Text

/-- The lower-case hexadecimal digits of a number. -/
def hexDigits (n : Nat) : List Char := Nat.toDigits 16 n

/-- Letters that are there only to fill a place. -/
def fillerRanges : Ranges := [(0x115F, 0x1160), (0x3164, 0x3164), (0xFFA0, 0xFFA0)]

/-- Marks that attach to the character before them and yet take a cell of their own. -/
def spacingMarkRanges : Ranges := [(0xFF9E, 0xFF9F)]

/-- The character cannot be seen, or not apart from the one before it. -/
def isHidden (c : Char) : Bool :=
  isUnprintable c || fillerRanges.covers c || (isGraphemeExtend c && !spacingMarkRanges.covers c)

/-- One character inside a quoted text. -/
def quoteChar (c : Char) : List Char :=
  if c = '"' then ['\\', '"']
  else if c = '\\' then ['\\', '\\']
  else if c = '\n' then ['\\', 'n']
  else if c = '\r' then ['\\', 'r']
  else if c = '\t' then ['\\', 't']
  else if c = '\x00' then ['\\', '0']
  else if isHidden c then
    ['\\', 'u', '\x7b'] ++ hexDigits c.toNat ++ ['\x7d']
  else [c]

/-- The text between quotes. -/
def quoted (s : String) : String :=
  String.ofList ('"' :: s.toList.flatMap quoteChar ++ ['"'])

/-! ## Readings -/

example : quoteChar '\u0301' = ['\\', 'u', '\x7b', '3', '0', '1', '\x7d'] := by decide +kernel
example : quoteChar 'é' = ['é'] := by decide +kernel
example : quoteChar '\uff9e' = ['\uff9e'] := by decide +kernel
example : quoteChar '\u3164' = ['\\', 'u', '\x7b', '3', '1', '6', '4', '\x7d'] := by decide +kernel

end Handover.Text
