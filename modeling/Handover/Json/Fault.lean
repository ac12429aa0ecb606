/-
  What can be wrong with the text of a document, and where.

  A fault is found at a number of bytes from the start of the text and told as a line and a column.
  Lines are counted from one; the column is the number of bytes since the last line end before
  that place.
-/
import Handover.Text.Utf8

namespace Handover.Json

/-- Why a text is no document. -/
inductive Reason where
  | endInValue
  | endInString
  | endInList
  | endInObject
  | expectedValue
  | expectedWord
  | invalidNumber
  | numberOutOfRange
  | controlCharacter
  | invalidEscape
  | loneSurrogate
  | unfinishedSurrogate
  | trailingComma
  | expectedListEnd
  | expectedObjectEnd
  | expectedColon
  | nameNotString
  | tooDeep
  | trailingCharacters
deriving Repr, DecidableEq

/-- The words of a reason. -/
def Reason.message : Reason → String
  | .endInValue => "EOF while parsing a value"
  | .endInString => "EOF while parsing a string"
  | .endInList => "EOF while parsing a list"
  | .endInObject => "EOF while parsing an object"
  | .expectedValue => "expected value"
  | .expectedWord => "expected ident"
  | .invalidNumber => "invalid number"
  | .numberOutOfRange => "number out of range"
  | .controlCharacter => "control character (\\u0000-\\u001F) found while parsing a string"
  | .invalidEscape => "invalid escape"
  | .loneSurrogate => "lone leading surrogate in hex escape"
  | .unfinishedSurrogate => "unexpected end of hex escape"
  | .trailingComma => "trailing comma"
  | .expectedListEnd => "expected `,` or `]`"
  | .expectedObjectEnd => "expected `,` or `\x7d`"
  | .expectedColon => "expected `:`"
  | .nameNotString => "key must be a string"
  | .tooDeep => "recursion limit exceeded"
  | .trailingCharacters => "trailing characters"

/-- A reason at a place. -/
structure Fault where
  reason : Reason
  line : Nat
  column : Nat
deriving Repr, DecidableEq

/-- The words of a fault. -/
def Fault.message (f : Fault) : String :=
  s!"{f.reason.message} at line {f.line} column {f.column}"

/-- Where reading stopped: the characters not yet read, and how many bytes of them had been
    looked at. -/
structure Stop where
  reason : Reason
  rest : List Char
  seen : Nat
deriving Repr, DecidableEq

/-- The line end, as a byte. -/
def lineEnd : UInt8 := 0x0A

/-- The line and the column after some bytes. -/
def position (bytes : Bytes) : Nat × Nat :=
  (1 + bytes.count lineEnd, (bytes.reverse.takeWhile (· ≠ lineEnd)).length)

/-- The place of a stop in its document, never past the end of the document. -/
def Stop.locate (stop : Stop) (document : List Char) : Fault :=
  let bytes := Text.encodeChars document
  let offset := bytes.length - (Text.encodeChars stop.rest).length + stop.seen
  let (line, column) := position (bytes.take offset)
  ⟨stop.reason, line, column⟩

/-! ## Readings -/

example : position (Text.encode "ab\nc") = (2, 1) := by decide
example : position [] = (1, 0) := by decide

end Handover.Json
