/-
  Reading a document.

  The reader goes through the characters once, from left to right, and keeps what it has not read
  yet.  Where it cannot go on it stops with a reason; the place is worked out from what was left.
  Arrays and objects may be nested 127 deep.

  `Json.read` is the whole: one value with blanks around it.  The recursion is bounded by the number
  of characters, since every nested value takes at least one.
-/
import Handover.Json.Number

namespace Handover.Json

/-- A blank between the parts of a document. -/
def isBlank (c : Char) : Bool := c == ' ' || c == '\n' || c == '\t' || c == '\r'

/-- The characters from the first that is no blank. -/
def skipBlanks (s : List Char) : List Char := s.dropWhile isBlank

/-! ## Words -/

/-- Read the given characters and give the value they stand for. -/
def readWord (value : Json) : List Char → List Char → Read Json
  | [], s => .ok (value, s)
  | _ :: _, [] => stopAt .endInValue []
  | w :: word, c :: s => if c = w then readWord value word s else stopOn .expectedWord (c :: s)

/-! ## Strings -/

/-- The character of an escape of one letter. -/
def simpleEscape (c : Char) : Option Char :=
  match c with
  | '"' => some '"'
  | '\\' => some '\\'
  | '/' => some '/'
  | 'b' => some '\x08'
  | 'f' => some '\x0c'
  | 'n' => some '\n'
  | 'r' => some '\r'
  | 't' => some '\t'
  | _ => none

/-- The value of a hexadecimal digit of either case. -/
def hexValue (c : Char) : Option Nat :=
  if '0' ≤ c ∧ c ≤ '9' then some (c.toNat - '0'.toNat)
  else if 'a' ≤ c ∧ c ≤ 'f' then some (c.toNat - 'a'.toNat + 10)
  else if 'A' ≤ c ∧ c ≤ 'F' then some (c.toNat - 'A'.toNat + 10)
  else none

/-- The number of four hexadecimal digits. -/
def hexNumber (a b c d : Char) : Option Nat := do
  let a ← hexValue a
  let b ← hexValue b
  let c ← hexValue c
  let d ← hexValue d
  return a * 0x1000 + b * 0x100 + c * 0x10 + d

/-- Stop at an escape that lacks its four digits: at the end if fewer than four bytes are left,
    else with four bytes looked at. -/
def stopInHex {α : Type} (s : List Char) : Read α :=
  if (Text.encodeChars s).length < 4 then stopAt .endInString []
  else .error ⟨.invalidEscape, s, 4⟩

/-- The first of the two halves of a code point past the first plane. -/
def isHighSurrogate (n : Nat) : Bool := decide (0xD800 ≤ n) && decide (n ≤ 0xDBFF)

/-- The second of the two halves. -/
def isLowSurrogate (n : Nat) : Bool := decide (0xDC00 ≤ n) && decide (n ≤ 0xDFFF)

/-- The code point of two halves. -/
def joinSurrogates (high low : Nat) : Nat := 0x10000 + (high - 0xD800) * 0x400 + (low - 0xDC00)

/-- The value of a read with one more character in front of its text. -/
def Read.push (c : Char) (read : Read (List Char)) : Read (List Char) :=
  match read with
  | .ok (text, rest) => .ok (c :: text, rest)
  | .error stop => .error stop

/-- Read the text of a string, from the character after its opening quote. -/
def readText : List Char → Read (List Char)
  | [] => stopAt .endInString []
  | '"' :: rest => .ok ([], rest)
  | '\\' :: 'u' :: a :: b :: c :: d :: rest =>
    match hexNumber a b c d with
    | none => .error ⟨.invalidEscape, a :: b :: c :: d :: rest, 4⟩
    | some n =>
      if isLowSurrogate n then stopAt .loneSurrogate rest
      else if isHighSurrogate n then
        match rest with
        | '\\' :: 'u' :: a' :: b' :: c' :: d' :: rest' =>
          match hexNumber a' b' c' d' with
          | none => .error ⟨.invalidEscape, a' :: b' :: c' :: d' :: rest', 4⟩
          | some m =>
            if isLowSurrogate m then
              Read.push (Char.ofNat (joinSurrogates n m)) (readText rest')
            else stopAt .loneSurrogate rest'
        | '\\' :: 'u' :: rest' => stopInHex rest'
        | '\\' :: other :: rest' => stopOn .unfinishedSurrogate (other :: rest')
        | ['\\'] => stopAt .endInString []
        | other :: rest' => stopOn .unfinishedSurrogate (other :: rest')
        | [] => stopAt .endInString []
      else Read.push (Char.ofNat n) (readText rest)
  | '\\' :: 'u' :: rest => stopInHex rest
  | '\\' :: e :: rest =>
    match simpleEscape e with
    | some c => Read.push c (readText rest)
    | none => stopOn .invalidEscape (e :: rest)
  | ['\\'] => stopAt .endInString []
  | c :: rest =>
    if c.toNat < 0x20 then stopOn .controlCharacter (c :: rest)
    else Read.push c (readText rest)

/-! ## Values -/

/-- How deep arrays and objects may be nested, plus one. -/
def depthLimit : Nat := 128

mutual

/-- Read a value.  `depth` is one more than the number of levels that may still be opened. -/
def readValue : Nat → Nat → List Char → Read Json
  | 0, _, s => stopAt .endInValue s
  | fuel + 1, depth, s =>
    match skipBlanks s with
    | [] => stopAt .endInValue []
    | '"' :: rest =>
      match readText rest with
      | .ok (text, rest) => .ok (.string (String.ofList text), rest)
      | .error stop => .error stop
    | '[' :: rest =>
      if depth ≤ 1 then stopOn .tooDeep ('[' :: rest)
      else
        match readItems fuel (depth - 1) true rest with
        | .ok (items, rest) => .ok (.array items, rest)
        | .error stop => .error stop
    | '\x7b' :: rest =>
      if depth ≤ 1 then stopOn .tooDeep ('\x7b' :: rest)
      else
        match readMembers fuel (depth - 1) true rest with
        | .ok (pairs, rest) => .ok (.object (Members.ofList pairs), rest)
        | .error stop => .error stop
    | 'n' :: rest => readWord .null ['u', 'l', 'l'] rest
    | 't' :: rest => readWord (.bool true) ['r', 'u', 'e'] rest
    | 'f' :: rest => readWord (.bool false) ['a', 'l', 's', 'e'] rest
    | '-' :: rest => readNumber true rest
    | c :: rest =>
      if c.isDigit then readNumber false (c :: rest) else stopOn .expectedValue (c :: rest)

/-- Read the items of an array up to its closing bracket; `first` says that none has been read. -/
def readItems : Nat → Nat → Bool → List Char → Read (List Json)
  | 0, _, _, s => stopAt .endInList s
  | fuel + 1, depth, first, s =>
    match skipBlanks s with
    | [] => stopAt .endInList []
    | ']' :: rest => .ok ([], rest)
    | c :: rest =>
      if first then readItem fuel depth (c :: rest)
      else if c = ',' then
        match skipBlanks rest with
        | [] => stopAt .endInValue []
        | ']' :: rest' => stopOn .trailingComma (']' :: rest')
        | rest' => readItem fuel depth rest'
      else stopOn .expectedListEnd (c :: rest)

/-- Read one item and those after it. -/
def readItem : Nat → Nat → List Char → Read (List Json)
  | 0, _, s => stopAt .endInList s
  | fuel + 1, depth, s =>
    match readValue fuel depth s with
    | .error stop => .error stop
    | .ok (item, rest) =>
      match readItems fuel depth false rest with
      | .error stop => .error stop
      | .ok (items, rest) => .ok (item :: items, rest)

/-- Read the members of an object up to its closing brace. -/
def readMembers : Nat → Nat → Bool → List Char → Read (List (String × Json))
  | 0, _, _, s => stopAt .endInObject s
  | fuel + 1, depth, first, s =>
    match skipBlanks s with
    | [] => stopAt .endInObject []
    | '\x7d' :: rest => .ok ([], rest)
    | c :: rest =>
      if first then readMember fuel depth (c :: rest)
      else if c = ',' then
        match skipBlanks rest with
        | [] => stopAt .endInValue []
        | '\x7d' :: rest' => stopOn .trailingComma ('\x7d' :: rest')
        | rest' => readMember fuel depth rest'
      else stopOn .expectedObjectEnd (c :: rest)

/-- Read one member and those after it, from the quote of its name. -/
def readMember : Nat → Nat → List Char → Read (List (String × Json))
  | 0, _, s => stopAt .endInObject s
  | fuel + 1, depth, s =>
    match s with
    | '"' :: rest =>
      match readText rest with
      | .error stop => .error stop
      | .ok (name, rest) =>
        match skipBlanks rest with
        | [] => stopAt .endInObject []
        | ':' :: rest =>
          match readValue fuel depth rest with
          | .error stop => .error stop
          | .ok (value, rest) =>
            match readMembers fuel depth false rest with
            | .error stop => .error stop
            | .ok (pairs, rest) => .ok ((String.ofList name, value) :: pairs, rest)
        | rest => stopOn .expectedColon rest
    | _ => stopOn .nameNotString s

end

/-- Read a document: one value, and nothing but blanks around it. -/
def readChars (document : List Char) : Except Stop Json :=
  match readValue (4 * document.length + 4) depthLimit document with
  | .error stop => .error stop
  | .ok (value, rest) =>
    match skipBlanks rest with
    | [] => .ok value
    | rest => .error ⟨.trailingCharacters, rest, 1⟩

/-- Read a document. -/
def read (document : String) : Except Fault Json :=
  match readChars document.toList with
  | .ok value => .ok value
  | .error stop => .error (stop.locate document.toList)

end Handover.Json
