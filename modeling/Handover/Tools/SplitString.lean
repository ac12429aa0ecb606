/-
  A command line in one string.

  A string is split where blanks stand outside of quotes.  Single quotes keep everything but an escaped
  quote or backslash, double quotes let escapes and the values of variables through, and a sign of
  number where a word could begin ends the string.
-/
import Handover.Text.Utf8

namespace Handover.Tools

/-- Why a string cannot be split. -/
inductive SplitFault where
  | backslashAtEnd
  | unknownEscape (letter : UInt8)
  | endInQuotes
  | notAVariable (rest : Bytes)
  | openQuote
deriving Repr, DecidableEq

/-- The words for a fault. -/
def SplitFault.text : SplitFault → Bytes
  | .backslashAtEnd => Text.encode "invalid backslash at end of string in -S"
  | .unknownEscape letter =>
    Text.encode "invalid sequence \x27\\" ++ letter :: Text.encode "\x27 in -S"
  | .endInQuotes => Text.encode "\x27\\c\x27 must not appear in double-quoted -S string"
  | .notAVariable rest =>
    Text.encode "only $\x7bVARNAME\x7d expansion is supported, error at: " ++ rest
  | .openQuote => Text.encode "no terminating quote in -S string"

/-- The quotes that a place stands in. -/
inductive Quotes where
  | none
  | single
  | double
deriving Repr, DecidableEq

/-- How far a string is split: the words that are complete, the last first, and the one that has
    been begun. -/
structure Splitting where
  words : List Bytes := []
  begun : Option Bytes := none

namespace Splitting

/-- Begin a word if none is begun. -/
def open_ (s : Splitting) : Splitting := { s with begun := some (s.begun.getD []) }

/-- Put bytes behind the word that is begun. -/
def add (s : Splitting) (bytes : Bytes) : Splitting :=
  { s with begun := some (s.begun.getD [] ++ bytes) }

/-- End the word that is begun. -/
def close (s : Splitting) : Splitting := ⟨s.begun.toList ++ s.words, none⟩

/-- The words in their order. -/
def all (s : Splitting) : List Bytes := s.close.words.reverse

end Splitting

/-- A blank between words. -/
def isGap (b : UInt8) : Bool := b == 0x20 || (0x09 ≤ b && b ≤ 0x0D)

/-- The name of a variable between braces at the start of a text, and what follows it. -/
def braced? : Bytes → Option (Bytes × Bytes)
  | 0x7B :: rest =>
    let isLetter := fun (b : UInt8) =>
      b == 0x5F || (0x41 ≤ b && b ≤ 0x5A) || (0x61 ≤ b && b ≤ 0x7A)
    let name := rest.takeWhile fun b => isLetter b || (0x30 ≤ b && b ≤ 0x39)
    match name, rest.drop name.length with
    | first :: _, 0x7D :: rest => if isLetter first then some (name, rest) else none
    | _, _ => none
  | _ => none

/-- The byte for a letter after a backslash that stands for it everywhere. -/
def plainEscape? (b : UInt8) : Option UInt8 :=
  if b = 0x66 then some 0x0C
  else if b = 0x6E then some 0x0A
  else if b = 0x72 then some 0x0D
  else if b = 0x74 then some 0x09
  else if b = 0x76 then some 0x0B
  else if (Text.encode "\"#$\x27\\").contains b then some b
  else none

/-- Split a string.  `valueOf` gives the values of variables. -/
def split (valueOf : Bytes → Option Bytes) :
    Nat → Quotes → Splitting → Bytes → Except SplitFault (List Bytes)
  | 0, _, s, _ => .ok s.all
  | _ + 1, quotes, s, [] => if quotes = .none then .ok s.all else .error .openQuote
  | fuel + 1, quotes, s, b :: rest =>
    let keep := split valueOf fuel quotes (s.add [b]) rest
    if b = 0x27 ∧ quotes ≠ .double then
      split valueOf fuel (if quotes = .single then .none else .single) s.open_ rest
    else if b = 0x22 ∧ quotes ≠ .single then
      split valueOf fuel (if quotes = .double then .none else .double) s.open_ rest
    else if isGap b ∧ quotes = .none then
      split valueOf fuel quotes s.close (rest.dropWhile isGap)
    else if b = 0x23 ∧ s.begun = none then .ok s.all
    else if b = 0x24 ∧ quotes ≠ .single then
      match braced? rest with
      | none => .error (.notAVariable (b :: rest))
      | some (name, rest) =>
        match valueOf name with
        | some value => split valueOf fuel quotes (s.add value) rest
        | none => split valueOf fuel quotes s rest
    else if b = 0x5C then
      match rest with
      | [] => if quotes = .single then keep else .error .backslashAtEnd
      | c :: rest =>
        if quotes = .single ∧ c ≠ 0x5C ∧ c ≠ 0x27 then keep
        else if c = 0x5F then
          if quotes = .double then split valueOf fuel quotes (s.add [0x20]) rest
          else split valueOf fuel quotes s.close rest
        else if c = 0x63 then
          if quotes = .double then .error .endInQuotes else .ok s.all
        else
          match plainEscape? c with
          | some e => split valueOf fuel quotes (s.add [e]) rest
          | none => .error (.unknownEscape c)
    else keep

/-- The words of a string. -/
def splitString (valueOf : Bytes → Option Bytes) (text : Bytes) :
    Except SplitFault (List Bytes) :=
  split valueOf (text.length + 1) .none {} text

example : splitString (fun _ => some (Text.encode "v w"))
    (Text.encode "a 'b c'\\_\"$\x7bx\x7d\\_\" d#e #f")
    = .ok [Text.encode "a", Text.encode "b c", Text.encode "v w ", Text.encode "d#e"] := rfl

end Handover.Tools
