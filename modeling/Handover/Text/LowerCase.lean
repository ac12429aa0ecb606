/-
  Lower-casing of texts by the full mapping of the Unicode standard.

  Every character maps on its own, with two exceptions: the capital I with a dot becomes two
  characters, and a capital sigma becomes the final form at the end of a word.  A word ends where,
  the ignorable characters looked past, a letter stands before the sigma and none after it.
-/
import Handover.Text.LowerCase.Table

namespace Handover.Text

/-- The code point lies on the row. -/
def LowerRow.holds (row : LowerRow) (n : Nat) : Bool :=
  decide (row.first ≤ n) && decide (n ≤ row.last) && (n - row.first) % row.step == 0

/-- The simple lower-case form of a character. -/
def lowerSimple (c : Char) : Char :=
  match lowerRows.find? fun row => row.holds c.toNat with
  | some row => Char.ofNat (c.toNat + row.shift).toNat
  | none => c

/-- A cased letter comes next, once the ignorable characters are looked past. -/
def casedAhead (cs : List Char) : Bool :=
  match cs.dropWhile isCaseIgnorable with
  | c :: _ => isCased c
  | [] => false

/-- Lower-case a text of which `before` has been passed, the nearest character first. -/
def lowerFrom (before : List Char) : List Char → List Char
  | [] => []
  | c :: rest =>
    let mapped :=
      if c = 'Σ' then [if casedAhead before && !casedAhead rest then 'ς' else 'σ']
      else if c = 'İ' then ['i', '\u0307']
      else [lowerSimple c]
    mapped ++ lowerFrom (c :: before) rest

/-- The lower-case form of a text. -/
def lower (s : String) : String := String.ofList (lowerFrom [] s.toList)

/-! ## Readings -/

example : lowerFrom [] "Exe_Suffix".toList = "exe_suffix".toList := by decide +kernel
example : lowerFrom [] "ΟΔΟΣ".toList = "οδος".toList := by decide +kernel
example : lowerFrom [] "ΣΑ".toList = "σα".toList := by decide +kernel

end Handover.Text
