/-
  Blank characters, and texts without the blanks around them.

  The blanks are those of the property White_Space of the Unicode standard, which takes in more
  than the space, the tab and the line ends: the no-break space is one, the zero-width space is
  not.
-/
import Handover.Text.Ranges

namespace Handover.Text

/-- Code points with the property White_Space. -/
def blankRanges : Ranges :=
  [(0x9, 0xD), (0x20, 0x20), (0x85, 0x85), (0xA0, 0xA0), (0x1680, 0x1680), (0x2000, 0x200A),
   (0x2028, 0x2029), (0x202F, 0x202F), (0x205F, 0x205F), (0x3000, 0x3000)]

/-- A character of the property White_Space. -/
def isBlank (c : Char) : Bool := blankRanges.covers c

/-- A list without the elements at either end that satisfy the test. -/
def stripBoth (p : Char → Bool) (cs : List Char) : List Char :=
  (((cs.dropWhile p).reverse).dropWhile p).reverse

/-- The text without the blanks at its ends. -/
def trim (s : String) : String := String.ofList (stripBoth isBlank s.toList)

/-- A text with nothing but blanks in it. -/
def isAllBlank (s : String) : Bool := s.toList.all isBlank

/-! ## Readings -/

example : isBlank '\u00a0' = true ∧ isBlank '\u200b' = false := by decide
example : stripBoth isBlank [' ', 'a', ' ', 'b', '\n'] = ['a', ' ', 'b'] := by decide

end Handover.Text
