/-
  Values on their way into words.

  What a parameter or the output of a script leaves in a word depends on whether it stands in quotes:
  there it stays in one piece, elsewhere it may be split and read as a pattern.
-/
import Handover.Shell.Glob

namespace Handover.Shell

/-! ## Values -/

/-- A value in a word. -/
def cellsOf (quoted : Bool) (value : Chars) : List Cell :=
  if quoted then .void :: value.map fun c => .char c true else value.map .loose

/-- All parameters in a word. -/
def cellsOfAll (quoted : Bool) (values : List Chars) : List Cell :=
  [Cell.fieldEnd].intercalate (values.map (cellsOf quoted))

/-- The text without line ends at its end. -/
def dropLineEnds (text : Chars) : Chars := (text.reverse.dropWhile (· == '\n')).reverse

/-- A value without a start that matches a pattern. -/
def dropStart (longest : Bool) (pattern : List Cell) (value : Chars) : Chars :=
  let lengths := List.range (value.length + 1)
  match (if longest then lengths.reverse else lengths).find? fun n =>
    matchesPattern pattern (value.take n) with
  | some n => value.drop n
  | none => value

/-- A value without an end that matches a pattern. -/
def dropEnd (longest : Bool) (pattern : List Cell) (value : Chars) : Chars :=
  let lengths := List.range (value.length + 1)
  match (if longest then lengths else lengths.reverse).find? fun n =>
    matchesPattern pattern (value.drop n) with
  | some n => value.take n
  | none => value

/-- The pieces of a text in which parameters are replaced. -/
def textWord (text : Chars) : Word :=
  match pieces 1 (2 * text.length + 2) .hereText text with
  | .ok (word, _) => word
  | .error _ => [.text true text]

/-- The word that stands for a text as it is. -/
def literal (text : Chars) : Word := [.text true text]

/-- The text of a word in which nothing is to be replaced. -/
def plainText (word : Word) : Chars :=
  word.flatMap fun
    | .text _ chars => chars
    | _ => []

/-! ## Tildes -/

/-- The home directory that the name behind a tilde stands for. -/
def homeOf (s : State) (name : Chars) : Option Chars :=
  if name.isEmpty then s.valueOf? "HOME".toList
  else if name = "root".toList then some "/root".toList
  else none

/-- A text that begins with a tilde, with the home directory in its place. -/
def withHome (s : State) (isLast : Bool) (cs : Chars) : Word :=
  match cs with
  | '~' :: rest =>
    let name := rest.takeWhile fun c => c != '/' && c != ':'
    let after := rest.drop name.length
    match homeOf s name, after.isEmpty && !isLast with
    | some home, false =>
      .text true home :: (if after.isEmpty then [] else [.text false after])
    | _, _ => [.text false cs]
  | cs => [.text false cs]

/-- A word with a leading tilde replaced by the home directory. -/
def atHome (s : State) (word : Word) : Word :=
  match word with
  | .text false cs :: more =>
    if cs.head? = some '~' then withHome s more.isEmpty cs ++ more else word
  | _ => word

/-- The parts of a text between colons. -/
def splitColons : Chars → List Chars
  | [] => [[]]
  | c :: rest =>
    match splitColons rest with
    | [] => [[c]]
    | part :: more => if c = ':' then [] :: part :: more else (c :: part) :: more

/-- The value of an assignment, in which a tilde may stand behind every colon. -/
def valueAtHome (s : State) (word : Word) : Word :=
  let inPiece := fun (isFirst isLast : Bool) (cs : Chars) =>
    let parts := splitColons cs
    [Piece.text false [':']].intercalate <| parts.zipIdx.map fun (part, n) =>
      if part.head? = some '~' ∧ (n ≠ 0 ∨ isFirst) then
        withHome s (isLast || n + 1 < parts.length) part
      else [.text false part]
  let count := word.length
  word.zipIdx.flatMap fun (piece, n) =>
    match piece with
    | .text false cs => if cs.contains '~' then inPiece (n == 0) (n + 1 == count) cs else [piece]
    | piece => [piece]

/-- An argument of the form of an assignment: its name with the sign, and its value. -/
def splitArgument (word : Word) : Option (Chars × Word) :=
  match word with
  | .text false cs :: rest =>
    match splitName cs with
    | (name@(_ :: _), '=' :: value) =>
      some (name ++ ['='], if value.isEmpty then rest else .text false value :: rest)
    | _ => none
  | _ => none

end Handover.Shell
