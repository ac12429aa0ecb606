/-
  Reading a line.

  The command `read` takes one line of its input and shares it among variables.  Unless the line is
  taken as it is, a backslash takes the meaning of the sign behind it, and at the end of a line joins
  it with the next one.  The last variable gets all that is left.
-/
import Handover.Shell.State

namespace Handover.Shell.Read

/-! ## Lines -/

/-- The cells of the first line of a text, whether the line had an end, and how long it was. -/
def lineOf (raw : Bool) : Chars → List Cell × Bool × Nat
  | [] => ([], false, 0)
  | '\n' :: _ => ([], true, 1)
  | '\x00' :: rest =>
    let (cells, complete, n) := lineOf raw rest
    (cells, complete, n + 1)
  | '\\' :: rest =>
    if raw then
      let (cells, complete, n) := lineOf raw rest
      (.loose '\\' :: cells, complete, n + 1)
    else
      match rest with
      | [] => ([], false, 1)
      | '\n' :: rest =>
        let (cells, complete, n) := lineOf raw rest
        (cells, complete, n + 2)
      | c :: rest =>
        let (cells, complete, n) := lineOf raw rest
        (.char c true :: cells, complete, n + 2)
  | c :: rest =>
    let (cells, complete, n) := lineOf raw rest
    (.loose c :: cells, complete, n + 1)

/-! ## Sharing a line -/

/-- The cell is a blank between fields. -/
def isGap (separators : Chars) : Cell → Bool
  | .loose c => separators.contains c && (c == ' ' || c == '\t' || c == '\n')
  | _ => false

/-- The cell ends a field. -/
def endsField (separators : Chars) : Cell → Bool
  | .loose c => separators.contains c
  | _ => false

/-- Cells without the blanks at their end. -/
def dropTrailingGaps (separators : Chars) (cells : List Cell) : List Cell :=
  (cells.reverse.dropWhile (isGap separators)).reverse

/-- The cells after the end of a field: blanks and at most one other separator. -/
def afterField (separators : Chars) (cells : List Cell) : List Cell :=
  match cells.dropWhile (isGap separators) with
  | c :: rest => if endsField separators c then rest.dropWhile (isGap separators) else c :: rest
  | [] => []

/-- Share a line among names.  The last name takes all that is left, without the separator at its end
    if there is only one field. -/
def shareFields (separators : Chars) : List Chars → List Cell → List (Chars × Chars)
  | [], _ => []
  | [name], cells =>
    let field := cells.takeWhile fun c => !endsField separators c
    let rest := cells.drop field.length
    if (afterField separators rest).isEmpty then [(name, textOf field)]
    else [(name, textOf (dropTrailingGaps separators cells))]
  | name :: names, cells =>
    let field := cells.takeWhile fun c => !endsField separators c
    (name, textOf field)
      :: shareFields separators names (afterField separators (cells.drop field.length))

/-! ## The command -/

/-- The options at the start of the arguments: whether lines are taken as they are, and the names
    behind them. -/
def options : Bool → List Chars → Except Chars (Bool × List Chars)
  | raw, [] => .ok (raw, [])
  | raw, word :: rest =>
    match word with
    | ['-', '-'] => .ok (raw, rest)
    | '-' :: 'p' :: [] =>
      match rest with
      | [] => .error "No arg for -p option".toList
      | _ :: rest => options raw rest
    | '-' :: letters@(_ :: _) =>
      match letters.find? fun c => c != 'r' && c != 'p' with
      | some c => .error ("Illegal option -".toList ++ [c])
      | none =>
        if letters.contains 'p' then
          match letters.reverse with
          | 'p' :: _ =>
            match rest with
            | [] => .error "No arg for -p option".toList
            | _ :: rest => options true rest
          | _ => options (raw || letters.head? == some 'r') rest
        else options true rest
    | _ => .ok (raw, word :: rest)

/-- The command `read`. -/
def run (args : List Chars) : Act Unit := do
  match options false args with
  | .error message => Act.fail message
  | .ok (_, []) => Act.fail "arg count".toList
  | .ok (raw, names) => do
    let s ← get
    let (cells, complete, n) := lineOf raw (Chars.ofBytes ((s.readable? 0).getD []))
    set (s.consume 0 n)
    let cells := cells.dropWhile (isGap s.separators)
    for (name, value) in shareFields s.separators names cells do
      if (splitName name).2 ≠ [] ∨ name = [] then Act.fail (name ++ ": bad variable name".toList)
      Act.assign name value
    Act.setStatus (if complete then 0 else 1)

end Handover.Shell.Read
