/-
  The report of a failure.

  A failure is told as a chain of messages: what the launcher was about to do, the failure itself,
  and the error behind it.  The first message stands alone.  If others follow, they come after a
  line `Caused by:`, each on lines of its own: a single cause is indented, several are numbered.
  Further lines of a cause are indented as far as its first.
-/
import Handover.Launch.Error

namespace Handover.Report

/-- A message with every line after the first moved in. -/
def indentRest (width : Nat) (text : List Char) : List Char :=
  text.flatMap fun c => if c = '\n' then '\n' :: List.replicate width ' ' else [c]

/-- A cause that is the only one. -/
def single (text : List Char) : List Char := List.replicate 4 ' ' ++ indentRest 4 text

/-- A number at the right of five columns. -/
def numberColumn (n : Nat) : List Char :=
  let digits := Nat.toDigits 10 n
  List.replicate (5 - digits.length) ' ' ++ digits

/-- One of several causes. -/
def numbered (n : Nat) (text : List Char) : List Char :=
  numberColumn n ++ [':', ' '] ++ indentRest 7 text

/-- Several causes, numbered from `n` on, each after a line end. -/
def numberedFrom : Nat → List (List Char) → List Char
  | _, [] => []
  | n, text :: rest => '\n' :: numbered n text ++ numberedFrom (n + 1) rest

/-- The line that comes before the causes. -/
def heading : List Char := "\n\nCaused by:".toList

/-- The layout of a message and its causes. -/
def layout (message : List Char) : List (List Char) → List Char
  | [] => message
  | [cause] => message ++ heading ++ '\n' :: single cause
  | causes => message ++ heading ++ numberedFrom 0 causes

/-- The text of a chain of messages. -/
def render : List String → String
  | [] => ""
  | message :: causes => String.ofList (layout message.toList (causes.map String.toList))

/-- The chain of a failure under contexts, the context added last coming first. -/
def chain (contexts : List String) (f : Failure) : List String := contexts.reverse ++ f.causes

/-- The report of a failure under contexts. -/
def ofFailure (contexts : List String) (f : Failure) : String := render (chain contexts f)

/-- What the launcher writes for a report. -/
def printed (report : String) : String := report ++ "\n"

/-- The exit code of a launcher that reports a failure. -/
def exitCode : Int := 1

/-! ## Readings -/

example : layout ['a'] [['b']] = "a\n\nCaused by:\n    b".toList := by decide
example : layout ['a'] [['b'], ['c', '\n', 'd']]
    = "a\n\nCaused by:\n    0: b\n    1: c\n       d".toList := by decide

end Handover.Report
