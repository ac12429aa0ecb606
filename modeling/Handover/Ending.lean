/-
  How a process ends, and what is left of it.

  A process exits with a code or is killed by a signal.  The system keeps eight bits of the one and
  seven of the other.  Whoever waited for the process can pass on one number only, so a signal
  counts there as 128 and its number.  Waiting may also come to nothing, although the process was
  run.
-/
import Handover.OsError
import Handover.Text.Utf8

namespace Handover

/-- How a process ended. -/
inductive Ending where
  | exited (code : Int)
  | killed (signal : Nat)
deriving Repr, DecidableEq

namespace Ending

/-- The ending that the system reports for an exit: it keeps the low eight bits of the code. -/
def ofExit (code : Int) : Ending := .exited (code % 256)

/-- The ending that the system reports for a signal: it keeps the low seven bits. -/
def ofSignal (signal : Nat) : Ending := .killed (signal % 128)

/-- The ending as the system reports it. -/
def reported : Ending → Ending
  | .exited code => ofExit code
  | .killed signal => ofSignal signal

/-- The exit code; a process that was killed has none. -/
def code? : Ending → Option Int
  | .exited code => some code
  | .killed _ => none

/-- The signal that killed the process, if one did. -/
def signal? : Ending → Option Nat
  | .exited _ => none
  | .killed signal => some signal

/-- The code that is passed on for an ending. -/
def forwarded : Ending → Int
  | .exited code => code
  | .killed signal => 128 + signal

end Ending

/-- A process that has ended: how, and what it wrote. -/
structure Finished where
  ending : Ending
  output : Bytes
  errors : Bytes
deriving Repr, DecidableEq

/-! ## Children -/

/-- What came of waiting for a child. -/
inductive Waited where
  /-- The child has ended like this. -/
  | ended (ending : Ending)
  /-- The child has ended, but how was not told. -/
  | failed (source : OsError)
  /-- The child has sent a signal, and the signal has killed the process that waited. -/
  | killedBy (signal : Nat)
deriving Repr, DecidableEq

/-- A child that was run: what came of waiting for it, and what it wrote. -/
structure Child where
  waited : Waited
  output : Bytes
  errors : Bytes
deriving Repr, DecidableEq

end Handover
