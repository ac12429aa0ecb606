/-
  The signals of the system.
-/
import Handover.Shell.Printf

namespace Handover.Shell.Signal

/-- The names of the signals, from 1 on; some have none but their number. -/
def names : List String :=
  ["HUP", "INT", "QUIT", "ILL", "TRAP", "ABRT", "BUS", "FPE", "KILL", "USR1", "SEGV", "USR2",
   "PIPE", "ALRM", "TERM", "16", "CHLD", "CONT", "STOP", "TSTP", "TTIN", "TTOU", "URG", "XCPU",
   "XFSZ", "VTALRM", "PROF", "WINCH", "IO", "PWR", "SYS", "32", "33", "RTMIN"]
  ++ (List.range 15).map (fun n => s!"RTMIN+{n + 1}")
  ++ (List.range 14).map (fun n => s!"RTMAX-{14 - n}") ++ ["RTMAX"]

/-- The name of a signal; signal 0 is the end of the shell. -/
def nameOf (signal : Nat) : Chars :=
  if signal = 0 then "EXIT".toList else ((names[signal - 1]?).getD "").toList

/-- What is said of a process that a signal has killed, from 1 on. -/
def texts : List String :=
  ["Hangup", "Interrupt", "Quit", "Illegal instruction", "Trace/breakpoint trap", "Aborted",
   "Bus error", "Floating point exception", "Killed", "User defined signal 1",
   "Segmentation fault", "User defined signal 2", "Broken pipe", "Alarm clock", "Terminated",
   "Stack fault", "Child exited", "Continued", "Stopped (signal)", "Stopped", "Stopped (tty input)",
   "Stopped (tty output)", "Urgent I/O condition", "CPU time limit exceeded",
   "File size limit exceeded", "Virtual timer expired", "Profiling timer expired",
   "Window changed", "I/O possible", "Power failure", "Bad system call"]

/-- The number of the highest signal. -/
def highest : Nat := 64

/-- The signal of a name or a number.  Only digits make a number. -/
def ofText? (text : Chars) : Option Nat :=
  if !text.isEmpty && text.all Char.isDigit then
    (number? text).bind fun n => if n ≤ highest then some n.toNat else none
  else
    let name := String.ofList (text.map Char.toUpper)
    if name = "EXIT" then some 0 else (names.findIdx? (· == name)).map (· + 1)

/-- The signal kills a process that does nothing about it. -/
def isDeadly (signal : Nat) : Bool :=
  signal != 0 && !([17, 18, 19, 20, 21, 22, 23, 28].contains signal)

/-- The signal can be caught or passed over. -/
def isCatchable (signal : Nat) : Bool := signal != 9 && signal != 19

/-- What a shell says of a command that a signal has killed. -/
def notice (signal : Nat) : Chars :=
  if signal = 2 ∨ signal = 13 then []
  else ((texts[signal - 1]?).getD s!"Unknown signal {signal}").toList ++ ['\n']

/-! ## Readings -/

example : ofText? "KILL".toList = some 9 := by decide +kernel
example : ofText? ['1', '5'] = some 15 := by decide +kernel

end Handover.Shell.Signal
