/-
  The switches of a shell.

  A switch has a name, and most have a letter too.  The letters that are on are the value of `$-`, the
  last switch first.
-/
import Handover.Shell.Syntax

namespace Handover.Shell

/-- A switch. -/
inductive Switch where
  | errexit
  | noglob
  | ignoreeof
  | interactive
  | monitor
  | noexec
  | stdin
  | xtrace
  | verbose
  | vi
  | emacs
  | noclobber
  | allexport
  | notify
  | nounset
  | privileged
  | nolog
  | debug
deriving Repr, DecidableEq

namespace Switch

/-- The switches in their order, each with its name and its letter. -/
def table : List (Switch × String × Option Char) :=
  [(errexit, "errexit", 'e'), (noglob, "noglob", 'f'), (ignoreeof, "ignoreeof", 'I'),
   (interactive, "interactive", 'i'), (monitor, "monitor", 'm'), (noexec, "noexec", 'n'),
   (stdin, "stdin", 's'), (xtrace, "xtrace", 'x'), (verbose, "verbose", 'v'), (vi, "vi", 'V'),
   (emacs, "emacs", 'E'), (noclobber, "noclobber", 'C'), (allexport, "allexport", 'a'),
   (notify, "notify", 'b'), (nounset, "nounset", 'u'), (privileged, "privileged", 'p'),
   (nolog, "nolog", none), (debug, "debug", none)]

/-- The switch of a letter. -/
def ofLetter? (letter : Char) : Option Switch :=
  (table.find? fun e => e.2.2 == some letter).map Prod.fst

/-- The switch of a name. -/
def ofName? (name : Chars) : Option Switch :=
  (table.find? fun e => e.2.1.toList == name).map Prod.fst

/-- The letters of the switches that are on. -/
def letters (on : List Switch) : Chars :=
  table.reverse.filterMap fun e => if on.contains e.1 then e.2.2 else none

/-- The switch that cannot be on together with another one. -/
def rival? : Switch → Option Switch
  | vi => some emacs
  | emacs => some vi
  | _ => none

/-- The switches after one of them was turned on or off. -/
def turn (s : Switch) (value : Bool) (on : List Switch) : List Switch :=
  let others := on.filter fun t => t != s
  if value then s :: others.filter fun t => s.rival? != some t else others

/-- The settings as they are shown to a reader. -/
def shown (on : List Switch) : Chars :=
  "Current option settings\n".toList ++ table.flatMap fun e =>
    let name := e.2.1.toList
    name ++ List.replicate (16 - name.length) ' '
      ++ (if on.contains e.1 then "on\n" else "off\n").toList

/-- The settings as commands that make them. -/
def asCommands (on : List Switch) : Chars :=
  table.flatMap fun e =>
    (if on.contains e.1 then "set -o " else "set +o ").toList ++ e.2.1.toList ++ ['\n']

end Switch

/-! ## Readings -/

example : Switch.letters [.nounset, .errexit] = ['u', 'e'] := by decide

end Handover.Shell
