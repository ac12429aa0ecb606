/-
  The commands that a shell carries out itself and that do not run other commands.

  `Shell/Run` adds those that do.
-/
import Handover.Shell.Builtin.Names
import Handover.Shell.Builtin.Read
import Handover.Shell.Builtin.Test
import Handover.Shell.Printf

namespace Handover.Shell.Builtin

/-! ## Output -/

/-- The command `printf`. -/
def printf (args : List Chars) : Act Unit :=
  withOptions "" args fun _ args => do
    match args with
    | [] => Act.fail "usage: printf format [arg ...]".toList
    | format :: args =>
      let printed := formatted format args
      Act.setStatus (if printed.faults.isEmpty then 0 else 1)
      for (arg, fault) in printed.faults do
        Act.complain (arg ++ ": ".toList ++ fault.text.toList)
      let refuse := fun (message : Chars) => do
        Act.complain message
        Act.print printed.text
        Act.setStatus 2
        throw .failed
      match printed.stop with
      | .fault (.unknown directive) => refuse (directive ++ ": invalid directive".toList)
      | .fault .unfinished => refuse "missing format character".toList
      | _ => Act.print printed.text

/-! ## Processes -/

/-- The code that an argument names, or the last status. -/
def code (args : List Chars) : Act Nat := do
  match args with
  | [] => return (← get).status
  | arg :: _ =>
    match number? arg with
    | some n => if 0 ≤ n then return n.toNat else Act.fail ("Illegal number: ".toList ++ arg)
    | none => Act.fail ("Illegal number: ".toList ++ arg)

/-- A signal comes to the shell itself. -/
def receive (signal : Nat) : Act Unit := do
  let s ← get
  match s.traps.find? fun t => t.1 == signal && Signal.isCatchable signal with
  | some (_, action) =>
    if signal != 0 && !action.isEmpty then set { s with pending := s.pending ++ [signal] }
  | none => if Signal.isDeadly signal then throw (.ended (.ofSignal signal))

/-- A signal is sent to a process: to the one that runs the script, or to one around it. -/
def send (process signal : Nat) : Act Unit := do
  let s ← get
  if s.depth = 0 && process = s.world.process then receive signal
  else set { s with sentOut := s.sentOut ++ [(process, signal)] }

/-- The signals that came from within reach the shell that they are meant for. -/
def deliver (signals : List (Nat × Nat)) : Act Unit := do
  for (process, signal) in signals do send process signal

/-- How `kill` is used. -/
def killUsage : Chars :=
  "Usage: kill [-s sigspec | -signum | -sigspec] [pid | job]... or\nkill -l [exitstatus]".toList

/-- List the names of signals, or tell one of them. -/
def listSignals : List Chars → Act Unit
  | [] => do
    Act.setStatus 0
    Act.print (['0', '\n'] ++ Signal.names.flatMap fun n => n.toList ++ ['\n'])
  | arg :: _ => do
    match number? arg with
    | some n =>
      let n := if 128 < n then n - 128 else n
      if 0 < n ∧ n ≤ Signal.highest then
        Act.setStatus 0
        Act.print (Signal.nameOf n.toNat ++ ['\n'])
      else Act.fail ("invalid signal number or exit status: ".toList ++ arg)
    | none => Act.fail ("Illegal number: ".toList ++ arg)

/-- Send a signal to some processes. -/
def killAll (signal : Nat) (processes : List Chars) : Act Unit := do
  if processes.isEmpty then Act.fail killUsage
  Act.setStatus 0
  for process in processes do
    let digits := if process.head? = some '-' then process.drop 1 else process
    match number? digits with
    | none => Act.fail ("Illegal number: ".toList ++ digits)
    | some n =>
      let s ← get
      if n = 0 then send s.world.process signal
      else if n = s.world.process ∨ n = s.world.parent then send n.toNat signal
      else if s.jobs.any fun j => (j.process : Int) == n then pure ()
      else
        Act.complain "No such process\n".toList
        Act.setStatus 1

/-- The command `kill`. -/
def kill (args : List Chars) : Act Unit := do
  match args with
  | [] => Act.fail killUsage
  | ['-', 'l'] :: rest => listSignals rest
  | ['-', 's'] :: [] => Act.fail "No arg for -s option".toList
  | ['-', 's'] :: name :: rest =>
    match Signal.ofText? name with
    | some n => killAll n rest
    | none => Act.fail ("invalid signal number or name: ".toList ++ name)
  | ['-', '-'] :: rest => killAll 15 rest
  | ('-' :: name) :: rest =>
    match (Signal.ofText? name).filter fun n => name.all Char.isDigit || n != 0 with
    | some n => killAll n rest
    | none =>
      match name with
      | 's' :: name@(_ :: _) =>
        match Signal.ofText? name with
        | some n => killAll n rest
        | none => Act.fail ("invalid signal number or name: ".toList ++ name)
      | c :: _ => Act.fail ("Illegal option -".toList ++ [c])
      | [] => Act.fail ("Illegal number: ".toList)
  | rest => killAll 15 rest

/-- The job that a text behind a percent sign names.  The last one has signs of its own. -/
def jobOf? (s : State) (text : Chars) : Option Job :=
  match text with
  | [] | ['%'] | ['+'] => s.jobs.head?
  | ['-'] => s.jobs[1]?
  | _ => (number? text).bind fun n => s.jobs.find? fun j => (j.number : Int) == n

/-- Ask for the end of a job. -/
def askFor (job : Job) : Act Unit := do
  modify fun s => { s with
    jobs := s.jobs.map fun j => if j.process == job.process then { j with waited := true } else j }
  Act.setStatus job.status

/-- The command `wait`. -/
def wait (args : List Chars) : Act Unit := do
  Act.setStatus 0
  if args.isEmpty then
    modify fun s => { s with jobs := s.jobs.map fun j => { j with waited := true } }
  for arg in args do
    if arg.head? = some '%' then
      match jobOf? (← get) (arg.drop 1) with
      | some job => askFor job
      | none => Act.fail ("No such job: ".toList ++ arg)
    else
      match number? arg with
      | some n =>
        match (← get).jobs.find? fun j => (j.process : Int) == n with
        | some job => askFor job
        | none => Act.setStatus 127
      | none => Act.fail ("Illegal number: ".toList ++ arg)

/-- The command `trap`. -/
def trap (args : List Chars) : Act Unit :=
  withOptions "" args fun _ args => do
    Act.setStatus 0
    match args with
    | [] =>
      let traps := (← get).traps.mergeSort fun a b => decide (a.1 ≤ b.1)
      Act.print <| traps.flatMap fun t =>
        "trap -- ".toList ++ written t.2 ++ ' ' :: Signal.nameOf t.1 ++ ['\n']
    | first :: rest =>
      let (action, signals) : Option Chars × List Chars :=
        if rest.isEmpty ∨ (!first.isEmpty ∧ first.all Char.isDigit ∧ (Signal.ofText? first).isSome)
        then (none, args)
        else (if first = ['-'] then none else some first, rest)
      setTraps action signals
where
  /-- Set what is run when signals come. -/
  setTraps (action : Option Chars) : List Chars → Act Unit
    | [] => pure ()
    | name :: rest => do
      match Signal.ofText? name with
      | none =>
        Act.write 2 ("trap: ".toList ++ name ++ ": bad trap\n".toList)
        Act.setStatus 1
      | some signal =>
        modify fun s =>
          let others := s.traps.filter fun t => t.1 != signal
          let isFixed := s.world.ignored.contains signal
          if isFixed then s
          else { s with traps := (action.toList.map fun a => (signal, a)) ++ others }
        setTraps action rest

/-- The commands `break` and `continue`.  Outside any loop they do nothing. -/
def leaveLoops (again : Bool) (args : List Chars) : Act Unit := do
  let wanted ← match args with
    | [] => pure 1
    | arg :: _ => do
      match number? arg with
      | some n => if 0 < n then pure n.toNat else Act.fail ("Illegal number: ".toList ++ arg)
      | none => Act.fail ("Illegal number: ".toList ++ arg)
  Act.setStatus 0
  let levels := min wanted (← get).loops
  if levels != 0 then throw (.loop again (levels - 1))

/-! ## Limits -/

/-- The command `ulimit`, whose limits do not limit anything. -/
def ulimit (args : List Chars) : Act Unit :=
  withOptions "HSatfdscmlpnvwr" args fun _ args => do
    Act.setStatus 0
    if args.isEmpty then Act.print "unlimited\n".toList

/-- The time that was used, which is none. -/
def times : Act Unit := do
  Act.setStatus 0
  Act.print "0m0.000000s 0m0.000000s\n0m0.000000s 0m0.000000s\n".toList

/-! ## All of them -/

/-- The command of a name, if it is one of these. -/
def find? (name : Chars) : Option (List Chars → Act Unit) :=
  match String.ofList name with
  | ":" | "true" | "jobs" | "bg" | "fg" => some fun _ => Act.setStatus 0
  | "false" => some fun _ => Act.setStatus 1
  | "echo" => some fun args => do
    Act.setStatus 0
    Act.print (echoText args)
  | "printf" => some printf
  | "read" => some Read.run
  | "test" => some Test.run
  | "[" => some fun args => do
    if args.getLast? = some [']'] then Test.run args.dropLast
    else Act.fail "missing ]".toList
  | "exit" => some fun args => do Act.exit (← code args)
  | "return" => some fun args => do
    Act.setStatus (← code args)
    throw .returned
  | "break" => some (leaveLoops false)
  | "continue" => some (leaveLoops true)
  | "cd" | "chdir" => some cd
  | "pwd" => some pwd
  | "export" => some export_
  | "readonly" => some readonly
  | "local" => some local_
  | "unset" => some unset
  | "set" => some set_
  | "shift" => some shift
  | "getopts" => some getopts
  | "alias" => some alias_
  | "unalias" => some unalias
  | "kill" => some kill
  | "wait" => some wait
  | "trap" => some trap
  | "umask" => some umask
  | "ulimit" => some ulimit
  | "times" => some fun _ => times
  | _ => none

/-- The commands of the shell's own that run other commands. -/
def running : List String := ["eval", "exec", ".", "command", "type", "hash"]

/-- The name is that of a command of the shell's own. -/
def isOne (name : Chars) : Bool := (find? name).isSome || running.contains (String.ofList name)

/-- The name is that of a command that is part of the language. -/
def isSpecial (name : Chars) : Bool := specialCommands.contains (String.ofList name)

/-- Words that arguments of the form of an assignment do not split. -/
def takesAssignments (name : Chars) : Bool :=
  ["export", "readonly", "local", "alias"].contains (String.ofList name)

end Handover.Shell.Builtin
