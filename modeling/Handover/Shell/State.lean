/-
  What a shell knows while it runs a script.

  Whatever can be read from or written to has been *opened* once and stays in a list; a stream is a
  number that leads to an entry of that list, so that two streams may share one entry and the place
  within it.  What is written to the streams that the shell was started with is kept in its order.
-/
import Handover.Machine.Start
import Handover.Shell.Option
import Handover.Shell.Pattern
import Handover.Shell.Signal
import Handover.Shell.Token

namespace Handover.Shell

open Machine (World Outlet)

/-! ## Streams -/

/-- Something that was opened. -/
inductive Opened where
  /-- A text that is read, as far as it has not been read yet. -/
  | text (rest : Bytes)
  /-- A stream that the shell was started with. -/
  | outlet (outlet : Outlet)
  /-- What the shell itself catches. -/
  | caught (bytes : Bytes)
  /-- A file, and the place in it. -/
  | file (at_ : Files.Location) (place : Nat) (reads writes behind : Bool)
  /-- A place where nothing is and nothing stays. -/
  | nowhere

/-! ## Names -/

/-- A variable of a script. -/
structure Variable where
  name : Chars
  value : Option Chars
  exported : Bool := false
  readonly : Bool := false

/-- A command that was not waited for: its number among those that still count, its process, and how
    it ended. -/
structure Job where
  number : Nat
  process : Nat
  status : Nat
  /-- It has been asked for. -/
  waited : Bool := false

/-- The least number of a job that does not count any more or has never been. -/
def Job.free (jobs : List Job) : Nat :=
  ((List.range' 1 (jobs.length + 1)).find? fun n =>
    !jobs.any fun j => j.number == n && !j.waited).getD 1

/-- The job after some others. -/
def Job.next (jobs : List Job) (shell status : Nat) : Job :=
  { number := Job.free jobs, process := shell + 100 + jobs.length, status }

/-- Why the next command is not run. -/
inductive Leave where
  /-- The shell ends. -/
  | ended (ending : Ending)
  /-- Another program has taken the place of the shell, and has ended. -/
  | replaced (ending : Ending)
  /-- A loop is left, or started again, `levels` loops further out. -/
  | loop (again : Bool) (levels : Nat)
  /-- A function is left. -/
  | returned
  /-- A command cannot be carried out. -/
  | failed

/-- What a shell knows. -/
structure State where
  world : World
  bindings : List Variable
  functions : List (Chars × Form) := []
  /-- Words that stand for other texts where a command begins. -/
  aliases : List (Chars × Chars) := []
  /-- The name under which the script runs. -/
  name : Chars
  parameters : List Chars
  /-- How the last command ended. -/
  status : Nat := 0
  /-- How the script ended whose output was asked for last. -/
  outputStatus : Nat := 0
  opened : Array Opened
  /-- What the streams lead to. -/
  streams : List (Nat × Nat)
  /-- What was written to the streams that the shell was started with, the last first. -/
  writes : List (Outlet × Bytes) := []
  /-- What is run when a signal comes; signal 0 is the end of the shell. -/
  traps : List (Nat × Chars) := []
  /-- The signals that have come and wait for what is run then. -/
  pending : List Nat := []
  /-- The signals that were sent to the shells around this one, each with its process. -/
  sentOut : List (Nat × Nat) := []
  /-- The line of the command that is run. -/
  line : Nat := 0
  /-- The line up to which the script has been read. -/
  readLine : Nat := 0
  /-- The name of the command of its own that the shell is carrying out. -/
  command : Chars := []
  switches : List Switch := []
  /-- How many tests the command that is run is part of. -/
  tests : Nat := 0
  /-- How many loops the command that is run is part of. -/
  loops : Nat := 0
  /-- The function that is run is the first of so many; none outside of functions. -/
  calls : Nat := 0
  /-- The variables that come back when the function ends. -/
  kept : List (Chars × Option Variable) := []
  /-- The switches that come back when the function ends. -/
  keptSwitches : Option (List Switch) := none
  /-- How many shells this one is within. -/
  depth : Nat := 0
  /-- The commands that were not waited for, the last first. -/
  jobs : List Job := []
  /-- The path of the working directory as the script has come to it. -/
  directory : Chars := []
  /-- The number of the word in which the next option is looked for. -/
  optionIndex : Nat := 1
  /-- The place within a word of options. -/
  optionPlace : Nat := 0

/-- Something that a shell does: it may change what the shell knows, and may keep the next command
    from being run. -/
abbrev Act := ExceptT Leave (StateM State)

namespace State

/-- A switch is on. -/
def has (s : State) (switch : Switch) : Bool := s.switches.contains switch

/-! ## Streams -/

/-- The entry that a stream leads to. -/
def entry? (s : State) (stream : Nat) : Option Nat :=
  (s.streams.find? fun e => e.1 == stream).map Prod.snd

/-- What a stream leads to. -/
def opened? (s : State) (stream : Nat) : Option Opened :=
  (s.entry? stream).bind fun index => s.opened[index]?

/-- The state with a stream led to an entry, or closed. -/
def lead (s : State) (stream : Nat) (index : Option Nat) : State :=
  { s with streams :=
    index.toList.map (fun i => (stream, i)) ++ s.streams.filter fun e => e.1 != stream }

/-- The state with a stream led to something new. -/
def leadTo (s : State) (stream : Nat) (o : Opened) : State :=
  { s with opened := s.opened.push o }.lead stream (some s.opened.size)

/-- The content with a part put at a place, and how far the part goes. -/
def putAt (content part : Bytes) (place : Nat) : Bytes :=
  content.take place ++ List.replicate (place - content.length) 0 ++ part
    ++ content.drop (place + part.length)

/-- Write to an entry; `none` if it cannot be written to. -/
def writeEntry (s : State) (index : Nat) (bytes : Bytes) : Option State :=
  match s.opened[index]? with
  | some (.outlet o) =>
    some (if bytes.isEmpty then s else { s with writes := (o, bytes) :: s.writes })
  | some (.caught old) =>
    some { s with opened := s.opened.setIfInBounds index (.caught (old ++ bytes)) }
  | some .nowhere => some s
  | some (.file at_ place reads true behind) =>
    match s.world.files.node? at_ with
    | some (.file mode content) =>
      let place := if behind then content.length else place
      let files := s.world.files.put at_ (.file mode (putAt content bytes place))
      let entry := Opened.file at_ (place + bytes.length) reads true behind
      some { s with world.files := files, opened := s.opened.setIfInBounds index entry }
    | _ => some s
  | _ => none

/-- Write to a stream; `none` if it cannot be written to. -/
def write? (s : State) (stream : Nat) (bytes : Bytes) : Option State :=
  (s.entry? stream).bind fun index => s.writeEntry index bytes

/-- What can be read from a stream; `none` if it cannot be read from. -/
def readable? (s : State) (stream : Nat) : Option Bytes :=
  match s.opened? stream with
  | some (.text rest) => some rest
  | some (.file at_ place true _ _) =>
    match s.world.files.node? at_ with
    | some (.file _ content) => some (content.drop place)
    | _ => some []
  | some .nowhere => some []
  | _ => none

/-- The state after some bytes of a stream have been read. -/
def consume (s : State) (stream count : Nat) : State :=
  match s.entry? stream with
  | none => s
  | some index =>
    match s.opened[index]? with
    | some (.text rest) =>
      { s with opened := s.opened.setIfInBounds index (.text (rest.drop count)) }
    | some (.file at_ place reads writes behind) =>
      let entry := Opened.file at_ (place + count) reads writes behind
      { s with opened := s.opened.setIfInBounds index entry }
    | _ => s

/-! ## Variables -/

/-- A variable. -/
def lookUp? (s : State) (name : Chars) : Option Variable :=
  s.bindings.find? fun v => v.name == name

/-- The value of a variable. -/
def valueOf? (s : State) (name : Chars) : Option Chars := (s.lookUp? name).bind Variable.value

/-- The state with a variable changed. -/
def change (s : State) (name : Chars) (f : Variable → Variable) : State :=
  match s.lookUp? name with
  | some _ => { s with bindings := s.bindings.map fun v => if v.name == name then f v else v }
  | none => { s with bindings := s.bindings ++ [f { name, value := none }] }

/-- The state with a variable set. -/
def assign (s : State) (name value : Chars) : State :=
  s.change name fun v =>
    { v with value := some value, exported := v.exported || s.has .allexport }

/-- The state without a variable. -/
def forget (s : State) (name : Chars) : State :=
  { s with bindings := s.bindings.filter fun v => v.name != name }

/-- The state with a variable as it was. -/
def putBack (s : State) (name : Chars) (old : Option Variable) : State :=
  match old with
  | some v => s.change name fun _ => v
  | none => s.forget name

/-- The characters between fields. -/
def separators (s : State) : Chars := (s.valueOf? "IFS".toList).getD [' ', '\t', '\n']

/-- The number of the last command that was not waited for. -/
def lastJob? (s : State) : Option Nat := s.jobs.head?.map Job.process

/-- The value of a parameter. -/
def parameter? (s : State) (name : Chars) : Option Chars :=
  match name with
  | ['#'] => some (digitsOf 10 s.parameters.length)
  | ['?'] => some (digitsOf 10 s.status)
  | ['$'] => some (digitsOf 10 s.world.process)
  | ['-'] => some (Switch.letters s.switches)
  | ['!'] => s.lastJob?.map (digitsOf 10)
  | ['@'] | ['*'] =>
    if s.parameters.isEmpty then none else some (s.separators.take 1 |>.intercalate s.parameters)
  | _ =>
    if name.all Char.isDigit then
      let n := (leadingNumber name).1
      if n = 0 then some s.name else s.parameters[n - 1]?
    else s.valueOf? name

/-- The row of a table in which a name stands. -/
def rowOf (name : Chars) : Nat :=
  (name.foldl (fun n c => n + c.toNat) ((name.head?.map Char.toNat).getD 0 * 16)) % 39

/-- Things that have names in the order of the table's rows. -/
def inRows {α : Type} (name : α → Chars) (things : List α) : List α :=
  (List.range 39).flatMap fun row => things.filter fun a => rowOf (name a) == row

/-- The environment that commands are given. -/
def environment (s : State) : List (Bytes × Bytes) :=
  (inRows Variable.name s.bindings).filterMap fun v =>
    match v.exported, v.value with
    | true, some value => some (Chars.toBytes v.name, Chars.toBytes value)
    | _, _ => none

/-- The world that commands run in. -/
def worldOf (s : State) : World :=
  { s.world with
    environment := s.environment
    ignored := s.traps.filterMap fun t => if t.2.isEmpty then some t.1 else none }

/-- The working directory as a script knows it: the variable, if it tells the truth. -/
def startDirectory (w : World) : Chars :=
  let told := (w.valueOf? (Text.encode "PWD")).getD []
  let isTrue := Path.isAbsolute told && (match w.files.status w.cwd told with
    | .ok (at_, .directory) => at_ == w.cwd
    | _ => false)
  Chars.ofBytes (if isTrue then told else w.cwdPath)

/-- The directories of programs where no variable lists them. -/
def defaultSearch : String := "/usr/local/sbin:/usr/local/bin:/usr/sbin:/usr/bin:/sbin:/bin"

/-- The state at the start of a script. -/
def start (w : World) (name : Chars) (parameters : List Chars) (switches : List Switch)
    (input : Bytes) : State :=
  let given := w.environment.filterMap fun e =>
    let name := Chars.ofBytes e.1
    if (splitName name).2.isEmpty && !name.isEmpty
    then some { name, value := some (Chars.ofBytes e.2), exported := true : Variable } else none
  let own : List (String × String) :=
    [("IFS", " \t\n"), ("PATH", defaultSearch), ("PS1", "# "), ("PS2", "> "), ("PS4", "+ "),
     ("OPTIND", "1")]
  let fixed := ["IFS", "OPTIND"]
  let first := own.map fun (name, value) =>
    match given.find? fun v => v.name == name.toList with
    | some v => if fixed.contains name then { v with value := some value.toList } else v
    | none => { name := name.toList, value := some value.toList : Variable }
  let s : State :=
    { world := w, name, parameters, switches
      bindings := first ++ given.filter fun v => !first.any fun u => u.name == v.name
      opened := #[.text input, .outlet .output, .outlet .errors]
      streams := [(0, 0), (1, 1), (2, 2)]
      traps := w.ignored.map fun n => (n, [])
      directory := startDirectory w }
  let s := s.change "PPID".toList fun v =>
    { v with value := some (digitsOf 10 w.parent) }
  s.change "PWD".toList fun v => { v with value := some s.directory, exported := true }

end State

/-! ## Acts -/

namespace Act

/-- Write to a stream, if it can be written to. -/
def write (stream : Nat) (text : Chars) : Act Unit :=
  modify fun s => (s.write? stream (Chars.toBytes text)).getD s

/-- Note how a command ended. -/
def setStatus (status : Nat) : Act Unit := modify fun s => { s with status }

/-- Say what is wrong. -/
def complain (message : Chars) : Act Unit := do
  let s ← get
  let command := if s.command.isEmpty then [] else s.command ++ ": ".toList
  write 2 (s.name ++ ": ".toList ++ digitsOf 10 s.line ++ ": ".toList ++ command ++ message
    ++ ['\n'])

/-- Say what is wrong, and give the command up. -/
def fail {α : Type} (message : Chars) : Act α := do
  complain message
  setStatus 2
  throw .failed

/-- End the shell with a code. -/
def exit {α : Type} (code : Nat) : Act α := throw (.ended (.ofExit code))

/-- Set a variable that may be changed. -/
def assign (name value : Chars) : Act Unit := do
  let s ← get
  if (s.lookUp? name).any Variable.readonly then fail (name ++ ": is read only".toList)
  else set (s.assign name value)

/-- Write what a command of the shell's own has to say. -/
def print (text : Chars) : Act Unit := do
  let s ← get
  match s.write? 1 (Chars.toBytes text) with
  | some s => set s
  | none =>
    if text.isEmpty then pure ()
    else
      complain (s.command ++ ": I/O error".toList)
      setStatus 1

end Act

end Handover.Shell
