/-
  Running a script.

  A script runs other programs; how they are started is a parameter, `start`, so that the shell is
  one program among those of a machine.  Every step takes fuel, and a script that uses it all up
  ends there.

  A command that cannot be carried out ends the script, unless it is one of those that are not part
  of the language itself.  Commands that the script does not wait for are run at once, and how they
  end is kept for whoever asks.
-/
import Handover.Shell.Builtin
import Handover.Shell.Calculation
import Handover.Shell.Expansion
import Handover.Shell.Parser

namespace Handover.Shell

open Machine (World Ran)

/-- How other programs are started. -/
abbrev Starter := World → Command → Bytes → Except OsError Ran

/-! ## Ways out -/

/-- Do something, and tell whether it was left. -/
def attempt {α : Type} (act : Act α) : Act (Except Leave α) :=
  tryCatch (do return .ok (← act)) fun leave => return .error leave

/-- Go on, or out, as something was left. -/
def resumeWith {α : Type} : Except Leave α → Act α
  | .ok a => return a
  | .error leave => throw leave

/-- Do something, and something else behind it in any case. -/
def alwaysThen {α : Type} (act : Act α) (after : Act Unit) : Act α := do
  let outcome ← attempt act
  after
  resumeWith outcome

/-! ## Shells within a shell -/

/-- The code that a shell within the shell ends with, and what is said of it. -/
def subshellStatus (result : Except Leave Unit) (t : State) : Nat × Chars :=
  match result with
  | .error (.ended (.exited code)) | .error (.replaced (.exited code)) => (code.toNat, [])
  | .error (.ended (.killed signal)) | .error (.replaced (.killed signal)) =>
    (128 + signal, Signal.notice signal)
  | _ => (t.status, [])

/-- Do something in a shell of its own: files and whatever was opened are shared, all else is put
    back.  The answer is how that shell ended.  `atEnd` runs what is to be run at its end. -/
def inSubshell (atEnd : Except Leave Unit → Act Unit) (act : Act Unit) : Act Nat := do
  let s ← get
  let inner : Act Unit := do atEnd (← attempt act)
  let (result, t) := inner.run.run { s with
    traps := s.traps.filter fun t => t.2.isEmpty
    depth := s.depth + 1, sentOut := [], pending := [] }
  set { s with world.files := t.world.files, opened := t.opened, writes := t.writes }
  let (status, notice) := subshellStatus result t
  Act.write 2 notice
  Builtin.deliver t.sentOut
  return status

/-- Do something in a shell of its own and catch what it writes. -/
def captured (atEnd : Except Leave Unit → Act Unit) (act : Act Unit) : Act (Nat × Bytes) := do
  let s ← get
  let index := s.opened.size
  set (s.leadTo 1 (.caught []))
  let status ← inSubshell atEnd act
  modify fun t => { t with streams := s.streams }
  match (← get).opened[index]? with
  | some (.caught bytes) => return (status, bytes)
  | _ => return (status, [])

/-- Do something as part of a test. -/
def testing (act : Act Unit) : Act Unit := do
  let before := (← get).tests
  modify fun s => { s with tests := before + 1 }
  act
  modify fun s => { s with tests := before }

/-- Do something apart from any test. -/
def untested (act : Act Unit) : Act Unit := do
  let before := (← get).tests
  modify fun s => { s with tests := 0 }
  act
  modify fun s => { s with tests := before }

/-- End a strict shell if the last command failed outside any test. -/
def checkStrict : Act Unit := do
  let s ← get
  if s.has .errexit && s.tests == 0 && s.status != 0 then Act.exit s.status

/-! ## Loops -/

/-- Do something within a loop; `none` if the loop is left there, `again` if it starts again. -/
def onceInLoop {α : Type} (again : α) (act : Act α) : Act (Option α) := do
  let before := (← get).loops
  modify fun s => { s with loops := before + 1 }
  let outcome ← attempt act
  modify fun s => { s with loops := before }
  match outcome with
  | .ok a => return some a
  | .error (.loop true 0) => return some again
  | .error (.loop false 0) => return none
  | .error (.loop isAgain (n + 1)) => throw (.loop isAgain n)
  | .error leave => throw leave

/-- Do something for each of some values until the loop is left. -/
def forEach (act : Chars → Act Unit) : List Chars → Act Unit
  | [] => pure ()
  | value :: rest => do
    if (← onceInLoop () (act value)).isSome then forEach act rest

/-- Go through a loop as long as its condition holds.  It ends as its body did the last time. -/
def repeatWhile (condition : Act Bool) (body : Act Unit) : Nat → Nat → Act Unit
  | 0, _ => Act.exit 2
  | fuel + 1, status => do
    match ← onceInLoop none (do return some (← condition)) with
    | some (some true) => do
      if (← onceInLoop () body).isSome then repeatWhile condition body fuel (← get).status
    | some none => repeatWhile condition body fuel status
    | _ => Act.setStatus status

/-- The first arm of a choice that has a pattern which is accepted. -/
def firstArm (accepts : Word → Act Bool) : List (List Word × Form) → Act (Option Form)
  | [] => return none
  | (patterns, body) :: rest => do
    if ← anyPattern patterns then return some body else firstArm accepts rest
where
  /-- One of the patterns is accepted. -/
  anyPattern : List Word → Act Bool
    | [] => return false
    | pattern :: more => do
      if ← accepts pattern then return true else anyPattern more

/-! ## Streams -/

/-- Why a file cannot be opened, in words. -/
def openFault : OsError → String
  | .code 2 | .code 20 => "No such file"
  | .code n => OsError.text n
  | e => e.message

/-- Why a file cannot be made, in words. -/
def creationFault : OsError → String
  | .code 2 | .code 20 => "Directory nonexistent"
  | .code n => OsError.text n
  | e => e.message

/-- Read from a file. -/
def openInput (stream : Nat) (path : Chars) : Act Unit := do
  let s ← get
  match s.world.files.status s.world.cwd (Chars.toBytes path) with
  | .ok (at_, .file ..) => set (s.leadTo stream (.file at_ 0 true false false))
  | .ok _ => set (s.leadTo stream .nowhere)
  | .error e =>
    Act.fail ("cannot open ".toList ++ path ++ ": ".toList ++ (openFault e).toList)

/-- Write to a file from now on. -/
def openOutput (stream : Nat) (writing : Writing) (path : Chars) : Act Unit := do
  let s ← get
  let bytes := Chars.toBytes path
  let known := if path = "/dev/stdout".toList then s.entry? 1
    else if path = "/dev/stderr".toList then s.entry? 2 else none
  match known with
  | some index => set (s.lead stream (some index))
  | none =>
    let refuse := fun (e : OsError) =>
      Act.fail ("cannot create ".toList ++ path ++ ": ".toList ++ (creationFault e).toList)
    let files := s.world.files
    let old := files.status s.world.cwd bytes
    let isFile := match old with
      | .ok (_, .file ..) => true
      | _ => false
    if writing = .anew && s.has .noclobber && isFile then refuse .alreadyExists
    else
      let keeps := writing = .behind ∨ writing = .andReading
      let mode := 0o666 - (0o666 &&& s.world.umask)
      match files.writeFile s.world.cwd bytes mode keeps [] with
      | .error e => refuse e
      | .ok files =>
        let s := { s with world.files := files }
        set <| s.leadTo stream <| match files.status s.world.cwd bytes with
          | .ok (at_, .file ..) =>
            .file at_ 0 (decide (writing = .andReading)) true (decide (writing = .behind))
          | _ => .nowhere

/-- A stream, or the sign for none. -/
def isStream : Chars → Bool
  | ['-'] => true
  | [c] => c.isDigit
  | _ => false

/-- Lead a stream to where another one leads, or close it. -/
def leadSame (stream : Nat) (other : Chars) : Act Unit := do
  let s ← get
  match other with
  | [c] =>
    if c = '-' then set (s.lead stream none)
    else
      let n := c.toNat - '0'.toNat
      match s.entry? n with
      | some index => set (s.lead stream (some index))
      | none =>
        if n = stream then pure () else Act.fail (c :: ": Bad file descriptor".toList)
  | _ => pure ()

/-! ## Other programs -/

/-- What a shell says of a program that cannot be started, and the status it gives. -/
def startFault : OsError → String × Nat
  | .code 2 | .code 20 => ("not found", 127)
  | .code 36 => (OsError.text 36, 127)
  | .code 40 => (OsError.text 40, 127)
  | .code n => (OsError.text n, 126)
  | e => (e.message, 126)

/-- Where a program is.  A path is taken as it is if anything is there. -/
def programPath? (s : State) (name : Chars) : Option Chars :=
  let w := s.world.setVariable Machine.pathVariable
    (Chars.toBytes ((s.valueOf? "PATH".toList).getD []))
  ((Machine.searchPaths w (Chars.toBytes name)).find? fun path =>
    match w.files.status w.cwd path with
    | .ok (_, .program _) | .ok (_, .file ..) => true
    | .ok _ => name.contains '/'
    | .error _ => false).map Chars.ofBytes

/-- A name stands in the directories of programs, but nowhere for a file. -/
def nameIsBlocked (w : World) (name : Bytes) : Bool :=
  !name.contains Path.slash &&
    let found := (Machine.searchPaths w (name ++ if name = [] then [Path.dot] else [])).map fun path =>
      match w.files.status w.cwd path with
      | .ok (_, .file ..) | .ok (_, .program _) => some true
      | .ok _ => some false
      | .error _ => none
    found.contains (some false) && !found.contains (some true)

/-- Run a program.  `replacing` says that the shell does not come back from it. -/
def external (start : Starter) (replacing : Bool) (name : Chars) (args : List Chars) :
    Act Unit := do
  let s ← get
  let w := if replacing && s.depth = 0 then s.worldOf else s.worldOf.ofChild
  let w := match s.valueOf? "PATH".toList with
    | some _ => w
    | none => w.setVariable Machine.pathVariable []
  let input := (s.readable? 0).getD []
  if nameIsBlocked w (Chars.toBytes name) then
    Act.complain (name ++ ": Permission denied".toList)
    if replacing then Act.exit 127 else Act.setStatus 127
    return ()
  match start w ⟨Chars.toBytes name, args.map Chars.toBytes⟩ input with
  | .error e =>
    let (text, status) := startFault e
    Act.complain (name ++ ": ".toList ++ text.toList)
    if replacing then Act.exit status else Act.setStatus status
  | .ok ran =>
    modify fun s =>
      { s with world.files := ran.world.files }.consume 0 (input.length - ran.input.length)
    for (outlet, bytes) in ran.writes do
      let stream := if outlet = .output then 1 else 2
      modify fun s => (s.write? stream bytes).getD s
    Builtin.deliver ran.signals
    if replacing then throw (.replaced ran.ending)
    else
      match ran.ending with
      | .exited code => Act.setStatus code.toNat
      | .killed signal =>
        Act.write 2 (Signal.notice signal)
        Act.setStatus (128 + signal)

/-! ## Names of commands -/

/-- What a name stands for, in words. -/
def described (s : State) (name : Chars) : Option Chars :=
  let keywords := ["if", "then", "else", "elif", "fi", "do", "done", "case", "esac", "while",
    "until", "for", "in", "\x7b", "\x7d", "!"]
  let say := fun (text : String) => some (name ++ text.toList)
  if keywords.contains (String.ofList name) then say " is a shell keyword"
  else
    match s.aliases.find? fun a => a.1 == name with
    | some (_, text) => some (name ++ " is an alias for ".toList ++ text)
    | none =>
      if Builtin.isSpecial name then say " is a special shell builtin"
      else if s.functions.any fun f => f.1 == name then say " is a shell function"
      else if Builtin.isOne name then say " is a shell builtin"
      else (programPath? s name).map fun path => name ++ " is ".toList ++ path

/-- Say what names stand for. -/
def describeAll : List Chars → Act Unit
  | [] => pure ()
  | name :: rest => do
    match described (← get) name with
    | some text => Act.print (text ++ ['\n'])
    | none => do
      Act.print (name ++ ": not found\n".toList)
      Act.setStatus 127
    describeAll rest

/-- Say shortly what a name stands for. -/
def tell (name : Chars) : Act Unit := do
  let s ← get
  match s.aliases.find? fun a => a.1 == name with
  | some (_, text) => Act.print ("alias ".toList ++ name ++ '=' :: Builtin.written text ++ ['\n'])
  | none =>
    match described s name with
    | none => Act.setStatus 127
    | some _ =>
      let isOwn := Builtin.isOne name || (s.functions.any fun f => f.1 == name)
      match isOwn, programPath? s name with
      | false, some path => Act.print (path ++ ['\n'])
      | _, _ => Act.print (name ++ ['\n'])

/-- Do something under the name of a command, which messages tell. -/
def asCommand (name : Chars) (act : Act Unit) : Act Unit := do
  let before := (← get).command
  modify fun s => { s with command := name }
  alwaysThen act (modify fun s => { s with command := before })

/-- Do something that gives nothing up but itself. -/
def forgiving (act : Act Unit) : Act Unit :=
  tryCatch act fun
    | .failed => pure ()
    | leave => throw leave

/-- Do something that can be returned from. -/
def returning (act : Act Unit) : Act Unit :=
  tryCatch act fun
    | .returned => pure ()
    | leave => throw leave

/-- Put back the variables that a function has kept. -/
def putBackKept (outer : List (Chars × Option Variable)) : Act Unit :=
  modify fun s =>
    let s := s.kept.foldl (fun s e => s.putBack e.1 e.2) s
    { s with kept := outer }

/-- A value of a parameter, if one is needed. -/
def demandSet (s : State) (name : Chars) (value : Option Chars) : Act Unit :=
  if s.has .nounset && value.isNone && name ≠ ['@'] && name ≠ ['*'] then
    Act.fail (name ++ ": parameter not set".toList)
  else pure ()

/-- The lines of a text. -/
def linesOf : Chars → List Chars
  | [] => [[]]
  | c :: rest =>
    match linesOf rest with
    | [] => [[c]]
    | line :: more => if c = '\n' then [] :: line :: more else (c :: line) :: more

/-! ## The evaluator -/

mutual

/-- Replace what is to be replaced in a word.  `splits` says that the word may become several. -/
def expand (start : Starter) : Nat → Bool → Word → Act (List Cell)
  | 0, _, _ => Act.exit 2
  | _ + 1, _, [] => return []
  | fuel + 1, splits, piece :: rest => do
    let cells ← match piece with
      | .text quoted chars =>
        pure (if chars.isEmpty then [Cell.void] else chars.map fun c => .char c quoted)
      | .output quoted _ line script => do
        let output ← captured (atEnd start fuel) (untested (runText start fuel false line script))
        modify fun s => { s with outputStatus := output.1 }
        pure (cellsOf quoted (dropLineEnds (Chars.ofBytes (output.2.filter (· != 0)))))
      | .calculation quoted formula => do
        let text := textOf (← expand start fuel false (textWord formula))
        let s ← get
        match Calculation.value (fun name => (s.valueOf? name).getD []) text with
        | .ok (n, changes) => do
          for (name, value) in changes do Act.assign name (toString value).toList
          pure (cellsOf quoted (toString n).toList)
        | .error (.value text) => Act.fail ("Illegal number: ".toList ++ text)
        | .error (.formula reason) =>
          Act.fail ("arithmetic expression: ".toList ++ reason.toList ++ ": \"".toList ++ text
            ++ ['"'])
      | .bad => Act.fail "Bad substitution".toList
      | .parameter quoted name use word => parameter start fuel splits quoted name use word
    return cells ++ (← expand start fuel splits rest)

/-- Replace a parameter. -/
def parameter (start : Starter) :
    Nat → Bool → Bool → Chars → Use → Word → Act (List Cell)
  | 0, _, _, _, _, _ => Act.exit 2
  | fuel + 1, splits, quoted, name, use, word => do
    let s ← get
    let value := s.parameter? name
    let here := if splits ∧ (name = ['@'] ∨ name = ['*'] ∧ !quoted)
      then cellsOfAll quoted s.parameters else cellsOf quoted (value.getD [])
    let missing := fun (orEmpty : Bool) => value.isNone || (orEmpty && value == some [])
    match use with
    | .plain => do
      demandSet s name value
      return here
    | .length => do
      demandSet s name value
      return cellsOf quoted (digitsOf 10 (value.getD []).length)
    | .default orEmpty =>
      if missing orEmpty then return (← expand start fuel splits word).map Cell.loosened
      else return here
    | .alternative orEmpty =>
      if missing orEmpty then return []
      else return (← expand start fuel splits word).map Cell.loosened
    | .assign orEmpty =>
      if missing orEmpty then
        let text := textOf (← expand start fuel false word)
        if !Builtin.isName name then Builtin.refuseName name
        Act.assign name text
        return cellsOf quoted text
      else return here
    | .demand orEmpty =>
      if missing orEmpty then
        let text := textOf (← expand start fuel false word)
        Act.fail (name ++ ": ".toList ++
          if word.isEmpty then
            ("parameter not set" ++ if orEmpty then " or null" else "").toList
          else text)
      else return here
    | .dropStart longest => do
      demandSet s name value
      return cellsOf quoted
        (dropStart longest (← expand start fuel false word) (value.getD []))
    | .dropEnd longest => do
      demandSet s name value
      return cellsOf quoted (dropEnd longest (← expand start fuel false word) (value.getD []))

/-- Replace what is to be replaced in the words of redirections.  Texts of the script stay as they
    are. -/
def prepare (start : Starter) : Nat → List Redirection → Act (List Redirection)
  | 0, _ => Act.exit 2
  | _ + 1, [] => return []
  | fuel + 1, r :: rest => do
    let pathOf := fun (word : Word) => do
      return literal (textOf (← expand start fuel false (atHome (← get) word)))
    let here ← match r with
      | .fromFile stream path => do pure (Redirection.fromFile stream (← pathOf path))
      | .toFile stream writing path => do
        pure (Redirection.toFile stream writing (← pathOf path))
      | .same stream other => do
        let text := textOf (← expand start fuel false other)
        if !isStream text then
          modify fun s => { s with line := s.readLine }
          Act.fail "Syntax error: Bad fd number".toList
        pure (Redirection.same stream (literal text))
      | .hereText .. => pure r
    return here :: (← prepare start fuel rest)

/-- Lead streams elsewhere. -/
def redirect (start : Starter) : Nat → List Redirection → Act Unit
  | 0, _ => Act.exit 2
  | _ + 1, [] => return ()
  | fuel + 1, r :: rest => do
    match r with
    | .fromFile stream path => openInput stream (plainText path)
    | .toFile stream writing path => openOutput stream writing (plainText path)
    | .same stream other => leadSame stream (plainText other)
    | .hereText stream body => do
      let text := textOf (← expand start fuel false body)
      modify fun s => s.leadTo stream (.text (Chars.toBytes text))
    redirect start fuel rest

/-- The values of assignments, set one after the other.  `keeping` says that the variables come back
    later. -/
def assignAll (start : Starter) (keeping exported : Bool) :
    Nat → List (Chars × Word) → Act (List (Chars × Chars))
  | 0, _ => Act.exit 2
  | _ + 1, [] => return []
  | fuel + 1, (name, word) :: rest => do
    let text := textOf (← expand start fuel false (valueAtHome (← get) word))
    if keeping then Builtin.keep name
    Act.assign name text
    Builtin.noticeChange name
    modify fun s => s.change name fun v => { v with exported := exported || v.exported }
    return (name, text) :: (← assignAll start keeping exported fuel rest)

/-- The fields of some words.  `assigning` says that words of the form of an assignment stay
    whole. -/
def expandAll (start : Starter) : Nat → Bool → List Word → Act (List Chars)
  | 0, _, _ => Act.exit 2
  | _ + 1, _, [] => return []
  | fuel + 1, assigning, word :: rest => do
    let s ← get
    let whole := if assigning then splitArgument word else none
    let here ← match whole with
      | some (name, value) => do
        let cells ← expand start fuel false (valueAtHome s value)
        pure [name ++ textOf cells]
      | none => do
        let cells ← expand start fuel true (atHome s word)
        let s ← get
        let found := fields s.separators cells
        pure (if s.has .noglob then found.map Marked.text else found.flatMap (filesOf s.world))
    return here ++ (← expandAll start fuel assigning rest)

/-- The fields of the words of a command.  What stands behind a command of the shell's own that takes
    assignments is not split where it is one. -/
def commandFields (start : Starter) : Nat → List Word → Act (List Chars)
  | 0, _ => Act.exit 2
  | _ + 1, [] => return []
  | fuel + 1, word :: rest => do
    let first ← expandAll start fuel false [word]
    match first with
    | [] => commandFields start fuel rest
    | [name] =>
      if name = "command".toList then return name :: (← commandFields start fuel rest)
      else return name :: (← expandAll start fuel (Builtin.takesAssignments name) rest)
    | names => return names ++ (← expandAll start fuel false rest)

/-- Run the traps of signals that have come. -/
def runPending (start : Starter) : Nat → Act Unit
  | 0 => Act.exit 2
  | fuel + 1 => do
    let s ← get
    match s.pending with
    | [] => return ()
    | signal :: rest => do
      set { s with pending := rest }
      match s.traps.find? fun t => t.1 == signal with
      | some (_, action) => do
        untested (runText start fuel false 1 action)
        Act.setStatus s.status
      | none => pure ()
      runPending start fuel

/-- What is run at the end of a shell.  The shell ends as it would have without it, unless that ends
    it in its own way. -/
def atEnd (start : Starter) : Nat → Except Leave Unit → Act Unit
  | 0, _ => Act.exit 2
  | fuel + 1, result => do
    let s ← get
    let status := match result with
      | .error (.ended (.exited code)) => code.toNat
      | _ => s.status
    match result, s.traps.find? fun t => t.1 == 0 with
    | .error (.ended (.killed n)), _ => throw (.ended (.killed n))
    | .error (.replaced ending), _ => throw (.ended ending)
    | _, some (_, action@(_ :: _)) => do
      set { s with traps := s.traps.filter fun t => t.1 != 0, status, tests := 0, loops := 0 }
      tryCatch (runText start fuel false 1 action) fun
        | .ended e => throw (.ended e)
        | _ => pure ()
      Act.exit status
    | _, _ => Act.exit status

/-- Run a function. -/
def callFunction (start : Starter) : Nat → Form → List Chars → Act Unit
  | 0, _, _ => Act.exit 2
  | fuel + 1, body, args => do
    let s ← get
    set { s with
      parameters := args, calls := s.calls + 1, kept := [], keptSwitches := none
      loops := 0, optionIndex := 1, optionPlace := 0 }
    let back : Act Unit := do
      putBackKept s.kept
      modify fun t => { t with
        switches := t.keptSwitches.getD t.switches, keptSwitches := s.keptSwitches
        parameters := s.parameters, calls := s.calls, loops := s.loops
        tests := s.tests, optionIndex := s.optionIndex, optionPlace := s.optionPlace }
    returning (alwaysThen (run start fuel body) back)

/-- Run a command of the shell's own. -/
def callOwn (start : Starter) : Nat → Chars → List Chars → Act Unit
  | 0, _, _ => Act.exit 2
  | fuel + 1, name, args => asCommand name do
    match String.ofList name with
    | "eval" => do
      Act.setStatus 0
      runText start fuel false 1 ([' '].intercalate args)
    | "." => do
      match args with
      | [] => Act.setStatus 0
      | path :: _ => do
        let s ← get
        let found := if path.contains '/' then some path
          else
            let w := s.worldOf
            ((Machine.searchPaths w (Chars.toBytes path)).find? w.isRegularFile).map Chars.ofBytes
        match found with
        | none => Act.fail (path ++ ": not found".toList)
        | some path =>
          match s.world.files.status s.world.cwd (Chars.toBytes path) with
          | .ok (_, .file _ content) => do
            Act.setStatus 0
            returning (asCommand path (untested (runText start fuel true 1 (Chars.ofBytes content))))
          | .ok _ => Act.setStatus 0
          | .error e =>
            Act.fail ("cannot open ".toList ++ path ++ ": ".toList ++ (openFault e).toList)
    | "exec" => do
      match args with
      | [] => Act.setStatus 0
      | name :: args => external start true name args
    | "type" => do
      Act.setStatus 0
      describeAll args
    | "hash" => do
      Act.setStatus 0
      for name in args.filter fun a => a.head? != some '-' do
        if (programPath? (← get) name).isNone then
          Act.complain (name ++ ": not found".toList)
          Act.setStatus 1
    | _ =>
      match Builtin.find? name with
      | some act => act args
      | none => pure ()

/-- Run what a name stands for.  `functions` says that it may be a function. -/
def invoke (start : Starter) : Nat → Bool → Chars → List Chars → Act Unit
  | 0, _, _, _ => Act.exit 2
  | fuel + 1, functions, name, args => do
    let s ← get
    match s.functions.find? fun f => functions && f.1 == name && !Builtin.isSpecial name with
    | some (_, body) => callFunction start fuel body args
    | none =>
      if name = "command".toList then inquire start fuel args
      else if !Builtin.isOne name then external start false name args
      else if Builtin.isSpecial name && functions then callOwn start fuel name args
      else forgiving (callOwn start fuel name args)

/-- Run the command `command`. -/
def inquire (start : Starter) : Nat → List Chars → Act Unit
  | 0, _ => Act.exit 2
  | fuel + 1, args => do
    match args with
    | ['-', 'v'] :: rest => do
      Act.setStatus 0
      match rest with
      | name :: _ => asCommand "command".toList (tell name)
      | [] => pure ()
    | ['-', 'V'] :: rest => do
      Act.setStatus 0
      asCommand "command".toList (describeAll (rest.take 1))
    | ['-', 'p'] :: rest | ['-', '-'] :: rest => inquire start fuel rest
    | ('-' :: letter :: _) :: _ =>
      asCommand "command".toList (forgiving (Act.fail ("Illegal option -".toList ++ [letter])))
    | name :: args => invoke start fuel false name args
    | [] => Act.setStatus 0

/-- Write the words of a command before it is run, if that is asked for.  `streams` are those of the
    time before its redirections. -/
def traceCommand (start : Starter) : Nat → List (Nat × Nat) → List (Chars × Chars) →
    List Chars → Act Unit
  | 0, _, _, _ => Act.exit 2
  | fuel + 1, streams, assigned, words => do
    let s ← get
    if !s.has .xtrace then return ()
    set { s with switches := Switch.turn .xtrace false s.switches }
    let sign := textOf (← expand start fuel false
      (textWord ((s.valueOf? "PS4".toList).getD [])))
    let now := (← get).streams
    let texts := assigned.map (fun a => a.1 ++ '=' :: a.2) ++ words
    modify fun t => { t with streams }
    Act.write 2 (sign ++ [' '].intercalate texts ++ ['\n'])
    modify fun t => { t with streams := now, switches := s.switches }

/-- Set the variables that stand before a command, and run it.  Before a command that is part of the
    language they stay set; otherwise they come back when it is over. -/
def runAssigned (start : Starter) : Nat → List (Nat × Nat) → List (Chars × Word) → List Chars →
    Act Unit
  | 0, _, _, _ => Act.exit 2
  | fuel + 1, streams, assignments, fields => do
    let s ← get
    let name := fields.headD []
    let isFunction := s.functions.any fun f => f.1 == name
    if fields = [] then
      let assigned ← assignAll start false false fuel assignments
      traceCommand start fuel streams assigned []
      Act.setStatus (← get).outputStatus
    else if Builtin.isSpecial name && !isFunction then
      let exported := name = "exec".toList && 1 < fields.length
      let assigned ← assignAll start false exported fuel assignments
      traceCommand start fuel streams assigned fields
      invoke start fuel true name (fields.drop 1)
    else
      let outer := s.kept
      set { s with kept := [] }
      let inner : Act Unit := do
        let assigned ← assignAll start true true fuel assignments
        traceCommand start fuel streams assigned fields
        let here := (← get).kept
        modify fun t => { t with kept := outer }
        alwaysThen (invoke start fuel true name (fields.drop 1))
          (modify fun t => { t with kept := here })
      alwaysThen inner (putBackKept outer)

/-- Run a simple command. -/
def runSimple (start : Starter) : Nat → List (Chars × Word) → List Word → List Redirection →
    Act Unit
  | 0, _, _, _ => Act.exit 2
  | fuel + 1, assignments, words, redirections => do
    modify fun s => { s with outputStatus := 0 }
    let fields ← commandFields start fuel words
    let s ← get
    let name := fields.headD []
    let isSpecial := Builtin.isSpecial name && !s.functions.any fun f => f.1 == name
    let redirections ← prepare start fuel redirections
    match ← attempt (redirect start fuel redirections) with
    | .error leave => do
      modify fun t => { t with streams := s.streams }
      match leave, isSpecial with
      | .failed, false => pure ()
      | leave, _ => throw leave
    | .ok () =>
      let stays := name = "exec".toList && fields.length = 1
      alwaysThen (runAssigned start fuel s.streams assignments fields)
        (if stays then pure () else modify fun t => { t with streams := s.streams })

/-- Run a command. -/
def run (start : Starter) : Nat → Form → Act Unit
  | 0, _ => Act.exit 2
  | fuel + 1, form => do
    if (← get).has .noexec then return ()
    runPending start fuel
    match form with
    | .nothing => pure ()
    | .sequence first second => do
      run start fuel first
      run start fuel second
    | .andThen first second => do
      testing (run start fuel first)
      if (← get).status = 0 then run start fuel second
    | .orElse first second => do
      testing (run start fuel first)
      if (← get).status ≠ 0 then run start fuel second
    | .negated inner => do
      testing (run start fuel inner)
      Act.setStatus (if (← get).status = 0 then 1 else 0)
    | .pipe left right => do
      let (_, output) ← captured (atEnd start fuel) (run start fuel left)
      let s ← get
      set (s.leadTo 0 (.text output))
      let status ← inSubshell (atEnd start fuel) (run start fuel right)
      modify fun t => { t with streams := s.streams }
      Act.setStatus status
      checkStrict
    | .subshell line body => do
      modify fun s => { s with line }
      Act.setStatus (← inSubshell (atEnd start fuel) (run start fuel body))
      checkStrict
    | .background body => do
      let s ← get
      set (s.leadTo 0 .nowhere)
      let status ← inSubshell (atEnd start fuel) (untested (run start fuel body))
      modify fun t => { t with
        streams := s.streams, jobs := Job.next t.jobs s.world.process status :: t.jobs }
      Act.setStatus 0
    | .ifThen condition yes no => do
      testing (run start fuel condition)
      if (← get).status = 0 then
        Act.setStatus 0
        run start fuel yes
      else
        Act.setStatus 0
        run start fuel no
    | .loop going condition body =>
      repeatWhile
        (do
          testing (run start fuel condition)
          return ((← get).status == 0) == going)
        (run start fuel body) fuel 0
    | .forEach line name words body => do
      modify fun s => { s with line }
      let values ← match words with
        | some words => expandAll start fuel false words
        | none => do pure (← get).parameters
      Act.setStatus 0
      forEach (fun value => do
        Act.assign name value
        run start fuel body) values
    | .caseOf line word arms => do
      modify fun s => { s with line }
      let text := textOf (← expand start fuel false (atHome (← get) word))
      let accepts := fun pattern => do
        return matchesPattern (← expand start fuel false (atHome (← get) pattern)) text
      match ← firstArm accepts arms with
      | some .nothing | none => Act.setStatus 0
      | some body => run start fuel body
    | .define _ name body => do
      modify fun s => { s with functions := (name, body) :: s.functions.filter fun f => f.1 != name }
      Act.setStatus 0
    | .redirected line body redirections => do
      modify fun s => { s with line }
      let s ← get
      let redirections ← prepare start fuel redirections
      let inner : Act Unit := do
        match ← attempt (redirect start fuel redirections) with
        | .ok () => run start fuel body
        | .error .failed => pure ()
        | .error leave => throw leave
      alwaysThen inner (modify fun t => { t with streams := s.streams })
      checkStrict
    | .simple line assignments words redirections => do
      modify fun s => { s with line }
      runSimple start fuel assignments words redirections
      runPending start fuel
      checkStrict

/-- Run a script line by line.  `shown` are its lines that have not been shown yet, with the number of
    the first of them. -/
def lines (start : Starter) (shows : Bool) (last : Nat) :
    Nat → Nat × List Chars → Tokens → Act Unit
  | 0, _, _ => Act.exit 2
  | fuel + 1, shown, ts => do
    let s ← get
    let show_ := fun (next : Nat) =>
      if shows && s.has .verbose then
        Act.write 2 ((shown.2.take (next - shown.1)).flatMap fun l => l ++ ['\n'])
      else pure ()
    match nextForm { last, aliases := s.aliases } ts with
    | none => do
      show_ (last + 1)
      return ()
    | some (.error fault) => do
      show_ (fault.line + 1)
      modify fun s => { s with line := fault.line }
      Act.fail ("Syntax error: ".toList ++ fault.message.toList)
    | some (.ok (form, next, rest)) => do
      show_ next
      modify fun s => { s with readLine := next }
      run start fuel form
      lines start shows last fuel (next, shown.2.drop (next - shown.1)) rest

/-- Run the text of a script that begins on a line.  `shows` says that its lines can be shown. -/
def runText (start : Starter) : Nat → Bool → Nat → Chars → Act Unit
  | 0, _, _, _ => Act.exit 2
  | fuel + 1, shows, line, text =>
    let ended := if text.getLast? = some '\n' then text.dropLast else text
    let shown := (line, if text.isEmpty then [] else linesOf ended)
    do
      let outer := (← get).readLine
      alwaysThen (lines start shows (line + text.count '\n') fuel shown (tokens line text))
        (modify fun s => { s with readLine := outer })

end

/-! ## The shell as a program -/

/-- How long a script may run. -/
def longestRun : Nat := 20000

/-- How often the end of a script is passed over that is asked to be passed over. -/
def mostEnds : Nat := 50

/-- Run a script in a world.  `isRead` says that it is read from a file or the input, and not given
    as a word. -/
def runScript (start : Starter) (w : World) (s : State) (isRead : Bool) (script : Chars) : Ran :=
  let body : Act Unit := do
    runText start longestRun isRead 1 script
    if isRead && (← get).has .ignoreeof then
      Act.write 2 ((List.replicate mostEnds "\nUse \"exit\" to leave shell.\n".toList).flatten)
  let act : Act Unit := do atEnd start longestRun (← attempt body)
  let (result, s) := act.run.run s
  { world := { w with files := s.world.files }
    ending := match result with
      | .error (.ended ending) => ending
      | _ => .ofExit s.status
    writes := s.writes.reverse
    signals := s.sentOut
    input := match s.opened[0]? with
      | some (Opened.text rest) => rest
      | _ => [] }

/-- A shell that could not even begin. -/
def refused (w : World) (message : Chars) (input : Bytes) : Ran :=
  ⟨w, .exited 2, [(.errors, Chars.toBytes (message ++ ['\n']))], input, []⟩

/-- Read the options of a shell's command line: whether a script comes in the words, and the words
    behind the options. -/
def commandLine : Nat → Bool → List Chars → Act (Bool × List Chars)
  | 0, isText, words => return (isText, words)
  | _ + 1, isText, [] => return (isText, [])
  | fuel + 1, isText, word :: rest =>
    match word with
    | ['-'] | ['-', '-'] => return (isText, rest)
    | sign :: letters =>
      if sign = '-' ∨ sign = '+' then do
        let value := sign = '-'
        let asked := value && letters.contains 'c'
        let letters := letters.filter fun c => c != 'c' && c != 'l'
        let rest ← Builtin.turnLetters value letters rest
        commandLine fuel (isText || asked) rest
      else return (isText, word :: rest)
    | [] => return (isText, word :: rest)

/-- Run the shell with its arguments: a script after `-c`, a script in a file, or a script on the
    input. -/
def program (start : Starter) (w : World) (argv : List Bytes) (input : Bytes) : Ran :=
  let name := Chars.ofBytes (argv.headD [])
  let words := (argv.drop 1).map Chars.ofBytes
  let begin := State.start w name [] [] input
  let settled : Act (Bool × List Chars) := do
    let read ← commandLine (words.length + 1) false words
    if (← get).has .interactive then
      modify fun s => { s with switches := Switch.turn .monitor true s.switches }
    Builtin.settleSwitches
    return read
  match settled.run.run begin with
  | (.error _, s) => ⟨w, .exited 2, s.writes.reverse, input, []⟩
  | (.ok (isText, words), s) =>
    let run := fun (s : State) (script : Chars) => runScript start w s (!isText) script
    if isText then
      match words with
      | [] => refused w (name ++ ": 0: -c requires an argument".toList) input
      | script :: [] => run s script
      | script :: name :: parameters => run { s with name, parameters } script
    else
      match words with
      | path :: parameters =>
        if s.has .stdin then fromInput s (path :: parameters)
        else
          match w.files.status w.cwd (Chars.toBytes path) with
          | .ok (_, .file _ content) =>
            run { s with name := path, parameters } (Chars.ofBytes content)
          | .ok (_, .directory) => run { s with name := path, parameters } []
          | .ok _ => run { s with name := path, parameters } []
          | .error e =>
            refused w (name ++ ": 0: cannot open ".toList ++ path ++ ": ".toList
              ++ (openFault e).toList) input
      | [] => fromInput s []
where
  /-- Run the script on the input. -/
  fromInput (s : State) (parameters : List Chars) : Ran :=
    let s := { s with
      parameters
      switches := Switch.turn .stdin true s.switches
      opened := s.opened.setIfInBounds 0 (.text []) }
    runScript start w s true (Chars.ofBytes input)

end Handover.Shell
