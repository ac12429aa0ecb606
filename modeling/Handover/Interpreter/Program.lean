/-
  The interpreter as a program of the system.

  A program ends in one of four ways: it comes to its end, it asks for its end with `SystemExit`, an
  exception is left that nothing has caught, or the process ends at once.  Except in the last case
  the calls for the end are made and everything that was kept back is written.
-/
import Handover.Interpreter.Query
import Handover.Interpreter.Startup

namespace Handover.Interpreter

open CodePoints (ofString)
open Machine (World Ran)

/-! ## Exceptions that nothing has caught -/

/-- The name of the class of an exception, as it is reported. -/
def reportedName (exception : Value) : Act CodePoints := do
  let name ← fullName (← classOf exception)
  let own := ofString "__main__."
  return if own.isPrefixOf name then name.drop own.length else name

/-- The last line of the report on an exception. -/
def reportLine (ev : Evaluator) (exception : Value) : Act CodePoints := do
  let name ← reportedName exception
  let message ← try textOf ev exception catch _ => pure (ofString "<exception str() failed>")
  return name ++ (if message.isEmpty then [] else ofString ": " ++ message) ++ [0x0A]

/-- Write a text to the stream for errors, if there is one. -/
def complain (ev : Evaluator) (text : CodePoints) : Act Unit := do
  match ← moduleValue? "sys" "stderr" with
  | some .none | none => pure ()
  | some stream =>
    try
      let _ ← ev.call (← attributeOf ev stream "write") [.text text] []
    catch
    | .ended e => throw (.ended e)
    | .exception _ => pure ()

/-- Report an exception that nothing has caught.  A program can have a way of its own to do it. -/
def report (ev : Evaluator) (exception : Value) : Act Unit := do
  match ← moduleValue? "sys" "excepthook" with
  | some hook@(.object _) | some hook@(.bound ..) => do
    let _ ← ev.call hook [← classOf exception, exception, .none] []
  | _ =>
    complain ev (ofString "Traceback (most recent call last):\n" ++ (← reportLine ev exception))

/-! ## The end -/

/-- The ending that a request for the end asks for.  What is neither nothing nor a number is a
    message. -/
def askedEnding (ev : Evaluator) (exception : Value) : Act Ending := do
  let code ← attributeOf ev exception "code"
  match ← plain code with
  | .none => return .exited 0
  | bare =>
    match bare.int? with
    | some n =>
      let inRange := -(Nat.pow 2 63 : Int) ≤ n ∧ n < (Nat.pow 2 63 : Int)
      return .exited (if inRange then n % 256 else 255)
    | none =>
      complain ev ((← textOf ev code) ++ [0x0A])
      return .exited 1

/-- The ending that an exception leads to. -/
def endingOf (ev : Evaluator) (exception : Value) : Act Ending := do
  if ← isA exception "SystemExit" then askedEnding ev exception
  else
    report ev exception
    if ← isA exception "KeyboardInterrupt" then return .killed 2 else return .exited 1

/-- Do something to its end, whatever that is. -/
def settle (ev : Evaluator) (act : Act Unit) : Act Ending := do
  try
    act
    return .exited 0
  catch
  | .ended e => throw (.ended e)
  | .exception e =>
    try endingOf ev e catch
    | .ended e => throw (.ended e)
    | .exception _ => return .exited 1

/-- How many calls may be made for the end. -/
def mostExitCalls : Nat := 10000

/-- Make the calls for the end, the last one that was asked for first. -/
def makeExitCalls (ev : Evaluator) : Nat → Act Unit
  | 0 => return ()
  | n + 1 => do
    match (← get).exitCalls with
    | [] => return ()
    | (f, args, named) :: rest =>
      modify fun s => { s with exitCalls := rest }
      try
        let _ ← ev.call f args named
      catch
      | .ended e => throw (.ended e)
      | .exception e =>
        complain ev (ofString "Exception ignored in atexit callback: " ++ (← reprOf ev f)
          ++ ofString "\nTraceback (most recent call last):\n" ++ (← reportLine ev e))
      makeExitCalls ev n

/-- Do something, and all that belongs to the end of an interpreter. -/
def conclude (ev : Evaluator) (act : Act Unit) : Act Ending := do
  let ending ← settle ev act
  makeExitCalls ev mostExitCalls
  changeOutput Outgoing.flushed
  changeErrors Outgoing.flushed
  return ending

/-! ## Programs -/

/-- The interpreter cannot do what it was asked to do. -/
def giveReason (message : Bytes) (code : Int) : Act Unit := do
  changeErrors fun o => o.keepText (message ++ [0x0A])
  throw (.exception (← makeException "SystemExit" [.int code]))

/-- Run a source as the program. -/
def runProgramText (ev : Evaluator) (main : Nat) (source : Bytes) : Act Unit := do
  runSource ev main (← decodeSource source)

/-- The content behind the first line. -/
def withoutFirstLine (content : Bytes) : Bytes := (content.dropWhile (· != 0x0A))

/-- Run a file as the program. -/
def runFile (ev : Evaluator) (o : Options) (name : Bytes) (main : Nat) (path : Path) : Act Unit := do
  let w := (← get).world
  let whole := if Path.isAbsolute path then path else Path.join w.cwdPath path
  let refuse := fun (e : OsError) =>
    let (number, text) := match e with
      | .code n => (n, OsError.text n)
      | e => (22, e.message)
    giveReason (name ++ Text.encode ": can't open file " ++ Text.encode "'" ++ whole
      ++ Text.encode s!"': [Errno {number}] {text}") 2
  match w.files.status w.cwd path with
  | .error e => refuse e
  | .ok (at_, .directory) =>
    match firstFile w (World.pathOf at_ ++ Path.ofString "/__main__") with
    | some source =>
      if !o.safePath then searchFirst whole
      setName main "__file__" (.ofPath source)
      runProgramText ev main ((w.read? source).getD [])
    | none =>
      giveReason (name ++ Text.encode ": can't find '__main__' module in '" ++ whole
        ++ Text.encode "'") 1
  | .ok (at_, .file _ content) =>
    if !o.safePath then searchFirst (Found.directoryOf (World.pathOf at_))
    setName main "__file__" (.ofPath whole)
    setName main "__cached__" .none
    runProgramText ev main (if o.skipsFirstLine then withoutFirstLine content else content)
  | .ok _ => return ()

/-- Run a found module as the program. -/
def runFound (ev : Evaluator) (name : String) (main : Nat) (found : Found) : Act Unit := do
  let spec ← specOf name found
  setName main "__spec__" spec
  setName main "__package__" (.ofString (".".intercalate ((name.splitOn ".").dropLast)))
  match found with
  | .file source => do
    let w := (← get).world
    setName main "__file__" (.ofPath source)
    match ← moduleValue? "sys" "argv" with
    | some (.object address) =>
      let arguments ← itemsOf ev (.object address)
      replace address (.list (.ofPath source :: arguments.drop 1))
    | _ => pure ()
    runProgramText ev main ((w.read? source).getD [])
  | _ => giveReason (Text.encode s!"{executable}: No code object available for {name}") 1

/-- Run a module as the program.  Of a package its module `__main__` is run. -/
def runNamedModule (ev : Evaluator) (o : Options) (main : Nat) (name : String) : Act Unit := do
  let w := (← get).world
  if !o.safePath then searchFirst w.cwdPath
  let missing := fun (why : String) => giveReason (Text.encode s!"{executable}: {why}") 1
  if name.startsWith "." then missing "Relative module names not supported"
  else
    let spec ← try loadingFunction ev "find_spec" { byPlace := [.ofString name] } catch
      | .exception e => do
        if (← isA e "ImportError") || (← isA e "ValueError") then
          let kind ← reportedName e
          let message ← textOf ev e
          missing ("Error while finding module specification for '" ++ name ++ "' ("
            ++ kind.display ++ ": " ++ message.display ++ ")")
          return ()
        else throw (.exception e)
      | .ended e => throw (.ended e)
    if spec.isNone then missing s!"No module named {name}"
    else
      let places ← match ← attributeOf ev spec "submodule_search_locations" with
        | .none => pure none
        | places => do pure (some (← pathsIn ev places))
      match places with
      | none =>
        let above := (name.splitOn ".").dropLast
        let dirs ← if above.isEmpty then searchPathNow ev
          else do
            let package ← moduleNamed ev (".".intercalate above)
            pathsIn ev (← attributeOf ev package "__path__")
        match find w dirs name with
        | some found => runFound ev name main found
        | none => missing s!"No module named {name}"
      | some dirs =>
        let inner := name ++ ".__main__"
        let _ ← moduleNamed ev name
        match find w dirs inner with
        | some found => runFound ev inner main found
        | none =>
          missing s!"No module named {inner}; '{name}' is a package and cannot be directly executed"

/-- Do what the command line asks for. -/
def carryOutJob (ev : Evaluator) (name : Bytes) (i : Invocation) (main : Nat) : Act Unit := do
  let o := i.options
  let write := fun (bytes : Bytes) => changeOutput fun out => out.keepText bytes
  match i.job with
  | .version => write (Text.encode s!"Python {version}\n")
  | .help => write (Invocation.usage name)
  | .refused why => do
    changeErrors fun out => out.keepText (Invocation.refusal name why)
    throw (.exception (← makeException "SystemExit" [.int 2]))
  | .command text =>
    if !o.safePath then searchFirst []
    if text = Text.encode Host.queryProgram then answerQuery ev
    else runProgramText ev main (text ++ [0x0A])
  | .input =>
    if !o.safePath then searchFirst []
    let source := (← get).input
    modify fun s => { s with input := [] }
    runProgramText ev main source
  | .module text => runNamedModule ev o main (Text.display text)
  | .script path => runFile ev o name main path

/-- Load the modules by which users change every interpreter; an error in one of them does not end
    the program. -/
def customiseCarefully (ev : Evaluator) (o : Options) : Act Unit := do
  try customise ev o catch
  | .ended e => throw (.ended e)
  | .exception e => do
    if ← isA e "ImportError" then return ()
    else if ← isA e "Exception" then
      complain ev (ofString "Error in sitecustomize; set PYTHONVERBOSE for traceback:\n"
        ++ (← reportLine ev e))
    else throw (.exception e)

/-- Run the interpreter. -/
def program (start : World → Command → Bytes → Except OsError Ran) (w : World) (argv : List Bytes)
    (input : Bytes) : Ran :=
  let i := Invocation.ofArgv argv
  let i := { i with options := i.options.withSettings w }
  let ev := running
  let act := conclude ev do
    let main ← setOut i.options argv i.argv
    customiseCarefully ev i.options
    carryOutJob ev (argv.headD []) i main
  match act.run (State.fresh start w i.options input) with
  | .ok ending s => ranTo ending s
  | .error (.ended ending) s => ranTo ending s
  | .error (.exception _) s => ranTo (.exited 1) s
where
  /-- What is left when the process has ended. -/
  ranTo (ending : Ending) (s : State) : Ran :=
    ⟨{ w with files := s.world.files }, ending, s.writes.reverse, s.input, s.sentOut⟩

end Handover.Interpreter
