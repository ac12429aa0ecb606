/-
  What programs ask of the system: files, the environment, other programs, and their own end.

  Variables of the environment stand in a dictionary; a program that is started gets those that
  stand in it then.
-/
import Handover.Files.Change
import Handover.Interpreter.Provided.Methods
import Handover.Interpreter.SearchPath

namespace Handover.Interpreter

open CodePoints (ofString)
open Machine (World)

/-! ## The environment -/

/-- The world with the environment as the program sees it. -/
def worldNow : Act World := do
  let s ← get
  let entries ← entriesAt s.environ
  let environment ← entries.mapM fun (k, v) => do
    match ← plain k, ← plain v with
    | .text k, .text v =>
      return ((CodePoints.toPath? k).getD [], (CodePoints.toPath? v).getD [])
    | _, _ => fail "TypeError" "str expected, not int"
  return { s.world with environment }

/-- Change the files. -/
def changeFiles (about : List Value) (f : World → Except OsError Files.Tree) : Act Value := do
  let w := (← get).world
  match f w with
  | .ok files =>
    modify fun s => { s with world := { w with files } }
    return .none
  | .error e => failSystem e about

/-! ## Signals -/

/-- The signals with their numbers. -/
def signals : List (String × Nat) :=
  [("SIGHUP", 1), ("SIGINT", 2), ("SIGQUIT", 3), ("SIGILL", 4), ("SIGTRAP", 5), ("SIGABRT", 6),
   ("SIGBUS", 7), ("SIGFPE", 8), ("SIGKILL", 9), ("SIGUSR1", 10), ("SIGSEGV", 11), ("SIGUSR2", 12),
   ("SIGPIPE", 13), ("SIGALRM", 14), ("SIGTERM", 15), ("SIGSTKFLT", 16), ("SIGCHLD", 17),
   ("SIGCONT", 18), ("SIGSTOP", 19), ("SIGTSTP", 20), ("SIGTTIN", 21), ("SIGTTOU", 22),
   ("SIGURG", 23), ("SIGXCPU", 24), ("SIGXFSZ", 25), ("SIGVTALRM", 26), ("SIGPROF", 27),
   ("SIGWINCH", 28), ("SIGIO", 29), ("SIGPWR", 30), ("SIGSYS", 31)]

/-- The signals that do nothing to an interpreter. -/
def harmlessSignals : List Nat := [0, 13, 17, 18, 19, 20, 21, 22, 23, 25, 28]

/-- A signal comes to the interpreter. -/
def takeSignal (ev : Evaluator) (n : Nat) : Act Value := do
  match (← get).signalCalls.find? fun e => e.1 == n ∧ n != 9 with
  | some (_, handler) =>
    match handler.int? with
    | some 1 => return .none
    | some _ => throw (.ended (.killed n))
    | none =>
      let _ ← ev.call handler [.ofNat n, .none] []
      return .none
  | none =>
    if n = 2 then failWith "KeyboardInterrupt" []
    else if harmlessSignals.contains n then return .none
    else throw (.ended (.killed n))

/-- Send a signal. -/
def sendSignal (ev : Evaluator) (process number : Value) : Act Value := do
  let p ← intOf ev process
  let n ← intOf ev number
  let w := (← get).world
  if n < 0 ∨ 64 < n then failSystem (.code 22) []
  else if p = w.process ∨ p = 0 then takeSignal ev n.toNat
  else if p = w.parent then
    modify fun s => { s with sentOut := s.sentOut ++ [(w.parent, n.toNat)] }
    return .none
  else failSystem (.code 3) []

/-- The signals that came from a program that was started reach the process that they are meant
    for. -/
def deliver (ev : Evaluator) (signals : List (Nat × Nat)) : Act Unit := do
  for (process, n) in signals do
    if process = (← get).world.process then
      let _ ← takeSignal ev n
    else modify fun s => { s with sentOut := s.sentOut ++ [(process, n)] }


/-! ## Other programs -/

/-- How a process ended, as whoever waited for it is told. -/
def waitStatus : Ending → Int
  | .exited code => code * 256
  | .killed signal => signal

/-- How a process ended, as one number: a signal counts below zero. -/
def returnCode : Ending → Int
  | .exited code => code
  | .killed signal => -signal

/-- Start a program and wait for its end.  Without an input of its own it gets that of the
    interpreter. -/
def runProgram (w : World) (argv : List Bytes) (input : Option Bytes) (about : List Value) :
    Act Machine.Ran := do
  let s ← get
  match s.start w ⟨argv.headD [], argv.drop 1⟩ (input.getD s.input) with
  | .error e => failSystem e about
  | .ok ran =>
    modify fun s => { s with
      world := { s.world with files := ran.world.files }
      input := if input.isSome then s.input else ran.input }
    return ran

/-- What a program gets that the shell reads a line for. -/
def shellLine (line : Bytes) : List Bytes := [Machine.shellPath, Text.encode "-c", line]

/-- Run a line in the shell, with the outputs of the interpreter. -/
def runLine (ev : Evaluator) (v : Value) : Act Value := do
  let ran ← runProgram (← worldNow).ofChild (shellLine (← pathBytes ev v)) none []
  passOn ran
  deliver ev ran.signals
  return .int (waitStatus ran.ending)

/-- Run a program: its arguments, its environment, its working directory and its input.  The answer
    is how it ended and what it wrote. -/
def spawn (ev : Evaluator) (g : Given) : Act Value := do
  let argv ← (← itemsOf ev (g.at_ 0)).mapM (pathBytes ev)
  let w ← worldNow
  let w ← match g.at_ 1 with
    | .none => pure w
    | env =>
      let entries ← entriesOf ev env
      let environment ← entries.mapM fun (k, v) => do return (← pathBytes ev k, ← pathBytes ev v)
      pure { w with environment }
  let w ← match g.at_ 2 with
    | .none => pure w
    | dir =>
      match w.files.status w.cwd (← pathBytes ev dir) with
      | .ok (at_, .directory) => pure { w with cwd := at_ }
      | .ok _ => failSystem .notADirectory [dir]
      | .error e => failSystem e [dir]
  let input ← match g.at_ 3 with
    | .none => pure none
    | v => do pure (some ((← bytes? v).getD []))
  let program ← match (← itemsOf ev (g.at_ 0)) with
    | first :: _ => pathValue ev first
    | [] => pure .none
  let ran ← runProgram w.ofChild argv input [program]
  deliver ev ran.signals
  return .tuple [.int (returnCode ran.ending), .bytes (ran.written .output),
    .bytes (ran.written .errors)]

/-- Give the process up for another program. -/
def giveUp (ev : Evaluator) (argv : List Value) : Act Value := do
  let words ← argv.mapM (pathBytes ev)
  let ran ← runProgram (← worldNow) words none (argv.take 1)
  passOn ran
  deliver ev ran.signals
  throw (.ended ran.ending)

/-- Carry out a function of the module `signal`. -/
def signalFunction (ev : Evaluator) (name : String) (g : Given) : Act Value := do
  let current := fun (n : Nat) => do
    return match (← get).signalCalls.find? fun e => e.1 == n with
      | some (_, handler) => handler
      | none => if n = 2 then .provided "signal.default_int_handler" else .int 0
  match name with
  | "signal" =>
    let n := (← intOf ev g.first).toNat
    if n = 9 ∨ n = 19 then failSystem (.code 22) []
    else if n = 0 ∨ 64 < n then fail "ValueError" "signal number out of range"
    let old ← current n
    modify fun s => { s with
      signalCalls := (n, g.at_ 1) :: s.signalCalls.filter fun e => e.1 != n }
    return old
  | "getsignal" => current (← intOf ev g.first).toNat
  | "raise_signal" => takeSignal ev (← intOf ev g.first).toNat
  | "default_int_handler" => failWith "KeyboardInterrupt" []
  | "strsignal" | "pthread_sigmask" | "siginterrupt" => return .none
  | _ => return .int 0

/-! ## Files -/

/-- The kind and the permission bits of what stands somewhere, as one number. -/
def modeOf : Files.Node → Nat
  | .file mode _ => 0o100000 + mode
  | .program _ => 0o100755
  | .directory => 0o040755
  | .symlink _ => 0o120777
  | .fifo => 0o010644
  | .device => 0o020666

/-- How many bytes stand somewhere. -/
def sizeOf : Files.Node → Nat
  | .file _ content => content.length
  | .program _ => 100000
  | .directory => 4096
  | .symlink target => target.length
  | _ => 0

/-- What stands at a path; `through` says that a link at its end is followed. -/
def nodeAt (through : Bool) (path : Path) : Act (Except OsError Files.Node) := do
  let w := (← get).world
  return do
    let at_ ← w.files.locate w.cwd through path
    match w.files.node? at_ with
    | some node => return node
    | none => throw .notFound

/-- What stands at the path of an argument. -/
def nodeOf? (ev : Evaluator) (through : Bool) (v : Value) : Act (Option Files.Node) := do
  match (← plain v).int? with
  | some _ => return some .fifo
  | none =>
    let path ← match ← pathValue ev v with
      | .bytes b => pure (some b)
      | .text t => pure (CodePoints.toPath? t)
      | _ => pure none
    match path with
    | none => return none
    | some path => return (← nodeAt through path).toOption

/-- What the system tells of a file. -/
def statusValues (ev : Evaluator) (through : Bool) (v : Value) : Act Value := do
  let node ← match (← plain v).int? with
    | some _ => pure Files.Node.fifo
    | none =>
      match ← nodeAt through (← pathBytes ev v) with
      | .ok node => pure node
      | .error e => failSystem e [← pathValue ev v]
  return .tuple ([modeOf node, 1, 1, 1, 0, 0, sizeOf node, 0, 0, 0].map Value.ofNat)

/-- A name of a directory as the argument asks for it. -/
def nameLike (like : Value) (name : Bytes) : Value :=
  match like with
  | .bytes _ => .bytes name
  | _ => .ofPath name

/-- The names in a directory. -/
def listDirectory (ev : Evaluator) (g : Given) : Act Value := do
  let dir ← match g.get 0 "path" with
    | .none => pure (.ofString ".")
    | v => pathValue ev v
  let w := (← get).world
  match w.files.status w.cwd (← pathBytes ev dir) with
  | .ok (at_, .directory) => makeList ((w.files.children at_).map (nameLike dir))
  | .ok _ => failSystem .notADirectory [dir]
  | .error e => failSystem e [dir]

/-- Some bit of what is asked for is given. -/
def isAccessible (node : Files.Node) (asked : Nat) : Bool :=
  match node with
  | .directory => true
  | node => asked % 2 == 0 || modeOf node &&& 0o111 != 0

/-- Carry out a function on files. -/
def fileFunction (ev : Evaluator) (name : String) (g : Given) : Act (Option Value) := do
  let v := g.first
  let path := pathBytes ev v
  match name with
  | "listdir" => return some (← listDirectory ev g)
  | "mkdir" => do
    let p ← path
    return some (← changeFiles [← pathValue ev v] fun w => w.files.makeDirectory w.cwd p)
  | "remove" | "unlink" => do
    let p ← path
    return some (← changeFiles [← pathValue ev v] fun w => w.files.removeFile w.cwd p)
  | "rmdir" => do
    let p ← path
    return some (← changeFiles [← pathValue ev v] fun w => w.files.removeDirectory w.cwd p)
  | "rename" | "replace" => do
    let p ← path
    let q ← pathBytes ev (g.at_ 1)
    return some (← changeFiles [← pathValue ev v] fun w => w.files.rename w.cwd p q)
  | "symlink" => do
    let p ← path
    let q ← pathBytes ev (g.at_ 1)
    return some (← changeFiles [← pathValue ev v] fun w => w.files.makeLink w.cwd p q)
  | "readlink" => do
    let p ← path
    let w := (← get).world
    match w.files.readLink w.cwd p with
    | .ok target => return some (nameLike (← pathValue ev v) target)
    | .error e => failSystem e [← pathValue ev v]
  | "chmod" => do
    let p ← path
    let mode := (← intOf ev (g.get 1 "mode")).toNat % 0o10000
    return some (← changeFiles [← pathValue ev v] fun w => w.files.changeMode w.cwd p mode)
  | "_status" => return some (← statusValues ev true v)
  | "_lstatus" => return some (← statusValues ev false v)
  | "access" =>
    match ← nodeOf? ev true v with
    | some node => return some (.bool (isAccessible node (← intOf ev (g.get 1 "mode")).toNat))
    | none => return some (.bool false)
  | "chdir" => do
    let p ← path
    let w := (← get).world
    match w.files.status w.cwd p with
    | .ok (at_, .directory) =>
      modify fun s => { s with world := { w with cwd := at_ } }
      return some .none
    | .ok _ => failSystem .notADirectory [← pathValue ev v]
    | .error e => failSystem e [← pathValue ev v]
  | "utime" | "chown" | "sync" | "fsync" => return some .none
  | _ => return none

/-- The path of the working directory. -/
def workingDirectory : Act Path := do
  let w := (← get).world
  match w.files.node? w.cwd with
  | some .directory => return w.cwdPath
  | _ => failSystem .notFound []

/-- Carry out a function on paths that asks the system. -/
def pathFunction (ev : Evaluator) (name : String) (g : Given) : Act Value := do
  let v := g.first
  let isKind := fun (p : Files.Node → Bool) => do
    return Value.bool ((← nodeOf? ev true v).any p)
  match name with
  | "exists" => isKind fun _ => true
  | "lexists" => return .bool (← nodeOf? ev false v).isSome
  | "isfile" => isKind fun
    | .file .. | .program _ => true
    | _ => false
  | "isdir" => isKind fun
    | .directory => true
    | _ => false
  | "islink" =>
    return .bool ((← nodeOf? ev false v).any fun
      | .symlink _ => true
      | _ => false)
  | "normpath" =>
    let like ← pathValue ev v
    return nameLike like (normalise (← pathBytes ev v))
  | "abspath" =>
    let like ← pathValue ev v
    let p ← pathBytes ev v
    let cwd ← if Path.isAbsolute p then pure [] else workingDirectory
    return nameLike like (absolute cwd p)
  | "_resolved" =>
    let like ← pathValue ev v
    let p ← pathBytes ev v
    let w := (← get).world
    match w.files.locate w.cwd true p with
    | .ok at_ => return nameLike like (World.pathOf at_)
    | .error _ => return .none
  | n => fail "AttributeError" s!"module 'posixpath' has no attribute '{n}'"

/-! ## The process -/

/-- Write bytes to a channel past everything that is kept back. -/
def writeChannel (ev : Evaluator) (g : Given) : Act Value := do
  let n ← intOf ev g.first
  match ← bytes? (g.at_ 1) with
  | none =>
    let kind ← kindName (g.at_ 1)
    fail "TypeError" s!"a bytes-like object is required, not '{kind}'"
  | some b =>
    if n = 1 then changeOutput fun o => o.pass b
    else if n = 2 then changeErrors fun o => o.pass b
    else failSystem (.code 9) []
    return .ofNat b.length

/-- Read bytes of the input. -/
def readChannel (ev : Evaluator) (g : Given) : Act Value := do
  if (← intOf ev g.first) != 0 then failSystem (.code 9) []
  let count := (← intOf ev (g.at_ 1)).toNat
  let s ← get
  set { s with input := s.input.drop count }
  return .bytes (s.input.take count)

/-- Carry out a function of the module `os`. -/
def osFunction (ev : Evaluator) (name : String) (g : Given) : Act Value := do
  let v := g.first
  match ← fileFunction ev name g with
  | some answer => return answer
  | none =>
    match name with
    | "getcwd" => return .ofPath (← workingDirectory)
    | "getcwdb" => return .bytes (← workingDirectory)
    | "fspath" => pathValue ev v
    | "fsencode" => return .bytes (← pathBytes ev v)
    | "fsdecode" =>
      match ← pathValue ev v with
      | .bytes b => return .ofPath b
      | t => return t
    | "strerror" => return .ofString (OsError.text (← intOf ev v))
    | "getpid" | "getpgid" | "getpgrp" | "getsid" | "setsid" =>
      return .ofNat (← get).world.process
    | "getppid" => return .ofNat (← get).world.parent
    | "getuid" | "geteuid" | "getgid" | "getegid" => return .int 0
    | "getgroups" => makeList [.int 0]
    | "getlogin" => return .ofString "root"
    | "umask" => return .int 0o022
    | "cpu_count" => return .int 1
    | "urandom" => return .bytes (List.replicate (← intOf ev v).toNat 0)
    | "isatty" => return .bool false
    | "nice" | "close" | "putenv" | "unsetenv" | "setpgid" => return .none
    | "system" => runLine ev v
    | "_spawn" => spawn ev g
    | "_exec" => giveUp ev (← itemsOf ev v)
    | "kill" | "killpg" => sendSignal ev v (g.at_ 1)
    | "abort" => throw (.ended (.killed 6))
    | "_exit" => throw (.ended (.exited ((← intOf ev (g.get 0 "status")) % 256)))
    | "write" => writeChannel ev g
    | "read" => readChannel ev g
    | n => fail "AttributeError" s!"module 'os' has no attribute '{n}'"

/-- The names of the functions of the module `os`. -/
def osFunctions : List String :=
  ["listdir", "mkdir", "remove", "unlink", "rmdir", "rename", "replace", "symlink", "readlink",
   "chmod", "_status", "_lstatus", "access", "chdir", "utime", "chown", "sync", "fsync", "getcwd",
   "getcwdb", "fspath", "fsencode", "fsdecode", "strerror", "getpid", "getppid", "getpgid",
   "getpgrp", "getsid", "setsid", "getuid", "geteuid", "getgid", "getegid", "getgroups", "getlogin",
   "umask", "cpu_count", "urandom", "isatty", "nice", "close", "putenv", "unsetenv", "setpgid",
   "system", "_spawn", "_exec", "kill", "killpg", "abort", "_exit", "write", "read"]

/-- The names of the functions on paths that ask the system. -/
def pathFunctions : List String :=
  ["exists", "lexists", "isfile", "isdir", "islink", "normpath", "abspath", "_resolved"]

/-! ## The interpreter -/

/-- Carry out a function of the module `sys`. -/
def sysFunction (name : String) (g : Given) : Act Value := do
  match name with
  | "exit" => failWith "SystemExit" (if g.byPlace.isEmpty then [.none] else g.byPlace)
  | "exc_info" =>
    match (← get).handled with
    | e :: _ => return .tuple [← classOf e, e, .none]
    | [] => return .tuple [.none, .none, .none]
  | "exception" => return (← get).handled.headD .none
  | "getrecursionlimit" => return .int 1000
  | "getfilesystemencoding" | "getdefaultencoding" => return .ofString "utf-8"
  | "getfilesystemencodeerrors" => return .ofString "surrogateescape"
  | "intern" => return g.first
  | "getsizeof" => return .int 64
  | "getrefcount" => return .int 2
  | "is_finalizing" => return .bool false
  | "getswitchinterval" => return .float 0.005
  | _ => return .none

/-- The names of the functions of the module `sys`. -/
def sysFunctions : List String :=
  ["exit", "exc_info", "exception", "getrecursionlimit", "setrecursionlimit",
   "getfilesystemencoding", "getdefaultencoding", "getfilesystemencodeerrors", "intern",
   "getsizeof", "getrefcount", "is_finalizing", "getswitchinterval", "setswitchinterval",
   "settrace", "gettrace", "setprofile", "getprofile", "addaudithook", "audit", "_getframe",
   "_clear_type_cache", "call_tracing", "displayhook", "excepthook", "unraisablehook",
   "breakpointhook"]

/-- Carry out a function of the module `time`.  No time passes. -/
def timeFunction (name : String) : Act Value := do
  match name with
  | "time" => return .float 1700000000.0
  | "time_ns" => return .int 1700000000000000000
  | "monotonic" | "perf_counter" | "process_time" | "thread_time" => return .float 1000.0
  | "monotonic_ns" | "perf_counter_ns" | "process_time_ns" => return .int 1000000000000
  | _ => return .none

/-- The names of the functions of the module `time`. -/
def timeFunctions : List String :=
  ["time", "time_ns", "monotonic", "perf_counter", "process_time", "thread_time", "monotonic_ns",
   "perf_counter_ns", "process_time_ns", "sleep"]

end Handover.Interpreter
