/-
  Running statements.

  A piece of code is run by steps on a list of continuations, the innermost first, and a signal that
  tells how the last step went.  A statement with other statements in it only adds continuations.
  A step that hands out a value stops the piece of code; its continuations are all that is needed to
  take it up again.
-/
import Handover.Interpreter.Call

namespace Handover.Interpreter

/-- How it goes on after a step. -/
inductive Outcome where
  | goOn (signal : Signal) (rest : List Continuation)
  /-- A value is handed out; what comes back gets a name. -/
  | handOut (value : Value) (received : String) (rest : List Continuation)

/-! ## Exceptions -/

/-- The exception that a value raises. -/
def exceptionOf (ev : Evaluator) (v : Value) : Act Value := do
  let made ← if ← isClass v then ev.call v [] [] else pure v
  if ← isA made "BaseException" then return made
  else fail "TypeError" "exceptions must derive from BaseException"

/-- Note something about an exception. -/
def annotate (exception : Value) (name : String) (value : Value) : Act Unit := do
  match ← objectOf exception with
  | some (.instance_ _ attributes _) => setName attributes name value
  | _ => pure ()

/-- Raise an exception. -/
def raise (ev : Evaluator) (f : Frame) (value cause : Option Expr) : Act Value := do
  match value with
  | none =>
    match (← get).handled with
    | e :: _ => return e
    | [] => fail "RuntimeError" "No active exception to reraise"
  | some e =>
    let exception ← exceptionOf ev (← ev.eval f e)
    match cause with
    | none => pure ()
    | some c =>
      let c ← ev.eval f c
      let c ← if c.isNone then pure c else exceptionOf ev c
      annotate exception "__cause__" c
      annotate exception "__suppress_context__" (.bool true)
    match (← get).handled with
    | e :: _ => if !e.same exception then annotate exception "__context__" e
    | [] => pure ()
    return exception

/-- An exception belongs to a class or to one of several. -/
def isCaught (exception : Value) : Nat → Value → Act Bool
  | 0, _ => return false
  | n + 1, kinds => do
    match kinds with
    | .tuple ks => ks.anyM (isCaught exception n)
    | k =>
      if ← isClass k then isOf exception k
      else
        fail "TypeError"
          "catching classes that do not inherit from BaseException is not allowed"

/-- What is done about an exception, if something is. -/
def handlerFor (ev : Evaluator) (f : Frame) (exception : Value) :
    List Stmt → Act (Option (Option String × List Stmt))
  | [] => return none
  | .handler kind name body :: rest => do
    let caught ← match kind with
      | none => pure true
      | some e => isCaught exception 10 (← ev.eval f e)
    if caught then return some (name, body) else handlerFor ev f exception rest
  | _ :: rest => handlerFor ev f exception rest

/-- An exception is no longer dealt with. -/
def dealtWith (f : Frame) (name : Option String) : Act Unit := do
  modify fun s => { s with handled := s.handled.drop 1 }
  match name with
  | some n =>
    let table := tableFor f n
    if (← name? table n).isSome then eraseName table n
  | none => pure ()

/-! ## Managers -/

/-- Leave a manager, and say whether it has dealt with the exception. -/
def leave (ev : Evaluator) (manager : Value) (exception : Option Value) : Act Bool := do
  let method ← attributeOf ev manager "__exit__"
  let args ← match exception with
    | some e => do pure [← classOf e, e, .none]
    | none => pure [.none, .none, .none]
  truth ev (← ev.call method args [])

/-! ## Modules -/

/-- The dotted name of parts. -/
def dotted (parts : List String) : String := ".".intercalate parts

/-- Make modules known. -/
def loadModules (ev : Evaluator) (f : Frame) :
    List (List String × Option String) → Act Unit
  | [] => return ()
  | (parts, other) :: rest => do
    let load := fun (name : String) =>
      ev.call (.provided "importlib.import_module") [.ofString name] []
    match other with
    | some n => storeName f n (← load (dotted parts))
    | none => do
      let _ ← load (dotted parts)
      storeName f (parts.headD "") (← load (parts.headD ""))
    loadModules ev f rest

/-- The module that a statement names, seen from the module that it stands in. -/
def moduleFor (ev : Evaluator) (f : Frame) (level : Nat) (parts : List String) : Act Value := do
  let here ← if level = 0 then pure .none else do
    match ← name? f.globals "__package__" with
    | some p => pure p
    | none => pure .none
  let name := String.ofList (List.replicate level '.') ++ dotted parts
  ev.call (.provided "importlib.import_module") ([.ofString name] ++ if level = 0 then [] else [here])
    []

/-- The names that a module gives to all who ask for everything. -/
def publicNames (ev : Evaluator) (module : Value) : Act (List String) := do
  match ← attribute? ev module "__all__" with
  | some names => return (← itemsOf ev names).filterMap fun v => v.text?.map CodePoints.display
  | none =>
    match ← objectOf module with
    | some (.module _ names) =>
      let all := (← entriesAt names).filterMap fun e => e.1.text?.map CodePoints.display
      return all.filter fun n => !n.startsWith "_"
    | _ => return []

/-- Something in a module: an attribute of it, or a module below it. -/
def fromModule (ev : Evaluator) (module : Value) (name : String) : Act Value := do
  match ← attribute? ev module name with
  | some v => return v
  | none =>
    let whole ← match ← attribute? ev module "__name__" with
      | some (.text t) => pure t.display
      | _ => pure ""
    try ev.call (.provided "importlib.import_module") [.ofString (whole ++ "." ++ name)] []
    catch raised =>
      if ← isRaised raised "ModuleNotFoundError" then
        fail "ImportError" s!"cannot import name '{name}' from '{whole}'"
      else throw raised

/-- Make things in a module known. -/
def loadNames (ev : Evaluator) (f : Frame) (module : Value) :
    List (String × String) → Act Unit
  | [] => return ()
  | (name, other) :: rest => do
    if name = "*" then
      for n in ← publicNames ev module do setName f.locals n (← attributeOf ev module n)
    else storeName f other (← fromModule ev module name)
    loadNames ev f module rest

/-! ## Statements -/

/-- A value after decorators, the last one first. -/
def decorate (ev : Evaluator) (decorators : List Value) (v : Value) : Act Value :=
  decorators.reverse.foldlM (fun v d => ev.call d [v] []) v

/-- The frame of the body of a class, and the table in which the class is noted. -/
def classFrame (f : Frame) (name : String) (names : Names) : Act (Frame × Nat) := do
  let module ← match ← name? f.globals "__name__" with
    | some m => pure m
    | none => pure .none
  let locals ← makeTable [("__module__", module), ("__qualname__", .ofString name)]
  let cell ← alloc (.dict [])
  return ({ names, locals, globals := f.globals, ownClass := some cell,
            enclosing := if f.isModule then f.enclosing else f.inside }, cell)

/-- Change a target in place. -/
def augment (ev : Evaluator) (f : Frame) (target : Expr) (o : Operator) (value : Expr) :
    Act Unit := do
  match target with
  | .attribute owner name => do
    let owner ← ev.eval f owner
    let old ← attributeOf ev owner name
    setAttribute ev owner name (← operateInPlace ev o old (← ev.eval f value))
  | .item owner key => do
    let owner ← ev.eval f owner
    let key ← ev.eval f key
    let old ← itemOf ev owner key
    setItem ev owner key (← operateInPlace ev o old (← ev.eval f value))
  | target => do
    let old ← ev.eval f target
    assignTo ev f target (← operateInPlace ev o old (← ev.eval f value))

/-- Note the annotation of a name of a module or a class. -/
def noteAnnotation (ev : Evaluator) (f : Frame) (target annotation : Expr) : Act Unit := do
  match target with
  | .name n =>
    if f.isFunction then pure ()
    else
      let deferred ← match ← name? f.globals "annotations" with
        | some _ => pure true
        | none => pure false
      let value ← if deferred then pure .none else ev.eval f annotation
      let table ← match ← name? f.locals "__annotations__" with
        | some (.object table) => pure table
        | _ => do
          let table ← alloc (.dict [])
          setName f.locals "__annotations__" (.object table)
          pure table
      setName table n value
  | _ => pure ()

/-- The first case that a subject matches. -/
def caseFor (ev : Evaluator) (f : Frame) (subject : Value) : List Stmt → Act (List Stmt)
  | [] => return []
  | .case pattern condition body :: rest => do
    let matched ← matchPattern ev f 1000 pattern subject
    let holds ← match matched, condition with
      | true, some c => do truth ev (← ev.eval f c)
      | matched, _ => pure matched
    if holds then return body else caseFor ev f subject rest
  | _ :: rest => caseFor ev f subject rest

/-- Carry out a statement; `k` is what comes after it.  `run` runs the body of a class. -/
def carryOut (ev : Evaluator) (run : Frame → List Continuation → Act Unit) (f : Frame)
    (s : Stmt) (k : List Continuation) : Act Outcome := do
  let done := Outcome.goOn .goOn k
  match s with
  | .expression e => do
    let _ ← ev.eval f e
    return done
  | .assign targets e => do
    let value ← ev.eval f e
    for t in targets do assignTo ev f t value
    return done
  | .annotated target annotation value => do
    match value with
    | some e => assignTo ev f target (← ev.eval f e)
    | none => pure ()
    noteAnnotation ev f target annotation
    return done
  | .augmented target o e => do
    augment ev f target o e
    return done
  | .remove targets => do
    for t in targets do eraseTarget ev f t
    return done
  | .giveBack value =>
    match value with
    | some e => return .goOn (.returned (← ev.eval f e)) k
    | none => return .goOn (.returned .none) k
  | .fail value cause => return .goOn (.raised (← raise ev f value cause)) k
  | .check condition message => do
    if !(← get).checking then return done
    else if ← truth ev (← ev.eval f condition) then return done
    else
      match message with
      | some e => failWith "AssertionError" [← ev.eval f e]
      | none => failWith "AssertionError" []
  | .branch condition yes no => do
    let chosen := if ← truth ev (← ev.eval f condition) then yes else no
    return .goOn .goOn (.block chosen :: k)
  | .loop condition body otherwise => return .goOn .goOn (.loop condition body otherwise :: k)
  | .each target source body otherwise => do
    let it ← iterOf ev (← ev.eval f source)
    return .goOn .goOn (.each target it body otherwise :: k)
  | .guarded body handlers otherwise always =>
    return .goOn .goOn (.block body :: .guarded handlers otherwise always :: k)
  | .within manager target body => do
    let manager ← ev.eval f manager
    let _ ← attributeOf ev manager "__exit__"
    let value ← ev.call (← attributeOf ev manager "__enter__") [] []
    match target with
    | some t => assignTo ev f t value
    | none => pure ()
    return .goOn .goOn (.block body :: .within manager :: k)
  | .choose subject cases => do
    let body ← caseFor ev f (← ev.eval f subject) cases
    return .goOn .goOn (.block body :: k)
  | .define code decorators => do
    let decorators ← decorators.mapM (ev.eval f)
    storeName f code.name (← decorate ev decorators (← makeFunction ev f code))
    return done
  | .defineClass name args body names decorators => do
    let decorators ← decorators.mapM (ev.eval f)
    let (bases, named) ← evalArguments ev f args
    let (inner, cell) ← classFrame f name names
    match documentation body with
    | .none => pure ()
    | text => setName inner.locals "__doc__" text
    run inner [.block body]
    let cls ← newClass ev name bases inner.locals named
    setName cell "__class__" cls
    storeName f name (← decorate ev decorators cls)
    return done
  | .load modules => do
    loadModules ev f modules
    return done
  | .loadFrom level parts names => do
    loadNames ev f (← moduleFor ev f level parts) names
    return done
  | .yielding received value all => do
    let value ← ev.eval f value
    if all then return .goOn .goOn (.delegating received (← iterOf ev value) :: k)
    else return .handOut value received k
  | .leaveLoop => return .goOn .leavingLoop k
  | .nextRound => return .goOn .nextRound k
  | .pass | .handler .. | .case .. => return done

/-! ## Steps -/

/-- The value that a generator gave back when it ended. -/
def lastValue (raised : Raised) : Act Value := do
  match raised with
  | .exception e => return (← argsOf e).headD .none
  | .ended _ => return .none

/-- Go on with a continuation. -/
def proceed (ev : Evaluator) (run : Frame → List Continuation → Act Unit) (f : Frame)
    (c : Continuation) (k : List Continuation) : Act Outcome := do
  match c with
  | .block [] => return .goOn .goOn k
  | .block [s] => carryOut ev run f s k
  | .block (s :: rest) => carryOut ev run f s (.block rest :: k)
  | .loop condition body otherwise =>
    if ← truth ev (← ev.eval f condition) then return .goOn .goOn (.block body :: c :: k)
    else return .goOn .goOn (.block otherwise :: k)
  | .each target source body otherwise =>
    match ← step ev source with
    | none => return .goOn .goOn (.block otherwise :: k)
    | some v => do
      assignTo ev f target v
      return .goOn .goOn (.block body :: c :: k)
  | .guarded _ otherwise always =>
    return .goOn .goOn (.block otherwise :: .closing always :: k)
  | .closing always => return .goOn .goOn (.block always :: .resuming .goOn :: k)
  | .resuming signal => return .goOn signal k
  | .handling name => do
    dealtWith f name
    return .goOn .goOn k
  | .within manager => do
    let _ ← leave ev manager none
    return .goOn .goOn k
  | .delegating received source => do
    try
      let value ← ev.call (.provided "next") [source] []
      return .handOut value "" (c :: k)
    catch raised =>
      if ← isRaised raised "StopIteration" then
        storeName f received (← lastValue raised)
        return .goOn .goOn k
      else throw raised

/-- Deal with an exception at a continuation. -/
def unwind (ev : Evaluator) (f : Frame) (e : Value) (c : Continuation) (k : List Continuation) :
    Act Outcome := do
  let on := Outcome.goOn (.raised e) k
  match c with
  | .guarded handlers _ always =>
    match ← handlerFor ev f e handlers with
    | none => return .goOn (.raised e) (.closing always :: k)
    | some (name, body) =>
      modify fun s => { s with handled := e :: s.handled }
      match name with
      | some n => storeName f n e
      | none => pure ()
      return .goOn .goOn (.block body :: .handling name :: .closing always :: k)
  | .closing always => return .goOn .goOn (.block always :: .resuming (.raised e) :: k)
  | .handling name => do
    dealtWith f name
    return on
  | .within manager =>
    if ← leave ev manager (some e) then return .goOn .goOn k else return on
  | _ => return on

/-- Leave a continuation with a signal that is no exception. -/
def abandon (ev : Evaluator) (f : Frame) (signal : Signal) (c : Continuation)
    (k : List Continuation) : Act Outcome := do
  let on := Outcome.goOn signal k
  match c, signal with
  | .loop .., .leavingLoop | .each .., .leavingLoop => return .goOn .goOn k
  | .loop .., .nextRound | .each .., .nextRound => return .goOn .goOn (c :: k)
  | .guarded _ _ always, _ | .closing always, _ =>
    return .goOn .goOn (.block always :: .resuming signal :: k)
  | .handling name, _ => do
    dealtWith f name
    return on
  | .within manager, _ => do
    let _ ← leave ev manager none
    return on
  | _, _ => return on

/-- One step.  An exception in it becomes its signal. -/
def stepOnce (ev : Evaluator) (run : Frame → List Continuation → Act Unit) (f : Frame)
    (signal : Signal) (c : Continuation) (k : List Continuation) : Act Outcome := do
  tick
  try
    match signal with
    | .goOn => proceed ev run f c k
    | .raised e => unwind ev f e c k
    | signal => abandon ev f signal c k
  catch raised =>
    match raised, c with
    | .exception e, .guarded _ _ always => return .goOn (.raised e) (.closing always :: k)
    | .exception e, _ => return .goOn (.raised e) k
    | .ended ending, _ => throw (.ended ending)

/-- How a piece of code was left. -/
inductive Left where
  | ended (signal : Signal)
  | handedOut (value : Value) (received : String) (rest : List Continuation)

/-- Step until the piece of code is left. -/
def steps (ev : Evaluator) (run : Frame → List Continuation → Act Unit) (f : Frame) :
    Nat → Signal → List Continuation → Act Left
  | _, signal, [] => return .ended signal
  | 0, _, _ => throw (.ended (.killed 9))
  | n + 1, signal, c :: k => do
    match ← stepOnce ev run f signal c k with
    | .goOn signal rest => steps ev run f n signal rest
    | .handOut value received rest => return .handedOut value received rest

/-- The most steps that a piece of code takes at a time. -/
def longestRun : Nat := 1000000000

/-- How deep the bodies of classes are nested in one another at most. -/
def deepestClass : Nat := 50

/-- Run the body of a class to its end. -/
def runBody (ev : Evaluator) : Nat → Frame → List Continuation → Act Unit
  | 0, _, _ => fail "RecursionError" "maximum recursion depth exceeded"
  | n + 1, f, k => do
    match ← steps ev (runBody ev n) f longestRun .goOn k with
    | .ended (.raised e) => throw (.exception e)
    | _ => return ()

/-- Run a piece of code until it is left. -/
def runFrame (ev : Evaluator) (f : Frame) (signal : Signal) (k : List Continuation) : Act Left :=
  steps ev (runBody ev deepestClass) f longestRun signal k

/-- Run the statements of a module. -/
def runModule (ev : Evaluator) (f : Frame) (body : List Stmt) : Act Unit :=
  runBody ev deepestClass f [.block body]

/-! ## Functions and generators -/

/-- How many functions may be run inside one another. -/
def deepestCall : Nat := 990

/-- Call a function that a program defines. -/
def callFunction (ev : Evaluator) (fn : Function) (args : List Value)
    (named : List (String × Value)) : Act Value := do
  let frame ← enter fn args named
  if fn.code.names.generates then
    make (.generator frame [.block fn.code.body] .fresh)
  else
    let s ← get
    if deepestCall ≤ s.depth then
      fail "RecursionError" "maximum recursion depth exceeded"
    set { s with depth := s.depth + 1 }
    let left ← try runFrame ev frame .goOn [.block fn.code.body] catch raised => do
      modify fun t => { t with depth := s.depth }
      throw raised
    modify fun t => { t with depth := s.depth, handled := s.handled }
    match left with
    | .ended (.returned v) => return v
    | .ended (.raised e) => throw (.exception e)
    | _ => return .none

/-- Take a generator up again: with a value that comes back, or with an exception. -/
def resume (ev : Evaluator) (address : Nat) (signal : Signal) (sent : Value) : Act Value := do
  match ← object? address with
  | some (.generator f k progress) =>
    let received ← match progress with
      | .fresh => pure ""
      | .waiting n => pure n
      | .running => fail "ValueError" "generator already executing"
      | .finished =>
        match signal with
        | .raised e => throw (.exception e)
        | _ => failWith "StopIteration" []
    if !received.isEmpty then setName f.locals received sent
    let k := match progress, signal with
      | .fresh, .raised _ => []
      | _, _ => k
    replace address (.generator f [] .running)
    let s ← get
    let left ← try runFrame ev f signal k catch raised => do
      replace address (.generator f [] .finished)
      throw raised
    modify fun t => { t with handled := s.handled }
    match left with
    | .handedOut value received rest =>
      replace address (.generator f rest (.waiting received))
      return value
    | .ended signal =>
      replace address (.generator f [] .finished)
      match signal with
      | .raised e =>
        if ← isA e "StopIteration" then fail "RuntimeError" "generator raised StopIteration"
        else throw (.exception e)
      | .returned .none | .goOn => failWith "StopIteration" []
      | .returned v => failWith "StopIteration" [v]
      | _ => failWith "StopIteration" []
  | _ => failWith "StopIteration" []

end Handover.Interpreter
