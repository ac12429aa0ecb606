/-
  The events that the launcher reports while it works, as data.

  Every event has a level, a target, a fixed message and a few fields.  `Step` is the wider notion
  on which the laws of the search are stated: besides the events, what the host was asked and
  which programs were started.
-/
import Handover.Candidate
import Handover.Host.Scheme
import Handover.Launch.Handoff

namespace Handover

/-- What the launcher reports. -/
inductive Event where
  /-- A candidate was looked at. -/
  | probed (kind : CandidateKind) (path : Path) (found : Bool)
  /-- The user scheme was chosen. -/
  | userSchemeSelected (scheme : Host.Scheme)
  /-- There is no package directory to look beside. -/
  | packageRootUnknown
  /-- The search ended with a file. -/
  | resolved (kind : CandidateKind) (path : Path)
  /-- The executable is about to be run. -/
  | handingOff (mode : Handoff) (path : Path) (argCount : Nat)
  /-- An interpreter ended as one that is not really there. -/
  | exitedAsNotInstalled (interpreter : String) (exitCode : Int)
  /-- An interpreter is not there. -/
  | interpreterUnavailable (interpreter : String)
  /-- An interpreter gave its answer. -/
  | configurationLoaded (interpreter : String)
  /-- The answer is no table of settings. -/
  | documentUnreadable (reason : String)
  /-- A member of the answer is of the wrong kind. -/
  | documentIllTyped (reason : String)
deriving Repr, DecidableEq

/-- How much an event matters. -/
inductive Level where
  | debug
  | info
  | error
deriving Repr, DecidableEq

/-- The level in a report. -/
def Level.name : Level → String
  | .debug => "DEBUG"
  | .info => "INFO"
  | .error => "ERROR"

/-- The value of a field. -/
inductive FieldValue where
  | text (s : String)
  | flag (b : Bool)
  | number (n : Int)
deriving Repr, DecidableEq

namespace Event

/-- The level of an event. -/
def level : Event → Level
  | .resolved .. | .configurationLoaded .. => .info
  | .documentUnreadable .. | .documentIllTyped .. => .error
  | _ => .debug

/-- The part of the launcher that an event belongs to. -/
def target : Event → String
  | .probed .. | .userSchemeSelected .. | .packageRootUnknown | .resolved .. =>
    "pymermaider_launcher::resolver"
  | .handingOff .. => "pymermaider_launcher::launcher"
  | _ => "pymermaider_launcher::host"

/-- The message of an event. -/
def message : Event → String
  | .probed .. => "Probed candidate executable"
  | .userSchemeSelected .. => "Selected user installation scheme"
  | .packageRootUnknown => "Package root unknown; skipping adjacent bin directory"
  | .resolved .. => "Resolved executable"
  | .handingOff .. => "Handing off to resolved executable"
  | .exitedAsNotInstalled .. => "Interpreter exited as not installed"
  | .interpreterUnavailable .. => "Interpreter not available; trying the next one"
  | .configurationLoaded .. => "Loaded host installation configuration"
  | .documentUnreadable .. => "Failed to read host configuration"
  | .documentIllTyped .. => "Failed to deserialize host configuration"

/-- The fields of an event. -/
def fields : Event → List (String × FieldValue)
  | .probed kind path found =>
    [("candidate", .text kind.name), ("path", .text (Path.display path)), ("found", .flag found)]
  | .userSchemeSelected scheme => [("scheme", .text scheme.display)]
  | .packageRootUnknown => []
  | .resolved kind path =>
    [("candidate", .text kind.name), ("path", .text (Path.display path))]
  | .handingOff mode path argCount =>
    [("mode", .text mode.name), ("path", .text (Path.display path)), ("arg_count", .number argCount)]
  | .exitedAsNotInstalled interpreter exitCode =>
    [("interpreter", .text interpreter), ("exit_code", .number exitCode)]
  | .interpreterUnavailable interpreter | .configurationLoaded interpreter =>
    [("interpreter", .text interpreter)]
  | .documentUnreadable reason | .documentIllTyped reason => [("reason", .text reason)]

end Event

/-- A program and its arguments, the program's own name not counted among them. -/
structure Command where
  program : Path
  args : List Bytes
deriving Repr, DecidableEq

/-- The argument vector that a command gives to its program: argument zero is the program. -/
def Command.argv (c : Command) : List Bytes := c.program :: c.args

/-- What the launcher does that can be seen from outside. -/
inductive Step where
  /-- The scripts directory of a scheme is asked for. -/
  | askedScriptsDir (scheme : Host.Scheme)
  /-- The package directory is asked for. -/
  | askedPackageRoot
  /-- An interpreter is started. -/
  | started (command : Command)
  /-- A program is to take over. -/
  | handedOver (mode : Handoff) (command : Command)
  /-- An event is reported. -/
  | emitted (event : Event)
deriving Repr, DecidableEq

/-- The event of a step. -/
def Step.event? : Step → Option Event
  | .emitted event => some event
  | _ => none

/-- The scheme that a step asks for. -/
def Step.scheme? : Step → Option Host.Scheme
  | .askedScriptsDir scheme => some scheme
  | _ => none

/-- A value, and the steps on the way to it. -/
structure Traced (α : Type) where
  steps : List Step
  value : α
deriving Repr

namespace Traced

/-- A value reached without a step. -/
def pure {α : Type} (a : α) : Traced α := ⟨[], a⟩

/-- One thing after another. -/
def bind {α β : Type} (x : Traced α) (f : α → Traced β) : Traced β :=
  let y := f x.value
  ⟨x.steps ++ y.steps, y.value⟩

instance : Monad Traced where
  pure := Traced.pure
  bind := Traced.bind

/-- One step. -/
def step (s : Step) : Traced Unit := ⟨[s], ()⟩

/-- One event. -/
def emit (e : Event) : Traced Unit := step (.emitted e)

/-- The events among the steps. -/
def events {α : Type} (x : Traced α) : List Event := x.steps.filterMap Step.event?

/-- The schemes whose directories were asked for. -/
def asked {α : Type} (x : Traced α) : List Host.Scheme := x.steps.filterMap Step.scheme?

@[simp] theorem pure_value {α : Type} (a : α) : (Pure.pure a : Traced α).value = a := rfl

@[simp] theorem pure_steps {α : Type} (a : α) : (Pure.pure a : Traced α).steps = [] := rfl

@[simp] theorem bind_value {α β : Type} (x : Traced α) (f : α → Traced β) :
    (x >>= f).value = (f x.value).value := rfl

@[simp] theorem bind_steps {α β : Type} (x : Traced α) (f : α → Traced β) :
    (x >>= f).steps = x.steps ++ (f x.value).steps := rfl

@[simp] theorem step_steps (s : Step) : (step s).steps = [s] := rfl

@[simp] theorem step_value (s : Step) : (step s).value = () := rfl

@[simp] theorem emit_steps (e : Event) : (emit e).steps = [.emitted e] := rfl

end Traced

end Handover
