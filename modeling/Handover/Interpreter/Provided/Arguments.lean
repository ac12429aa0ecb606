/-
  The arguments of what the interpreter provides.

  A provided function takes its arguments by place or by name, as its list of names tells; what
  stands in the list behind a name that was not given is `None`, or whatever the function takes it
  for.
-/
import Handover.Interpreter.Operation

namespace Handover.Interpreter

/-- The arguments of a call of a provided function. -/
structure Given where
  byPlace : List Value
  byName : List (String × Value) := []

namespace Given

/-- The argument at a place, or under a name. -/
def get? (g : Given) (place : Nat) (name : String) : Option Value :=
  match g.byPlace[place]? with
  | some v => some v
  | none => (g.byName.find? fun e => e.1 == name).map Prod.snd

/-- The argument at a place, or under a name; `None` if it is not given. -/
def get (g : Given) (place : Nat) (name : String) : Value := (g.get? place name).getD .none

/-- The argument that is given by name alone. -/
def named? (g : Given) (name : String) : Option Value :=
  (g.byName.find? fun e => e.1 == name).map Prod.snd

/-- The argument at a place. -/
def at_ (g : Given) (place : Nat) : Value := g.byPlace.getD place .none

/-- The first argument. -/
def first (g : Given) : Value := g.at_ 0

/-- The arguments without the first one. -/
def rest (g : Given) : Given := { g with byPlace := g.byPlace.drop 1 }

end Given

/-- The whole number that an argument stands for. -/
def intOf (ev : Evaluator) (v : Value) : Act Int := do
  match ← index? ev v with
  | some n => return n
  | none =>
    let kind ← kindName v
    fail "TypeError" s!"'{kind}' object cannot be interpreted as an integer"

/-- The whole number that an argument stands for, or another one if it is not given. -/
def intOr (ev : Evaluator) (v : Value) (default : Int) : Act Int := do
  if v.isNone then return default else intOf ev v

/-- The text of an argument. -/
def textArgument (what : String) (v : Value) : Act CodePoints := do
  match ← plain v with
  | .text t => return t
  | _ =>
    let kind ← kindName v
    fail "TypeError" s!"{what} must be str, not {kind}"

/-- The name in an argument. -/
def nameArgument (what : String) (v : Value) : Act String := do
  return (← textArgument what v).display

/-- The number of double precision that an argument stands for. -/
def floatOf (ev : Evaluator) (v : Value) : Act Float := do
  match (← plain v).float? with
  | some x => return x
  | none =>
    match ← callSpecial? ev v "__float__" [] with
    | some (.float x) => return x
    | _ =>
      let kind ← kindName v
      fail "TypeError" s!"must be real number, not {kind}"

/-- A path that an argument stands for, as a text or as bytes. -/
def pathValue (ev : Evaluator) (v : Value) : Act Value := do
  match ← plain v with
  | .text t => return .text t
  | .bytes b => return .bytes b
  | _ =>
    match ← callSpecial? ev v "__fspath__" [] with
    | some p => plain p
    | none =>
      let kind ← kindName v
      fail "TypeError" s!"expected str, bytes or os.PathLike object, not {kind}"

/-- A text cannot be written in bytes. -/
def refuseEncoding {α : Type} (codec reason : String) (text : CodePoints) (at_ : Nat) : Act α :=
  failWith "UnicodeEncodeError"
    [.ofString codec, .text text, .ofNat at_, .ofNat (at_ + 1), .ofString reason]

/-- The bytes of a path. -/
def pathBytes (ev : Evaluator) (v : Value) : Act Path := do
  match ← pathValue ev v with
  | .bytes b => return b
  | .text t =>
    match CodePoints.encodeWith none .surrogateEscape t with
    | .ok b => return b
    | .error at_ => refuseEncoding "utf-8" "surrogates not allowed" t at_
  | _ => return []

/-- The class of the errors of the system with a number. -/
def systemErrorKind (n : Int) : String :=
  if n = 1 ∨ n = 13 then "PermissionError"
  else if n = 2 then "FileNotFoundError"
  else if n = 3 then "ProcessLookupError"
  else if n = 4 then "InterruptedError"
  else if n = 10 then "ChildProcessError"
  else if n = 11 ∨ n = 114 ∨ n = 115 then "BlockingIOError"
  else if n = 17 then "FileExistsError"
  else if n = 20 then "NotADirectoryError"
  else if n = 21 then "IsADirectoryError"
  else if n = 32 ∨ n = 108 then "BrokenPipeError"
  else if n = 103 then "ConnectionAbortedError"
  else if n = 104 then "ConnectionResetError"
  else if n = 110 then "TimeoutError"
  else if n = 111 then "ConnectionRefusedError"
  else "OSError"

/-- Fail with an error of the system about a path. -/
def failSystem {α : Type} (e : OsError) (about : List Value) : Act α := do
  match e with
  | .code n =>
    let kind := systemErrorKind n
    let exception ← makeException kind [.int n, .ofString (OsError.text n)]
    match ← objectOf exception, about with
    | some (.instance_ _ attributes _), file :: _ => setName attributes "filename" file
    | _, _ => pure ()
    throw (.exception exception)
  | e =>
    if e = .zeroByte then fail "ValueError" "embedded null byte" else fail "OSError" e.message

end Handover.Interpreter
