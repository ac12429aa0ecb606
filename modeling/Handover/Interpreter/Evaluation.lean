/-
  Evaluation and calls together.

  Everything that the interpreter does is built on evaluating an expression and on calling a value,
  and each of them needs both.  The knot is tied by levels: whatever happens inside an evaluation or
  a call is done by the level below, and the lowest level does nothing but fail.
-/
import Handover.Interpreter.Loading
import Handover.Interpreter.Provided.Bytes

namespace Handover.Interpreter

/-! ## Calls of what is provided -/

/-- A function to be called at the end. -/
def exitFunction (name : String) (g : Given) : Act Value := do
  match name with
  | "register" =>
    modify fun s => { s with
      exitCalls := (g.first, g.byPlace.drop 1, g.byName) :: s.exitCalls }
    return g.first
  | "unregister" =>
    modify fun s => { s with exitCalls := s.exitCalls.filter fun e => !e.1.same g.first }
    return .none
  | _ => return .none

/-- Call a provided function: one that every module knows, one of a module, or a method. -/
def callProvided (ev : Evaluator) (name : String) (g : Given) : Act Value := do
  let parts := name.splitOn "."
  let owner := parts.headD ""
  let own := parts.getLastD ""
  if parts.length < 2 then commonFunction ev name g
  else
    match owner with
    | "os" => osFunction ev own g
    | "posixpath" => pathFunction ev own g
    | "sys" => sysFunction own g
    | "time" => timeFunction own
    | "signal" => signalFunction ev own g
    | "json" => jsonFunction ev own g
    | "binascii" => binaryFunction ev own g
    | "math" => mathFunction ev own g
    | "operator" => operatorFunction ev own g
    | "importlib" => loadingFunction ev own g
    | "atexit" => exitFunction own g
    | "gc" => return .none
    | kind =>
      if own = "__mod__" ∧ (kind = "str" ∨ kind = "bytes") then ownMethod ev kind own g.first g.rest
      else callMethod ev kind own g

/-! ## Calls -/

/-- A value cannot be called. -/
def refuseCall (v : Value) : Act Value := do
  let kind ← kindName v
  fail "TypeError" s!"'{kind}' object is not callable"

/-- Call a value. -/
def callValue (ev : Evaluator) (callee : Value) (args : List Value)
    (named : List (String × Value)) : Act Value := do
  match callee with
  | .provided name => callProvided ev name { byPlace := args, byName := named }
  | .kind k => construct ev k { byPlace := args, byName := named }
  | .bound self f => ev.call f (self :: args) named
  | .object address =>
    match ← object? address with
    | some (.function fn) => callFunction ev fn args named
    | some (.static f) => ev.call f args named
    | some (.cls _) =>
      match ← special? callee "__call__" with
      | some f => ev.call f (callee :: args) named
      | none => instantiate ev callee args named
    | some (.instance_ ..) =>
      match ← special? callee "__call__" with
      | some f =>
        match ← objectOf f with
        | some (.static f) => ev.call f args named
        | some (.function _) => ev.call f (callee :: args) named
        | _ => ev.call f args named
      | none => refuseCall callee
    | _ => refuseCall callee
  | v => refuseCall v

/-! ## The knot -/

/-- Evaluation and calls that go a number of levels deep. -/
def evaluator : Nat → Evaluator
  | 0 =>
    { eval := fun _ _ => fail "RecursionError" "maximum recursion depth exceeded"
      call := fun _ _ _ => fail "RecursionError" "maximum recursion depth exceeded" }
  | n + 1 =>
    { eval := fun f e => do
        tick
        evaluate (evaluator n) f e
      call := fun callee args named => do
        tick
        callValue (evaluator n) callee args named }

/-- How many levels deep evaluation goes. -/
def deepestEvaluation : Nat := 20000

/-- Evaluation and calls of an interpreter. -/
def running : Evaluator := evaluator deepestEvaluation

/-- The most steps that a program takes. -/
def mostSteps : Nat := 50000000

end Handover.Interpreter
