/-
  Going through values one after another.

  What can be gone through gives an iterator, and an iterator gives its next value until it has no
  more.  Iterators over other iterators ask these for their next values.
-/
import Handover.Interpreter.Attribute

namespace Handover.Interpreter

/-- Take a step; a program that takes too many is stopped. -/
def tick : Act Unit := do
  let s ← get
  match s.steps with
  | 0 => throw (.ended (.killed 9))
  | n + 1 => set { s with steps := n }

/-- A raised exception belongs to a provided class. -/
def isRaised (raised : Raised) (kind : String) : Act Bool := do
  match raised with
  | .exception v => isA v kind
  | .ended _ => return false

/-- The next value of an iterator, if it has one. -/
def nextOf (ev : Evaluator) (source : Value) : Act (Option Value) := do
  try
    return some (← ev.call (.provided "next") [source] [])
  catch raised =>
    if ← isRaised raised "StopIteration" then return none else throw raised

/-- The texts of one code point each. -/
def letters (text : CodePoints) : List Value := text.map fun n => .text [n]

/-- The items of a value that can be gone through without running anything. -/
def plainItems? (v : Value) : Act (Option (List Value)) := do
  match v with
  | .tuple items => return some items
  | .text t => return some (letters t)
  | .bytes b => return some (b.map fun x => .ofNat x.toNat)
  | .range a b c => return some (Value.rangeItems a b c)
  | v =>
    match ← objectOf v with
    | some (.list items) | some (.set items _) => return some items
    | some (.dict entries) => return some (entries.map Prod.fst)
    | some (.byteArray b) => return some (b.map fun x => .ofNat x.toNat)
    | some (.view part dict) =>
      let entries ← entriesAt dict
      return some <| match part with
        | .keys => entries.map Prod.fst
        | .values => entries.map Prod.snd
        | .items => entries.map fun e => .tuple [e.1, e.2]
    | _ => return none

/-- An iterator over a value. -/
def iterOf (ev : Evaluator) (v : Value) : Act Value := do
  match ← callSpecial? ev v "__iter__" [] with
  | some it => return it
  | none =>
    let bare ← plain v
    match bare with
    | .range a b c => make (.iterator (.numbers a b c))
    | bare =>
      match bare, ← objectOf bare with
      | .object address, some (.list _) => make (.iterator (.list address 0))
      | _, some (.iterator _) | _, some (.generator ..) | _, some (.stream _) => return bare
      | _, _ =>
        match ← plainItems? bare with
        | some items => make (.iterator (.values items))
        | none =>
          if (← special? v "__getitem__").isSome then make (.iterator (.items v 0))
          else if (← special? v "__next__").isSome then return v
          else
            let kind ← kindName v
            fail "TypeError" s!"'{kind}' object is not iterable"

/-- The next values of several iterators, if all have one; else how many had one. -/
def nextOfAll (ev : Evaluator) : List Value → Act (List Value × Bool)
  | [] => return ([], true)
  | source :: rest => do
    match ← nextOf ev source with
    | none => return ([], false)
    | some value => do
      let (more, all) ← nextOfAll ev rest
      return (value :: more, all)

/-- The first value that a function accepts, within a number of tries. -/
def nextAccepted (ev : Evaluator) (function source : Value) : Nat → Act (Option Value)
  | 0 => return none
  | n + 1 => do
    match ← nextOf ev source with
    | none => return none
    | some value =>
      let answer ← if function.isNone then pure value else ev.call function [value] []
      match ← ev.call (.kind "bool") [answer] [] with
      | .bool true => return some value
      | _ => nextAccepted ev function source n

/-- The most values that one search goes through. -/
def longestSearch : Nat := 1000000

/-- The next value of an iterator at an address, and the iterator after it. -/
def advance (ev : Evaluator) (it : Iterator) : Act (Option (Value × Iterator)) := do
  tick
  match it with
  | .values [] => return none
  | .values (v :: rest) => return some (v, .values rest)
  | .list address next =>
    match ← object? address with
    | some (.list items) => return items[next]?.map fun v => (v, .list address (next + 1))
    | _ => return none
  | .numbers next stop step =>
    if Value.rangeLength next stop step = 0 then return none
    else return some (.int next, .numbers (next + step) stop step)
  | .counted source next =>
    return (← nextOf ev source).map fun v =>
      (.tuple [.int next, v], .counted source (next + 1))
  | .together [] _ => return none
  | .together sources strict =>
    match ← nextOfAll ev sources with
    | (values, true) => return some (.tuple values, it)
    | (values, false) =>
      if strict then
        let uneven ←
          if !values.isEmpty then pure true
          else pure (← nextOfAll ev ((sources.drop 1).take 1)).2
        if uneven && sources.length != 1 then
          fail "ValueError" "zip() argument 2 is shorter than argument 1"
      return none
  | .mapped function sources =>
    match ← nextOfAll ev sources with
    | (values, true) => return some (← ev.call function values [], it)
    | _ => return none
  | .filtered function source =>
    return (← nextAccepted ev function source longestSearch).map fun v => (v, it)
  | .calls function last =>
    let value ← ev.call function [] []
    match ← ev.call (.provided "operator.eq") [value, last] [] with
    | .bool true => return none
    | _ => return some (value, it)
  | .items owner next =>
    try
      let value ← ev.call (.provided "operator.getitem") [owner, .int next] []
      return some (value, .items owner (next + 1))
    catch raised =>
      if (← isRaised raised "IndexError") || (← isRaised raised "StopIteration") then return none
      else throw raised

/-- The next value of an iterator, if it has one; generators and what a program defines are left to
    a call. -/
def step (ev : Evaluator) (v : Value) : Act (Option Value) := do
  match v, ← objectOf v with
  | .object address, some (.iterator it) =>
    match ← advance ev it with
    | none =>
      replace address (.iterator (.values []))
      return none
    | some (value, rest) =>
      replace address (.iterator rest)
      return some value
  | _, _ => nextOf ev v

/-- All values that an iterator still gives, within a number of steps. -/
def drain (ev : Evaluator) (source : Value) : Nat → List Value → Act (List Value)
  | 0, done => return done.reverse
  | n + 1, done => do
    match ← step ev source with
    | none => return done.reverse
    | some v => drain ev source n (v :: done)

/-- All items of a value. -/
def itemsOf (ev : Evaluator) (v : Value) : Act (List Value) := do
  let direct ← match ← special? v "__iter__" with
    | some _ => pure none
    | none => plainItems? (← plain v)
  match direct with
  | some items => return items
  | none => drain ev (← iterOf ev v) longestSearch []

end Handover.Interpreter
