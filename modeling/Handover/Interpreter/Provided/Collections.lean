/-
  The methods of lists, tuples, dictionaries and sets.
-/
import Handover.Interpreter.Provided.Arguments

namespace Handover.Interpreter

/-! ## Sorting -/

/-- Put a value with its key into a sorted list, behind those that are not greater. -/
def insertSorted (ev : Evaluator) (item : Value × Value) :
    List (Value × Value) → Act (List (Value × Value))
  | [] => return [item]
  | other :: rest => do
    if ← truth ev (← compare ev .less item.1 other.1) then return item :: other :: rest
    else return other :: (← insertSorted ev item rest)

/-- Sort values by their keys.  Values with equal keys keep their order. -/
def sortValues (ev : Evaluator) (key : Value) (reverse : Bool) (items : List Value) :
    Act (List Value) := do
  let items := if reverse then items.reverse else items
  let keyed ← items.mapM fun v => do
    let k ← if key.isNone then pure v else ev.call key [v] []
    return (k, v)
  let sorted ← keyed.foldlM (fun done item => insertSorted ev item done) []
  let values := sorted.map Prod.snd
  return if reverse then values.reverse else values

/-! ## Lists and tuples -/

/-- The place of a value among others. -/
def placeAmong (ev : Evaluator) (v : Value) : Nat → List Value → Act (Option Nat)
  | _, [] => return none
  | n, w :: rest => do
    if ← equal ev w v then return some n else placeAmong ev v (n + 1) rest

/-- How often a value is among others. -/
def countAmong (ev : Evaluator) (v : Value) (items : List Value) : Act Value := do
  return .ofNat (← items.filterM fun w => equal ev w v).length

/-- The place of a value between two limits. -/
def indexAmong (ev : Evaluator) (what : String) (items : List Value) (g : Given) : Act Value := do
  let (first, _, count) ← sliceOf ev items.length (g.at_ 1) (g.at_ 2) .none
  match ← placeAmong ev g.first first.toNat (pick items first 1 count) with
  | some n => return .ofNat n
  | none =>
    let text ← reprOf ev g.first
    fail "ValueError" (text.display ++ " is not in " ++ what)

/-- Carry out a method of a list. -/
def listMethod (ev : Evaluator) (address : Nat) (items : List Value) (method : String)
    (g : Given) : Act Value := do
  let put := fun (items : List Value) => do
    replace address (.list items)
    return Value.none
  match method with
  | "append" => put (items ++ [g.first])
  | "extend" => do
    let more ← itemsOf ev g.first
    put (items ++ more)
  | "insert" => do
    let n ← intOf ev g.first
    let n := if n < 0 then max (n + items.length) 0 else n
    put (items.take n.toNat ++ (g.at_ 1) :: items.drop n.toNat)
  | "pop" => do
    if items.isEmpty then fail "IndexError" "pop from empty list"
    let n ← placeOf ev "pop" items.length (if g.byPlace.isEmpty then .int (-1) else g.first)
    replace address (.list (items.eraseIdx n))
    return items.getD n .none
  | "remove" => do
    match ← placeAmong ev g.first 0 items with
    | some n => put (items.eraseIdx n)
    | none => fail "ValueError" "list.remove(x): x not in list"
  | "clear" => put []
  | "copy" => makeList items
  | "reverse" => put items.reverse
  | "sort" => do
    let reverse ← truth ev ((g.named? "reverse").getD .none)
    put (← sortValues ev ((g.named? "key").getD .none) reverse items)
  | "count" => countAmong ev g.first items
  | "index" => indexAmong ev "list" items g
  | m => fail "AttributeError" s!"'list' object has no attribute '{m}'"

/-! ## Dictionaries -/

/-- The entries that an argument brings to a dictionary. -/
def entriesGiven (ev : Evaluator) (v : Value) : Act Entries := do
  if v.isNone then return []
  else if (← dictOf? v).isSome || (← attribute? ev v "keys").isSome then entriesOf ev v
  else
    (← itemsOf ev v).mapM fun pair => do
      match ← itemsOf ev pair with
      | [k, w] => return (← keyOf k, w)
      | items =>
        fail "ValueError"
          s!"dictionary update sequence element has length {items.length}; 2 is required"
where
  /-- The entries of a value that is like a dictionary. -/
  entriesOf (ev : Evaluator) (v : Value) : Act Entries := do
    match ← special? v "keys", ← dictOf? v with
    | none, some entries => return entries
    | _, _ =>
      let keys ← itemsOf ev (← ev.call (← attributeOf ev v "keys") [] [])
      keys.mapM fun k => do return (← keyOf k, ← itemOf ev v k)

/-- A dictionary with the entries of a call. -/
def dictWith (ev : Evaluator) (entries : Entries) (g : Given) : Act Entries := do
  let more ← entriesGiven ev g.first
  return mergeEntries (mergeEntries entries more)
    (g.byName.map fun e => (.ofString e.1, e.2))

/-- Carry out a method of a dictionary. -/
def dictMethod (ev : Evaluator) (address : Nat) (entries : Entries) (method : String)
    (g : Given) : Act Value := do
  let put := fun (entries : Entries) => do
    replace address (.dict entries)
    return Value.none
  match method with
  | "get" => return (entries.find? (← keyOf g.first)).getD (g.at_ 1)
  | "keys" => make (.view .keys address)
  | "values" => make (.view .values address)
  | "items" => make (.view .items address)
  | "copy" => makeDict entries
  | "clear" => put []
  | "update" => do
    let merged ← dictWith ev entries g
    put merged
  | "setdefault" => do
    let key ← keyOf g.first
    match entries.find? key with
    | some v => return v
    | none =>
      let _ ← put (entries.put key (g.at_ 1))
      return g.at_ 1
  | "pop" => do
    let key ← keyOf g.first
    match entries.find? key, g.get? 1 "default" with
    | some v, _ =>
      let _ ← put (entries.erase key)
      return v
    | none, some v => return v
    | none, none => failWith "KeyError" [g.first]
  | "popitem" =>
    match entries.getLast? with
    | some (k, v) =>
      let _ ← put entries.dropLast
      return .tuple [k, v]
    | none => fail "KeyError" "popitem(): dictionary is empty"
  | m => fail "AttributeError" s!"'dict' object has no attribute '{m}'"

/-! ## Sets -/

/-- The items of an argument as keys. -/
def keysOf (ev : Evaluator) (v : Value) : Act (List Value) := do (← itemsOf ev v).mapM keyOf

/-- Carry out a method of a set. -/
def setMethod (ev : Evaluator) (address : Nat) (items : List Value) (frozen : Bool)
    (method : String) (g : Given) : Act Value := do
  let put := fun (items : List Value) => do
    replace address (.set items frozen)
    return Value.none
  let all := fun (o : Operator) => do
    let others ← g.byPlace.mapM (keysOf ev)
    return others.foldl (fun items other => (setOperator? o items other).getD items) items
  let within := fun (s t : List Value) => s.all fun x => t.any x.same
  match method with
  | "add" => do
    let key ← keyOf g.first
    if items.any key.same then return .none else put (items ++ [key])
  | "discard" => do
    let key ← keyOf g.first
    put (items.filter fun x => !x.same key)
  | "remove" => do
    let key ← keyOf g.first
    if items.any key.same then put (items.filter fun x => !x.same key)
    else failWith "KeyError" [g.first]
  | "pop" =>
    match items with
    | x :: rest =>
      let _ ← put rest
      return x
    | [] => fail "KeyError" "pop from an empty set"
  | "clear" => put []
  | "copy" => make (.set items frozen)
  | "union" => make (.set (← all .bitOr) frozen)
  | "intersection" => make (.set (← all .bitAnd) frozen)
  | "difference" => make (.set (← all .subtract) frozen)
  | "symmetric_difference" => make (.set (← all .bitXor) frozen)
  | "update" => put (← all .bitOr)
  | "intersection_update" => put (← all .bitAnd)
  | "difference_update" => put (← all .subtract)
  | "symmetric_difference_update" => put (← all .bitXor)
  | "issubset" => return .bool (within items (← keysOf ev g.first))
  | "issuperset" => return .bool (within (← keysOf ev g.first) items)
  | "isdisjoint" => do
    let other ← keysOf ev g.first
    return .bool !(items.any fun x => other.any x.same)
  | m => fail "AttributeError" s!"'set' object has no attribute '{m}'"

end Handover.Interpreter
