/-
  Classes and the order in which an attribute is looked for in them.

  A class that is based on several others has one order of all classes above it: every class comes
  before those that it is based on, and the order among these is kept.  Where no such order exists
  the class cannot be made.
-/
import Handover.Interpreter.Kind
import Handover.Interpreter.State

namespace Handover.Interpreter

/-- The provided class of a stream. -/
def Stream.kind (s : Stream) : String :=
  match s.channel, s.binary with
  | .memory, true => "BytesIO"
  | .memory, false => "StringIO"
  | .input, true => "BufferedReader"
  | _, true => if s.writable then "BufferedWriter" else "BufferedReader"
  | _, false => "TextIOWrapper"

/-- The provided class of a part of a dictionary. -/
def ViewPart.kind : ViewPart → String
  | .keys => "dict_keys"
  | .values => "dict_values"
  | .items => "dict_items"

/-- The provided class of an iterator. -/
def Iterator.kind : Iterator → String
  | .list .. => "list_iterator"
  | .numbers .. => "range_iterator"
  | .counted .. => "enumerate"
  | .together .. => "zip"
  | .mapped .. => "map"
  | .filtered .. => "filter"
  | _ => "iterator"

/-- The class of an object. -/
def Object.kind : Object → Value
  | .list _ => .kind "list"
  | .dict _ => .kind "dict"
  | .set _ frozen => .kind (if frozen then "frozenset" else "set")
  | .byteArray _ => .kind "bytearray"
  | .function _ => .kind "function"
  | .cls c => c.maker
  | .instance_ kind .. => kind
  | .module .. => .kind "module"
  | .generator .. => .kind "generator"
  | .iterator it => .kind it.kind
  | .property .. => .kind "property"
  | .static _ => .kind "staticmethod"
  | .ofClass _ => .kind "classmethod"
  | .view part _ => .kind part.kind
  | .stream s => .kind s.kind
  | .above .. => .kind "super"

/-- The class of a value. -/
def classOf (v : Value) : Act Value := do
  match v with
  | .none => return .kind "NoneType"
  | .bool _ => return .kind "bool"
  | .int _ => return .kind "int"
  | .float _ => return .kind "float"
  | .text _ => return .kind "str"
  | .bytes _ => return .kind "bytes"
  | .tuple _ => return .kind "tuple"
  | .range .. => return .kind "range"
  | .slice .. => return .kind "slice"
  | .ellipsis => return .kind "ellipsis"
  | .notImplemented => return .kind "NotImplementedType"
  | .provided _ => return .kind "builtin_function_or_method"
  | .kind _ => return .kind "type"
  | .bound _ (.provided _) => return .kind "builtin_function_or_method"
  | .bound .. => return .kind "method"
  | .object address =>
    match ← object? address with
    | some o => return o.kind
    | none => return .kind "object"

/-- The classes in which an attribute of a class is looked for, itself the first. -/
def orderOf (cls : Value) : Act (List Value) := do
  match cls with
  | .kind k => return (Kind.order k).map .kind
  | v =>
    match ← objectOf v with
    | some (.cls c) => return c.order
    | _ => return [.kind "object"]

/-- The name of a class. -/
def className (cls : Value) : Act String := do
  match cls with
  | .kind k => return k
  | v =>
    match ← objectOf v with
    | some (.cls c) => return c.name
    | _ => return "object"

/-- The name of the class of a value. -/
def kindName (v : Value) : Act String := do className (← classOf v)

/-- The value is a class. -/
def isClass (v : Value) : Act Bool := do
  match v with
  | .kind _ => return true
  | v =>
    match ← objectOf v with
    | some (.cls _) => return true
    | _ => return false

/-- A class is another one or stands below it. -/
def isBelow (cls above : Value) : Act Bool := do return (← orderOf cls).any above.same

/-- A value belongs to a class. -/
def isOf (v cls : Value) : Act Bool := do isBelow (← classOf v) cls

/-- A value belongs to a provided class. -/
def isA (v : Value) (kind : String) : Act Bool := isOf v (.kind kind)

/-- A value without the class around it, if that is based on a provided one. -/
def plain (v : Value) : Act Value := do
  match ← objectOf v with
  | some (.instance_ _ _ payload) =>
    match payload with
    | .none => return v
    | payload => return payload
  | _ => return v

/-- The object of a value without the class around it. -/
def plainObject (v : Value) : Act (Option Object) := do objectOf (← plain v)

/-! ## Merging -/

/-- A class stands behind the first place of some list. -/
def isLater (lists : List (List Value)) (cls : Value) : Bool :=
  lists.any fun l => (l.drop 1).any cls.same

/-- One order that keeps the order of all lists, if there is one. -/
def mergeOrders : Nat → List (List Value) → Option (List Value)
  | 0, _ => none
  | fuel + 1, lists =>
    let lists := lists.filter fun l => !l.isEmpty
    if lists.isEmpty then some []
    else do
      let next ← (lists.filterMap List.head?).find? fun c => !isLater lists c
      let rest := lists.map fun l => if l.head?.any next.same then l.drop 1 else l
      return next :: (← mergeOrders fuel rest)

/-- The order of the classes above a new class, given those that it is based on. -/
def orderAbove (bases : List Value) : Act (Option (List Value)) := do
  let orders ← bases.mapM orderOf
  let size := orders.foldl (fun n o => n + o.length) bases.length
  return mergeOrders (size + 1) (orders ++ [bases])

/-- The provided class that a class is based on first, `object` apart. -/
def providedBase? (cls : Value) : Act (Option String) := do
  return (← orderOf cls).findSome? fun
    | .kind k => if k = "object" then none else some k
    | _ => none

/-! ## Attributes of classes -/

/-- What a class of an order has under a name, and that class. -/
def inOrder (name : String) : List Value → Act (Option (Value × Value))
  | [] => return none
  | cls :: rest => do
    let here ← match cls with
      | .kind k => pure (if Kind.hasMethod k name then some (.provided (k ++ "." ++ name)) else none)
      | v =>
        match ← objectOf v with
        | some (.cls c) => name? c.attributes name
        | _ => pure none
    match here with
    | some value => return some (value, cls)
    | none => inOrder name rest

/-- What a program has defined for a value under a name, unless a provided class comes before. -/
def special? (v : Value) (name : String) : Act (Option Value) := do
  match ← objectOf v with
  | some (.instance_ cls ..) | some (.cls { maker := cls, .. }) =>
    match ← inOrder name (← orderOf cls) with
    | some (.provided _, .kind _) | none => return none
    | some (value, _) => return some value
  | _ => return none

/-- Call a method that a program has defined for a value, if there is one. -/
def callSpecial? (ev : Evaluator) (v : Value) (name : String) (args : List Value) :
    Act (Option Value) := do
  match ← special? v name with
  | none => return none
  | some f =>
    match ← objectOf f with
    | some (.static f) => return some (← ev.call f args [])
    | some (.ofClass f) => return some (← ev.call f ((← classOf v) :: args) [])
    | _ => return some (← ev.call f (v :: args) [])

end Handover.Interpreter
