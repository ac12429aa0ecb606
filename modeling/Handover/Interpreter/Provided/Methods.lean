/-
  The methods of the classes that the interpreter provides.

  A method takes the value it belongs to as its first argument.  The methods that classes of several
  kinds have in common come first; they never ask the class of the value, so that a method of a
  program can call them for what stands above it.
-/
import Handover.Interpreter.Provided.Kinds

namespace Handover.Interpreter

open CodePoints (ofString)

/-! ## Methods that several classes have -/

/-- The operator of a method, and how the operands stand: in order, exchanged, or in place. -/
inductive OperandOrder where
  | plain
  | exchanged
  | inPlace

/-- The operator that a method carries out. -/
def operatorMethod? (method : String) : Option (Operator × OperandOrder) :=
  Operator.all.findSome? fun o =>
    if method = "__" ++ o.stem ++ "__" then some (o, .plain)
    else if method = "__r" ++ o.stem ++ "__" then some (o, .exchanged)
    else if method = "__i" ++ o.stem ++ "__" then some (o, .inPlace)
    else none

/-- The comparator of a method. -/
def comparatorMethod? (method : String) : Option Comparator :=
  [Comparator.less, .lessOrEqual, .greater, .greaterOrEqual].find? fun c => c.method == method

/-- A value whose class is left out of account. -/
def bareValue (v : Value) : Act Value := plain v

/-- Make a value of a class. -/
def newOf (ev : Evaluator) (cls : Value) (g : Given) : Act Value := do
  match cls with
  | .kind k => construct ev k g
  | cls => newInstance ev cls g.byPlace g.byName

/-- What a method that takes part in looking up gives. -/
def lookedUp (ev : Evaluator) (self : Value) (g : Given) : Act Value := do
  match ← objectOf self with
  | some (.property get ..) => if g.first.isNone then return self else ev.call get [g.first] []
  | some (.static f) => return f
  | some (.ofClass f) => return .bound (g.at_ 1) f
  | _ => if g.first.isNone then return self else return .bound g.first self

/-- Carry out a method for operators and comparisons. -/
def operatorMethod (ev : Evaluator) (method : String) (self : Value) (g : Given) :
    Act (Option Value) := do
  match operatorMethod? method, comparatorMethod? method with
  | some (o, .plain), _ => return some (← operateProvided ev o self g.first)
  | some (o, .exchanged), _ => return some (← operateProvided ev o g.first self)
  | some (o, .inPlace), _ => do
    let _ ← operateInPlace ev o (← bareValue self) g.first
    return some self
  | none, some c => do
    try return some (← orderedProvided ev c self g.first)
    catch raised =>
      if ← isRaised raised "TypeError" then return some .notImplemented else throw raised
  | none, none =>
    match method with
    | "__neg__" => return some (← operateUnary ev .negate (← bareValue self))
    | "__pos__" => return some (← operateUnary ev .plus (← bareValue self))
    | "__invert__" => return some (← operateUnary ev .invert (← bareValue self))
    | "__divmod__" => do
      let v ← bareValue self
      return some (.tuple [← operate ev .floorDivide v g.first, ← operate ev .remainder v g.first])
    | "__rdivmod__" => do
      let v ← bareValue self
      return some (.tuple [← operate ev .floorDivide g.first v, ← operate ev .remainder g.first v])
    | _ => return none

/-- Carry out a method that classes of several kinds have. -/
def sharedMethod (ev : Evaluator) (kind method : String) (self : Value) (g : Given) :
    Act (Option Value) := do
  match method with
  | "__len__" => return some (.ofNat (← lengthOfProvided self))
  | "__getitem__" => return some (← itemOfProvided ev self g.first)
  | "__setitem__" => do
    setItemOfProvided ev self g.first (g.at_ 1)
    return some .none
  | "__delitem__" => do
    eraseItemOfProvided ev self g.first
    return some .none
  | "__contains__" => return some (.bool (← containsProvided ev self g.first))
  | "__iter__" => return some (← iterOf ev (← bareValue self))
  | "__next__" => return some (← nextValue ev (← bareValue self))
  | "__reversed__" => return some (← reversedOf ev (← bareValue self))
  | "__eq__" =>
    if kind = "object" then
      return some (if self.isIdentical g.first then .bool true else .notImplemented)
    else return some (.bool (← equalProvided ev self g.first))
  | "__ne__" =>
    if kind = "object" then return some (.bool !(← equal ev self g.first))
    else return some (.bool !(← equalProvided ev self g.first))
  | "__str__" =>
    if ← isA self "BaseException" then return some (.text (← exceptionMessage ev self))
    else
      match ← bareValue self with
      | .text t => return some (.text t)
      | _ => return some (.text (← reprOf ev self))
  | "__repr__" =>
    match self with
    | .object address =>
      match ← object? address with
      | some o => return some (.text (← shownObject ev address o))
      | none => return some (.text [])
    | v => return some (.text (← shown ev v))
  | "__format__" =>
    match ← plain g.first with
    | .text t => return some (.text (← inForm ev (← bareValue self) t))
    | _ => return some (.text (← textOf ev self))
  | "__hash__" => return some (← hashOf ev (← bareValue self))
  | "__init__" => do
    setUp ev self g.byPlace g.byName
    return some .none
  | "__new__" => return some (← newOf ev self g)
  | "__setattr__" => do
    setAttributePlainly ev self (← nameArgument "attribute name" g.first) (g.at_ 1)
    return some .none
  | "__delattr__" => do
    eraseAttributePlainly self (← nameArgument "attribute name" g.first)
    return some .none
  | "__getattribute__" => return some (← attributeOf ev self (← nameArgument "attribute name" g.first))
  | "__dir__" => return some (← attributeNames ev self)
  | "__init_subclass__" | "__set_name__" => return some .none
  | "__subclasshook__" => return some .notImplemented
  | "__sizeof__" => return some (.int 64)
  | "__get__" => return some (← lookedUp ev self g)
  | m => operatorMethod ev m self g

/-! ## Methods of single classes -/

/-- Carry out a method of a class. -/
def kindMethod (ev : Evaluator) (cls : Value) (method : String) (g : Given) : Act Value := do
  match method with
  | "mro" => makeList (← orderOf cls)
  | "__call__" =>
    match cls with
    | .kind k => construct ev k g
    | cls => instantiate ev cls g.byPlace g.byName
  | "__instancecheck__" => return .bool (← isOf g.first cls)
  | "__subclasscheck__" => return .bool (← isBelow g.first cls)
  | "__subclasses__" => makeList []
  | m => fail "AttributeError" s!"type object has no attribute '{m}'"

/-- Carry out a method of a generator. -/
def generatorMethod (ev : Evaluator) (address : Nat) (method : String) (g : Given) : Act Value := do
  match method with
  | "send" => resume ev address .goOn g.first
  | "throw" => do
    let e ← match g.byPlace with
      | kind :: v :: _ =>
        if v.isNone then exceptionOf ev kind
        else if ← isA v "BaseException" then pure v
        else exceptionOf ev (← ev.call kind [v] [])
      | _ => exceptionOf ev g.first
    resume ev address (.raised e) .none
  | "close" => do
    let e ← makeException "GeneratorExit" []
    try
      let _ ← resume ev address (.raised e) .none
      fail "RuntimeError" "generator ignored GeneratorExit"
    catch raised =>
      if (← isRaised raised "GeneratorExit") || (← isRaised raised "StopIteration") then
        return .none
      else throw raised
  | m => fail "AttributeError" s!"'generator' object has no attribute '{m}'"

/-- Carry out a method of a property. -/
def propertyMethod (ev : Evaluator) (get set delete : Value) (method : String) (g : Given) :
    Act Value := do
  match method with
  | "getter" => make (.property g.first set delete)
  | "setter" => make (.property get g.first delete)
  | "deleter" => make (.property get set g.first)
  | "__set__" => do
    let _ ← ev.call set [g.first, g.at_ 1] []
    return .none
  | m => fail "AttributeError" s!"'property' object has no attribute '{m}'"

/-- Carry out a method of an exception. -/
def exceptionMethod (self : Value) (method : String) (g : Given) : Act Value := do
  match method with
  | "with_traceback" => return self
  | "add_note" =>
    match ← objectOf self with
    | some (.instance_ _ attributes _) =>
      match ← name? attributes "__notes__" with
      | some (.object notes) =>
        match ← object? notes with
        | some (.list items) => replace notes (.list (items ++ [g.first]))
        | _ => pure ()
      | _ => setName attributes "__notes__" (← makeList [g.first])
      return .none
    | _ => return .none
  | _ => return .none

/-- Carry out a method of a byte array that changes it, or one of all byte strings. -/
def byteArrayMethod (ev : Evaluator) (address : Nat) (b : Bytes) (method : String) (g : Given) :
    Act Value := do
  let put := fun (b : Bytes) => do
    replace address (.byteArray b)
    return Value.none
  match method with
  | "append" => do
    let x ← byteOf ev g.first
    put (b ++ [x])
  | "extend" => do
    let more ← match ← bytes? g.first with
      | some more => pure more
      | none => do (← itemsOf ev g.first).mapM (byteOf ev)
    put (b ++ more)
  | "clear" => put []
  | "reverse" => put b.reverse
  | "copy" => make (.byteArray b)
  | "pop" =>
    match b.getLast? with
    | some x => do
      let _ ← put b.dropLast
      return .ofNat x.toNat
    | none => fail "IndexError" "pop from empty bytearray"
  | "insert" => do
    let n := (← intOf ev g.first).toNat
    let x ← byteOf ev (g.at_ 1)
    put (b.take n ++ x :: b.drop n)
  | "remove" => do
    let x ← byteOf ev g.first
    put (b.erase x)
  | m => do (← textMethod ev true (rawText b) m g).toValue fun t => .bytes (t.map UInt8.ofNat)

/-- The bytes that a text writes in pairs of hexadecimal digits. -/
def bytesOfHex : CodePoints → Option Bytes
  | [] => some []
  | [_] => none
  | a :: b :: rest => do
    let high ← CodePoints.digitValue? a
    let low ← CodePoints.digitValue? b
    if 16 ≤ high ∨ 16 ≤ low then none
    else return UInt8.ofNat (16 * high + low) :: (← bytesOfHex rest)

/-- Carry out a method that takes a class. -/
def classMethod (ev : Evaluator) (kind method : String) (cls : Value) (g : Given) :
    Act Value := do
  match kind, method with
  | "dict", "fromkeys" => do
    let keys ← keysOf ev g.first
    let made ← ev.call cls [] []
    for k in keys do setItem ev made k (g.at_ 1)
    return made
  | "int", "from_bytes" => intMethod ev 0 method g
  | "float", "fromhex" => makeFloat ev g
  | _, "fromhex" => do
    let text ← textArgument "fromhex() argument" g.first
    match bytesOfHex (text.filter fun n => !CodePoints.isSpace n) with
    | some b => if kind = "bytearray" then make (.byteArray b) else return .bytes b
    | none => fail "ValueError" "non-hexadecimal number found in fromhex() arg"
  | _, "__subclasshook__" => return .notImplemented
  | _, _ => return .none

/-- Carry out a method of a value of a provided kind. -/
def ownMethod (ev : Evaluator) (kind method : String) (self : Value) (g : Given) : Act Value := do
  let bare ← plain self
  match bare, ← objectOf bare with
  | .text t, _ => (← textMethod ev false t method g).toValue .text
  | .bytes b, _ =>
    (← textMethod ev true (rawText b) method g).toValue fun t => .bytes (t.map UInt8.ofNat)
  | .float x, _ => floatMethod ev x method g
  | .range a b c, _ =>
    if method = "count" then countAmong ev g.first (Value.rangeItems a b c)
    else indexAmong ev "range" (Value.rangeItems a b c) g
  | .slice a b c, _ => do
    let (first, step, count) ← sliceOf ev (← intOf ev g.first).toNat a b c
    return .tuple [.int first, .int (first + step * count), .int step]
  | _, some (.list items) =>
    match bare with
    | .object address => listMethod ev address items method g
    | _ => return .none
  | .object address, some (.dict entries) => dictMethod ev address entries method g
  | .object address, some (.set items frozen) => setMethod ev address items frozen method g
  | .object address, some (.byteArray b) => byteArrayMethod ev address b method g
  | .object address, some (.stream s) => streamMethod ev address s method g
  | .object address, some (.generator ..) => generatorMethod ev address method g
  | .object _, some (.property get set delete) => propertyMethod ev get set delete method g
  | .object _, some (.view _ dict) =>
    let items := (← plainItems? bare).getD []
    match method with
    | "isdisjoint" => return .bool !((← keysOf ev g.first).any fun x => items.any x.same)
    | _ => dictMethod ev dict (← entriesAt dict) method g
  | .object _, some (.static f) => ev.call f g.byPlace g.byName
  | .object _, some (.function _) | .bound .., _ | .provided _, _ => ev.call bare g.byPlace g.byName
  | .object _, some (.instance_ ..) =>
    fail "TypeError" s!"descriptor '{method}' for '{kind}' objects doesn't apply"
  | .tuple items, _ =>
    if ← isA self "BaseException" then exceptionMethod self method g
    else if method = "count" then countAmong ev g.first items
    else indexAmong ev "tuple" items g
  | v, _ =>
    match v.int? with
    | some n => intMethod ev n method g
    | none =>
      let found ← kindName self
      fail "TypeError"
        s!"descriptor '{method}' for '{kind}' objects doesn't apply to a '{found}' object"

/-- Carry out a method of a provided class; the value it belongs to is the first argument. -/
def callMethod (ev : Evaluator) (kind method : String) (g : Given) : Act Value := do
  let self := g.first
  if kind = "type" then kindMethod ev self method g.rest
  else if (kind = "str" ∨ kind = "bytes") ∧ method = "maketrans" then translationTable g
  else if Kind.takesClass kind method then classMethod ev kind method self g.rest
  else if method = "__abs__" then commonFunction ev "abs" { byPlace := [← bareValue self] }
  else
    match ← sharedMethod ev kind method self g.rest with
    | some v => return v
    | none => ownMethod ev kind method self g.rest

end Handover.Interpreter
