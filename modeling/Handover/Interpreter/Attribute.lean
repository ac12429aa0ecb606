/-
  Attributes: what stands behind a dot.

  An attribute of an object is looked for in the object and in its class, and in the classes above
  it in their order.  A function that is found in a class takes the object as its first argument; a
  property is asked for its value.  Where nothing is found, a method `__getattr__` may still answer.
-/
import Handover.Interpreter.Class

namespace Handover.Interpreter

/-! ## What every value of a kind has -/

/-- The text that stands first in the body of a function. -/
def documentation : List Stmt → Value
  | .expression (.constant (.text t)) :: _ => .text t
  | _ => .none

/-- An attribute of an object that the interpreter provides. -/
def providedOfObject (o : Object) (name : String) : Act (Option Value) := do
  match o, name with
  | .function f, "__name__" | .function f, "__qualname__" => return some (.ofString f.code.name)
  | .function f, "__doc__" => return some (documentation f.code.body)
  | .function f, "__dict__" => return some (.object f.attributes)
  | .function f, "__globals__" => return some (.object f.globals)
  | .function f, "__module__" => name? f.globals "__name__"
  | .function f, "__defaults__" =>
    return some (if f.defaults.isEmpty then .none else .tuple (f.defaults.map Prod.snd))
  | .function _, "__kwdefaults__" | .function _, "__closure__" => return some .none
  | .function _, "__annotations__" => return some (← makeDict [])
  | .static f, "__func__" | .ofClass f, "__func__" => return some f
  | .static f, "__wrapped__" | .ofClass f, "__wrapped__" => return some f
  | .property get .., "fget" => return some get
  | .property _ set _, "fset" => return some set
  | .property _ _ delete, "fdel" => return some delete
  | .above _ self, "__self__" => return some self
  | .stream s, "buffer" =>
    if s.binary then return none else return some (← make (.stream { s with binary := true }))
  | .stream s, "encoding" => return if s.binary then none else some (.ofString "utf-8")
  | .stream s, "errors" =>
    return if s.binary then none
      else some (.ofString (if s.channel = .errors then "backslashreplace" else "strict"))
  | .stream s, "closed" => return some (.bool s.closed)
  | .stream s, "mode" => return some (.ofString (if s.writable then "w" else "r"))
  | .stream s, "name" =>
    return match s.channel with
      | .input => some (.ofString "<stdin>")
      | .output => some (.ofString "<stdout>")
      | .errors => some (.ofString "<stderr>")
      | .file path => some (.ofPath path)
      | .memory => none
  | .generator .., "__name__" => return some (.ofString "<genexpr>")
  | _, _ => return none

/-- An attribute of an exception that the interpreter provides. -/
def providedOfException (v : Value) (args : List Value) (name : String) : Act (Option Value) := do
  let first := args.headD .none
  let is := fun (kind : String) => isA v kind
  match name with
  | "args" => return some (.tuple args)
  | "__cause__" | "__context__" | "__traceback__" => return some .none
  | "__suppress_context__" => return some (.bool false)
  | "code" =>
    if ← is "SystemExit" then
      return some (if args.length ≤ 1 then first else .tuple args)
    else return none
  | "value" => if ← is "StopIteration" then return some first else return none
  | "errno" =>
    if ← is "OSError" then return some (if args.length < 2 then .none else first) else return none
  | "strerror" =>
    if ← is "OSError" then return some (args.getD 1 .none) else return none
  | "filename" | "filename2" => if ← is "OSError" then return some .none else return none
  | "msg" => if (← is "ImportError") || (← is "SyntaxError") then return some first else return none
  | "name" | "path" | "obj" =>
    if (← is "ImportError") || (← is "AttributeError") || (← is "NameError") then
      return some .none
    else return none
  | "encoding" | "object" | "start" | "end" | "reason" =>
    if (← is "UnicodeDecodeError") || (← is "UnicodeEncodeError") then
      return args[["encoding", "object", "start", "end", "reason"].idxOf name]?
    else return none
  | _ => return none

/-- An attribute of a value that the interpreter provides. -/
def providedAttribute (v : Value) (name : String) : Act (Option Value) := do
  match v, name with
  | v, "__class__" => return some (← classOf v)
  | .int n, "real" | .int n, "numerator" => return some (.int n)
  | .bool b, "real" | .bool b, "numerator" => return some (.int (if b then 1 else 0))
  | .int _, "imag" | .bool _, "imag" => return some (.int 0)
  | .int _, "denominator" | .bool _, "denominator" => return some (.int 1)
  | .float x, "real" => return some (.float x)
  | .float _, "imag" => return some (.float 0.0)
  | .range a _ _, "start" => return some (.int a)
  | .range _ b _, "stop" => return some (.int b)
  | .range _ _ c, "step" => return some (.int c)
  | .slice a _ _, "start" => return some a
  | .slice _ b _, "stop" => return some b
  | .slice _ _ c, "step" => return some c
  | .provided n, "__name__" | .provided n, "__qualname__" =>
    return some (.ofString ((n.splitOn ".").getLastD n))
  | .provided _, "__module__" => return some (.ofString "builtins")
  | .provided _, "__doc__" => return some .none
  | .bound self _, "__self__" => return some self
  | .bound _ f, "__func__" => return some f
  | .object address, name =>
    match ← object? address with
    | some (.instance_ kind attributes payload) =>
      if name = "__dict__" then return some (.object attributes)
      else if ← isBelow kind (.kind "BaseException") then
        let args := match payload with
          | .tuple args => args
          | _ => []
        providedOfException v args name
      else return none
    | some o => providedOfObject o name
    | none => return none
  | _, _ => return none

/-- An attribute of a class that the interpreter provides. -/
def providedOfClass (cls : Value) (name : String) : Act (Option Value) := do
  let order ← orderOf cls
  match name with
  | "__name__" | "__qualname__" => return some (.ofString (← className cls))
  | "__mro__" => return some (.tuple order)
  | "__class__" => return some (← classOf cls)
  | "__module__" => return some (.ofString "builtins")
  | "__doc__" => return some .none
  | "__bases__" | "__base__" =>
    let bases ← match ← objectOf cls with
      | some (.cls c) => pure c.bases
      | _ => pure (order.drop 1 |>.take 1)
    return some (if name = "__base__" then bases.headD .none else .tuple bases)
  | "__dict__" =>
    match ← objectOf cls with
    | some (.cls c) => return some (.object c.attributes)
    | _ => return some (← makeDict [])
  | "__annotations__" => return some (← makeDict [])
  | _ => return none

/-! ## From a class to its instances -/

/-- What an instance sees of something that was found in its class. -/
def throughClass (ev : Evaluator) (self cls found : Value) : Act Value := do
  match found with
  | .provided name =>
    let parts := name.splitOn "."
    let kind := parts.headD ""
    let method := parts.getLastD ""
    if !Kind.hasMethod kind method then return found
    else if Kind.takesNothing kind method then return found
    else if Kind.takesClass kind method then return .bound cls found
    else return .bound self found
  | found =>
    match ← objectOf found with
    | some (.function _) => return .bound self found
    | some (.static f) => return f
    | some (.ofClass f) => return .bound cls f
    | some (.property get ..) =>
      if get.isNone then fail "AttributeError" "unreadable attribute" else ev.call get [self] []
    | _ =>
      match ← callSpecial? ev found "__get__" [self, cls] with
      | some value => return value
      | none => return found

/-- What a class itself sees of something that was found in it. -/
def inClass (ev : Evaluator) (cls found : Value) : Act Value := do
  match found with
  | .provided name =>
    let parts := name.splitOn "."
    if Kind.takesClass (parts.headD "") (parts.getLastD "") then return .bound cls found
    else return found
  | found =>
    match ← objectOf found with
    | some (.static f) => return f
    | some (.ofClass f) => return .bound cls f
    | _ =>
      match ← callSpecial? ev found "__get__" [.none, cls] with
      | some value => return value
      | none => return found

/-- The value takes part in the setting of attributes. -/
def isSetter (found : Value) : Act Bool := do
  match ← objectOf found with
  | some (.property ..) => return true
  | some (.instance_ ..) => return (← special? found "__set__").isSome
  | _ => return false

/-- The value that an instance has of its own under a name. -/
def own? (v : Value) (name : String) : Act (Option Value) := do
  match ← objectOf v with
  | some (.instance_ _ attributes _) => name? attributes name
  | some (.function f) => name? f.attributes name
  | _ => return none

/-! ## Looking up -/

/-- An attribute of a class. -/
def attributeOfClass (ev : Evaluator) (cls : Value) (name : String) : Act (Option Value) := do
  let maker ← classOf cls
  match ← inOrder name (← orderOf cls) with
  | some (.provided found, .kind "object") =>
    -- a method of the class that it is an instance of goes before one that every object has
    match ← inOrder name (← orderOf maker) with
    | some (value, .object _) => return some (← throughClass ev cls maker value)
    | _ => return some (← inClass ev cls (.provided found))
  | some (found, _) => return some (← inClass ev cls found)
  | none =>
    match ← providedOfClass cls name with
    | some value => return some value
    | none =>
      match ← inOrder name (← orderOf maker) with
      | some (found, _) => return some (← throughClass ev cls maker found)
      | none =>
        match ← callSpecial? ev cls "__getattr__" [.ofString name] with
        | some value => return some value
        | none => return none

/-- An attribute of a value, if it has it. -/
def attribute? (ev : Evaluator) (v : Value) (name : String) : Act (Option Value) := do
  if ← isClass v then attributeOfClass ev v name
  else
    match ← objectOf v with
    | some (.module _ names) =>
      match ← name? names name with
      | some value => return some value
      | none =>
        if name = "__dict__" then return some (.object names)
        else if name = "__class__" then return some (.kind "module")
        else
          match ← name? names "__getattr__" with
          | some f => return some (← ev.call f [.ofString name] [])
          | none => return none
    | some (.above cls self) =>
      let selfClass ← if ← isClass self then pure self else classOf self
      let above := (← orderOf selfClass).dropWhile (fun c => !c.same cls) |>.drop 1
      match ← inOrder name above with
      | some (found, _) =>
        if ← isClass self then
          match ← objectOf found with
          | some (.function _) => return some found
          | _ => return some (← inClass ev self found)
        else return some (← throughClass ev self selfClass found)
      | none => providedAttribute v name
    | _ =>
      let cls ← classOf v
      let found ← inOrder name (← orderOf cls)
      let setter ← match found with
        | some (f, _) => isSetter f
        | none => pure false
      match found, setter, ← own? v name with
      | some (f, _), true, _ => return some (← throughClass ev v cls f)
      | _, _, some value => return some value
      | some (f, _), _, none => return some (← throughClass ev v cls f)
      | none, _, none =>
        match ← providedAttribute v name with
        | some value => return some value
        | none =>
          let viaMethod ← match v with
            | .bound _ f => if name.startsWith "__" then attributeOfFunction f name else pure none
            | _ => pure none
          match viaMethod with
          | some value => return some value
          | none =>
            let bare ← plain v
            match ← (if bare.same v then pure none else providedAttribute bare name) with
            | some value => return some value
            | none => callSpecial? ev v "__getattr__" [.ofString name]
where
  /-- An attribute of the function behind a method. -/
  attributeOfFunction (f : Value) (name : String) : Act (Option Value) := do
    match ← own? f name with
    | some value => return some value
    | none => providedAttribute f name

/-- What a value is called where an attribute is missing. -/
def describe (v : Value) : Act String := do
  if ← isClass v then return "type object '" ++ (← className v) ++ "'"
  else
    match ← objectOf v with
    | some (.module name _) => return "module '" ++ name ++ "'"
    | _ => return "'" ++ (← kindName v) ++ "' object"

/-- An attribute of a value. -/
def attributeOf (ev : Evaluator) (v : Value) (name : String) : Act Value := do
  match ← attribute? ev v name with
  | some value => return value
  | none =>
    let what ← describe v
    fail "AttributeError" s!"{what} has no attribute '{name}'"

/-! ## Changing -/

/-- An attribute cannot be set. -/
def refuseAttribute {α : Type} (v : Value) (name : String) : Act α := do
  match v with
  | .kind k => fail "TypeError" s!"cannot set '{name}' attribute of immutable type '{k}'"
  | v =>
    let what ← describe v
    fail "AttributeError" s!"{what} has no attribute '{name}'"

/-- Set an attribute in the object itself. -/
def setOwnAttribute (v : Value) (name : String) (value : Value) : Act Unit := do
  match v with
  | .object address =>
    match ← object? address with
    | some (.module _ names) => setName names name value
    | some (.cls c) =>
      if name = "__name__" || name = "__qualname__" then
        match ← plain value with
        | .text t =>
          if name = "__name__" then replace address (.cls { c with name := t.display })
        | _ => fail "TypeError" "can only assign string to __name__"
      else setName c.attributes name value
    | some (.function f) => setName f.attributes name value
    | some (.instance_ kind attributes payload) =>
      match name, value with
      | "__class__", cls => replace address (.instance_ cls attributes payload)
      | "__dict__", .object table => replace address (.instance_ kind table payload)
      | _, _ =>
        if name = "args" then
          if ← isBelow kind (.kind "BaseException") then
            match value with
            | .tuple args => replace address (.instance_ kind attributes (.tuple args))
            | _ => refuseAttribute v name
          else setName attributes name value
        else if kind.same (.kind "object") then refuseAttribute v name
        else setName attributes name value
    | _ => refuseAttribute v name
  | v => refuseAttribute v name

/-- Set an attribute, whatever the class of the value has to say about it. -/
def setAttributePlainly (ev : Evaluator) (v : Value) (name : String) (value : Value) :
    Act Unit := do
  let found ← if ← isClass v then pure none else inOrder name (← orderOf (← classOf v))
  match found with
  | some (f, _) =>
    match ← objectOf f with
    | some (.property _ set _) =>
      if set.isNone then
        let what ← describe v
        fail "AttributeError" s!"property '{name}' of {what} has no setter"
      else let _ ← ev.call set [v, value] []
    | _ =>
      match ← callSpecial? ev f "__set__" [v, value] with
      | some _ => return ()
      | none => setOwnAttribute v name value
  | none => setOwnAttribute v name value

/-- Set an attribute. -/
def setAttribute (ev : Evaluator) (v : Value) (name : String) (value : Value) : Act Unit := do
  match ← callSpecial? ev v "__setattr__" [.ofString name, value] with
  | some _ => return ()
  | none => setAttributePlainly ev v name value

/-- Take an attribute away, whatever the class of the value has to say about it. -/
def eraseAttributePlainly (v : Value) (name : String) : Act Unit := do
  let table ← match ← objectOf v with
    | some (.module _ names) => pure (some names)
    | some (.cls c) => pure (some c.attributes)
    | some (.function f) => pure (some f.attributes)
    | some (.instance_ _ attributes _) => pure (some attributes)
    | _ => pure none
  match table with
  | some table =>
    if (← name? table name).isSome then eraseName table name
    else
      let what ← describe v
      fail "AttributeError" s!"{what} has no attribute '{name}'"
  | none => refuseAttribute v name

/-- Take an attribute away. -/
def eraseAttribute (ev : Evaluator) (v : Value) (name : String) : Act Unit := do
  match ← callSpecial? ev v "__delattr__" [.ofString name] with
  | some _ => return ()
  | none => eraseAttributePlainly v name

end Handover.Interpreter
