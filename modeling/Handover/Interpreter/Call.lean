/-
  Calls: the arguments of functions, new classes, and new instances.

  Each parameter takes an argument by its place or by its name, and two parameters may take all that
  is left of either.  Calling a class makes an instance: first it is made, then it is set up.
-/
import Handover.Interpreter.Expression

namespace Handover.Interpreter

/-! ## Parameters -/

/-- The arguments of a call while they are given to parameters. -/
structure Giving where
  byPlace : List Value
  byName : List (String × Value)
  given : List (String × Value) := []
  missing : List String := []

/-- Give a parameter its argument. -/
def Giving.take (defaults : List (String × Value)) (g : Giving) (p : Parameter) :
    Except String Giving :=
  let fromDefault :=
    match defaults.find? fun d => d.1 == p.name with
    | some (_, v) => { g with given := g.given ++ [(p.name, v)] }
    | none => { g with missing := g.missing ++ [p.name] }
  let fromName :=
    match g.byName.find? fun a => a.1 == p.name with
    | some (_, v) =>
      { g with
        given := g.given ++ [(p.name, v)]
        byName := g.byName.filter fun a => a.1 != p.name }
    | none => fromDefault
  match p.taking with
  | .restByPlace => .ok { g with given := g.given ++ [(p.name, .tuple g.byPlace)], byPlace := [] }
  | .restByName => .ok g
  | .byName => .ok fromName
  | taking =>
    match g.byPlace with
    | v :: rest =>
      if taking = .byPlaceOrName ∧ g.byName.any fun a => a.1 == p.name then
        .error s!"got multiple values for argument '{p.name}'"
      else .ok { g with given := g.given ++ [(p.name, v)], byPlace := rest }
    | [] => .ok (if taking = .byPlace then fromDefault else fromName)

/-- Words with commas between them and `and` before the last one. -/
def listed (words : List String) : String :=
  match words with
  | [] => ""
  | [w] => w
  | [v, w] => v ++ " and " ++ w
  | ws => ", ".intercalate ws.dropLast ++ ", and " ++ ws.getLastD ""

/-- The values of the parameters of a function, or what is wrong with its arguments. -/
def parametersOf (fn : Function) (byPlace : List Value) (byName : List (String × Value)) :
    Except String (List (String × Value) × Option (String × List (String × Value))) := do
  let ps := fn.code.parameters
  let g ← ps.foldlM (Giving.take fn.defaults) { byPlace, byName }
  let plural := fun (n : Nat) => if n = 1 then "" else "s"
  let rest := (ps.find? fun p => p.taking = .restByName).map Parameter.name
  match g.byName, rest with
  | (n, _) :: _, none => throw s!"got an unexpected keyword argument '{n}'"
  | _, _ => pure ()
  if !g.byPlace.isEmpty then
    let most := (ps.filter fun p => p.taking = .byPlace ∨ p.taking = .byPlaceOrName).length
    let verb := if byPlace.length = 1 then "was" else "were"
    let arguments := "positional argument" ++ plural most
    throw s!"takes {most} {arguments} but {byPlace.length} {verb} given"
  if !g.missing.isEmpty then
    let byNameOnly := g.missing.all fun n => ps.any fun p => p.name = n ∧ p.taking = .byName
    let which := if byNameOnly then "keyword-only" else "positional"
    let names := listed (g.missing.map fun n => "'" ++ n ++ "'")
    let arguments := s!"required {which} argument" ++ plural g.missing.length
    throw s!"missing {g.missing.length} {arguments}: {names}"
  return (g.given, rest.map fun n => (n, g.byName))

/-- The frame of a function that is called. -/
def enter (fn : Function) (byPlace : List Value) (byName : List (String × Value)) :
    Act Frame := do
  match parametersOf fn byPlace byName with
  | .error message => fail "TypeError" (fn.code.name ++ "() " ++ message)
  | .ok (given, rest) =>
    let given ← match rest with
      | none => pure given
      | some (n, named) => do
        pure (given ++ [(n, ← makeDict (named.map fun e => (.ofString e.1, e.2)))])
    return {
      names := fn.code.names
      locals := ← makeTable given
      globals := fn.globals
      enclosing := fn.enclosing
      first := fn.code.parameters.head?.map Parameter.name }

/-! ## Classes -/

/-- The class that makes a new class. -/
def makerOf (bases : List Value) : Act Value := do
  let makers ← bases.mapM classOf
  return (makers.find? fun m => !m.same (.kind "type")).getD (.kind "type")

/-- Make a class. -/
def makeClass (ev : Evaluator) (maker : Value) (name : String) (bases : List Value)
    (attributes : Nat) (named : List (String × Value)) : Act Value := do
  let bases := if bases.isEmpty then [.kind "object"] else bases
  match ← orderAbove bases with
  | none =>
    let names ← bases.mapM className
    fail "TypeError"
      ("Cannot create a consistent method resolution order (MRO) for bases "
        ++ ", ".intercalate names)
  | some above =>
    let address ← alloc (.cls { name, bases, order := [], attributes, maker })
    let cls := Value.object address
    replace address (.cls { name, bases, order := cls :: above, attributes, maker })
    for (key, value) in ← entriesAt attributes do
      let _ ← callSpecial? ev value "__set_name__" [cls, key]
    match ← inOrder "__init_subclass__" above with
    | some (.provided _, _) | none => pure ()
    | some (found, _) =>
      let f ← match ← objectOf found with
        | some (.ofClass f) | some (.static f) => pure f
        | _ => pure found
      let _ ← ev.call f [cls] named
    return cls

/-- Make a class the way its maker does it. -/
def newClass (ev : Evaluator) (name : String) (bases : List Value) (attributes : Nat)
    (named : List (String × Value)) : Act Value := do
  let rest := named.filter fun e => e.1 != "metaclass"
  let maker ← match named.find? fun e => e.1 == "metaclass" with
    | some (_, m) => pure m
    | none => makerOf bases
  match maker with
  | .kind "type" => makeClass ev maker name bases attributes rest
  | maker => ev.call maker [.ofString name, .tuple bases, .object attributes] rest

/-! ## Instances -/

/-- The provided classes whose values are complete in themselves. -/
def isFixedKind (kind : String) : Bool :=
  ["int", "float", "str", "bytes", "tuple", "frozenset", "bool"].contains kind

/-- The entries of a dictionary, or of what is based on one. -/
def tableOf (v : Value) : Act Entries := do return (← dictOf? v).getD []

/-- A new instance of a class that is not set up yet; an instance of a class of classes is a class. -/
def newInstance (ev : Evaluator) (cls : Value) (args : List Value)
    (named : List (String × Value)) : Act Value := do
  let base ← providedBase? cls
  match base, args with
  | some "type", name :: bases :: names :: _ =>
    let text := match ← plain name with
      | .text t => t.display
      | _ => ""
    makeClass ev cls text (← itemsOf ev bases) (← alloc (.dict (← tableOf names))) named
  | some kind, _ =>
    let payload ←
      if Kind.isException kind then pure (.tuple args)
      else if isFixedKind kind then ev.call (.kind kind) args named
      else ev.call (.kind kind) [] []
    make (.instance_ cls (← alloc (.dict [])) payload)
  | none, _ => make (.instance_ cls (← alloc (.dict [])) .none)

/-- Note what an error of the system is about. -/
def noteSystemError (v : Value) (args : List Value) : Act Unit := do
  match args with
  | number :: text :: more =>
    match ← objectOf v with
    | some (.instance_ kind attributes _) =>
      if ← isBelow kind (.kind "OSError") then
        match v, more with
        | .object address, file :: rest => do
          setName attributes "filename" file
          if let some other := rest[1]? then setName attributes "filename2" other
          replace address (.instance_ kind attributes (.tuple [number, text]))
        | _, _ => pure ()
    | _ => pure ()
  | _ => pure ()

/-- Set an instance of a class up that is based on a provided class. -/
def setUp (ev : Evaluator) (self : Value) (args : List Value) (named : List (String × Value)) :
    Act Unit := do
  match self, ← objectOf self with
  | .object address, some (.instance_ cls attributes payload) =>
    match ← providedBase? cls with
    | some kind =>
      if Kind.isException kind then
        replace address (.instance_ cls attributes (.tuple args))
        noteSystemError self args
      else if isFixedKind kind || kind == "type" then pure ()
      else
        let fresh ← ev.call (.kind kind) args named
        match payload, ← objectOf fresh with
        | .object inner, some o => replace inner o
        | _, _ => replace address (.instance_ cls attributes fresh)
    | none =>
      if !args.isEmpty || !named.isEmpty then
        let name ← className cls
        fail "TypeError" s!"{name}() takes no arguments"
  | _, _ => pure ()

/-- Make an instance of a class that a program defines. -/
def instantiate (ev : Evaluator) (cls : Value) (args : List Value)
    (named : List (String × Value)) : Act Value := do
  let order ← orderOf cls
  let defined := fun (name : String) => do
    match ← inOrder name order with
    | some (.provided _, _) | none => return none
    | some (found, _) =>
      match ← objectOf found with
      | some (.static f) => return some f
      | _ => return some found
  let init ← defined "__init__"
  let self ← match ← defined "__new__" with
    | some f => ev.call f (cls :: args) named
    | none => newInstance ev cls args named
  if ← isOf self cls then
    match init with
    | some f =>
      let result ← ev.call f (self :: args) named
      if !result.isNone then fail "TypeError" "__init__() should return None"
    | none =>
      if (← defined "__new__").isNone then setUp ev self args named
  return self

end Handover.Interpreter
