/-
  Calling the classes that the interpreter provides.
-/
import Handover.Interpreter.Provided.Builtins

namespace Handover.Interpreter

/-! ## Exceptions -/

/-- A new exception with the arguments of a call. -/
def makeRaised (kind : String) (g : Given) : Act Value := do
  let number := match g.byPlace with
    | n :: _ :: _ => n.int?
    | _ => none
  let kind := match number with
    | some n => if kind = "OSError" then systemErrorKind n else kind
    | none => kind
  if (kind = "UnicodeDecodeError" ∨ kind = "UnicodeEncodeError") ∧ g.byPlace.length ≠ 5 then
    fail "TypeError" s!"function takes exactly 5 arguments ({g.byPlace.length} given)"
  let exception ← makeException kind g.byPlace
  noteSystemError exception g.byPlace
  for (n, v) in g.byName do
    match ← objectOf exception with
    | some (.instance_ _ attributes _) => setName attributes n v
    | _ => pure ()
  return exception

/-! ## Sequences -/

/-- The bytes made from the arguments of a call. -/
def makeBytes (ev : Evaluator) (g : Given) : Act Bytes := do
  match g.byPlace with
  | [] => return []
  | v :: _ =>
    match ← callSpecial? ev v "__bytes__" [] with
    | some (.bytes b) => return b
    | _ =>
      match ← plain v, ← bytes? v with
      | .text t, _ =>
        if (g.get? 1 "encoding").isNone then fail "TypeError" "string argument without an encoding"
        let (c, p) ← codingOf (g.get 1 "encoding") (g.get 2 "errors")
        encodeText c p t
      | _, some b => return b
      | bare, none =>
        match bare.int? with
        | some n =>
          if n < 0 then fail "ValueError" "negative count"
          else return List.replicate n.toNat 0
        | none => (← itemsOf ev v).mapM (byteOf ev)

/-- The text made from the arguments of a call. -/
def makeText (ev : Evaluator) (g : Given) : Act CodePoints := do
  match g.get? 0 "object" with
  | none => return []
  | some v =>
    if (g.get? 1 "encoding").isNone && (g.get? 2 "errors").isNone then printed ev v
    else
      match ← bytes? v with
      | some b =>
        let (c, p) ← codingOf (g.get 1 "encoding") (g.get 2 "errors")
        decodeBytes c p b
      | none =>
        let kind ← kindName v
        fail "TypeError" s!"decoding to str: need a bytes-like object, {kind} found"

/-- The range of the arguments of a call. -/
def makeRange (ev : Evaluator) (g : Given) : Act Value := do
  match ← g.byPlace.mapM (intOf ev) with
  | [stop] => return .range 0 stop 1
  | [start, stop] => return .range start stop 1
  | [start, stop, step] =>
    if step = 0 then fail "ValueError" "range() arg 3 must not be zero"
    else return .range start stop step
  | _ => fail "TypeError" "range expected at least 1 argument, got 0"

/-- A part of a sequence of the arguments of a call. -/
def makeSlice (g : Given) : Value :=
  match g.byPlace with
  | [stop] => .slice .none stop .none
  | start :: stop :: rest => .slice start stop (rest.headD .none)
  | [] => .slice .none .none .none

/-! ## Classes -/

/-- The class of a value, or a new class. -/
def makeKind (ev : Evaluator) (g : Given) : Act Value := do
  match g.byPlace with
  | [v] => classOf v
  | [name, bases, names] =>
    let bases ← itemsOf ev bases
    let entries := (← dictOf? names).getD []
    newClass ev (← nameArgument "type() argument 1" name) bases (← alloc (.dict entries)) g.byName
  | _ => fail "TypeError" "type() takes 1 or 3 arguments"

/-! ## All of them -/

/-- Refuse arguments that are given by name. -/
def onlyByPlace (kind : String) (g : Given) : Act Unit :=
  if g.byName.isEmpty then pure () else fail "TypeError" s!"{kind}() takes no keyword arguments"

/-- Call a provided class. -/
def construct (ev : Evaluator) (kind : String) (g : Given) : Act Value := do
  let v := g.first
  let items := if g.byPlace.isEmpty then pure [] else itemsOf ev v
  if Kind.isException kind then makeRaised kind g
  else
    match kind with
    | "object" =>
      if g.byPlace.isEmpty && g.byName.isEmpty then
        make (.instance_ (.kind "object") (← alloc (.dict [])) .none)
      else fail "TypeError" "object() takes no arguments"
    | "NoneType" => return .none
    | "ellipsis" => return .ellipsis
    | "NotImplementedType" => return .notImplemented
    | "type" => makeKind ev g
    | "bool" => return .bool (← truth ev v)
    | "int" => makeInt ev g
    | "float" => makeFloat ev g
    | "str" => return .text (← makeText ev g)
    | "bytes" => return .bytes (← makeBytes ev g)
    | "bytearray" => make (.byteArray (← makeBytes ev g))
    | "memoryview" => return .bytes (← makeBytes ev g)
    | "list" =>
      onlyByPlace kind g
      makeList (← items)
    | "tuple" =>
      onlyByPlace kind g
      return .tuple (← items)
    | "dict" | "mappingproxy" => makeDict (← dictWith ev [] g)
    | "set" => makeSet (← items) false
    | "frozenset" => makeSet (← items) true
    | "range" => makeRange ev g
    | "slice" => return makeSlice g
    | "property" =>
      make (.property (g.get 0 "fget") (g.get 1 "fset") (g.get 2 "fdel"))
    | "staticmethod" => make (.static v)
    | "classmethod" => make (.ofClass v)
    | "super" =>
      match g.byPlace with
      | [cls, self] => make (.above cls self)
      | _ => fail "RuntimeError" "super(): no arguments"
    | "enumerate" =>
      make (.iterator (.counted (← iterOf ev (g.get 0 "iterable")) (← intOr ev (g.get 1 "start") 0)))
    | "zip" =>
      let strict ← truth ev ((g.named? "strict").getD .none)
      make (.iterator (.together (← g.byPlace.mapM (iterOf ev)) strict))
    | "map" => make (.iterator (.mapped v (← (g.byPlace.drop 1).mapM (iterOf ev))))
    | "filter" => make (.iterator (.filtered v (← iterOf ev (g.at_ 1))))
    | "reversed" => reversedOf ev v
    | "module" => makeModule (← nameArgument "module name" (g.get 0 "name")) []
    | "ModuleSpec" =>
      let isPackage ← truth ev ((g.named? "is_package").getD .none)
      let places ← if isPackage then makeList [] else pure .none
      let origin := (g.named? "origin").getD .none
      let attributes ← makeTable
        [("name", g.get 0 "name"), ("loader", g.get 1 "loader"), ("origin", origin),
         ("submodule_search_locations", places), ("has_location", .bool !origin.isNone),
         ("cached", .none), ("loader_state", .none), ("parent", .ofString "")]
      make (.instance_ (.kind "ModuleSpec") attributes .none)
    | "StringIO" =>
      match ← plain (g.get 0 "initial_value") with
      | .text t => make (.stream { channel := .memory, binary := false, content := t })
      | _ => make (.stream { channel := .memory, binary := false })
    | "BytesIO" =>
      let b ← makeBytes ev { byPlace := g.byPlace }
      make (.stream { channel := .memory, binary := true, content := rawText b })
    | k => fail "TypeError" s!"cannot create '{k}' instances"

end Handover.Interpreter
