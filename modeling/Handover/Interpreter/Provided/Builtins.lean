/-
  The functions that every module knows.
-/
import Handover.Interpreter.Parser
import Handover.Interpreter.Provided.Collections
import Handover.Interpreter.Provided.Numbers
import Handover.Interpreter.Provided.Streams
import Handover.Interpreter.Run

namespace Handover.Interpreter

open CodePoints (ofString)

/-! ## Classes -/

/-- How deep tuples of classes are looked through. -/
def deepestClasses : Nat := 20

/-- A value belongs to a class, or to one of several. -/
def isInstance (ev : Evaluator) (v : Value) : Nat → Value → Act Bool
  | 0, _ => return false
  | n + 1, cls => do
    match cls with
    | .tuple classes => classes.anyM (isInstance ev v n)
    | .none => return v.isNone
    | cls =>
      if !(← isClass cls) then
        fail "TypeError" "isinstance() arg 2 must be a type, a tuple of types, or a union"
      match ← callSpecial? ev cls "__instancecheck__" [v] with
      | some answer => truth ev answer
      | none =>
        if ← isOf v cls then return true
        else
          match ← attribute? ev v "__class__" with
          | some other => if ← isClass other then isBelow other cls else return false
          | none => return false

/-- A class stands below another one, or below one of several. -/
def isSubclass (ev : Evaluator) (cls : Value) : Nat → Value → Act Bool
  | 0, _ => return false
  | n + 1, above => do
    match above with
    | .tuple classes => classes.anyM (isSubclass ev cls n)
    | above =>
      if !(← isClass cls) then fail "TypeError" "issubclass() arg 1 must be a class"
      match ← callSpecial? ev above "__subclasscheck__" [cls] with
      | some answer => truth ev answer
      | none => isBelow cls above

/-- A value can be called. -/
def isCallable (v : Value) : Act Bool := do
  match v with
  | .provided _ | .kind _ | .bound .. => return true
  | v =>
    match ← objectOf v with
    | some (.function _) | some (.cls _) => return true
    | some (.static _) => return true
    | some (.instance_ ..) => return (← special? v "__call__").isSome
    | _ => return false

/-! ## Iterators -/

/-- The next value of an iterator; an exception if there is none. -/
def nextValue (ev : Evaluator) (v : Value) : Act Value := do
  match ← callSpecial? ev v "__next__" [] with
  | some value => return value
  | none =>
    match ← plain v with
    | .object address =>
      match ← object? address with
      | some (.iterator _) =>
        match ← step ev (.object address) with
        | some value => return value
        | none => failWith "StopIteration" []
      | some (.generator ..) => resume ev address .goOn .none
      | some (.stream s) => streamMethod ev address s "__next__" { byPlace := [] }
      | _ => refuse
    | _ => refuse
where
  /-- The value is no iterator. -/
  refuse : Act Value := do
    let kind ← kindName v
    fail "TypeError" s!"'{kind}' object is not an iterator"

/-- An iterator over a value from its end. -/
def reversedOf (ev : Evaluator) (v : Value) : Act Value := do
  match ← callSpecial? ev v "__reversed__" [] with
  | some it => return it
  | none =>
    match ← plainObject v with
    | some (.set ..) | some (.iterator _) | some (.generator ..) =>
      let kind ← kindName v
      fail "TypeError" s!"'{kind}' object is not reversible"
    | _ => make (.iterator (.values (← itemsOf ev v).reverse))

/-! ## Extremes and sums -/

/-- The first of some values that no other one is before. -/
def extreme (ev : Evaluator) (name : String) (g : Given) : Act Value := do
  let key := (g.named? "key").getD .none
  let items ← match g.byPlace with
    | [v] => itemsOf ev v
    | vs => pure vs
  let comparator : Comparator := if name = "max" then .greater else .less
  match items with
  | [] =>
    match g.named? "default" with
    | some v => return v
    | none => fail "ValueError" s!"{name}() iterable argument is empty"
  | first :: rest =>
    let keyOf := fun (v : Value) => if key.isNone then pure v else ev.call key [v] []
    let best ← rest.foldlM
      (fun (best : Value × Value) v => do
        let k ← keyOf v
        if ← truth ev (← compare ev comparator k best.2) then return (v, k) else return best)
      (first, ← keyOf first)
    return best.1

/-- The sum of some values. -/
def sumOf (ev : Evaluator) (g : Given) : Act Value := do
  let start := (g.get? 1 "start").getD (.int 0)
  match start with
  | .text _ => fail "TypeError" "sum() can't sum strings [use ''.join(seq) instead]"
  | _ => (← itemsOf ev g.first).foldlM (operate ev .add) start

/-! ## Running sources -/

/-- The source in an argument. -/
def sourceOf (v : Value) : Act (List Char) := do
  match ← plain v, ← bytes? v with
  | .text t, _ => return t.chars
  | _, some b => return (CodePoints.ofPath b).chars
  | _, none => fail "TypeError" "eval() arg 1 must be a string, bytes or code object"

/-- The names in a table. -/
def namesIn (table : Nat) : Act (List String) := do
  return (← entriesAt table).filterMap fun e => e.1.text?.map CodePoints.display

/-- The tables in which a source is run. -/
def tablesOf (g : Given) : Act (Nat × Nat) := do
  let globals ← match g.get 1 "globals" with
    | .object a => pure a
    | _ => makeTable []
  let locals := match g.get 2 "locals" with
    | .object a => a
    | _ => globals
  return (globals, locals)

/-- The value of an expression that is given as a text. -/
def evalSource (ev : Evaluator) (g : Given) : Act Value := do
  let source ← sourceOf g.first
  let (globals, locals) ← tablesOf g
  match Parser.expression? (Numeral.strip source) with
  | none => fail "SyntaxError" "invalid syntax"
  | some e =>
    let names : Names := { owned := ← namesIn locals, shared := [], outer := [], generates := false }
    ev.eval { names, locals, globals, enclosing := [] } e

/-- Run statements that are given as a text. -/
def execSource (ev : Evaluator) (g : Given) : Act Value := do
  let source ← sourceOf g.first
  let (globals, locals) ← tablesOf g
  match Parser.program? source with
  | none => fail "SyntaxError" "invalid syntax"
  | some (body, names) =>
    let names := { names with owned := names.owned ++ (← namesIn locals) }
    runModule ev { names, locals, globals, enclosing := [] } body
    return .none

/-! ## Attributes -/

/-- The names of the attributes of a value. -/
def attributeNames (ev : Evaluator) (v : Value) : Act Value := do
  match ← callSpecial? ev v "__dir__" [] with
  | some names => makeList (← sortValues ev .none false (← itemsOf ev names))
  | none =>
    let isCls ← isClass v
    let classes ← if isCls then orderOf v else orderOf (← classOf v)
    let own ← match ← objectOf v with
      | some (.module _ names) => entriesAt names
      | some (.instance_ _ attributes _) => entriesAt attributes
      | _ => pure []
    let inherited ← match ← objectOf v with
      | some (.module ..) => pure []
      | _ =>
        classes.foldlM
          (fun (done : Entries) cls => do
            match cls with
            | .kind k => return mergeEntries done ((Kind.methods k).map fun n => (.ofString n, .none))
            | cls =>
              match ← objectOf cls with
              | some (.cls c) => return mergeEntries done (← entriesAt c.attributes)
              | _ => return done)
          []
    makeList (sortedNames (mergeEntries own inherited))

/-- An attribute of a value, or a default. -/
def attributeOr (ev : Evaluator) (g : Given) : Act Value := do
  let name ← nameArgument "attribute name" (g.at_ 1)
  match g.byPlace[2]? with
  | none => attributeOf ev g.first name
  | some default =>
    try attributeOf ev g.first name
    catch raised => if ← isRaised raised "AttributeError" then return default else throw raised

/-- A value has an attribute. -/
def hasAttribute (ev : Evaluator) (v : Value) (name : String) : Act Bool := do
  try
    let _ ← attributeOf ev v name
    return true
  catch raised => if ← isRaised raised "AttributeError" then return false else throw raised

/-! ## Texts and numbers -/

/-- A whole number as text in a base. -/
def basedText (ev : Evaluator) (base : Nat) (mark : String) (v : Value) : Act Value := do
  let n ← intOf ev v
  let sign := if n < 0 then "-" else ""
  return .text (ofString (sign ++ mark) ++ CodePoints.digits base n.natAbs)

/-- A number that stands for a value in a table. -/
def hashOf (ev : Evaluator) (v : Value) : Act Value := do
  match ← callSpecial? ev v "__hash__" [] with
  | some n => return n
  | none =>
    match ← keyOf v with
    | .object address => return .ofNat (0x7F0000000000 + 16 * address)
    | key =>
      match key.int? with
      | some n => return .int (Int.tmod n (Nat.pow 2 61 - 1 : Nat))
      | none =>
        let text ← reprOf ev key
        return .ofNat (text.foldl (fun h n => (h * 1000003 + n) % Nat.pow 2 61) 7)

/-- Read a line of the input. -/
def readInput (ev : Evaluator) (g : Given) : Act Value := do
  match g.byPlace with
  | [] => pure ()
  | v :: _ =>
    let out ← match ← moduleValue? "sys" "stdout" with
      | some out => pure out
      | none => pure .none
    let _ ← ev.call (← attributeOf ev out "write") [.text (← textOf ev v)] []
  match ← moduleValue? "sys" "stdin" with
  | none => fail "RuntimeError" "input(): lost sys.stdin"
  | some source =>
    match ← plain (← ev.call (← attributeOf ev source "readline") [] []) with
    | .text [] => fail "EOFError" "EOF when reading a line"
    | .text t => return .text (if t.getLast? = some 0x0A then t.dropLast else t)
    | v => return v

/-! ## All of them -/

/-- The names of the functions that every module knows. -/
def commonFunctions : List String :=
  ["abs", "all", "any", "ascii", "bin", "callable", "chr", "compile", "delattr", "dir", "divmod",
   "eval", "exec", "exit", "format", "getattr", "globals", "hasattr", "hash", "hex", "id", "input",
   "isinstance", "issubclass", "iter", "len", "locals", "max", "min", "next", "oct", "open", "ord",
   "pow", "print", "quit", "repr", "round", "setattr", "sorted", "sum", "vars", "__import__"]

/-- Carry out a function that every module knows. -/
def commonFunction (ev : Evaluator) (name : String) (g : Given) : Act Value := do
  let v := g.first
  match name with
  | "abs" =>
    match ← callSpecial? ev v "__abs__" [] with
    | some r => return r
    | none =>
      match absolute? (← plain v) with
      | some r => return r
      | none =>
        let kind ← kindName v
        fail "TypeError" s!"bad operand type for abs(): '{kind}'"
  | "all" => return .bool (← (← itemsOf ev v).allM (truth ev))
  | "any" =>
    let source ← iterOf ev v
    anyTrue source longestSearch
  | "ascii" =>
    let text ← reprOf ev v
    return .text (text.flatMap fun n => if n < 0x80 then [n] else CodePoints.escaped n)
  | "bin" => basedText ev 2 "0b" v
  | "oct" => basedText ev 8 "0o" v
  | "hex" => basedText ev 16 "0x" v
  | "callable" => return .bool (← isCallable v)
  | "chr" =>
    let n ← intOf ev v
    if 0 ≤ n ∧ n < 0x110000 then return .text [n.toNat]
    else fail "ValueError" "chr() arg not in range(0x110000)"
  | "ord" =>
    match ← plain v, ← bytes? v with
    | .text [n], _ => return .ofNat n
    | _, some [b] => return .ofNat b.toNat
    | .text t, _ =>
      fail "TypeError" s!"ord() expected a character, but string of length {t.length} found"
    | _, _ =>
      let kind ← kindName v
      fail "TypeError" s!"ord() expected string of length 1, but {kind} found"
  | "compile" => return v
  | "eval" => evalSource ev g
  | "exec" => execSource ev g
  | "delattr" =>
    eraseAttribute ev v (← nameArgument "attribute name" (g.at_ 1))
    return .none
  | "setattr" =>
    setAttribute ev v (← nameArgument "attribute name" (g.at_ 1)) (g.at_ 2)
    return .none
  | "getattr" => attributeOr ev g
  | "hasattr" => return .bool (← hasAttribute ev v (← nameArgument "attribute name" (g.at_ 1)))
  | "dir" => attributeNames ev v
  | "vars" => attributeOf ev v "__dict__"
  | "divmod" =>
    let w := g.at_ 1
    return .tuple [← operate ev .floorDivide v w, ← operate ev .remainder v w]
  | "exit" | "quit" => failWith "SystemExit" g.byPlace
  | "format" =>
    match ← plain (g.at_ 1) with
    | .text t => return .text (← inForm ev v t)
    | _ => return .text (← inForm ev v [])
  | "hash" => hashOf ev v
  | "id" =>
    match v with
    | .object address => return .ofNat (0x7F0000000000 + 16 * address)
    | v => hashOf ev v
  | "input" => readInput ev g
  | "isinstance" => return .bool (← isInstance ev v deepestClasses (g.at_ 1))
  | "issubclass" => return .bool (← isSubclass ev v deepestClasses (g.at_ 1))
  | "iter" =>
    match g.byPlace with
    | [f, last] => make (.iterator (.calls f last))
    | _ => iterOf ev v
  | "len" => return .ofNat (← lengthOf ev v)
  | "max" | "min" => extreme ev name g
  | "next" =>
    match g.byPlace[1]? with
    | none => nextValue ev v
    | some default =>
      try nextValue ev v
      catch raised => if ← isRaised raised "StopIteration" then return default else throw raised
  | "open" => openFile ev g
  | "pow" =>
    match g.get 2 "mod" with
    | .none => operate ev .power v (g.get 1 "exp")
    | m =>
      let base ← intOf ev v
      let exponent ← intOf ev (g.get 1 "exp")
      let modulus ← intOf ev m
      if modulus = 0 then fail "ValueError" "pow() 3rd argument cannot be 0"
      let r := powerModulo (base % modulus).toNat modulus.natAbs (bitLength exponent.toNat + 1)
        exponent.toNat (1 % modulus.natAbs)
      return .ofNat r
  | "print" => printValues ev g
  | "repr" => return .text (← shown ev v)
  | "round" => roundNumber ev v (g.get 1 "ndigits")
  | "sorted" =>
    let reverse ← truth ev ((g.named? "reverse").getD .none)
    makeList (← sortValues ev ((g.named? "key").getD .none) reverse (← itemsOf ev v))
  | "sum" => sumOf ev g
  | "globals" | "locals" => return .none
  | "__import__" => ev.call (.provided "importlib.import_top") g.byPlace g.byName
  | n => fail "NameError" s!"name '{n}' is not defined"
where
  /-- Some value that is left in an iterator counts as true. -/
  anyTrue (source : Value) : Nat → Act Value
    | 0 => return .bool false
    | n + 1 => do
      match ← step ev source with
      | none => return .bool false
      | some v => if ← truth ev v then return .bool true else anyTrue source n

/-! ## Operators as functions -/

/-- The comparators by the names of their functions. -/
def comparatorOf? (name : String) : Option Comparator :=
  match name with
  | "eq" => some .equal
  | "ne" => some .notEqual
  | "lt" => some .less
  | "le" => some .lessOrEqual
  | "gt" => some .greater
  | "ge" => some .greaterOrEqual
  | "is_" => some .identical
  | "is_not" => some .notIdentical
  | _ => none

/-- The operator of a stem. -/
def operatorOf? (stem : String) : Option Operator := Operator.all.find? fun o => o.stem == stem

/-- The names of the functions of the module `operator`. -/
def operatorFunctions : List String :=
  Operator.all.map (fun o => if o = .bitAnd ∨ o = .bitOr then o.stem ++ "_" else o.stem)
    ++ Operator.all.map (fun o => "i" ++ o.stem)
    ++ ["eq", "ne", "lt", "le", "gt", "ge", "is_", "is_not", "not_", "truth", "neg", "pos", "invert",
        "inv", "abs", "index", "getitem", "setitem", "delitem", "contains", "concat", "countOf",
        "indexOf", "length_hint"]

/-- Carry out a function of the module `operator`. -/
def operatorFunction (ev : Evaluator) (name : String) (g : Given) : Act Value := do
  let a := g.first
  let b := g.at_ 1
  match comparatorOf? name with
  | some c => compare ev c a b
  | none =>
    let stem := if name.endsWith "_" then (name.dropEnd 1).toString else name
    match name, operatorOf? stem, operatorOf? (name.drop 1).toString with
    | "not_", _, _ => return .bool !(← truth ev a)
    | "truth", _, _ => return .bool (← truth ev a)
    | _, some o, _ => operate ev o a b
    | "neg", _, _ => operateUnary ev .negate a
    | "pos", _, _ => operateUnary ev .plus a
    | "invert", _, _ | "inv", _, _ => operateUnary ev .invert a
    | "abs", _, _ => commonFunction ev "abs" g
    | "index", _, _ => return .int (← intOf ev a)
    | "getitem", _, _ => itemOf ev a b
    | "setitem", _, _ =>
      setItem ev a b (g.at_ 2)
      return .none
    | "delitem", _, _ =>
      eraseItem ev a b
      return .none
    | "contains", _, _ => return .bool (← contains ev a b)
    | "concat", _, _ => operate ev .add a b
    | "countOf", _, _ => countAmong ev b (← itemsOf ev a)
    | "indexOf", _, _ => indexAmong ev "sequence" (← itemsOf ev a) { byPlace := [b] }
    | "length_hint", _, _ => return .ofNat (← itemsOf ev a).length
    | n, _, o =>
      match n.startsWith "i", o with
      | true, some o => operateInPlace ev o a b
      | _, _ => fail "AttributeError" s!"module 'operator' has no attribute '{n}'"

end Handover.Interpreter
