/-
  The values of expressions, and giving values to targets.

  A name is looked for in the piece of code that owns it, then in those around it, in its module,
  and among the names that every module knows.  The body of a class is no such piece for the
  functions in it.
-/
import Handover.Interpreter.Operation

namespace Handover.Interpreter

/-! ## Names -/

namespace Frame

/-- The frame is that of a module. -/
def isModule (f : Frame) : Bool := f.locals == f.globals

/-- The frame is that of a function. -/
def isFunction (f : Frame) : Bool := !f.isModule && f.ownClass.isNone

/-- The pieces of code around a function that is made in a frame. -/
def inside (f : Frame) : List (Nat × List String) :=
  match f.ownClass with
  | some cell => (cell, ["__class__"]) :: f.enclosing
  | none => if f.isModule then f.enclosing else (f.locals, f.names.owned) :: f.enclosing

/-- The table of the piece of code around a frame that owns a name. -/
def outer? (f : Frame) (name : String) : Option Nat :=
  (f.enclosing.find? fun e => e.2.contains name).map Prod.fst

end Frame

/-- A name that is known in the whole module, or in every module. -/
def globalName (f : Frame) (name : String) : Act Value := do
  match ← name? f.globals name with
  | some value => return value
  | none =>
    match ← name? (← get).common name with
    | some value => return value
    | none => fail "NameError" s!"name '{name}' is not defined"

/-- The value of a name. -/
def loadName (f : Frame) (name : String) : Act Value := do
  if f.names.shared.contains name then globalName f name
  else
    let here ← if f.names.owned.contains name then name? f.locals name else pure none
    match here with
    | some value => return value
    | none =>
      if f.isFunction && f.names.owned.contains name then
        fail "UnboundLocalError"
          s!"cannot access local variable '{name}' where it is not associated with a value"
      else
        match f.outer? name with
        | none => globalName f name
        | some table =>
          match ← name? table name with
          | some value => return value
          | none =>
            fail "NameError"
              ("cannot access free variable '" ++ name
                ++ "' where it is not associated with a value in enclosing scope")

/-- The table in which a name gets its value. -/
def tableFor (f : Frame) (name : String) : Nat :=
  if f.names.shared.contains name then f.globals
  else if f.names.owned.contains name then f.locals
  else (f.outer? name).getD f.globals

/-- Give a name a value. -/
def storeName (f : Frame) (name : String) (value : Value) : Act Unit :=
  setName (tableFor f name) name value

/-! ## Parts -/

/-- Several values of expressions, where a spread stands for all items of its value. -/
def evalItems (ev : Evaluator) (f : Frame) : List Expr → Act (List Value)
  | [] => return []
  | .spread e :: rest => do
    let items ← itemsOf ev (← ev.eval f e)
    return items ++ (← evalItems ev f rest)
  | e :: rest => do
    let value ← ev.eval f e
    return value :: (← evalItems ev f rest)

/-- The entries of a value that is like a dictionary. -/
def entriesOf (ev : Evaluator) (v : Value) : Act Entries := do
  let direct ← match ← special? v "keys" with
    | some _ => pure none
    | none => dictOf? v
  match direct with
  | some entries => return entries
  | none =>
    match ← attribute? ev v "keys" with
    | none =>
      let kind ← kindName v
      fail "TypeError" s!"'{kind}' object is not a mapping"
    | some keys => do
      let keys ← itemsOf ev (← ev.call keys [] [])
      keys.mapM fun k => do return (← keyOf k, ← itemOf ev v k)

/-- The arguments of a call, those given by place and those given by name. -/
def evalArguments (ev : Evaluator) (f : Frame) :
    List Expr → Act (List Value × List (String × Value))
  | [] => return ([], [])
  | e :: rest => do
    let (values, named) ← match e with
      | .spread e => do pure (← itemsOf ev (← ev.eval f e), [])
      | .spreadNamed e => do
        let entries ← entriesOf ev (← ev.eval f e)
        let named ← entries.mapM fun e => do
          match ← plain e.1 with
          | .text t => return (t.display, e.2)
          | _ => fail "TypeError" "keywords must be strings"
        pure ([], named)
      | .named n e => do pure ([], [(n, ← ev.eval f e)])
      | e => do pure ([← ev.eval f e], [])
    let (moreValues, moreNamed) ← evalArguments ev f rest
    return (values ++ moreValues, named ++ moreNamed)

/-- The entries of a dictionary that is written out. -/
def evalEntries (ev : Evaluator) (f : Frame) (done : Entries) : List Expr → Act Entries
  | [] => return done
  | .pair k v :: rest => do
    let key ← keyOf (← ev.eval f k)
    let value ← ev.eval f v
    evalEntries ev f (done.put key value) rest
  | .spreadNamed e :: rest => do
    evalEntries ev f (mergeEntries done (← entriesOf ev (← ev.eval f e))) rest
  | _ :: rest => evalEntries ev f done rest

/-- A set of values. -/
def makeSet (items : List Value) (frozen : Bool) : Act Value := do
  let keys ← items.mapM keyOf
  let distinct := keys.foldl (fun (done : List Value) k => if done.any k.same then done else k :: done) []
  make (.set distinct.reverse frozen)

/-- A chain of comparisons. -/
def evalComparisons (ev : Evaluator) (f : Frame) (left : Value) :
    List Comparator → List Expr → Act Value
  | c :: more, e :: rest => do
    let right ← ev.eval f e
    let answer ← compare ev c left right
    if more.isEmpty then return answer
    else if ← truth ev answer then evalComparisons ev f right more rest
    else return answer
  | _, _ => return .bool true

/-- The text of a text with holes. -/
def evalPieces (ev : Evaluator) (f : Frame) : Nat → List Expr → Act CodePoints
  | 0, _ | _, [] => return []
  | fuel + 1, e :: rest => do
    let here ← match e with
      | .constant (.text t) => pure t
      | .hole e conversion form => do
        let value ← ev.eval f e
        let value ← match conversion with
          | some 'r' => pure (.text (← reprOf ev value))
          | some 's' => pure (.text (← textOf ev value))
          | some 'a' => ev.call (.provided "ascii") [value] []
          | _ => pure value
        let form ← evalPieces ev f fuel form
        match ← ev.call (.provided "format") [value, .text form] [] with
        | .text t => pure t
        | _ => pure []
      | _ => pure []
    return here ++ (← evalPieces ev f fuel rest)

/-! ## Functions -/

/-- A function made from its code. -/
def makeFunction (ev : Evaluator) (f : Frame) (code : Code) : Act Value := do
  let defaults ← code.defaults.mapM (ev.eval f)
  let names := (code.parameters.filter Parameter.hasDefault).map Parameter.name
  make (.function
    { code, defaults := names.zip defaults, globals := f.globals, enclosing := f.inside
      attributes := ← alloc (.dict []) })

/-- What the loops inside an expression hand out. -/
def makeLoops (ev : Evaluator) (f : Frame) (code : Code) (source : Value) : Act Value := do
  let locals ← makeTable
    ((code.parameters.head?.toList.map Parameter.name).zip [← iterOf ev source])
  let frame : Frame := { names := code.names, locals, globals := f.globals, enclosing := f.inside }
  make (.generator frame [.block code.body] .fresh)

/-- What is collected from the loops inside an expression. -/
def collect (ev : Evaluator) (collecting : Collecting) (loops : Value) : Act Value := do
  match collecting with
  | .nothing => return loops
  | .list => makeList (← itemsOf ev loops)
  | .set => makeSet (← itemsOf ev loops) false
  | .dict =>
    let entries ← (← itemsOf ev loops).foldlM
      (fun (done : Entries) item => do
        match item with
        | .tuple [k, v] => return done.put (← keyOf k) v
        | _ => return done)
      []
    makeDict entries

/-! ## Calls that look at the frame -/

/-- An object as seen from above the class in whose body the running function stands. -/
def fromAbove (f : Frame) : Act Value := do
  let cls ← match f.outer? "__class__" with
    | some table => name? table "__class__"
    | none => pure none
  let self ← match f.first with
    | some name => name? f.locals name
    | none => pure none
  match cls, self with
  | some cls, some self => make (.above cls self)
  | _, _ => fail "RuntimeError" "super(): no arguments"

/-- The names in a table, in order. -/
def sortedNames (entries : Entries) : List Value :=
  let names := entries.filterMap fun e => e.1.text?
  (names.mergeSort fun s t => !decide (t < s)).map .text

/-- A call whose answer depends on where it stands; `none` if it is none. -/
def callInFrame? (ev : Evaluator) (f : Frame) (callee : Value) (args : List Value) :
    Act (Option Value) := do
  match callee, args with
  | .kind "super", [] => return some (← fromAbove f)
  | .provided "globals", [] => return some (.object f.globals)
  | .provided "locals", [] | .provided "vars", [] => return some (.object f.locals)
  | .provided "dir", [] => return some (← makeList (sortedNames (← entriesAt f.locals)))
  | .provided "eval", [_] | .provided "exec", [_] =>
    return some (← ev.call callee (args ++ [.object f.globals, .object f.locals]) [])
  | .provided "__import__", [_] =>
    return some (← ev.call callee (args ++ [.object f.globals]) [])
  | _, _ => return none

/-! ## Expressions -/

/-- How deep the pieces of texts with holes are nested at most. -/
def deepestPieces : Nat := 1000

/-- The value of an expression. -/
def evaluate (ev : Evaluator) (f : Frame) (e : Expr) : Act Value := do
  match e with
  | .constant v => return v
  | .name n => loadName f n
  | .joined pieces => return .text (← evalPieces ev f deepestPieces pieces)
  | .tuple items => return .tuple (← evalItems ev f items)
  | .list items => makeList (← evalItems ev f items)
  | .set items => makeSet (← evalItems ev f items) false
  | .dict entries => makeDict (← evalEntries ev f [] entries)
  | .attribute owner name => attributeOf ev (← ev.eval f owner) name
  | .item owner key => do
    let owner ← ev.eval f owner
    itemOf ev owner (← ev.eval f key)
  | .slice a b c => do
    let part := fun (e : Option Expr) => match e with
      | some e => ev.eval f e
      | none => return .none
    return .slice (← part a) (← part b) (← part c)
  | .call callee args => do
    let callee ← ev.eval f callee
    let (values, named) ← evalArguments ev f args
    match ← (if named.isEmpty then callInFrame? ev f callee values else pure none) with
    | some v => return v
    | none => ev.call callee values named
  | .unary o e => do operateUnary ev o (← ev.eval f e)
  | .binary o l r => do
    let left ← ev.eval f l
    operate ev o left (← ev.eval f r)
  | .compare first comparators rest => do
    evalComparisons ev f (← ev.eval f first) comparators rest
  | .conjunction l r => do
    let left ← ev.eval f l
    if ← truth ev left then ev.eval f r else return left
  | .disjunction l r => do
    let left ← ev.eval f l
    if ← truth ev left then return left else ev.eval f r
  | .choice c yes no => do
    if ← truth ev (← ev.eval f c) then ev.eval f yes else ev.eval f no
  | .function code => makeFunction ev f code
  | .collected collecting code source => do
    collect ev collecting (← makeLoops ev f code (← ev.eval f source))
  | .assigned name e => do
    let value ← ev.eval f e
    storeName f name value
    return value
  | .hole .. | .pair .. | .spread _ | .spreadNamed _ | .named .. =>
    fail "SyntaxError" "invalid syntax"

/-! ## Targets -/

/-- Share items among targets, of which one may take all that the others leave. -/
def shareItems (targets : List Expr) (items : List Value) : Act (List (Expr × Value)) := do
  let isSpread := fun (e : Expr) => match e with
    | .spread _ => true
    | _ => false
  let before := targets.takeWhile fun t => !isSpread t
  match targets.drop before.length with
  | .spread t :: after => do
    if items.length < before.length + after.length then
      fail "ValueError"
        (s!"not enough values to unpack (expected at least {before.length + after.length}, "
          ++ s!"got {items.length})")
    let middle := (items.drop before.length).take (items.length - before.length - after.length)
    return before.zip items ++ (t, ← makeList middle)
      :: after.zip (items.drop (before.length + middle.length))
  | _ =>
    if items.length < targets.length then
      fail "ValueError"
        s!"not enough values to unpack (expected {targets.length}, got {items.length})"
    else if targets.length < items.length then
      fail "ValueError" s!"too many values to unpack (expected {targets.length})"
    else return targets.zip items

/-- Give a target a value. -/
def assign (ev : Evaluator) (f : Frame) : Nat → Expr → Value → Act Unit
  | 0, _, _ => fail "RecursionError" "maximum recursion depth exceeded"
  | fuel + 1, target, value => do
    match target with
    | .name n => storeName f n value
    | .attribute owner name => do setAttribute ev (← ev.eval f owner) name value
    | .item owner key => do
      let owner ← ev.eval f owner
      setItem ev owner (← ev.eval f key) value
    | .tuple targets | .list targets => do
      let kind ← kindName value
      let items ← try itemsOf ev value catch raised =>
        if ← isRaised raised "TypeError" then
          fail "TypeError" s!"cannot unpack non-iterable {kind} object"
        else throw raised
      for (t, v) in ← shareItems targets items do assign ev f fuel t v
    | .spread t => assign ev f fuel t value
    | _ => fail "SyntaxError" "cannot assign to expression"

/-- The deepest nesting of targets. -/
def deepestTarget : Nat := 100

/-- Give a target a value. -/
def assignTo (ev : Evaluator) (f : Frame) (target : Expr) (value : Value) : Act Unit :=
  assign ev f deepestTarget target value

/-- Take a target away. -/
def eraseTarget (ev : Evaluator) (f : Frame) (target : Expr) : Act Unit := do
  match target with
  | .name n =>
    let table := tableFor f n
    match ← name? table n with
    | some _ => eraseName table n
    | none => fail "NameError" s!"name '{n}' is not defined"
  | .attribute owner name => do eraseAttribute ev (← ev.eval f owner) name
  | .item owner key => do
    let owner ← ev.eval f owner
    eraseItem ev owner (← ev.eval f key)
  | _ => fail "SyntaxError" "cannot delete expression"

/-! ## Patterns -/

/-- The attributes that a class matches by place. -/
def matchedNames (ev : Evaluator) (cls : Value) : Act (List String) := do
  match ← attribute? ev cls "__match_args__" with
  | some names => return (← itemsOf ev names).filterMap fun v => v.text?.map CodePoints.display
  | none => return []

/-- The classes that match their own value by place. -/
def matchesItself (cls : Value) : Bool :=
  match cls with
  | .kind k =>
    ["bool", "bytearray", "bytes", "dict", "float", "frozenset", "int", "list", "set", "str",
     "tuple"].contains k
  | _ => false

/-- A value matches a pattern; the names in the pattern get their values. -/
def matchPattern (ev : Evaluator) (f : Frame) : Nat → Expr → Value → Act Bool
  | 0, _, _ => return false
  | fuel + 1, pattern, v => do
    match pattern with
    | .name "_" => return true
    | .name n => do
      storeName f n v
      return true
    | .constant (.bool b) => return v.isIdentical (.bool b)
    | .constant .none => return v.isNone
    | .assigned n p => do
      if ← matchPattern ev f fuel p v then
        storeName f n v
        return true
      else return false
    | .binary .bitOr l r => do
      if ← matchPattern ev f fuel l v then return true else matchPattern ev f fuel r v
    | .list patterns => do
      let items ← match ← plain v with
        | .tuple items => pure (some items)
        | .range a b c => pure (some (Value.rangeItems a b c))
        | bare => match ← objectOf bare with
          | some (.list items) => pure (some items)
          | _ => pure none
      match items with
      | none => return false
      | some items => matchItems fuel patterns items
    | .dict patterns => do
      match ← dictOf? v with
      | none => return false
      | some entries => matchEntries fuel entries patterns
    | .call cls patterns => do
      let cls ← ev.eval f cls
      match ← ev.call (.provided "isinstance") [v, cls] [] with
      | .bool true =>
        let names ← matchedNames ev cls
        matchAttributes fuel cls v names patterns
      | _ => return false
    | e => do equal ev v (← ev.eval f e)
where
  /-- The items of a sequence match patterns, of which one may take several. -/
  matchItems (fuel : Nat) (patterns : List Expr) (items : List Value) : Act Bool := do
    let spreads := patterns.filter fun
      | .spread _ => true
      | _ => false
    if spreads.isEmpty && patterns.length != items.length then return false
    else if items.length + spreads.length < patterns.length then return false
    else
      let pairs ← shareItems patterns items
      pairs.allM fun (p, v) => matchPattern ev f fuel p v
  /-- The entries of a dictionary match patterns. -/
  matchEntries (fuel : Nat) (entries : Entries) (patterns : List Expr) : Act Bool := do
    match fuel, patterns with
    | _, [] => return true
    | 0, _ => return false
    | fuel + 1, .pair k p :: rest =>
      let key ← keyOf (← ev.eval f k)
      match entries.find? key with
      | none => return false
      | some v =>
        if ← matchPattern ev f fuel p v then matchEntries fuel (entries.erase key) rest
        else return false
    | _, .spreadNamed (.name n) :: _ =>
      storeName f n (← makeDict entries)
      return true
    | _, _ => return false
  /-- The attributes of an object match patterns. -/
  matchAttributes (fuel : Nat) (cls v : Value) (names : List String) (patterns : List Expr) :
      Act Bool := do
    match fuel, patterns with
    | _, [] => return true
    | 0, _ => return false
    | fuel + 1, .named n p :: rest =>
      match ← attribute? ev v n with
      | none => return false
      | some part =>
        if ← matchPattern ev f fuel p part then matchAttributes fuel cls v names rest
        else return false
    | fuel + 1, p :: rest =>
      if matchesItself cls && names.isEmpty then
        if ← matchPattern ev f fuel p v then matchAttributes fuel cls v [] rest else return false
      else
        match names with
        | n :: names =>
          match ← attribute? ev v n with
          | none => return false
          | some part =>
            if ← matchPattern ev f fuel p part then matchAttributes fuel cls v names rest
            else return false
        | [] => return false

end Handover.Interpreter
