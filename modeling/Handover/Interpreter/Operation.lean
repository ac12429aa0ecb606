/-
  Operators, comparisons and items.

  A class may carry out any operation itself: first the class of the left operand is asked, then,
  for the operation with its operands exchanged, that of the right one.  What neither handles is
  done here for the provided kinds of values.
-/
import Handover.Interpreter.Iteration
import Handover.Interpreter.Shown

namespace Handover.Interpreter

/-! ## Truth -/

/-- The value counts as true. -/
def truth (ev : Evaluator) (v : Value) : Act Bool := do
  match v with
  | .none => return false
  | .bool b => return b
  | .int n => return n != 0
  | .float x => return x != 0.0
  | .text t => return !t.isEmpty
  | .bytes b => return !b.isEmpty
  | .tuple items => return !items.isEmpty
  | .range a b c => return Value.rangeLength a b c != 0
  | .object _ =>
    match ← callSpecial? ev v "__bool__" [] with
    | some (.bool b) => return b
    | some _ => fail "TypeError" "__bool__ should return bool"
    | none =>
      match ← callSpecial? ev v "__len__" [] with
      | some n => return n.int?.getD 0 != 0
      | none =>
        match ← objectOf v with
        | some (.list items) | some (.set items _) => return !items.isEmpty
        | some (.dict entries) => return !entries.isEmpty
        | some (.byteArray b) => return !b.isEmpty
        | some (.view _ dict) => return !(← entriesAt dict).isEmpty
        | some (.instance_ kind _ payload) =>
          if payload.isNone || (← isBelow kind (.kind "BaseException")) then return true
          else return !(← ev.call (.provided "operator.not_") [payload] []).same (.bool true)
        | _ => return true
  | _ => return true

/-! ## Equality -/

/-- Two values are equal. -/
def equal (ev : Evaluator) (a b : Value) : Act Bool := do
  if a.isIdentical b then return true
  else truth ev (← ev.call (.provided "operator.eq") [a, b] [])

/-- Two lists hold equal values. -/
def equalItems (ev : Evaluator) : List Value → List Value → Act Bool
  | [], [] => return true
  | a :: as, b :: bs => do
    if ← equal ev a b then equalItems ev as bs else return false
  | _, _ => return false

/-- A value is among others. -/
def isAmong (ev : Evaluator) (v : Value) : List Value → Act Bool
  | [] => return false
  | w :: rest => do
    if ← equal ev w v then return true else isAmong ev v rest

/-- A value cannot be a key. -/
def refuseKey {α : Type} (kind : String) : Act α :=
  fail "TypeError" s!"unhashable type: '{kind}'"

/-- A key as it is looked for in a dictionary; what can change is no key. -/
def keyOf (v : Value) : Act Value := do
  match ← plain v with
  | .tuple items =>
    for item in items do
      match ← objectOf item with
      | some (.list _) => refuseKey "list"
      | some (.dict _) => refuseKey "dict"
      | some (.set _ false) => refuseKey "set"
      | _ => pure ()
    return .tuple items
  | bare =>
    match ← objectOf bare with
    | some (.list _) => refuseKey "list"
    | some (.dict _) => refuseKey "dict"
    | some (.set _ false) => refuseKey "set"
    | some (.byteArray _) => refuseKey "bytearray"
    | some (.instance_ cls ..) =>
      if (← isBelow cls (.kind "BaseException")) then return v else return bare
    | _ => return bare

/-- The entries of a dictionary, of a view of it, or of an instance that is based on one. -/
def dictOf? (v : Value) : Act (Option Entries) := do
  match ← plainObject v with
  | some (.dict entries) => return some entries
  | _ => return none

/-- All entries of one dictionary are in another. -/
def entriesWithin (ev : Evaluator) (other : Entries) : Entries → Act Bool
  | [] => return true
  | (k, v) :: rest => do
    match other.find? k with
    | none => return false
    | some w => if ← equal ev v w then entriesWithin ev other rest else return false

/-- The items of a set, or of a part of a dictionary that is like one. -/
def setItems? (v : Value) : Act (Option (List Value)) := do
  match ← plainObject v with
  | some (.set items _) => return some items
  | some (.view .keys dict) => return some ((← entriesAt dict).map Prod.fst)
  | some (.view .items dict) => return some ((← entriesAt dict).map fun e => .tuple [e.1, e.2])
  | _ => return none

/-- The bytes of a value that has some. -/
def bytes? (v : Value) : Act (Option Bytes) := do
  match ← plain v with
  | .bytes b => return some b
  | bare =>
    match ← objectOf bare with
    | some (.byteArray b) => return some b
    | _ => return none

/-- Two values of provided kinds are equal. -/
def equalProvided (ev : Evaluator) (a b : Value) : Act Bool := do
  let a ← plain a
  let b ← plain b
  match a, b with
  | .tuple s, .tuple t => equalItems ev s t
  | .range p q r, .range x y z =>
    return Value.rangeLength p q r == Value.rangeLength x y z
      && ((Value.rangeItems p q r).zip (Value.rangeItems x y z)).all fun e => e.1.same e.2
  | .object m, .object n =>
    if m == n then return true
    else
      match ← object? m, ← object? n with
      | some (.list s), some (.list t) => equalItems ev s t
      | some (.dict s), some (.dict t) =>
        if s.length = t.length then entriesWithin ev t s else return false
      | some (.byteArray s), some (.byteArray t) => return s == t
      | _, _ =>
        match ← setItems? a, ← setItems? b with
        | some s, some t => return s.length == t.length && s.all fun x => t.any x.same
        | _, _ => return false
  | a, b =>
    match ← bytes? a, ← bytes? b with
    | some s, some t => return s == t
    | _, _ => return a.same b

/-! ## Order -/

/-- An operation is not defined for its operands. -/
def refuseComparison {α : Type} (c : Comparator) (a b : Value) : Act α := do
  let left ← kindName a
  let right ← kindName b
  fail "TypeError"
    s!"'{c.sign}' not supported between instances of '{left}' and '{right}'"

/-- The answer of a comparison of things that can be ordered. -/
def ordered (c : Comparator) (less same : Bool) : Bool :=
  match c with
  | .less => less
  | .lessOrEqual => less || same
  | .greater => !less && !same
  | _ => !less

/-- The order of two lists is that of their first items that differ, else that of their lengths. -/
def orderedItems (ev : Evaluator) (c : Comparator) : List Value → List Value → Act Value
  | a :: as, b :: bs => do
    if ← equal ev a b then orderedItems ev c as bs
    else ev.call (.provided ("operator." ++ (c.method.drop 2 |>.dropEnd 2).toString)) [a, b] []
  | as, bs => return .bool (ordered c (as.isEmpty && !bs.isEmpty) (as.isEmpty && bs.isEmpty))

/-- The order of two values of provided kinds. -/
def orderedProvided (ev : Evaluator) (c : Comparator) (left right : Value) : Act Value := do
  let a ← plain left
  let b ← plain right
  match a.int?, b.int? with
  | some m, some n => return .bool (ordered c (decide (m < n)) (m == n))
  | _, _ =>
    match a.float?, b.float? with
    | some x, some y =>
      return .bool <| match c with
        | .less => x < y
        | .lessOrEqual => x <= y
        | .greater => x > y
        | _ => x >= y
    | _, _ =>
      match a, b with
      | .text s, .text t => return .bool (ordered c (decide (s < t)) (s == t))
      | .tuple s, .tuple t => orderedItems ev c s t
      | a, b =>
        match ← bytes? a, ← bytes? b with
        | some s, some t =>
          return .bool (ordered c (decide (s.map UInt8.toNat < t.map UInt8.toNat)) (s == t))
        | _, _ =>
          match ← objectOf a, ← objectOf b with
          | some (.list s), some (.list t) => orderedItems ev c s t
          | _, _ =>
            match ← setItems? a, ← setItems? b with
            | some s, some t =>
              let within := fun (s t : List Value) => s.all fun x => t.any x.same
              return .bool <| match c with
                | .less => within s t && s.length != t.length
                | .lessOrEqual => within s t
                | .greater => within t s && s.length != t.length
                | _ => within t s
            | _, _ => refuseComparison c left right

/-! ## Items -/

/-- A whole number that a value stands for, where a place is asked for. -/
def index? (ev : Evaluator) (v : Value) : Act (Option Int) := do
  match (← plain v).int? with
  | some n => return some n
  | none =>
    match ← callSpecial? ev v "__index__" [] with
    | some n => return n.int?
    | none => return none

/-- The places that a part of a sequence of some length takes: the first, the step, and how many. -/
def sliceOf (ev : Evaluator) (length : Nat) (start stop step : Value) : Act (Int × Int × Nat) := do
  let bound := fun (v : Value) => do
    if v.isNone then return none
    else
      match ← index? ev v with
      | some n => return some n
      | none =>
        fail "TypeError"
          "slice indices must be integers or None or have an __index__ method"
  let n : Int := length
  let step := (← bound step).getD 1
  if step = 0 then fail "ValueError" "slice step cannot be zero"
  let low : Int := if step < 0 then -1 else 0
  let high : Int := if step < 0 then n - 1 else n
  let place := fun (b : Option Int) (default : Int) => match b with
    | none => default
    | some i => if i < 0 then max (i + n) low else min i high
  let first := place (← bound start) (if step < 0 then high else low)
  let last := place (← bound stop) (if step < 0 then low else high)
  return (first, step, Value.rangeLength first last step)

/-- The items at places. -/
def pick {α : Type} (items : List α) (first step : Int) (count : Nat) : List α :=
  if step = 1 then (items.drop first.toNat).take count
  else
    let all := items.toArray
    (List.range count).filterMap fun (k : Nat) => all[(first + step * k).toNat]?

/-- The place of an item in a sequence. -/
def placeOf (ev : Evaluator) (what : String) (length : Nat) (key : Value) : Act Nat := do
  match ← index? ev key with
  | some i =>
    let i := if i < 0 then i + length else i
    if i < 0 ∨ (length : Int) ≤ i then fail "IndexError" s!"{what} index out of range"
    else return i.toNat
  | none =>
    let kind ← kindName key
    let what := if what = "string" then "string indices must be integers"
      else what ++ " indices must be integers or slices"
    fail "TypeError" s!"{what}, not '{kind}'"

/-- An item of a sequence, or a part of it. -/
def sequenceItem {α : Type} (ev : Evaluator) (what : String) (items : List α) (key : Value)
    (one : α → Value) (many : List α → Act Value) : Act Value := do
  match key with
  | .slice a b c => do
    let (first, step, count) ← sliceOf ev items.length a b c
    many (pick items first step count)
  | key => do
    match items[← placeOf ev what items.length key]? with
    | some item => return one item
    | none => fail "IndexError" s!"{what} index out of range"

/-- The value of a key of a dictionary. -/
def entryOf (ev : Evaluator) (owner : Value) (entries : Entries) (key : Value) : Act Value := do
  match entries.find? (← keyOf key) with
  | some value => return value
  | none =>
    match ← callSpecial? ev owner "__missing__" [key] with
    | some value => return value
    | none => failWith "KeyError" [key]

/-- An item of a value of a provided kind. -/
def itemOfProvided (ev : Evaluator) (owner key : Value) : Act Value := do
  match ← plain owner with
  | .text t => sequenceItem ev "string" t key (fun n => .text [n]) fun ns => return .text ns
  | .bytes b =>
    sequenceItem ev "index" b key (fun x => .ofNat x.toNat) fun bs => return .bytes bs
  | .tuple items => sequenceItem ev "tuple" items key id fun vs => return .tuple vs
  | .range a b c =>
    match key with
    | .slice x y z => do
      let (first, step, count) ← sliceOf ev (Value.rangeLength a b c) x y z
      return .range (a + first * c) (a + (first + step * count) * c) (step * c)
    | key => do
      return .int (a + c * (← placeOf ev "range object" (Value.rangeLength a b c) key))
  | .kind k => return .kind k
  | bare =>
    match ← objectOf bare with
    | some (.list items) => sequenceItem ev "list" items key id makeList
    | some (.dict entries) => entryOf ev owner entries key
    | some (.byteArray b) =>
      sequenceItem ev "bytearray" b key (fun x => .ofNat x.toNat) fun bs => make (.byteArray bs)
    | some (.cls _) =>
      match ← attribute? ev owner "__class_getitem__" with
      | some f => ev.call f [key] []
      | none => return owner
    | _ =>
      let kind ← kindName owner
      fail "TypeError" s!"'{kind}' object is not subscriptable"

/-- An item of a value. -/
def itemOf (ev : Evaluator) (owner key : Value) : Act Value := do
  match ← callSpecial? ev owner "__getitem__" [key] with
  | some value => return value
  | none => itemOfProvided ev owner key

/-- A list with places replaced by other items. -/
def replacePart (items : List Value) (first : Int) (count : Nat) (new : List Value) : List Value :=
  items.take first.toNat ++ new ++ items.drop (first.toNat + count)

/-- A list with the items at some places set. -/
def setPlaces (items : List Value) (first step : Int) (new : List Value) : List Value :=
  (new.zipIdx.foldl (fun (all : Array Value) (e : Value × Nat) =>
    all.setIfInBounds (first + step * e.2).toNat e.1) items.toArray).toList

/-- A byte that a value stands for. -/
def byteOf (ev : Evaluator) (v : Value) : Act UInt8 := do
  match ← index? ev v with
  | some n =>
    if 0 ≤ n ∧ n < 256 then return UInt8.ofNat n.toNat
    else fail "ValueError" "bytes must be in range(0, 256)"
  | none =>
    let kind ← kindName v
    fail "TypeError" s!"'{kind}' object cannot be interpreted as an integer"

/-- Set an item of a value of a provided kind. -/
def setItemOfProvided (ev : Evaluator) (owner key value : Value) : Act Unit := do
  let bare ← plain owner
  match bare, ← objectOf bare with
  | .object address, some (.list items) =>
    match key with
    | .slice a b c => do
      let new ← itemsOf ev value
      let (first, step, count) ← sliceOf ev items.length a b c
      if step = 1 then replace address (.list (replacePart items first count new))
      else if new.length = count then replace address (.list (setPlaces items first step new))
      else
        fail "ValueError"
          s!"attempt to assign sequence of size {new.length} to extended slice of size {count}"
    | key => do
      let i ← placeOf ev "list assignment" items.length key
      replace address (.list (items.set i value))
  | .object address, some (.dict _) => do
    let key ← keyOf key
    replace address (.dict ((← entriesAt address).put key value))
  | .object address, some (.byteArray b) => do
    let i ← placeOf ev "bytearray" b.length key
    replace address (.byteArray (b.set i (← byteOf ev value)))
  | _, _ =>
    let kind ← kindName owner
    fail "TypeError" s!"'{kind}' object does not support item assignment"

/-- Set an item of a value. -/
def setItem (ev : Evaluator) (owner key value : Value) : Act Unit := do
  match ← callSpecial? ev owner "__setitem__" [key, value] with
  | some _ => return ()
  | none => setItemOfProvided ev owner key value

/-- Take an item of a value of a provided kind away. -/
def eraseItemOfProvided (ev : Evaluator) (owner key : Value) : Act Unit := do
  let bare ← plain owner
  match bare, ← objectOf bare with
  | .object address, some (.list items) =>
    match key with
    | .slice a b c => do
      let (first, step, count) ← sliceOf ev items.length a b c
      let gone := (List.range count).map fun (k : Nat) => (first + step * k).toNat
      replace address (.list ((items.zipIdx.filter fun e => !gone.contains e.2).map Prod.fst))
    | key => do
      let i ← placeOf ev "list assignment" items.length key
      replace address (.list (items.eraseIdx i))
  | .object address, some (.dict entries) => do
    let k ← keyOf key
    if (entries.find? k).isSome then replace address (.dict (entries.erase k))
    else failWith "KeyError" [key]
  | .object address, some (.byteArray b) => do
    replace address (.byteArray (b.eraseIdx (← placeOf ev "bytearray" b.length key)))
  | _, _ =>
    let kind ← kindName owner
    fail "TypeError" s!"'{kind}' object does not support item deletion"

/-- Take an item of a value away. -/
def eraseItem (ev : Evaluator) (owner key : Value) : Act Unit := do
  match ← callSpecial? ev owner "__delitem__" [key] with
  | some _ => return ()
  | none => eraseItemOfProvided ev owner key

/-- How many items a value of a provided kind has. -/
def lengthOfProvided (v : Value) : Act Nat := do
  match ← plainItems? (← plain v) with
  | some items => return items.length
  | none =>
    let kind ← kindName v
    fail "TypeError" s!"object of type '{kind}' has no len()"

/-- How many items a value has. -/
def lengthOf (ev : Evaluator) (v : Value) : Act Nat := do
  match ← callSpecial? ev v "__len__" [] with
  | some n => return (n.int?.getD 0).toNat
  | none => lengthOfProvided v

/-- A value of a provided kind contains another one. -/
def containsProvided (ev : Evaluator) (owner v : Value) : Act Bool := do
  match ← plain owner with
  | .text t =>
    match ← plain v with
    | .text part => return (CodePoints.find? part t).isSome
    | _ =>
      let kind ← kindName v
      fail "TypeError" s!"'in <string>' requires string as left operand, not {kind}"
  | .range a b c =>
    match (← plain v).int? with
    | some n =>
      let last := a + c * (Value.rangeLength a b c : Int)
      return (if 0 < c then decide (a ≤ n ∧ n < last) else decide (last < n ∧ n ≤ a))
        && (n - a) % c == 0
    | none => return false
  | bare =>
    match ← bytes? bare with
    | some b =>
      match ← bytes? v with
      | some part => return (CodePoints.find? (part.map UInt8.toNat) (b.map UInt8.toNat)).isSome
      | none => return b.contains (← byteOf ev v)
    | none =>
      match ← objectOf bare with
      | some (.dict entries) => return (entries.find? (← keyOf v)).isSome
      | some (.set items _) => return items.any (← keyOf v).same
      | some (.view .keys dict) => return ((← entriesAt dict).find? (← keyOf v)).isSome
      | some (.cls _) | none =>
        match bare with
        | .tuple items => isAmong ev v items
        | _ => isAmong ev v (← itemsOf ev owner)
      | _ => isAmong ev v (← itemsOf ev owner)

/-- A value contains another one. -/
def contains (ev : Evaluator) (owner v : Value) : Act Bool := do
  match ← callSpecial? ev owner "__contains__" [v] with
  | some answer => truth ev answer
  | none => containsProvided ev owner v

/-! ## Comparisons -/

/-- What the classes of two values say of a comparison, if they say anything. -/
def compareSpecial? (ev : Evaluator) (c : Comparator) (a b : Value) : Act (Option Value) := do
  let answer := fun (v : Option Value) => match v with
    | some .notImplemented => none
    | v => v
  match answer (← callSpecial? ev a c.method [b]) with
  | some v => return some v
  | none => return answer (← callSpecial? ev b c.reflected.method [a])

/-- A comparison. -/
def compare (ev : Evaluator) (c : Comparator) (a b : Value) : Act Value := do
  match c with
  | .identical => return .bool (a.isIdentical b)
  | .notIdentical => return .bool !(a.isIdentical b)
  | .member => return .bool (← contains ev b a)
  | .notMember => return .bool !(← contains ev b a)
  | .equal =>
    match ← compareSpecial? ev c a b with
    | some v => return v
    | none => return .bool (← equalProvided ev a b)
  | .notEqual =>
    match ← compareSpecial? ev c a b with
    | some v => return v
    | none => return .bool !(← truth ev (← ev.call (.provided "operator.eq") [a, b] []))
  | c =>
    match ← compareSpecial? ev c a b with
    | some v => return v
    | none => orderedProvided ev c a b

/-! ## Arithmetic -/

/-- The bits of two whole numbers combined one by one, as if each had infinitely many. -/
def combineBits (natural : Nat → Nat → Nat) (both left right : Nat → Nat → Nat)
    (onBoth onLeft onRight : Bool) (a b : Int) : Int :=
  let bare := fun (n : Int) => if n < 0 then (-n - 1).toNat else n.toNat
  let flip := fun (negative : Bool) (n : Nat) => if negative then -(n : Int) - 1 else (n : Int)
  match decide (a < 0), decide (b < 0) with
  | false, false => natural (bare a) (bare b)
  | true, true => flip onBoth (both (bare a) (bare b))
  | true, false => flip onLeft (left (bare a) (bare b))
  | false, true => flip onRight (right (bare a) (bare b))

/-- The bits of the first number that the second one has not. -/
def without (a b : Nat) : Nat := a ^^^ (a &&& b)

/-- The bits that both numbers have. -/
def bitAnd : Int → Int → Int :=
  combineBits (· &&& ·) (· ||| ·) (fun a b => without b a) (fun a b => without a b) true false false

/-- The bits that one of the numbers has. -/
def bitOr : Int → Int → Int :=
  combineBits (· ||| ·) (· &&& ·) (fun a b => without a b) (fun a b => without b a) true true true

/-- The bits that just one of the numbers has. -/
def bitXor : Int → Int → Int :=
  combineBits (· ^^^ ·) (· ^^^ ·) (· ^^^ ·) (· ^^^ ·) false true true

/-- The most bits of a number that is worked out. -/
def mostBits : Nat := 1000000

/-- An operator on two whole numbers. -/
def intOperator (o : Operator) (a b : Int) : Act Value := do
  let tooLarge : Act Value := fail "MemoryError" ""
  match o with
  | .add => return .int (a + b)
  | .subtract => return .int (a - b)
  | .multiply => return .int (a * b)
  | .divide =>
    if b = 0 then fail "ZeroDivisionError" "division by zero"
    else return .float (Value.floatOfInt a / Value.floatOfInt b)
  | .floorDivide =>
    if b = 0 then fail "ZeroDivisionError" "integer division or modulo by zero"
    else return .int (Int.fdiv a b)
  | .remainder =>
    if b = 0 then fail "ZeroDivisionError" "integer modulo by zero" else return .int (Int.fmod a b)
  | .power =>
    if b < 0 then
      if a = 0 then fail "ZeroDivisionError" "0.0 cannot be raised to a negative power"
      else return .float (Float.pow (Value.floatOfInt a) (Value.floatOfInt b))
    else if mostBits < (Nat.log2 a.natAbs + 1) * b.toNat ∧ 1 < a.natAbs then tooLarge
    else return .int (Int.pow a b.toNat)
  | .shiftLeft =>
    if b < 0 then fail "ValueError" "negative shift count"
    else if mostBits < b.toNat then tooLarge
    else return .int (a * Int.pow 2 b.toNat)
  | .shiftRight =>
    if b < 0 then fail "ValueError" "negative shift count"
    else if mostBits < b.toNat then return .int (if a < 0 then -1 else 0)
    else return .int (Int.fdiv a (Int.pow 2 b.toNat))
  | .bitAnd => return .int (bitAnd a b)
  | .bitOr => return .int (bitOr a b)
  | .bitXor => return .int (bitXor a b)
  | .matrixMultiply => return .notImplemented

/-- An operator on two numbers of double precision. -/
def floatOperator (o : Operator) (x y : Float) : Act Value := do
  let floorOf := fun (q : Float) => q.floor
  match o with
  | .add => return .float (x + y)
  | .subtract => return .float (x - y)
  | .multiply => return .float (x * y)
  | .divide =>
    if y == 0.0 then fail "ZeroDivisionError" "float division by zero" else return .float (x / y)
  | .floorDivide =>
    if y == 0.0 then fail "ZeroDivisionError" "float floor division by zero"
    else return .float (floorOf (x / y))
  | .remainder =>
    if y == 0.0 then fail "ZeroDivisionError" "float modulo"
    else return .float (x - y * floorOf (x / y))
  | .power => return .float (Float.pow x y)
  | _ => return .notImplemented

/-- A list repeated. -/
def repeated {α : Type} (items : List α) (n : Int) : List α :=
  (List.replicate n.toNat items).flatten

/-- The items of the union of two sets. -/
def union (a b : List Value) : List Value := a ++ b.filter fun x => !a.any x.same

/-- The entries of one dictionary with those of another one set. -/
def mergeEntries (a b : Entries) : Entries := b.foldl (fun es e => es.put e.1 e.2) a

/-- An operator on two sets. -/
def setOperator? (o : Operator) (a b : List Value) : Option (List Value) :=
  match o with
  | .bitOr => some (union a b)
  | .bitAnd => some (a.filter fun x => b.any x.same)
  | .subtract => some (a.filter fun x => !b.any x.same)
  | .bitXor =>
    some ((a.filter fun x => !b.any x.same) ++ b.filter fun x => !a.any x.same)
  | _ => none

/-- An operator on values of provided kinds; `notImplemented` where it is not defined. -/
def operateProvided (ev : Evaluator) (o : Operator) (left right : Value) : Act Value := do
  let a ← plain left
  let b ← plain right
  let repeatedBy := fun (v : Value) (n : Int) => do
    match v with
    | .text t => return .text (repeated t n)
    | .bytes s => return .bytes (repeated s n)
    | .tuple items => return .tuple (repeated items n)
    | v =>
      match ← objectOf v with
      | some (.list items) => makeList (repeated items n)
      | some (.byteArray s) => make (.byteArray (repeated s n))
      | _ => return .notImplemented
  match a.int?, b.int? with
  | some m, some n =>
    match a, b, o with
    | .bool p, .bool q, .bitAnd => return .bool (p && q)
    | .bool p, .bool q, .bitOr => return .bool (p || q)
    | .bool p, .bool q, .bitXor => return .bool (p != q)
    | _, _, _ => intOperator o m n
  | _, _ =>
    match a.float?, b.float? with
    | some x, some y => floatOperator o x y
    | _, _ =>
      match o, a, b with
      | .add, .text s, .text t => return .text (s ++ t)
      | .add, .tuple s, .tuple t => return .tuple (s ++ t)
      | .add, .text _, _ =>
        let kind ← kindName right
        fail "TypeError" ("can only concatenate str (not \"" ++ kind ++ "\") to str")
      | .remainder, .text _, _ | .remainder, .bytes _, _ =>
        ev.call (.provided "str.__mod__") [a, right] []
      | .bitOr, .kind _, _ | .bitOr, _, .kind _ => return .tuple [a, b]
      | .multiply, v, n =>
        match n.int?, v.int? with
        | some n, _ => repeatedBy v n
        | none, some n => repeatedBy a n
        | none, none => return .notImplemented
      | o, a, b =>
        match o, ← bytes? a, ← bytes? b with
        | .add, some s, some t =>
          match a with
          | .bytes _ => return .bytes (s ++ t)
          | _ => make (.byteArray (s ++ t))
        | _, _, _ =>
          match o, ← objectOf a, ← objectOf b with
          | .add, some (.list s), some (.list t) => makeList (s ++ t)
          | .bitOr, some (.dict s), some (.dict t) => makeDict (mergeEntries s t)
          | o, x, _ =>
            match ← setItems? a, ← setItems? b with
            | some s, some t =>
              match setOperator? o s t with
              | some items =>
                let frozen := match x with
                  | some (.set _ frozen) => frozen
                  | _ => false
                make (.set items frozen)
              | none => return .notImplemented
            | _, _ => return .notImplemented

/-- An operator. -/
def operate (ev : Evaluator) (o : Operator) (a b : Value) : Act Value := do
  let answer := fun (v : Option Value) => match v with
    | some .notImplemented => none
    | v => v
  let tryFirst ← do
    match answer (← callSpecial? ev a ("__" ++ o.stem ++ "__") [b]) with
    | some v => pure (some v)
    | none => pure (answer (← callSpecial? ev b ("__r" ++ o.stem ++ "__") [a]))
  match tryFirst with
  | some v => return v
  | none =>
    match ← operateProvided ev o a b with
    | .notImplemented =>
      let left ← kindName a
      let right ← kindName b
      let sign := if o = .power then "** or pow()" else o.sign
      fail "TypeError" s!"unsupported operand type(s) for {sign}: '{left}' and '{right}'"
    | v => return v

/-- An operator that changes its left operand where that can change. -/
def operateInPlace (ev : Evaluator) (o : Operator) (a b : Value) : Act Value := do
  match ← callSpecial? ev a ("__i" ++ o.stem ++ "__") [b] with
  | some .notImplemented | none =>
    let bare ← plain a
    match o, bare, ← objectOf bare with
    | .add, .object address, some (.list items) =>
      let more ← itemsOf ev b
      replace address (.list (items ++ more))
      return a
    | .bitOr, .object address, some (.dict entries) =>
      match ← dictOf? b with
      | some more =>
        replace address (.dict (mergeEntries entries more))
        return a
      | none => operate ev o a b
    | o, .object address, some (.set items false) =>
      match ← setItems? b with
      | some other =>
        match setOperator? o items other with
        | some items =>
          replace address (.set items false)
          return a
        | none => operate ev o a b
      | none => operate ev o a b
    | .add, .object address, some (.byteArray s) =>
      match ← bytes? b with
      | some t =>
        replace address (.byteArray (s ++ t))
        return a
      | none => operate ev o a b
    | _, _, _ => operate ev o a b
  | some v => return v

/-- An operator on one operand. -/
def operateUnary (ev : Evaluator) (o : UnaryOperator) (v : Value) : Act Value := do
  let refuse := fun (sign : String) => do
    let kind ← kindName v
    fail "TypeError" s!"bad operand type for unary {sign}: '{kind}'"
  match o with
  | .negation => return .bool !(← truth ev v)
  | .negate =>
    match ← callSpecial? ev v "__neg__" [] with
    | some r => return r
    | none =>
      match ← plain v with
      | .float x => return .float (-x)
      | bare =>
        match bare.int? with
        | some n => return .int (-n)
        | none => refuse "-"
  | .plus =>
    match ← callSpecial? ev v "__pos__" [] with
    | some r => return r
    | none =>
      match ← plain v with
      | .float x => return .float x
      | bare =>
        match bare.int? with
        | some n => return .int n
        | none => refuse "+"
  | .invert =>
    match ← callSpecial? ev v "__invert__" [] with
    | some r => return r
    | none =>
      match (← plain v).int? with
      | some n => return .int (-n - 1)
      | none => refuse "~"

/-! ## Readings -/

example : bitAnd (-4) 7 = 4 ∧ bitOr (-4) 1 = -3 ∧ bitXor (-1) 5 = -6 := by decide

end Handover.Interpreter
