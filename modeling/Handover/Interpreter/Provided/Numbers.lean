/-
  Numbers: how they are made from other values, their methods, and the functions on them.
-/
import Handover.Interpreter.Provided.Coding
import Handover.Interpreter.Token

namespace Handover.Interpreter

/-! ## Reading numbers -/

/-- A sign in front, and what follows. -/
def takeSign (cs : List Char) : Bool × List Char :=
  match cs with
  | '-' :: rest => (true, rest)
  | '+' :: rest => (false, rest)
  | rest => (false, rest)

/-- The base and the digits of a whole number whose base is asked for; a base of zero is told by the
    number itself. -/
def basedDigits (base : Nat) (cs : List Char) : Nat × List Char :=
  let marked := match cs with
    | '0' :: c :: rest =>
      if c == 'x' || c == 'X' then some (16, rest)
      else if c == 'o' || c == 'O' then some (8, rest)
      else if c == 'b' || c == 'B' then some (2, rest)
      else none
    | _ => none
  match marked with
  | some (b, rest) =>
    if base = 0 ∨ base = b then (b, if rest.head? = some '_' then rest.drop 1 else rest)
    else (base, cs)
  | none => (if base = 0 then 10 else base, cs)

/-- The whole number that a text writes in a base. -/
def intOfText? (base : Nat) (text : CodePoints) : Option Int := do
  let (minus, rest) := takeSign (Numeral.strip text.chars)
  let (b, digits) := basedDigits base rest
  let (run, left) ← Token.takeDigits (Token.isDigitOf b) digits
  if run.isEmpty ∨ !left.isEmpty then none
  else if base = 0 ∧ b = 10 ∧ run.head? = some '0' ∧ run.any (· != '0') then none
  else
    let n : Int := Token.numberOf b run
    return if minus then -n else n

/-- The number of double precision that a text writes. -/
def floatOfText? (text : CodePoints) : Option Float := do
  let (minus, rest) := takeSign (Numeral.strip text.chars)
  let signed := fun (x : Float) => if minus then -x else x
  let word := String.ofList (rest.map Char.toLower)
  if word = "inf" ∨ word = "infinity" then some (signed (1.0 / 0.0))
  else if word = "nan" then some (0.0 / 0.0)
  else
    let isStart := rest.head?.any fun c => c.isDigit || c == '.'
    if !isStart || rest == ['.'] then none
    else
      let (whole, left) ← Token.takeDigits Char.isDigit rest
      let (fraction, left) ← match left with
        | '.' :: more => Token.takeDigits Char.isDigit more
        | _ => some ([], left)
      let (power, left) ← Token.exponent left
      if !left.isEmpty || (whole.isEmpty && fraction.isEmpty) then none
      else
        return signed
          (Token.floatOf (Token.numberOf 10 (whole ++ fraction)) (power.getD 0 - fraction.length))

/-! ## Making numbers -/

/-- The whole number of a number of double precision without its places. -/
def truncatedInt (x : Float) : Act Int := do
  match Numeral.truncated? x with
  | some n => return n
  | none =>
    if x.isNaN then fail "ValueError" "cannot convert float NaN to integer"
    else fail "OverflowError" "cannot convert float infinity to integer"

/-- A whole number made from the arguments of a call. -/
def makeInt (ev : Evaluator) (g : Given) : Act Value := do
  match g.get? 0 "x" with
  | none => return .int 0
  | some v =>
    let base ← match g.get? 1 "base" with
      | some b => do pure (some (← intOf ev b))
      | none => pure none
    let ofText := fun (t : CodePoints) => do
      let b := base.getD 10
      match intOfText? b.toNat t with
      | some n => return Value.int n
      | none =>
        let text ← reprOf ev v
        fail "ValueError" (s!"invalid literal for int() with base {b}: " ++ text.display)
    match ← plain v, base with
    | .text t, _ => ofText t
    | _, some _ => fail "TypeError" "int() can't convert non-string with explicit base"
    | .float x, none => return .int (← truncatedInt x)
    | bare, none =>
      match bare.int?, ← bytes? bare with
      | some n, _ => return .int n
      | none, some b => ofText (b.map UInt8.toNat)
      | none, none =>
        match ← callSpecial? ev v "__int__" [] with
        | some n => return n
        | none =>
          match ← callSpecial? ev v "__index__" [], ← callSpecial? ev v "__trunc__" [] with
          | some n, _ => return n
          | _, some n => return n
          | none, none =>
            let kind ← kindName v
            fail "TypeError"
              ("int() argument must be a string, a bytes-like object or a real number, not '"
                ++ kind ++ "'")

/-- A number of double precision made from the arguments of a call. -/
def makeFloat (ev : Evaluator) (g : Given) : Act Value := do
  match g.byPlace with
  | [] => return .float 0.0
  | v :: _ =>
    let ofText := fun (t : CodePoints) => do
      match floatOfText? t with
      | some x => return Value.float x
      | none =>
        let text ← reprOf ev v
        fail "ValueError" ("could not convert string to float: " ++ text.display)
    match ← plain v with
    | .text t => ofText t
    | bare =>
      match bare.float?, ← bytes? bare with
      | some x, _ => return .float x
      | none, some b => ofText (b.map UInt8.toNat)
      | none, none =>
        match ← callSpecial? ev v "__float__" [] with
        | some x => return x
        | none =>
          let kind ← kindName v
          fail "TypeError"
            s!"float() argument must be a string or a real number, not '{kind}'"

/-! ## Rounding -/

/-- A whole number rounded to a multiple of a power of ten, a tie to the even multiple. -/
def roundInt (n : Int) (places : Int) : Int :=
  if 0 ≤ places then n
  else
    let unit : Int := (Nat.pow 10 places.natAbs : Nat)
    let whole := Int.fdiv n unit
    let rest := Int.fmod n unit
    let up := decide (unit < 2 * rest) || (2 * rest == unit && whole % 2 != 0)
    (if up then whole + 1 else whole) * unit

/-- A number of double precision rounded to a number of decimal places. -/
def roundFloat (x : Float) (places : Int) : Float :=
  match Numeral.read x with
  | .finite negative m =>
    let ds := if 0 ≤ places then
        (Decimal.fixed m places.toNat)
      else
        let (n, d) := m.ratio
        let unit := Nat.pow 10 places.natAbs
        Decimal.digits (Decimal.roundRatio n (d * unit) * unit)
    let digits := ds.filter Char.isDigit
    let y := Token.floatOf (Token.numberOf 10 digits) (if 0 ≤ places then -places else 0)
    if negative then -y else y
  | _ => x

/-- A number rounded. -/
def roundNumber (ev : Evaluator) (v places : Value) : Act Value := do
  match ← callSpecial? ev v "__round__" (if places.isNone then [] else [places]) with
  | some r => return r
  | none =>
    match ← plain v with
    | .float x =>
      if places.isNone then
        match Numeral.rounded? x with
        | some n => return .int n
        | none => return .int (← truncatedInt x)
      else return .float (roundFloat x (← intOf ev places))
    | bare =>
      match bare.int? with
      | some n => do
        let places ← intOr ev places 0
        return .int (roundInt n places)
      | none =>
        let kind ← kindName v
        fail "TypeError" s!"type {kind} doesn't define __round__ method"

/-! ## Methods -/

/-- The bytes of a natural number, the least one first. -/
def littleBytes : Nat → Nat → Bytes
  | 0, _ => []
  | count + 1, n => UInt8.ofNat (n % 256) :: littleBytes count (n / 256)

/-- How many digits a number has in base two. -/
def bitLength (n : Nat) : Nat := if n = 0 then 0 else Nat.log2 n + 1

/-- Carry out a method of whole numbers. -/
def intMethod (ev : Evaluator) (n : Int) (method : String) (g : Given) : Act Value := do
  match method with
  | "bit_length" => return .ofNat (bitLength n.natAbs)
  | "bit_count" => return .ofNat ((Nat.toDigits 2 n.natAbs).filter (· == '1')).length
  | "to_bytes" =>
    let length := (← intOr ev (g.get 0 "length") 1).toNat
    let order := match ← plain (g.get 1 "byteorder") with
      | .text t => t.display
      | _ => "big"
    let signed ← truth ev ((g.named? "signed").getD .none)
    let size : Int := (Nat.pow 256 length : Nat)
    let fits := if signed then decide (-size ≤ 2 * n) && decide (2 * n < size)
      else decide (n < size)
    if n < 0 ∧ !signed then fail "OverflowError" "can't convert negative int to unsigned"
    if !fits then fail "OverflowError" "int too big to convert"
    let bytes := littleBytes length (n % size).toNat
    return .bytes (if order == "little" then bytes else bytes.reverse)
  | "from_bytes" =>
    let b ← match ← bytes? g.first with
      | some b => pure b
      | none => do
        pure ((← itemsOf ev g.first).map fun v => UInt8.ofNat (v.int?.getD 0).toNat)
    let order := match ← plain (g.get 1 "byteorder") with
      | .text t => t.display
      | _ => "big"
    let signed ← truth ev ((g.named? "signed").getD .none)
    let b := if order == "little" then b.reverse else b
    let m : Int := (b.foldl (fun (k : Nat) x => 256 * k + x.toNat) 0 : Nat)
    let size : Int := (Nat.pow 256 b.length : Nat)
    return .int (if signed && decide (size ≤ 2 * m) then m - size else m)
  | "as_integer_ratio" => return .tuple [.int n, .int 1]
  | "conjugate" | "__index__" | "__int__" | "__trunc__" | "__floor__" | "__ceil__" => return .int n
  | "is_integer" => return .bool true
  | "__float__" => return .float (Value.floatOfInt n)
  | "__bool__" => return .bool (n != 0)
  | "__round__" => roundNumber ev (.int n) g.first
  | "__abs__" => return .ofNat n.natAbs
  | m => fail "AttributeError" s!"'int' object has no attribute '{m}'"

/-- A number of double precision in base sixteen. -/
def hexFloat (x : Float) : CodePoints :=
  match Numeral.read x with
  | .finite negative m =>
    let sign := if negative then ['-'.toNat] else []
    if m.mantissa = 0 then sign ++ CodePoints.ofString "0x0.0p+0"
    else
      let full := Nat.pow 2 52
      let lead := if full ≤ m.mantissa then "0x1." else "0x0."
      let e := m.exponent + 52
      let mark := if e < 0 then "p-" else "p+"
      sign ++ CodePoints.ofString lead ++ CodePoints.hexadecimal 13 (m.mantissa % full)
        ++ CodePoints.ofString mark ++ CodePoints.digits 10 e.natAbs
  | _ => CodePoints.ofString (Numeral.text x)

/-- Carry out a method of numbers of double precision. -/
def floatMethod (ev : Evaluator) (x : Float) (method : String) (g : Given) : Act Value := do
  match method with
  | "is_integer" => return .bool (Numeral.isWhole x)
  | "as_integer_ratio" =>
    match Numeral.read x with
    | .finite negative m =>
      let (n, d) := m.ratio
      let c := Nat.gcd n d
      let top : Int := (n / c : Nat)
      return .tuple [.int (if negative then -top else top), .ofNat (d / c)]
    | _ => fail "OverflowError" "cannot convert Infinity to integer ratio"
  | "conjugate" | "__float__" => return .float x
  | "hex" => return .text (hexFloat x)
  | "__int__" | "__trunc__" => return .int (← truncatedInt x)
  | "__floor__" => return .int ((Numeral.floor? x).getD 0)
  | "__ceil__" => return .int (-((Numeral.floor? (-x)).getD 0))
  | "__bool__" => return .bool (x != 0.0)
  | "__round__" => roundNumber ev (.float x) g.first
  | "__abs__" => return .float x.abs
  | m => fail "AttributeError" s!"'float' object has no attribute '{m}'"

/-! ## Functions -/

/-- A number without its sign. -/
def absolute? (v : Value) : Option Value :=
  match v with
  | .float x => some (.float x.abs)
  | v => v.int?.map fun n => .ofNat n.natAbs

/-- The power of a number modulo another one, worked out by its digits in base two. -/
def powerModulo (base modulus : Nat) : Nat → Nat → Nat → Nat
  | 0, _, done => done
  | fuel + 1, exponent, done =>
    if exponent = 0 then done
    else
      powerModulo (base * base % modulus) modulus fuel (exponent / 2)
        (if exponent % 2 = 1 then done * base % modulus else done)

/-- The greatest natural number whose square is not greater, between two limits. -/
def rootBetween (n : Nat) : Nat → Nat → Nat → Nat
  | 0, low, _ => low
  | fuel + 1, low, high =>
    if high ≤ low + 1 then low
    else
      let middle := (low + high) / 2
      if middle * middle ≤ n then rootBetween n fuel middle high else rootBetween n fuel low middle

/-- The product of the numbers up to a number. -/
def factorial : Nat → Nat
  | 0 => 1
  | n + 1 => (n + 1) * factorial n

/-- Functions of one number in double precision. -/
def floatFunction? (name : String) : Option (Float → Float) :=
  match name with
  | "sqrt" => some Float.sqrt
  | "exp" => some Float.exp
  | "log2" => some Float.log2
  | "log10" => some Float.log10
  | "sin" => some Float.sin
  | "cos" => some Float.cos
  | "tan" => some Float.tan
  | "asin" => some Float.asin
  | "acos" => some Float.acos
  | "atan" => some Float.atan
  | "sinh" => some Float.sinh
  | "cosh" => some Float.cosh
  | "tanh" => some Float.tanh
  | "fabs" => some Float.abs
  | "cbrt" => some Float.cbrt
  | "degrees" => some fun x => x * 180.0 / 3.141592653589793
  | "radians" => some fun x => x * 3.141592653589793 / 180.0
  | _ => none

/-- Carry out a function of the module `math`. -/
def mathFunction (ev : Evaluator) (name : String) (g : Given) : Act Value := do
  match floatFunction? name with
  | some f =>
    let x ← floatOf ev g.first
    if (name = "sqrt" ∧ x < 0.0) ∨ ((name = "log2" ∨ name = "log10") ∧ x ≤ 0.0) then
      fail "ValueError" "math domain error"
    return .float (f x)
  | none =>
    match name with
    | "floor" | "ceil" | "trunc" =>
      match ← callSpecial? ev g.first ("__" ++ name ++ "__") [] with
      | some r => return r
      | none =>
        match (← plain g.first).int? with
        | some n => return .int n
        | none =>
          let x ← floatOf ev g.first
          let _ ← truncatedInt x
          floatMethod ev x ("__" ++ name ++ "__") g.rest
    | "log" =>
      let x ← floatOf ev g.first
      if x ≤ 0.0 then fail "ValueError" "math domain error"
      match g.get? 1 "base" with
      | none => return .float x.log
      | some b => return .float (x.log / (← floatOf ev b).log)
    | "pow" => return .float (Float.pow (← floatOf ev g.first) (← floatOf ev (g.at_ 1)))
    | "atan2" => return .float (Float.atan2 (← floatOf ev g.first) (← floatOf ev (g.at_ 1)))
    | "hypot" =>
      let xs ← g.byPlace.mapM (floatOf ev)
      return .float (xs.foldl (fun s x => s + x * x) 0.0).sqrt
    | "fmod" =>
      let x ← floatOf ev g.first
      let y ← floatOf ev (g.at_ 1)
      let q := x / y
      return .float (x - y * (if q < 0.0 then q.ceil else q.floor))
    | "copysign" =>
      let x ← floatOf ev g.first
      let y ← floatOf ev (g.at_ 1)
      let negative := decide (Nat.pow 2 63 ≤ y.toBits.toNat)
      return .float (if negative then -x.abs else x.abs)
    | "isnan" => return .bool (← floatOf ev g.first).isNaN
    | "isinf" => return .bool (← floatOf ev g.first).isInf
    | "isfinite" => return .bool (← floatOf ev g.first).isFinite
    | "isclose" =>
      let x ← floatOf ev g.first
      let y ← floatOf ev (g.at_ 1)
      let relative ← match g.named? "rel_tol" with
        | some v => floatOf ev v
        | none => pure 1e-9
      let least ← match g.named? "abs_tol" with
        | some v => floatOf ev v
        | none => pure 0.0
      let larger := if x.abs < y.abs then y.abs else x.abs
      let difference := (x - y).abs
      return .bool (x == y || difference <= relative * larger || difference <= least)
    | "gcd" =>
      let ns ← g.byPlace.mapM (intOf ev)
      return .ofNat (ns.foldl (fun d n => Nat.gcd d n.natAbs) 0)
    | "lcm" =>
      let ns ← g.byPlace.mapM (intOf ev)
      return .ofNat (ns.foldl (fun d n => Nat.lcm d n.natAbs) 1)
    | "factorial" => return .ofNat (factorial (← intOf ev g.first).toNat)
    | "isqrt" =>
      let n := (← intOf ev g.first).toNat
      return .ofNat (rootBetween n (bitLength n + 2) 0 (n + 1))
    | "comb" =>
      let n := (← intOf ev g.first).toNat
      let k := (← intOf ev (g.at_ 1)).toNat
      if n < k then return .int 0
      else return .ofNat (factorial n / (factorial k * factorial (n - k)))
    | "perm" =>
      let n := (← intOf ev g.first).toNat
      let k := (← intOr ev (g.at_ 1) n).toNat
      if n < k then return .int 0 else return .ofNat (factorial n / factorial (n - k))
    | "fsum" =>
      let xs ← (← itemsOf ev g.first).mapM (floatOf ev)
      return .float (xs.foldl (· + ·) 0.0)
    | "prod" =>
      let start := (g.named? "start").getD (.int 1)
      (← itemsOf ev g.first).foldlM (operate ev .multiply) start
    | "modf" =>
      let x ← floatOf ev g.first
      let whole := if x < 0.0 then x.ceil else x.floor
      return .tuple [.float (x - whole), .float whole]
    | m => fail "AttributeError" s!"module 'math' has no attribute '{m}'"

/-- The names of the functions of the module `math`. -/
def mathFunctions : List String :=
  ["sqrt", "exp", "log2", "log10", "sin", "cos", "tan", "asin", "acos", "atan", "sinh", "cosh",
   "tanh", "fabs", "cbrt", "degrees", "radians", "floor", "ceil", "trunc", "log", "pow", "atan2",
   "hypot", "fmod", "copysign", "isnan", "isinf", "isfinite", "isclose", "gcd", "lcm", "factorial",
   "isqrt", "comb", "perm", "fsum", "prod", "modf"]

/-! ## Readings -/

example : intOfText? 10 (CodePoints.ofString " -1_0 ") = some (-10) := by decide
example : intOfText? 10 (CodePoints.ofString "zz") = none := by decide
example : intOfText? 0 (CodePoints.ofString "0x1F") = some 31 := by decide
example : roundInt 15 (-1) = 20 ∧ roundInt 25 (-1) = 20 := by decide

end Handover.Interpreter
