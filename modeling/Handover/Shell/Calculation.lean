/-
  Whole-number formulas.

  A formula is calculated as it is read.  Its operators have the ranks that they have in the
  language C; numbers have 64 bits.  A name stands for the number that its parameter holds, and can
  be given another one.  Where the value of a part cannot matter, its names are neither looked up nor
  given values.
-/
import Handover.Shell.Printf
import Handover.Shell.Token

namespace Handover.Shell.Calculation

/-! ## Numbers -/

/-- A number within 64 bits. -/
def wrapped (n : Int) : Int := Int.bmod n (Nat.pow 2 64)

/-- The greatest number. -/
def greatest : Int := 9223372036854775807

/-- The value of a digit in a base. -/
def digit? (base : Nat) (c : Char) : Option Nat :=
  let value :=
    if c.isDigit then some (c.toNat - '0'.toNat)
    else if 'a' ≤ c ∧ c ≤ 'f' then some (c.toNat - 'a'.toNat + 10)
    else if 'A' ≤ c ∧ c ≤ 'F' then some (c.toNat - 'A'.toNat + 10)
    else none
  value.filter fun n => decide (n < base)

/-- The digits of a base at the start of a text as a number, and what follows them.  A number that is
    too great counts as the greatest. -/
def digits (base : Nat) (cs : Chars) : Int × Chars :=
  let here := cs.takeWhile fun c => (digit? base c).isSome
  let n := here.foldl (fun n c => n * base + (digit? base c).getD 0) 0
  (if greatest < n then greatest else n, cs.drop here.length)

/-- The number at the start of a text, whose first signs tell its base, and what follows it. -/
def leading (cs : Chars) : Int × Chars :=
  match cs with
  | '0' :: x :: d :: _ =>
    if (x = 'x' ∨ x = 'X') ∧ (digit? 16 d).isSome then digits 16 (cs.drop 2) else digits 8 cs
  | '0' :: _ => digits 8 cs
  | _ => digits 10 cs

/-- The number that the whole of a text is; blanks may stand around it. -/
def whole? (cs : Chars) : Option Int :=
  let isGap := fun (c : Char) => c == ' ' || c == '\t' || c == '\n'
  let text := cs.dropWhile isGap
  if text.isEmpty then some 0
  else
    let (negative, text) := match text with
      | '-' :: rest => (true, rest)
      | '+' :: rest => (false, rest)
      | rest => (false, rest)
    let (n, rest) := leading text
    if text.head?.any Char.isDigit && (rest.dropWhile isGap).isEmpty then
      some (if negative then -n else n)
    else none

/-! ## Signs -/

/-- What a formula is made of. -/
inductive Item where
  | number (n : Int)
  | name (name : Chars)
  | sign (text : String)
  /-- Something that belongs in no formula. -/
  | stray
deriving DecidableEq

/-- The signs, the longest first. -/
def signs : List String :=
  ["<<=", ">>=", "<=", ">=", "==", "!=", "&&", "||", "<<", ">>", "+=", "-=", "*=", "/=", "%=", "&=",
   "^=", "|=", "<", ">", "+", "-", "*", "/", "%", "&", "^", "|", "=", "!", "~", "?", ":", "(", ")"]

/-- The items of a formula. -/
def items : Nat → Chars → List Item
  | 0, _ | _, [] => []
  | fuel + 1, c :: rest =>
    if c = ' ' ∨ c = '\t' ∨ c = '\n' then items fuel rest
    else if c.isDigit then
      let (n, rest) := leading (c :: rest)
      .number n :: items fuel rest
    else
      match splitName (c :: rest) with
      | ([], _) =>
        match signs.find? fun s => s.toList.isPrefixOf (c :: rest) with
        | some s => .sign s :: items fuel ((c :: rest).drop s.length)
        | none => [.stray]
      | (name, rest) => .name name :: items fuel rest

/-! ## Calculating -/

/-- Why a formula has no value. -/
inductive Fault where
  /-- The formula is not one. -/
  | formula (reason : String)
  /-- A parameter holds no number. -/
  | value (text : Chars)

/-- What is known while a formula is read: the items to come, and the values of names. -/
structure State where
  rest : List Item
  valueOf : Chars → Chars
  changed : List (Chars × Int) := []

/-- A part of a calculation. -/
abbrev Act := ExceptT Fault (StateM State)

/-- The formula is not one. -/
def refuse {α : Type} (reason : String) : Act α := throw (.formula reason)

/-- The number that a name stands for. -/
def numberOf (name : Chars) : Act Int := do
  let s ← get
  match s.changed.find? fun e => e.1 == name with
  | some (_, n) => return n
  | none =>
    match whole? (s.valueOf name) with
    | some n => return n
    | none => throw (.value (s.valueOf name))

/-- Give a name a number. -/
def assign (name : Chars) (n : Int) : Act Int := do
  modify fun s => { s with changed := (name, n) :: s.changed.filter fun e => e.1 != name }
  return n

/-- The value of an operator. -/
def apply (operator : String) (a b : Int) : Act Int := do
  let ofBool := fun (p : Bool) => (if p then 1 else 0 : Int)
  let word := fun (n : Int) => BitVec.ofInt 64 n
  match operator with
  | "+" => return wrapped (a + b)
  | "-" => return wrapped (a - b)
  | "*" => return wrapped (a * b)
  | "/" => if b = 0 then refuse "division by zero" else return wrapped (a.tdiv b)
  | "%" => if b = 0 then refuse "division by zero" else return wrapped (a.tmod b)
  | "<<" => return (word a <<< (b % 64).toNat).toInt
  | ">>" => return a >>> (b % 64).toNat
  | "<" => return ofBool (decide (a < b))
  | "<=" => return ofBool (decide (a ≤ b))
  | ">" => return ofBool (decide (b < a))
  | ">=" => return ofBool (decide (b ≤ a))
  | "==" => return ofBool (a == b)
  | "!=" => return ofBool (a != b)
  | "&" => return (word a &&& word b).toInt
  | "^" => return (word a ^^^ word b).toInt
  | "|" => return (word a ||| word b).toInt
  | _ => return b

/-- The operators of two operands by their ranks, the lowest rank first. -/
def ranks : List (List String) :=
  [["|"], ["^"], ["&"], ["==", "!="], ["<", "<=", ">", ">="], ["<<", ">>"], ["+", "-"],
   ["*", "/", "%"]]

/-- The operators that give a name a new value. -/
def assignments : List String :=
  ["=", "+=", "-=", "*=", "/=", "%=", "<<=", ">>=", "&=", "^=", "|="]

/-- Take the next item if it is one of some signs. -/
def takeSign (wanted : List String) : Act (Option String) := do
  match (← get).rest with
  | .sign s :: rest =>
    if wanted.contains s then
      modify fun t => { t with rest }
      return some s
    else return none
  | _ => return none

/-- What the value of a part does: it matters, or it does not. -/
abbrev Matters := Bool

mutual

/-- A formula that may give a name its value. -/
def formula : Nat → Matters → Act Int
  | 0, _ => refuse "expecting primary"
  | fuel + 1, live => do
    match (← get).rest with
    | .name n :: .sign s :: rest =>
      if assignments.contains s then
        modify fun t => { t with rest }
        let value ← formula fuel live
        if !live then return value
        else if s = "=" then assign n value
        else assign n (← apply (s.dropEnd 1).toString (← numberOf n) value)
      else choice fuel live
    | _ => choice fuel live

/-- A choice between two formulas. -/
def choice : Nat → Matters → Act Int
  | 0, _ => refuse "expecting primary"
  | fuel + 1, live => do
    let condition ← either fuel live
    match ← takeSign ["?"] with
    | none => return condition
    | some _ =>
      let yes ← formula fuel (live && condition != 0)
      if (← takeSign [":"]).isNone then refuse "expecting ':'"
      let no ← choice fuel (live && condition == 0)
      return if condition != 0 then yes else no

/-- Formulas of which one must hold. -/
def either : Nat → Matters → Act Int
  | 0, _ => refuse "expecting primary"
  | fuel + 1, live => do
    let left ← both fuel live
    match ← takeSign ["||"] with
    | none => return left
    | some _ =>
      let right ← either fuel (live && left == 0)
      return if left != 0 || right != 0 then 1 else 0

/-- Formulas of which all must hold. -/
def both : Nat → Matters → Act Int
  | 0, _ => refuse "expecting primary"
  | fuel + 1, live => do
    let left ← ranked fuel live ranks
    match ← takeSign ["&&"] with
    | none => return left
    | some _ =>
      let right ← both fuel (live && left != 0)
      return if left != 0 && right != 0 then 1 else 0

/-- Operands joined by operators of some ranks. -/
def ranked : Nat → Matters → List (List String) → Act Int
  | 0, _, _ => refuse "expecting primary"
  | fuel + 1, live, [] => operand fuel live
  | fuel + 1, live, signs :: higher => do
    let first ← ranked fuel live higher
    rankedRest fuel live signs higher first

/-- What follows an operand of a rank. -/
def rankedRest : Nat → Matters → List String → List (List String) → Int → Act Int
  | 0, _, _, _, _ => refuse "expecting primary"
  | fuel + 1, live, signs, higher, first => do
    match ← takeSign signs with
    | none => return first
    | some s =>
      let second ← ranked fuel live higher
      rankedRest fuel live signs higher (← if live then apply s first second else pure second)

/-- A number, a name, a formula in brackets, or an operand with a sign. -/
def operand : Nat → Matters → Act Int
  | 0, _ => refuse "expecting primary"
  | fuel + 1, live => do
    match (← get).rest with
    | .number n :: rest =>
      modify fun t => { t with rest }
      return n
    | .name n :: rest =>
      modify fun t => { t with rest }
      if live then numberOf n else return 0
    | .sign s :: rest =>
      if ["(", "+", "-", "!", "~"].contains s then
        modify fun t => { t with rest }
        match s with
        | "(" =>
          let n ← formula fuel live
          if (← takeSign [")"]).isNone then refuse "expecting ')'"
          return n
        | "+" => operand fuel live
        | "-" => return wrapped (-(← operand fuel live))
        | "!" => return if (← operand fuel live) = 0 then 1 else 0
        | _ => return -(← operand fuel live) - 1
      else refuse "expecting primary"
    | _ => refuse "expecting primary"

end

/-- The value of a formula, and the names that it gives values. -/
def value (valueOf : Chars → Chars) (cs : Chars) : Except Fault (Int × List (Chars × Int)) :=
  let rest := items (cs.length + 1) cs
  let act : Act Int := do
    let n ← formula (20 * rest.length + 40) true
    if (← get).rest.isEmpty then return n else refuse "expecting EOF"
  let (result, s) := act.run.run { rest, valueOf }
  result.map fun n => (n, s.changed.reverse)

/-! ## Readings -/

example : ((value (fun _ => ['5']) "1 + x*(2-4)".toList).toOption.map Prod.fst) = some (-9) := by
  decide +kernel
example : ((value (fun _ => []) "y = 0x10, 1".toList).toOption.map Prod.fst) = none := by
  decide +kernel

end Handover.Shell.Calculation
