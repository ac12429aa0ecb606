/-
  Tests of texts, numbers and files.

  A test is read from left to right; what a word means depends on the words behind it.  A word that
  is an operator of two operands makes the words around it operands.
-/
import Handover.Shell.State

namespace Handover.Shell.Test

open Files (Node)

/-! ## Operators -/

/-- What an operator takes. -/
inductive Kind where
  | one
  | two
  | not
  | both
  | either
  | opening
  | closing
deriving Repr, DecidableEq

/-- What a word takes if it is an operator. -/
def kindOf? (word : Chars) : Option Kind :=
  match word with
  | ['!'] => some .not
  | ['('] => some .opening
  | [')'] => some .closing
  | ['-', 'a'] => some .both
  | ['-', 'o'] => some .either
  | ['-', c] => if "rwxefdcbpugkstznhOGLS".toList.contains c then some .one else none
  | _ =>
    if ["=", "!=", "<", ">", "-eq", "-ne", "-ge", "-gt", "-le", "-lt", "-nt", "-ot", "-ef"].contains
      (String.ofList word) then some .two
    else none

/-- The operator takes two operands. -/
def isTwo (word : Chars) : Bool := kindOf? word == some .two

/-- What the first of some words is: an operator, an operand, or nothing. -/
def first? (words : List Chars) : Option Kind :=
  match words with
  | [] => none
  | word :: rest =>
    match kindOf? word, rest with
    | some .one, [] | some .opening, [] => none
    | some .one, [_] => some .one
    | some .one, next :: _ :: _ => if isTwo next then none else some .one
    | kind, _ => kind

/-! ## Single tests -/

/-- What a path names. -/
def nodeAt (s : State) (path : Chars) : Option Node :=
  match s.world.files.status s.world.cwd (Chars.toBytes path) with
  | .ok (_, node) => some node
  | .error _ => none

/-- Where what a path names stands. -/
def locationOf (s : State) (path : Chars) : Option Files.Location :=
  match s.world.files.status s.world.cwd (Chars.toBytes path) with
  | .ok (at_, _) => some at_
  | .error _ => none

/-- The path names a link. -/
def isLink (s : State) (path : Chars) : Bool :=
  match s.world.files.locate s.world.cwd false (Chars.toBytes path) with
  | .ok at_ =>
    match s.world.files.node? at_ with
    | some (.symlink _) => true
    | _ => false
  | .error _ => false

/-- A test of one operand. -/
def one (s : State) (operator operand : Chars) : Bool :=
  let node := nodeAt s operand
  match operator with
  | ['-', 'n'] => !operand.isEmpty
  | ['-', 'z'] => operand.isEmpty
  | ['-', 'e'] | ['-', 'r'] | ['-', 'w'] | ['-', 'O'] | ['-', 'G'] => node.isSome
  | ['-', 'f'] =>
    match node with
    | some (.file ..) | some (.program _) => true
    | _ => false
  | ['-', 'd'] => node == some .directory
  | ['-', 'p'] => node == some .fifo
  | ['-', 'c'] => node == some .device
  | ['-', 'x'] =>
    match node with
    | some (.file mode _) => Machine.isExecutableMode mode
    | some (.program _) | some .directory => true
    | _ => false
  | ['-', 's'] =>
    match node with
    | some (.file _ content) => !content.isEmpty
    | some (.program _) | some .directory => true
    | _ => false
  | ['-', 'u'] | ['-', 'g'] | ['-', 'k'] =>
    match node with
    | some (.file mode _) =>
      mode &&& (if operator = ['-', 'u'] then 0o4000 else if operator = ['-', 'g'] then 0o2000
        else 0o1000) != 0
    | _ => false
  | ['-', 'L'] | ['-', 'h'] => isLink s operand
  | _ => false

/-- Blanks around a number. -/
def isSpace (c : Char) : Bool := c == ' ' || decide ('\t' ≤ c ∧ c ≤ '\x0d')

/-- The number of an operand. -/
def numberOf (text : Chars) : Except Chars Int :=
  let inner := ((text.dropWhile isSpace).reverse.dropWhile isSpace).reverse
  let bound : Int := Nat.pow 2 63
  match (number? inner).filter fun n => -bound ≤ n ∧ n < bound with
  | some n => .ok n
  | none => .error ("Illegal number: ".toList ++ text)

/-- A test of two operands. -/
def two (s : State) (left operator right : Chars) : Except Chars Bool := do
  let numbers := fun (f : Int → Int → Bool) => do
    let a ← numberOf left
    let b ← numberOf right
    return f a b
  match String.ofList operator with
  | "=" => return left == right
  | "!=" => return left != right
  | "<" => return decide (left < right)
  | ">" => return decide (right < left)
  | "-eq" => numbers fun a b => a == b
  | "-ne" => numbers fun a b => a != b
  | "-lt" => numbers fun a b => decide (a < b)
  | "-le" => numbers fun a b => decide (a ≤ b)
  | "-gt" => numbers fun a b => decide (b < a)
  | "-ge" => numbers fun a b => decide (b ≤ a)
  | "-ef" => return (locationOf s left).isSome && locationOf s left == locationOf s right
  | "-nt" => return (nodeAt s left).isSome && (nodeAt s right).isNone
  | "-ot" => return (nodeAt s left).isNone && (nodeAt s right).isSome
  | _ => return false

/-! ## Whole tests -/

/-- What is wrong with a word. -/
def wrong (word : Chars) (what : String) : Chars :=
  (if word.isEmpty then [] else word ++ ": ".toList) ++ what.toList

mutual

/-- Tests of which one must hold.  The words that come back begin with the last one that was used. -/
def either (s : State) : Nat → List Chars → Except Chars (Bool × List Chars)
  | 0, words => .ok (false, words)
  | fuel + 1, words => do
    let (left, words) ← both s fuel words
    if first? (words.drop 1) = some .either then
      let (right, words) ← either s fuel (words.drop 2)
      return (left || right, words)
    else return (left, words)

/-- Tests of which all must hold. -/
def both (s : State) : Nat → List Chars → Except Chars (Bool × List Chars)
  | 0, words => .ok (false, words)
  | fuel + 1, words => do
    let (left, words) ← negated s fuel words
    if first? (words.drop 1) = some .both then
      let (right, words) ← both s fuel (words.drop 2)
      return (left && right, words)
    else return (left, words)

/-- A test that may be turned round. -/
def negated (s : State) : Nat → List Chars → Except Chars (Bool × List Chars)
  | 0, words => .ok (false, words)
  | fuel + 1, words => do
    if first? words = some .not then
      match words with
      | [only] => return (true, [only])
      | words =>
        let (answer, words) ← negated s fuel (words.drop 1)
        return (!answer, words)
    else single s fuel words

/-- A test in brackets, of an operator, or of a word alone. -/
def single (s : State) : Nat → List Chars → Except Chars (Bool × List Chars)
  | 0, words => .ok (false, words)
  | _ + 1, [] => .ok (false, [])
  | fuel + 1, word :: rest => do
    match first? (word :: rest), rest with
    | some .opening, _ =>
      if first? rest = some .closing then return (false, rest)
      else
        let (answer, words) ← either s fuel rest
        match words.drop 1 with
        | [')'] :: _ => return (answer, words.drop 1)
        | _ => throw "closing paren expected".toList
    | some .one, [] => throw (wrong word "argument expected")
    | some .one, operand :: _ => return (one s word operand, rest)
    | _, operator :: more =>
      if first? rest = some .two then
        match more with
        | [] => throw (wrong operator "argument expected")
        | right :: _ => return (← two s word operator right, more)
      else return (!word.isEmpty, word :: rest)
    | _, [] => return (!word.isEmpty, [word])

end

/-- What a test says.  A sign of negation before three or four words stands for all such signs before
    them. -/
def evaluate (s : State) : Nat → Bool → List Chars → Except Chars Bool
  | 0, _, _ => .ok false
  | fuel + 1, turned, args => do
    let finish := fun (result : Bool × List Chars) => do
      match result.2 with
      | a :: _ :: _ => throw (wrong a "unexpected operator")
      | _ => return result.1 != turned
    let whole := fun (args : List Chars) => do finish (← either s (6 * args.length + 6) args)
    match args with
    | [] => return turned
    | [a, operator, b] =>
      if isTwo operator then finish (← two s a operator b, [b])
      else if a = ['('] ∧ b = [')'] then whole [operator]
      else if a = ['!'] then evaluate s fuel true [operator, b]
      else whole args
    | [a, b, c, d] =>
      if a = ['('] ∧ d = [')'] then whole [b, c]
      else if a = ['!'] then evaluate s fuel true [b, c, d]
      else whole args
    | args => whole args

/-- The command `test`. -/
def run (args : List Chars) : Act Unit := do
  match evaluate (← get) (args.length + 1) false args with
  | .ok true => Act.setStatus 0
  | .ok false => Act.setStatus 1
  | .error message => Act.fail message

end Handover.Shell.Test
