/-
  Tools that tell about the system, wait, or run other tools.
-/
import Handover.Machine.Start
import Handover.Shell.Builtin.Test
import Handover.Tools.Lines

namespace Handover.Tools

open Machine (World Ran Outlet)

/-! ## The system -/

/-- Write values of the environment. -/
def printenv (c : Call) : Ran :=
  c.withOptions [⟨'0', "null", .none, true⟩] 2 fun given words =>
    let stop : UInt8 := if given.any fun g => g.1 == '0' then 0 else 0x0A
    if words = [] then
      c.ends 0 [(.output, c.world.environment.flatMap fun e => e.1 ++ 0x3D :: e.2 ++ [stop])]
    else
      let values := words.map c.world.valueOf?
      c.ends (if values.all Option.isSome then 0 else 1)
        [(.output, values.flatMap fun v => (v.map fun v => v ++ [stop]).getD [])]

/-- Write the name of the system and of the machine. -/
def uname (c : Call) : Ran :=
  c.withOptions [⟨'s', "kernel-name", .none, true⟩, ⟨'m', "machine", .none, true⟩,
      ⟨'o', "operating-system", .none, true⟩] 1 fun given words =>
    match words with
    | extra :: _ => c.misused 1 (Text.encode "extra operand " ++ quoted extra)
    | [] =>
      let has := fun (letter : Char) => given.any fun g => g.1 == letter
      let parts := (if has 's' || given.isEmpty then ["Linux"] else [])
        ++ (if has 'm' then ["x86_64"] else []) ++ (if has 'o' then ["GNU/Linux"] else [])
      c.ends 0 [(.output, Text.encode (" ".intercalate parts ++ "\n"))]

/-- Write the name of the user. -/
def whoami (c : Call) : Ran :=
  c.withOptions [] 1 fun _ words =>
    match words with
    | extra :: _ => c.misused 1 (Text.encode "extra operand " ++ quoted extra)
    | [] => c.ends 0 [(.output, Text.encode "root\n")]

/-- Write the numbers and names of the user. -/
def id (c : Call) : Ran :=
  c.withOptions [⟨'u', "user", .none, true⟩, ⟨'g', "group", .none, true⟩,
      ⟨'G', "groups", .none, true⟩, ⟨'n', "name", .none, true⟩,
      ⟨'r', "real", .none, true⟩] 1 fun given words =>
    let has := fun (letter : Char) => given.any fun g => g.1 == letter
    match words.find? fun word => word ≠ Text.encode "root" ∧ word ≠ Text.encode "0" with
    | some word => c.ends 1 [c.saying (quoted word ++ Text.encode ": no such user")]
    | none =>
      if has 'u' || has 'g' || has 'G' then
        c.ends 0 [(.output, Text.encode (if has 'n' then "root\n" else "0\n"))]
      else if has 'n' || has 'r' then
        c.ends 1 [c.saying (Text.encode "cannot print only names or real IDs in default format")]
      else c.ends 0 [(.output, Text.encode "uid=0(root) gid=0(root) groups=0(root)\n")]

/-! ## Waiting -/

/-- The text is a length of time. -/
def isTime (word : Bytes) : Bool :=
  let number := match word.getLast? with
    | some b => if (Text.encode "smhd").contains b then word.dropLast else word
    | none => word
  let digits := number.filter (· != 0x2E)
  (wholeNumber? digits).isSome && decide (number.length ≤ digits.length + 1)

/-- Wait, which takes no time. -/
def sleep (c : Call) : Ran :=
  c.withOptions [] 1 fun _ words =>
    if words = [] then c.misused 1 (Text.encode "missing operand")
    else
      match words.filter fun word => !isTime word with
      | [] => c.ends 0 []
      | wrong => c.ends 1 ((wrong.map fun word =>
          c.saying (Text.encode "invalid time interval " ++ quoted word)) ++ [c.hint])

/-! ## Tests -/

/-- Tell whether something holds.  `bracket` says that the last word is a closing bracket. -/
def test (bracket : Bool) (c : Call) : Ran :=
  if bracket && c.words.getLast? != some [0x5D] then
    c.ends 2 [c.saying (Text.encode "missing \x27]\x27")]
  else
    let words := if bracket then c.words.dropLast else c.words
    let s := Shell.State.start c.world [] [] [] []
    match Shell.Test.evaluate s (words.length + 1) false (words.map Shell.Chars.ofBytes) with
    | .ok holds => c.ends (if holds then 0 else 1) []
    | .error message => c.ends 2 [c.saying (Shell.Chars.toBytes message)]

/-! ## Calculations -/

namespace Expr

/-- Why there is no value. -/
inductive Fault where
  | missingBehind (word : Bytes)
  | unexpected (word : Bytes)
  | notWhole
  | divisionByZero

/-- The words for a fault. -/
def Fault.text : Fault → Bytes
  | .missingBehind word => Text.encode "syntax error: missing argument after " ++ quoted word
  | .unexpected word => Text.encode "syntax error: unexpected argument " ++ quoted word
  | .notWhole => Text.encode "non-integer argument"
  | .divisionByZero => Text.encode "division by zero"

/-- The value counts as nothing. -/
def isNothing (value : Bytes) : Bool := value.isEmpty || (signedNumber? value) == some 0

/-- The operators, the loosest first. -/
def levels : List (List String) := [["|"], ["&"], ["<", "<=", "=", "==", "!=", ">=", ">"],
  ["+", "-"], ["*", "/", "%"]]

/-- The value of an operator and two values. -/
def apply (operator : String) (a b : Bytes) : Except Fault Bytes :=
  let whole := fun (f : Int → Int → Except Fault Int) => do
    match signedNumber? a, signedNumber? b with
    | some x, some y => return Text.encode (toString (← f x y))
    | _, _ => throw Fault.notWhole
  let order := match signedNumber? a, signedNumber? b with
    | some x, some y => compare x y
    | _, _ => Ordered.compareBytes a b
  let holds := fun (value : Bool) => .ok (Text.encode (if value then "1" else "0"))
  match operator with
  | "|" => .ok (if !isNothing a then a else if !isNothing b then b else Text.encode "0")
  | "&" => .ok (if isNothing a || isNothing b then Text.encode "0" else a)
  | "<" => holds (order == .lt)
  | "<=" => holds (order != .gt)
  | "=" | "==" => holds (order == .eq)
  | "!=" => holds (order != .eq)
  | ">=" => holds (order != .lt)
  | ">" => holds (order == .gt)
  | "+" => whole fun x y => .ok (x + y)
  | "-" => whole fun x y => .ok (x - y)
  | "*" => whole fun x y => .ok (x * y)
  | "/" => whole fun x y => if y = 0 then .error .divisionByZero else .ok (Int.tdiv x y)
  | _ => whole fun x y => if y = 0 then .error .divisionByZero else .ok (Int.tmod x y)

mutual

/-- The value of an expression from a level of operators on, and the words behind it.  `before` is
    the word in front of it. -/
def value : Nat → List (List String) → Bytes → List Bytes → Except Fault (Bytes × List Bytes)
  | 0, _, before, _ => .error (.missingBehind before)
  | fuel + 1, levels, before, words =>
    match levels with
    | [] => single fuel before words
    | operators :: tighter => do
      let (first, words) ← value fuel tighter before words
      further fuel operators tighter first words

/-- What follows a value among operators of the same level. -/
def further : Nat → List String → List (List String) → Bytes → List Bytes →
    Except Fault (Bytes × List Bytes)
  | 0, _, _, first, words => .ok (first, words)
  | fuel + 1, operators, tighter, first, words =>
    match words with
    | word :: rest =>
      match operators.find? fun o => Text.encode o == word with
      | some operator => do
        let (second, rest) ← value fuel tighter word rest
        further fuel operators tighter (← apply operator first second) rest
      | none => .ok (first, words)
    | [] => .ok (first, [])

/-- A value that is no operation of two values. -/
def single : Nat → Bytes → List Bytes → Except Fault (Bytes × List Bytes)
  | 0, before, _ => .error (.missingBehind before)
  | fuel + 1, before, words =>
    match words with
    | [] => .error (.missingBehind before)
    | word :: rest =>
      if word = Text.encode "(" then do
        let (inner, rest) ← value fuel levels word rest
        match rest with
        | close :: rest =>
          if close = Text.encode ")" then return (inner, rest) else throw (.unexpected close)
        | [] => throw (.missingBehind inner)
      else if word = Text.encode "length" ∧ rest ≠ [] then do
        let (inner, rest) ← single fuel word rest
        return (Text.encode (toString inner.length), rest)
      else if word = Text.encode "substr" ∧ 3 ≤ rest.length then do
        let (text, rest) ← single fuel word rest
        let (place, rest) ← single fuel word rest
        let (count, rest) ← single fuel word rest
        match signedNumber? place, signedNumber? count with
        | some p, some n =>
          return (if p ≤ 0 ∨ n ≤ 0 then [] else (text.drop (p.toNat - 1)).take n.toNat, rest)
        | _, _ => return ([], rest)
      else if word = Text.encode "+" ∧ rest ≠ [] then .ok (rest.headD [], rest.drop 1)
      else .ok (word, rest)

end

end Expr

/-- Write the value of an expression. -/
def expr (c : Call) : Ran :=
  let words := if c.words.head? = some [dash, dash] then c.words.drop 1 else c.words
  if words = [] then c.misused 2 (Text.encode "missing operand")
  else
    match Expr.value (20 * words.length + 20) Expr.levels [] words with
    | .error fault => c.ends 2 [c.saying fault.text]
    | .ok (_, extra :: _) => c.ends 2 [c.saying (Expr.Fault.unexpected extra).text]
    | .ok (value, []) =>
      c.ends (if Expr.isNothing value then 1 else 0) [(.output, value ++ [0x0A])]

/-! ## Tools that run others -/

/-- How other programs are started. -/
abbrev Starter := World → Command → Bytes → Except OsError Ran

/-- Run another tool in the place of this one.  `refusal` is what is said where that is not
    possible. -/
def Call.gives (c : Call) (start : Starter) (words : List Bytes) (refusal : Bytes → Bytes) : Ran :=
  let program := words.headD []
  match start c.world ⟨program, words.drop 1⟩ c.input with
  | .ok ran => { ran with world := { c.world with files := ran.world.files } }
  | .error e =>
    c.ends (if e = .notFound then 127 else 126)
      [c.saying (refusal program ++ Text.encode ": " ++ faultText e)]

/-- The words behind the options at their start. -/
def Call.behindOptions (c : Call) (kinds : List OptionKind) (code : Int)
    (go : List Given → List Bytes → Ran) : Ran :=
  match readOptions kinds true (c.words.length + 1) c.words with
  | .ok (given, words) => go given words
  | .error fault => c.misused code fault.text

/-- Run a tool that the end of a session does not end. -/
def nohup (start : Starter) (c : Call) : Ran :=
  c.behindOptions [] 125 fun _ words =>
    if words = [] then c.misused 125 (Text.encode "missing operand")
    else
      let c := { c with world := { c.world with ignored := 1 :: c.world.ignored } }
      c.gives start words fun program => Text.encode "failed to run command " ++ quoted program

/-- Run a tool with less haste. -/
def nice (start : Starter) (c : Call) : Ran :=
  c.behindOptions [⟨'n', "adjustment", .needed, true⟩] 125 fun _ words =>
    if words = [] then c.ends 0 [(.output, Text.encode "0\n")]
    else c.gives start words quoted

/-- Run a tool for a time that it does not use up. -/
def timeout (start : Starter) (c : Call) : Ran :=
  c.behindOptions [⟨'s', "signal", .needed, true⟩, ⟨'k', "kill-after", .needed, true⟩,
      ⟨'v', "verbose", .none, true⟩, ⟨'p', "preserve-status", .none, false⟩,
      ⟨'f', "foreground", .none, false⟩] 125 fun _ words =>
    match words with
    | time :: program :: args =>
      if isTime time then
        c.gives start (program :: args) fun program =>
          Text.encode "failed to run command " ++ quoted program
      else c.misused 125 (Text.encode "invalid time interval " ++ quoted time)
    | _ => c.ends 125 [c.hint]

/-- Run a tool in a session of its own. -/
def setsid (start : Starter) (c : Call) : Ran :=
  c.behindOptions [⟨'w', "wait", .none, true⟩, ⟨'f', "fork", .none, true⟩,
      ⟨'c', "ctty", .none, true⟩] 1 fun _ words =>
    if words = [] then c.misused 1 (Text.encode "no command specified")
    else c.gives start words fun program => Text.encode "failed to execute " ++ program

end Handover.Tools
