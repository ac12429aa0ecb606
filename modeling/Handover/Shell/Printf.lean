/-
  Writing by a format.

  A format is used again as long as arguments are left.  Its own escapes are read as it is used;
  `%b` reads escapes in an argument too.  The commands `echo` and `printf` share the escapes.
-/
import Handover.Decimal.Places
import Handover.Shell.Syntax

namespace Handover.Shell

/-! ## Escapes -/

/-- The value of an octal digit. -/
def octal? (c : Char) : Option Nat := if '0' ≤ c ∧ c ≤ '7' then some (c.toNat - 48) else none

/-- At most `n` octal digits as a number, and what follows them. -/
def octalDigits : Nat → Nat → Chars → Nat × Chars
  | 0, value, cs => (value, cs)
  | _ + 1, value, [] => (value, [])
  | n + 1, value, c :: rest =>
    match octal? c with
    | some d => octalDigits n (value * 8 + d) rest
    | none => (value, c :: rest)

/-- The character for a letter after a backslash. -/
def escapeLetter? (c : Char) : Option Char :=
  match c with
  | '\\' => some '\\'
  | 'a' => some '\x07'
  | 'b' => some '\x08'
  | 'e' => some '\x1b'
  | 'f' => some '\x0c'
  | 'n' => some '\n'
  | 'r' => some '\r'
  | 't' => some '\t'
  | 'v' => some '\x0b'
  | _ => none

/-- The character of a number, of which eight bits count. -/
def byteChar (n : Nat) : Char := Char.ofNat (n % 256)

/-- The character of an escape, and what follows it.  A backslash before any other sign stands for
    itself. -/
def escape (cs : Chars) : Char × Chars :=
  match cs with
  | [] => ('\\', [])
  | c :: rest =>
    match octal? c, escapeLetter? c with
    | some _, _ => ((byteChar (octalDigits 3 0 cs).1), (octalDigits 3 0 cs).2)
    | none, some e => (e, rest)
    | none, none => ('\\', cs)

/-- A text with its escapes read, and whether one of them ends all output. -/
def unescape : Nat → Chars → Chars × Bool
  | 0, _ => ([], false)
  | _ + 1, [] => ([], false)
  | fuel + 1, '\\' :: 'c' :: _ => let _ := fuel; ([], true)
  | fuel + 1, '\\' :: '0' :: rest =>
    let (value, rest) := octalDigits 3 0 rest
    let (more, ended) := unescape fuel rest
    (byteChar value :: more, ended)
  | fuel + 1, '\\' :: rest =>
    let (c, rest) := escape rest
    let (more, ended) := unescape fuel rest
    (c :: more, ended)
  | fuel + 1, c :: rest =>
    let (more, ended) := unescape fuel rest
    (c :: more, ended)

/-- What `echo` writes. -/
def echoText (args : List Chars) : Chars :=
  let (words, newline) := match args with
    | ['-', 'n'] :: rest => (rest, false)
    | _ => (args, true)
  let joined := [' '].intercalate words
  let (text, ended) := unescape (joined.length + 1) joined
  text ++ (if newline && !ended then ['\n'] else [])

/-! ## Numbers -/

/-- The digits of a number in a base. -/
def digitsOf (base n : Nat) : Chars := Nat.toDigits base n

/-- A whole number as it is written in a script. -/
def number? (cs : Chars) : Option Int :=
  let (negative, digits) := match cs with
    | '-' :: rest => (true, rest)
    | '+' :: rest => (false, rest)
    | _ => (false, cs)
  if digits.isEmpty || !digits.all Char.isDigit then none
  else
    let n : Nat := digits.foldl (fun n d => n * 10 + (d.toNat - 48)) 0
    some (if negative then -(n : Int) else n)

/-! ## Arguments -/

/-- Why an argument is not quite the number that is asked for. -/
inductive ArgumentFault where
  | notANumber
  | notAllANumber
  | outOfRange
deriving Repr, DecidableEq

/-- The words for a fault. -/
def ArgumentFault.text : ArgumentFault → String
  | .notANumber => "expected numeric value"
  | .notAllANumber => "not completely converted"
  | .outOfRange => "Numerical result out of range"

/-- A blank before a number. -/
def isLeadingBlank (c : Char) : Bool := c == ' ' || ('\x09' ≤ c && c ≤ '\x0d')

/-- The value of a digit in bases up to sixteen. -/
def digitValue? (base : Nat) (c : Char) : Option Nat :=
  let value :=
    if c.isDigit then some (c.toNat - '0'.toNat)
    else if 'a' ≤ c ∧ c ≤ 'f' then some (c.toNat - 'a'.toNat + 10)
    else if 'A' ≤ c ∧ c ≤ 'F' then some (c.toNat - 'A'.toNat + 10)
    else none
  value.filter (· < base)

/-- The number that the digits at the start of a text are, how many they are, and what follows
    them. -/
def digitsIn (base : Nat) : Nat → Nat → Chars → Nat × Nat × Chars
  | value, count, [] => (value, count, [])
  | value, count, c :: rest =>
    match digitValue? base c with
    | some d => digitsIn base (value * base + d) (count + 1) rest
    | none => (value, count, c :: rest)

/-- A sign at the start of a text, and what follows it. -/
def signIn (cs : Chars) : Bool × Chars :=
  match cs with
  | '-' :: rest => (true, rest)
  | '+' :: rest => (false, rest)
  | _ => (false, cs)

/-- The digits of a number with a mark of their base before them: the number and what follows it.
    `none` if there is none. -/
def markedNumber (cs : Chars) : Option (Nat × Chars) :=
  match cs with
  | '0' :: x :: d :: rest =>
    if (x = 'x' ∨ x = 'X') ∧ (digitValue? 16 d).isSome then
      let (value, _, rest) := digitsIn 16 0 0 (d :: rest)
      some (value, rest)
    else
      let (value, _, rest) := digitsIn 8 0 0 cs
      some (value, rest)
  | '0' :: _ =>
    let (value, _, rest) := digitsIn 8 0 0 cs
    some (value, rest)
  | _ =>
    let (value, count, rest) := digitsIn 10 0 0 cs
    if count = 0 then none else some (value, rest)

/-- The code of the character behind a quote, if an argument begins with one. -/
def quotedCode? (arg : Chars) : Option Nat :=
  match arg with
  | '\'' :: rest | '"' :: rest => some ((rest.head?.map Char.toNat).getD 0)
  | _ => none

/-- The whole number that an argument is.  One below zero counts from above where there are no
    signs. -/
def wholeNumber (hasSign : Bool) (arg : Chars) : Int × Option ArgumentFault :=
  match quotedCode? arg with
  | some code => (code, none)
  | none =>
    let (negative, digits) := signIn (arg.dropWhile isLeadingBlank)
    match markedNumber digits with
    | none => (0, if arg.isEmpty then none else some .notANumber)
    | some (n, rest) =>
      let least : Nat := Nat.pow 2 63
      let all : Nat := Nat.pow 2 64
      let (value, tooLarge) : Int × Bool :=
        if hasSign then
          if negative then (-(min n least : Nat), decide (least < n))
          else ((min n (least - 1) : Nat), decide (least ≤ n))
        else if all ≤ n then ((all - 1 : Nat), true)
        else (if negative ∧ n ≠ 0 then ((all - n : Nat), false) else ((n : Int), false))
      (value, if !rest.isEmpty then some .notAllANumber
        else if tooLarge then some .outOfRange else none)

/-- A number that may have places behind a point. -/
inductive Real where
  | notANumber (negative : Bool)
  | infinite (negative : Bool)
  | finite (negative : Bool) (magnitude : Decimal.Magnitude)

/-- The power of ten or two at the start of a text, behind one of its marks. -/
def powerIn (marks : Chars) (cs : Chars) : Int × Chars :=
  match cs with
  | c :: rest =>
    let (negative, digits) := signIn rest
    let (value, count, after) := digitsIn 10 0 0 digits
    if marks.contains c ∧ 0 < count then
      ((if negative then -(value : Int) else value), after)
    else (0, cs)
  | [] => (0, [])

/-- Digits with or without a point: their number, how many stand behind the point, and what follows
    them. -/
def pointedDigits (base : Nat) (cs : Chars) : Option (Nat × Nat × Chars) :=
  let (value, count, rest) := digitsIn base 0 0 cs
  match rest with
  | '.' :: more =>
    let (value, places, after) := digitsIn base value 0 more
    if count + places = 0 then none else some (value, places, after)
  | _ => if count = 0 then none else some (value, 0, rest)

/-- The ratio of a number to a power of a base. -/
def powerRatio (base value : Nat) (power : Int) : Nat × Nat :=
  -- Beyond these bounds nothing changes any more.
  let power := max (-5000) (min 5000 power)
  if 0 ≤ power then (value * Nat.pow base power.toNat, 1)
  else (value, Nat.pow base (-power).toNat)

/-- The number with places that an argument is. -/
def realNumber (arg : Chars) : Real × Option ArgumentFault :=
  let nearest := fun (negative : Bool) (ratio : Nat × Nat) (rest : Chars) =>
    let tail := if rest.isEmpty then none else some ArgumentFault.notAllANumber
    match Decimal.Magnitude.ofRatio ratio.1 ratio.2 with
    | some m =>
      let lost := ratio.1 ≠ 0 ∧ m.mantissa = 0
      (Real.finite negative m, tail.orElse fun _ => if lost then some .outOfRange else none)
    | none => (Real.infinite negative, tail.orElse fun _ => some .outOfRange)
  match quotedCode? arg with
  | some code => nearest false (code, 1) []
  | none =>
    let (negative, cs) := signIn (arg.dropWhile isLeadingBlank)
    let lower := cs.map Char.toLower
    let word := fun (text : String) => text.toList.isPrefixOf lower
    let ended := fun (n : Nat) =>
      if (cs.drop n).isEmpty then none else some ArgumentFault.notAllANumber
    if word "infinity" then (.infinite negative, ended 8)
    else if word "inf" then (.infinite negative, ended 3)
    else if word "nan" then (.notANumber negative, ended 3)
    else
      let hex := if word "0x" then pointedDigits 16 (cs.drop 2) else none
      match hex, pointedDigits 10 cs with
      | some (value, places, rest), _ =>
        let (power, rest) := powerIn ['p', 'P'] rest
        nearest negative (powerRatio 2 value (power - 4 * places)) rest
      | none, some (value, places, rest) =>
        let (power, rest) := powerIn ['e', 'E'] rest
        nearest negative (powerRatio 10 value (power - places)) rest
      | none, none =>
        (.finite negative .zero, if arg.isEmpty then none else some .notANumber)

/-! ## Layouts -/

/-- How a value is set: the flags, the least width and the most digits or characters. -/
structure Layout where
  left : Bool := false
  zeros : Bool := false
  /-- What stands before a number that is not below zero. -/
  sign : Chars := []
  /-- The base of a number is marked. -/
  marked : Bool := false
  width : Nat := 0
  precision : Option Nat := none

/-- A text at least as wide as the layout says.  Zeros go between the head of a number and its
    digits. -/
def Layout.pad (l : Layout) (zeros : Bool) (head text : Chars) : Chars :=
  let missing := l.width - (head.length + text.length)
  if l.left then head ++ text ++ List.replicate missing ' '
  else if zeros then head ++ List.replicate missing '0' ++ text
  else List.replicate missing ' ' ++ head ++ text

/-- A text cut to the characters that the layout allows. -/
def Layout.text (l : Layout) (text : Chars) : Chars :=
  l.pad false [] (match l.precision with
    | some n => text.take n
    | none => text)

/-- A whole number as text.  `sign` says that it has one. -/
def Layout.whole (l : Layout) (base : Nat) (hasSign : Bool) (n : Int) : Chars :=
  let digits := if n = 0 ∧ l.precision = some 0 then [] else digitsOf base n.natAbs
  let digits := List.replicate ((l.precision.getD 1) - digits.length) '0' ++ digits
  let digits := if l.marked ∧ base = 8 ∧ digits.head? ≠ some '0' then '0' :: digits else digits
  let mark := if l.marked ∧ base = 16 ∧ n ≠ 0 then ['0', 'x'] else []
  let sign := if n < 0 then ['-'] else if hasSign then l.sign else []
  l.pad (l.zeros && l.precision.isNone) (sign ++ mark) digits

/-- A number with places as text, in the way that a letter stands for. -/
def Layout.real (l : Layout) (way : Char) (x : Real) : Chars :=
  let signOf := fun (negative : Bool) => if negative then ['-'] else l.sign
  match x with
  | .notANumber negative => l.pad false (signOf negative) "nan".toList
  | .infinite negative => l.pad false (signOf negative) "inf".toList
  | .finite negative m =>
    let places := l.precision.getD 6
    let point := fun (ds : Chars) =>
      if l.marked ∧ !ds.contains '.' then
        ds.takeWhile (· != 'e') ++ '.' :: ds.dropWhile (· != 'e')
      else ds
    let digits := match way with
      | 'f' => point (Decimal.fixed m places)
      | 'e' => point (Decimal.scientific m places)
      | _ =>
        let count := max places 1
        point (Decimal.general m count l.marked count)
    l.pad l.zeros (signOf negative) digits

/-- The flags at the start of a layout, and what follows them. -/
def flags : Layout → Chars → Layout × Chars
  | l, '-' :: rest => flags { l with left := true } rest
  | l, '0' :: rest => flags { l with zeros := true } rest
  | l, '+' :: rest => flags { l with sign := ['+'] } rest
  | l, ' ' :: rest => flags { l with sign := if l.sign.isEmpty then [' '] else l.sign } rest
  | l, '#' :: rest => flags { l with marked := true } rest
  | l, cs => (l, cs)

/-- A number at the start of a text, and what follows it. -/
def leadingNumber (cs : Chars) : Nat × Chars :=
  ((cs.takeWhile Char.isDigit).foldl (fun n d => n * 10 + (d.toNat - 48)) 0,
    cs.dropWhile Char.isDigit)

/-- A message about an argument. -/
abbrev Fault := Chars × ArgumentFault

/-- The number that an argument gives for a layout. -/
def layoutNumber (args : List Chars) : Int × List Fault × List Chars :=
  let arg := args.headD []
  let (n, fault) := wholeNumber true arg
  (n, fault.toList.map fun f => (arg, f), args.drop 1)

/-- A number of a layout: its own digits, or an argument where an asterisk stands. -/
def layoutPart (cs : Chars) (args : List Chars) : Option Int × List Fault × Chars × List Chars :=
  match cs with
  | '*' :: rest =>
    let (n, faults, args) := layoutNumber args
    (some n, faults, rest, args)
  | c :: _ =>
    if c.isDigit then
      let (n, rest) := leadingNumber cs
      (some n, [], rest, args)
    else (none, [], cs, args)
  | [] => (none, [], cs, args)

/-- The layout after a percent sign, and what follows it. -/
def layoutOf (cs : Chars) (args : List Chars) : Layout × List Fault × Chars × List Chars :=
  let (l, cs) := flags {} cs
  let (width, faults, cs, args) := layoutPart cs args
  let width := width.getD 0
  let l := { l with width := width.natAbs, left := l.left || decide (width < 0) }
  match cs with
  | '.' :: rest =>
    let (precision, more, cs, args) := layoutPart rest args
    let precision := precision.getD 0
    ({ l with precision := if precision < 0 then none else some precision.toNat },
      faults ++ more, cs, args)
  | _ => (l, faults, cs, args)

/-! ## Formats -/

/-- Why a format cannot be used any further. -/
inductive FormatFault where
  | unknown (directive : Chars)
  | unfinished
deriving Repr, DecidableEq

/-- How the use of a format ended. -/
inductive Stop where
  /-- At its end. -/
  | none
  /-- An escape ended all output. -/
  | asked
  | fault (fault : FormatFault)
deriving Repr, DecidableEq

/-- What was written by a format. -/
structure Printed where
  text : Chars := []
  /-- The arguments that are not what the format asks for. -/
  faults : List Fault := []
  /-- The arguments that are left. -/
  rest : List Chars
  stop : Stop := .none

/-- The same with a text and messages before it. -/
def Printed.after (text : Chars) (faults : List Fault) (p : Printed) : Printed :=
  { p with text := text ++ p.text, faults := faults ++ p.faults }

/-- Use a format once. -/
def printOnce : Nat → Chars → List Chars → Printed
  | 0, _, args => { rest := args }
  | _ + 1, [], args => { rest := args }
  | fuel + 1, '\\' :: rest, args =>
    let (c, rest) := escape rest
    (printOnce fuel rest args).after [c] []
  | fuel + 1, '%' :: '%' :: rest, args => (printOnce fuel rest args).after ['%'] []
  | fuel + 1, '%' :: cs, args =>
    let (l, faults, rest, args) := layoutOf cs args
    let arg := args.headD []
    let left := args.drop 1
    let go := fun (rest : Chars) (text : Chars) (fault : Option ArgumentFault) =>
      (printOnce fuel rest left).after text (faults ++ fault.toList.map fun f => (arg, f))
    match rest with
    | [] => { faults, rest := args, stop := .fault .unfinished }
    | letter :: rest =>
      match letter with
      | 's' => go rest (l.text arg) none
      | 'b' =>
        let (text, ended) := unescape (arg.length + 1) arg
        if ended then { text := l.text text, faults, rest := left, stop := .asked }
        else go rest (l.text text) none
      | 'c' => go rest (l.pad false [] [arg.headD '\x00']) none
      | 'd' | 'i' =>
        let (n, fault) := wholeNumber true arg
        go rest (l.whole 10 true n) fault
      | 'u' | 'o' | 'x' | 'X' =>
        let (n, fault) := wholeNumber false arg
        let base := if letter = 'u' then 10 else if letter = 'o' then 8 else 16
        let text := l.whole base false n
        go rest (if letter = 'X' then text.map Char.toUpper else text) fault
      | 'e' | 'f' | 'g' | 'E' | 'F' | 'G' =>
        let (x, fault) := realNumber arg
        let text := l.real letter.toLower x
        go rest (if letter.isUpper then text.map Char.toUpper else text) fault
      | _ =>
        let before := cs.take (cs.length - rest.length)
        { faults, rest := args, stop := .fault (.unknown ('%' :: before)) }
  | fuel + 1, c :: rest, args => (printOnce fuel rest args).after [c] []

/-- Use a format as often as it takes arguments. -/
def printAll : Nat → Chars → List Chars → Printed
  | 0, _, args => { rest := args }
  | fuel + 1, format, args =>
    let once := printOnce (format.length + 1) format args
    if once.stop ≠ .none ∨ once.rest.isEmpty ∨ once.rest.length = args.length then once
    else (printAll fuel format once.rest).after once.text once.faults

/-- What a format and its arguments write. -/
def formatted (format : Chars) (args : List Chars) : Printed :=
  printAll (args.length + 1) format args

/-! ## Readings -/

example : (formatted "[%s]\\n".toList [['a'], ['b']]).text = "[a]\n[b]\n".toList := by
  decide +kernel
example : (formatted "\\377%5.1s|%03d".toList ["xy".toList, ['7']]).text
    = 'ÿ' :: "    x|007".toList := by decide +kernel
example : (formatted "%.2f %#x".toList ["2.675".toList, "0377".toList]).text
    = "2.67 0xff".toList := by decide +kernel
example : echoText ["a\\tb".toList] = "a\tb\n".toList := by decide +kernel

end Handover.Shell
