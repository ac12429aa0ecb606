/-
  The tokens of a program.

  Lines and their indentation are tokens too: a line ends with `lineEnd`, and a deeper line is
  preceded by `indent`, a shallower one by as many `dedent` as it leaves blocks.  Inside brackets
  lines do not end.  A text with holes is one token; the sources of its holes are still characters,
  which the parser reads on their own.

  Every step takes at least one character, so the number of characters bounds the number of steps.
-/
import Handover.Interpreter.Value

namespace Handover.Interpreter

/-- A piece of a text with holes. -/
inductive FormPiece where
  | text (text : CodePoints)
  /-- A hole: the source of its value, a text that is shown before the value, how the value is
      converted, and the form in which it is written. -/
  | hole (source : List Char) (echo : CodePoints) (conversion : Option Char)
      (form : List FormPiece)

/-- A token. -/
inductive Token where
  | name (name : String)
  /-- A keyword, an operator or a bracket. -/
  | sign (sign : String)
  | constant (value : Value)
  | joined (pieces : List FormPiece)
  | lineEnd
  | indent
  | dedent

namespace Token

/-- The words that are no names. -/
def keywords : List String :=
  ["False", "None", "True", "and", "as", "assert", "async", "await", "break", "class", "continue",
   "def", "del", "elif", "else", "except", "finally", "for", "from", "global", "if", "import", "in",
   "is", "lambda", "nonlocal", "not", "or", "pass", "raise", "return", "try", "while", "with",
   "yield"]

/-- The signs, the longer ones before those that they begin with. -/
def signs : List (List Char) :=
  ["**=", "//=", ">>=", "<<=", "...", "**", "//", ">>", "<<", "<=", ">=", "==", "!=", "->", "+=",
   "-=", "*=", "/=", "%=", "&=", "|=", "^=", "@=", ":=", "+", "-", "*", "/", "%", "@", "&", "|",
   "^", "~", "<", ">", "(", ")", "[", "]", "\x7b", "\x7d", ",", ":", ".", ";", "="].map
    String.toList

/-- A character that can begin a name. -/
def beginsName (c : Char) : Bool := c.isAlpha || c == '_' || decide (0x80 ≤ c.toNat)

/-- A character that a name can go on with. -/
def continuesName (c : Char) : Bool := beginsName c || c.isDigit

/-- A quote. -/
def isQuote (c : Char) : Bool := c == '"' || c == '\x27'

/-! ## Numbers -/

/-- The digits in front, without the signs between them, and what follows; `none` if a sign
    stands where no digit is on both sides. -/
def takeDigits (accepts : Char → Bool) (cs : List Char) : Option (List Char × List Char) :=
  let run := cs.takeWhile fun c => accepts c || c == '_'
  let wrong := run.head? == some '_' || run.getLast? == some '_'
    || (run.zip (run.drop 1)).any fun p => p.1 == '_' && p.2 == '_'
  if wrong then none else some (run.filter (· != '_'), cs.drop run.length)

/-- The number of digits in a base. -/
def numberOf (base : Nat) (digits : List Char) : Nat :=
  digits.foldl (fun n c => n * base + (CodePoints.digitValue? c.toNat).getD 0) 0

/-- The number `digits · 10 ^ exponent` in double precision. -/
def floatOf (digits : Nat) (exponent : Int) : Float :=
  let size : Int := (Nat.toDigits 10 digits).length
  if digits = 0 ∨ size + exponent < -400 then 0.0
  else if 400 < size + exponent then 1.0 / 0.0
  else Float.ofScientific digits (decide (exponent < 0)) exponent.natAbs

/-- The character is a digit in a base. -/
def isDigitOf (base : Nat) (c : Char) : Bool :=
  match CodePoints.digitValue? c.toNat with
  | some n => decide (n < base)
  | none => false

/-- The exponent in front, if there is one, and what follows. -/
def exponent (cs : List Char) : Option (Option Int × List Char) :=
  match cs with
  | c :: rest =>
    if c != 'e' && c != 'E' then some (none, cs)
    else
      let (minus, digits) := match rest with
        | '-' :: more => (true, more)
        | '+' :: more => (false, more)
        | more => (false, more)
      if !digits.head?.any Char.isDigit then some (none, cs)
      else do
        let (run, rest) ← takeDigits Char.isDigit digits
        let n : Int := numberOf 10 run
        return (some (if minus then -n else n), rest)
  | [] => some (none, [])

/-- A decimal number in front, and what follows. -/
def decimal (cs : List Char) : Option (Value × List Char) := do
  let (whole, rest) ← takeDigits Char.isDigit cs
  let (fraction, rest) ← match rest with
    | '.' :: more => (takeDigits Char.isDigit more).map fun p => (some p.1, p.2)
    | _ => some (none, rest)
  let (power, rest) ← exponent rest
  if fraction.isNone && power.isNone then
    let n := numberOf 10 whole
    if whole.head? = some '0' ∧ n ≠ 0 then none else some (.int n, rest)
  else
    let part := fraction.getD []
    some (.float (floatOf (numberOf 10 (whole ++ part)) (power.getD 0 - part.length)), rest)

/-- A number in front, and what follows. -/
def number (cs : List Char) : Option (Value × List Char) := do
  let based := fun (base : Nat) (rest : List Char) => do
    let rest := if rest.head? = some '_' then rest.drop 1 else rest
    let (run, rest) ← takeDigits (isDigitOf base) rest
    if run.isEmpty then none else some (Value.int (numberOf base run), rest)
  let (value, rest) ← match cs with
    | '0' :: c :: rest =>
      if c == 'x' || c == 'X' then based 16 rest
      else if c == 'o' || c == 'O' then based 8 rest
      else if c == 'b' || c == 'B' then based 2 rest
      else decimal cs
    | _ => decimal cs
  if rest.head?.any continuesName && !(keywords.any fun w => w.toList.isPrefixOf rest) then none
  else some (value, rest)

/-! ## Texts -/

/-- What an escape stands for, told from what follows its backslash. -/
def escape (isBytes : Bool) : List Char → Option (CodePoints × List Char)
  | [] => none
  | c :: rest =>
    let one := fun (n : Nat) => some ([n], rest)
    let hexadecimal := fun (width : Nat) =>
      let run := rest.take width
      if run.length = width ∧ run.all (isDigitOf 16) then
        let n := numberOf 16 run
        if n < 0x110000 then some ([n], rest.drop width) else none
      else none
    match c with
    | '\n' => some ([], rest)
    | '\\' => one 0x5C
    | '\x27' => one 0x27
    | '"' => one 0x22
    | 'a' => one 0x07
    | 'b' => one 0x08
    | 'f' => one 0x0C
    | 'n' => one 0x0A
    | 'r' => one 0x0D
    | 't' => one 0x09
    | 'v' => one 0x0B
    | 'x' => hexadecimal 2
    | 'u' => if isBytes then some ([0x5C, c.toNat], rest) else hexadecimal 4
    | 'U' => if isBytes then some ([0x5C, c.toNat], rest) else hexadecimal 8
    | 'N' => if isBytes then some ([0x5C, c.toNat], rest) else none
    | _ =>
      if isDigitOf 8 c then
        let run := (c :: rest).take 3 |>.takeWhile (isDigitOf 8)
        some ([numberOf 8 run % (if isBytes then 0x100 else 0x200)], (c :: rest).drop run.length)
      else some ([0x5C, c.toNat], rest)

/-- How a text is written. -/
structure Quoting where
  quote : Char
  /-- Three quotes stand at either end. -/
  long : Bool
  /-- Backslashes stand for themselves. -/
  raw : Bool
  isBytes : Bool

/-- What follows the end of a text, if it ends here. -/
def Quoting.closed (q : Quoting) (cs : List Char) : Option (List Char) :=
  let mark := List.replicate (if q.long then 3 else 1) q.quote
  if mark.isPrefixOf cs then some (cs.drop mark.length) else none

/-- A step inside a text: the code points of what is in front, and what follows. -/
def Quoting.step (q : Quoting) : List Char → Option (CodePoints × List Char)
  | [] => none
  | '\\' :: rest =>
    if q.raw then
      match rest with
      | c :: rest => some ([0x5C, c.toNat], rest)
      | [] => none
    else escape q.isBytes rest
  | c :: rest =>
    if (c = '\n' ∧ !q.long) ∨ (q.isBytes ∧ 0x80 ≤ c.toNat) then none else some ([c.toNat], rest)

/-- The code points up to the end of a text, and what follows it. -/
def plainText (q : Quoting) : Nat → List Char → Option (CodePoints × List Char)
  | 0, _ => none
  | fuel + 1, cs =>
    match q.closed cs with
    | some rest => some ([], rest)
    | none => do
      let (here, rest) ← q.step cs
      let (more, rest) ← plainText q fuel rest
      return (here ++ more, rest)

/-! ## Texts with holes -/

/-- What is left after a text that begins with a quote. -/
def skipText (cs : List Char) : Option (List Char) :=
  match cs with
  | [] => none
  | c :: rest =>
    let long := [c, c].isPrefixOf rest
    let q : Quoting := ⟨c, long, true, false⟩
    (plainText q (cs.length + 1) (if long then rest.drop 2 else rest)).map Prod.snd

/-- The source of a hole, and what follows it: the end of the hole, its conversion, its form, or
    the sign that the source is to be shown. -/
def holeSource : Nat → Nat → List Char → Option (List Char × List Char)
  | 0, _, _ | _, _, [] => none
  | fuel + 1, depth, c :: rest =>
    let keep := fun (n : Nat) (depth : Nat) => do
      let (more, after) ← holeSource fuel depth ((c :: rest).drop n)
      return ((c :: rest).take n ++ more, after)
    if isQuote c then do
      let after ← skipText (c :: rest)
      keep (rest.length + 1 - after.length) depth
    else if c == '(' || c == '[' || c == '\x7b' then keep 1 (depth + 1)
    else if depth != 0 then
      keep 1 (if c == ')' || c == ']' || c == '\x7d' then depth - 1 else depth)
    else if (c == '!' || c == '=' || c == '<' || c == '>') && rest.head? == some '=' then keep 2 0
    else if c == '\x7d' || c == ':' || c == '!' || c == '=' then some ([], c :: rest)
    else keep 1 0

/-- A hole after its bracket, and what follows it.  `form` reads the form of a value. -/
def hole (form : List Char → Option (List FormPiece × List Char)) (cs : List Char) :
    Option (FormPiece × List Char) := do
  let (source, rest) ← holeSource (cs.length + 1) 0 cs
  let (echo, rest) := match rest with
    | '=' :: more =>
      let blanks := more.takeWhile Char.isWhitespace
      ((source ++ '=' :: blanks).map Char.toNat, more.drop blanks.length)
    | _ => ([], rest)
  let (conversion, rest) := match rest with
    | '!' :: c :: more => (some c, more)
    | _ => (none, rest)
  match rest with
  | '\x7d' :: rest => return (.hole source echo conversion [], rest)
  | ':' :: rest => do
    let (pieces, rest) ← form rest
    match rest with
    | '\x7d' :: rest => return (.hole source echo conversion pieces, rest)
    | _ => none
  | _ => none

/-- The pieces up to the end of a text with holes, or of the form of a value, and what follows;
    `text` is what has been read of the next piece. -/
def formPieces (q : Quoting) (inForm : Bool) :
    Nat → CodePoints → List Char → Option (List FormPiece × List Char)
  | 0, _, _ => none
  | fuel + 1, text, cs =>
    let done := if text.isEmpty then [] else [FormPiece.text text]
    let goOn := fun (here : CodePoints) (rest : List Char) =>
      formPieces q inForm fuel (text ++ here) rest
    match (if inForm then none else q.closed cs) with
    | some rest => some (done, rest)
    | none =>
      match cs with
      | '\x7b' :: rest =>
        if !inForm && rest.head? == some '\x7b' then goOn [0x7B] (rest.drop 1)
        else do
          let (here, rest) ← hole (formPieces q true fuel []) rest
          let (more, rest) ← formPieces q inForm fuel [] rest
          return (done ++ here :: more, rest)
      | '\x7d' :: rest =>
        if inForm then some (done, cs)
        else if rest.head? == some '\x7d' then goOn [0x7D] (rest.drop 1)
        else none
      | _ => do
        let (here, rest) ← q.step cs
        goOn here rest

/-- A text whose letters and first quote have been found: what the letters say, and the text. -/
def textAfter (letters : List Char) (cs : List Char) : Option (Token × List Char) := do
  let has := fun (c : Char) => letters.any fun l => l == c || l == Char.ofNat (c.toNat - 32)
  match cs with
  | [] => none
  | c :: rest =>
    let long := [c, c].isPrefixOf rest
    let q : Quoting := ⟨c, long, has 'r', has 'b'⟩
    let rest := if long then rest.drop 2 else rest
    if has 'f' then
      let (pieces, rest) ← formPieces q false (2 * cs.length + 2) [] rest
      return (.joined pieces, rest)
    else
      let (text, rest) ← plainText q (cs.length + 1) rest
      return (.constant (if q.isBytes then .bytes (text.map UInt8.ofNat) else .text text), rest)

/-- The letters that may stand before a quote. -/
def isTextPrefix (letters : List Char) : Bool :=
  ["r", "b", "u", "f", "rb", "br", "rf", "fr"].contains
    (String.ofList (letters.map Char.toLower))

/-! ## Lines -/

/-- Where the reading of a program is. -/
structure Reading where
  /-- How far the blocks around the line are indented, the innermost first. -/
  indents : List Nat := []
  /-- How many brackets are open. -/
  depth : Nat := 0
  /-- A line begins here. -/
  fresh : Bool := true
  /-- The tokens so far, the last one first. -/
  tokens : List Token := []

/-- The reading with one token more. -/
def Reading.push (r : Reading) (t : Token) : Reading := { r with tokens := t :: r.tokens }

/-- How far a line is indented. -/
def indentation (cs : List Char) : Nat :=
  cs.foldl (fun n c => if c == '\t' then (n / 8 + 1) * 8 else if c == '\x0c' then 0 else n + 1) 0

/-- Leave the blocks that are indented further than a line. -/
def leaveBlocks (width : Nat) : List Nat → List Token → Option (List Nat × List Token)
  | [], tokens => if width = 0 then some ([], tokens) else none
  | n :: outer, tokens =>
    if n = width then some (n :: outer, tokens)
    else if n < width then none
    else leaveBlocks width outer (.dedent :: tokens)

/-- A line that begins with something of its own. -/
def Reading.beginLine (r : Reading) (width : Nat) : Option Reading :=
  if r.indents.headD 0 < width then
    some { r with indents := width :: r.indents, fresh := false, tokens := .indent :: r.tokens }
  else do
    let (indents, tokens) ← leaveBlocks width r.indents r.tokens
    return { r with indents, fresh := false, tokens }

/-- The end of a line. -/
def Reading.endLine (r : Reading) : Reading :=
  if r.depth != 0 || r.fresh then r else { r.push .lineEnd with fresh := true }

/-- The reading with a sign. -/
def Reading.sign (r : Reading) (sign : String) : Reading :=
  let depth := match sign with
    | "(" | "[" | "\x7b" => r.depth + 1
    | ")" | "]" | "\x7d" => r.depth - 1
    | _ => r.depth
  { r.push (.sign sign) with depth }

/-- A blank inside a line. -/
def isGap (c : Char) : Bool := c == ' ' || c == '\t' || c == '\x0c'

/-- Read a program to its end. -/
def readFrom : Nat → Reading → List Char → Option (List Token)
  | 0, _, _ => none
  | _ + 1, r, [] =>
    let r := r.endLine
    if r.depth != 0 then none
    else some (List.replicate r.indents.length Token.dedent ++ r.tokens).reverse
  | fuel + 1, r, c :: rest =>
    let cs := c :: rest
    if r.fresh && r.depth == 0 then
      let blanks := cs.takeWhile isGap
      let line := cs.drop blanks.length
      match line.head? with
      | some '#' => readFrom fuel r (line.dropWhile (· != '\n') |>.drop 1)
      | some '\n' => readFrom fuel r (line.drop 1)
      | none => readFrom fuel r []
      | _ => do readFrom fuel (← r.beginLine (indentation blanks)) line
    else if isGap c then readFrom fuel r rest
    else if c == '#' then readFrom fuel r (rest.dropWhile (· != '\n'))
    else if c == '\n' then readFrom fuel r.endLine rest
    else if c == '\\' then
      match rest with
      | '\n' :: rest => readFrom fuel r rest
      | _ => none
    else if beginsName c then
      let word := cs.takeWhile continuesName
      let after := cs.drop word.length
      if after.head?.any isQuote && isTextPrefix word then do
        let (token, rest) ← textAfter word after
        readFrom fuel (r.push token) rest
      else
        let name := String.ofList word
        readFrom fuel (r.push (if keywords.contains name then .sign name else .name name)) after
    else if c.isDigit || (c == '.' && rest.head?.any Char.isDigit) then do
      let (value, rest) ← number cs
      readFrom fuel (r.push (.constant value)) rest
    else if isQuote c then do
      let (token, rest) ← textAfter [] cs
      readFrom fuel (r.push token) rest
    else do
      let sign ← signs.find? fun s => s.isPrefixOf cs
      readFrom fuel (r.sign (String.ofList sign)) (cs.drop sign.length)

/-- The text with one line feed at the end of every line. -/
def unifyLineEnds : List Char → List Char
  | '\r' :: '\n' :: rest => '\n' :: unifyLineEnds rest
  | '\r' :: rest => '\n' :: unifyLineEnds rest
  | c :: rest => c :: unifyLineEnds rest
  | [] => []

/-- The tokens of a program; `none` if it is none. -/
def ofProgram? (source : List Char) : Option (List Token) :=
  if source.contains '\x00' then none
  else
    let cs := unifyLineEnds source
    readFrom (2 * cs.length + 2) {} cs

/-- The tokens of an expression in a hole, where lines do not end. -/
def ofHole? (source : List Char) : Option (List Token) := do
  let tokens ← readFrom (2 * source.length + 6) {} ('(' :: source ++ [')'])
  return tokens.dropLast

end Token

end Handover.Interpreter
