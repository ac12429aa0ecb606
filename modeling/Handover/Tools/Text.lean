/-
  Tools that pass text on.

  Each takes the files that its words name one after another; a dash alone is the input.  What cannot
  be read is told, and the tool goes on with the next file.
-/
import Handover.Shell.Printf
import Handover.Tools.Report

namespace Handover.Tools

open Machine (World Ran Outlet)

/-! ## Reading -/

/-- Where a tool is while it goes through its files. -/
structure Reading where
  input : Bytes
  writes : List (Outlet × Bytes) := []
  failed : Bool := false

/-- What a word stands for, and the input that is left. -/
def contentOf (w : World) (input : Bytes) (word : Bytes) : Except OsError Bytes × Bytes :=
  if word = [dash] then (.ok input, [])
  else
    match w.files.status w.cwd word with
    | .ok (_, .file _ content) => (.ok content, input)
    | .ok (_, .directory) => (.error .isADirectory, input)
    | .ok _ => (.ok [], input)
    | .error e => (.error e, input)

/-- Write something. -/
def Reading.write (r : Reading) (text : Bytes) : Reading :=
  { r with writes := r.writes ++ [(.output, text)] }

/-- Go through files: `use` is what is done with the content of each. -/
def Call.throughFiles (c : Call) (words : List Bytes)
    (use : Reading → Bytes → Bytes → Reading) (refusal : Bytes → OsError → Bytes) : Reading :=
  words.foldl (fun (r : Reading) word =>
    match contentOf c.world r.input word with
    | (.ok content, input) => use { r with input } word content
    | (.error e, input) =>
      { r with input, failed := true, writes := r.writes ++ [c.saying (refusal word e)] })
    { input := c.input }

/-- End as the files were read. -/
def Call.endsAs (c : Call) (r : Reading) : Ran :=
  { c.ends (if r.failed then 1 else 0) r.writes with input := r.input }

/-! ## Lines -/

/-- The lines of a text, each with its end. -/
def linesOf : Bytes → List Bytes
  | [] => []
  | b :: rest =>
    if b = 0x0A then [b] :: linesOf rest
    else
      match linesOf rest with
      | [] => [[b]]
      | line :: more => (b :: line) :: more

/-- A number at the right end of so many places. -/
def rightAligned (width n : Nat) : Bytes :=
  let digits := Nat.toDigits 10 n
  Text.encode (String.ofList (List.replicate (width - digits.length) ' ' ++ digits))

/-! ## Files one after another -/

namespace Cat

/-- The options. -/
def kinds : List OptionKind :=
  [⟨'A', "show-all", .none, true⟩, ⟨'b', "number-nonblank", .none, true⟩,
   ⟨'e', "", .none, true⟩, ⟨'E', "show-ends", .none, true⟩, ⟨'n', "number", .none, true⟩,
   ⟨'s', "squeeze-blank", .none, true⟩, ⟨'t', "", .none, true⟩, ⟨'T', "show-tabs", .none, true⟩,
   ⟨'u', "", .none, true⟩, ⟨'v', "show-nonprinting", .none, true⟩]

/-- A byte in a form that can be seen. -/
def visible (b : UInt8) : Bytes :=
  let low := fun (b : UInt8) =>
    if b < 0x20 then [0x5E, b + 0x40] else if b = 0x7F then [0x5E, 0x3F] else [b]
  if b = 0x09 ∨ b = 0x0A then [b]
  else if b < 0x80 then low b
  else [0x4D, 0x2D] ++ low (b - 0x80)

/-- How a text is changed. -/
structure Style where
  ends : Bool
  tabs : Bool
  invisible : Bool
  numbersAll : Bool
  numbersFull : Bool
  squeezes : Bool

/-- The style that options ask for. -/
def styleOf (given : List Given) : Style :=
  let has := fun (letters : List Char) => given.any fun g => letters.contains g.1
  { ends := has ['A', 'e', 'E'], tabs := has ['A', 't', 'T'], invisible := has ['A', 'e', 't', 'v']
    numbersAll := has ['n'] && !has ['b'], numbersFull := has ['b'], squeezes := has ['s'] }

/-- The lines of a text in a style.  `n` lines have been numbered, and `wasEmpty` says that the line
    before was empty. -/
def restyle (style : Style) : Nat → Bool → List Bytes → Bytes
  | _, _, [] => []
  | n, wasEmpty, line :: rest =>
    let isEmpty := line = [0x0A]
    if style.squeezes && wasEmpty && isEmpty then restyle style n true rest
    else
      let numbered := style.numbersAll || (style.numbersFull && !isEmpty)
      let body := line.flatMap fun b =>
        if b = 0x0A then (if style.ends then [0x24, b] else [b])
        else if b = 0x09 ∧ style.tabs then [0x5E, 0x49]
        else if style.invisible then visible b
        else [b]
      let number := if numbered then rightAligned 6 (n + 1) ++ [0x09] else []
      number ++ body ++ restyle style (if numbered then n + 1 else n) isEmpty rest

end Cat

/-- Write files one after another. -/
def cat (c : Call) : Ran :=
  c.withOptions Cat.kinds 1 fun given words =>
    let style := Cat.styleOf given
    let r := c.throughFiles (if words = [] then [[dash]] else words)
      (fun r _ content => r.write content)
      (fun word e => named word ++ Text.encode ": " ++ faultText e)
    if given.all fun g => g.1 = 'u' then c.endsAs r
    else
      let text := r.writes.flatMap fun e => if e.1 = .output then e.2 else []
      c.endsAs { r with writes := r.writes.filter (fun e => e.1 = .errors)
                          ++ [(.output, Cat.restyle style 0 false (linesOf text))] }

/-! ## Words -/

namespace Echo

/-- The options at the start of some words: whether escapes are read, whether the line ends, and the
    words behind them. -/
def options : Bool → Bool → List Bytes → Bool × Bool × List Bytes
  | escapes, ends, [] => (escapes, ends, [])
  | escapes, ends, word :: rest =>
    match word with
    | first :: letters =>
      let known := (Text.encode "neE")
      if first = dash ∧ letters ≠ [] ∧ letters.all known.contains then
        let escapes := (letters.filter (· != 0x6E)).getLast?.elim escapes (· == 0x65)
        options escapes (ends && !letters.contains 0x6E) rest
      else (escapes, ends, word :: rest)
    | [] => (escapes, ends, word :: rest)

/-- A text with its escapes read, and whether one of them ends all output. -/
def unescape : Nat → Shell.Chars → Shell.Chars × Bool
  | 0, _ => ([], false)
  | _ + 1, [] => ([], false)
  | _ + 1, '\\' :: 'c' :: _ => ([], true)
  | fuel + 1, '\\' :: 'x' :: rest =>
    let ds := (rest.take 2).takeWhile fun c => (Shell.digitValue? 16 c).isSome
    let code := (Shell.digitsIn 16 0 0 ds).1
    let (more, ended) := unescape fuel (rest.drop ds.length)
    (if ds.isEmpty then '\\' :: 'x' :: more else Shell.byteChar code :: more, ended)
  | fuel + 1, '\\' :: '0' :: rest =>
    let (value, rest) := Shell.octalDigits 3 0 rest
    let (more, ended) := unescape fuel rest
    (Shell.byteChar value :: more, ended)
  | fuel + 1, '\\' :: rest =>
    let (c, rest) := Shell.escape rest
    let (more, ended) := unescape fuel rest
    (c :: more, ended)
  | fuel + 1, c :: rest =>
    let (more, ended) := unescape fuel rest
    (c :: more, ended)

end Echo

/-- Write words.  Escapes are read only if that is asked for. -/
def echo (c : Call) : Ran :=
  let (escapes, ends, words) := Echo.options false true c.words
  let text := ([0x20] : Bytes).intercalate words
  let newline : Bytes := if ends then [0x0A] else []
  if escapes then
    let chars := Shell.Chars.ofBytes text
    let (read, stops) := Echo.unescape (chars.length + 1) chars
    c.ends 0 [(.output, Shell.Chars.toBytes read ++ if stops then [] else newline)]
  else c.ends 0 [(.output, text ++ newline)]

/-- Write by a format. -/
def printf (c : Call) : Ran :=
  let words := if c.words.head? = some [dash, dash] then c.words.drop 1 else c.words
  match words.map Shell.Chars.ofBytes with
  | [] => c.misused 1 (Text.encode "missing operand")
  | format :: args =>
    let printed := Shell.formatted format args
    let told := printed.faults.map fun (arg, fault) =>
      c.saying (quoted (Shell.Chars.toBytes arg) ++ Text.encode (match fault with
        | .notANumber => ": expected a numeric value"
        | .notAllANumber => ": value not completely converted"
        | .outOfRange => ": Numerical result out of range"))
    let text := (Outlet.output, Shell.Chars.toBytes printed.text)
    match printed.stop with
    | .fault fault =>
      let directive := match fault with
        | .unknown directive => directive
        | .unfinished => ['%']
      c.ends 1 (told ++ [c.saying (Shell.Chars.toBytes directive
        ++ Text.encode ": invalid conversion specification"), text])
    | _ =>
      let excess := match printed.rest with
        | arg :: _ => if printed.stop = .none then
            [c.saying (Text.encode "warning: ignoring excess arguments, starting with "
              ++ quoted (Shell.Chars.toBytes arg))]
          else []
        | [] => []
      c.ends (if printed.faults.isEmpty then 0 else 1) (told ++ [text] ++ excess)

end Handover.Tools
