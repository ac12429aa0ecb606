/-
  How tools end and what they say.

  Names in messages stand between quotes.  A name that holds a quote, a control sign or a byte that is
  no text is written in a way that shows it.
-/
import Handover.Machine.World
import Handover.Tools.Options

namespace Handover.Tools

open Machine (World Ran Outlet)

/-- A text in quotes: a quote, a backslash and what cannot be printed are written as escapes. -/
def quoted (name : Bytes) : Bytes :=
  Text.encode "\x27" ++ name.flatMap shown ++ Text.encode "\x27"
where
  /-- One byte of the text. -/
  shown (b : UInt8) : Bytes :=
    let escaped := fun (c : Char) => Text.encode ("\\" ++ c.toString)
    if b = 0x27 then escaped '\x27'
    else if b = 0x5C then escaped '\\'
    else if b = 0x07 then escaped 'a'
    else if b = 0x08 then escaped 'b'
    else if b = 0x09 then escaped 't'
    else if b = 0x0A then escaped 'n'
    else if b = 0x0B then escaped 'v'
    else if b = 0x0C then escaped 'f'
    else if b = 0x0D then escaped 'r'
    else if b < 0x20 ∨ 0x7F ≤ b then
      let digits := Nat.toDigits 8 b.toNat
      Text.encode ("\\" ++ String.ofList (List.replicate (3 - digits.length) '0' ++ digits))
    else [b]

/-- The bytes that a shell takes for themselves. -/
def isPlain (b : UInt8) : Bool :=
  (0x30 ≤ b && b ≤ 0x39) || (0x41 ≤ b && b ≤ 0x5A) || (0x61 ≤ b && b ≤ 0x7A)
    || (Text.encode "%+,-./:=@_]").contains b

/-- A name as it could be given to a shell: bare where that is clear. -/
def named (name : Bytes) : Bytes :=
  if !name.isEmpty && name.all isPlain then name else inWords name
where
  /-- The name in quotes for a shell. -/
  inWords (name : Bytes) : Bytes :=
    let control := fun (b : UInt8) => decide (b < 0x20) || decide (0x7F ≤ b)
    if name.any control then
      Text.encode "\x27" ++ name.flatMap (fun b =>
        if control b then Text.encode "\x27$" ++ quoted [b] ++ Text.encode "\x27"
        else if b = 0x27 then Text.encode "\x27\\\x27\x27" else [b]) ++ Text.encode "\x27"
    else if name.contains 0x27 && !name.any fun b => (Text.encode "\"$\x60\\").contains b then
      Text.encode "\"" ++ name ++ Text.encode "\""
    else
      Text.encode "\x27" ++ name.flatMap (fun b =>
        if b = 0x27 then Text.encode "\x27\\\x27\x27" else [b]) ++ Text.encode "\x27"

/-- What a tool was started with. -/
structure Call where
  world : World
  /-- The name that it was called by. -/
  name : Bytes
  words : List Bytes
  input : Bytes

namespace Call

/-- The call that a list of arguments makes. -/
def ofArguments (world : World) (argv : List Bytes) (input : Bytes) : Call :=
  ⟨world, argv.headD [], argv.drop 1, input⟩

/-- End with a code after writing something. -/
def ends (c : Call) (code : Int) (writes : List (Outlet × Bytes)) : Ran :=
  ⟨c.world, .exited code, writes.filter fun e => !e.2.isEmpty, c.input, []⟩

/-- A line that says what is wrong. -/
def saying (c : Call) (message : Bytes) : Outlet × Bytes :=
  (.errors, c.name ++ Text.encode ": " ++ message ++ [0x0A])

/-- The line that points to more help. -/
def hint (c : Call) : Outlet × Bytes :=
  (.errors, Text.encode "Try \x27" ++ c.name
    ++ Text.encode " --help\x27 for more information.\n")

/-- End because the call makes no sense. -/
def misused (c : Call) (code : Int) (message : Bytes) : Ran :=
  c.ends code [c.saying message, c.hint]

/-- Go on with the options of the call and its other words. -/
def withOptions (c : Call) (kinds : List OptionKind) (code : Int)
    (go : List Given → List Bytes → Ran) : Ran :=
  match readOptions kinds false (c.words.length + 1) c.words with
  | .ok (given, words) => go given words
  | .error fault => c.misused code fault.text

end Call

/-- The words for an error of the system. -/
def faultText : OsError → Bytes
  | .code n => Text.encode (OsError.text n)
  | e => Text.encode e.message

example : quoted (Text.encode "a'b\n") = Text.encode "'a\\'b\\n'" := by decide +kernel
example : named (Text.encode "a b") = Text.encode "'a b'" := by decide +kernel

end Handover.Tools
