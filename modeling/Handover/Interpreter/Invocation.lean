/-
  The command line of an interpreter.

  Options come first.  They are letters behind a dash, several of them in one word if need be; a
  letter that takes a text takes what is left of its word, or the next one.  The program to be run
  ends them: a text, a module, a script or the input.  All words from there on are its arguments.
-/
import Handover.Path

namespace Handover.Interpreter

/-- What changes the way in which an interpreter works. -/
structure Options where
  /-- Variables of the environment do not count. -/
  ignoresEnvironment : Bool := false
  /-- The directory of the program is not searched for modules. -/
  safePath : Bool := false
  /-- The search path is left as the interpreter itself makes it. -/
  withoutSite : Bool := false
  /-- The directories of the user are not searched for modules. -/
  withoutUserSite : Bool := false
  /-- Nothing that is written is kept back. -/
  unbuffered : Bool := false
  /-- Assertions are not checked. -/
  optimised : Bool := false
  /-- The first line of a script is not read. -/
  skipsFirstLine : Bool := false

/-- What an interpreter is asked to do. -/
inductive Job where
  | command (text : Bytes)
  | module (name : Bytes)
  | script (path : Path)
  | input
  | version
  | help
  /-- The command line cannot be read. -/
  | refused (why : Bytes)

/-- The command line of an interpreter, read. -/
structure Invocation where
  options : Options
  job : Job
  /-- What the program is told of its command line. -/
  argv : List Bytes

namespace Invocation

/-- A text as bytes. -/
def bytes (s : String) : Bytes := Text.encode s

/-- What the letters of one word lead to. -/
inductive Letters where
  /-- Options, and how many of the next words they have used up. -/
  | options (o : Options) (used : Nat)
  /-- A task that takes a text, and the words behind that. -/
  | job (o : Options) (make : Bytes → Job) (text : Bytes) (rest : List Bytes)
  | ending (o : Options) (t : Job)

/-- A letter and the text that it takes: what is left of its word, or the next one. -/
def withText (letter : UInt8) (left : Bytes) (rest : List Bytes)
    (f : Bytes → List Bytes → Nat → Letters) (o : Options) : Letters :=
  match left, rest with
  | [], [] =>
    .ending o (.refused (bytes "Argument expected for the -" ++ letter :: bytes " option\n"))
  | [], next :: rest => f next rest 1
  | text, rest => f text rest 0

/-- Read the letters of one word. -/
def readLetters (rest : List Bytes) : Options → Bytes → Letters
  | o, [] => .options o 0
  | o, b :: left =>
    match Char.ofNat b.toNat with
    | 'c' => withText b left rest (fun text rest _ => .job o .command text rest) o
    | 'm' => withText b left rest (fun text rest _ => .job o .module text rest) o
    | 'W' | 'X' => withText b left rest (fun _ _ used => .options o used) o
    | 'V' => .ending o .version
    | 'h' | '?' => .ending o .help
    | 'E' => readLetters rest { o with ignoresEnvironment := true } left
    | 'I' =>
      readLetters rest
        { o with ignoresEnvironment := true, safePath := true, withoutUserSite := true } left
    | 'P' => readLetters rest { o with safePath := true } left
    | 'S' => readLetters rest { o with withoutSite := true } left
    | 's' => readLetters rest { o with withoutUserSite := true } left
    | 'u' => readLetters rest { o with unbuffered := true } left
    | 'O' => readLetters rest { o with optimised := true } left
    | 'x' => readLetters rest { o with skipsFirstLine := true } left
    | 'b' | 'B' | 'd' | 'i' | 'q' | 'R' | 't' | 'v' => readLetters rest o left
    | 'J' => .ending o (.refused (bytes "-J is reserved for Jython\n"))
    | _ => .ending o (.refused (bytes "Unknown option: -" ++ b :: bytes "\n"))

/-- The program that words behind the options name. -/
def ofWords (o : Options) : List Bytes → Invocation
  | [] => ⟨o, .input, [[]]⟩
  | first :: rest =>
    if first = bytes "-" then ⟨o, .input, first :: rest⟩ else ⟨o, .script first, first :: rest⟩

/-- Read the words of a command line. -/
def readWords : Nat → Options → List Bytes → Invocation
  | 0, o, words => ofWords o words
  | _ + 1, o, [] => ofWords o []
  | fuel + 1, o, word :: rest =>
    if word = bytes "--" then ofWords o rest
    else if word = bytes "--help" ∨ word = bytes "--help-all" then ⟨o, .help, []⟩
    else if word = bytes "--version" then ⟨o, .version, []⟩
    else if (bytes "--").isPrefixOf word then
      ⟨o, .refused (bytes "unknown option " ++ word ++ bytes "\n"), []⟩
    else
      match word with
      | 0x2D :: b :: letters =>
        match readLetters rest o (b :: letters) with
        | .options o used => readWords fuel o (rest.drop used)
        | .job o make text rest =>
          let kind := match make [] with
            | .command _ => bytes "-c"
            | _ => bytes "-m"
          ⟨o, make text, kind :: rest⟩
        | .ending o task => ⟨o, task, []⟩
      | word => ofWords o (word :: rest)

/-- Read a command line, which begins with the name of the interpreter. -/
def ofArgv (argv : List Bytes) : Invocation := readWords (argv.length + 1) {} (argv.drop 1)

/-- How the interpreter is called. -/
def usage (name : Bytes) : Bytes :=
  bytes "usage: " ++ name ++ bytes " [option] ... [-c cmd | -m mod | file | -] [arg] ...\n"

/-- What is written when a command line cannot be read. -/
def refusal (name why : Bytes) : Bytes :=
  why ++ usage name ++ bytes "Try \x60python -h\x27 for more information.\n"

/-! ## Readings -/

example : (ofArgv (["python3", "-c", "pass", "a"].map bytes)).argv = ["-c", "a"].map bytes := by
  decide
example : (ofArgv (["python3", "-Esu", "x.py", "-c"].map bytes)).argv = ["x.py", "-c"].map bytes :=
  by decide

end Invocation

end Handover.Interpreter
