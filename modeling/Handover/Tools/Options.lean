/-
  The options of a command line.

  A word that begins with a dash holds letters, a word that begins with two dashes a name, which may
  be cut short as long as it stays clear which one is meant.  The value of an option stands in the
  same word or in the next one.  Two dashes alone end the options; words between options are set
  aside, unless the tool takes the first of them as the end.
-/
import Handover.Text.Utf8

namespace Handover.Tools

/-- Whether an option has a value. -/
inductive ValueRule where
  | none
  | needed
  | allowed
deriving Repr, DecidableEq

/-- An option of a tool.  One without a letter of its own is known by name alone. -/
structure OptionKind where
  letter : Char
  name : String := ""
  value : ValueRule := .none
  /-- The option can be given by its letter. -/
  short : Bool := true

/-- An option that was given, by its letter. -/
abbrev Given := Char × Option Bytes

/-- Why options cannot be read. -/
inductive OptionFault where
  | unknownLetter (letter : Bytes)
  | unknownName (word : Bytes)
  | unclear (word : Bytes) (names : List String)
  | letterWithoutValue (letter : Char)
  | nameWithoutValue (name : String)
  | nameWithValue (name : String)
deriving Repr, DecidableEq

/-- The words for a fault. -/
def OptionFault.text : OptionFault → Bytes
  | .unknownLetter letter =>
    Text.encode "invalid option -- \x27" ++ letter ++ Text.encode "\x27"
  | .unknownName word => Text.encode "unrecognized option \x27" ++ word ++ Text.encode "\x27"
  | .unclear word names =>
    Text.encode "option \x27" ++ word ++ Text.encode "\x27 is ambiguous; possibilities:"
      ++ names.flatMap fun n => Text.encode (" \x27--" ++ n ++ "\x27")
  | .letterWithoutValue letter =>
    Text.encode ("option requires an argument -- \x27" ++ letter.toString ++ "\x27")
  | .nameWithoutValue name =>
    Text.encode ("option \x27--" ++ name ++ "\x27 requires an argument")
  | .nameWithValue name =>
    Text.encode ("option \x27--" ++ name ++ "\x27 doesn\x27t allow an argument")

/-- The byte of the dash. -/
def dash : UInt8 := 0x2D

/-- The options in the letters of one word.  `next` are the words behind it. -/
def readLetters (kinds : List OptionKind) (next : List Bytes) :
    Bytes → Except OptionFault (List Given × List Bytes)
  | [] => .ok ([], next)
  | letter :: rest =>
    match kinds.find? fun k => k.short && k.letter.toNat == letter.toNat with
    | none => .error (.unknownLetter [letter])
    | some kind =>
      match kind.value, rest, next with
      | .none, _, _ => do
        let (given, next) ← readLetters kinds next rest
        return ((kind.letter, none) :: given, next)
      | .allowed, [], _ => .ok ([(kind.letter, none)], next)
      | .allowed, value, _ => .ok ([(kind.letter, some value)], next)
      | .needed, [], value :: next => .ok ([(kind.letter, some value)], next)
      | .needed, [], [] => .error (.letterWithoutValue kind.letter)
      | .needed, value, _ => .ok ([(kind.letter, some value)], next)

/-- The option that a word names, without its two dashes.  `next` are the words behind it. -/
def readName (kinds : List OptionKind) (word : Bytes) (next : List Bytes) :
    Except OptionFault (Given × List Bytes) :=
  let name := word.takeWhile (· != 0x3D)
  let value := if word.contains 0x3D then some (word.drop (name.length + 1)) else none
  let named := kinds.filter fun k => k.name ≠ ""
  let exact := named.filter fun k => Text.encode k.name == name
  let near := named.filter fun k => name.isPrefixOf (Text.encode k.name)
  match exact, near with
  | kind :: _, _ | [], [kind] =>
    match kind.value, value, next with
    | .none, some _, _ => .error (.nameWithValue kind.name)
    | .needed, none, value :: next => .ok ((kind.letter, some value), next)
    | .needed, none, [] => .error (.nameWithoutValue kind.name)
    | _, value, _ => .ok ((kind.letter, value), next)
  | [], [] => .error (.unknownName (dash :: dash :: name))
  | [], _ => .error (.unclear (dash :: dash :: word) (near.map OptionKind.name))

/-- One word of options read, and what follows it. -/
inductive Step where
  /-- Options, and the words behind them. -/
  | given (options : List Given) (next : List Bytes)
  /-- No option, but a word of its own. -/
  | word (text : Bytes) (next : List Bytes)
  /-- The end of the options. -/
  | ended (next : List Bytes)

/-- Read one word. -/
def step (kinds : List OptionKind) : List Bytes → Except OptionFault Step
  | [] => .ok (.ended [])
  | word :: next =>
    match word with
    | first :: second :: rest =>
      if first ≠ dash then .ok (.word word next)
      else if second ≠ dash then
        (readLetters kinds next (second :: rest)).map fun r => .given r.1 r.2
      else if rest = [] then .ok (.ended next)
      else (readName kinds rest next).map fun r => .given [r.1] r.2
    | _ => .ok (.word word next)

/-- Read the options among some words, and the words that are left.  `atFirst` says that the first word
    that is no option ends the options. -/
def readOptions (kinds : List OptionKind) (atFirst : Bool) : Nat → List Bytes →
    Except OptionFault (List Given × List Bytes)
  | 0, words => .ok ([], words)
  | fuel + 1, words => do
    match ← step kinds words with
    | .ended next => return ([], next)
    | .given options next =>
      let (more, words) ← readOptions kinds atFirst fuel next
      return (options ++ more, words)
    | .word text next =>
      if atFirst then return ([], text :: next)
      else
        let (more, words) ← readOptions kinds atFirst fuel next
        return (more, text :: words)

/-! ## Readings -/

example : readOptions [⟨'n', "number", .none, true⟩, ⟨'u', "unset", .needed, true⟩] false 9
    [Text.encode "-nux", Text.encode "y", Text.encode "--un=z", Text.encode "--", Text.encode "-n"]
    = .ok ([('n', none), ('u', some (Text.encode "x")), ('u', some (Text.encode "z"))],
      [Text.encode "y", Text.encode "-n"]) := rfl

end Handover.Tools
