/-
  A program in a changed environment.

  The options say what is taken out of the environment, settings behind them what is put in, and the
  words after those are the program with its arguments.  Without a program the environment is
  written.
-/
import Handover.Machine.Start
import Handover.Tools.Report
import Handover.Tools.SplitString

namespace Handover.Tools

open Machine (World Ran Outlet)

namespace Env

/-- What the options ask for. -/
structure Request where
  /-- Nothing of the environment stays. -/
  empty : Bool := false
  /-- Zero bytes stand behind the settings that are written. -/
  zeros : Bool := false
  /-- What is done is told. -/
  tells : Bool := false
  unset : List Bytes := []
  directory : Option Bytes := none
  /-- What has been told. -/
  told : List (Outlet × Bytes) := []

/-- The options. -/
def kinds : List OptionKind :=
  [⟨'i', "ignore-environment", .none, true⟩, ⟨'0', "null", .none, true⟩,
   ⟨'u', "unset", .needed, true⟩, ⟨'C', "chdir", .needed, true⟩,
   ⟨'v', "debug", .none, true⟩, ⟨'S', "split-string", .needed, true⟩,
   ⟨'I', "ignore-signal", .allowed, false⟩, ⟨'D', "default-signal", .allowed, false⟩,
   ⟨'B', "block-signal", .allowed, false⟩, ⟨'L', "list-signal-handling", .none, false⟩]

/-- Why a request makes no sense, and whether more help is pointed to. -/
structure Refusal where
  message : Bytes
  hints : Bool
  /-- The message points to the option that splits strings. -/
  points : Bool := false
  told : List (Outlet × Bytes)

/-- A line that tells what is done. -/
def line (text : String) (rest : Bytes) : Outlet × Bytes :=
  (.errors, Text.encode text ++ rest ++ [0x0A])

/-- The request with a line told, if it asks for that. -/
def Request.tell (r : Request) (text : String) (rest : Bytes) : Request :=
  if r.tells then { r with told := r.told ++ [line text rest] } else r

/-- Tell into which words a string was split. -/
def Request.tellSplit (r : Request) (text : Bytes) (words : List Bytes) : Request :=
  let r := r.tell "split -S:  " (named.inWords text)
  let marks := " into:    " :: List.replicate words.length "     &    "
  (marks.zip words).foldl (fun r e => r.tell e.1 (named.inWords e.2)) r

/-- Apply options up to one that holds a string to split: the request, and the string. -/
def apply : Request → List Given → Request × Option Bytes
  | r, [] => (r, none)
  | r, (letter, value) :: rest =>
    match letter with
    | 'i' => apply { r with empty := true } rest
    | '0' => apply { r with zeros := true } rest
    | 'v' => apply { r with tells := true } rest
    | 'u' => apply { r with unset := r.unset ++ value.toList } rest
    | 'C' => apply { r with directory := value } rest
    | 'S' => (r, some (value.getD []))
    | _ => apply r rest

/-- Read the options at the start of some words one word after another; a string that is split takes
    its own place. -/
def read (valueOf : Bytes → Option Bytes) :
    Nat → Request → List Bytes → Except Refusal (Request × List Bytes)
  | 0, r, words => .ok (r, words)
  | fuel + 1, r, words =>
    match step kinds words with
    | .error (.unknownLetter letter) =>
      let isBlank := letter.all isGap
      .error ⟨(OptionFault.unknownLetter letter).text, true, isBlank, r.told⟩
    | .error fault => .error ⟨fault.text, true, false, r.told⟩
    | .ok (.ended next) => .ok (r, next)
    | .ok (.word text next) => .ok (r, text :: next)
    | .ok (.given options next) =>
      match apply r options with
      | (r, none) => read valueOf fuel r next
      | (r, some text) =>
        match splitString valueOf text with
        | .error fault => .error ⟨fault.text, false, false, r.told⟩
        | .ok words => read valueOf fuel (r.tellSplit text words) (words ++ next)

/-- The name and the value of a setting. -/
def setting? (word : Bytes) : Option (Bytes × Bytes) :=
  if word.contains 0x3D then
    let name := word.takeWhile (· != 0x3D)
    some (name, word.drop (name.length + 1))
  else none

/-- A name that no variable can have. -/
def isImpossible (name : Bytes) : Bool := name.isEmpty || name.contains 0x3D

end Env

open Env in
/-- Run another program in a changed environment, or write the environment. -/
def env (start : World → Command → Bytes → Except OsError Ran) (c : Call) : Ran :=
  let hintOf := fun (points : Bool) =>
    if points then [c.saying (Text.encode "use -[v]S to pass options in shebang lines")] else []
  match read c.world.valueOf? 200 {} c.words with
  | .error refusal =>
    c.ends 125 (refusal.told ++ c.saying refusal.message :: hintOf refusal.points
      ++ if refusal.hints then [c.hint] else [])
  | .ok (r, words) =>
    let (r, words) := if words.head? = some [dash]
      then ({ r with empty := true }, words.drop 1) else (r, words)
    match r.empty, r.unset.find? isImpossible with
    | false, some name =>
      c.ends 125 (r.told ++ [c.saying (Text.encode "cannot unset " ++ quoted name
        ++ Text.encode ": Invalid argument")])
    | _, _ =>
      let r := if r.empty then r.tell "cleaning environ" []
        else r.unset.foldl (fun r name => r.tell "unset:    " name) r
      let w := if r.empty then { c.world with environment := [] }
        else r.unset.foldl World.unsetVariable c.world
      let settings := (words.takeWhile fun word => word.contains 0x3D)
      let r := settings.foldl (fun r word => r.tell "setenv:   " word) r
      let w := (settings.filterMap setting?).foldl (fun w e => w.setVariable e.1 e.2) w
      match words.drop settings.length, r.directory with
      | [], some _ =>
        c.ends 125 (r.told ++ [c.saying
          (Text.encode "must specify command with --chdir (-C)"), c.hint])
      | [], none =>
        let ending : UInt8 := if r.zeros then 0 else 0x0A
        c.ends 0 (r.told ++ [(.output,
          w.environment.flatMap fun e => e.1 ++ 0x3D :: e.2 ++ [ending])])
      | program :: args, directory =>
        if r.zeros then
          c.ends 125 (r.told ++ [c.saying
            (Text.encode "cannot specify --null (-0) with command"), c.hint])
        else
          let (r, moved) : Request × Except OsError World := match directory with
            | none => (r, .ok w)
            | some path =>
              (r.tell "chdir:    " (named.inWords path),
                match w.files.status w.cwd path with
                | .ok (at_, .directory) => .ok { w with cwd := at_ }
                | .ok _ => .error .notADirectory
                | .error e => .error e)
          match moved with
          | .error e =>
            c.ends 125 (r.told ++ [c.saying (Text.encode "cannot change directory to "
              ++ named.inWords (directory.getD []) ++ Text.encode ": " ++ faultText e)])
          | .ok w =>
            let argv := program :: args
            let r := r.tell "executing: " program
            let r := (argv.zipIdx).foldl (fun r e =>
              r.tell "   arg[" (Text.encode (toString e.2) ++ Text.encode "]= "
                ++ named.inWords e.1)) r
            match start w ⟨program, args⟩ c.input with
            | .ok ran =>
              { ran with world := { c.world with files := ran.world.files }
                         writes := r.told ++ ran.writes }
            | .error e =>
              c.ends (if e = .notFound then 127 else 126)
                (r.told ++ c.saying (quoted program ++ Text.encode ": " ++ faultText e)
                  :: hintOf (decide (e = .notFound) && program.any isGap))

end Handover.Tools
