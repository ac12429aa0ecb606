/-
  Starting a program.

  A name without a separator is looked for in the directories of `PATH`; directories where it is not
  there, or must not be run, are passed over.  A file is run as what it is: a program of the
  system, or a script, whose first line names the program that reads it.  A file that is neither
  is refused, or, where the caller asks for it, read by the shell.
-/
import Handover.Machine.World

namespace Handover.Machine

open Files (Tool)

/-! ## Limits -/

/-- The most bytes of one argument or variable. -/
def longestArgument : Nat := 131071

/-- The most bytes of all arguments and variables together. -/
def mostArgumentBytes : Nat := 2097152

/-- How many files may be looked at before one of them is a program. -/
def deepestScript : Nat := 6

/-- The most bytes of the list of directories that can be used for the name of a file. -/
def longestSearch : Nat := 4096

/-- How many bytes of a file are looked at for the program that reads it. -/
def headLength : Nat := 256

/-- The bytes that a list of arguments takes up. -/
def argumentBytes (args : List Bytes) : Nat := args.foldl (fun n a => n + (a.length + 9)) 0

/-- The arguments and the environment fit what the system can pass on. -/
def fits (w : World) (argv : List Bytes) : Bool :=
  argv.all (fun a => decide (a.length ≤ longestArgument))
    && decide (argumentBytes argv + argumentBytes (w.environment.map fun e => e.1 ++ e.2)
      ≤ mostArgumentBytes)

/-! ## Images -/

/-- A blank in the first line of a script. -/
def isBlankByte (b : UInt8) : Bool := b == 0x20 || b == 0x09

/-- The bytes without the blanks at their end. -/
def dropTrailingBlanks (bytes : Bytes) : Bytes := (bytes.reverse.dropWhile isBlankByte).reverse

/-- The start of a file as the system looks at it: a short file is filled up with zeros. -/
def headOf (content : Bytes) : Bytes :=
  (content.take headLength) ++ List.replicate (headLength - content.length) 0

/-- The first line of a script without its two signs.  A line that does not end within the head is
    cut off before the last byte of the head, which is allowed only behind a complete name. -/
def firstLine (content : Bytes) : Option Bytes :=
  let text := (headOf content).drop 2
  if text.contains 0x0A then some (text.takeWhile (· != 0x0A))
  else if (text.dropWhile isBlankByte).any fun b => isBlankByte b || b == 0 then
    some (text.take (headLength - 3))
  else none

/-- The program, and its argument, that a line names.  A zero byte ends either of them. -/
def readerIn (line : Bytes) : Option (Path × Option Bytes) :=
  match (dropTrailingBlanks line).dropWhile isBlankByte with
  | [] => none
  | text =>
    let name := text.takeWhile fun b => !isBlankByte b && b != 0
    match text.drop name.length with
    | b :: rest =>
      some (name,
        if b = 0 then none else some ((rest.dropWhile isBlankByte).takeWhile (· != 0)))
    | [] => some (name, none)

/-- The program, and its argument, that the first line of a script names.  `none` if the file is no
    script, or its first line names nothing. -/
def readerOf (content : Bytes) : Option (Path × Option Bytes) :=
  match content with
  | 0x23 :: 0x21 :: _ => (firstLine content).bind readerIn
  | _ => none

/-- Some bit allows the file to be run. -/
def isExecutableMode (mode : Nat) : Bool := mode &&& 0o111 != 0

/-- The tool that a file is run by, and its arguments.  `depth` is how many scripts may still read
    one another. -/
def load (w : World) : Nat → Path → List Bytes → Except OsError (Tool × List Bytes)
  | 0, _, _ => .error .tooManyLinks
  | depth + 1, path, argv =>
    match w.files.status w.cwd path with
    | .error e => .error e
    | .ok (_, .program tool) => .ok (tool, argv)
    | .ok (_, .file mode content) =>
      if !isExecutableMode mode then .error .permissionDenied
      else
        match readerOf content with
        | none => .error .notExecutableFormat
        | some (reader, argument) =>
          load w depth reader (reader :: argument.toList ++ path :: argv.drop 1)
    | .ok _ => .error .permissionDenied

/-- Where the shell is. -/
def shellPath : Path := Path.ofString "/bin/sh"

/-- What happens to a file that is neither a program nor a script. -/
inductive Unrecognised where
  | refused
  | readByShell
deriving Repr, DecidableEq

/-- The tool that a file is run by, with the shell for files that nothing else can run. -/
def loadAs (w : World) (rule : Unrecognised) (path : Path) (argv : List Bytes) :
    Except OsError (Tool × List Bytes) :=
  match load w deepestScript path argv with
  | .ok image => .ok image
  | .error e =>
    if e = .notExecutableFormat ∧ rule = .readByShell then
      load w deepestScript shellPath (shellPath :: path :: argv.drop 1)
    else .error e

/-! ## The search -/

/-- The name of the variable that lists the directories of programs. -/
def pathVariable : Bytes := Text.encode "PATH"

/-- The directories that are searched where the variable is not set. -/
def defaultPath : Bytes := Text.encode "/bin:/usr/bin"

/-- The separator of the directories. -/
def colon : UInt8 := 0x3A

/-- The parts of a list with a separator between them. -/
def splitAt (separator : UInt8) : Bytes → List Bytes
  | [] => [[]]
  | b :: rest =>
    match splitAt separator rest with
    | [] => [[b]]
    | part :: more => if b = separator then [] :: part :: more else (b :: part) :: more

/-- The directories that are searched.  One that is too long for the name of a file counts as the
    working directory, and is left out if it is the last. -/
def searchDirectories (text : Bytes) : List Path :=
  let dirs := (splitAt colon text).map fun dir => if longestSearch ≤ dir.length then none else some dir
  let dirs := if dirs.getLast? = some none then dirs.dropLast else dirs
  dirs.map fun dir => dir.getD []

/-- The paths at which a program is looked for.  An empty directory is the working directory. -/
def searchPaths (w : World) (program : Path) : List Path :=
  if program.contains Path.slash then [program]
  else
    (searchDirectories ((w.valueOf? pathVariable).getD defaultPath)).map fun dir =>
      if dir = [] then program else dir ++ Path.slash :: program

/-- The first of the paths that can be run.  Places where the program is not there, or must not be
    run, are passed over; any other error ends the search.  A refusal is reported before an
    absence. -/
def firstRunnable {α : Type} (load : Path → Except OsError α) :
    Bool → OsError → List Path → Except OsError α
  | denied, last, [] => .error (if denied then .permissionDenied else last)
  | denied, _, path :: rest =>
    match load path with
    | .ok image => .ok image
    | .error e =>
      if e = .permissionDenied then firstRunnable load true e rest
      else if e = .notFound ∨ e = .notADirectory then firstRunnable load denied e rest
      else .error e

/-- A byte string that can be passed to a program. -/
def isPassable (bytes : Bytes) : Bool := !bytes.contains 0

/-- The tool that runs a command, and its arguments. -/
def find (w : World) (rule : Unrecognised) (c : Command) : Except OsError (Tool × List Bytes) :=
  let argv := c.argv
  if !argv.all isPassable then .error .zeroByte
  else if c.program = [] then .error .notFound
  else
    let load := fun path =>
      if fits w argv then loadAs w rule path argv
      else
        match w.files.status w.cwd path with
        | .error e => .error e
        | .ok _ => .error .argumentsTooLong
    firstRunnable load false .notFound (searchPaths w c.program)

/-- Run a command to its end with the given input, if it can be started. -/
def startWith (run : World → Tool → List Bytes → Bytes → Ran) (rule : Unrecognised) (w : World)
    (c : Command) (input : Bytes) : Except OsError Ran :=
  match find w rule c with
  | .error e => .error e
  | .ok (tool, argv) => .ok (run w tool argv input)

end Handover.Machine
