/-
  The command language of scripts.

  A script is a list of characters, each of which stands for one byte.  Its words are made of
  pieces; a piece is text that stands for itself, or something that is replaced when the word is
  used.  Whatever was quoted is neither split into words nor read as a pattern.
-/
import Handover.Path

namespace Handover.Shell

/-- A text of the language: one character for each byte. -/
abbrev Chars := List Char

/-- Bytes as a text. -/
def Chars.ofBytes (bytes : Bytes) : Chars := bytes.map fun b => Char.ofNat b.toNat

/-- A text as bytes. -/
def Chars.toBytes (chars : Chars) : Bytes := chars.map fun c => UInt8.ofNat c.toNat

/-- The text of an ASCII string. -/
def Chars.ofString (s : String) : Chars := Chars.ofBytes (Handover.Text.encode s)

/-! ## Words -/

/-- What is done with the value of a parameter. -/
inductive Use where
  /-- The value as it is. -/
  | plain
  /-- The length of the value. -/
  | length
  /-- Another word where the parameter is not set; with `orEmpty` also where it is empty. -/
  | default (orEmpty : Bool)
  /-- The same, and the parameter is set to the word. -/
  | assign (orEmpty : Bool)
  /-- Another word where the parameter is set. -/
  | alternative (orEmpty : Bool)
  /-- An error with the word as its message where the parameter is not set. -/
  | demand (orEmpty : Bool)
  /-- The value without the shortest or the longest start that matches the word. -/
  | dropStart (longest : Bool)
  /-- The value without the shortest or the longest end that matches the word. -/
  | dropEnd (longest : Bool)
deriving Repr, DecidableEq

/-- A piece of a word. -/
inductive Piece where
  | text (quoted : Bool) (chars : Chars)
  /-- A parameter, and the word that its use needs. -/
  | parameter (quoted : Bool) (name : Chars) (use : Use) (word : List Piece)
  /-- The output of a script, which begins on a line and stands in brackets or between backquotes. -/
  | output (quoted inBrackets : Bool) (line : Nat) (script : Chars)
  /-- The value of a calculation. -/
  | calculation (quoted : Bool) (formula : Chars)
  /-- Something that cannot be replaced, which shows only when the word is used. -/
  | bad
deriving Repr

/-- A word before anything in it is replaced. -/
abbrev Word := List Piece

/-- The text of a word that holds nothing to be replaced and nothing quoted. -/
def Word.bare? : Word → Option Chars
  | [.text false chars] => some chars
  | _ => none

/-- The word asks for the output of a script. -/
def Word.hasOutput (word : Word) : Bool :=
  word.any fun
    | .output .. => true
    | _ => false

/-! ## Commands -/

/-- The commands that are part of the language itself: a mistake in one of them ends the script, and
    no function can have its name. -/
def specialCommands : List String :=
  [".", ":", "break", "continue", "eval", "exec", "exit", "export", "readonly", "return", "set",
   "shift", "times", "trap", "unset", "local"]

/-- How a file is opened for writing. -/
inductive Writing where
  /-- It is emptied first. -/
  | anew
  /-- The same, even where files must not be emptied by mistake. -/
  | anewInAnyCase
  /-- Behind what it holds. -/
  | behind
  /-- For reading too. -/
  | andReading
deriving Repr, DecidableEq

/-- Where a stream is led to or from. -/
inductive Redirection where
  /-- Read from a file. -/
  | fromFile (stream : Nat) (path : Word)
  /-- Write to a file. -/
  | toFile (stream : Nat) (writing : Writing) (path : Word)
  /-- The same as another stream. -/
  | same (stream : Nat) (other : Word)
  /-- Read a text of the script. -/
  | hereText (stream : Nat) (body : Word)
deriving Repr

/-- A command.  Some know the line on which they begin. -/
inductive Form where
  /-- Assignments, words and redirections. -/
  | simple (line : Nat) (assignments : List (Chars × Word)) (words : List Word)
      (redirections : List Redirection)
  | pipe (left right : Form)
  | negated (form : Form)
  | sequence (first second : Form)
  | andThen (first second : Form)
  | orElse (first second : Form)
  | ifThen (condition yes no : Form)
  /-- A loop that goes on while the condition ends as `going` says. -/
  | loop (going : Bool) (condition body : Form)
  | forEach (line : Nat) (name : Chars) (words : Option (List Word)) (body : Form)
  | caseOf (line : Nat) (word : Word) (arms : List (List Word × Form))
  | subshell (line : Nat) (body : Form)
  /-- A command that is not waited for. -/
  | background (body : Form)
  | redirected (line : Nat) (body : Form) (redirections : List Redirection)
  | define (line : Nat) (name : Chars) (body : Form)
  | nothing
deriving Repr

end Handover.Shell
