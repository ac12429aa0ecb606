/-
  What an interpreter knows while it runs a program.

  Objects live in a *heap* and are known by their addresses; tables of names are dictionaries in
  the heap like any other.  A piece of code that has been started has a `Frame`, which tells where
  its names are found.  What is still to be done in it is a list of *continuations*, so that a
  piece of code that hands out values can be left and taken up again.

  What is written to the output is kept back until the interpreter ends or the program asks for it
  to be written; what is written to the stream for errors is kept back until its line is complete.
-/
import Handover.Interpreter.Syntax
import Handover.Machine.Start

namespace Handover.Interpreter

open Machine (World Ran Outlet)

/-! ## Objects -/

/-- Where a piece of code finds its names. -/
structure Frame where
  names : Names
  /-- The table of its own names. -/
  locals : Nat
  /-- The table of the names of its module. -/
  globals : Nat
  /-- The tables of the pieces of code around it, the innermost first, and the names they own. -/
  enclosing : List (Nat × List String)
  /-- The table in which the class is noted whose body it is. -/
  ownClass : Option Nat := none
  /-- The name of its first parameter. -/
  first : Option String := none

/-- A function that a program defines. -/
structure Function where
  code : Code
  defaults : List (String × Value)
  globals : Nat
  enclosing : List (Nat × List String)
  /-- The table of its attributes. -/
  attributes : Nat

/-- A class that a program defines. -/
structure Class where
  name : String
  bases : List Value
  /-- The classes in which an attribute is looked for, itself the first. -/
  order : List Value
  /-- The table of its attributes. -/
  attributes : Nat
  /-- The class that it is an instance of. -/
  maker : Value

/-- What gives one value after another. -/
inductive Iterator where
  | values (items : List Value)
  | list (address next : Nat)
  | numbers (next stop step : Int)
  /-- The values of another one with their numbers. -/
  | counted (source : Value) (next : Int)
  /-- Tuples of the values of others. -/
  | together (sources : List Value) (strict : Bool)
  | mapped (function : Value) (sources : List Value)
  /-- The values of another one that a function accepts. -/
  | filtered (function source : Value)
  /-- What calls of a function give until they give a certain value. -/
  | calls (function last : Value)
  /-- The items of a value that are numbered from zero. -/
  | items (owner : Value) (next : Int)

/-- Why a piece of code does not simply go on. -/
inductive Signal where
  | goOn
  | raised (exception : Value)
  | returned (value : Value)
  | leavingLoop
  | nextRound

/-- What is still to be done in a piece of code. -/
inductive Continuation where
  | block (rest : List Stmt)
  | loop (condition : Expr) (body otherwise : List Stmt)
  | each (target : Expr) (source : Value) (body otherwise : List Stmt)
  | guarded (handlers otherwise always : List Stmt)
  /-- What is done in any case. -/
  | closing (always : List Stmt)
  /-- What becomes of the signal that came before what is done in any case. -/
  | resuming (signal : Signal)
  /-- An exception is dealt with; its name goes in the end. -/
  | handling (name : Option String)
  | within (manager : Value)
  /-- The values of an iterator are handed out. -/
  | delegating (received : String) (source : Value)

/-- How far a generator has come. -/
inductive Progress where
  | fresh
  /-- It waits for a value that it will give a name. -/
  | waiting (received : String)
  | running
  | finished

/-- A part of a dictionary. -/
inductive ViewPart where
  | keys
  | values
  | items
deriving DecidableEq

/-- What a stream leads to. -/
inductive Channel where
  | input
  | output
  | errors
  | file (path : Path)
  | memory
deriving DecidableEq

/-- A stream. -/
structure Stream where
  channel : Channel
  /-- It carries bytes and not texts. -/
  binary : Bool
  /-- What can be read, or has been written. -/
  content : CodePoints := []
  position : Nat := 0
  writable : Bool := false
  closed : Bool := false

/-- An object. -/
inductive Object where
  | list (items : List Value)
  | dict (entries : Entries)
  | set (items : List Value) (frozen : Bool)
  | byteArray (bytes : Bytes)
  | function (function : Function)
  | cls (cls : Class)
  /-- An instance of a class; if the class is based on a provided one, with a value of that. -/
  | instance_ (kind : Value) (attributes : Nat) (payload : Value)
  | module (name : String) (names : Nat)
  | generator (frame : Frame) (rest : List Continuation) (progress : Progress)
  | iterator (iterator : Iterator)
  | property (get set delete : Value)
  | static (function : Value)
  | ofClass (function : Value)
  | view (part : ViewPart) (dict : Nat)
  | stream (stream : Stream)
  /-- An object as seen from the classes above one of its classes. -/
  | above (kind self : Value)

/-! ## The state -/

/-- What a process writes to one of its streams.  Texts wait behind bytes. -/
structure Outgoing where
  /-- Bytes that leave now. -/
  leaving : Bytes := []
  /-- Bytes that are kept back. -/
  waiting : Bytes := []
  /-- Texts that are kept back, as bytes. -/
  waitingText : Bytes := []

namespace Outgoing

/-- Everything is written. -/
def flushed (o : Outgoing) : Outgoing := { leaving := o.leaving ++ o.waiting ++ o.waitingText }

/-- The bytes are written. -/
def flushedBytes (o : Outgoing) : Outgoing :=
  { o with leaving := o.leaving ++ o.waiting, waiting := [] }

/-- Bytes are kept back. -/
def keep (o : Outgoing) (bytes : Bytes) : Outgoing := { o with waiting := o.waiting ++ bytes }

/-- A text is kept back. -/
def keepText (o : Outgoing) (bytes : Bytes) : Outgoing :=
  { o with waitingText := o.waitingText ++ bytes }

/-- Bytes are written past everything that is kept back. -/
def pass (o : Outgoing) (bytes : Bytes) : Outgoing := { o with leaving := o.leaving ++ bytes }

end Outgoing

/-- What an interpreter knows. -/
structure State where
  world : World
  /-- How other programs are started. -/
  start : World → Command → Bytes → Except OsError Ran
  heap : Array Object := #[]
  /-- The table of the modules that have been loaded. -/
  modules : Nat := 0
  /-- The table of the names that every module knows. -/
  common : Nat := 0
  /-- What will be written to the output. -/
  output : Outgoing := {}
  /-- What will be written to the stream for errors. -/
  errors : Outgoing := {}
  /-- What has been written, the last first. -/
  writes : List (Outlet × Bytes) := []
  /-- What has not been read yet. -/
  input : Bytes := []
  /-- What has been fetched of the input and not been asked for yet. -/
  fetched : Bytes := []
  /-- The dictionary of the variables of the environment. -/
  environ : Nat := 0
  /-- Nothing that is written is kept back. -/
  unbuffered : Bool := false
  /-- Assertions are checked. -/
  checking : Bool := true
  /-- How many functions are being run. -/
  depth : Nat := 0
  /-- How many steps are left. -/
  steps : Nat
  /-- The exceptions that are being dealt with, the last one first. -/
  handled : List Value := []
  /-- The objects that are being shown. -/
  showing : List Nat := []
  /-- What is called when the interpreter ends, the last one first. -/
  exitCalls : List (Value × List Value × List (String × Value)) := []
  /-- What is called when a signal comes. -/
  signalCalls : List (Nat × Value) := []
  /-- The signals that were sent to other processes. -/
  sentOut : List (Nat × Nat) := []

/-- Why the next thing is not done. -/
inductive Raised where
  | exception (value : Value)
  /-- The process ends at once. -/
  | ended (ending : Ending)

/-- Something that an interpreter does. -/
abbrev Act := EStateM Raised State

/-- Evaluation and calls, which all else is built on. -/
structure Evaluator where
  eval : Frame → Expr → Act Value
  call : Value → List Value → List (String × Value) → Act Value

/-! ## The heap -/

/-- Make an object. -/
def alloc (o : Object) : Act Nat := do
  let s ← get
  set { s with heap := s.heap.push o }
  return s.heap.size

/-- Make an object, as a value. -/
def make (o : Object) : Act Value := do return .object (← alloc o)

/-- The object at an address. -/
def object? (address : Nat) : Act (Option Object) := do return (← get).heap[address]?

/-- Change the object at an address. -/
def replace (address : Nat) (o : Object) : Act Unit :=
  modify fun s => { s with heap := s.heap.setIfInBounds address o }

/-- The object of a value. -/
def objectOf (v : Value) : Act (Option Object) := do
  match v with
  | .object address => object? address
  | _ => return none

/-- A new list. -/
def makeList (items : List Value) : Act Value := make (.list items)

/-- A new dictionary. -/
def makeDict (entries : Entries) : Act Value := make (.dict entries)

/-! ## Exceptions -/

/-- A new exception of a class, with its arguments. -/
def makeException (kind : String) (args : List Value) : Act Value := do
  make (.instance_ (.kind kind) (← alloc (.dict [])) (.tuple args))

/-- Fail with an exception of a class. -/
def failWith {α : Type} (kind : String) (args : List Value) : Act α := do
  throw (.exception (← makeException kind args))

/-- Fail with an exception of a class and a message. -/
def fail {α : Type} (kind message : String) : Act α := failWith kind [.ofString message]

/-! ## Tables of names -/

/-- The entries of a dictionary at an address. -/
def entriesAt (address : Nat) : Act Entries := do
  match ← object? address with
  | some (.dict entries) => return entries
  | _ => return []

/-- The value of a name in a table. -/
def name? (table : Nat) (name : String) : Act (Option Value) := do
  return (← entriesAt table).find? (.ofString name)

/-- Give a name in a table a value. -/
def setName (table : Nat) (name : String) (value : Value) : Act Unit := do
  replace table (.dict ((← entriesAt table).put (.ofString name) value))

/-- Take a name out of a table. -/
def eraseName (table : Nat) (name : String) : Act Unit := do
  replace table (.dict ((← entriesAt table).erase (.ofString name)))

/-- A table with names and their values. -/
def makeTable (names : List (String × Value)) : Act Nat :=
  alloc (.dict (names.map fun e => (.ofString e.1, e.2)))

/-- A new module with names and their values. -/
def makeModule (name : String) (names : List (String × Value)) : Act Value := do
  make (.module name (← makeTable (("__name__", .ofString name) :: names)))

/-! ## Streams -/

/-- Change what goes to the output. -/
def changeOutput (f : Outgoing → Outgoing) : Act Unit :=
  modify fun s =>
    let o := f s.output
    { s with
      output := { o with leaving := [] }
      writes := if o.leaving.isEmpty then s.writes else (.output, o.leaving) :: s.writes }

/-- Change what goes to the stream for errors. -/
def changeErrors (f : Outgoing → Outgoing) : Act Unit :=
  modify fun s =>
    let o := f s.errors
    { s with
      errors := { o with leaving := [] }
      writes := if o.leaving.isEmpty then s.writes else (.errors, o.leaving) :: s.writes }

/-- Write what another program has written, past everything that is kept back. -/
def passOn (ran : Ran) : Act Unit :=
  modify fun s => { s with writes := ran.writes.reverse ++ s.writes }

/-- Write a text to the stream for errors, which is kept back until its line is complete. -/
def writeErrors (bytes : Bytes) : Act Unit := do
  changeErrors fun o => o.keepText bytes
  if bytes.contains 0x0A || bytes.contains 0x0D then changeErrors Outgoing.flushed

end Handover.Interpreter
