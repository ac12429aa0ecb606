/-
  Values as text.

  A value has two texts: the one in which a program would write it, and the one that is printed.
  They differ for texts, which are printed as they are, and for exceptions, of which the message
  is printed.  A class may tell either text itself.
-/
import Handover.Interpreter.Class
import Handover.Interpreter.Form
import Handover.OsError
import Handover.Text.Unprintable

namespace Handover.Interpreter

namespace CodePoints

/-! ## Quoted texts -/

/-- The quote around a text: the single one, unless only that occurs in the text. -/
def quoteFor (text : CodePoints) : Nat :=
  if text.contains 0x27 && !text.contains 0x22 then 0x22 else 0x27

/-- A code point between quotes.  `ascii` leaves only ASCII as it is. -/
def quotedOne (ascii : Bool) (quote n : Nat) : CodePoints :=
  if n = quote ∨ n = 0x5C then [0x5C, n]
  else if n = 0x0A then ofString "\\n"
  else if n = 0x0D then ofString "\\r"
  else if n = 0x09 then ofString "\\t"
  else if n < 0x20 ∨ n = 0x7F then escaped n
  else if n < 0x7F then [n]
  else if ascii || isHalf n || Text.isUnprintable (charOf n) then escaped n
  else [n]

/-- A text between quotes. -/
def quoted (ascii : Bool) (text : CodePoints) : CodePoints :=
  let quote := quoteFor text
  quote :: text.flatMap (quotedOne ascii quote) ++ [quote]

/-- A byte string between quotes. -/
def quotedBytes (bytes : Bytes) : CodePoints :=
  let text := bytes.map UInt8.toNat
  let quote := quoteFor text
  'b'.toNat :: quote :: text.flatMap
    (fun n => if n < 0x7F then quotedOne true quote n else escaped n) ++ [quote]

/-- Texts with a separator between them. -/
def joined (separator : String) (texts : List CodePoints) : CodePoints :=
  (ofString separator).intercalate texts

end CodePoints

open CodePoints (ofString)

/-! ## Calling by name -/

/-- The text in which a program would write a value. -/
def reprOf (ev : Evaluator) (v : Value) : Act CodePoints := do
  match ← plain (← ev.call (.provided "repr") [v] []) with
  | .text t => return t
  | _ => fail "TypeError" "__repr__ returned non-string"

/-- The text of a value that is printed. -/
def textOf (ev : Evaluator) (v : Value) : Act CodePoints := do
  match ← plain (← ev.call (.kind "str") [v] []) with
  | .text t => return t
  | _ => fail "TypeError" "__str__ returned non-string"

/-! ## Objects -/

/-- The text of an address. -/
def addressText (address : Nat) : CodePoints :=
  ofString "0x" ++ CodePoints.digits 16 (0x7F0000000000 + 16 * address)

/-- The name of a class with that of its module. -/
def fullName (cls : Value) : Act CodePoints := do
  match cls with
  | .kind k => return ofString k
  | v =>
    match ← objectOf v with
    | some (.cls c) =>
      match ← name? c.attributes "__module__" with
      | some (.text m) =>
        return (if m = ofString "builtins" then [] else m ++ ['.'.toNat]) ++ ofString c.name
      | _ => return ofString c.name
    | _ => return ofString "object"

/-- The attributes of an instance. -/
def attributesOf (v : Value) : Act Entries := do
  match ← objectOf v with
  | some (.instance_ _ attributes _) => entriesAt attributes
  | _ => return []

/-- The arguments of an exception. -/
def argsOf (v : Value) : Act (List Value) := do
  match ← plain v with
  | .tuple args => return args
  | _ => return []

/-- Show something unless it is being shown already. -/
def guardedShow (address : Nat) (already : CodePoints) (act : Act CodePoints) : Act CodePoints := do
  let s ← get
  if s.showing.contains address then return already
  else
    set { s with showing := address :: s.showing }
    let text ← act
    modify fun t => { t with showing := s.showing }
    return text

/-- The items of a collection between brackets. -/
def shownItems (ev : Evaluator) (opening closing : String) (items : List Value) :
    Act CodePoints := do
  return ofString opening ++ CodePoints.joined ", " (← items.mapM (reprOf ev)) ++ ofString closing

/-- The entries of a dictionary between brackets. -/
def shownEntries (ev : Evaluator) (entries : Entries) : Act CodePoints := do
  let texts ← entries.mapM fun e => do
    return (← reprOf ev e.1) ++ ofString ": " ++ (← reprOf ev e.2)
  return ofString "\x7b" ++ CodePoints.joined ", " texts ++ ofString "\x7d"

/-- A tuple. -/
def shownTuple (ev : Evaluator) (items : List Value) : Act CodePoints :=
  shownItems ev "(" (if items.length = 1 then ",)" else ")") items

/-- The items of a part of a dictionary. -/
def viewItems (part : ViewPart) (entries : Entries) : List Value :=
  match part with
  | .keys => entries.map Prod.fst
  | .values => entries.map Prod.snd
  | .items => entries.map fun e => .tuple [e.1, e.2]

/-- An object as a program would write it, unless its class tells. -/
def shownObject (ev : Evaluator) (address : Nat) (o : Object) : Act CodePoints := do
  let anonymous := fun (what : CodePoints) =>
    ofString "<" ++ what ++ ofString " at " ++ addressText address ++ ofString ">"
  match o with
  | .list items => guardedShow address (ofString "[...]") (shownItems ev "[" "]" items)
  | .dict entries =>
    guardedShow address (ofString "\x7b...\x7d") (shownEntries ev entries)
  | .set items frozen =>
    let inside ← shownItems ev "\x7b" "\x7d" items
    return if frozen then
        ofString "frozenset(" ++ (if items.isEmpty then [] else inside) ++ ofString ")"
      else if items.isEmpty then ofString "set()" else inside
  | .byteArray b => return ofString "bytearray(" ++ CodePoints.quotedBytes b ++ ofString ")"
  | .function f => return anonymous (ofString "function " ++ ofString f.code.name)
  | .cls _ =>
    return ofString "<class '" ++ (← fullName (.object address)) ++ ofString "'>"
  | .instance_ kind _ payload =>
    if ← isBelow kind (.kind "BaseException") then
      let args := match payload with
        | .tuple args => args
        | _ => []
      return ofString (← className kind) ++ (← shownItems ev "(" ")" args)
    else
      match payload with
      | .none => return anonymous ((← fullName kind) ++ ofString " object")
      | payload => reprOf ev payload
  | .module name names =>
    match ← name? names "__file__" with
    | some (.text file) =>
      return ofString "<module " ++ CodePoints.quoted false (ofString name) ++ ofString " from "
        ++ CodePoints.quoted false file ++ ofString ">"
    | _ =>
      return ofString "<module " ++ CodePoints.quoted false (ofString name)
        ++ ofString " (built-in)>"
  | .view part dict =>
    let items := viewItems part (← entriesAt dict)
    return ofString part.kind ++ (← shownItems ev "([" "])" items)
  | .generator .. => return anonymous (ofString "generator object")
  | o => return anonymous (ofString (← className o.kind) ++ ofString " object")

/-! ## Values -/

/-- A method that must give a text has given something else. -/
def nonText {α : Type} (method : String) (v : Value) : Act α := do
  let kind ← kindName v
  fail "TypeError" s!"{method} returned non-string (type {kind})"

/-- A value as a program would write it. -/
def shown (ev : Evaluator) (v : Value) : Act CodePoints := do
  match v with
  | .none => return ofString "None"
  | .bool b => return ofString (if b then "True" else "False")
  | .int n => return ofString (toString n)
  | .float x => return ofString (Numeral.text x)
  | .text t => return CodePoints.quoted false t
  | .bytes b => return CodePoints.quotedBytes b
  | .tuple items => shownTuple ev items
  | .range a b c =>
    let items := [a, b] ++ if c = 1 then [] else [c]
    shownItems ev "range(" ")" (items.map .int)
  | .slice a b c => shownItems ev "slice(" ")" [a, b, c]
  | .ellipsis => return ofString "Ellipsis"
  | .notImplemented => return ofString "NotImplemented"
  | .provided name => return ofString s!"<built-in function {name}>"
  | .kind name => return ofString s!"<class '{name}'>"
  | .bound self f =>
    return ofString "<bound method " ++ (← reprOf ev f) ++ ofString " of " ++ (← reprOf ev self)
      ++ ofString ">"
  | .object address =>
    match ← callSpecial? ev v "__repr__" [] with
    | some (.text t) => return t
    | some other =>
      match ← plain other with
      | .text t => return t
      | _ => nonText "__repr__" other
    | none =>
      match ← object? address with
      | some o => shownObject ev address o
      | none => return []

/-- The message of an exception about a text or a byte string. -/
def codingMessage (ev : Evaluator) (decoding : Bool) (args : List Value) : Act CodePoints := do
  match args with
  | [.text codec, object, start, stop, reason] =>
    let first := (start.int?.getD 0).toNat
    let last := (stop.int?.getD 0).toNat
    let items : List Nat ← match ← plain object with
      | .text t => pure t
      | .bytes b => pure (b.map UInt8.toNat)
      | _ => pure []
    let verb := ofString (if decoding then " codec can't decode " else " codec can't encode ")
    let reason := ofString ": " ++ (← textOf ev reason)
    let number := fun (n : Nat) => CodePoints.digits 10 n
    let place ← match items[first]?, last == first + 1 with
      | some n, true =>
        let what := if decoding then ofString "byte 0x" ++ CodePoints.hexadecimal 2 n
          else ofString "character '" ++ CodePoints.escaped n ++ ofString "'"
        pure (what ++ ofString " in position " ++ number first)
      | _, _ =>
        pure (ofString (if decoding then "bytes" else "characters") ++ ofString " in position "
          ++ number first ++ ofString "-" ++ number (last - 1))
    return CodePoints.quoted false codec ++ verb ++ place ++ reason
  | args => shownTuple ev args

/-- The message of an exception. -/
def exceptionMessage (ev : Evaluator) (v : Value) : Act CodePoints := do
  let args ← argsOf v
  let attributes ← attributesOf v
  let is := fun (kind : String) => isA v kind
  if ← is "UnicodeDecodeError" then codingMessage ev true args
  else if ← is "UnicodeEncodeError" then codingMessage ev false args
  else if (← is "OSError") && args.length == 2 then
    let text := fun (name : String) => match attributes.find? (.ofString name) with
      | some .none | none => return none
      | some value => return some (← reprOf ev value)
    let file ← text "filename"
    let other ← text "filename2"
    return ofString "[Errno " ++ (← textOf ev (args.headD .none)) ++ ofString "] "
      ++ (← textOf ev (args.getD 1 .none))
      ++ (match file with | some t => ofString ": " ++ t | none => [])
      ++ (match other with | some t => ofString " -> " ++ t | none => [])
  else
    match args with
    | [] => return []
    | [arg] => if ← is "KeyError" then reprOf ev arg else textOf ev arg
    | args => shownTuple ev args

/-- A value as it is printed. -/
def printed (ev : Evaluator) (v : Value) : Act CodePoints := do
  match v with
  | .text t => return t
  | .object _ =>
    match ← callSpecial? ev v "__str__" [] with
    | some (.text t) => return t
    | some other =>
      match ← plain other with
      | .text t => return t
      | _ => nonText "__str__" other
    | none =>
      if ← isA v "BaseException" then exceptionMessage ev v
      else if (← special? v "__repr__").isSome then shown ev v
      else
        match ← plain v with
        | .text t => return t
        | _ => shown ev v
  | v => shown ev v

/-- A value in a form. -/
def inForm (ev : Evaluator) (v : Value) (form : CodePoints) : Act CodePoints := do
  match ← callSpecial? ev v "__format__" [.text form] with
  | some result =>
    match ← plain result with
    | .text t => return t
    | _ => fail "TypeError" "__format__ must return a str"
  | none =>
    if form.isEmpty then textOf ev v
    else
      let bare ← plain v
      let kind ← kindName v
      let refused := fun (_ : Unit) =>
        fail "ValueError"
          ("Invalid format specifier '" ++ form.display ++ "' for object of type '" ++ kind ++ "'")
      match Form.ofChars? form.chars with
      | none => refused ()
      | some f =>
        let made ← match bare with
          | .text t => pure (f.ofText t)
          | .int n => pure (f.ofInt n)
          | .bool b => pure (f.ofInt (if b then 1 else 0))
          | .float x => pure (f.ofFloat x)
          | _ =>
            fail "TypeError" s!"unsupported format string passed to {kind}.__format__"
        match made with
        | some t => return t
        | none => refused ()

end Handover.Interpreter
