/-
  Values as documents and documents as values.

  A text of the interpreter may hold halves of surrogate pairs, and a number may be no number at
  all; both are written as they are.  The texts themselves are written as every document here writes
  them, see `Json/Printer`.
-/
import Handover.Interpreter.Provided.Methods
import Handover.Json.Printer

namespace Handover.Interpreter

open CodePoints (ofString)

/-! ## Writing -/

/-- How a value is written as a document. -/
structure DocumentStyle where
  asciiOnly : Bool
  allowNan : Bool
  skipKeys : Bool
  sortKeys : Bool
  indent : Option CodePoints
  itemSeparator : CodePoints
  keySeparator : CodePoints
  /-- What is called for values that have no form. -/
  default : Value

/-- A code point of a text in a document. -/
def documentOne (asciiOnly : Bool) (n : Nat) : CodePoints :=
  if n.isValidChar then
    let c := Char.ofNat n
    if asciiOnly || decide (n < 0x20) || c == '"' || c == '\\' then
      (Json.printChar c).map Char.toNat
    else [n]
  else if asciiOnly then (Json.codePointEscape n).map Char.toNat
  else [n]

/-- A text in a document. -/
def documentText (asciiOnly : Bool) (text : CodePoints) : CodePoints :=
  0x22 :: text.flatMap (documentOne asciiOnly) ++ [0x22]

/-- A number of double precision in a document. -/
def documentFloat (style : DocumentStyle) (x : Float) : Act CodePoints := do
  if x.isFinite then return ofString (Numeral.text x)
  else if !style.allowNan then
    let text := Numeral.text x
    fail "ValueError" s!"Out of range float values are not JSON compliant: {text}"
  else
    return ofString (if x.isNaN then "NaN" else if x < 0.0 then "-Infinity" else "Infinity")

/-- A value without the class around it; exceptions are no data. -/
def dataOf (v : Value) : Act Value := do
  if ← isA v "BaseException" then return v else plain v

/-- The name of a member; `none` if it is left out. -/
def documentKey (style : DocumentStyle) (k : Value) : Act (Option CodePoints) := do
  match ← dataOf k with
  | .text t => return some t
  | .float x => return some (← documentFloat style x)
  | .bool b => return some (ofString (if b then "true" else "false"))
  | .none => return some (ofString "null")
  | .int n => return some (ofString (toString n))
  | _ =>
    if style.skipKeys then return none
    else
      let kind ← kindName k
      fail "TypeError" s!"keys must be str, int, float, bool or None, not {kind}"

/-- Items between brackets, with their separators. -/
def documentParts (style : DocumentStyle) (depth : Nat) (opening closing : String)
    (parts : List CodePoints) : CodePoints :=
  if parts.isEmpty then ofString (opening ++ closing)
  else
    let lineEnd := fun (depth : Nat) => match style.indent with
      | some unit => 0x0A :: (List.replicate depth unit).flatten
      | none => []
    ofString opening ++ lineEnd (depth + 1)
      ++ (style.itemSeparator ++ lineEnd (depth + 1)).intercalate parts
      ++ lineEnd depth ++ ofString closing

/-- How deep values are nested at most. -/
def deepestDocument : Nat := 950

/-- A value as a document. -/
def documentOf (ev : Evaluator) (style : DocumentStyle) :
    Nat → List Nat → Value → Act CodePoints
  | 0, _, _ => fail "RecursionError" "maximum recursion depth exceeded while encoding a JSON object"
  | fuel + 1, around, v => do
    let bare ← dataOf v
    let inside := fun (address : Option Nat) => do
      match address with
      | some a =>
        if around.contains a then fail "ValueError" "Circular reference detected"
        else return a :: around
      | none => return around
    let address := match bare with
      | .object a => some a
      | _ => none
    let list := fun (items : List Value) => do
      let around ← inside address
      let parts ← items.mapM (documentOf ev style fuel around)
      return documentParts style (deepestDocument - fuel - 1) "[" "]" parts
    match bare with
    | .none => return ofString "null"
    | .bool b => return ofString (if b then "true" else "false")
    | .int n => return ofString (toString n)
    | .float x => documentFloat style x
    | .text t => return documentText style.asciiOnly t
    | .tuple items => list items
    | bare =>
      match ← objectOf bare with
      | some (.list items) => list items
      | some (.dict entries) =>
        let around ← inside address
        let entries ← if style.sortKeys then do
            let pairs ← sortValues ev .none false (entries.map fun e => .tuple [e.1, e.2])
            pure (pairs.filterMap fun
              | .tuple [k, v] => some (k, v)
              | _ => none)
          else pure entries
        let parts ← entries.mapM fun (k, v) => do
          match ← documentKey style k with
          | none => return none
          | some name =>
            let value ← documentOf ev style fuel around v
            return some (documentText style.asciiOnly name ++ style.keySeparator ++ value)
        return documentParts style (deepestDocument - fuel - 1) "\x7b" "\x7d" (parts.filterMap id)
      | _ =>
        if style.default.isNone then
          let kind ← kindName v
          fail "TypeError" s!"Object of type {kind} is not JSON serializable"
        else
          let around ← inside address
          documentOf ev style fuel around (← ev.call style.default [v] [])

/-- The style that arguments tell. -/
def documentStyle (ev : Evaluator) (g : Given) : Act DocumentStyle := do
  let flag := fun (name : String) (default : Bool) => do
    match g.named? name with
    | some v => truth ev v
    | none => return default
  let indent ← match (g.named? "indent").getD .none with
    | .none => pure none
    | v => do
      match ← plain v with
      | .text t => pure (some t)
      | v => pure (some (List.replicate (← intOf ev v).toNat 0x20))
  let (item, key) ← match (g.named? "separators").getD .none with
    | .none => pure (ofString (if indent.isSome then "," else ", "), ofString ": ")
    | v => do
      match ← itemsOf ev v with
      | [.text a, .text b] => pure (a, b)
      | _ => fail "ValueError" "not enough values to unpack (expected 2)"
  return {
    asciiOnly := ← flag "ensure_ascii" true
    allowNan := ← flag "allow_nan" true
    skipKeys := ← flag "skipkeys" false
    sortKeys := ← flag "sort_keys" false
    indent
    itemSeparator := item
    keySeparator := key
    default := (g.named? "default").getD .none }

/-- The document of a value. -/
def dumped (ev : Evaluator) (g : Given) : Act CodePoints := do
  match g.named? "cls" with
  | none | some .none => documentOf ev (← documentStyle ev g) deepestDocument [] g.first
  | some cls =>
    let encoder ← ev.call cls [] (g.byName.filter fun e => e.1 != "cls")
    let style ← documentStyle ev g
    documentOf ev { style with default := ← attributeOf ev encoder "default" } deepestDocument []
      g.first

/-! ## Reading -/

/-- What reading takes from the call. -/
structure DocumentReading where
  /-- The whole document. -/
  source : CodePoints
  /-- What is called with the members of an object, if something is. -/
  hook : Value

/-- A fault in a document, given what is left from its place on. -/
def documentFault {α : Type} (r : DocumentReading) (what : String) (left : CodePoints) : Act α := do
  let place := r.source.length - left.length
  let before := r.source.take place
  let line := (before.filter (· == 0x0A)).length + 1
  let column := (before.reverse.takeWhile (· != 0x0A)).length + 1
  fail "JSONDecodeError" s!"{what}: line {line} column {column} (char {place})"

/-- What is left behind blanks. -/
def pastBlanks (left : CodePoints) : CodePoints :=
  left.dropWhile fun n => n == 0x20 || n == 0x09 || n == 0x0A || n == 0x0D

/-- The number of four hexadecimal digits. -/
def fourDigits? (left : CodePoints) : Option Nat :=
  let four := left.take 4
  if four.length = 4 then
    four.foldlM (fun (n : Nat) d => do
      let k ← CodePoints.digitValue? d
      if k < 16 then some (16 * n + k) else none) 0
  else none

/-- Read a text, from behind its first quote. -/
def readDocumentText (r : DocumentReading) (start : CodePoints) :
    Nat → CodePoints → CodePoints → Act (CodePoints × CodePoints)
  | 0, _, _ => documentFault r "Unterminated string starting at" start
  | fuel + 1, done, left => do
    match left with
    | [] => documentFault r "Unterminated string starting at" start
    | 0x22 :: rest => return (done.reverse, rest)
    | 0x5C :: 0x75 :: rest =>
      match fourDigits? rest with
      | none => documentFault r "Invalid \\uXXXX escape" rest
      | some n =>
        let rest := rest.drop 4
        let pair := match rest with
          | 0x5C :: 0x75 :: more => (fourDigits? more).bind fun m =>
            if 0xD800 ≤ n ∧ n < 0xDC00 ∧ 0xDC00 ≤ m ∧ m < 0xE000 then
              some (0x10000 + (n - 0xD800) * 0x400 + (m - 0xDC00), more.drop 4)
            else none
          | _ => none
        match pair with
        | some (whole, rest) => readDocumentText r start fuel (whole :: done) rest
        | none => readDocumentText r start fuel (n :: done) rest
    | 0x5C :: n :: rest =>
      let letter := CodePoints.charOf n
      let value := match letter with
        | '"' | '\\' | '/' => some n
        | 'b' => some 8
        | 'f' => some 12
        | 'n' => some 10
        | 'r' => some 13
        | 't' => some 9
        | _ => none
      match value with
      | some m => readDocumentText r start fuel (m :: done) rest
      | none => documentFault r "Invalid \\escape" left
    | [0x5C] => documentFault r "Unterminated string starting at" start
    | n :: rest =>
      if n < 0x20 then documentFault r "Invalid control character at" left
      else readDocumentText r start fuel (n :: done) rest

/-- Read a number. -/
def readDocumentNumber (r : DocumentReading) (left : CodePoints) : Act (Value × CodePoints) := do
  let minus := left.head? = some 0x2D
  let rest := if minus then left.drop 1 else left
  let digits := fun (l : CodePoints) => l.takeWhile CodePoints.isDigit
  let whole := if rest.head? = some 0x30 then [0x30] else digits rest
  if whole.isEmpty then documentFault r "Expecting value" left
  let after := rest.drop whole.length
  let fraction := match after with
    | 0x2E :: more => digits more
    | _ => []
  let after := if fraction.isEmpty then after else after.drop (fraction.length + 1)
  let (power, after) : Option Int × CodePoints := match after with
    | e :: more =>
      if e = 0x65 ∨ e = 0x45 then
        let (down, ds) := match more with
          | 0x2D :: ds => (true, ds)
          | 0x2B :: ds => (false, ds)
          | ds => (false, ds)
        let run := digits ds
        let n : Int := Token.numberOf 10 (CodePoints.chars run)
        if run.isEmpty then (none, after) else (some (if down then -n else n), ds.drop run.length)
      else (none, after)
    | [] => (none, [])
  if fraction.isEmpty && power.isNone then
    let n : Int := Token.numberOf 10 (CodePoints.chars whole)
    return (.int (if minus then -n else n), after)
  else
    let x := Token.floatOf (Token.numberOf 10 (CodePoints.chars (whole ++ fraction)))
      (power.getD 0 - fraction.length)
    return (.float (if minus then -x else x), after)

/-- Read a value. -/
def readDocumentValue (ev : Evaluator) (r : DocumentReading) : Nat → CodePoints → Act (Value × CodePoints)
  | 0, _ => fail "RecursionError" "maximum recursion depth exceeded while decoding a JSON array"
  | fuel + 1, left => do
    let words : List (String × Value) :=
      [("null", .none), ("true", .bool true), ("false", .bool false), ("NaN", .float (0.0 / 0.0)),
        ("Infinity", .float (1.0 / 0.0)), ("-Infinity", .float (-1.0 / 0.0))]
    match words.find? fun w => (ofString w.1).isPrefixOf left with
    | some (word, v) => return (v, left.drop word.length)
    | none =>
      match left with
      | 0x22 :: rest =>
        let (t, rest) ← readDocumentText r left (rest.length + 1) [] rest
        return (.text t, rest)
      | 0x5B :: rest =>
        let rest := pastBlanks rest
        if rest.head? = some 0x5D then return (← makeList [], rest.drop 1)
        let (items, rest) ← readItems fuel (rest.length + 1) rest
        return (← makeList items, rest)
      | 0x7B :: rest =>
        let rest := pastBlanks rest
        let (entries, rest) ←
          if rest.head? = some 0x7D then pure ([], rest.drop 1)
          else readMembers fuel (rest.length + 1) [] rest
        let made ← makeDict entries
        if r.hook.isNone then return (made, rest)
        else return (← ev.call r.hook [made] [], rest)
      | _ => readDocumentNumber r left
where
  /-- Read the items of an array. -/
  readItems (fuel : Nat) : Nat → CodePoints → Act (List Value × CodePoints)
    | 0, left => documentFault r "Expecting value" left
    | n + 1, left => do
      let (v, rest) ← readDocumentValue ev r fuel left
      match pastBlanks rest with
      | 0x5D :: rest => return ([v], rest)
      | 0x2C :: rest =>
        let (vs, rest) ← readItems fuel n (pastBlanks rest)
        return (v :: vs, rest)
      | rest => documentFault r "Expecting ',' delimiter" rest
  /-- Read the members of an object. -/
  readMembers (fuel : Nat) : Nat → Entries → CodePoints → Act (Entries × CodePoints)
    | 0, _, left => documentFault r "Expecting value" left
    | n + 1, done, left => do
      match left with
      | 0x22 :: rest =>
        let (name, rest) ← readDocumentText r left (rest.length + 1) [] rest
        match pastBlanks rest with
        | 0x3A :: rest =>
          let (v, rest) ← readDocumentValue ev r fuel (pastBlanks rest)
          let done := done.put (.text name) v
          match pastBlanks rest with
          | 0x7D :: rest => return (done, rest)
          | 0x2C :: rest => readMembers fuel n done (pastBlanks rest)
          | rest => documentFault r "Expecting ',' delimiter" rest
        | rest => documentFault r "Expecting ':' delimiter" rest
      | _ => documentFault r "Expecting property name enclosed in double quotes" left

/-- The value of a document. -/
def loaded (ev : Evaluator) (g : Given) : Act Value := do
  let source ← match ← plain g.first, ← bytes? g.first with
    | .text t, _ => pure t
    | _, some b => decodeBytes .utf8 .surrogatePass b
    | _, none =>
      let kind ← kindName g.first
      fail "TypeError"
        s!"the JSON object must be str, bytes or bytearray, not {kind}"
  let r : DocumentReading := { source, hook := (g.named? "object_hook").getD .none }
  if source.head? = some 0xFEFF then
    documentFault r "Unexpected UTF-8 BOM (decode using utf-8-sig)" source
  let (v, rest) ← readDocumentValue ev r deepestDocument (pastBlanks source)
  match pastBlanks rest with
  | [] => return v
  | rest => documentFault r "Extra data" rest

/-- Carry out a function of the module `json`. -/
def jsonFunction (ev : Evaluator) (name : String) (g : Given) : Act Value := do
  match name with
  | "dumps" => return .text (← dumped ev g)
  | "dump" =>
    let text ← dumped ev g
    let _ ← ev.call (← attributeOf ev (g.get 1 "fp") "write") [.text text] []
    return .none
  | "loads" => loaded ev g
  | "load" =>
    let text ← ev.call (← attributeOf ev g.first "read") [] []
    loaded ev { g with byPlace := text :: g.byPlace.drop 1 }
  | n => fail "AttributeError" s!"module 'json' has no attribute '{n}'"

end Handover.Interpreter
