/-
  The methods of texts and of byte strings.

  Byte strings have nearly the same methods as texts.  Both are worked on as lists of numbers; the
  answer says where such lists stand in it, so that each can be given back as what it was.
-/
import Handover.Interpreter.Provided.Coding
import Handover.Interpreter.Token
import Handover.Text.Blank

namespace Handover.Interpreter

open CodePoints (ofString)

/-- The answer of a method of a text. -/
inductive TextAnswer where
  | text (text : CodePoints)
  | list (texts : List CodePoints)
  | tuple (texts : List CodePoints)
  | value (value : Value)

namespace CodePoints

/-! ## Kinds of code points -/

/-- A blank. -/
def isSpace (n : Nat) : Bool :=
  (decide (0x1C ≤ n) && decide (n ≤ 0x1F)) || (!isHalf n && Text.isBlank (charOf n))

/-- A decimal digit. -/
def isDigit (n : Nat) : Bool := decide (0x30 ≤ n) && decide (n ≤ 0x39)

/-- A letter. -/
def isLetter (n : Nat) : Bool :=
  if n < 0x80 then (charOf n).isAlpha
  else
    isCasedLetter n || n == 0xAA || n == 0xBA
      || (decide (0x100 ≤ n) && !isHalf n && !Text.isUnprintable (charOf n) && !isSpace n
          && !(decide (0x2000 ≤ n) && decide (n < 0x2C00)) && !(decide (0x1F000 ≤ n)))

/-- A capital letter. -/
def isUpper (n : Nat) : Bool := lower [n] != [n]

/-- A small letter. -/
def isLower (n : Nat) : Bool := upperOne n != [n]

/-- Every code point satisfies a test, and there is one. -/
def allOf (p : Nat → Bool) (text : CodePoints) : Bool := !text.isEmpty && text.all p

/-- A text without the code points at its start that satisfy a test. -/
def dropStart (p : Nat → Bool) (text : CodePoints) : CodePoints := text.dropWhile p

/-- A text without the code points at its end that satisfy a test. -/
def dropEnd (p : Nat → Bool) (text : CodePoints) : CodePoints :=
  (text.reverse.dropWhile p).reverse

/-! ## Splitting -/

/-- The words of a text, at most `most` of them split off. -/
def words : Nat → Nat → CodePoints → List CodePoints
  | 0, _, _ => []
  | fuel + 1, most, text =>
    match dropStart isSpace text with
    | [] => []
    | text =>
      match most with
      | 0 => [dropEnd isSpace text]
      | most + 1 =>
        let word := text.takeWhile fun n => !isSpace n
        word :: words fuel most (text.drop word.length)

/-- The code point ends a line. -/
def endsLine (isBytes : Bool) (n : Nat) : Bool :=
  n == 0x0A || n == 0x0D
    || (!isBytes && (n == 0x0B || n == 0x0C || (decide (0x1C ≤ n) && decide (n ≤ 0x1E)) || n == 0x85
        || n == 0x2028 || n == 0x2029))

/-- The lines of a text, with or without their ends. -/
def lines (isBytes keep : Bool) : Nat → CodePoints → List CodePoints
  | 0, _ | _, [] => []
  | fuel + 1, text =>
    let line := text.takeWhile fun n => !endsLine isBytes n
    let (ending, rest) := match text.drop line.length with
      | 0x0D :: 0x0A :: rest => ([0x0D, 0x0A], rest)
      | n :: rest => ([n], rest)
      | [] => ([], [])
    (if keep then line ++ ending else line) :: lines isBytes keep fuel rest

/-- The places of a part in a text that do not run into one another. -/
def occurrences (part : CodePoints) : Nat → Nat → CodePoints → List Nat
  | 0, _, _ => []
  | fuel + 1, at_, text =>
    match find? part text with
    | none => []
    | some n =>
      let length := max part.length 1
      (at_ + n) :: (if text.length < n + length then []
        else occurrences part fuel (at_ + n + length) (text.drop (n + length)))

/-- The text with the first letter of each word a capital and all others small. -/
def titled : Bool → CodePoints → CodePoints
  | _, [] => []
  | inside, n :: rest =>
    let cased := isCasedLetter n
    (if inside then lower [n] else upperOne n) ++ titled cased rest

/-- A text with tabs replaced by blanks. -/
def expandTabs (size : Nat) : Nat → CodePoints → CodePoints
  | _, [] => []
  | column, n :: rest =>
    if n = 0x09 then
      let blanks := if size = 0 then 0 else size - column % size
      List.replicate blanks 0x20 ++ expandTabs size (column + blanks) rest
    else if n = 0x0A ∨ n = 0x0D then n :: expandTabs size 0 rest
    else n :: expandTabs size (column + 1) rest

/-- The text with at most `most` occurrences of a part replaced. -/
def replaced (part other : CodePoints) : Nat → Nat → CodePoints → CodePoints
  | 0, _, text | _, 0, text => text
  | fuel + 1, most + 1, text =>
    if part.isEmpty then
      match text with
      | [] => other
      | n :: rest => other ++ n :: replaced part other fuel most rest
    else
      match find? part text with
      | none => text
      | some n =>
        text.take n ++ other ++ replaced part other fuel most (text.drop (n + part.length))

end CodePoints

/-! ## Arguments -/

/-- The code points of an argument of a method of a text or of a byte string. -/
def partArgument (isBytes : Bool) (v : Value) : Act CodePoints := do
  if isBytes then
    match ← bytes? v with
    | some b => return b.map UInt8.toNat
    | none =>
      match (← plain v).int? with
      | some n => return [n.toNat]
      | none =>
        let kind ← kindName v
        fail "TypeError" s!"a bytes-like object is required, not '{kind}'"
  else textArgument "argument" v

/-- The part of a text that two arguments limit, and its place. -/
def limited (ev : Evaluator) (text : CodePoints) (start stop : Value) :
    Act (CodePoints × Nat) := do
  let (first, _, count) ← sliceOf ev text.length start stop .none
  return (pick text first 1 count, first.toNat)

/-- A count where nothing stands for no limit. -/
def limitOf (ev : Evaluator) (v : Value) (most : Nat) : Act Nat := do
  let n ← intOr ev v (-1)
  return if n < 0 then most else n.toNat

/-- A text begins, or ends, with one of some others. -/
def edgeMatches (ev : Evaluator) (isBytes atEnd : Bool) (text : CodePoints) (g : Given) :
    Act Bool := do
  let (part, _) ← limited ev text (g.at_ 1) (g.at_ 2)
  let start ← intOr ev (g.at_ 1) 0
  let candidates ← match ← plain g.first with
    | .tuple items => items.mapM (partArgument isBytes)
    | v => do pure [← partArgument isBytes v]
  if (text.length : Int) < start then return false
  return candidates.any fun c => if atEnd then c.isSuffixOf part else c.isPrefixOf part

/-! ## Forms with percent signs -/

/-- The next argument of a form, and those after it. -/
def takeArgument (args : List Value) : Act (Value × List Value) := do
  match args with
  | v :: rest => return (v, rest)
  | [] => fail "TypeError" "not enough arguments for format string"

/-- A value written as a directive of a percent sign tells. -/
def percentValue (ev : Evaluator) (isBytes : Bool) (type : Char) (form : Form) (left : Bool)
    (v : Value) : Act CodePoints := do
  let side := fun (f : Form) =>
    if left then { f with side := some '<', fill := ' ' } else f
  let number := fun (f : Form) => do
    match ← plain v with
    | .float x =>
      if ['d', 'i', 'u'].contains type then return f.ofInt ((Numeral.truncated? x).getD 0)
      else return f.ofFloat x
    | bare =>
      match bare.int? with
      | some n => return f.ofInt n
      | none =>
        let kind ← kindName v
        fail "TypeError" ("%" ++ type.toString ++ " format: a real number is required, not " ++ kind)
  match type with
  | 's' | 'r' | 'a' | 'b' =>
    let text ←
      if isBytes && (type == 's' || type == 'b') then partArgument true v
      else if type == 'r' then reprOf ev v
      else if type == 'a' then
        match ← ev.call (.provided "ascii") [v] [] with
        | .text t => pure t
        | _ => pure []
      else textOf ev v
    let f := { form with sign := '-', full := false, fill := ' ' }
    let f := if left then { f with side := some '<' } else { f with side := some '>' }
    return ({ f with type := none }.ofText text).getD text
  | 'c' =>
    match ← plain v with
    | .text t => return ({ form with side := some (if left then '<' else '>'), fill := ' ' }.ofText t).getD t
    | bare => return [((bare.int?).getD 0).toNat]
  | _ =>
    let kind := if ['d', 'i', 'u'].contains type then 'd' else type
    let digits := if kind == 'd' || kind == 'x' || kind == 'X' || kind == 'o' then form.places else none
    let places := if digits.isSome then none else form.places
    match ← number (side { form with type := some kind, places }) with
    | some t =>
      let missing := digits.getD 0 - t.length
      return List.replicate missing 0x30 ++ t
    | none => fail "ValueError" "unsupported format character"

/-- A text with the directives of its percent signs replaced. -/
def percentForm (ev : Evaluator) (isBytes : Bool) (table : Option Value) :
    Nat → List Value → CodePoints → Act (CodePoints × List Value)
  | 0, args, _ | _, args, [] => return ([], args)
  | fuel + 1, args, n :: rest => do
    if n != '%'.toNat then
      let (more, args) ← percentForm ev isBytes table fuel args rest
      return (n :: more, args)
    else
      let (keyed, rest) ← match rest with
        | 0x28 :: more =>
          let key := more.takeWhile (· != 0x29)
          match table with
          | some t => do
            let value := if isBytes then Value.bytes (key.map UInt8.ofNat) else .text key
            pure (some (← itemOf ev t value), more.drop (key.length + 1))
          | none => fail "TypeError" "format requires a mapping"
        | rest => pure (none, rest)
      let cs := rest.map CodePoints.charOf
      let flags := cs.takeWhile fun c => c == '-' || c == '+' || c == ' ' || c == '#' || c == '0'
      let cs := cs.drop flags.length
      let (width, cs, args) ← match cs with
        | '*' :: cs => do
          let (v, args) ← takeArgument args
          pure (some (← intOf ev v).toNat, cs, args)
        | cs => let (w, cs) := Form.takeNumber cs; pure (w, cs, args)
      let (places, cs, args) ← match cs with
        | '.' :: '*' :: cs => do
          let (v, args) ← takeArgument args
          pure (some (← intOf ev v).toNat, cs, args)
        | '.' :: cs => let (p, cs) := Form.takeNumber cs; pure (some (p.getD 0), cs, args)
        | cs => pure (none, cs, args)
      let cs := cs.dropWhile fun c => c == 'l' || c == 'h' || c == 'L'
      match cs with
      | [] => fail "ValueError" "incomplete format"
      | type :: cs =>
        let after := rest.drop (rest.length - cs.length)
        if type == '%' then
          let (more, args) ← percentForm ev isBytes table fuel args after
          return ('%'.toNat :: more, args)
        else
          if !("diouxXeEfFgGcrsab".toList.contains type) then
            fail "ValueError"
              ("unsupported format character '" ++ type.toString ++ "' (0x"
                ++ String.ofList (Nat.toDigits 16 type.toNat) ++ ")")
          let (v, args) ← match keyed with
            | some v => pure (v, args)
            | none => takeArgument args
          let zero := flags.contains '0'
          let form : Form :=
            { width := width.getD 0, places
              fill := if zero then '0' else ' '
              side := if zero then some '=' else some '>'
              sign := if flags.contains '+' then '+' else if flags.contains ' ' then ' ' else '-'
              full := flags.contains '#' }
          let here ← percentValue ev isBytes type form (flags.contains '-') v
          let (more, args) ← percentForm ev isBytes table fuel args after
          return (here ++ more, args)

/-- A text with a value, or the values of a tuple, in the places of its percent signs. -/
def percent (ev : Evaluator) (isBytes : Bool) (text : CodePoints) (v : Value) : Act CodePoints := do
  let bare ← plain v
  let table ← match ← objectOf bare with
    | some (.dict _) => pure (some v)
    | _ => if (← special? v "__getitem__").isSome then pure (some v) else pure none
  let args := match bare with
    | .tuple items => items
    | _ => [v]
  let (done, left) ← percentForm ev isBytes table (text.length + 1) args text
  if !left.isEmpty && table.isNone then
    fail "TypeError" "not all arguments converted during string formatting"
  return done

/-! ## Forms with braces -/

/-- The value that the name of a field leads to from another one. -/
def followField (ev : Evaluator) : Nat → Value → CodePoints → Act Value
  | 0, v, _ | _, v, [] => return v
  | fuel + 1, v, n :: rest => do
    if n = '.'.toNat then
      let name := rest.takeWhile fun m => m != '.'.toNat && m != '['.toNat
      followField ev fuel (← attributeOf ev v (CodePoints.display name)) (rest.drop name.length)
    else
      let key := rest.takeWhile (· != ']'.toNat)
      let key' := if CodePoints.allOf CodePoints.isDigit key
        then Value.int (Token.numberOf 10 (CodePoints.chars key)) else .text key
      followField ev fuel (← itemOf ev v key') (rest.drop (key.length + 1))

/-- What is left after a field, and its inside; brackets in it are nested. -/
def fieldInside : Nat → CodePoints → Option (CodePoints × CodePoints)
  | _, [] => none
  | depth, n :: rest =>
    if n = 0x7D then
      match depth with
      | 0 => some ([], rest)
      | d + 1 => (fieldInside d rest).map fun p => (n :: p.1, p.2)
    else (fieldInside (if n = 0x7B then depth + 1 else depth) rest).map fun p => (n :: p.1, p.2)

/-- A text with values in the places of its fields; `next` numbers the fields without a name. -/
def braceForm (ev : Evaluator) (g : Given) (table : Option Value) :
    Nat → Nat → CodePoints → Act (CodePoints × Nat)
  | 0, next, _ => return ([], next)
  | _, next, [] => return ([], next)
  | fuel + 1, next, n :: rest => do
    if n = 0x7B then
      if rest.head? = some 0x7B then
        let (more, next) ← braceForm ev g table fuel next (rest.drop 1)
        return (n :: more, next)
      else
        match fieldInside 0 rest with
        | none => fail "ValueError" "expected '\x7d' before end of string"
        | some (inside, after) => do
          let stops := fun (m : Nat) => m == '!'.toNat || m == ':'.toNat
          let field := inside.takeWhile fun m => !stops m
          let rest := inside.drop field.length
          let (conversion, rest) := match rest with
            | m :: c :: rest => if m = '!'.toNat then (some c, rest) else (none, m :: c :: rest)
            | rest => (none, rest)
          let form := rest.drop 1
          let name := field.takeWhile fun m => m != '.'.toNat && m != '['.toNat
          let path := field.drop name.length
          let (base, next) ←
            if name.isEmpty then do
              match g.byPlace[next]? with
              | some v => pure (v, next + 1)
              | none => fail "IndexError" "Replacement index out of range for positional args tuple"
            else if CodePoints.allOf CodePoints.isDigit name then do
              match g.byPlace[Token.numberOf 10 (CodePoints.chars name)]? with
              | some v => pure (v, next)
              | none => fail "IndexError" "Replacement index out of range for positional args tuple"
            else do
              match table, g.named? (CodePoints.display name) with
              | some t, _ => do pure (← itemOf ev t (.text name), next)
              | none, some v => pure (v, next)
              | none, none => failWith "KeyError" [.text name]
          let v ← followField ev (path.length + 1) base path
          let v ← match conversion with
            | some c =>
              if c = 'r'.toNat then do pure (.text (← reprOf ev v))
              else if c = 's'.toNat then do pure (.text (← textOf ev v))
              else pure v
            | none => pure v
          let (form, next) ← braceForm ev g table fuel next form
          let here ← inForm ev v form
          let (more, next) ← braceForm ev g table fuel next after
          return (here ++ more, next)
    else if n = 0x7D then
      if rest.head? = some 0x7D then
        let (more, next) ← braceForm ev g table fuel next (rest.drop 1)
        return (n :: more, next)
      else fail "ValueError" "Single '\x7d' encountered in format string"
    else
      let (more, next) ← braceForm ev g table fuel next rest
      return (n :: more, next)

/-! ## The methods -/

/-- The places of a part in a text between two limits. -/
def placesOf (ev : Evaluator) (isBytes : Bool) (text : CodePoints) (g : Given) :
    Act (List Nat × CodePoints) := do
  let part ← partArgument isBytes g.first
  let (within, first) ← limited ev text (g.at_ 1) (g.at_ 2)
  return ((CodePoints.occurrences part (within.length + 2) 0 within).map (· + first), part)

/-- The last place of a part in a text between two limits. -/
def lastPlaceOf (ev : Evaluator) (isBytes : Bool) (text : CodePoints) (g : Given) :
    Act (Option Nat) := do
  let part ← partArgument isBytes g.first
  let (within, first) ← limited ev text (g.at_ 1) (g.at_ 2)
  return ((List.range (within.length + 1)).reverse.find? fun k => part.isPrefixOf (within.drop k)).map
    (· + first)

/-- The text filled up to a width. -/
def justified (ev : Evaluator) (text : CodePoints) (side : Char) (g : Given) (isBytes : Bool) :
    Act CodePoints := do
  let width ← intOf ev g.first
  let fill ← if (g.at_ 1).isNone then pure [0x20] else partArgument isBytes (g.at_ 1)
  let missing := width.toNat - text.length
  let fill := fun (n : Nat) => List.replicate n (fill.headD 0x20)
  match side with
  | '<' => return text ++ fill missing
  | '>' => return fill missing ++ text
  | _ =>
    let left := missing / 2 + (if missing % 2 = 1 ∧ width.toNat % 2 = 1 then 1 else 0)
    return fill left ++ text ++ fill (missing - left)

/-- Split a text from its end. -/
def splitFromEnd (text : CodePoints) (separator : Option CodePoints) (most : Nat) :
    List CodePoints :=
  let back := text.reverse
  let parts := match separator with
    | none => CodePoints.words (text.length + 1) most back
    | some s => CodePoints.splitOn s.reverse (text.length + 1) most back
  (parts.map List.reverse).reverse

/-- A name as the language allows it. -/
def isIdentifier (text : CodePoints) : Bool :=
  match CodePoints.chars text with
  | c :: rest => Token.beginsName c && rest.all Token.continuesName
  | [] => false

/-- Carry out a method of a text or a byte string. -/
def textMethod (ev : Evaluator) (isBytes : Bool) (text : CodePoints) (method : String)
    (g : Given) : Act TextAnswer := do
  let part := partArgument isBytes
  let test := fun (p : Nat → Bool) => return TextAnswer.value (.bool (CodePoints.allOf p text))
  let most := text.length + 1
  let lower := if isBytes then text.map fun n => if n < 0x80 then (CodePoints.charOf n).toLower.toNat else n
    else CodePoints.lower text
  let upper := if isBytes then text.map fun n => if n < 0x80 then (CodePoints.charOf n).toUpper.toNat else n
    else CodePoints.upper text
  let stripped := fun (start stop : Bool) => do
    let p ← if g.first.isNone then pure CodePoints.isSpace else do
      let set ← part g.first
      pure (fun n => set.contains n)
    let text := if start then CodePoints.dropStart p text else text
    return TextAnswer.text (if stop then CodePoints.dropEnd p text else text)
  match method with
  | "lower" | "casefold" => return .text lower
  | "upper" => return .text upper
  | "capitalize" =>
    return .text (match text with
      | n :: rest => (if isBytes && 0x80 ≤ n then [n] else CodePoints.upperOne n) ++ CodePoints.lower rest
      | [] => [])
  | "title" => return .text (CodePoints.titled false text)
  | "swapcase" =>
    return .text (text.flatMap fun n =>
      if CodePoints.isUpper n then CodePoints.lower [n] else CodePoints.upperOne n)
  | "strip" => stripped true true
  | "lstrip" => stripped true false
  | "rstrip" => stripped false true
  | "split" | "rsplit" =>
    let limit ← limitOf ev (g.get 1 "maxsplit") most
    let separator ← match g.get 0 "sep" with
      | .none => pure none
      | v => do
        let s ← part v
        if s.isEmpty then fail "ValueError" "empty separator"
        pure (some s)
    if method == "rsplit" then return .list (splitFromEnd text separator limit)
    else
      return .list (match separator with
        | none => CodePoints.words most limit text
        | some s => CodePoints.splitOn s most limit text)
  | "splitlines" =>
    let keep ← truth ev (g.get 0 "keepends")
    return .list (CodePoints.lines isBytes keep most text)
  | "partition" | "rpartition" =>
    let s ← part g.first
    if s.isEmpty then fail "ValueError" "empty separator"
    let place := if method == "partition" then CodePoints.find? s text
      else (List.range most).reverse.find? fun k => s.isPrefixOf (text.drop k)
    return .tuple (match place with
      | some k => [text.take k, s, text.drop (k + s.length)]
      | none => if method == "partition" then [text, [], []] else [[], [], text])
  | "join" =>
    let items ← itemsOf ev g.first
    let parts ← items.zipIdx.mapM fun (v, k) => do
      match isBytes, ← plain v, ← bytes? v with
      | false, .text t, _ => return t
      | true, _, some b => return b.map UInt8.toNat
      | _, _, _ =>
        let kind ← kindName v
        let wanted := if isBytes then "a bytes-like object is required, not '" ++ kind ++ "'"
          else "expected str instance, " ++ kind ++ " found"
        fail "TypeError" s!"sequence item {k}: {wanted}"
    return .text (text.intercalate parts)
  | "replace" =>
    let limit ← limitOf ev (g.get 2 "count") (most + 1)
    return .text (CodePoints.replaced (← part g.first) (← part (g.at_ 1)) (most + 1) limit text)
  | "startswith" => return .value (.bool (← edgeMatches ev isBytes false text g))
  | "endswith" => return .value (.bool (← edgeMatches ev isBytes true text g))
  | "find" | "index" =>
    match (← placesOf ev isBytes text g).1 with
    | k :: _ => return .value (.ofNat k)
    | [] =>
      if method == "find" then return .value (.int (-1)) else fail "ValueError" "substring not found"
  | "rfind" | "rindex" =>
    match ← lastPlaceOf ev isBytes text g with
    | some k => return .value (.ofNat k)
    | none =>
      if method == "rfind" then return .value (.int (-1)) else fail "ValueError" "substring not found"
  | "count" => return .value (.ofNat (← placesOf ev isBytes text g).1.length)
  | "ljust" => return .text (← justified ev text '<' g isBytes)
  | "rjust" => return .text (← justified ev text '>' g isBytes)
  | "center" => return .text (← justified ev text '^' g isBytes)
  | "zfill" =>
    let missing := (← intOf ev g.first).toNat - text.length
    return .text (match text with
      | n :: rest =>
        if n = '-'.toNat ∨ n = '+'.toNat then n :: List.replicate missing 0x30 ++ rest
        else List.replicate missing 0x30 ++ text
      | [] => List.replicate missing 0x30)
  | "removeprefix" =>
    let p ← part g.first
    return .text (if p.isPrefixOf text then text.drop p.length else text)
  | "removesuffix" =>
    let p ← part g.first
    return .text (if p.isSuffixOf text then text.take (text.length - p.length) else text)
  | "expandtabs" =>
    return .text (CodePoints.expandTabs (← intOr ev (g.get 0 "tabsize") 8).toNat 0 text)
  | "isalpha" => test CodePoints.isLetter
  | "isdigit" | "isdecimal" | "isnumeric" => test CodePoints.isDigit
  | "isalnum" => test fun n => CodePoints.isLetter n || CodePoints.isDigit n
  | "isspace" => test CodePoints.isSpace
  | "isascii" => return .value (.bool (text.all fun n => decide (n < 0x80)))
  | "isupper" =>
    return .value (.bool (text.any CodePoints.isUpper && !text.any CodePoints.isLower))
  | "islower" =>
    return .value (.bool (text.any CodePoints.isLower && !text.any CodePoints.isUpper))
  | "istitle" =>
    return .value (.bool (text.any CodePoints.isCasedLetter && CodePoints.titled false text == text))
  | "isidentifier" => return .value (.bool (isIdentifier text))
  | "isprintable" =>
    return .value (.bool (text.all fun n =>
      !CodePoints.isHalf n && !Text.isUnprintable (CodePoints.charOf n)))
  | "encode" =>
    let (c, p) ← codingOf (g.get 0 "encoding") (g.get 1 "errors")
    return .value (.bytes (← encodeText c p text))
  | "decode" =>
    let (c, p) ← codingOf (g.get 0 "encoding") (g.get 1 "errors")
    return .value (.text (← decodeBytes c p (text.map UInt8.ofNat)))
  | "hex" =>
    let pairs := text.map (CodePoints.hexadecimal 2)
    let separator ← match g.first with
      | .none => pure []
      | v => do match ← plain v with
        | .text t => pure t
        | _ => pure []
    return .value (.text (separator.intercalate pairs))
  | "format" => return .text (← braceForm ev g none (2 * most + 100) 0 text).1
  | "format_map" => return .text (← braceForm ev {byPlace := []} (some g.first) (2 * most + 100) 0 text).1
  | "translate" =>
    if isBytes then return .text text
    else
      let parts ← text.mapM fun n => do
        let found ← try some <$> itemOf ev g.first (.ofNat n) catch raised =>
          if ← isRaised raised "LookupError" then pure none else throw raised
        match found with
        | none => return [n]
        | some .none => return []
        | some v =>
          match ← plain v with
          | .text t => return t
          | v => return (v.int?.map fun k => [k.toNat]).getD []
      return .text parts.flatten
  | "__mod__" => return .text (← percent ev isBytes text g.first)
  | m => fail "AttributeError" s!"no method {m}"

/-- The answer of a method as a value. -/
def TextAnswer.toValue (wrap : CodePoints → Value) (answer : TextAnswer) : Act Value := do
  match answer with
  | .text t => return wrap t
  | .list ts => makeList (ts.map wrap)
  | .tuple ts => return .tuple (ts.map wrap)
  | .value v => return v

/-- The table of a translation of texts. -/
def translationTable (g : Given) : Act Value := do
  match g.byPlace with
  | [table] =>
    let entries ← entriesOfTable table
    makeDict (entries.map fun e => match e.1 with
      | .text [n] => (.ofNat n, e.2)
      | k => (k, e.2))
  | source :: target :: more =>
    let source ← textArgument "argument" source
    let target ← textArgument "argument" target
    let gone ← match more with
      | v :: _ => textArgument "argument" v
      | [] => pure []
    if source.length != target.length then
      fail "ValueError" "the first two maketrans arguments must have equal length"
    let pairs := (source.zip target).map fun p => (Value.ofNat p.1, Value.ofNat p.2)
    makeDict ((pairs ++ gone.map fun n => (Value.ofNat n, Value.none)).foldl
      (fun es e => Entries.put e.1 e.2 es) [])
  | [] => fail "TypeError" "maketrans expected at least 1 argument, got 0"
where
  /-- The entries of a dictionary. -/
  entriesOfTable (v : Value) : Act Entries := do
    match ← dictOf? v with
    | some es => return es
    | none => fail "TypeError" "if you give only one argument to maketrans it must be a dict"

end Handover.Interpreter
