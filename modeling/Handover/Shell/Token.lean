/-
  The tokens of a script.

  A word goes on to the next blank or operator.  Quotes, backslashes and whatever starts with a
  dollar sign are taken apart as the word is read.  The text of a `<<` redirection begins on the
  line after it, so the texts that a line asks for are put in their places when the line is over.
-/
import Handover.Shell.Syntax

namespace Handover.Shell

/-- The smallest part of a script that a grammar speaks of. -/
inductive Token where
  | word (word : Word)
  /-- One of the operators between words. -/
  | operator (text : String)
  | redirection (redirection : Redirection)
  /-- A text of the script that is still to come. -/
  | awaited (stream : Nat)
  /-- A redirection without the word that it needs. -/
  | halfRedirection
  /-- The end of a line, and the line that comes next. -/
  | newline (next : Nat)
  /-- The rest of the script cannot be read. -/
  | fault (message : String)
deriving Repr

/-- Something that a line starts and a later line ends. -/
structure Awaited where
  ending : Chars
  /-- The text is taken as it is. -/
  quoted : Bool
  /-- Tabs before a line do not count. -/
  indented : Bool

/-! ## Characters -/

/-- A blank between words. -/
def isBlank (c : Char) : Bool := c == ' ' || c == '\t'

/-- A sign that ends a word. -/
def endsWord (c : Char) : Bool := isBlank c || "\n;&|()<>".toList.contains c

/-- A sign that a name may start with. -/
def startsName (c : Char) : Bool := c.isAlpha || c == '_'

/-- A sign within a name. -/
def isNameChar (c : Char) : Bool := startsName c || c.isDigit

/-- The name at the start of a text, and what follows it. -/
def splitName (cs : Chars) : Chars × Chars :=
  match cs with
  | c :: _ => if startsName c then (cs.takeWhile isNameChar, cs.dropWhile isNameChar) else ([], cs)
  | [] => ([], [])

/-- A sign that names a parameter of its own. -/
def isSpecial (c : Char) : Bool := "@*#?-$!".toList.contains c || c.isDigit

/-! ## Nested scripts -/

/-- What is open within a nested script. -/
inductive Nesting where
  | bracket
  /-- A choice, in which a bracket ends a pattern. -/
  | choice
  | quotes
  | singleQuotes
  | braces
  | comment
deriving Repr, DecidableEq

/-- The word stands at the start of a text, and ends there. -/
def startsWith (word : String) (cs : Chars) : Bool :=
  word.toList.isPrefixOf cs && (match cs.drop word.length with
    | [] => true
    | c :: _ => endsWord c)

/-- What is open after a sign, and whether a word may begin then; `none` if the sign closes the whole
    script.  `atWord` says that a word may begin with the sign. -/
def nestingAfter (atWord : Bool) (open_ : List Nesting) (c : Char) (rest : Chars) :
    Option (Bool × List Nesting) :=
  match open_ with
  | .singleQuotes :: above => some (false, if c = '\'' then above else open_)
  | .comment :: above => some (true, if c = '\n' then above else open_)
  | .quotes :: above =>
    if c = '"' then some (false, above)
    else if c = '(' ∧ atWord then some (true, .bracket :: open_)
    else if c = '\x7b' ∧ atWord then some (false, .braces :: open_)
    else some (c = '$', open_)
  | _ =>
    if c = '"' then some (false, .quotes :: open_)
    else if c = '\'' then some (false, .singleQuotes :: open_)
    else if c = '(' then some (true, .bracket :: open_)
    else if c = ')' then
      match open_ with
      | [] => none
      | .bracket :: above => some (false, above)
      | _ => some (true, open_)
    else if c = '\x7b' ∧ open_.head? = some .braces then some (false, .braces :: open_)
    else if c = '\x7d' ∧ open_.head? = some .braces then some (false, open_.tail)
    else if atWord ∧ startsWith "case" (c :: rest) then some (false, .choice :: open_)
    else if atWord ∧ startsWith "esac" (c :: rest) ∧ open_.head? = some .choice then
      some (false, open_.tail)
    else if atWord ∧ c = '#' then some (true, .comment :: open_)
    else some (endsWord c, open_)

/-- The text up to the bracket that closes it, and what follows.  Where there is none the answer is
    what is still open at the end. -/
def untilClosed : Bool → List Nesting → Chars → Except (List Nesting) (Chars × Chars)
  | _, open_, [] => .error open_
  | _, open_, [c] =>
    match nestingAfter false open_ c [] with
    | none => .ok ([], [])
    | some (_, open_) => .error open_
  | atWord, open_, c :: d :: rest =>
    if c = '\\' ∧ open_.head? ≠ some .singleQuotes ∧ open_.head? ≠ some .comment then
      (untilClosed false open_ rest).map fun r => (c :: d :: r.1, r.2)
    else if c = '$' ∧ d = '\x7b' ∧ open_.head? ≠ some .singleQuotes
        ∧ open_.head? ≠ some .comment then
      (untilClosed false (.braces :: open_) rest).map fun r => (c :: d :: r.1, r.2)
    else
      match nestingAfter atWord open_ c (d :: rest) with
      | none => .ok ([], d :: rest)
      | some (atWord, open_) =>
        (untilClosed atWord open_ (d :: rest)).map fun r => (c :: r.1, r.2)

/-- What is said of a script that nothing ends. -/
def unclosed (open_ : List Nesting) : String :=
  match open_.dropWhile (· == .braces), open_.head? with
  | .quotes :: _, _ | .singleQuotes :: _, _ => "Unterminated quoted string"
  | _, some .braces => "Missing \x27\x7d\x27"
  | _, _ => "end of file unexpected (expecting \")\")"

/-- The text up to the next backquote, and what follows. -/
def untilBackquote : Chars → Option (Chars × Chars)
  | [] => none
  | [c] => if c = '\x60' then some ([], []) else none
  | c :: d :: rest =>
    if c = '\x60' then some ([], d :: rest)
    else if c = '\\' ∧ (d = '$' ∨ d = '\x60' ∨ d = '\\') then
      (untilBackquote rest).map fun r => (d :: r.1, r.2)
    else (untilBackquote (d :: rest)).map fun r => (c :: r.1, r.2)

/-! ## Words -/

/-- Where the pieces of a word are read. -/
inductive Place where
  /-- Between blanks and operators. -/
  | bare
  /-- Between double quotes. -/
  | quotes
  /-- In the braces of a parameter. -/
  | braces (quoted : Bool)
  /-- In a text of the script. -/
  | hereText
deriving Repr, DecidableEq

namespace Place

/-- What is read is neither split nor a pattern. -/
def isQuoted : Place → Bool
  | .bare => false
  | .quotes | .hereText => true
  | .braces quoted => quoted

/-- The sign stands for itself. -/
def isPlain (p : Place) (c : Char) : Bool :=
  match p with
  | .bare => !endsWord c && !"\\'\"$\x60".toList.contains c
  | .quotes => !"\\\"$\x60".toList.contains c
  | .braces true => !"\\\"$\x60\x7d".toList.contains c
  | .braces false => !"\\'\"$\x60\x7d".toList.contains c
  | .hereText => !"\\$\x60".toList.contains c

/-- A backslash takes the meaning of the sign. -/
def escapes (p : Place) (c : Char) : Bool :=
  match p with
  | .bare | .braces false => true
  | .quotes => "$\x60\"\\\n".toList.contains c
  | .braces true => "$\x60\"\\\n\x7d".toList.contains c
  | .hereText => "$\x60\\\n".toList.contains c

end Place

/-- The use that the signs after a parameter's name ask for, and what follows them. -/
def splitUse : Chars → Option (Use × Chars)
  | ':' :: '-' :: rest => some (.default true, rest)
  | ':' :: '=' :: rest => some (.assign true, rest)
  | ':' :: '+' :: rest => some (.alternative true, rest)
  | ':' :: '?' :: rest => some (.demand true, rest)
  | '-' :: rest => some (.default false, rest)
  | '=' :: rest => some (.assign false, rest)
  | '+' :: rest => some (.alternative false, rest)
  | '?' :: rest => some (.demand false, rest)
  | '#' :: '#' :: rest => some (.dropStart true, rest)
  | '#' :: rest => some (.dropStart false, rest)
  | '%' :: '%' :: rest => some (.dropEnd true, rest)
  | '%' :: rest => some (.dropEnd false, rest)
  | _ => none

/-- The name of a parameter at the start of a text, and what follows it. -/
def splitParameter (cs : Chars) : Option (Chars × Chars) :=
  match splitName cs with
  | ([], c :: rest) =>
    if c.isDigit then some ((c :: rest).takeWhile Char.isDigit, (c :: rest).dropWhile Char.isDigit)
    else if isSpecial c then some ([c], rest)
    else none
  | ([], []) => none
  | (name, rest) => some (name, rest)

/-- Why a text cannot be read as a word, and what follows the place where that shows. -/
structure Misreading where
  message : String
  rest : Chars

/-- What is said of a quote that nothing ends. -/
def unterminatedQuote : String := "Unterminated quoted string"

/-- What is said of a parameter that nothing ends. -/
def missingBrace : String := "Missing \x27\x7d\x27"

/-- Where the word after a parameter is read.  Patterns are read as if they stood alone. -/
def Place.ofUse (place : Place) : Use → Place
  | .dropStart _ | .dropEnd _ => .braces false
  | _ => .braces place.isQuoted

/-- The pieces between double quotes.  They make a field even if nothing is in it, unless they are
    nothing but all parameters. -/
def quotedPieces (inside : Word) : Word :=
  match inside with
  | [.parameter _ ['@'] .plain _] => inside
  | inside => .text true [] :: inside

/-- Read pieces of a word up to the end of their place, which is read too where it is a sign of
    its own.  `last` is the line on which the text ends. -/
def pieces (last : Nat) : Nat → Place → Chars → Except Misreading (Word × Chars)
  | 0, _, _ => .error ⟨unterminatedQuote, []⟩
  | fuel + 1, place, cs =>
    let bad := fun (rest : Chars) => do
      -- A line that ends right here is not counted.
      let uncounted := (rest.take 2).filter (· == '\n')
      let (_, after) ← (pieces last fuel (.braces place.isQuoted) rest).mapError fun misreading =>
        if misreading.rest.isEmpty then { misreading with rest := uncounted.take 1 }
        else misreading
      let (more, after) ← pieces last fuel place after
      return (.bad :: more, after)
    match cs with
    | [] =>
      match place with
      | .bare | .hereText => .ok ([], [])
      | .quotes | .braces true => .error ⟨unterminatedQuote, []⟩
      | .braces false => .error ⟨missingBrace, []⟩
    | c :: rest =>
      if place.isPlain c then do
        let (more, rest) ← pieces last fuel place (cs.dropWhile place.isPlain)
        return (.text place.isQuoted (cs.takeWhile place.isPlain) :: more, rest)
      else if c = '\\' then
        match rest with
        | [] => return ([.text false ['\\']], [])
        | d :: rest =>
          if place.escapes d then do
            let (more, rest) ← pieces last fuel place rest
            return (if d = '\n' then more else .text true [d] :: more, rest)
          else do
            let (more, rest) ← pieces last fuel place (d :: rest)
            return (.text true ['\\'] :: more, rest)
      else if c = '$' then
        match rest with
        | '(' :: '(' :: rest =>
          match untilClosed false [] rest with
          | .ok (formula, ')' :: rest) => do
            let (more, rest) ← pieces last fuel place rest
            return (.calculation place.isQuoted formula :: more, rest)
          | _ => .error ⟨"Missing '))'", []⟩
        | '(' :: rest =>
          match untilClosed true [] rest with
          | .error open_ => .error ⟨unclosed open_, []⟩
          | .ok (script, after) => do
            let (more, left) ← pieces last fuel place after
            return (.output place.isQuoted true (last - rest.count '\n') script :: more, left)
        | '\x7b' :: '#' :: rest =>
          match splitParameter rest with
          | some (name, '\x7d' :: rest) => do
            let (more, rest) ← pieces last fuel place rest
            return (.parameter place.isQuoted name .length [] :: more, rest)
          | _ =>
            match rest with
            | '\x7d' :: rest => do
              let (more, rest) ← pieces last fuel place rest
              return (.parameter place.isQuoted ['#'] .plain [] :: more, rest)
            | rest =>
              match splitUse rest with
              | none => bad rest
              | some (use, rest) => do
                let (word, rest) ← pieces last fuel (place.ofUse use) rest
                let (more, rest) ← pieces last fuel place rest
                return (.parameter place.isQuoted ['#'] use word :: more, rest)
        | '\x7b' :: rest =>
          match splitParameter rest with
          | none => bad rest
          | some (name, '\x7d' :: rest) => do
            let (more, rest) ← pieces last fuel place rest
            return (.parameter place.isQuoted name .plain [] :: more, rest)
          | some (name, rest) =>
            match splitUse rest with
            | none => bad rest
            | some (use, rest) => do
              let (word, rest) ← pieces last fuel (place.ofUse use) rest
              let (more, rest) ← pieces last fuel place rest
              return (.parameter place.isQuoted name use word :: more, rest)
        | d :: after =>
          let (name, rest) :=
            if startsName d then splitName (d :: after)
            else if isSpecial d then ([d], after)
            else ([], d :: after)
          do
            let (more, rest) ← pieces last fuel place rest
            return (if name = [] then .text place.isQuoted ['$'] :: more
              else .parameter place.isQuoted name .plain [] :: more, rest)
        | [] => do
          let (more, rest) ← pieces last fuel place []
          return (.text place.isQuoted ['$'] :: more, rest)
      else if c = '\x60' then
        match untilBackquote rest with
        | none => .error ⟨"EOF in backquote substitution", []⟩
        | some (script, rest) => do
          let (more, rest) ← pieces last fuel place rest
          return (.output place.isQuoted false 1 script :: more, rest)
      else if c = '"' then
        if place = .quotes then .ok ([], rest)
        else do
          let (inside, rest) ← pieces last fuel .quotes rest
          let (more, rest) ← pieces last fuel place rest
          return (quotedPieces inside ++ more, rest)
      else if c = '\'' then
        match rest.dropWhile (· != '\'') with
        | [] => .error ⟨unterminatedQuote, []⟩
        | _ :: after => do
          let (more, after) ← pieces last fuel place after
          return (.text true (rest.takeWhile (· != '\'')) :: more, after)
      else if c = '\x7d' ∧ place ≠ .bare then .ok ([], rest)
      else .ok ([], cs)

/-- Read one word. -/
def readWord (last : Nat) (cs : Chars) : Except Misreading (Word × Chars) :=
  pieces last (2 * cs.length + 2) .bare cs

/-- The text of a word whose signs all stand for themselves once the quotes are taken away, and
    whether some of them were quoted. -/
def endingOf (word : Word) : Chars × Bool :=
  (word.flatMap fun
    | .text _ chars => chars
    | .parameter _ name _ _ => '$' :: name
    | .output _ _ _ script | .calculation _ script => script
    | .bad => [],
  word.any fun
    | .text quoted _ => quoted
    | _ => false)

/-! ## Texts of the script -/

/-- The first line of a text without its end, and the lines after it. -/
def splitLine (cs : Chars) : Chars × Chars :=
  (cs.takeWhile (· != '\n'), (cs.dropWhile (· != '\n')).drop 1)

/-- The lines up to the ending, and what follows it. -/
def untilEnding (a : Awaited) : Nat → Chars → Chars × Chars
  | 0, cs => (cs, [])
  | fuel + 1, cs =>
    if cs.isEmpty then ([], [])
    else
      let (line, rest) := splitLine cs
      let line := if a.indented then line.dropWhile (· == '\t') else line
      if line = a.ending then ([], rest)
      else
        let complete := cs.any (· == '\n')
        let (body, rest) := untilEnding a fuel rest
        (line ++ (if complete then ['\n'] else []) ++ body, rest)

/-- The words of the texts that are awaited, and what follows them. -/
def readTexts (last : Nat) : List Awaited → Chars → Except Misreading (List Word × Chars)
  | [], cs => .ok ([], cs)
  | a :: rest, cs => do
    let (body, cs) := untilEnding a (cs.length + 1) cs
    let word ←
      if a.quoted then .ok [.text true body]
      else
        let read := pieces (last - cs.count '\n' - 1) (2 * body.length + 2) .hereText body
        (read.map Prod.fst).mapError fun misreading =>
          if misreading.message = unterminatedQuote then { misreading with message := missingBrace }
          else misreading
    let (words, cs) ← readTexts last rest cs
    return (word :: words, cs)

/-- Put texts in the places that await them. -/
def fillTexts : List (Nat × Token) → List Word → List (Nat × Token)
  | (line, .awaited stream) :: rest, word :: words =>
    (line, .redirection (.hereText stream word)) :: fillTexts rest words
  | token :: rest, words => token :: fillTexts rest words
  | [], _ => []

/-! ## The tokens -/

/-- The operators, the longest first. -/
def operators : List Chars :=
  ["&&", "||", ";;", ";", "&", "|", "(", ")"].map String.toList

/-- The redirection signs, the longest first. -/
def redirectionSigns : List Chars :=
  ["<<-", "<<", "<>", ">>", "<&", ">&", ">|", "<", ">"].map String.toList

/-- The first of some signs that a text starts with, and what follows it. -/
def splitSign (signs : List Chars) (cs : Chars) : Option (Chars × Chars) :=
  (signs.find? fun sign => sign.isPrefixOf cs).map fun sign => (sign, cs.drop sign.length)

/-- A stream's number before a redirection, and the redirection's sign. -/
def splitRedirection (cs : Chars) : Option (Nat × Chars × Chars) :=
  let digits := (cs.take 1).filter Char.isDigit
  match splitSign redirectionSigns (cs.drop digits.length) with
  | none => none
  | some (sign, rest) =>
    let usual := if sign.head? = some '<' then 0 else 1
    some ((if digits.isEmpty then usual else (String.ofList digits).toNat?.getD usual), sign, rest)

/-- The redirection of a sign and a word. -/
def redirectionOf (stream : Nat) (sign : Chars) (word : Word) : Redirection :=
  match sign with
  | ['<'] => .fromFile stream word
  | ['<', '>'] => .toFile stream .andReading word
  | ['>', '>'] => .toFile stream .behind word
  | ['>', '|'] => .toFile stream .anewInAnyCase word
  | ['<', '&'] | ['>', '&'] => .same stream word
  | _ => .toFile stream .anew word

/-- The tokens of a text that starts on a given line; `done` are those of the line so far, the last
    of them first, and `awaited` the texts that the line asks for. -/
def tokensFrom (last : Nat) :
    Nat → Nat → List (Nat × Token) → List Awaited → Chars → List (Nat × Token)
  | 0, line, done, _, _ => done.reverse ++ [(line, .fault unterminatedQuote)]
  | fuel + 1, line, done, awaited, cs =>
    let wrong := fun (misreading : Misreading) =>
      fillTexts done.reverse (awaited.map fun _ => []) ++ [(last - misreading.rest.count '\n', Token.fault misreading.message)]
    match cs with
    | [] =>
      fillTexts done.reverse (awaited.map fun _ => [])
    | c :: rest =>
      if isBlank c then tokensFrom last fuel line done awaited rest
      else if c = '\\' ∧ rest.head? = some '\n' then
        tokensFrom last fuel (line + 1) done awaited (rest.drop 1)
      else if c = '#' then tokensFrom last fuel line done awaited (rest.dropWhile (· != '\n'))
      else if c = '\n' then
        match readTexts last awaited rest with
        | .error misreading => wrong misreading
        | .ok (words, after) =>
          let lines := 1 + (rest.count '\n' - after.count '\n')
          fillTexts done.reverse words
            ++ (line, .newline (line + lines)) :: tokensFrom last fuel (line + lines) [] [] after
      else
        match splitRedirection cs with
        | some (stream, sign, rest) =>
          match readWord last (rest.dropWhile isBlank) with
          | .error misreading => wrong misreading
          | .ok (word, after) =>
            if word.isEmpty then
              tokensFrom last fuel line ((line, .halfRedirection) :: done) awaited after
            else if sign.take 2 = ['<', '<'] then
              let (ending, quoted) := endingOf word
              tokensFrom last fuel line ((line, .awaited stream) :: done)
                (awaited ++ [⟨ending, quoted, sign.length == 3⟩]) after
            else
              tokensFrom last fuel line ((line, .redirection (redirectionOf stream sign word)) :: done)
                awaited after
        | none =>
          match splitSign operators cs with
          | some (sign, rest) =>
            tokensFrom last fuel line ((line, .operator (String.ofList sign)) :: done) awaited rest
          | none =>
            match readWord last cs with
            | .error misreading => wrong misreading
            | .ok (word, after) =>
              tokensFrom last fuel (line + (cs.count '\n' - after.count '\n'))
                ((line, .word word) :: done) awaited after

/-- The tokens of a script that begins on a line, each with the line that it starts on. -/
def tokens (first : Nat) (script : Chars) : List (Nat × Token) :=
  tokensFrom (first + script.count '\n') (script.length + 1) first [] [] script

end Handover.Shell
