/-
  The commands of a script.

  Tokens are read one complete command at a time, because a script is run as it is read: a mistake
  further down does not keep what stands above it from being run.
-/
import Handover.Shell.Token

namespace Handover.Shell

/-- A place where a script cannot be read on, by its line, and why. -/
structure SyntaxFault where
  line : Nat
  message : String
deriving Repr, DecidableEq

/-- Tokens that are still to be read. -/
abbrev Tokens := List (Nat × Token)

/-- What a reader of tokens knows of the script. -/
structure Reading where
  /-- The line on which the script ends. -/
  last : Nat
  /-- Words that stand for other texts where a command begins. -/
  aliases : List (Chars × Chars)
  /-- What comes behind the script, in words. -/
  ending : String := "end of file"

namespace Parser

/-- The words that are part of the grammar. -/
def keywords : List String :=
  ["if", "then", "else", "elif", "fi", "do", "done", "case", "esac", "while", "until", "for", "in",
   "\x7b", "\x7d", "!"]

/-- The word is part of the grammar. -/
def isKeyword (word : Word) : Bool :=
  word.bare?.any fun chars => keywords.contains (String.ofList chars)

/-- A token in a message. -/
def describe : Token → String
  | .word word =>
    if isKeyword word then "\"" ++ String.ofList (word.bare?.getD []) ++ "\"" else "word"
  | .operator text => "\"" ++ text ++ "\""
  | .redirection _ | .awaited _ | .halfRedirection => "redirection"
  | .newline _ => "newline"
  | .fault message => message

/-- The fault of a token that does not belong where it is. -/
def unexpected {α : Type} (r : Reading) : Tokens → Except SyntaxFault α
  | [] => .error ⟨r.last, r.ending ++ " unexpected"⟩
  | (_, .halfRedirection) :: rest => unexpected r rest
  | (line, .fault message) :: _ => .error ⟨line, message⟩
  | (line, .newline _) :: _ => .error ⟨line + 1, "newline unexpected"⟩
  | (line, token) :: _ => .error ⟨line, describe token ++ " unexpected"⟩

/-- The token that comes next is this operator. -/
def atOperator (text : String) : Tokens → Bool
  | (_, .operator t) :: _ => t == text
  | _ => false

/-- The token that comes next is this word. -/
def atKeyword (keyword : String) : Tokens → Bool
  | (_, .word word) :: _ => word.bare? == some keyword.toList
  | _ => false

/-- The token that comes next is one of these words. -/
def atKeywords (keywords : List String) (ts : Tokens) : Bool := keywords.any fun k => atKeyword k ts

/-- The tokens after any line ends. -/
def skipNewlines : Tokens → Tokens
  | (_, .newline _) :: rest => skipNewlines rest
  | ts => ts

/-- The fault of a token that is not the one that must be there. -/
def notExpected {α : Type} (r : Reading) (expected : String) (ts : Tokens) : Except SyntaxFault α :=
  match ts with
  | (line, .fault message) :: _ => .error ⟨line, message⟩
  | (_, .halfRedirection) :: _ => unexpected r ts
  | ts =>
    (unexpected r ts).mapError fun fault =>
      { fault with message := fault.message ++ " (expecting " ++ expected ++ ")" }

/-- Read one word that must be there. -/
def expectKeyword (r : Reading) (keyword : String) (ts : Tokens) : Except SyntaxFault Tokens :=
  if atKeyword keyword ts then .ok (ts.drop 1)
  else notExpected r ("\"" ++ keyword ++ "\"") ts

/-- Read one operator that must be there. -/
def expectOperator (r : Reading) (text : String) (ts : Tokens) : Except SyntaxFault Tokens :=
  if atOperator text ts then .ok (ts.drop 1)
  else notExpected r ("\"" ++ text ++ "\"") ts

/-- The words that end a list of commands. -/
def listEnds : List String := ["then", "else", "elif", "fi", "do", "done", "esac", "\x7d"]

/-- The list of commands is over. -/
def atListEnd (ts : Tokens) : Bool :=
  ts.isEmpty || atOperator ")" ts || atOperator ";;" ts || atKeywords listEnds ts

/-- The assignment that a word is: its name and its value. -/
def assignment? : Word → Option (Chars × Word)
  | .text false chars :: rest =>
    match splitName chars with
    | ([], _) => none
    | (name, '=' :: value) =>
      some (name, if value.isEmpty then rest else .text false value :: rest)
    | _ => none
  | _ => none

/-- Redirections that follow a command. -/
def redirections : Tokens → List Redirection × Tokens
  | (_, .redirection dest) :: rest => ((dest :: (redirections rest).1), (redirections rest).2)
  | ts => ([], ts)

/-- The words of a list, up to its end. -/
def wordList : Tokens → List Word × Tokens
  | (_, .word w) :: rest => ((w :: (wordList rest).1), (wordList rest).2)
  | ts => ([], ts)

/-- The words and redirections of a simple command. -/
def simpleParts : Tokens → List (Chars × Word) × List Word × List Redirection × Tokens
  | (_, .word w) :: rest =>
    match assignment? w with
    | some a => let (as, ws, rs, rest) := simpleParts rest; (a :: as, ws, rs, rest)
    | none =>
      let (ws, rs, rest) := wordsAndRedirections ((0, .word w) :: rest)
      ([], ws, rs, rest)
  | (_, .redirection r) :: rest =>
    let (as, ws, rs, rest) := simpleParts rest
    (as, ws, r :: rs, rest)
  | ts => ([], [], [], ts)
where
  /-- The words and redirections after the first word. -/
  wordsAndRedirections : Tokens → List Word × List Redirection × Tokens
    | (_, .word w) :: rest =>
      let (ws, rs, rest) := wordsAndRedirections rest
      (w :: ws, rs, rest)
    | (_, .redirection r) :: rest =>
      let (ws, rs, rest) := wordsAndRedirections rest
      (ws, r :: rs, rest)
    | ts => ([], [], ts)

/-- The separator between commands, if there is one: whether the shell waits for the command before
    it, and what follows. -/
def separator (ts : Tokens) : Option (Bool × Tokens) :=
  match ts with
  | (_, .operator ";") :: rest | (_, .newline _) :: rest => some (true, skipNewlines rest)
  | (_, .operator "&") :: rest => some (false, skipNewlines rest)
  | _ => none

/-- A command that the shell waits for, or does not wait for. -/
def awaitedForm (waits : Bool) (form : Form) : Form := if waits then form else .background form

/-! ## Words for other texts -/

/-- The tokens with a word at their start replaced by the text that it stands for, and those of the
    words behind it that this text asks for.  `used` are the words that do not stand for anything any
    more. -/
def withoutAliases (r : Reading) : Nat → List Chars → Tokens → Tokens
  | 0, _, ts => ts
  | fuel + 1, used, ts =>
    match ts with
    | (line, .word word) :: rest =>
      match word.bare?.filter fun _ => !(used.isEmpty && isKeyword word) with
      | none => ts
      | some name =>
        match (r.aliases.find? fun a => a.1 == name && !used.contains name).map Prod.snd with
        | none => ts
        | some text =>
          let made := ((tokens line text).filter fun t => match t.2 with
            | .newline _ => false
            | _ => true).map fun t => (line, t.2)
          let rest := if text.getLast?.any isBlank then withoutAliases r fuel used rest else rest
          withoutAliases r fuel (name :: used) (made ++ rest)
    | ts => ts

/-- How often a word may be replaced. -/
def mostAliases : Nat := 100

/-- The tokens with other texts put in where a command begins behind assignments and redirections. -/
def commandInPlace (r : Reading) : Tokens → Tokens
  | (line, .redirection dest) :: rest => (line, .redirection dest) :: behind rest
  | (line, .word w) :: rest =>
    if (assignment? w).isSome then (line, .word w) :: behind rest else (line, .word w) :: rest
  | ts => ts
where
  /-- The same behind one of them. -/
  behind : Tokens → Tokens
    | (line, .redirection dest) :: rest => (line, .redirection dest) :: behind rest
    | (line, .word w) :: rest =>
      if (assignment? w).isSome then (line, .word w) :: behind rest
      else withoutAliases r mostAliases [] ((line, .word w) :: rest)
    | ts => ts

/-- The patterns of an arm, up to the bracket that ends them. -/
def armPatterns (r : Reading) : Tokens → Except SyntaxFault (List Word × Tokens)
  | (_, pattern) :: (_, .operator "|") :: rest => do
    let (ws, rest) ← armPatterns r rest
    return (patternOf pattern ++ ws, rest)
  | (_, pattern) :: (_, .operator ")") :: rest => .ok (patternOf pattern, rest)
  | (line, .fault message) :: _ => .error ⟨line, message⟩
  | _ :: (line, .word _) :: _ => .error ⟨line, "word unexpected (expecting \")\")"⟩
  | ts => notExpected r "\")\"" (ts.drop 1)
where
  /-- The pattern that a token is. -/
  patternOf : Token → List Word
    | .word w => [w]
    | _ => []

/-- What is said of a name that no loop can set. -/
def badVariable : String := "Bad for loop variable"

mutual

/-- A list of commands up to something that cannot go on with it.  `mayBeEmpty` says that it need not
    hold any command. -/
def list (r : Reading) : Nat → Bool → Tokens → Except SyntaxFault (Form × Tokens)
  | 0, _, ts => unexpected r ts
  | fuel + 1, mayBeEmpty, ts => do
    let ts := skipNewlines ts
    if ts.isEmpty || mayBeEmpty && atListEnd ts then return (.nothing, ts)
    let (first, ts) ← andOr r fuel ts
    match separator ts with
    | some (waits, ts) =>
      let first := awaitedForm waits first
      match ← list r fuel true ts with
      | (.nothing, ts) => return (first, ts)
      | (rest, ts) => return (.sequence first rest, ts)
    | none => return (first, ts)

/-- Pipelines joined by `&&` and `||`. -/
def andOr (r : Reading) : Nat → Tokens → Except SyntaxFault (Form × Tokens)
  | 0, ts => unexpected r ts
  | fuel + 1, ts => do
    let (first, ts) ← pipeline r fuel ts
    andOrRest r fuel first ts

/-- What follows a pipeline in a list joined by `&&` and `||`. -/
def andOrRest (r : Reading) : Nat → Form → Tokens → Except SyntaxFault (Form × Tokens)
  | 0, _, ts => unexpected r ts
  | fuel + 1, first, ts => do
    if atOperator "&&" ts then
      let (second, ts) ← pipeline r fuel (skipNewlines (ts.drop 1))
      andOrRest r fuel (.andThen first second) ts
    else if atOperator "||" ts then
      let (second, ts) ← pipeline r fuel (skipNewlines (ts.drop 1))
      andOrRest r fuel (.orElse first second) ts
    else return (first, ts)

/-- Commands joined by `|`, possibly after `!`. -/
def pipeline (r : Reading) : Nat → Tokens → Except SyntaxFault (Form × Tokens)
  | 0, ts => unexpected r ts
  | fuel + 1, ts => do
    if atKeyword "!" ts then
      let (form, ts) ← joined r fuel (ts.drop 1)
      return (.negated form, ts)
    else joined r fuel ts

/-- Commands joined by `|`. -/
def joined (r : Reading) : Nat → Tokens → Except SyntaxFault (Form × Tokens)
  | 0, ts => unexpected r ts
  | fuel + 1, ts => do
    let (first, ts) ← command r fuel ts
    if atOperator "|" ts then
      let (second, ts) ← joined r fuel (skipNewlines (ts.drop 1))
      return (.pipe first second, ts)
    else return (first, ts)

/-- One command with its redirections. -/
def command (r : Reading) : Nat → Tokens → Except SyntaxFault (Form × Tokens)
  | 0, ts => unexpected r ts
  | fuel + 1, ts => do
    let ts := withoutAliases r mostAliases [] ts
    let line := (ts.head?.map Prod.fst).getD r.last
    let (form, ts, isCompound) ←
      if atKeyword "\x7b" ts then do
        let (body, ts) ← list r fuel false (ts.drop 1)
        let ts ← expectKeyword r "\x7d" ts
        pure (body, ts, true)
      else if atOperator "(" ts then do
        let (body, ts) ← list r fuel false (ts.drop 1)
        let ts ← expectOperator r ")" ts
        pure (Form.subshell line body, ts, true)
      else if atKeyword "if" ts then do
        let (form, ts) ← conditional r fuel (ts.drop 1)
        pure (form, ts, true)
      else if atKeywords ["while", "until"] ts then do
        let (condition, rest) ← list r fuel false (ts.drop 1)
        let rest ← expectKeyword r "do" rest
        let (body, rest) ← list r fuel false rest
        let rest ← expectKeyword r "done" rest
        pure (Form.loop (atKeyword "while" ts) condition body, rest, true)
      else if atKeyword "for" ts then do
        let (form, ts) ← forLoop r fuel (ts.drop 1)
        pure (form, ts, true)
      else if atKeyword "case" ts then
        match ts.drop 1 with
        | (_, .word word) :: rest => do
          let rest ← expectKeyword r "in" (skipNewlines rest)
          let (arms, rest) ← arms r fuel (skipNewlines rest)
          pure (Form.caseOf line word arms, rest, true)
        | ts => notExpected r "word" ts
      else
        match ts with
        | (_, .word word) :: (_, .operator "(") :: rest =>
          if isKeyword word then unexpected r ts
          else if (assignment? word).isSome then unexpected r (ts.drop 1)
          else
            let rest ← expectOperator r ")" rest
            let name := word.bare?.getD []
            if (splitName name).2 ≠ [] ∨ name = [] ∨ specialCommands.contains (String.ofList name) then
              throw ⟨line, "Bad function name"⟩
            let (body, rest) ← command r fuel (skipNewlines rest)
            pure (Form.define line name body, rest, false)
        | (line, .word word) :: _ =>
          if isKeyword word then unexpected r ts
          else
            let (as, ws, rs, rest) := simpleParts (commandInPlace r ts)
            pure (Form.simple line as ws rs, rest, false)
        | (line, .redirection _) :: _ =>
          let (as, ws, rs, rest) := simpleParts (commandInPlace r ts)
          pure (Form.simple line as ws rs, rest, false)
        | _ => unexpected r ts
    if isCompound then
      let (rs, ts) := redirections ts
      return (if rs.isEmpty then form else .redirected line form rs, ts)
    else return (form, ts)

/-- What follows `if` or `elif`. -/
def conditional (r : Reading) : Nat → Tokens → Except SyntaxFault (Form × Tokens)
  | 0, ts => unexpected r ts
  | fuel + 1, ts => do
    let (condition, ts) ← list r fuel false ts
    let ts ← expectKeyword r "then" ts
    let (yes, ts) ← list r fuel false ts
    if atKeyword "elif" ts then
      let (no, ts) ← conditional r fuel (ts.drop 1)
      return (.ifThen condition yes no, ts)
    else if atKeyword "else" ts then
      let (no, ts) ← list r fuel false (ts.drop 1)
      let ts ← expectKeyword r "fi" ts
      return (.ifThen condition yes no, ts)
    else
      let ts ← expectKeyword r "fi" ts
      return (.ifThen condition yes .nothing, ts)

/-- What follows `for`. -/
def forLoop (r : Reading) : Nat → Tokens → Except SyntaxFault (Form × Tokens)
  | 0, ts => unexpected r ts
  | fuel + 1, ts => do
    let (line, name, rest) ← match ts with
      | (line, .word word) :: rest =>
        match word.bare? with
        | some name =>
          if name = [] ∨ (splitName name).2 ≠ [] then .error ⟨line, badVariable⟩
          else .ok (line, name, rest)
        | none => .error ⟨line, badVariable⟩
      | (line, .fault message) :: _ => .error ⟨line, message⟩
      | (line, .newline _) :: _ => .error ⟨line + 1, badVariable⟩
      | (line, _) :: _ => .error ⟨line, badVariable⟩
      | [] => .error ⟨r.last, badVariable⟩
    let rest := skipNewlines rest
    let (words, rest) ←
      if atKeyword "in" rest then
        let (ws, rest) := wordList (rest.drop 1)
        match rest with
        | (_, .operator ";") :: rest | (_, .newline _) :: rest => pure (some ws, rest)
        | rest => unexpected r rest
      else pure (none, if atOperator ";" rest then rest.drop 1 else rest)
    let rest ← expectKeyword r "do" (skipNewlines rest)
    let (body, rest) ← list r fuel false rest
    let rest ← expectKeyword r "done" rest
    return (.forEach line name words body, rest)

/-- The arms of a choice, and the word that ends it. -/
def arms (r : Reading) : Nat → Tokens → Except SyntaxFault (List (List Word × Form) × Tokens)
  | 0, ts => unexpected r ts
  | fuel + 1, ts => do
    if atKeyword "esac" ts then return ([], ts.drop 1)
    let ts := if atOperator "(" ts then ts.drop 1 else ts
    let (patterns, ts) ← armPatterns r ts
    let (body, ts) ← list r fuel true ts
    let ts := skipNewlines ts
    if atOperator ";;" ts then
      let (more, ts) ← arms r fuel (skipNewlines (ts.drop 1))
      return ((patterns, body) :: more, ts)
    else if atKeyword "esac" ts then return ([(patterns, body)], ts.drop 1)
    else notExpected r "\";;\"" ts

end

/-- The commands up to the end of the line, the line that comes next, and the tokens after it. -/
def lineOf (r : Reading) : Nat → Tokens → Except SyntaxFault (Form × Nat × Tokens)
  | 0, ts => unexpected r ts
  | fuel + 1, ts => do
    let (first, ts) ← andOr r fuel ts
    match ts with
    | [] => return (first, r.last + 1, [])
    | (_, .newline next) :: rest => return (first, next, rest)
    | (_, .operator ";") :: rest => further fuel first rest
    | (_, .operator "&") :: rest => further fuel (.background first) rest
    | ts => unexpected r ts
where
  /-- What comes behind a command on its line. -/
  further (fuel : Nat) (first : Form) :
      Tokens → Except SyntaxFault (Form × Nat × Tokens)
    | [] => return (first, r.last + 1, [])
    | (_, .newline next) :: rest => return (first, next, rest)
    | rest => do
      let (second, next, ts) ← lineOf r fuel rest
      return (.sequence first second, next, ts)

/-! ## Scripts within words -/

/-- A script within a word. -/
structure Inner where
  line : Nat
  text : Chars
  inBrackets : Bool

mutual

/-- The scripts within a piece. -/
def innerOfPiece : Piece → List Inner
  | .output _ inBrackets line text => [⟨line, text, inBrackets⟩]
  | .parameter _ _ _ word => innerOf word
  | _ => []

/-- The scripts within a word. -/
def innerOf : List Piece → List Inner
  | [] => []
  | piece :: rest => innerOfPiece piece ++ innerOf rest

end

/-- The scripts within a token. -/
def innerOfToken : Token → List Inner
  | .word word => innerOf word
  | .redirection (.fromFile _ word) | .redirection (.toFile _ _ word)
  | .redirection (.same _ word) | .redirection (.hereText _ word) => innerOf word
  | _ => []

/-- The first mistake in the scripts within some tokens. -/
def innerFault (r : Reading) : Nat → Tokens → Option SyntaxFault
  | 0, _ => none
  | fuel + 1, ts =>
    (ts.flatMap fun t => innerOfToken t.2).findSome? fun inner =>
      let ts := tokens inner.line inner.text
      let r : Reading :=
        { last := inner.line + inner.text.count '\n', aliases := r.aliases
          ending := if inner.inBrackets then "\")\"" else "end of file" }
      let read := do
        let (_, rest) ← list r (fuelFor ts) true ts
        if rest.isEmpty then return () else notExpected r "\")\"" rest
      match read with
      | .error fault => some fault
      | .ok () => innerFault r fuel ts
where
  /-- How far a list of tokens can be read. -/
  fuelFor (ts : Tokens) : Nat := 8 * ts.length + 800

/-- How deep scripts are looked into that stand within each other. -/
def deepestInner : Nat := 40

end Parser

/-- The next complete command, if there is one, the line that comes after it, and the tokens after
    it. -/
def nextForm (r : Reading) (ts : Tokens) : Option (Except SyntaxFault (Form × Nat × Tokens)) :=
  match Parser.skipNewlines ts with
  | [] => none
  | ts =>
    some <| match Parser.lineOf r (Parser.innerFault.fuelFor ts) ts with
      | .error fault => .error fault
      | .ok (form, next, rest) =>
        match Parser.innerFault r Parser.deepestInner (ts.take (ts.length - rest.length)) with
        | some fault => .error fault
        | none => .ok (form, next, rest)

end Handover.Shell
