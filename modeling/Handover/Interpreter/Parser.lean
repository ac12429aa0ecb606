/-
  Reading a program.

  The rules of the grammar refer to one another in every direction.  Each rule is therefore written
  over a record `Rules` of the rules that it may use, and `rules` closes the circle: a rule that
  has `n + 1` steps left uses rules that have `n`.  No rule is used more than a bounded number of
  times between two tokens, so the length of the source bounds the steps.

  While it is read, a piece of code collects the names that it gives values to, and a `yield` is
  taken out of the expression around it.
-/
import Handover.Interpreter.Syntax
import Handover.Interpreter.Token

namespace Handover.Interpreter.Parser

/-! ## What is known while reading -/

/-- A piece of code that is being read. -/
structure Scope where
  names : Names := {}
  /-- It is a loop inside an expression. -/
  isInner : Bool := false

/-- What is known while a program is read. -/
structure State where
  tokens : List Token
  /-- The pieces of code around this place, the innermost first. -/
  scopes : List Scope
  /-- The values that are handed out by the statement being read. -/
  yields : List Stmt := []
  /-- How many names have been made up. -/
  made : Nat := 0

/-- Something that is read, if it is there. -/
abbrev Parse := StateT State Option

/-- The next token. -/
def peek : Parse (Option Token) := do return (← get).tokens.head?

/-- The token after the next one. -/
def peekSecond : Parse (Option Token) := do return (← get).tokens[1]?

/-- Go past a token. -/
def skip : Parse Unit := modify fun s => { s with tokens := s.tokens.drop 1 }

/-- The token is a sign. -/
def isSign (sign : String) : Option Token → Bool
  | some (.sign s) => s == sign
  | _ => false

/-- A sign comes next. -/
def ahead (sign : String) : Parse Bool := do return isSign sign (← peek)

/-- A sign, if it comes next. -/
def accept (sign : String) : Parse Bool := do
  if ← ahead sign then
    skip
    return true
  else return false

/-- A sign. -/
def expect (sign : String) : Parse Unit := do
  if !(← accept sign) then failure

/-- A name. -/
def identifier : Parse String := do
  match ← peek with
  | some (.name n) =>
    skip
    return n
  | _ => failure

/-- The end of a line. -/
def lineEnd : Parse Unit := do
  match ← peek with
  | some .lineEnd => skip
  | _ => failure

/-- Go on from a value as long as a step does. -/
def iterate {α : Type} (step : α → Parse (Option α)) : Nat → α → Parse α
  | 0, a => return a
  | n + 1, a => do
    match ← step a with
    | none => return a
    | some b => iterate step n b

/-- Go on from a value as long as a step does, which takes a token every time. -/
def repeatedly {α : Type} (step : α → Parse (Option α)) (a : α) : Parse α := do
  iterate step ((← get).tokens.length + 1) a

/-- One or more things with a sign between them; the sign may also follow the last one, before
    something that `ends` the list.  The answer tells whether it stood behind the last one. -/
def separated {α : Type} (sign : String) (ends : Option Token → Bool) (item : Parse α) :
    Parse (List α × Bool) := do
  let first ← item
  repeatedly
    (fun (items, open_) => do
      if open_ then return none
      else if !(← accept sign) then return none
      else if ends (← peek) then return some (items, true)
      else return some (items ++ [← item], false))
    ([first], false)

/-! ## Names -/

/-- Change the innermost piece of code. -/
def changeScope (f : Scope → Scope) : Parse Unit :=
  modify fun s => { s with scopes := match s.scopes with
    | scope :: outer => f scope :: outer
    | [] => [] }

/-- The names with one that is given a value. -/
def bound (name : String) (names : Names) : Names :=
  if names.shared.contains name || names.outer.contains name || names.owned.contains name then names
  else { names with owned := names.owned ++ [name] }

/-- A name is given a value. -/
def bind (name : String) : Parse Unit :=
  changeScope fun s => { s with names := bound name s.names }

/-- A name is given a value in the innermost piece of code that is no loop in an expression. -/
def bindOutside (name : String) : Parse Unit :=
  modify fun s => { s with scopes := go s.scopes }
where
  /-- Bind the name in the first scope that is no inner loop. -/
  go : List Scope → List Scope
    | [] => []
    | scope :: outer =>
      if scope.isInner then scope :: go outer
      else { scope with names := bound name scope.names } :: outer

/-- Read something as a piece of code of its own. -/
def inScope {α : Type} (scope : Scope) (p : Parse α) : Parse (α × Names) := do
  modify fun s => { s with scopes := scope :: s.scopes }
  let a ← p
  let s ← get
  match s.scopes with
  | inner :: outer =>
    set { s with scopes := outer }
    return (a, inner.names)
  | [] => failure

/-- The names that an expression gives values to when it is a target; `none` if it is none. -/
def targetNames : Nat → Expr → Option (List String)
  | 0, _ => none
  | fuel + 1, e =>
    match e with
    | .name n => some [n]
    | .attribute .. | .item .. => some []
    | .spread e => targetNames fuel e
    | .tuple items | .list items => do return (← items.mapM (targetNames fuel)).flatten
    | _ => none

/-- The deepest nesting of targets. -/
def deepestTarget : Nat := 100

/-- Give values to a target. -/
def bindTarget (e : Expr) : Parse Unit := do
  match targetNames deepestTarget e with
  | some names => for n in names do bind n
  | none => failure

/-! ## The rules -/

/-- The rules that other rules use. -/
structure Rules where
  expression : Parse Expr
  /-- Operands and operators that bind more closely than a level. -/
  operation : Nat → Parse Expr
  statement : Parse (List Stmt)
  pattern : Parse Expr

/-- An expression that may be given a name on the way. -/
def namedExpression (r : Rules) : Parse Expr := do
  match ← peek, ← peekSecond with
  | some (.name n), some (.sign ":=") =>
    skip
    skip
    let value ← r.expression
    bindOutside n
    return .assigned n value
  | _, _ => r.expression

/-- An expression, or all items of one. -/
def spreadOr (level : Nat) (item : Parse Expr) (r : Rules) : Parse Expr := do
  if ← accept "*" then return .spread (← r.operation level)
  else item

/-- The level of the operands of `|`. -/
def bitOrLevel : Nat := 4

/-- A token that ends a list of expressions. -/
def endsList : Option Token → Bool
  | none => true
  | some .lineEnd => true
  | some (.sign s) =>
    [")", "]", "\x7d", "=", ":", ";", "in", "+=", "-=", "*=", "/=", "//=", "%=", "**=", "&=", "|=",
     "^=", "<<=", ">>=", "@="].contains s
  | _ => false

/-- One expression, or a tuple of several. -/
def expressions (r : Rules) : Parse Expr := do
  let (items, open_) ← separated "," endsList (spreadOr bitOrLevel (namedExpression r) r)
  match items, open_ with
  | [item], false => return item
  | items, _ => return .tuple items

/-- A target of a loop, or a tuple of several. -/
def targets (r : Rules) : Parse Expr := do
  let (items, open_) ← separated "," endsList (spreadOr bitOrLevel (r.operation bitOrLevel) r)
  let target := match items, open_ with
    | [item], false => item
    | items, _ => .tuple items
  bindTarget target
  return target

/-- The value that is handed out by a `yield`, whose place is taken by a name. -/
def yieldExpression (r : Rules) : Parse Expr := do
  expect "yield"
  let (value, all) ←
    if ← accept "from" then do pure (← r.expression, true)
    else if endsList (← peek) then pure (.constant .none, false)
    else do pure (← expressions r, false)
  let s ← get
  let received := s!".{s.made}"
  set { s with made := s.made + 1, yields := s.yields ++ [Stmt.yielding received value all] }
  changeScope fun scope =>
    { scope with names := { bound received scope.names with generates := true } }
  return .name received

/-- A `yield`, or one or more expressions. -/
def valueExpression (r : Rules) : Parse Expr := do
  if ← ahead "yield" then yieldExpression r else expressions r

/-! ## Functions -/

/-- A parameter, and the default that stands behind it. -/
def parameter (r : Rules) (annotated : Bool) (taking : Taking) :
    Parse (Parameter × Option Expr) := do
  let name ← identifier
  if annotated then
    if ← accept ":" then let _ ← spreadOr bitOrLevel r.expression r
  if ← accept "=" then
    let default ← r.expression
    return (⟨name, taking, true⟩, some default)
  else return (⟨name, taking, false⟩, none)

/-- What has been read of a list of parameters. -/
structure ParameterList where
  parameters : List Parameter := []
  defaults : List Expr := []
  /-- A star has been read: what follows is taken by name. -/
  starred : Bool := false
  /-- The list has ended. -/
  finished : Bool := false

/-- The list with a parameter more. -/
def ParameterList.push (l : ParameterList) (p : Parameter × Option Expr) : ParameterList :=
  { l with parameters := l.parameters ++ [p.1], defaults := l.defaults ++ p.2.toList }

/-- The parameters of a function up to a sign. -/
def parameters (r : Rules) (annotated : Bool) (closing : String) : Parse ParameterList := do
  repeatedly
    (fun (l : ParameterList) => do
      if l.finished || (← ahead closing) then return none
      let next ←
        if ← accept "/" then
          pure { l with parameters := l.parameters.map fun p => { p with taking := .byPlace } }
        else if ← accept "**" then
          pure (l.push (← parameter r annotated .restByName))
        else if ← accept "*" then
          if ← ahead "," then pure { l with starred := true }
          else pure { l.push (← parameter r annotated .restByPlace) with starred := true }
        else
          pure (l.push (← parameter r annotated (if l.starred then .byName else .byPlaceOrName)))
      if ← accept "," then return some next else return some { next with finished := true })
    {}

/-- A function without a name. -/
def lambda (r : Rules) : Parse Expr := do
  expect "lambda"
  let l ← parameters r false ":"
  expect ":"
  let (body, names) ← inScope { names := { owned := l.parameters.map Parameter.name } } r.expression
  return .function (.mk "<lambda>" l.parameters l.defaults [.giveBack (some body)] names)

/-! ## Loops inside expressions -/

/-- A loop inside an expression: its target, its source, and the conditions on its rounds. -/
structure Clause where
  target : Expr
  source : Expr
  conditions : List Expr

/-- A loop inside an expression. -/
def clause (r : Rules) : Parse Clause := do
  expect "for"
  let target ← targets r
  expect "in"
  let source ← r.operation 0
  let conditions ← repeatedly
    (fun (conditions : List Expr) => do
      if ← accept "if" then
        let condition ← match ← peek, ← peekSecond with
          | some (.name _), some (.sign ":=") => namedExpression r
          | _, _ => r.operation 0
        return some (conditions ++ [condition])
      else return none)
    []
  return ⟨target, source, conditions⟩

/-- The name of the source of the first loop. -/
def sourceName : String := ".source"

/-- The loops around a statement; the source of the first one has a name. -/
def loopsAround (inner : Stmt) (clauses : List Clause) : List Stmt :=
  let nested := clauses.foldr
    (fun c body => [.each c.target c.source
      (c.conditions.foldr (fun condition body => [.branch condition body []]) body) []])
    [inner]
  match nested with
  | [.each target _ body otherwise] => [.each target (.name sourceName) body otherwise]
  | other => other

/-- The loops behind the value that they collect, if there are any; else what stands there
    alone. -/
def collectedOr (r : Rules) (collecting : Collecting) (value : Expr) (alone : Parse Expr) :
    Parse Expr := do
  if !(← ahead "for") then alone
  else
    let (clauses, names) ← inScope { isInner := true, names := { generates := true } } do
      repeatedly
        (fun (clauses : List Clause) => do
          if ← ahead "for" then return some (clauses ++ [← clause r]) else return none)
        []
    let source := (clauses.head?.map Clause.source).getD default
    let names := { names with owned := sourceName :: names.owned }
    let parameter : Parameter := ⟨sourceName, .byPlace, false⟩
    return .collected collecting
      (.mk "<genexpr>" [parameter] [] (loopsAround (.yielding "" value false) clauses) names) source

/-! ## Texts -/

/-- The pieces of a text with holes as expressions. -/
def pieces (read : List Char → Parse Expr) : Nat → List FormPiece → Parse (List Expr)
  | 0, _ => failure
  | _ + 1, [] => return []
  | fuel + 1, piece :: rest => do
    let here ← match piece with
      | .text t => pure [Expr.constant (.text t)]
      | .hole source echo conversion form => do
        let value ← read source
        let form ← pieces read fuel form
        let conversion := if !echo.isEmpty && conversion.isNone && form.isEmpty then some 'r'
          else conversion
        pure ((if echo.isEmpty then [] else [Expr.constant (.text echo)])
          ++ [.hole value conversion form])
    return here ++ (← pieces read fuel rest)

/-- The expression in a hole. -/
def holeExpression (r : Rules) (source : List Char) : Parse Expr := do
  if source.all Char.isWhitespace then failure
  match Token.ofHole? source with
  | none => failure
  | some tokens =>
    let outside := (← get).tokens
    modify fun s => { s with tokens }
    let value ← r.operation 11
    if !(← get).tokens.isEmpty then failure
    modify fun s => { s with tokens := outside }
    return value

/-- Texts that stand side by side are one text. -/
def text (r : Rules) : Parse Expr := do
  let parts ← repeatedly
    (fun (parts : List Expr) => do
      match ← peek with
      | some (.constant (.text t)) =>
        skip
        return some (parts ++ [.constant (.text t)])
      | some (.constant (.bytes b)) =>
        skip
        return some (parts ++ [.constant (.bytes b)])
      | some (.joined form) =>
        skip
        return some (parts ++ [.joined (← pieces (holeExpression r) 1000 form)])
      | _ => return none)
    []
  let plain := parts.mapM fun
    | .constant (.text t) => some t
    | _ => none
  let raw := parts.mapM fun
    | .constant (.bytes b) => some b
    | _ => none
  match plain, raw with
  | some texts, _ => return .constant (.text texts.flatten)
  | _, some bytes => return .constant (.bytes bytes.flatten)
  | none, none => do
    let all ← parts.mapM fun
      | .constant (.text t) => pure [Expr.constant (.text t)]
      | .joined pieces => pure pieces
      | _ => failure
    return .joined all.flatten

/-! ## Atoms -/

/-- What stands in parentheses. -/
def parenthesized (r : Rules) : Parse Expr := do
  expect "("
  if ← accept ")" then return .tuple []
  let inside ←
    if ← ahead "yield" then yieldExpression r
    else do
      let first ← spreadOr bitOrLevel (namedExpression r) r
      collectedOr r .nothing first do
        if ← accept "," then
          if ← ahead ")" then pure (.tuple [first])
          else
            let (rest, _) ← separated "," (isSign ")") (spreadOr bitOrLevel (namedExpression r) r)
            pure (.tuple (first :: rest))
        else pure first
  expect ")"
  return inside

/-- A list. -/
def listDisplay (r : Rules) : Parse Expr := do
  expect "["
  if ← accept "]" then return .list []
  let first ← spreadOr bitOrLevel (namedExpression r) r
  let inside ← collectedOr r .list first do
    if ← accept "," then
      if ← ahead "]" then pure (.list [first])
      else
        let (rest, _) ← separated "," (isSign "]") (spreadOr bitOrLevel (namedExpression r) r)
        pure (.list (first :: rest))
    else pure (.list [first])
  expect "]"
  return inside

/-- An entry of a dictionary, or an item of a set. -/
def entry (r : Rules) : Parse Expr := do
  if ← accept "**" then return .spreadNamed (← r.operation bitOrLevel)
  else
    let key ← spreadOr bitOrLevel (namedExpression r) r
    if ← accept ":" then return .pair key (← r.expression) else return key

/-- The expression is an entry of a dictionary. -/
def isPair : Expr → Bool
  | .pair .. | .spreadNamed _ => true
  | _ => false

/-- A dictionary or a set. -/
def braces (r : Rules) : Parse Expr := do
  expect "\x7b"
  if ← accept "\x7d" then return .dict []
  let first ← entry r
  let (collecting, value) := match first with
    | .pair key value => (Collecting.dict, Expr.tuple [key, value])
    | e => (.set, e)
  let inside ← collectedOr r collecting value do
    let more ←
      if ← accept "," then
        if ← ahead "\x7d" then pure []
        else pure (← separated "," (isSign "\x7d") (entry r)).1
      else pure []
    let all := first :: more
    if all.all isPair then pure (.dict all)
    else if all.any isPair then failure
    else pure (.set all)
  expect "\x7d"
  return inside

/-- An atom. -/
def atom (r : Rules) : Parse Expr := do
  match ← peek with
  | some (.name n) =>
    skip
    return .name n
  | some (.constant (.text _)) | some (.constant (.bytes _)) | some (.joined _) => text r
  | some (.constant v) =>
    skip
    return .constant v
  | some (.sign s) =>
    match s with
    | "(" => parenthesized r
    | "[" => listDisplay r
    | "\x7b" => braces r
    | "True" | "False" =>
      skip
      return .constant (.bool (s == "True"))
    | "None" =>
      skip
      return .constant .none
    | "..." =>
      skip
      return .constant .ellipsis
    | _ => failure
  | _ => failure

/-! ## Calls and items -/

/-- An argument of a call. -/
def argument (r : Rules) : Parse Expr := do
  if ← accept "**" then return .spreadNamed (← r.expression)
  else if ← accept "*" then return .spread (← r.expression)
  else
    match ← peek, ← peekSecond with
    | some (.name n), some (.sign "=") =>
      skip
      skip
      return .named n (← r.expression)
    | _, _ =>
      let value ← namedExpression r
      collectedOr r .nothing value (pure value)

/-- The arguments of a call after the bracket that opens it. -/
def arguments (r : Rules) : Parse (List Expr) := do
  if ← accept ")" then return []
  let (args, _) ← separated "," (isSign ")") (argument r)
  expect ")"
  return args

/-- A part of what stands between brackets behind a value. -/
def subscript (r : Rules) : Parse Expr := do
  let ends := fun (t : Option Token) => isSign ":" t || isSign "]" t || isSign "," t
  let bound : Parse (Option Expr) := do
    if ends (← peek) then return none else return some (← spreadOr bitOrLevel (namedExpression r) r)
  let first ← bound
  if ← accept ":" then
    let second ← bound
    let third ← if ← accept ":" then bound else pure none
    return .slice first second third
  else
    match first with
    | some e => return e
    | none => failure

/-- What stands behind a value: an attribute, arguments or an item. -/
def trailer (r : Rules) (owner : Expr) : Parse (Option Expr) := do
  if ← accept "." then return some (.attribute owner (← identifier))
  else if ← accept "(" then return some (.call owner (← arguments r))
  else if ← accept "[" then
    let (items, open_) ← separated "," (isSign "]") (subscript r)
    expect "]"
    match items, open_ with
    | [item], false => return some (.item owner item)
    | items, _ => return some (.item owner (.tuple items))
  else return none

/-! ## Operations -/

/-- The operators of the levels at which they associate to the left. -/
def operatorsAt : Nat → List Operator
  | 4 => [.bitOr]
  | 5 => [.bitXor]
  | 6 => [.bitAnd]
  | 7 => [.shiftLeft, .shiftRight]
  | 8 => [.add, .subtract]
  | 9 => [.multiply, .divide, .floorDivide, .remainder, .matrixMultiply]
  | _ => []

/-- A comparator. -/
def comparator : Parse (Option Comparator) := do
  match ← peek with
  | some (.sign s) =>
    let plain := fun (c : Comparator) => do
      skip
      return some c
    match s with
    | "==" => plain .equal
    | "!=" => plain .notEqual
    | "<" => plain .less
    | "<=" => plain .lessOrEqual
    | ">" => plain .greater
    | ">=" => plain .greaterOrEqual
    | "in" => plain .member
    | "is" =>
      skip
      if ← accept "not" then return some .notIdentical else return some .identical
    | "not" =>
      if isSign "in" (← peekSecond) then
        skip
        skip
        return some .notMember
      else return none
    | _ => return none
  | _ => return none

/-- A chain of comparisons. -/
def comparisons (r : Rules) : Parse Expr := do
  let first ← r.operation 4
  let (comparators, rest) ← repeatedly
    (fun (done : List Comparator × List Expr) => do
      match ← comparator with
      | none => return none
      | some c => return some (done.1 ++ [c], done.2 ++ [← r.operation 4]))
    ([], [])
  return if comparators.isEmpty then first else .compare first comparators rest

/-- Operands with operators of one level between them. -/
def operation (r : Rules) (level : Nat) : Parse Expr := do
  let chain := fun (sign : String) (make : Expr → Expr → Expr) => do
    repeatedly
      (fun left => do
        if ← accept sign then return some (make left (← r.operation (level + 1))) else return none)
      (← r.operation (level + 1))
  match level with
  | 0 => chain "or" .disjunction
  | 1 => chain "and" .conjunction
  | 2 =>
    if ← accept "not" then return .unary .negation (← r.operation 2) else r.operation 3
  | 3 => comparisons r
  | 10 =>
    if ← accept "-" then return .unary .negate (← r.operation 10)
    else if ← accept "+" then return .unary .plus (← r.operation 10)
    else if ← accept "~" then return .unary .invert (← r.operation 10)
    else
      let left ← r.operation 11
      if ← accept "**" then return .binary .power left (← r.operation 10) else return left
  | 11 => repeatedly (trailer r) (← atom r)
  | _ =>
    repeatedly
      (fun left => do
        match ← peek with
        | some (.sign s) =>
          match (operatorsAt level).find? fun o => o.sign == s with
          | some o =>
            skip
            return some (.binary o left (← r.operation (level + 1)))
          | none => return none
        | _ => return none)
      (← r.operation (level + 1))

/-- An expression. -/
def expression (r : Rules) : Parse Expr := do
  if ← ahead "lambda" then lambda r
  else
    let value ← r.operation 0
    if ← accept "if" then
      let condition ← r.operation 0
      expect "else"
      return .choice condition value (← r.expression)
    else return value

/-! ## Simple statements -/

/-- The parts of a dotted name. -/
def dottedName : Parse (List String) := do
  return (← separated "." (fun _ => false) identifier).1

/-- A name with another one that it gets. -/
def alias? : Parse (Option String) := do
  if ← accept "as" then return some (← identifier) else return none

/-- The statement that makes modules known. -/
def load : Parse Stmt := do
  expect "import"
  let (modules, _) ← separated "," (fun _ => false) do
    let module ← dottedName
    let other ← alias?
    bind (other.getD (module.headD ""))
    return (module, other)
  return .load modules

/-- The statement that makes things in a module known. -/
def loadFrom : Parse Stmt := do
  expect "from"
  let level ← repeatedly
    (fun (n : Nat) => do
      if ← accept "." then return some (n + 1)
      else if ← accept "..." then return some (n + 3)
      else return none)
    0
  let module ← if ← ahead "import" then pure [] else dottedName
  if level = 0 ∧ module.isEmpty then failure
  expect "import"
  if ← accept "*" then return .loadFrom level module [("*", "*")]
  else
    let bracket ← accept "("
    let (names, open_) ← separated "," (isSign ")") do
      let name ← identifier
      let other := (← alias?).getD name
      bind other
      return (name, other)
    if bracket then expect ")" else if open_ then failure
    return .loadFrom level module names

/-- The operator of a statement that changes its target. -/
def augmentation : Parse (Option Operator) := do
  match ← peek with
  | some (.sign s) =>
    match Operator.all.find? fun o => o.sign ++ "=" == s with
    | some o =>
      skip
      return some o
    | none => return none
  | _ => return none

/-- A statement that begins with an expression. -/
def expressionStatement (r : Rules) : Parse Stmt := do
  let first ← valueExpression r
  match ← augmentation with
  | some o => do
    bindTarget first
    return .augmented first o (← valueExpression r)
  | none =>
    if ← accept ":" then
      let annotation ← r.expression
      let value ← if ← accept "=" then pure (some (← valueExpression r)) else pure none
      bindTarget first
      return .annotated first annotation value
    else
      let values ← repeatedly
        (fun (values : List Expr) => do
          if ← accept "=" then return some (values ++ [← valueExpression r]) else return none)
        [first]
      match values.reverse with
      | value :: target :: more => do
        let targets := (target :: more).reverse
        for t in targets do bindTarget t
        return .assign targets value
      | _ => return .expression first

/-- A statement without other statements in it. -/
def simpleStatement (r : Rules) : Parse Stmt := do
  match ← peek with
  | some (.sign s) =>
    match s with
    | "pass" =>
      skip
      return .pass
    | "break" =>
      skip
      return .leaveLoop
    | "continue" =>
      skip
      return .nextRound
    | "return" =>
      skip
      if endsList (← peek) then return .giveBack none
      else return .giveBack (some (← valueExpression r))
    | "raise" =>
      skip
      if endsList (← peek) then return .fail none none
      else
        let value ← r.expression
        let cause ← if ← accept "from" then pure (some (← r.expression)) else pure none
        return .fail (some value) cause
    | "global" | "nonlocal" =>
      skip
      let (names, _) ← separated "," (fun _ => false) identifier
      changeScope fun scope =>
        let owned := scope.names.owned.filter fun n => !names.contains n
        { scope with names :=
            if s == "global" then
              { scope.names with owned, shared := scope.names.shared ++ names }
            else { scope.names with owned, outer := scope.names.outer ++ names } }
      return .pass
    | "del" =>
      skip
      match ← expressions r with
      | .tuple items | .list items => do
        for t in items do bindTarget t
        return .remove items
      | e => do
        bindTarget e
        return .remove [e]
    | "assert" =>
      skip
      let condition ← r.expression
      let message ← if ← accept "," then pure (some (← r.expression)) else pure none
      return .check condition message
    | "import" => load
    | "from" => loadFrom
    | _ => expressionStatement r
  | _ => expressionStatement r

/-- A statement after the values that it hands out. -/
def flushed {α : Type} (p : Parse α) (statements : α → List Stmt) : Parse (List Stmt) := do
  let outside := (← get).yields
  modify fun s => { s with yields := [] }
  let a ← p
  let inside := (← get).yields
  modify fun s => { s with yields := outside }
  return inside ++ statements a

/-- The simple statements of one line. -/
def simpleLine (r : Rules) : Parse (List Stmt) := do
  let ends := fun (t : Option Token) => match t with
    | some .lineEnd | none => true
    | _ => false
  let (statements, _) ← separated ";" ends (flushed (simpleStatement r) fun s => [s])
  lineEnd
  return statements.flatten

/-! ## Compound statements -/

/-- The statements that belong to the line before them. -/
def block (r : Rules) : Parse (List Stmt) := do
  expect ":"
  match ← peek with
  | some .lineEnd => do
    skip
    match ← peek with
    | some .indent => skip
    | _ => failure
    let body ← repeatedly
      (fun (body : List Stmt) => do
        match ← peek with
        | some .dedent | none => return none
        | _ => return some (body ++ (← r.statement)))
      []
    skip
    return body
  | _ => simpleLine r

/-- The statements after `else`, if it is there. -/
def otherwise (r : Rules) : Parse (List Stmt) := do
  if ← accept "else" then block r else return []

/-- A branch after its first word. -/
def branch (r : Rules) : Nat → Parse (List Stmt)
  | 0 => failure
  | fuel + 1 => do
    skip
    let condition ← namedExpression r
    let yes ← block r
    let no ← if ← ahead "elif" then branch r fuel else otherwise r
    return [.branch condition yes no]

/-- What is done about exceptions. -/
def handlers (r : Rules) : Parse (List Stmt) := do
  repeatedly
    (fun (done : List Stmt) => do
      if !(← accept "except") then return none
      let kind ← if ← ahead ":" then pure none else do
        let (kinds, open_) ← separated "," (isSign ":") r.expression
        pure (some (match kinds, open_ with
          | [kind], false => kind
          | kinds, _ => .tuple kinds))
      let name ← alias?
      if let some n := name then bind n
      return some (done ++ [.handler kind name (← block r)]))
    []

/-- A statement that guards a body. -/
def guarded (r : Rules) : Parse Stmt := do
  expect "try"
  let body ← block r
  let handlers ← handlers r
  let otherwise ← otherwise r
  let last ← accept "finally"
  let always ← if last then block r else pure []
  if handlers.isEmpty && !last then failure
  return .guarded body handlers otherwise always

/-- A manager, and the target of what it gives. -/
def manager (r : Rules) : Parse (Expr × Option Expr) := do
  let value ← r.expression
  if ← accept "as" then
    let target ← spreadOr bitOrLevel (r.operation bitOrLevel) r
    bindTarget target
    return (value, some target)
  else return (value, none)

/-- A body that runs within managers. -/
def within (r : Rules) : Parse Stmt := do
  expect "with"
  let bracketed : Parse (List (Expr × Option Expr)) := do
    expect "("
    let (managers, _) ← separated "," (isSign ")") (manager r)
    expect ")"
    if !(← ahead ":") then failure
    return managers
  let plain : Parse (List (Expr × Option Expr)) := do
    return (← separated "," (isSign ":") (manager r)).1
  let managers ← bracketed <|> plain
  let body ← block r
  match managers.foldr (fun m body => [.within m.1 m.2 body]) body with
  | [s] => return s
  | _ => failure

/-- A function with a name. -/
def define (r : Rules) (decorators : List Expr) : Parse Stmt := do
  expect "def"
  let name ← identifier
  expect "("
  let l ← parameters r true ")"
  expect ")"
  if ← accept "->" then let _ ← r.expression
  bind name
  let outside := (← get).yields
  modify fun s => { s with yields := [] }
  let (body, names) ← inScope { names := { owned := l.parameters.map Parameter.name } } (block r)
  modify fun s => { s with yields := outside }
  return .define (.mk name l.parameters l.defaults body names) decorators

/-- A class. -/
def defineClass (r : Rules) (decorators : List Expr) : Parse Stmt := do
  expect "class"
  let name ← identifier
  let args ← if ← accept "(" then arguments r else pure []
  bind name
  let (body, names) ← inScope {} (block r)
  return .defineClass name args body names decorators

/-- A function or a class after its decorators. -/
def decorated (r : Rules) : Parse Stmt := do
  let decorators ← repeatedly
    (fun (done : List Expr) => do
      if ← accept "@" then
        let decorator ← namedExpression r
        lineEnd
        return some (done ++ [decorator])
      else return none)
    []
  if ← ahead "class" then defineClass r decorators else define r decorators

/-! ## Patterns -/

/-- A number with its sign, a text, or one of the words that are values. -/
def literalPattern (r : Rules) : Parse Expr := do
  match ← peek with
  | some (.sign "-") =>
    skip
    match ← peek with
    | some (.constant v) =>
      skip
      return .unary .negate (.constant v)
    | _ => failure
  | some (.constant _) | some (.joined _) => atom r
  | some (.sign "None") | some (.sign "True") | some (.sign "False") => atom r
  | _ => failure

/-- The patterns up to a bracket. -/
def patternList (r : Rules) (closing : String) : Parse (List Expr × Bool) := do
  if ← accept closing then return ([], true)
  else
    let items ← separated "," (isSign closing) do
      if ← accept "*" then
        let name ← identifier
        if name != "_" then bind name
        return .spread (.name name)
      else r.pattern
    expect closing
    return items

/-- A pattern that is not made of alternatives. -/
def closedPattern (r : Rules) : Parse Expr := do
  match ← peek with
  | some (.name n) =>
    skip
    let dotted ← repeatedly
      (fun e => do
        if ← accept "." then return some (.attribute e (← identifier)) else return none)
      (Expr.name n)
    if ← accept "(" then
      if ← accept ")" then return .call dotted []
      let (items, _) ← separated "," (isSign ")") do
        match ← peek, ← peekSecond with
        | some (.name n), some (.sign "=") =>
          skip
          skip
          return .named n (← r.pattern)
        | _, _ => r.pattern
      expect ")"
      return .call dotted items
    else
      match dotted with
      | .name n => do
        if n != "_" then bind n
        return .name n
      | e => return e
  | some (.sign "(") =>
    skip
    match ← patternList r ")" with
    | ([item], false) => return item
    | (items, _) => return .list items
  | some (.sign "[") =>
    skip
    return .list (← patternList r "]").1
  | some (.sign "\x7b") =>
    skip
    if ← accept "\x7d" then return .dict []
    let (entries, _) ← separated "," (isSign "\x7d") do
      if ← accept "**" then
        let name ← identifier
        bind name
        return .spreadNamed (.name name)
      else
        let key ← match ← peek with
          | some (.name _) => r.operation 11
          | _ => literalPattern r
        expect ":"
        return .pair key (← r.pattern)
    expect "\x7d"
    return .dict entries
  | _ => literalPattern r

/-- A pattern. -/
def pattern (r : Rules) : Parse Expr := do
  let (alternatives, _) ← separated "|" (fun _ => false) (closedPattern r)
  let whole := match alternatives with
    | first :: rest => rest.foldl (fun l r => Expr.binary .bitOr l r) first
    | [] => default
  if ← accept "as" then
    let name ← identifier
    bind name
    return .assigned name whole
  else return whole

/-- A choice between cases. -/
def choose (r : Rules) : Parse Stmt := do
  match ← peek with
  | some (.name "match") => skip
  | _ => failure
  let subject ← expressions r
  expect ":"
  lineEnd
  match ← peek with
  | some .indent => skip
  | _ => failure
  let cases ← repeatedly
    (fun (cases : List Stmt) => do
      match ← peek with
      | some (.name "case") =>
        skip
        let (items, open_) ← separated "," (fun t => isSign ":" t || isSign "if" t) do
          if ← accept "*" then
            let name ← identifier
            if name != "_" then bind name
            return .spread (.name name)
          else r.pattern
        let whole := match items, open_ with
          | [.spread e], _ => Expr.list [.spread e]
          | [item], false => item
          | items, _ => .list items
        let condition ← if ← accept "if" then pure (some (← namedExpression r)) else pure none
        return some (cases ++ [.case whole condition (← block r)])
      | _ => return none)
    []
  match ← peek with
  | some .dedent => skip
  | _ => failure
  return .choose subject cases

/-! ## All statements -/

/-- A statement, after the values that it hands out before it is run. -/
def statement (r : Rules) : Parse (List Stmt) := do
  let one := fun (p : Parse Stmt) => flushed p fun s => [s]
  match ← peek with
  | some (.sign s) =>
    match s with
    | "if" => flushed (do branch r ((← get).tokens.length + 1)) id
    | "while" => one do
      skip
      let condition ← namedExpression r
      let body ← block r
      return .loop condition body (← otherwise r)
    | "for" => one do
      skip
      let target ← targets r
      expect "in"
      let source ← expressions r
      let body ← block r
      return .each target source body (← otherwise r)
    | "try" => one (guarded r)
    | "with" => one (within r)
    | "def" => one (define r [])
    | "class" => one (defineClass r [])
    | "@" => one (decorated r)
    | _ => simpleLine r
  | some (.name "match") => one (choose r) <|> simpleLine r
  | some .lineEnd => do
    skip
    return []
  | _ => simpleLine r

/-- All rules, with a number of steps left. -/
def rules : Nat → Rules
  | 0 =>
    { expression := failure, operation := fun _ => failure, statement := failure,
      pattern := failure }
  | n + 1 =>
    { expression := fun s => expression (rules n) s
      operation := fun level s => operation (rules n) level s
      statement := fun s => statement (rules n) s
      pattern := fun s => pattern (rules n) s }

/-- How many rules may use one another for a source of a length. -/
def stepsFor (length : Nat) : Nat := 20 * length + 100

/-- Read tokens to their end. -/
def readAll {α : Type} (length : Nat) (tokens : List Token) (p : Rules → Parse α) :
    Option (α × Names) := do
  let (a, s) ← (p (rules (stepsFor length))).run { tokens, scopes := [{}] }
  if !s.tokens.isEmpty then none
  else return (a, (s.scopes.headD {}).names)

/-- The statements of a program and what it does with names; `none` if it is no program. -/
def program? (source : List Char) : Option (List Stmt × Names) := do
  let tokens ← Token.ofProgram? source
  readAll source.length tokens fun r =>
    repeatedly
      (fun (body : List Stmt) => do
        if (← get).tokens.isEmpty then return none else return some (body ++ (← r.statement)))
      []

/-- An expression that stands alone. -/
def expression? (source : List Char) : Option Expr := do
  let tokens ← Token.ofProgram? (source.dropWhile Token.isGap)
  let (e, _) ← readAll source.length tokens fun r => do
    let e ← expressions r
    lineEnd
    return e
  return e

end Handover.Interpreter.Parser
