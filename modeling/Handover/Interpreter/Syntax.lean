/-
  The programs of the interpreter's language.

  A program is a list of statements.  Where a name may be given a value in a piece of code is known
  before the code is run: `Names` lists the names that the piece owns.  A `yield` inside a larger
  expression stands as a statement of its own before the statement that it belongs to; its place
  in the expression is taken by a name.
-/
import Handover.Interpreter.Value

namespace Handover.Interpreter

/-! ## Operators -/

/-- An operator between two operands that makes a new value. -/
inductive Operator where
  | add
  | subtract
  | multiply
  | divide
  | floorDivide
  | remainder
  | power
  | shiftLeft
  | shiftRight
  | bitAnd
  | bitOr
  | bitXor
  | matrixMultiply
deriving DecidableEq

namespace Operator

/-- The sign of an operator. -/
def sign : Operator → String
  | .add => "+"
  | .subtract => "-"
  | .multiply => "*"
  | .divide => "/"
  | .floorDivide => "//"
  | .remainder => "%"
  | .power => "**"
  | .shiftLeft => "<<"
  | .shiftRight => ">>"
  | .bitAnd => "&"
  | .bitOr => "|"
  | .bitXor => "^"
  | .matrixMultiply => "@"

/-- The stem of the names of the methods that carry an operator out. -/
def stem : Operator → String
  | .add => "add"
  | .subtract => "sub"
  | .multiply => "mul"
  | .divide => "truediv"
  | .floorDivide => "floordiv"
  | .remainder => "mod"
  | .power => "pow"
  | .shiftLeft => "lshift"
  | .shiftRight => "rshift"
  | .bitAnd => "and"
  | .bitOr => "or"
  | .bitXor => "xor"
  | .matrixMultiply => "matmul"

/-- All operators. -/
def all : List Operator :=
  [.add, .subtract, .multiply, .divide, .floorDivide, .remainder, .power, .shiftLeft, .shiftRight,
   .bitAnd, .bitOr, .bitXor, .matrixMultiply]

/-- The operator of a sign. -/
def ofSign? (s : String) : Option Operator := all.find? fun o => o.sign == s

end Operator

/-- An operator on one operand. -/
inductive UnaryOperator where
  | negate
  | plus
  | invert
  | negation
deriving DecidableEq

/-- An operator that compares two operands. -/
inductive Comparator where
  | equal
  | notEqual
  | less
  | lessOrEqual
  | greater
  | greaterOrEqual
  | identical
  | notIdentical
  | member
  | notMember
deriving DecidableEq

namespace Comparator

/-- The sign of an order. -/
def sign : Comparator → String
  | .equal => "=="
  | .notEqual => "!="
  | .less => "<"
  | .lessOrEqual => "<="
  | .greater => ">"
  | .greaterOrEqual => ">="
  | .identical => "is"
  | .notIdentical => "is not"
  | .member => "in"
  | .notMember => "not in"

/-- The name of the method that carries a comparison out. -/
def method : Comparator → String
  | .equal => "__eq__"
  | .notEqual => "__ne__"
  | .less => "__lt__"
  | .lessOrEqual => "__le__"
  | .greater => "__gt__"
  | .greaterOrEqual => "__ge__"
  | _ => "__contains__"

/-- The comparison with its operands exchanged. -/
def reflected : Comparator → Comparator
  | .less => .greater
  | .lessOrEqual => .greaterOrEqual
  | .greater => .less
  | .greaterOrEqual => .lessOrEqual
  | c => c

end Comparator

/-! ## Names -/

/-- What a piece of code does with names. -/
structure Names where
  /-- The names that it gives values to, and that are its own. -/
  owned : List String := []
  /-- The names that it shares with the whole module. -/
  shared : List String := []
  /-- The names that belong to a piece of code around it. -/
  outer : List String := []
  /-- It hands out values on the way. -/
  generates : Bool := false

/-- What a parameter takes. -/
inductive Taking where
  | byPlace
  | byPlaceOrName
  /-- All that is given by place and not taken otherwise. -/
  | restByPlace
  | byName
  /-- All that is given by name and not taken otherwise. -/
  | restByName
deriving DecidableEq

/-- A parameter of a function. -/
structure Parameter where
  name : String
  taking : Taking
  /-- It has a value where none is given. -/
  hasDefault : Bool

/-- What is collected from an inner loop. -/
inductive Collecting where
  | list
  | set
  | dict
  /-- Nothing: the values are handed out one by one. -/
  | nothing
deriving DecidableEq

/-! ## Programs

  The parts of a display, the arguments of a call and the patterns of a choice are expressions as
  well; each has its meaning only in its place. -/

mutual

/-- An expression. -/
inductive Expr where
  | constant (value : Value)
  | name (name : String)
  /-- A text with holes in it: its pieces are constants and holes. -/
  | joined (pieces : List Expr)
  /-- A hole in a text, and the pieces of the form in which its value is written. -/
  | hole (value : Expr) (conversion : Option Char) (form : List Expr)
  | tuple (items : List Expr)
  | list (items : List Expr)
  | set (items : List Expr)
  /-- A dictionary: its entries are pairs and spreads. -/
  | dict (entries : List Expr)
  | pair (key value : Expr)
  /-- All items of a value, at this place among others. -/
  | spread (items : Expr)
  /-- All entries of a value, at this place among arguments. -/
  | spreadNamed (entries : Expr)
  /-- An argument that is given by name. -/
  | named (name : String) (value : Expr)
  | attribute (owner : Expr) (name : String)
  | item (owner key : Expr)
  | slice (start stop step : Option Expr)
  | call (callee : Expr) (args : List Expr)
  | unary (operator : UnaryOperator) (operand : Expr)
  | binary (operator : Operator) (left right : Expr)
  /-- A chain of comparisons: one comparator less than there are operands. -/
  | compare (first : Expr) (comparators : List Comparator) (rest : List Expr)
  | conjunction (left right : Expr)
  | disjunction (left right : Expr)
  | choice (condition yes no : Expr)
  | function (code : Code)
  /-- Loops over a source that hand out values, and what is collected of these. -/
  | collected (collecting : Collecting) (code : Code) (source : Expr)
  /-- A value that is given a name on the way. -/
  | assigned (name : String) (value : Expr)

/-- The code of a function.  The defaults are those of the parameters that have one, in order. -/
inductive Code where
  | mk (name : String) (parameters : List Parameter) (defaults : List Expr) (body : List Stmt)
      (names : Names)

/-- A statement. -/
inductive Stmt where
  | expression (value : Expr)
  | assign (targets : List Expr) (value : Expr)
  | annotated (target annotation : Expr) (value : Option Expr)
  | augmented (target : Expr) (operator : Operator) (value : Expr)
  | remove (targets : List Expr)
  | giveBack (value : Option Expr)
  | fail (value cause : Option Expr)
  | check (condition : Expr) (message : Option Expr)
  | branch (condition : Expr) (yes no : List Stmt)
  | loop (condition : Expr) (body otherwise : List Stmt)
  | each (target source : Expr) (body otherwise : List Stmt)
  /-- A body with what is done about its exceptions, if there are none, and in any case. -/
  | guarded (body handlers otherwise always : List Stmt)
  /-- What is done about an exception of a kind. -/
  | handler (kind : Option Expr) (name : Option String) (body : List Stmt)
  | within (manager : Expr) (target : Option Expr) (body : List Stmt)
  | choose (subject : Expr) (cases : List Stmt)
  /-- What is done about a subject that matches a pattern. -/
  | case (pattern : Expr) (condition : Option Expr) (body : List Stmt)
  | define (code : Code) (decorators : List Expr)
  | defineClass (name : String) (args : List Expr) (body : List Stmt) (names : Names)
      (decorators : List Expr)
  /-- Make modules known, each under its first name or under another one. -/
  | load (modules : List (List String × Option String))
  /-- Make things in a module known, each under its name or another one; `*` is all of them. -/
  | loadFrom (level : Nat) (module : List String) (names : List (String × String))
  /-- Hand out a value, or all values of another one, and note under a name what comes back. -/
  | yielding (received : String) (value : Expr) (all : Bool)
  | leaveLoop
  | nextRound
  | pass

end

instance : Inhabited Expr := ⟨.constant .none⟩

namespace Code

/-- The name of a function. -/
def name : Code → String
  | .mk name .. => name

/-- The parameters of a function. -/
def parameters : Code → List Parameter
  | .mk _ parameters .. => parameters

/-- The defaults of the parameters that have one. -/
def defaults : Code → List Expr
  | .mk _ _ defaults .. => defaults

/-- The statements of a function. -/
def body : Code → List Stmt
  | .mk _ _ _ body _ => body

/-- What a function does with names. -/
def names : Code → Names
  | .mk _ _ _ _ names => names

end Code

end Handover.Interpreter
