import CheckedScript.Token
import CheckedScript.Ty

/-!
# Program trees

Expressions and statements.  A node keeps the tokens that diagnostics point at;
operators and constants are kept as data of their own, so that no later phase
looks at token kinds.  Written types form a type of their own, since a program
can only name the types of numbers, texts, truth values and tuples.
-/

namespace CheckedScript

/-- A type as a program writes it. -/
inductive WrittenType where
  | number
  | text
  | bool
  | tuple (items : List WrittenType)
  deriving Repr

namespace WrittenType

mutual

/-- The type that is written. -/
def type : WrittenType → Ty
  | number => .number
  | text => .text
  | bool => .bool
  | tuple items => .tuple (types items)

/-- The types that are written. -/
def types : List WrittenType → List Ty
  | [] => []
  | item :: items => type item :: types items

end

end WrittenType

/-- The constant a literal stands for. -/
inductive Constant where
  | number (value : Float)
  | text (value : String)
  | bool (value : Bool)

/-- Operators with one operand. -/
inductive UnaryOperator where
  | negate
  | invert
  deriving DecidableEq, Repr

/-- Operators that evaluate both operands. -/
inductive BinaryOperator where
  | add
  | subtract
  | multiply
  | divide
  | equal
  | notEqual
  | greater
  | greaterEqual
  | less
  | lessEqual
  deriving DecidableEq, Repr

/-- Operators that may leave their right operand alone. -/
inductive LogicalOperator where
  | conjunction
  | disjunction
  deriving DecidableEq, Repr

/-- Expressions. -/
inductive Expr where
  | literal (value : Constant) (token : Token)
  | reference (name : Token)
  | assign (name : Token) (value : Expr)
  | unary (operator : UnaryOperator) (token : Token) (operand : Expr)
  | binary (operator : BinaryOperator) (token : Token) (left right : Expr)
  | logical (operator : LogicalOperator) (token : Token) (left right : Expr)
  | group (inner : Expr)
  | tuple (items : List Expr)
  /-- A call; the token is the closing parenthesis. -/
  | call (callee : Expr) (paren : Token) (arguments : List Expr)

/-- The bounds of a loop over numbers; the token is the first `..`. -/
structure Bounds where
  token : Token
  start : Expr
  stop : Expr
  step : Option Expr

mutual

/-- Statements. -/
inductive Stmt where
  | expression (value : Expr)
  | letValue (name : Token) (declared : Option WrittenType) (initializer : Expr)
  | block (body : Block)
  | ifThen (keyword : Token) (condition : Expr) (consequent : Block)
  /-- The alternative is a block or another conditional. -/
  | ifElse (keyword : Token) (condition : Expr) (consequent : Block) (alternative : Stmt)
  | whileLoop (keyword : Token) (condition : Expr) (body : Block)
  | forLoop (name : Token) (bounds : Bounds) (body : Block)
  | function (name : Token) (parameters : List Token) (body : Block)
  | giveBack (keyword : Token) (value : Option Expr)

/-- Statements between braces, and the expression whose value the block has. -/
inductive Block where
  | mk (brace : Token) (statements : List Stmt) (tail : Option Expr)

end

namespace Block

/-- The opening brace. -/
def brace : Block → Token
  | mk brace _ _ => brace

/-- The statements of a block. -/
def statements : Block → List Stmt
  | mk _ statements _ => statements

/-- The expression that ends a block. -/
def tail : Block → Option Expr
  | mk _ _ tail => tail

end Block

/-- A program is a list of statements. -/
abbrev Program := List Stmt

end CheckedScript
