import CheckedScript.Diagnostic
import CheckedScript.Tree

/-!
# Moved trees

Tokens, trees and diagnostics with other positions.  Kinds, lexemes, constants and
the shape of a tree stay what they are.
-/

namespace CheckedScript

namespace Token

/-- The same token at another position. -/
def move (moved : Position → Position) (token : Token) : Token where
  kind := token.kind
  lexeme := token.lexeme
  position := moved token.position
  payload := token.payload

variable (moved : Position → Position) (token : Token)

@[simp]
theorem kind_move : (token.move moved).kind = token.kind :=
  rfl

@[simp]
theorem lexeme_move : (token.move moved).lexeme = token.lexeme :=
  rfl

@[simp]
theorem position_move : (token.move moved).position = moved token.position :=
  rfl

@[simp]
theorem payload_move : (token.move moved).payload = token.payload :=
  rfl

@[simp]
theorem move_id : token.move id = token :=
  rfl

end Token

namespace Diagnostic

/-- The same diagnostic, charged to a moved token. -/
def move (moved : Position → Position) (diagnostic : Diagnostic) : Diagnostic :=
  { diagnostic with token := diagnostic.token.move moved }

variable (moved : Position → Position) (diagnostic : Diagnostic)

@[simp]
theorem cause_move : (diagnostic.move moved).cause = diagnostic.cause :=
  rfl

@[simp]
theorem token_move : (diagnostic.move moved).token = diagnostic.token.move moved :=
  rfl

@[simp]
theorem message_move : (diagnostic.move moved).message = diagnostic.message :=
  rfl

@[simp]
theorem move_id : diagnostic.move id = diagnostic :=
  rfl

/-- Positions that are told apart keep keys apart. -/
theorem key_move_inj {moved : Position → Position} (injective : moved.Injective)
    (first second : Diagnostic) :
    (first.move moved).key = (second.move moved).key ↔ first.key = second.key := by
  simp [key, injective.eq_iff]

end Diagnostic

/-- The same rejection, charged to moved tokens. -/
def Rejection.move (moved : Position → Position) (rejection : Rejection) : Rejection where
  phase := rejection.phase
  diagnostics := rejection.diagnostics.map (Diagnostic.move moved)

mutual

/-- An expression with moved tokens. -/
def Expr.move (moved : Position → Position) : Expr → Expr
  | .literal value token => .literal value (token.move moved)
  | .reference name => .reference (name.move moved)
  | .assign name value => .assign (name.move moved) (value.move moved)
  | .unary operator token operand => .unary operator (token.move moved) (operand.move moved)
  | .binary operator token left right =>
      .binary operator (token.move moved) (left.move moved) (right.move moved)
  | .logical operator token left right =>
      .logical operator (token.move moved) (left.move moved) (right.move moved)
  | .group inner => .group (inner.move moved)
  | .tuple items => .tuple (Expr.moveAll moved items)
  | .call callee paren arguments =>
      .call (callee.move moved) (paren.move moved) (Expr.moveAll moved arguments)

/-- Several expressions with moved tokens. -/
def Expr.moveAll (moved : Position → Position) : List Expr → List Expr
  | [] => []
  | item :: items => item.move moved :: Expr.moveAll moved items

end

/-- Loop bounds with moved tokens. -/
def Bounds.move (moved : Position → Position) (bounds : Bounds) : Bounds where
  token := bounds.token.move moved
  start := bounds.start.move moved
  stop := bounds.stop.move moved
  step := bounds.step.map (Expr.move moved)

mutual

/-- A statement with moved tokens. -/
def Stmt.move (moved : Position → Position) : Stmt → Stmt
  | .expression value => .expression (value.move moved)
  | .letValue name declared initializer =>
      .letValue (name.move moved) declared (initializer.move moved)
  | .block body => .block (body.move moved)
  | .ifThen keyword condition consequent =>
      .ifThen (keyword.move moved) (condition.move moved) (consequent.move moved)
  | .ifElse keyword condition consequent alternative =>
      .ifElse (keyword.move moved) (condition.move moved) (consequent.move moved)
        (alternative.move moved)
  | .whileLoop keyword condition body =>
      .whileLoop (keyword.move moved) (condition.move moved) (body.move moved)
  | .forLoop name bounds body =>
      .forLoop (name.move moved) (bounds.move moved) (body.move moved)
  | .function name parameters body =>
      .function (name.move moved) (parameters.map (Token.move moved)) (body.move moved)
  | .giveBack keyword value => .giveBack (keyword.move moved) (value.map (Expr.move moved))

/-- A block with moved tokens. -/
def Block.move (moved : Position → Position) : Block → Block
  | .mk brace statements tail =>
      .mk (brace.move moved) (Stmt.moveAll moved statements) (tail.map (Expr.move moved))

/-- Several statements with moved tokens. -/
def Stmt.moveAll (moved : Position → Position) : List Stmt → List Stmt
  | [] => []
  | statement :: statements => statement.move moved :: Stmt.moveAll moved statements

end

section Equations

variable (moved : Position → Position)

@[simp]
theorem Expr.moveAll_eq_map (items : List Expr) :
    Expr.moveAll moved items = items.map (Expr.move moved) := by
  induction items with
  | nil => rfl
  | cons item items inductionHypothesis => rw [Expr.moveAll, inductionHypothesis, List.map_cons]

@[simp]
theorem Stmt.moveAll_eq_map (statements : List Stmt) :
    Stmt.moveAll moved statements = statements.map (Stmt.move moved) := by
  induction statements with
  | nil => rfl
  | cons statement statements inductionHypothesis =>
      rw [Stmt.moveAll, inductionHypothesis, List.map_cons]

@[simp]
theorem Block.statements_move (body : Block) :
    (body.move moved).statements = body.statements.map (Stmt.move moved) := by
  cases body
  simp [Block.move, Block.statements]

@[simp]
theorem Block.tail_move (body : Block) :
    (body.move moved).tail = body.tail.map (Expr.move moved) := by
  cases body
  rfl

end Equations

mutual

theorem Expr.move_id (expr : Expr) : expr.move id = expr := by
  cases expr with
  | literal value token => rfl
  | reference name => rfl
  | assign name value => rw [Expr.move, value.move_id, Token.move_id]
  | unary operator token operand => rw [Expr.move, operand.move_id, Token.move_id]
  | binary operator token left right =>
      rw [Expr.move, left.move_id, right.move_id, Token.move_id]
  | logical operator token left right =>
      rw [Expr.move, left.move_id, right.move_id, Token.move_id]
  | group inner => rw [Expr.move, inner.move_id]
  | tuple items => rw [Expr.move, Expr.moveAll_id items]
  | call callee paren arguments =>
      rw [Expr.move, callee.move_id, Expr.moveAll_id arguments, Token.move_id]

theorem Expr.moveAll_id (items : List Expr) : Expr.moveAll id items = items := by
  cases items with
  | nil => rfl
  | cons item items => rw [Expr.moveAll, item.move_id, Expr.moveAll_id items]

end

theorem Expr.move_id_eq : Expr.move id = id :=
  funext Expr.move_id

mutual

theorem Stmt.move_id (statement : Stmt) : statement.move id = statement := by
  cases statement with
  | expression value => rw [Stmt.move, value.move_id]
  | letValue name declared initializer => rw [Stmt.move, initializer.move_id, Token.move_id]
  | block body => rw [Stmt.move, body.move_id]
  | ifThen keyword condition consequent =>
      rw [Stmt.move, condition.move_id, consequent.move_id, Token.move_id]
  | ifElse keyword condition consequent alternative =>
      rw [Stmt.move, condition.move_id, consequent.move_id, alternative.move_id, Token.move_id]
  | whileLoop keyword condition body =>
      rw [Stmt.move, condition.move_id, body.move_id, Token.move_id]
  | forLoop name bounds body =>
      rw [Stmt.move, Bounds.move, Expr.move_id, Expr.move_id, body.move_id, Expr.move_id_eq,
        Option.map_id]
      rfl
  | function name parameters body =>
      rw [Stmt.move, body.move_id, Token.move_id, show Token.move id = id from rfl, List.map_id]
  | giveBack keyword value =>
      rw [Stmt.move, Expr.move_id_eq, Option.map_id, Token.move_id]
      rfl

theorem Block.move_id (body : Block) : body.move id = body := by
  cases body with
  | mk brace statements tail =>
      rw [Block.move, Stmt.moveAll_id statements, Expr.move_id_eq, Option.map_id, Token.move_id]
      rfl

theorem Stmt.moveAll_id (statements : List Stmt) : Stmt.moveAll id statements = statements := by
  cases statements with
  | nil => rfl
  | cons statement statements =>
      rw [Stmt.moveAll, statement.move_id, Stmt.moveAll_id statements]

end

end CheckedScript
