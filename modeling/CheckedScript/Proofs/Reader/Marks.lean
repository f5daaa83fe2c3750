import CheckedScript.Tree.Reader.Expression

/-!
# The tokens of nodes

A node keeps tokens beside what it stands for.  In a marked tree they agree: the token of an
operator is of a kind that the table of its tier lists with that operator, a literal denotes
its constant, names are identifiers, and what follows `else` is a block or another
conditional.  So a phase that looks an operator or a constant up by the kind of its token
finds the entry that the node stands for.
-/

namespace CheckedScript

mutual

/-- An expression whose tokens are of the kinds that its nodes stand for. -/
def Expr.Marked : Expr → Prop
  | .literal value token => Reader.constant? token = some value
  | .reference name => name.kind = .identifier
  | .assign name value => name.kind = .identifier ∧ value.Marked
  | .unary operator token operand =>
      Reader.unaryOperator? token.kind = some operator ∧ operand.Marked
  | .binary operator token left right =>
      (∃ level : Reader.Tier, level.operator? token.kind = some (.binary operator)) ∧
        left.Marked ∧ right.Marked
  | .logical operator token left right =>
      (∃ level : Reader.Tier, level.operator? token.kind = some (.logical operator)) ∧
        left.Marked ∧ right.Marked
  | .group inner => inner.Marked
  | .tuple items => Expr.AreMarked items
  | .call callee paren arguments =>
      callee.Marked ∧ paren.kind = .symbol .rightParen ∧ Expr.AreMarked arguments

/-- Expressions whose tokens are of the kinds that their nodes stand for. -/
def Expr.AreMarked : List Expr → Prop
  | [] => True
  | item :: items => item.Marked ∧ Expr.AreMarked items

end

/-- Loop bounds at a `..`. -/
structure Bounds.Marked (bounds : Bounds) : Prop where
  token : bounds.token.kind = .symbol .dotDot
  start : bounds.start.Marked
  stop : bounds.stop.Marked
  step : ∀ step ∈ bounds.step, step.Marked

/-- Whether a statement may follow `else`. -/
def Stmt.isAlternative : Stmt → Bool
  | .block _ | .ifThen _ _ _ | .ifElse _ _ _ _ => true
  | _ => false

mutual

/-- A statement whose tokens are of the kinds that its nodes stand for. -/
def Stmt.Marked : Stmt → Prop
  | .expression value => value.Marked
  | .letValue name _ initializer => name.kind = .identifier ∧ initializer.Marked
  | .block body => body.Marked
  | .ifThen keyword condition consequent =>
      keyword.kind = .keyword .ifWord ∧ condition.Marked ∧ consequent.Marked
  | .ifElse keyword condition consequent alternative =>
      keyword.kind = .keyword .ifWord ∧ condition.Marked ∧ consequent.Marked ∧
        alternative.Marked ∧ alternative.isAlternative
  | .whileLoop keyword condition body =>
      keyword.kind = .keyword .whileWord ∧ condition.Marked ∧ body.Marked
  | .forLoop name bounds body => name.kind = .identifier ∧ bounds.Marked ∧ body.Marked
  | .function name parameters body =>
      name.kind = .identifier ∧ (∀ parameter ∈ parameters, parameter.kind = .identifier) ∧
        body.Marked
  | .giveBack keyword value =>
      keyword.kind = .keyword .returnWord ∧ ∀ found ∈ value, found.Marked

/-- A block whose tokens are of the kinds that its nodes stand for. -/
def Block.Marked : Block → Prop
  | .mk brace statements tail =>
      brace.kind = .symbol .leftBrace ∧ Stmt.AreMarked statements ∧ ∀ value ∈ tail, value.Marked

/-- Statements whose tokens are of the kinds that their nodes stand for. -/
def Stmt.AreMarked : List Stmt → Prop
  | [] => True
  | stmt :: stmts => stmt.Marked ∧ Stmt.AreMarked stmts

end

namespace Reader

/-- One item in parentheses is a group, and every other number of items a tuple. -/
theorem marked_parenthesized {items : List Expr} (marked : Expr.AreMarked items) :
    (parenthesized items).Marked := by
  match items with
  | [] => exact marked
  | [item] => exact marked.1
  | _ :: _ :: _ => exact marked

/-- An operator of a tier forms a node for its own token. -/
theorem marked_apply {level : Tier} {operator : InnerOperator} {token : Token} {left right : Expr}
    (listed : level.operator? token.kind = some operator) (first : left.Marked)
    (second : right.Marked) : (operator.apply token left right).Marked := by
  cases operator <;> exact ⟨⟨level, listed⟩, first, second⟩

end Reader

end CheckedScript
