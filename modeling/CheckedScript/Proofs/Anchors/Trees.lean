import CheckedScript.Diagnostic
import CheckedScript.Tree

/-!
# Trees over given tokens

A tree is drawn from some tokens if every token in it is one of them and its names are
identifiers.
-/

namespace CheckedScript

/-- A name among some tokens. -/
def Token.IsNameOf (tokens : List Token) (token : Token) : Prop :=
  token ∈ tokens ∧ token.kind = .identifier

/-- A diagnostic that is charged to one of some tokens. -/
def Diagnostic.DrawnFrom (tokens : List Token) (diagnostic : Diagnostic) : Prop :=
  diagnostic.token ∈ tokens

mutual

/-- An expression over some tokens. -/
def Expr.DrawnFrom (tokens : List Token) : Expr → Prop
  | .literal _ token => token ∈ tokens
  | .reference name => name.IsNameOf tokens
  | .assign name value => name.IsNameOf tokens ∧ value.DrawnFrom tokens
  | .unary _ token operand => token ∈ tokens ∧ operand.DrawnFrom tokens
  | .binary _ token left right =>
      token ∈ tokens ∧ left.DrawnFrom tokens ∧ right.DrawnFrom tokens
  | .logical _ token left right =>
      token ∈ tokens ∧ left.DrawnFrom tokens ∧ right.DrawnFrom tokens
  | .group inner => inner.DrawnFrom tokens
  | .tuple items => Expr.AreDrawnFrom tokens items
  | .call callee paren arguments =>
      callee.DrawnFrom tokens ∧ paren ∈ tokens ∧ Expr.AreDrawnFrom tokens arguments

/-- Expressions over some tokens. -/
def Expr.AreDrawnFrom (tokens : List Token) : List Expr → Prop
  | [] => True
  | item :: items => item.DrawnFrom tokens ∧ Expr.AreDrawnFrom tokens items

end

/-- Loop bounds over some tokens. -/
structure Bounds.DrawnFrom (tokens : List Token) (bounds : Bounds) : Prop where
  token : bounds.token ∈ tokens
  start : bounds.start.DrawnFrom tokens
  stop : bounds.stop.DrawnFrom tokens
  step : ∀ step ∈ bounds.step, step.DrawnFrom tokens

mutual

/-- A statement over some tokens. -/
def Stmt.DrawnFrom (tokens : List Token) : Stmt → Prop
  | .expression value => value.DrawnFrom tokens
  | .letValue name _ initializer => name.IsNameOf tokens ∧ initializer.DrawnFrom tokens
  | .block body => body.DrawnFrom tokens
  | .ifThen keyword condition consequent =>
      keyword ∈ tokens ∧ condition.DrawnFrom tokens ∧ consequent.DrawnFrom tokens
  | .ifElse keyword condition consequent alternative =>
      keyword ∈ tokens ∧ condition.DrawnFrom tokens ∧ consequent.DrawnFrom tokens ∧
        alternative.DrawnFrom tokens
  | .whileLoop keyword condition body =>
      keyword ∈ tokens ∧ condition.DrawnFrom tokens ∧ body.DrawnFrom tokens
  | .forLoop name bounds body =>
      name.IsNameOf tokens ∧ bounds.DrawnFrom tokens ∧ body.DrawnFrom tokens
  | .function name parameters body =>
      name.IsNameOf tokens ∧ (∀ parameter ∈ parameters, parameter.IsNameOf tokens) ∧
        body.DrawnFrom tokens
  | .giveBack keyword value => keyword ∈ tokens ∧ ∀ found ∈ value, found.DrawnFrom tokens

/-- A block over some tokens. -/
def Block.DrawnFrom (tokens : List Token) : Block → Prop
  | .mk brace statements tail =>
      brace ∈ tokens ∧ Stmt.AreDrawnFrom tokens statements ∧ ∀ value ∈ tail, value.DrawnFrom tokens

/-- Statements over some tokens. -/
def Stmt.AreDrawnFrom (tokens : List Token) : List Stmt → Prop
  | [] => True
  | stmt :: stmts => stmt.DrawnFrom tokens ∧ Stmt.AreDrawnFrom tokens stmts

end

namespace Block.DrawnFrom

variable {tokens : List Token} {body : Block}

theorem statements (drawn : body.DrawnFrom tokens) : Stmt.AreDrawnFrom tokens body.statements := by
  cases body
  exact drawn.2.1

theorem tail (drawn : body.DrawnFrom tokens) : ∀ value ∈ body.tail, value.DrawnFrom tokens := by
  cases body
  exact drawn.2.2

end Block.DrawnFrom

end CheckedScript
