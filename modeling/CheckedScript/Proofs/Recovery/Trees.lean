import CheckedScript.Tree
import Mathlib.Data.List.Forall2

/-!
# Programs with other conditions

Two programs that differ in the conditions of branches and loops only.  A condition may be
replaced if neither the old one nor the new one calls anything, and if all that can be
wrong with them is charged to positions that are out of sight.
-/

namespace CheckedScript

variable (hidden : Position → Bool)

/-- An expression without calls that can be at fault at hidden positions only. -/
inductive Expr.Confined : Expr → Prop
  | literal {value : Constant} {token : Token} : Confined (.literal value token)
  | reference {name : Token} : hidden name.position = true → Confined (.reference name)
  | assign {name : Token} {value : Expr} :
      hidden name.position = true → Confined value → Confined (.assign name value)
  | unary {operator : UnaryOperator} {token : Token} {operand : Expr} :
      hidden token.position = true → Confined operand → Confined (.unary operator token operand)
  | binary {operator : BinaryOperator} {token : Token} {left right : Expr} :
      hidden token.position = true → Confined left → Confined right →
        Confined (.binary operator token left right)
  | logical {operator : LogicalOperator} {token : Token} {left right : Expr} :
      hidden token.position = true → Confined left → Confined right →
        Confined (.logical operator token left right)
  | group {inner : Expr} : Confined inner → Confined (.group inner)
  | tuple {items : List Expr} :
      (∀ item ∈ items, Confined item) → Confined (.tuple items)

/-- Loop bounds without calls that can be at fault at hidden positions only. -/
structure Bounds.Confined (bounds : Bounds) : Prop where
  token : hidden bounds.token.position = true
  start : bounds.start.Confined hidden
  stop : bounds.stop.Confined hidden
  step : ∀ step ∈ bounds.step, step.Confined hidden

/-- Conditions behind a keyword that are the same or stay out of sight. -/
inductive Expr.IsReplaced (keyword : Token) : Expr → Expr → Prop
  | same (condition : Expr) : IsReplaced keyword condition condition
  | hidden {condition other : Expr} :
      hidden keyword.position = true → condition.Confined hidden → other.Confined hidden →
        IsReplaced keyword condition other

mutual

/-- Statements that differ in conditions only. -/
inductive Stmt.Alike : Stmt → Stmt → Prop
  | expression (value : Expr) : Stmt.Alike (.expression value) (.expression value)
  | letValue (name : Token) (declared : Option WrittenType) (initializer : Expr) :
      Stmt.Alike (.letValue name declared initializer) (.letValue name declared initializer)
  | block {body other : Block} : Block.Alike body other → Stmt.Alike (.block body) (.block other)
  | ifThen {keyword : Token} {condition second : Expr} {consequent other : Block} :
      Expr.IsReplaced hidden keyword condition second → Block.Alike consequent other →
        Stmt.Alike (.ifThen keyword condition consequent) (.ifThen keyword second other)
  | ifElse {keyword : Token} {condition second : Expr} {consequent other : Block}
      {alternative further : Stmt} :
      Expr.IsReplaced hidden keyword condition second → Block.Alike consequent other →
        Stmt.Alike alternative further →
        Stmt.Alike (.ifElse keyword condition consequent alternative)
          (.ifElse keyword second other further)
  | whileLoop {keyword : Token} {condition second : Expr} {body other : Block} :
      Expr.IsReplaced hidden keyword condition second → Block.Alike body other →
        Stmt.Alike (.whileLoop keyword condition body) (.whileLoop keyword second other)
  | forLoop (name : Token) (bounds : Bounds) {body other : Block} :
      Block.Alike body other →
        Stmt.Alike (.forLoop name bounds body) (.forLoop name bounds other)
  | function (name : Token) (parameters : List Token) {body other : Block} :
      Block.Alike body other →
        Stmt.Alike (.function name parameters body) (.function name parameters other)
  | giveBack (keyword : Token) (value : Option Expr) :
      Stmt.Alike (.giveBack keyword value) (.giveBack keyword value)

/-- Blocks that differ in conditions only. -/
inductive Block.Alike : Block → Block → Prop
  | mk (brace : Token) {statements others : List Stmt} (tail : Option Expr) :
      List.Forall₂ Stmt.Alike statements others →
        Block.Alike (.mk brace statements tail) (.mk brace others tail)

end

/-- Programs that differ in conditions only. -/
abbrev Program.Alike : Program → Program → Prop :=
  List.Forall₂ (Stmt.Alike hidden)

variable {hidden}

theorem Expr.IsReplaced.symm {keyword : Token} {condition other : Expr}
    (replaced : IsReplaced hidden keyword condition other) :
    IsReplaced hidden keyword other condition := by
  cases replaced with
  | same => exact .same _
  | hidden isHidden first second => exact .hidden isHidden second first

theorem Block.Alike.statements {body other : Block} (alike : body.Alike hidden other) :
    Program.Alike hidden body.statements other.statements := by
  cases alike with
  | mk _ _ statements => exact statements

theorem Block.Alike.tail {body other : Block} (alike : body.Alike hidden other) :
    body.tail = other.tail := by
  cases alike
  rfl

mutual

theorem Stmt.Alike.symm {stmt other : Stmt} (alike : stmt.Alike hidden other) :
    other.Alike hidden stmt := by
  cases alike with
  | expression => exact .expression _
  | letValue => exact .letValue _ _ _
  | block body => exact .block body.symm
  | ifThen condition consequent => exact .ifThen condition.symm consequent.symm
  | ifElse condition consequent alternative =>
      exact .ifElse condition.symm consequent.symm alternative.symm
  | whileLoop condition body => exact .whileLoop condition.symm body.symm
  | forLoop _ _ body => exact .forLoop _ _ body.symm
  | function _ _ body => exact .function _ _ body.symm
  | giveBack => exact .giveBack _ _

theorem Block.Alike.symm {body other : Block} (alike : body.Alike hidden other) :
    other.Alike hidden body := by
  cases alike with
  | mk brace tail statements => exact .mk brace tail (Program.Alike.symm statements)

theorem Program.Alike.symm {program other : Program} (alike : program.Alike hidden other) :
    other.Alike hidden program := by
  cases alike with
  | nil => exact .nil
  | cons stmt stmts => exact .cons stmt.symm (Program.Alike.symm stmts)

end

end CheckedScript
