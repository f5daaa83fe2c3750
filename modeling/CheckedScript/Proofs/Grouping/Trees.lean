import CheckedScript.Typing.Rules
import Mathlib.Data.List.Forall2

/-!
# Programs without parentheses

A group says that an expression stands in parentheses of its own.  Two programs are regrouped
if they are the same once all groups are taken away.  Then one of them has the form of the
other one, node by node, as soon as the groups around an expression are left aside.
-/

namespace CheckedScript

mutual

/-- An expression with every group replaced by what it holds. -/
def Expr.ungroup : Expr → Expr
  | .literal value token => .literal value token
  | .reference name => .reference name
  | .assign name value => .assign name value.ungroup
  | .unary operator token operand => .unary operator token operand.ungroup
  | .binary operator token left right => .binary operator token left.ungroup right.ungroup
  | .logical operator token left right => .logical operator token left.ungroup right.ungroup
  | .group inner => inner.ungroup
  | .tuple items => .tuple (Expr.ungroupAll items)
  | .call callee paren arguments => .call callee.ungroup paren (Expr.ungroupAll arguments)

/-- Several expressions with every group replaced by what it holds. -/
def Expr.ungroupAll : List Expr → List Expr
  | [] => []
  | item :: items => item.ungroup :: Expr.ungroupAll items

end

/-- Loop bounds with every group replaced by what it holds. -/
def Bounds.ungroup (bounds : Bounds) : Bounds where
  token := bounds.token
  start := bounds.start.ungroup
  stop := bounds.stop.ungroup
  step := bounds.step.map Expr.ungroup

mutual

/-- A statement with every group replaced by what it holds. -/
def Stmt.ungroup : Stmt → Stmt
  | .expression value => .expression value.ungroup
  | .letValue name declared initializer => .letValue name declared initializer.ungroup
  | .block body => .block body.ungroup
  | .ifThen keyword condition consequent =>
      .ifThen keyword condition.ungroup consequent.ungroup
  | .ifElse keyword condition consequent alternative =>
      .ifElse keyword condition.ungroup consequent.ungroup alternative.ungroup
  | .whileLoop keyword condition body => .whileLoop keyword condition.ungroup body.ungroup
  | .forLoop name bounds body => .forLoop name bounds.ungroup body.ungroup
  | .function name parameters body => .function name parameters body.ungroup
  | .giveBack keyword value => .giveBack keyword (value.map Expr.ungroup)

/-- A block with every group replaced by what it holds. -/
def Block.ungroup : Block → Block
  | .mk brace statements tail =>
      .mk brace (Stmt.ungroupAll statements) (tail.map Expr.ungroup)

/-- Several statements with every group replaced by what it holds. -/
def Stmt.ungroupAll : List Stmt → List Stmt
  | [] => []
  | statement :: statements => statement.ungroup :: Stmt.ungroupAll statements

end

/-- A program with every group replaced by what it holds, at any depth. -/
def Program.ungroup (program : Program) : Program :=
  program.map Stmt.ungroup

section Equations

theorem Expr.ungroupAll_eq_map (items : List Expr) :
    Expr.ungroupAll items = items.map Expr.ungroup := by
  induction items with
  | nil => rfl
  | cons item items inductionHypothesis => rw [ungroupAll, inductionHypothesis, List.map_cons]

theorem Stmt.ungroupAll_eq_map (statements : List Stmt) :
    Stmt.ungroupAll statements = statements.map Stmt.ungroup := by
  induction statements with
  | nil => rfl
  | cons statement statements inductionHypothesis =>
      rw [ungroupAll, inductionHypothesis, List.map_cons]

mutual

/-- Nothing is left to take away. -/
@[simp]
theorem Expr.ungroup_ungroup (expr : Expr) : expr.ungroup.ungroup = expr.ungroup := by
  cases expr with
  | literal value token => rfl
  | reference name => rfl
  | assign name value => simp [Expr.ungroup, Expr.ungroup_ungroup value]
  | unary operator token operand => simp [Expr.ungroup, Expr.ungroup_ungroup operand]
  | binary operator token left right =>
      simp [Expr.ungroup, Expr.ungroup_ungroup left, Expr.ungroup_ungroup right]
  | logical operator token left right =>
      simp [Expr.ungroup, Expr.ungroup_ungroup left, Expr.ungroup_ungroup right]
  | group inner => exact Expr.ungroup_ungroup inner
  | tuple items => simp [Expr.ungroup, Expr.ungroupAll_ungroupAll items]
  | call callee paren arguments =>
      simp [Expr.ungroup, Expr.ungroup_ungroup callee, Expr.ungroupAll_ungroupAll arguments]

theorem Expr.ungroupAll_ungroupAll (items : List Expr) :
    Expr.ungroupAll (Expr.ungroupAll items) = Expr.ungroupAll items := by
  cases items with
  | nil => rfl
  | cons item items =>
      rw [Expr.ungroupAll, Expr.ungroupAll, Expr.ungroup_ungroup item,
        Expr.ungroupAll_ungroupAll items]

end

@[simp]
theorem Bounds.ungroup_ungroup (bounds : Bounds) : bounds.ungroup.ungroup = bounds.ungroup := by
  simp [ungroup, Function.comp_def]

mutual

@[simp]
theorem Stmt.ungroup_ungroup (stmt : Stmt) : stmt.ungroup.ungroup = stmt.ungroup := by
  cases stmt with
  | expression value => simp [Stmt.ungroup]
  | letValue name declared initializer => simp [Stmt.ungroup]
  | block body => simp [Stmt.ungroup, Block.ungroup_ungroup body]
  | ifThen keyword condition consequent => simp [Stmt.ungroup, Block.ungroup_ungroup consequent]
  | ifElse keyword condition consequent alternative =>
      simp [Stmt.ungroup, Block.ungroup_ungroup consequent, Stmt.ungroup_ungroup alternative]
  | whileLoop keyword condition body => simp [Stmt.ungroup, Block.ungroup_ungroup body]
  | forLoop name bounds body => simp [Stmt.ungroup, Block.ungroup_ungroup body]
  | function name parameters body => simp [Stmt.ungroup, Block.ungroup_ungroup body]
  | giveBack keyword value => simp [Stmt.ungroup, Function.comp_def]

theorem Block.ungroup_ungroup (body : Block) : body.ungroup.ungroup = body.ungroup := by
  obtain ⟨brace, statements, tail⟩ := body
  simp [Block.ungroup, Stmt.ungroupAll_ungroupAll statements, Function.comp_def]

theorem Stmt.ungroupAll_ungroupAll (statements : List Stmt) :
    Stmt.ungroupAll (Stmt.ungroupAll statements) = Stmt.ungroupAll statements := by
  cases statements with
  | nil => rfl
  | cons statement statements =>
      rw [Stmt.ungroupAll, Stmt.ungroupAll, Stmt.ungroup_ungroup statement,
        Stmt.ungroupAll_ungroupAll statements]

end

end Equations

/-- Expressions that are the same but for their groups. -/
def Expr.Regrouped (expr other : Expr) : Prop :=
  expr.ungroup = other.ungroup

/-- Statements that are the same but for their groups. -/
def Stmt.Regrouped (stmt other : Stmt) : Prop :=
  stmt.ungroup = other.ungroup

/-- Blocks that are the same but for their groups. -/
def Block.Regrouped (body other : Block) : Prop :=
  body.ungroup = other.ungroup

/-- Loop bounds that are the same but for their groups. -/
structure Bounds.Regrouped (bounds other : Bounds) : Prop where
  token : bounds.token = other.token
  start : bounds.start.Regrouped other.start
  stop : bounds.stop.Regrouped other.stop
  step : Option.Rel Expr.Regrouped bounds.step other.step

/-- Programs that are the same but for their groups. -/
abbrev Program.Regrouped : Program → Program → Prop :=
  List.Forall₂ Stmt.Regrouped

section Lists

variable {α β : Type} {change : α → β}

theorem forall₂_of_map_eq {items others : List α} (same : items.map change = others.map change) :
    List.Forall₂ (fun item other => change item = change other) items others := by
  rw [← List.forall₂_eq_eq_eq, List.forall₂_map_left_iff, List.forall₂_map_right_iff] at same
  exact same

theorem rel_of_map_eq {item other : Option α} (same : item.map change = other.map change) :
    Option.Rel (fun item other => change item = change other) item other := by
  cases item <;> cases other
  case none.none => exact .none
  case some.some => exact .some (Option.some.inj same)
  all_goals cases same

end Lists

namespace Expr

/-- What stands in the parentheses around an expression. -/
def core : Expr → Expr
  | group inner => inner.core
  | expr => expr

/-- Expressions of one form, neither of them a group, whose parts are regrouped. -/
inductive SameForm : Expr → Expr → Prop
  | literal (value : Constant) (token : Token) :
      SameForm (.literal value token) (.literal value token)
  | reference (name : Token) : SameForm (.reference name) (.reference name)
  | assign (name : Token) {value other : Expr} :
      value.Regrouped other → SameForm (.assign name value) (.assign name other)
  | unary (operator : UnaryOperator) (token : Token) {operand other : Expr} :
      operand.Regrouped other →
        SameForm (.unary operator token operand) (.unary operator token other)
  | binary (operator : BinaryOperator) (token : Token) {left right first second : Expr} :
      left.Regrouped first → right.Regrouped second →
        SameForm (.binary operator token left right) (.binary operator token first second)
  | logical (operator : LogicalOperator) (token : Token) {left right first second : Expr} :
      left.Regrouped first → right.Regrouped second →
        SameForm (.logical operator token left right) (.logical operator token first second)
  | tuple {items others : List Expr} :
      List.Forall₂ Regrouped items others → SameForm (.tuple items) (.tuple others)
  | call (paren : Token) {callee other : Expr} {arguments others : List Expr} :
      callee.Regrouped other → List.Forall₂ Regrouped arguments others →
        SameForm (.call callee paren arguments) (.call other paren others)

/-- What stands in parentheses is not in parentheses itself. -/
theorem core_ne_group (expr inner : Expr) : expr.core ≠ .group inner := by
  fun_induction core expr with
  | case1 _ inductionHypothesis => exact inductionHypothesis
  | case2 expr isBare => exact isBare inner

@[simp]
theorem ungroup_core (expr : Expr) : expr.core.ungroup = expr.ungroup := by
  fun_induction core expr with
  | case1 _ inductionHypothesis => exact inductionHypothesis
  | case2 => rfl

theorem forall₂_regrouped {items others : List Expr}
    (same : ungroupAll items = ungroupAll others) : List.Forall₂ Regrouped items others := by
  rw [ungroupAll_eq_map, ungroupAll_eq_map] at same
  exact forall₂_of_map_eq same

theorem Regrouped.sameForm {expr other : Expr} (regrouped : expr.Regrouped other)
    (isBare : ∀ inner, expr ≠ .group inner) (otherBare : ∀ inner, other ≠ .group inner) :
    expr.SameForm other := by
  cases expr with
  | group inner => exact absurd rfl (isBare inner)
  | literal value token =>
      cases other with
      | group inner => exact absurd rfl (otherBare inner)
      | literal =>
          cases regrouped
          exact .literal value token
      | _ => cases regrouped
  | reference name =>
      cases other with
      | group inner => exact absurd rfl (otherBare inner)
      | reference =>
          cases regrouped
          exact .reference name
      | _ => cases regrouped
  | assign name value =>
      cases other with
      | group inner => exact absurd rfl (otherBare inner)
      | assign =>
          obtain ⟨rfl, values⟩ := Expr.assign.inj regrouped
          exact .assign name values
      | _ => cases regrouped
  | unary operator token operand =>
      cases other with
      | group inner => exact absurd rfl (otherBare inner)
      | unary =>
          obtain ⟨rfl, rfl, operands⟩ := Expr.unary.inj regrouped
          exact .unary operator token operands
      | _ => cases regrouped
  | binary operator token left right =>
      cases other with
      | group inner => exact absurd rfl (otherBare inner)
      | binary =>
          obtain ⟨rfl, rfl, lefts, rights⟩ := Expr.binary.inj regrouped
          exact .binary operator token lefts rights
      | _ => cases regrouped
  | logical operator token left right =>
      cases other with
      | group inner => exact absurd rfl (otherBare inner)
      | logical =>
          obtain ⟨rfl, rfl, lefts, rights⟩ := Expr.logical.inj regrouped
          exact .logical operator token lefts rights
      | _ => cases regrouped
  | tuple items =>
      cases other with
      | group inner => exact absurd rfl (otherBare inner)
      | tuple => exact .tuple (forall₂_regrouped (Expr.tuple.inj regrouped))
      | _ => cases regrouped
  | call callee paren arguments =>
      cases other with
      | group inner => exact absurd rfl (otherBare inner)
      | call =>
          obtain ⟨callees, rfl, arguments⟩ := Expr.call.inj regrouped
          exact .call paren callees (forall₂_regrouped arguments)
      | _ => cases regrouped

/-- The first one of two regrouped expressions is a group, or it has the form of what stands in
the parentheses around the second one. -/
theorem Regrouped.inner_or_sameForm {expr other : Expr} (regrouped : expr.Regrouped other) :
    (∃ inner, expr = .group inner ∧ inner.Regrouped other) ∨ expr.SameForm other.core := by
  by_cases isGroup : ∃ inner, expr = .group inner
  · obtain ⟨inner, rfl⟩ := isGroup
    exact .inl ⟨inner, rfl, regrouped⟩
  · have cores : expr.Regrouped other.core := regrouped.trans other.ungroup_core.symm
    exact .inr (cores.sameForm (not_exists.1 isGroup) other.core_ne_group)

end Expr

theorem Bounds.regrouped {bounds other : Bounds} (same : bounds.ungroup = other.ungroup) :
    bounds.Regrouped other := by
  obtain ⟨token, start, stop, step⟩ := Bounds.mk.inj same
  exact ⟨token, start, stop, rel_of_map_eq step⟩

/-- Statements of one form whose parts are regrouped. -/
inductive Stmt.SameForm : Stmt → Stmt → Prop
  | expression {value other : Expr} :
      value.Regrouped other → SameForm (.expression value) (.expression other)
  | letValue (name : Token) (declared : Option WrittenType) {initializer other : Expr} :
      initializer.Regrouped other →
        SameForm (.letValue name declared initializer) (.letValue name declared other)
  | block {body other : Block} : body.Regrouped other → SameForm (.block body) (.block other)
  | ifThen (keyword : Token) {condition test : Expr} {consequent other : Block} :
      condition.Regrouped test → consequent.Regrouped other →
        SameForm (.ifThen keyword condition consequent) (.ifThen keyword test other)
  | ifElse (keyword : Token) {condition test : Expr} {consequent other : Block}
      {alternative second : Stmt} :
      condition.Regrouped test → consequent.Regrouped other → alternative.Regrouped second →
        SameForm (.ifElse keyword condition consequent alternative)
          (.ifElse keyword test other second)
  | whileLoop (keyword : Token) {condition test : Expr} {body other : Block} :
      condition.Regrouped test → body.Regrouped other →
        SameForm (.whileLoop keyword condition body) (.whileLoop keyword test other)
  | forLoop (name : Token) {bounds range : Bounds} {body other : Block} :
      bounds.Regrouped range → body.Regrouped other →
        SameForm (.forLoop name bounds body) (.forLoop name range other)
  | function (name : Token) (parameters : List Token) {body other : Block} :
      body.Regrouped other →
        SameForm (.function name parameters body) (.function name parameters other)
  | giveBack (keyword : Token) {value other : Option Expr} :
      Option.Rel Expr.Regrouped value other →
        SameForm (.giveBack keyword value) (.giveBack keyword other)

theorem Stmt.Regrouped.sameForm {stmt other : Stmt} (regrouped : stmt.Regrouped other) :
    stmt.SameForm other := by
  cases stmt with
  | expression value =>
      cases other with
      | expression => exact .expression (Stmt.expression.inj regrouped)
      | _ => cases regrouped
  | letValue name declared initializer =>
      cases other with
      | letValue =>
          obtain ⟨rfl, rfl, initializers⟩ := Stmt.letValue.inj regrouped
          exact .letValue name declared initializers
      | _ => cases regrouped
  | block body =>
      cases other with
      | block => exact .block (Stmt.block.inj regrouped)
      | _ => cases regrouped
  | ifThen keyword condition consequent =>
      cases other with
      | ifThen =>
          obtain ⟨rfl, conditions, consequents⟩ := Stmt.ifThen.inj regrouped
          exact .ifThen keyword conditions consequents
      | _ => cases regrouped
  | ifElse keyword condition consequent alternative =>
      cases other with
      | ifElse =>
          obtain ⟨rfl, conditions, consequents, alternatives⟩ := Stmt.ifElse.inj regrouped
          exact .ifElse keyword conditions consequents alternatives
      | _ => cases regrouped
  | whileLoop keyword condition body =>
      cases other with
      | whileLoop =>
          obtain ⟨rfl, conditions, bodies⟩ := Stmt.whileLoop.inj regrouped
          exact .whileLoop keyword conditions bodies
      | _ => cases regrouped
  | forLoop name bounds body =>
      cases other with
      | forLoop =>
          obtain ⟨rfl, ranges, bodies⟩ := Stmt.forLoop.inj regrouped
          exact .forLoop name (Bounds.regrouped ranges) bodies
      | _ => cases regrouped
  | function name parameters body =>
      cases other with
      | function =>
          obtain ⟨rfl, rfl, bodies⟩ := Stmt.function.inj regrouped
          exact .function name parameters bodies
      | _ => cases regrouped
  | giveBack keyword value =>
      cases other with
      | giveBack =>
          obtain ⟨rfl, values⟩ := Stmt.giveBack.inj regrouped
          exact .giveBack keyword (rel_of_map_eq values)
      | _ => cases regrouped

namespace Block.Regrouped

variable {body other : Block} (regrouped : body.Regrouped other)
include regrouped

theorem statements : List.Forall₂ Stmt.Regrouped body.statements other.statements := by
  obtain ⟨brace, statements, tail⟩ := body
  obtain ⟨otherBrace, others, otherTail⟩ := other
  obtain ⟨_, same, _⟩ := Block.mk.inj regrouped
  rw [Stmt.ungroupAll_eq_map, Stmt.ungroupAll_eq_map] at same
  exact forall₂_of_map_eq same

theorem tail : Option.Rel Expr.Regrouped body.tail other.tail := by
  obtain ⟨brace, statements, tail⟩ := body
  obtain ⟨otherBrace, others, otherTail⟩ := other
  obtain ⟨_, _, same⟩ := Block.mk.inj regrouped
  exact rel_of_map_eq same

end Block.Regrouped

namespace Program

theorem Regrouped.symm {program other : Program} (regrouped : program.Regrouped other) :
    other.Regrouped program :=
  List.Forall₂.flip (regrouped.imp fun _ _ same => Eq.symm same)

/-- Taking the groups away regroups a program. -/
theorem regrouped_ungroup (program : Program) : program.Regrouped program.ungroup :=
  List.forall₂_map_right_iff.2 (List.forall₂_same.2 fun stmt _ => stmt.ungroup_ungroup.symm)

end Program

namespace Typing

mutual

/-- Whether a statement always gives a value back does not depend on groups. -/
theorem alwaysReturns_ungroup (stmt : Stmt) : alwaysReturns stmt.ungroup = alwaysReturns stmt := by
  cases stmt with
  | block body =>
      rw [Stmt.ungroup, alwaysReturns, alwaysReturns, blockReturns_ungroup body]
  | ifElse keyword condition consequent alternative =>
      rw [Stmt.ungroup, alwaysReturns, alwaysReturns, blockReturns_ungroup consequent,
        alwaysReturns_ungroup alternative]
  | expression | letValue | ifThen | whileLoop | forLoop | function | giveBack => rfl

theorem blockReturns_ungroup (body : Block) : blockReturns body.ungroup = blockReturns body := by
  obtain ⟨brace, statements, tail⟩ := body
  rw [Block.ungroup, blockReturns, blockReturns, anyReturns_ungroupAll statements]

theorem anyReturns_ungroupAll (statements : List Stmt) :
    anyReturns (Stmt.ungroupAll statements) = anyReturns statements := by
  cases statements with
  | nil => rfl
  | cons statement statements =>
      rw [Stmt.ungroupAll, anyReturns, anyReturns, alwaysReturns_ungroup statement,
        anyReturns_ungroupAll statements]

end

theorem blockReturns_regrouped {body other : Block} (regrouped : body.Regrouped other) :
    blockReturns body = blockReturns other := by
  rw [← blockReturns_ungroup body, ← blockReturns_ungroup other, regrouped]

end Typing

end CheckedScript
