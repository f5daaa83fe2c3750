import CheckedScript.Proofs.Reader.KeptTokens
import CheckedScript.Proofs.Recovery.Trees
import CheckedScript.Typing.Rules

/-!
# Programs with another initializer

Two programs that differ in the initializer of one annotated `let` statement.  If all that can
be wrong with the statement is charged to hidden positions, and no other token of the program
stands at one of them, the rest of the two programs is the same and stays in sight.
-/

namespace CheckedScript

/-- An expression without calls. -/
inductive Expr.CallFree : Expr → Prop
  | literal {value : Constant} {token : Token} : CallFree (.literal value token)
  | reference {name : Token} : CallFree (.reference name)
  | assign {name : Token} {value : Expr} : CallFree value → CallFree (.assign name value)
  | unary {operator : UnaryOperator} {token : Token} {operand : Expr} :
      CallFree operand → CallFree (.unary operator token operand)
  | binary {operator : BinaryOperator} {token : Token} {left right : Expr} :
      CallFree left → CallFree right → CallFree (.binary operator token left right)
  | logical {operator : LogicalOperator} {token : Token} {left right : Expr} :
      CallFree left → CallFree right → CallFree (.logical operator token left right)
  | group {inner : Expr} : CallFree inner → CallFree (.group inner)
  | tuple {items : List Expr} : (∀ item ∈ items, CallFree item) → CallFree (.tuple items)

/-- An annotated `let` statement and another initializer for it. -/
structure Exchange where
  name : Token
  written : WrittenType
  old : Expr
  new : Expr

namespace Exchange

variable (exchange : Exchange)

/-- The statement with the old initializer. -/
def before : Stmt :=
  .letValue exchange.name (some exchange.written) exchange.old

/-- The statement with the new initializer. -/
def after : Stmt :=
  .letValue exchange.name (some exchange.written) exchange.new

end Exchange

section Relations

variable (exchange : Exchange)

mutual

/-- Statements of which the second one has the new initializer inside. -/
inductive Stmt.Exchanged : Stmt → Stmt → Prop
  | block {body other : Block} :
      Block.Exchanged body other → Stmt.Exchanged (.block body) (.block other)
  | ifThen (keyword : Token) (condition : Expr) {consequent other : Block} :
      Block.Exchanged consequent other →
        Stmt.Exchanged (.ifThen keyword condition consequent) (.ifThen keyword condition other)
  | consequent (keyword : Token) (condition : Expr) {consequent other : Block}
      (alternative : Stmt) :
      Block.Exchanged consequent other →
        Stmt.Exchanged (.ifElse keyword condition consequent alternative)
          (.ifElse keyword condition other alternative)
  | alternative (keyword : Token) (condition : Expr) (consequent : Block)
      {alternative other : Stmt} :
      Stmt.Exchanged alternative other →
        Stmt.Exchanged (.ifElse keyword condition consequent alternative)
          (.ifElse keyword condition consequent other)
  | whileLoop (keyword : Token) (condition : Expr) {body other : Block} :
      Block.Exchanged body other →
        Stmt.Exchanged (.whileLoop keyword condition body) (.whileLoop keyword condition other)
  | forLoop (name : Token) (bounds : Bounds) {body other : Block} :
      Block.Exchanged body other →
        Stmt.Exchanged (.forLoop name bounds body) (.forLoop name bounds other)
  | function (name : Token) (parameters : List Token) {body other : Block} :
      Block.Exchanged body other →
        Stmt.Exchanged (.function name parameters body) (.function name parameters other)

/-- Blocks of which the second one has the new initializer inside. -/
inductive Block.Exchanged : Block → Block → Prop
  | mk (brace : Token) {statements others : List Stmt} (tail : Option Expr) :
      Program.Exchanged statements others →
        Block.Exchanged (.mk brace statements tail) (.mk brace others tail)

/-- Programs of which the second one has the new initializer in place of the old one.  A `let`
statement stands among others: what follows `else` is a block or a conditional. -/
inductive Program.Exchanged : Program → Program → Prop
  | here (stmts : List Stmt) : Program.Exchanged (exchange.before :: stmts) (exchange.after :: stmts)
  | inside {stmt other : Stmt} (stmts : List Stmt) :
      Stmt.Exchanged stmt other → Program.Exchanged (stmt :: stmts) (other :: stmts)
  | later (stmt : Stmt) {stmts others : List Stmt} :
      Program.Exchanged stmts others → Program.Exchanged (stmt :: stmts) (stmt :: others)

end

variable (hidden : Position → Bool)

/-- Tokens in sight. -/
def Clear (tokens : List Token) : Prop :=
  ∀ token ∈ tokens, hidden token.position = false

mutual

/-- Statements in sight that differ in exchanged initializers only. -/
inductive Stmt.Revised : Stmt → Stmt → Prop
  | expression {value : Expr} :
      Clear hidden value.tokens → Stmt.Revised (.expression value) (.expression value)
  | letValue {name : Token} (declared : Option WrittenType) {initializer : Expr} :
      Clear hidden (name :: initializer.tokens) →
        Stmt.Revised (.letValue name declared initializer) (.letValue name declared initializer)
  | block {body other : Block} :
      Block.Revised body other → Stmt.Revised (.block body) (.block other)
  | ifThen {keyword : Token} {condition : Expr} {consequent other : Block} :
      Clear hidden (keyword :: condition.tokens) → Block.Revised consequent other →
        Stmt.Revised (.ifThen keyword condition consequent) (.ifThen keyword condition other)
  | ifElse {keyword : Token} {condition : Expr} {consequent other : Block}
      {alternative further : Stmt} :
      Clear hidden (keyword :: condition.tokens) → Block.Revised consequent other →
        Stmt.Revised alternative further →
        Stmt.Revised (.ifElse keyword condition consequent alternative)
          (.ifElse keyword condition other further)
  | whileLoop {keyword : Token} {condition : Expr} {body other : Block} :
      Clear hidden (keyword :: condition.tokens) → Block.Revised body other →
        Stmt.Revised (.whileLoop keyword condition body) (.whileLoop keyword condition other)
  | forLoop (name : Token) {bounds : Bounds} {body other : Block} :
      Clear hidden bounds.tokens → Block.Revised body other →
        Stmt.Revised (.forLoop name bounds body) (.forLoop name bounds other)
  | function {name : Token} (parameters : List Token) {body other : Block} :
      hidden name.position = false → Block.Revised body other →
        Stmt.Revised (.function name parameters body) (.function name parameters other)
  | giveBack {keyword : Token} {value : Option Expr} :
      Clear hidden (keyword :: Expr.optionTokens value) →
        Stmt.Revised (.giveBack keyword value) (.giveBack keyword value)

/-- Blocks in sight that differ in exchanged initializers only. -/
inductive Block.Revised : Block → Block → Prop
  | mk (brace : Token) {statements others : List Stmt} {tail : Option Expr} :
      Program.Revised statements others → Clear hidden (Expr.optionTokens tail) →
        Block.Revised (.mk brace statements tail) (.mk brace others tail)

/-- Statements in sight, the exchanged ones apart. -/
inductive Program.Revised : Program → Program → Prop
  | nil : Program.Revised [] []
  | exchanged {stmts others : List Stmt} :
      Program.Revised stmts others →
        Program.Revised (exchange.before :: stmts) (exchange.after :: others)
  | cons {stmt other : Stmt} {stmts others : List Stmt} :
      Stmt.Revised stmt other → Program.Revised stmts others →
        Program.Revised (stmt :: stmts) (other :: others)

end

end Relations

variable {exchange : Exchange} {hidden : Position → Bool}

theorem Expr.mem_allTokens {items : List Expr} {token : Token} :
    token ∈ Expr.allTokens items ↔ ∃ item ∈ items, token ∈ item.tokens := by
  induction items with
  | nil => simp [Expr.allTokens]
  | cons item items inductionHypothesis => simp [Expr.allTokens, inductionHypothesis]

namespace Clear

variable {token : Token} {first second : List Token}

theorem append (clear : Clear hidden (first ++ second)) : Clear hidden first ∧ Clear hidden second :=
  List.forall_mem_append.1 clear

theorem head (clear : Clear hidden (token :: first)) : hidden token.position = false :=
  (List.forall_mem_cons.1 clear).1

theorem tail (clear : Clear hidden (token :: first)) : Clear hidden first :=
  (List.forall_mem_cons.1 clear).2

end Clear

theorem Expr.CallFree.confined {expr : Expr} (callFree : expr.CallFree)
    (outOfSight : ∀ token ∈ expr.tokens, hidden token.position = true) : expr.Confined hidden := by
  induction callFree with
  | literal => exact .literal
  | reference => exact .reference (outOfSight _ (by simp [Expr.tokens]))
  | assign _ value =>
      exact .assign (outOfSight _ (by simp [Expr.tokens]))
        (value fun token inside => outOfSight token (by simp [Expr.tokens, inside]))
  | unary _ operand =>
      exact .unary (outOfSight _ (by simp [Expr.tokens]))
        (operand fun token inside => outOfSight token (by simp [Expr.tokens, inside]))
  | binary _ _ left right =>
      exact .binary (outOfSight _ (by simp [Expr.tokens]))
        (left fun token inside => outOfSight token (by simp [Expr.tokens, inside]))
        (right fun token inside => outOfSight token (by simp [Expr.tokens, inside]))
  | logical _ _ left right =>
      exact .logical (outOfSight _ (by simp [Expr.tokens]))
        (left fun token inside => outOfSight token (by simp [Expr.tokens, inside]))
        (right fun token inside => outOfSight token (by simp [Expr.tokens, inside]))
  | group _ inner => exact .group (inner outOfSight)
  | tuple _ items =>
      exact .tuple fun item member => items item member fun token inside =>
        outOfSight token (Expr.mem_allTokens.2 ⟨item, member, inside⟩)

mutual

theorem Stmt.revised_of_clear {stmt : Stmt} (clear : Clear hidden stmt.tokens) :
    stmt.Revised exchange hidden stmt := by
  cases stmt with
  | expression => exact .expression clear
  | letValue => exact .letValue _ clear
  | block => exact .block (Block.revised_of_clear clear)
  | ifThen =>
      obtain ⟨test, consequent⟩ := clear.append
      exact .ifThen test (Block.revised_of_clear consequent)
  | ifElse =>
      obtain ⟨first, alternative⟩ := clear.append
      obtain ⟨test, consequent⟩ := first.append
      exact .ifElse test (Block.revised_of_clear consequent) (Stmt.revised_of_clear alternative)
  | whileLoop =>
      obtain ⟨test, body⟩ := clear.append
      exact .whileLoop test (Block.revised_of_clear body)
  | forLoop =>
      obtain ⟨header, body⟩ := clear.append
      exact .forLoop _ header.tail (Block.revised_of_clear body)
  | function =>
      obtain ⟨header, body⟩ := clear.append
      exact .function _ header.head (Block.revised_of_clear body)
  | giveBack => exact .giveBack clear

theorem Block.revised_of_clear {body : Block} (clear : Clear hidden body.tokens) :
    body.Revised exchange hidden body := by
  cases body with
  | mk brace statements tail =>
      obtain ⟨inside, last⟩ := clear.append
      exact .mk brace (Program.revised_of_clear inside.tail) last

theorem Program.revised_of_clear {program : Program} (clear : Clear hidden program.tokens) :
    program.Revised exchange hidden program := by
  cases program with
  | nil => exact .nil
  | cons stmt stmts =>
      obtain ⟨first, others⟩ := clear.append
      exact .cons (Stmt.revised_of_clear first) (Program.revised_of_clear others)

end

mutual

/-- The exchanged statement is part of the program. -/
theorem Stmt.Exchanged.subset {stmt other : Stmt} (exchanged : stmt.Exchanged exchange other) :
    exchange.before.tokens ⊆ stmt.tokens := by
  cases exchanged with
  | block body => exact body.subset
  | ifThen _ _ body | whileLoop _ _ body | forLoop _ _ body | function _ _ body =>
      exact List.Subset.trans body.subset (List.subset_append_right _ _)
  | consequent _ _ _ body =>
      exact List.Subset.trans body.subset
        (List.Subset.trans (List.subset_append_right _ _) (List.subset_append_left _ _))
  | alternative _ _ _ stmt =>
      exact List.Subset.trans stmt.subset (List.subset_append_right _ _)

theorem Block.Exchanged.subset {body other : Block} (exchanged : body.Exchanged exchange other) :
    exchange.before.tokens ⊆ body.tokens := by
  cases exchanged with
  | mk brace tail statements =>
      exact List.Subset.trans statements.subset
        (List.Subset.trans (List.subset_cons_self _ _) (List.subset_append_left _ _))

theorem Program.Exchanged.subset {program other : Program}
    (exchanged : program.Exchanged exchange other) :
    exchange.before.tokens ⊆ program.tokens := by
  cases exchanged with
  | here => exact List.subset_append_left _ _
  | inside _ stmt => exact List.Subset.trans stmt.subset (List.subset_append_left _ _)
  | later _ stmts => exact List.Subset.trans stmts.subset (List.subset_append_right _ _)

end

/-- Of some tokens, which stand at distinct positions, only those of the exchanged statement
are hidden. -/
structure Exchange.Alone (exchange : Exchange) (hidden : Position → Bool) (tokens : List Token) :
    Prop where
  apart : (tokens.map (·.position)).Nodup
  only : ∀ token ∈ tokens, hidden token.position = true → token ∈ exchange.before.tokens

namespace Exchange.Alone

variable {tokens part first second : List Token}

theorem sublist (alone : exchange.Alone hidden tokens) (kept : part.Sublist tokens) :
    exchange.Alone hidden part where
  apart := alone.apart.sublist (kept.map _)
  only token inside := alone.only token (kept.subset inside)

theorem left (alone : exchange.Alone hidden (first ++ second)) : exchange.Alone hidden first :=
  alone.sublist (List.sublist_append_left _ _)

theorem right (alone : exchange.Alone hidden (first ++ second)) : exchange.Alone hidden second :=
  alone.sublist (List.sublist_append_right _ _)

/-- Tokens before those among which the exchanged statement is. -/
theorem clear_left (alone : exchange.Alone hidden (first ++ second))
    (inside : exchange.before.tokens ⊆ second) : Clear hidden first := by
  intro token member
  rw [← Bool.not_eq_true]
  intro isHidden
  have apart := alone.apart
  rw [List.map_append] at apart
  have also := inside (alone.only token (List.mem_append_left _ member) isHidden)
  exact List.disjoint_of_nodup_append apart (List.mem_map_of_mem member) (List.mem_map_of_mem also)

/-- Tokens after those among which the exchanged statement is. -/
theorem clear_right (alone : exchange.Alone hidden (first ++ second))
    (inside : exchange.before.tokens ⊆ first) : Clear hidden second := by
  intro token member
  rw [← Bool.not_eq_true]
  intro isHidden
  have apart := alone.apart
  rw [List.map_append] at apart
  have also := inside (alone.only token (List.mem_append_right _ member) isHidden)
  exact List.disjoint_of_nodup_append apart (List.mem_map_of_mem also) (List.mem_map_of_mem member)

end Exchange.Alone

mutual

theorem Stmt.Exchanged.revised {stmt other : Stmt} (exchanged : stmt.Exchanged exchange other)
    (alone : exchange.Alone hidden stmt.tokens) : stmt.Revised exchange hidden other := by
  cases exchanged with
  | block body => exact .block (body.revised alone)
  | ifThen _ _ body =>
      exact .ifThen (alone.clear_left body.subset) (body.revised alone.right)
  | consequent _ _ _ body =>
      have alternative := alone.clear_right
        (List.Subset.trans body.subset (List.subset_append_right _ _))
      exact .ifElse (alone.left.clear_left body.subset) (body.revised alone.left.right)
        (Stmt.revised_of_clear alternative)
  | alternative _ _ _ stmt =>
      obtain ⟨test, consequent⟩ := (alone.clear_left stmt.subset).append
      exact .ifElse test (Block.revised_of_clear consequent) (stmt.revised alone.right)
  | whileLoop _ _ body =>
      exact .whileLoop (alone.clear_left body.subset) (body.revised alone.right)
  | forLoop _ _ body =>
      exact .forLoop _ (alone.clear_left body.subset).tail (body.revised alone.right)
  | function _ _ body =>
      exact .function _ (alone.clear_left body.subset).head (body.revised alone.right)

theorem Block.Exchanged.revised {body other : Block} (exchanged : body.Exchanged exchange other)
    (alone : exchange.Alone hidden body.tokens) : body.Revised exchange hidden other := by
  cases exchanged with
  | mk brace tail statements =>
      exact .mk brace (statements.revised (alone.left.sublist (List.sublist_cons_self _ _)))
        (alone.clear_right (List.subset_cons_of_subset _ statements.subset))

theorem Program.Exchanged.revised {program other : Program}
    (exchanged : program.Exchanged exchange other)
    (alone : exchange.Alone hidden program.tokens) : program.Revised exchange hidden other := by
  cases exchanged with
  | here => exact .exchanged (Program.revised_of_clear (alone.clear_right (List.Subset.refl _)))
  | inside _ stmt =>
      exact .cons (stmt.revised alone.left)
        (Program.revised_of_clear (alone.clear_right stmt.subset))
  | later _ stmts =>
      exact .cons (Stmt.revised_of_clear (alone.clear_left stmts.subset))
        (stmts.revised alone.right)

end

theorem Program.Revised.length_eq {program other : Program}
    (revised : program.Revised exchange hidden other) : program.length = other.length := by
  cases revised with
  | nil => rfl
  | exchanged stmts | cons _ stmts => rw [List.length_cons, List.length_cons, stmts.length_eq]

theorem Block.Revised.statements {body other : Block} (revised : body.Revised exchange hidden other) :
    Program.Revised exchange hidden body.statements other.statements := by
  cases revised with
  | mk _ statements _ => exact statements

theorem Block.Revised.tail {body other : Block} (revised : body.Revised exchange hidden other) :
    body.tail = other.tail ∧ Clear hidden (Expr.optionTokens other.tail) := by
  cases revised with
  | mk _ _ tail => exact ⟨rfl, tail⟩

namespace Typing

mutual

theorem alwaysReturns_revised {stmt other : Stmt} (revised : stmt.Revised exchange hidden other) :
    alwaysReturns stmt = alwaysReturns other := by
  cases revised with
  | block body => exact blockReturns_revised body
  | ifElse _ consequent alternative =>
      rw [alwaysReturns, alwaysReturns, blockReturns_revised consequent,
        alwaysReturns_revised alternative]
  | _ => rfl

theorem blockReturns_revised {body other : Block} (revised : body.Revised exchange hidden other) :
    blockReturns body = blockReturns other := by
  cases revised with
  | mk _ statements _ => exact anyReturns_revised statements

theorem anyReturns_revised {stmts others : List Stmt}
    (revised : Program.Revised exchange hidden stmts others) :
    anyReturns stmts = anyReturns others := by
  cases revised with
  | nil => rfl
  | exchanged stmts =>
      rw [anyReturns, anyReturns, anyReturns_revised stmts]
      rfl
  | cons stmt stmts =>
      rw [anyReturns, anyReturns, alwaysReturns_revised stmt, anyReturns_revised stmts]

end

end Typing

end CheckedScript
