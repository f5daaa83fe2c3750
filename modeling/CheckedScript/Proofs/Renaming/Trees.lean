import CheckedScript.Token.Scanner
import CheckedScript.Tree
import Mathlib.Data.List.Forall2
import Mathlib.Logic.Relator

/-!
# Renamed trees

Two programs that differ in the names of things only.  A naming says which names and
which tokens of the two belong together.  No name belongs to two others, and whatever is
called `tuple` is called so in both programs, since the rules of typing look at that name.
-/

namespace CheckedScript

/-- Letters and digits only. -/
def IsWord (name : String) : Prop :=
  ∀ character ∈ name.toList, Scanner.isWordPart [character] = true

instance (name : String) : Decidable (IsWord name) :=
  List.decidableBAll _ name.toList

/-- How the names of one program are replaced by those of another one. -/
structure Naming where
  names : String → String → Prop
  tokens : Token → Token → Prop
  unique : Relator.BiUnique names
  words {name other : String} : names name other → IsWord name ∧ IsWord other
  tuple {name other : String} : names name other → (name = "tuple" ↔ other = "tuple")
  kind {token other : Token} : tokens token other → token.kind = other.kind
  payload {token other : Token} : tokens token other → token.payload = other.payload
  position {token other : Token} : tokens token other → token.position = other.position
  lexeme {token other : Token} :
    tokens token other → token.kind = .identifier → names token.lexeme other.lexeme
  /-- There is one token at a place. -/
  apart {token other another further : Token} :
    tokens token other → tokens another further → token.position = another.position →
      token = another ∧ other = further

/-- The names of the second program are replaced by those of the first one. -/
def Naming.symm (naming : Naming) : Naming where
  names name other := naming.names other name
  tokens token other := naming.tokens other token
  unique := ⟨fun _ _ _ first second => naming.unique.2 first second,
    fun _ _ _ first second => naming.unique.1 first second⟩
  words related := (naming.words related).symm
  tuple related := (naming.tuple related).symm
  kind related := (naming.kind related).symm
  payload related := (naming.payload related).symm
  position related := (naming.position related).symm
  lexeme related isName := naming.lexeme related (naming.kind related ▸ isName)
  apart related others same :=
    (naming.apart related others
      ((naming.position related).trans (same.trans (naming.position others).symm))).symm

/-- Faults of one kind; what they quote may differ. -/
def Fault.Alike (fault other : Fault) : Prop :=
  fault.ctorIdx = other.ctorIdx

/-- The code of a diagnostic and the position it is charged to. -/
def Diagnostic.spot (diagnostic : Diagnostic) : String × Position :=
  (diagnostic.cause.code, diagnostic.token.position)

/-- Two names of the same thing. -/
structure Token.NameRenamed (naming : Naming) (name other : Token) : Prop where
  tokens : naming.tokens name other
  kind : name.kind = .identifier

theorem Token.NameRenamed.names {naming : Naming} {name other : Token}
    (renamed : name.NameRenamed naming other) : naming.names name.lexeme other.lexeme :=
  naming.lexeme renamed.tokens renamed.kind

theorem Token.NameRenamed.lexemes {naming : Naming} {names others : List Token}
    (renamed : List.Forall₂ (Token.NameRenamed naming) names others) :
    List.Forall₂ naming.names (names.map (·.lexeme)) (others.map (·.lexeme)) :=
  List.rel_map (fun _ _ name => name.names) renamed

/-- Expressions that differ in names only. -/
inductive Expr.Renamed (naming : Naming) : Expr → Expr → Prop
  | literal {value : Constant} {token other : Token} :
      naming.tokens token other → Renamed naming (.literal value token) (.literal value other)
  | reference {name other : Token} :
      name.NameRenamed naming other → Renamed naming (.reference name) (.reference other)
  | assign {name other : Token} {value second : Expr} :
      name.NameRenamed naming other → Renamed naming value second →
        Renamed naming (.assign name value) (.assign other second)
  | unary {operator : UnaryOperator} {token other : Token} {operand second : Expr} :
      naming.tokens token other → Renamed naming operand second →
        Renamed naming (.unary operator token operand) (.unary operator other second)
  | binary {operator : BinaryOperator} {token other : Token} {left right first second : Expr} :
      naming.tokens token other → Renamed naming left first → Renamed naming right second →
        Renamed naming (.binary operator token left right) (.binary operator other first second)
  | logical {operator : LogicalOperator} {token other : Token} {left right first second : Expr} :
      naming.tokens token other → Renamed naming left first → Renamed naming right second →
        Renamed naming (.logical operator token left right)
          (.logical operator other first second)
  | group {inner other : Expr} :
      Renamed naming inner other → Renamed naming (.group inner) (.group other)
  | tuple {items others : List Expr} :
      List.Forall₂ (Renamed naming) items others →
        Renamed naming (.tuple items) (.tuple others)
  | call {callee second : Expr} {paren other : Token} {arguments others : List Expr} :
      Renamed naming callee second → naming.tokens paren other →
        List.Forall₂ (Renamed naming) arguments others →
        Renamed naming (.call callee paren arguments) (.call second other others)

/-- Loop bounds that differ in names only. -/
structure Bounds.Renamed (naming : Naming) (bounds other : Bounds) : Prop where
  token : naming.tokens bounds.token other.token
  start : bounds.start.Renamed naming other.start
  stop : bounds.stop.Renamed naming other.stop
  step : Option.Rel (Expr.Renamed naming) bounds.step other.step

mutual

/-- Statements that differ in names only. -/
inductive Stmt.Renamed (naming : Naming) : Stmt → Stmt → Prop
  | expression {value other : Expr} :
      value.Renamed naming other → Stmt.Renamed naming (.expression value) (.expression other)
  | letValue {name other : Token} {declared : Option WrittenType} {initializer second : Expr} :
      name.NameRenamed naming other → initializer.Renamed naming second →
        Stmt.Renamed naming (.letValue name declared initializer)
          (.letValue other declared second)
  | block {body other : Block} :
      Block.Renamed naming body other → Stmt.Renamed naming (.block body) (.block other)
  | ifThen {keyword other : Token} {condition test : Expr} {consequent body : Block} :
      naming.tokens keyword other → condition.Renamed naming test →
        Block.Renamed naming consequent body →
        Stmt.Renamed naming (.ifThen keyword condition consequent) (.ifThen other test body)
  | ifElse {keyword other : Token} {condition test : Expr} {consequent body : Block}
      {alternative second : Stmt} :
      naming.tokens keyword other → condition.Renamed naming test →
        Block.Renamed naming consequent body → Stmt.Renamed naming alternative second →
        Stmt.Renamed naming (.ifElse keyword condition consequent alternative)
          (.ifElse other test body second)
  | whileLoop {keyword other : Token} {condition test : Expr} {body second : Block} :
      naming.tokens keyword other → condition.Renamed naming test →
        Block.Renamed naming body second →
        Stmt.Renamed naming (.whileLoop keyword condition body) (.whileLoop other test second)
  | forLoop {name other : Token} {bounds range : Bounds} {body second : Block} :
      name.NameRenamed naming other → bounds.Renamed naming range →
        Block.Renamed naming body second →
        Stmt.Renamed naming (.forLoop name bounds body) (.forLoop other range second)
  | function {name other : Token} {parameters others : List Token} {body second : Block} :
      name.NameRenamed naming other →
        List.Forall₂ (Token.NameRenamed naming) parameters others →
        Block.Renamed naming body second →
        Stmt.Renamed naming (.function name parameters body) (.function other others second)
  | giveBack {keyword other : Token} {value second : Option Expr} :
      naming.tokens keyword other → Option.Rel (Expr.Renamed naming) value second →
        Stmt.Renamed naming (.giveBack keyword value) (.giveBack other second)

/-- Blocks that differ in names only. -/
inductive Block.Renamed (naming : Naming) : Block → Block → Prop
  | mk {brace other : Token} {statements others : List Stmt} {tail second : Option Expr} :
      naming.tokens brace other → List.Forall₂ (Stmt.Renamed naming) statements others →
        Option.Rel (Expr.Renamed naming) tail second →
        Block.Renamed naming (.mk brace statements tail) (.mk other others second)

end

namespace Block.Renamed

variable {naming : Naming} {body other : Block}

theorem statements (renamed : Block.Renamed naming body other) :
    List.Forall₂ (Stmt.Renamed naming) body.statements other.statements := by
  cases renamed
  assumption

theorem tail (renamed : Block.Renamed naming body other) :
    Option.Rel (Expr.Renamed naming) body.tail other.tail := by
  cases renamed
  assumption

end Block.Renamed

end CheckedScript
