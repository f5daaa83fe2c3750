import CheckedScript.Proofs.Typing.Inhabits

/-!
# Judgements

When expressions, statements and bodies are well typed, said without frames, states or the
order in which a checker goes about its work.  A view tells the types of visible names.  A
world tells for every function what it is made of, what it sees, and which types calls of it
have; it is closed if every one of these calls is borne out by the body of the function.  A
recursive call may be borne out by itself.

Function declarations have no judgement: the bodies of functions that are judged declare no
others.
-/

namespace CheckedScript

namespace Typing

/-- The types of the names that are visible somewhere. -/
abbrev View := String → Option Ty

namespace View

/-- The view with one more name, or with another type for a name. -/
def bind (view : View) (name : String) (type : Ty) : View :=
  fun other => if name = other then some type else view other

/-- The view with several names bound one after the other. -/
def bindAll (view : View) (bindings : Bindings Ty) : View :=
  bindings.foldl (fun view binding => view.bind binding.1 binding.2) view

/-- One view tells no less than another one. -/
def Within (narrow wide : View) : Prop :=
  ∀ name type, narrow name = some type → wide name = some type

theorem Within.refl (view : View) : view.Within view :=
  fun _ _ found => found

theorem Within.trans {first second third : View} (early : first.Within second)
    (late : second.Within third) : first.Within third :=
  fun name type found => late name type (early name type found)

theorem Within.bind {narrow wide : View} (within : narrow.Within wide) (name : String)
    (type : Ty) : (narrow.bind name type).Within (wide.bind name type) := by
  intro other known found
  unfold View.bind at found ⊢
  split
  · next same => rwa [if_pos same] at found
  · next different =>
      rw [if_neg different] at found
      exact within other known found

theorem Within.bindAll {narrow wide : View} (within : narrow.Within wide)
    (bindings : Bindings Ty) : (narrow.bindAll bindings).Within (wide.bindAll bindings) := by
  induction bindings generalizing narrow wide with
  | nil => exact within
  | cons binding bindings inductionHypothesis =>
      exact inductionHypothesis (within.bind binding.1 binding.2)

end View

/-- What is known of functions. -/
structure World where
  /-- The parameters and the body of a function. -/
  code : Nat → Option (List String × Block)
  /-- What a function sees from where it has been declared. -/
  view : Nat → View
  /-- A call of a function for given argument types has a type. -/
  result : Nat → List Ty → Ty → Prop

namespace World

variable (world : World)

/-- The type of a call. -/
inductive Answers : Ty → List Ty → Ty → Prop
  | native {name : String} {parameters : List Ty} {result : Ty} {arguments : List Ty} {type : Ty} :
      nativeCallType name parameters result arguments = .ok type →
      Answers (.native name parameters result) arguments type
  | function {name : String} {identifier : Nat} {arguments : List Ty} {type : Ty} :
      world.result identifier arguments type →
      Answers (.function name identifier) arguments type

mutual

/-- An expression has a type. -/
inductive Types (view : View) : Expr → Ty → Prop
  | literal {value : Constant} {token : Token} :
      Types view (.literal value token) (constantType value)
  | reference {name : Token} {type : Ty} :
      view name.lexeme = some type → Types view (.reference name) type
  | assign {name : Token} {value : Expr} {declared found : Ty} :
      Types view value found → view name.lexeme = some declared →
      declared.compatible found = true → Types view (.assign name value) declared
  | group {inner : Expr} {type : Ty} : Types view inner type → Types view (.group inner) type
  | tuple {items : List Expr} {types : List Ty} :
      TypesAll view items types → Types view (.tuple items) (.tuple types)
  | unary {operator : UnaryOperator} {token : Token} {operand : Expr} {found type : Ty} :
      Types view operand found → unaryType? operator found = some type →
      Types view (.unary operator token operand) type
  | binary {operator : BinaryOperator} {token : Token} {left right : Expr}
      {leftType rightType type : Ty} :
      Types view left leftType → Types view right rightType →
      binaryType? operator leftType rightType = some type →
      Types view (.binary operator token left right) type
  | logical {operator : LogicalOperator} {token : Token} {left right : Expr}
      {leftType rightType : Ty} :
      Types view left leftType → Types view right rightType →
      Ty.bool.compatible leftType = true → Ty.bool.compatible rightType = true →
      Types view (.logical operator token left right) .bool
  | call {callee : Expr} {paren : Token} {arguments : List Expr} {calleeType : Ty}
      {types : List Ty} {type : Ty} :
      Types view callee calleeType → TypesAll view arguments types →
      world.Answers calleeType types type → Types view (.call callee paren arguments) type

/-- Expressions have types, one by one. -/
inductive TypesAll (view : View) : List Expr → List Ty → Prop
  | nil : TypesAll view [] []
  | cons {expr : Expr} {exprs : List Expr} {type : Ty} {types : List Ty} :
      Types view expr type → TypesAll view exprs types →
      TypesAll view (expr :: exprs) (type :: types)

end

/-- What stands at the end of a block has a type. -/
inductive TypesTail (view : View) : Option Expr → Ty → Prop
  | none : TypesTail view none .unit
  | some {tail : Expr} {type : Ty} : world.Types view tail type → TypesTail view (some tail) type

/-- The bound of a loop is a number. -/
def TypesBound (view : View) (bound : Expr) : Prop :=
  ∃ found, world.Types view bound found ∧ Ty.number.compatible found = true

/-- A condition is a truth value. -/
def TypesCondition (view : View) (condition : Expr) : Prop :=
  ∃ found, world.Types view condition found ∧ Ty.bool.compatible found = true

mutual

/-- A statement is well typed where values of a given type may be given back.  A declaration
changes the view of the statements after it. -/
inductive Accepts (result : Ty) : View → Stmt → View → Prop
  | expression {view : View} {value : Expr} {type : Ty} :
      world.Types view value type → Accepts result view (.expression value) view
  | letValue {view : View} {name : Token} {declared : Option WrittenType} {initializer : Expr}
      {found type : Ty} :
      world.Types view initializer found →
      (type = found ∨ ∃ written : WrittenType, type = written.type ∧
        type.compatible found = true) →
      Accepts result view (.letValue name declared initializer) (view.bind name.lexeme type)
  | block {view : View} {body : Block} :
      AcceptsBlock result view body → Accepts result view (.block body) view
  | ifThen {view : View} {keyword : Token} {condition : Expr} {consequent : Block} :
      world.TypesCondition view condition → AcceptsBlock result view consequent →
      Accepts result view (.ifThen keyword condition consequent) view
  | ifElse {view : View} {keyword : Token} {condition : Expr} {consequent : Block}
      {alternative : Stmt} :
      world.TypesCondition view condition → AcceptsBlock result view consequent →
      Accepts result view alternative view →
      Accepts result view (.ifElse keyword condition consequent alternative) view
  | whileLoop {view : View} {keyword : Token} {condition : Expr} {body : Block} :
      world.TypesCondition view condition → AcceptsBlock result view body →
      Accepts result view (.whileLoop keyword condition body) view
  | forLoop {view : View} {name : Token} {bounds : Bounds} {body : Block} :
      world.TypesBound view bounds.start → (∀ step ∈ bounds.step, world.TypesBound view step) →
      world.TypesBound view bounds.stop →
      AcceptsBlock result (view.bind name.lexeme .number) body →
      Accepts result view (.forLoop name bounds body) view
  | unit {view : View} {keyword : Token} :
      result.compatible .unit = true → Accepts result view (.giveBack keyword none) view
  | giveBack {view : View} {keyword : Token} {value : Expr} {found : Ty} :
      world.Types view value found → result.compatible found = true →
      Accepts result view (.giveBack keyword (some value)) view

/-- Statements are well typed, one after the other. -/
inductive AcceptsAll (result : Ty) : View → List Stmt → View → Prop
  | nil {view : View} : AcceptsAll result view [] view
  | cons {view middle after : View} {stmt : Stmt} {stmts : List Stmt} :
      Accepts result view stmt middle → AcceptsAll result middle stmts after →
      AcceptsAll result view (stmt :: stmts) after

/-- A block is well typed. -/
inductive AcceptsBlock (result : Ty) : View → Block → Prop
  | mk {view inner : View} {brace : Token} {statements : List Stmt} {tail : Option Expr}
      {type : Ty} :
      AcceptsAll result view statements inner → world.TypesTail inner tail type →
      AcceptsBlock result view (.mk brace statements tail)

end

/-- The body of a function gives back values of a type: so does every return in it, and so does
what stands at its end, if the end can be reached at all. -/
inductive AcceptsBody (result : Ty) : View → Block → Prop
  | mk {view inner : View} {brace : Token} {statements : List Stmt} {tail : Option Expr}
      {type : Ty} :
      world.AcceptsAll result view statements inner → world.TypesTail inner tail type →
      anyReturns statements = true ∨ result.compatible type = true →
      AcceptsBody result view (.mk brace statements tail)

/-- Every call that has a type has it by the body of the function. -/
structure Closed : Prop where
  definite : ∀ {identifier arguments type}, world.result identifier arguments type →
    type.isDefinite = true
  body : ∀ {identifier arguments type}, world.result identifier arguments type →
    ∃ parameters body, world.code identifier = some (parameters, body) ∧
      parameters.length = arguments.length ∧
      world.AcceptsBody type
        (View.bindAll (world.view identifier) (parameters.zip arguments)) body

end World

end Typing

end CheckedScript
