import CheckedScript.Proofs.Typing.CheckEffect
import CheckedScript.Run

/-!
# The walks of a run and of a check

A run and a check both walk over the tree of a program.  `Evaluation.Visit.Calls`
has one rule for every call that the evaluator makes on its walk: a part of the
tree is visited in the machine that the parts before it have left behind.
`Typing.Visit.Calls` says the same of a check.  Bodies of declared functions are
not part of the tree that is walked over.
-/

namespace CheckedScript

open Typing (Place)

namespace Eval

open Evaluation

variable {machine after : Machine}

theorem orStop_eq_ok {α : Type} {result : Except Evaluation.Stop α} {found : α}
    (equation : orStop result machine = .ok found after) :
    result = .ok found ∧ machine = after := by
  cases result with
  | ok value =>
      obtain ⟨rfl, same⟩ := pure_eq_ok equation
      exact ⟨rfl, same⟩
  | error stop => cases equation

theorem orStop_truth_eq_ok {token : Token} {value : Value} {holds : Bool}
    (equation : orStop (truth token value) machine = .ok holds after) :
    value = .bool holds ∧ machine = after := by
  obtain ⟨tested, same⟩ := orStop_eq_ok equation
  cases value with
  | bool held =>
      cases tested
      exact ⟨rfl, same⟩
  | _ => cases tested

theorem requireArity_eq_ok {name : String} {expected found : Nat} {result : Unit}
    (equation : requireArity name expected found machine = .ok result after) :
    expected = found ∧ machine = after := by
  unfold requireArity at equation
  split at equation
  · next same => exact ⟨same, (pure_eq_ok equation).2⟩
  · cases equation

end Eval

namespace Evaluation

open Eval

/-- What a run is busy with. -/
inductive Task where
  | expression (place : Place) (expr : Expr)
  | expressions (place : Place) (step : Nat) (exprs : List Expr)
  | call (callee : Value) (arguments : List Value)
  | statement (place : Place) (stmt : Stmt)
  | statements (place : Place) (step : Nat) (stmts : List Stmt)
  | body (place : Place) (body : Block)
  | block (place : Place) (body : Block)
  | whileLoop (place : Place) (keyword : Token) (condition : Expr) (body : Block)
  | forLoop (place : Place) (name : String) (range : NumberRange Float) (index : Nat)
      (body : Block)

/-- A task that a run turns to: how much of the bound on the nesting is left, and
the frame and the machine in which the task is carried out. -/
structure Visit where
  fuel : Nat
  frame : FrameId
  machine : Machine
  task : Task

namespace Machine

/-- The frame that is made next. -/
def next (machine : Machine) : FrameId :=
  machine.scopes.frames.size

/-- The machine with a new frame inside a given one. -/
def nested (machine : Machine) (frame : FrameId) : Machine :=
  { machine with scopes := (machine.scopes.nest frame).2 }

/-- The machine with a new frame for a turn of a loop. -/
def turn (machine : Machine) (frame : FrameId) (name : String) (item : Float) : Machine :=
  { machine with
    scopes := (machine.nested frame).scopes.defineAll machine.next [(name, .number item)] }

end Machine

/-- The value of the step of a loop, if it is written. -/
inductive StepValue (natives : List Native) (fuel : Nat) (frame : FrameId) :
    Option Expr → Machine → Option Value → Machine → Prop
  | absent {machine : Machine} : StepValue natives fuel frame none machine none machine
  | written {step : Expr} {machine after : Machine} {value : Value} :
      evaluate natives fuel frame step machine = .ok value after →
        StepValue natives fuel frame (some step) machine (some value) after

/-- The tasks that a task leads to directly. -/
inductive Visit.Calls (natives : List Native) : Visit → Visit → Prop
  | assigned {fuel frame machine place name value} :
      Calls natives ⟨fuel + 1, frame, machine, .expression place (.assign name value)⟩
        ⟨fuel, frame, machine, .expression (place.child 0) value⟩
  | inner {fuel frame machine place expr} :
      Calls natives ⟨fuel + 1, frame, machine, .expression place (.group expr)⟩
        ⟨fuel, frame, machine, .expression (place.child 0) expr⟩
  | items {fuel frame machine place exprs} :
      Calls natives ⟨fuel + 1, frame, machine, .expression place (.tuple exprs)⟩
        ⟨fuel, frame, machine, .expressions place 0 exprs⟩
  | operand {fuel frame machine place operator token expr} :
      Calls natives ⟨fuel + 1, frame, machine, .expression place (.unary operator token expr)⟩
        ⟨fuel, frame, machine, .expression (place.child 0) expr⟩
  | left {fuel frame machine place operator token first second} :
      Calls natives
        ⟨fuel + 1, frame, machine, .expression place (.binary operator token first second)⟩
        ⟨fuel, frame, machine, .expression (place.child 0) first⟩
  | right {fuel frame machine middle place operator token first second value} :
      evaluate natives fuel frame first machine = .ok value middle →
      Calls natives
        ⟨fuel + 1, frame, machine, .expression place (.binary operator token first second)⟩
        ⟨fuel, frame, middle, .expression (place.child 1) second⟩
  | logicalLeft {fuel frame machine place operator token first second} :
      Calls natives
        ⟨fuel + 1, frame, machine, .expression place (.logical operator token first second)⟩
        ⟨fuel, frame, machine, .expression (place.child 0) first⟩
  /-- The right operand matters if the left one does not decide. -/
  | logicalRight {fuel frame machine middle place operator token first second} :
      evaluate natives fuel frame first machine =
        .ok (.bool (decide (operator = .conjunction))) middle →
      Calls natives
        ⟨fuel + 1, frame, machine, .expression place (.logical operator token first second)⟩
        ⟨fuel, frame, middle, .expression (place.child 1) second⟩
  | callee {fuel frame machine place expr paren arguments} :
      Calls natives ⟨fuel + 1, frame, machine, .expression place (.call expr paren arguments)⟩
        ⟨fuel, frame, machine, .expression (place.child 0) expr⟩
  | arguments {fuel frame machine middle place expr paren arguments value} :
      evaluate natives fuel frame expr machine = .ok value middle →
      Calls natives ⟨fuel + 1, frame, machine, .expression place (.call expr paren arguments)⟩
        ⟨fuel, frame, middle, .expressions place 1 arguments⟩
  | call {fuel frame machine middle after place expr paren arguments value values} :
      evaluate natives fuel frame expr machine = .ok value middle →
      evaluateAll natives fuel frame arguments middle = .ok values after →
      Calls natives ⟨fuel + 1, frame, machine, .expression place (.call expr paren arguments)⟩
        ⟨fuel, frame, after, .call value values⟩
  | item {fuel frame machine place step expr exprs} :
      Calls natives ⟨fuel + 1, frame, machine, .expressions place step (expr :: exprs)⟩
        ⟨fuel, frame, machine, .expression (place.child step) expr⟩
  | otherItems {fuel frame machine middle place step expr exprs value} :
      evaluate natives fuel frame expr machine = .ok value middle →
      Calls natives ⟨fuel + 1, frame, machine, .expressions place step (expr :: exprs)⟩
        ⟨fuel, frame, middle, .expressions place (step + 1) exprs⟩
  | value {fuel frame machine place expr} :
      Calls natives ⟨fuel + 1, frame, machine, .statement place (.expression expr)⟩
        ⟨fuel, frame, machine, .expression (place.child 0) expr⟩
  | initializer {fuel frame machine place name declared expr} :
      Calls natives ⟨fuel + 1, frame, machine, .statement place (.letValue name declared expr)⟩
        ⟨fuel, frame, machine, .expression (place.child 0) expr⟩
  | block {fuel frame machine place body} :
      Calls natives ⟨fuel + 1, frame, machine, .statement place (.block body)⟩
        ⟨fuel, frame, machine, .block place body⟩
  | ifCondition {fuel frame machine place keyword condition consequent} :
      Calls natives
        ⟨fuel + 1, frame, machine, .statement place (.ifThen keyword condition consequent)⟩
        ⟨fuel, frame, machine, .expression (place.child 0) condition⟩
  | ifConsequent {fuel frame machine middle place keyword condition consequent} :
      evaluate natives fuel frame condition machine = .ok (.bool true) middle →
      Calls natives
        ⟨fuel + 1, frame, machine, .statement place (.ifThen keyword condition consequent)⟩
        ⟨fuel, frame, middle, .block (place.child 1) consequent⟩
  | elseCondition {fuel frame machine place keyword condition consequent alternative} :
      Calls natives
        ⟨fuel + 1, frame, machine,
          .statement place (.ifElse keyword condition consequent alternative)⟩
        ⟨fuel, frame, machine, .expression (place.child 0) condition⟩
  | elseConsequent {fuel frame machine middle place keyword condition consequent alternative} :
      evaluate natives fuel frame condition machine = .ok (.bool true) middle →
      Calls natives
        ⟨fuel + 1, frame, machine,
          .statement place (.ifElse keyword condition consequent alternative)⟩
        ⟨fuel, frame, middle, .block (place.child 1) consequent⟩
  | alternative {fuel frame machine middle place keyword condition consequent alternative} :
      evaluate natives fuel frame condition machine = .ok (.bool false) middle →
      Calls natives
        ⟨fuel + 1, frame, machine,
          .statement place (.ifElse keyword condition consequent alternative)⟩
        ⟨fuel, frame, middle, .statement (place.child 2) alternative⟩
  | whileLoop {fuel frame machine place keyword condition body} :
      Calls natives
        ⟨fuel + 1, frame, machine, .statement place (.whileLoop keyword condition body)⟩
        ⟨fuel, frame, machine, .whileLoop place keyword condition body⟩
  | whileCondition {fuel frame machine place keyword condition body} :
      Calls natives ⟨fuel + 1, frame, machine, .whileLoop place keyword condition body⟩
        ⟨fuel, frame, machine, .expression (place.child 0) condition⟩
  | whileBody {fuel frame machine middle place keyword condition body} :
      evaluate natives fuel frame condition machine = .ok (.bool true) middle →
      Calls natives ⟨fuel + 1, frame, machine, .whileLoop place keyword condition body⟩
        ⟨fuel, frame, middle, .block (place.child 1) body⟩
  | whileAgain {fuel frame machine middle after place keyword condition body value} :
      evaluate natives fuel frame condition machine = .ok (.bool true) middle →
      executeBlock natives fuel frame body middle = .ok value after →
      Calls natives ⟨fuel + 1, frame, machine, .whileLoop place keyword condition body⟩
        ⟨fuel, frame, after, .whileLoop place keyword condition body⟩
  | forStart {fuel frame machine place name bounds body} :
      Calls natives ⟨fuel + 1, frame, machine, .statement place (.forLoop name bounds body)⟩
        ⟨fuel, frame, machine, .expression (place.child 0) bounds.start⟩
  | forStep {fuel frame machine middle place name bounds body start step} :
      evaluate natives fuel frame bounds.start machine = .ok start middle →
      bounds.step = some step →
      Calls natives ⟨fuel + 1, frame, machine, .statement place (.forLoop name bounds body)⟩
        ⟨fuel, frame, middle, .expression (place.child 1) step⟩
  | forStop {fuel frame machine middle after place name bounds body start step} :
      evaluate natives fuel frame bounds.start machine = .ok start middle →
      StepValue natives fuel frame bounds.step middle step after →
      Calls natives ⟨fuel + 1, frame, machine, .statement place (.forLoop name bounds body)⟩
        ⟨fuel, frame, after, .expression (place.child 2) bounds.stop⟩
  | forLoop {fuel frame machine middle after last place name bounds body start step stop range} :
      evaluate natives fuel frame bounds.start machine = .ok start middle →
      StepValue natives fuel frame bounds.step middle step after →
      evaluate natives fuel frame bounds.stop after = .ok stop last →
      loopRange bounds.token start stop step = .ok range →
      Calls natives ⟨fuel + 1, frame, machine, .statement place (.forLoop name bounds body)⟩
        ⟨fuel, frame, last, .forLoop place name.lexeme range 0 body⟩
  | forBody {fuel frame machine place name range index body item} :
      range.item? index = some item →
      Calls natives ⟨fuel + 1, frame, machine, .forLoop place name range index body⟩
        ⟨fuel, machine.next, machine.turn frame name item, .block (place.child 3) body⟩
  | forAgain {fuel frame machine after place name range index body item value} :
      range.item? index = some item →
      executeBlock natives fuel machine.next body (machine.turn frame name item) =
        .ok value after →
      Calls natives ⟨fuel + 1, frame, machine, .forLoop place name range index body⟩
        ⟨fuel, frame, after, .forLoop place name range (index + 1) body⟩
  | returned {fuel frame machine place keyword expr} :
      Calls natives ⟨fuel + 1, frame, machine, .statement place (.giveBack keyword (some expr))⟩
        ⟨fuel, frame, machine, .expression (place.child 0) expr⟩
  | body {fuel frame machine place body} :
      Calls natives ⟨fuel + 1, frame, machine, .block place body⟩
        ⟨fuel, machine.next, machine.nested frame, .body place body⟩
  | bodyStatements {fuel frame machine place brace stmts tail} :
      Calls natives ⟨fuel + 1, frame, machine, .body place (.mk brace stmts tail)⟩
        ⟨fuel, frame, machine, .statements place 0 stmts⟩
  | bodyTail {fuel frame machine middle place brace stmts tail} :
      executeAll natives fuel frame stmts machine = .ok () middle →
      Calls natives ⟨fuel + 1, frame, machine, .body place (.mk brace stmts (some tail))⟩
        ⟨fuel, frame, middle, .expression (place.child stmts.length) tail⟩
  | first {fuel frame machine place step stmt stmts} :
      Calls natives ⟨fuel + 1, frame, machine, .statements place step (stmt :: stmts)⟩
        ⟨fuel, frame, machine, .statement (place.child step) stmt⟩
  | others {fuel frame machine middle place step stmt stmts value} :
      execute natives fuel frame stmt machine = .ok value middle →
      Calls natives ⟨fuel + 1, frame, machine, .statements place step (stmt :: stmts)⟩
        ⟨fuel, frame, middle, .statements place (step + 1) stmts⟩

/-- The visits of a run of a program, with a bound on its nesting, on a new
machine. -/
inductive Visited (natives : List Native) (bound : Nat) (program : Program) : Visit → Prop
  | top {before after : List Stmt} {stmt : Stmt} {value : Value} {machine : Machine} :
      program = before ++ stmt :: after →
      executeProgram natives bound Machine.root .unit before (Machine.start natives) =
        .ok value machine →
      Visited natives bound program
        ⟨bound, Machine.root, machine, .statement ((Place.root 0).child before.length) stmt⟩
  | call {visit called : Visit} :
      Visited natives bound program visit → visit.Calls natives called →
      Visited natives bound program called

end Evaluation

namespace Typing

open Check

/-- What a check is busy with. -/
inductive Task where
  | expression (place : Place) (expr : Expr)
  | expressions (place : Place) (step : Nat) (exprs : List Expr)
  | statement (place : Place) (stmt : Stmt)
  | statements (place : Place) (step : Nat) (stmts : List Stmt)
  | block (place : Place) (body : Block)

/-- A task that a check turns to, in a frame and a state. -/
structure Visit where
  fuel : Nat
  frame : FrameId
  state : State
  task : Task

/-- The check of the step of a loop, if it is written. -/
inductive StepChecked (fuel : Nat) (frame : FrameId) (place : Place) (token : Token) :
    Option Expr → State → State → Prop
  | absent {state : State} : StepChecked fuel frame place token none state state
  | written {step : Expr} {state after : State} :
      checkBound fuel frame place token step state = .ok () after →
        StepChecked fuel frame place token (some step) state after

/-- The tasks that a task leads to directly. -/
inductive Visit.Calls : Visit → Visit → Prop
  | assigned {fuel frame state place name value} :
      Calls ⟨fuel + 2, frame, state, .expression place (.assign name value)⟩
        ⟨fuel, frame, state, .expression (place.child 0) value⟩
  | inner {fuel frame state place expr} :
      Calls ⟨fuel + 2, frame, state, .expression place (.group expr)⟩
        ⟨fuel, frame, state, .expression (place.child 0) expr⟩
  | items {fuel frame state place exprs} :
      Calls ⟨fuel + 2, frame, state, .expression place (.tuple exprs)⟩
        ⟨fuel, frame, state, .expressions place 0 exprs⟩
  | operand {fuel frame state place operator token expr} :
      Calls ⟨fuel + 2, frame, state, .expression place (.unary operator token expr)⟩
        ⟨fuel, frame, state, .expression (place.child 0) expr⟩
  | left {fuel frame state place operator token first second} :
      Calls ⟨fuel + 2, frame, state, .expression place (.binary operator token first second)⟩
        ⟨fuel, frame, state, .expression (place.child 0) first⟩
  | right {fuel frame state middle place operator token first second type} :
      typeOf fuel frame (place.child 0) first state = .ok type middle →
      Calls ⟨fuel + 2, frame, state, .expression place (.binary operator token first second)⟩
        ⟨fuel, frame, middle, .expression (place.child 1) second⟩
  | logicalLeft {fuel frame state place operator token first second} :
      Calls ⟨fuel + 2, frame, state, .expression place (.logical operator token first second)⟩
        ⟨fuel, frame, state, .expression (place.child 0) first⟩
  | logicalRight {fuel frame state middle place operator token first second type} :
      typeOf fuel frame (place.child 0) first state = .ok type middle →
      Calls ⟨fuel + 2, frame, state, .expression place (.logical operator token first second)⟩
        ⟨fuel, frame, middle, .expression (place.child 1) second⟩
  | callee {fuel frame state place expr paren arguments} :
      Calls ⟨fuel + 2, frame, state, .expression place (.call expr paren arguments)⟩
        ⟨fuel, frame, state, .expression (place.child 0) expr⟩
  | arguments {fuel frame state middle place expr paren arguments type} :
      typeOf fuel frame (place.child 0) expr state = .ok type middle →
      Calls ⟨fuel + 2, frame, state, .expression place (.call expr paren arguments)⟩
        ⟨fuel, frame, middle, .expressions place 1 arguments⟩
  | item {fuel frame state place step expr exprs} :
      Calls ⟨fuel + 1, frame, state, .expressions place step (expr :: exprs)⟩
        ⟨fuel, frame, state, .expression (place.child step) expr⟩
  | otherItems {fuel frame state middle place step expr exprs type} :
      typeOf fuel frame (place.child step) expr state = .ok type middle →
      Calls ⟨fuel + 1, frame, state, .expressions place step (expr :: exprs)⟩
        ⟨fuel, frame, middle, .expressions place (step + 1) exprs⟩
  | value {fuel frame state place expr} :
      Calls ⟨fuel + 1, frame, state, .statement place (.expression expr)⟩
        ⟨fuel, frame, state, .expression (place.child 0) expr⟩
  | initializer {fuel frame state place name declared expr} :
      Calls ⟨fuel + 2, frame, state, .statement place (.letValue name declared expr)⟩
        ⟨fuel, frame, state, .expression (place.child 0) expr⟩
  | block {fuel frame state place body} :
      Calls ⟨fuel + 1, frame, state, .statement place (.block body)⟩
        ⟨fuel, frame, state, .block place body⟩
  | ifCondition {fuel frame state place keyword condition consequent} :
      Calls ⟨fuel + 2, frame, state, .statement place (.ifThen keyword condition consequent)⟩
        ⟨fuel, frame, state, .expression (place.child 0) condition⟩
  | ifConsequent {fuel frame state middle place keyword condition consequent} :
      checkCondition fuel frame (place.child 0) keyword condition state = .ok () middle →
      Calls ⟨fuel + 1, frame, state, .statement place (.ifThen keyword condition consequent)⟩
        ⟨fuel, frame, middle, .block (place.child 1) consequent⟩
  | elseCondition {fuel frame state place keyword condition consequent alternative} :
      Calls
        ⟨fuel + 2, frame, state,
          .statement place (.ifElse keyword condition consequent alternative)⟩
        ⟨fuel, frame, state, .expression (place.child 0) condition⟩
  | elseConsequent {fuel frame state middle place keyword condition consequent alternative} :
      checkCondition fuel frame (place.child 0) keyword condition state = .ok () middle →
      Calls
        ⟨fuel + 1, frame, state,
          .statement place (.ifElse keyword condition consequent alternative)⟩
        ⟨fuel, frame, middle, .block (place.child 1) consequent⟩
  | alternative {fuel frame state middle after place keyword condition consequent alternative
      type} :
      checkCondition fuel frame (place.child 0) keyword condition state = .ok () middle →
      checkBlock fuel frame (place.child 1) consequent middle = .ok type after →
      Calls
        ⟨fuel + 1, frame, state,
          .statement place (.ifElse keyword condition consequent alternative)⟩
        ⟨fuel, frame, after, .statement (place.child 2) alternative⟩
  | whileCondition {fuel frame state place keyword condition body} :
      Calls ⟨fuel + 2, frame, state, .statement place (.whileLoop keyword condition body)⟩
        ⟨fuel, frame, state, .expression (place.child 0) condition⟩
  | whileBody {fuel frame state middle place keyword condition body} :
      checkCondition fuel frame (place.child 0) keyword condition state = .ok () middle →
      Calls ⟨fuel + 1, frame, state, .statement place (.whileLoop keyword condition body)⟩
        ⟨fuel, frame, middle, .block (place.child 1) body⟩
  | forStart {fuel frame state place name bounds body} :
      Calls ⟨fuel + 2, frame, state, .statement place (.forLoop name bounds body)⟩
        ⟨fuel, frame, state, .expression (place.child 0) bounds.start⟩
  | forStep {fuel frame state middle place name bounds body step} :
      checkBound (fuel + 1) frame (place.child 0) bounds.token bounds.start state =
        .ok () middle →
      bounds.step = some step →
      Calls ⟨fuel + 2, frame, state, .statement place (.forLoop name bounds body)⟩
        ⟨fuel, frame, middle, .expression (place.child 1) step⟩
  | forStop {fuel frame state middle after place name bounds body} :
      checkBound (fuel + 1) frame (place.child 0) bounds.token bounds.start state =
        .ok () middle →
      StepChecked (fuel + 1) frame (place.child 1) bounds.token bounds.step middle after →
      Calls ⟨fuel + 2, frame, state, .statement place (.forLoop name bounds body)⟩
        ⟨fuel, frame, after, .expression (place.child 2) bounds.stop⟩
  | forBody {fuel frame state middle after last place name bounds body} :
      checkBound fuel frame (place.child 0) bounds.token bounds.start state = .ok () middle →
      StepChecked fuel frame (place.child 1) bounds.token bounds.step middle after →
      checkBound fuel frame (place.child 2) bounds.token bounds.stop after = .ok () last →
      Calls ⟨fuel + 1, frame, state, .statement place (.forLoop name bounds body)⟩
        ⟨fuel, last.next, last.turn frame name.lexeme, .block (place.child 3) body⟩
  | returned {fuel frame state place keyword expr} :
      Calls ⟨fuel + 1, frame, state, .statement place (.giveBack keyword (some expr))⟩
        ⟨fuel, frame, state, .expression (place.child 0) expr⟩
  | blockStatements {fuel frame state place brace stmts tail} :
      Calls ⟨fuel + 1, frame, state, .block place (.mk brace stmts tail)⟩
        ⟨fuel, state.next, state.nested frame, .statements place 0 stmts⟩
  | blockTail {fuel frame state middle place brace stmts tail} :
      checkAll fuel state.next place 0 stmts (state.nested frame) = .ok () middle →
      Calls ⟨fuel + 1, frame, state, .block place (.mk brace stmts (some tail))⟩
        ⟨fuel, state.next, middle, .expression (place.child stmts.length) tail⟩
  | first {fuel frame state place step stmt stmts} :
      Calls ⟨fuel + 1, frame, state, .statements place step (stmt :: stmts)⟩
        ⟨fuel, frame, state, .statement (place.child step) stmt⟩
  | others {fuel frame state middle place step stmt stmts type} :
      reporting (checkStmt fuel frame (place.child step) stmt) state = .ok type middle →
      Calls ⟨fuel + 1, frame, state, .statements place step (stmt :: stmts)⟩
        ⟨fuel, frame, middle, .statements place (step + 1) stmts⟩

/-- A return outside of all bodies is refused before its value is looked at. -/
def Visit.refused : Visit → Bool
  | ⟨_, _, state, .statement _ (.giveBack _ _)⟩ => state.activations.isEmpty
  | _ => false

/-- The state before the first statement of the first program, in which the native
functions are bound in the root frame. -/
def State.start (natives : Bindings Signature) : State :=
  { scopes := Scopes.root.defineAll 0 (natives.map fun (name, signature) => (name, signature.type))
    programs := 1 }

/-- One more statement is checked after others. -/
theorem checkStatements_append {fuel : Nat} {frame : FrameId} {place : Place} {step : Nat}
    {first last : Ty} {done : List Stmt} {stmt : Stmt} {result : Option Ty}
    {before middle after : State}
    (equation : checkStatements fuel frame place step first done before = .ok last middle)
    (checked : reporting (checkStmt fuel frame (place.child (step + done.length)) stmt) middle =
      .ok result after) :
    checkStatements fuel frame place step first (done ++ [stmt]) before =
      .ok (result.getD .unit) after := by
  induction done generalizing step first before with
  | nil =>
      obtain ⟨rfl, rfl⟩ := pure_eq_ok equation
      rw [List.length_nil, Nat.add_zero] at checked
      rw [List.nil_append, checkStatements, bind_apply, checked]
      rfl
  | cons head done inductionHypothesis =>
      rw [checkStatements] at equation
      obtain ⟨found, next, reported, rest⟩ := bind_eq_ok equation
      rw [List.length_cons, Nat.add_comm done.length, ← Nat.add_assoc] at checked
      rw [List.cons_append, checkStatements, bind_apply, reported]
      exact inductionHypothesis rest checked

/-- The visits of a check of a program, with a bound on its nesting. -/
inductive Visited (natives : Bindings Signature) (bound : Nat) (program : Program) : Visit → Prop
  | top {before after : List Stmt} {stmt : Stmt} {type : Ty} {state : State} :
      program = before ++ stmt :: after →
      checkStatements bound 0 (Place.root 0) 0 .unit before (State.start natives) =
        .ok type state →
      Visited natives bound program
        ⟨bound, 0, state, .statement ((Place.root 0).child before.length) stmt⟩
  | call {visit called : Visit} :
      Visited natives bound program visit → visit.Calls called → visit.refused = false →
      Visited natives bound program called

end Typing

end CheckedScript
