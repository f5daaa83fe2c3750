import CheckedScript.Evaluation.Evaluate
import CheckedScript.Proofs.Anchors.Computations
import CheckedScript.Proofs.Shape

/-!
# What single steps keep, runs keep

A run changes the machine in few ways: it makes frames, declares names in them, assigns to
names that are there, and calls native functions.  What all of these steps keep, every part of
a run keeps.

Some frames are open to declarations, those to be made included.  The statements of a block, of
a function and of a turn of a loop are executed in a frame that has just been made, so that a
declaration made elsewhere is one of the statement itself.
-/

namespace CheckedScript

namespace Eval

open Evaluation

variable {holds : Machine → Prop} {isOpen : FrameId → Prop} {natives : List Native}

/-- What is known of a run if something holds of the machine. -/
def upholding (holds : Machine → Prop) : Guard Stop Machine where
  stop _ := True
  state := holds

/-- A computation that keeps what holds of the machine, however it ends. -/
abbrev Upholds {α : Type} (holds : Machine → Prop) (computation : Eval α) : Prop :=
  (upholding holds).Keeps (fun _ => True) computation

/-- The steps of a run that change the machine keep what holds of it, and new frames are open. -/
structure StepsUphold (holds : Machine → Prop) (isOpen : FrameId → Prop)
    (natives : List Native) : Prop where
  nest : ∀ frame, (upholding holds).Keeps isOpen (nest frame)
  define : ∀ frame bindings, isOpen frame → Upholds holds (define frame bindings)
  assign : ∀ frame name value, Upholds holds (assign frame name value)
  callNative : ∀ native ∈ natives, ∀ arguments paren,
    Upholds holds (callNative native arguments paren)

section Steps

variable {α : Type}

theorem upholds_orStop (result : Except Stop α) : Upholds holds (orStop result) := by
  cases result with
  | ok value => exact .pure trivial
  | error stop => exact .throw trivial

theorem upholds_lookup (frame : FrameId) (name : String) : Upholds holds (lookup frame name) := by
  refine .get fun machine _ => ?_
  cases machine.scopes.get? frame name with
  | some value => exact .pure trivial
  | none => exact .throw trivial

theorem upholds_requireArity (name : String) (expected found : Nat) :
    Upholds holds (requireArity name expected found) := by
  unfold requireArity
  split
  · exact .pure trivial
  · exact .throw trivial

theorem upholds_catchReturn {body : Eval Value} (upholds : Upholds holds body) :
    Upholds holds (catchReturn body) := by
  intro machine known
  have ended := upholds machine known
  unfold catchReturn
  cases equation : body machine with
  | ok value after =>
      rw [equation] at ended
      exact ended
  | error stop after =>
      rw [equation] at ended
      cases stop <;> exact ended

end Steps

/-- With a bound on the nesting, whatever is executed in an open frame keeps what holds of the
machine, and so does in any frame whatever does not declare a name by itself. -/
structure RunsUphold (holds : Machine → Prop) (isOpen : FrameId → Prop) (natives : List Native)
    (fuel : Nat) : Prop where
  evaluate : ∀ frame expr, Upholds holds (evaluate natives fuel frame expr)
  evaluateAll : ∀ frame exprs, Upholds holds (evaluateAll natives fuel frame exprs)
  call : ∀ callee arguments paren, Upholds holds (call natives fuel callee arguments paren)
  execute : ∀ frame stmt, isOpen frame ∨ stmt.declares = false →
    Upholds holds (execute natives fuel frame stmt)
  executeAll : ∀ frame stmts, isOpen frame → Upholds holds (executeAll natives fuel frame stmts)
  executeBody : ∀ frame body, isOpen frame → Upholds holds (executeBody natives fuel frame body)
  executeBlock : ∀ frame body, Upholds holds (executeBlock natives fuel frame body)
  repeatWhile : ∀ frame keyword condition body,
    Upholds holds (repeatWhile natives fuel frame keyword condition body)
  repeatFor : ∀ frame name range index body,
    Upholds holds (repeatFor natives fuel frame name range index body)

namespace RunsUphold

variable {fuel : Nat}

theorem evaluate_succ (all : RunsUphold holds isOpen natives fuel)
    (steps : StepsUphold holds isOpen natives) (frame : FrameId) (expr : Expr) :
    Upholds holds (Eval.evaluate natives (fuel + 1) frame expr) := by
  cases expr with
  | literal value token => exact .pure trivial
  | reference name => exact upholds_lookup frame name.lexeme
  | assign name value =>
      exact (all.evaluate _ _).bind fun assigned _ =>
        (steps.assign frame name.lexeme assigned).bind fun _ _ => .pure trivial
  | group inner => exact all.evaluate _ _
  | tuple items => exact (all.evaluateAll _ _).bind fun _ _ => .pure trivial
  | unary operator token operand =>
      exact (all.evaluate _ _).bind fun _ _ => upholds_orStop _
  | binary operator token left right =>
      exact (all.evaluate _ _).bind fun _ _ =>
        (all.evaluate _ _).bind fun _ _ => upholds_orStop _
  | logical operator token left right =>
      have goesOn : Upholds holds (do
          let second ← Eval.evaluate natives fuel frame right
          return Value.bool (← orStop (truth token second))) :=
        (all.evaluate _ _).bind fun second _ =>
          (upholds_orStop (truth token second)).bind fun _ _ => .pure trivial
      refine (all.evaluate _ _).bind fun value _ =>
        (upholds_orStop (truth token value)).bind fun first _ => ?_
      cases operator <;> cases first
      · exact .pure trivial
      · exact goesOn
      · exact goesOn
      · exact .pure trivial
  | call callee paren arguments =>
      exact (all.evaluate _ _).bind fun _ _ =>
        (all.evaluateAll _ _).bind fun _ _ => all.call _ _ _

theorem evaluateAll_succ (all : RunsUphold holds isOpen natives fuel) (frame : FrameId)
    (exprs : List Expr) : Upholds holds (Eval.evaluateAll natives (fuel + 1) frame exprs) := by
  cases exprs with
  | nil => exact .pure trivial
  | cons expr exprs =>
      exact (all.evaluate _ _).bind fun _ _ =>
        (all.evaluateAll _ _).bind fun _ _ => .pure trivial

/-- The frame of a call is new, and so open. -/
theorem call_succ (all : RunsUphold holds isOpen natives fuel)
    (steps : StepsUphold holds isOpen natives) (callee : Value) (arguments : List Value)
    (paren : Token) :
    Upholds holds (Eval.call natives (fuel + 1) callee arguments paren) := by
  cases callee with
  | native key signature =>
      refine (upholds_requireArity _ _ _).bind fun _ _ => ?_
      cases found : Native.find? natives key with
      | some native =>
          exact steps.callNative native (List.mem_of_find?_eq_some found) arguments paren
      | none => exact .throw trivial
  | function closure =>
      exact (upholds_requireArity _ _ _).bind fun _ _ =>
        (steps.nest closure.frame).bind fun frame opened =>
          (steps.define _ _ opened).bind fun _ _ =>
            upholds_catchReturn (all.executeBody frame closure.body opened)
  | number | text | bool | tuple | range => exact .throw trivial

theorem executeAll_succ (all : RunsUphold holds isOpen natives fuel) {frame : FrameId}
    (opened : isOpen frame) (stmts : List Stmt) :
    Upholds holds (Eval.executeAll natives (fuel + 1) frame stmts) := by
  cases stmts with
  | nil => exact .pure trivial
  | cons stmt stmts =>
      exact (all.execute _ stmt (.inl opened)).bind fun _ _ => all.executeAll _ _ opened

theorem executeBody_succ (all : RunsUphold holds isOpen natives fuel) {frame : FrameId}
    (opened : isOpen frame) (body : Block) :
    Upholds holds (Eval.executeBody natives (fuel + 1) frame body) := by
  obtain ⟨brace, statements, tail⟩ := body
  refine (all.executeAll _ _ opened).bind fun _ _ => ?_
  cases tail with
  | none => exact .pure trivial
  | some tail => exact all.evaluate _ _

theorem repeatWhile_succ (all : RunsUphold holds isOpen natives fuel) (frame : FrameId)
    (keyword : Token) (condition : Expr) (body : Block) :
    Upholds holds (Eval.repeatWhile natives (fuel + 1) frame keyword condition body) := by
  refine (all.evaluate _ _).bind fun value _ =>
    (upholds_orStop (truth keyword value)).bind fun isTrue _ => ?_
  cases isTrue with
  | true => exact (all.executeBlock _ _).bind fun _ _ => all.repeatWhile _ _ _ _
  | false => exact .pure trivial

/-- The frame of a turn is new, and so open. -/
theorem repeatFor_succ (all : RunsUphold holds isOpen natives fuel)
    (steps : StepsUphold holds isOpen natives) (frame : FrameId) (name : String)
    (range : NumberRange Float) (index : Nat) (body : Block) :
    Upholds holds (Eval.repeatFor natives (fuel + 1) frame name range index body) := by
  unfold Eval.repeatFor
  cases range.item? index with
  | none => exact .pure trivial
  | some item =>
      exact (steps.nest frame).bind fun inner opened =>
        (steps.define _ _ opened).bind fun _ _ =>
          (all.executeBlock _ _).bind fun _ _ => all.repeatFor _ _ _ _ _

theorem execute_succ (all : RunsUphold holds isOpen natives fuel)
    (steps : StepsUphold holds isOpen natives) (frame : FrameId) (stmt : Stmt)
    (allowed : isOpen frame ∨ stmt.declares = false) :
    Upholds holds (Eval.execute natives (fuel + 1) frame stmt) := by
  cases stmt with
  | expression value => exact all.evaluate _ _
  | letValue name declared initializer =>
      have opened : isOpen frame := allowed.resolve_right nofun
      exact (all.evaluate _ _).bind fun _ _ =>
        (steps.define _ _ opened).bind fun _ _ => .pure trivial
  | block body => exact all.executeBlock _ _
  | ifThen keyword condition consequent =>
      refine (all.evaluate _ _).bind fun value _ =>
        (upholds_orStop (truth keyword value)).bind fun isTrue _ => ?_
      cases isTrue with
      | true => exact (all.executeBlock _ _).bind fun _ _ => .pure trivial
      | false => exact .pure trivial
  | ifElse keyword condition consequent alternative =>
      refine (all.evaluate _ _).bind fun value _ =>
        (upholds_orStop (truth keyword value)).bind fun isTrue _ => ?_
      cases isTrue with
      | true => exact (all.executeBlock _ _).bind fun _ _ => .pure trivial
      | false => exact (all.execute _ alternative allowed).bind fun _ _ => .pure trivial
  | whileLoop keyword condition body => exact all.repeatWhile _ _ _ _
  | forLoop name bounds body =>
      have turns (lower : Value) (step : Option Value) := by
        exact (all.evaluate frame bounds.stop).bind fun stop _ =>
          (upholds_orStop (loopRange bounds.token lower stop step)).bind
            fun range _ => all.repeatFor frame name.lexeme range 0 body
      refine (all.evaluate _ _).bind fun lower _ => ?_
      cases bounds.step with
      | none => exact turns lower none
      | some step =>
          exact (Guard.Keeps.map (all.evaluate frame step)).bind
            fun found (_ : True) => turns lower found
  | function name parameters body =>
      have opened : isOpen frame := allowed.resolve_right nofun
      exact (steps.nest frame).bind fun closure _ =>
        (steps.define _ _ opened).bind fun _ _ => .pure trivial
  | giveBack keyword value =>
      cases value with
      | none => exact .throw trivial
      | some value => exact (all.evaluate _ _).bind fun _ _ => .throw trivial

end RunsUphold

/-- What the steps of a run keep, all parts of a run keep. -/
theorem runsUphold (steps : StepsUphold holds isOpen natives) (fuel : Nat) :
    RunsUphold holds isOpen natives fuel := by
  induction fuel with
  | zero => constructor <;> intros <;> exact .throw trivial
  | succ fuel all =>
      exact
        { evaluate := all.evaluate_succ steps
          evaluateAll := all.evaluateAll_succ
          call := all.call_succ steps
          execute := all.execute_succ steps
          executeAll := fun _ stmts opened => all.executeAll_succ opened stmts
          executeBody := fun _ body opened => all.executeBody_succ opened body
          executeBlock := fun frame body =>
            (steps.nest frame).bind fun inner opened => all.executeBody inner body opened
          repeatWhile := all.repeatWhile_succ
          repeatFor := all.repeatFor_succ steps }

theorem upholds_executeProgram (steps : StepsUphold holds isOpen natives) {frame : FrameId}
    (opened : isOpen frame) (fuel : Nat) (last : Value) (stmts : List Stmt) :
    Upholds holds (executeProgram natives fuel frame last stmts) := by
  induction stmts generalizing last with
  | nil => exact .pure trivial
  | cons stmt stmts inductionHypothesis =>
      exact ((runsUphold steps fuel).execute frame stmt (.inl opened)).bind fun value _ =>
        inductionHypothesis value

end Eval

end CheckedScript
