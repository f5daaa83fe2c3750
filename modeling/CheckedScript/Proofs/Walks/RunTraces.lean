import CheckedScript.Proofs.Walks.Traces
import CheckedScript.Proofs.Walks.Visits

/-!
# The trace of a run

The evaluator is written once more here, as one that notes every task it turns to.  Without
the notes it is the evaluator.  Values do not say where the body of a function stands in the
program; that is left to a function of the closure.
-/

namespace CheckedScript

open Typing (Place)
open Evaluation

namespace Eval.Trace

/-- The steps of a run, with the visits on the way. -/
abbrev Steps := Traced Visit Stop Machine

/-- Turn to a task. -/
def enter {α : Type} (fuel : Nat) (frame : FrameId) (task : Task) (steps : Steps α) : Steps α :=
  steps.noted fun machine => ⟨fuel, frame, machine, task⟩

section Enter

variable {α : Type} (fuel : Nat) (frame : FrameId) (task : Task) (steps : Steps α)

@[simp]
theorem run_enter : (enter fuel frame task steps).run = steps.run :=
  rfl

@[simp]
theorem visits_enter (machine : Machine) :
    (enter fuel frame task steps).visits machine =
      ⟨fuel, frame, machine, task⟩ :: steps.visits machine :=
  rfl

end Enter

/-- The bound on the nesting leaves nothing for a task. -/
def exhausted {α : Type} (frame : FrameId) (task : Task) : Steps α :=
  enter 0 frame task (Traced.lift (throw .exhausted))

open Traced (lift through)

mutual

def evaluate (natives : List Native) (home : Closure → Place) :
    Nat → Place → FrameId → Expr → Steps Value
  | 0, place, frame, expr => exhausted frame (.expression place expr)
  | fuel + 1, place, frame, expr =>
      enter (fuel + 1) frame (.expression place expr) do
        match expr with
        | .literal value _ => return constantValue value
        | .reference name => lift (lookup frame name.lexeme)
        | .assign name value =>
            let assigned ← evaluate natives home fuel (place.child 0) frame value
            lift (assign frame name.lexeme assigned)
            return assigned
        | .group inner => evaluate natives home fuel (place.child 0) frame inner
        | .tuple items => return .tuple (← evaluateAll natives home fuel place 0 frame items)
        | .unary operator token operand =>
            let value ← evaluate natives home fuel (place.child 0) frame operand
            lift (orStop (applyUnary operator token value))
        | .logical operator token left right =>
            let first ← lift (orStop (truth token
              (← evaluate natives home fuel (place.child 0) frame left)))
            match operator, first with
            | .disjunction, true => return .bool true
            | .conjunction, false => return .bool false
            | _, _ =>
                let second ← evaluate natives home fuel (place.child 1) frame right
                return .bool (← lift (orStop (truth token second)))
        | .binary operator token left right =>
            let first ← evaluate natives home fuel (place.child 0) frame left
            let second ← evaluate natives home fuel (place.child 1) frame right
            lift (orStop (applyBinary operator token first second))
        | .call callee paren arguments =>
            let function ← evaluate natives home fuel (place.child 0) frame callee
            let values ← evaluateAll natives home fuel place 1 frame arguments
            call natives home fuel frame function values paren
termination_by structural fuel => fuel

def evaluateAll (natives : List Native) (home : Closure → Place) :
    Nat → Place → Nat → FrameId → List Expr → Steps (List Value)
  | 0, place, step, frame, exprs => exhausted frame (.expressions place step exprs)
  | fuel + 1, place, step, frame, exprs =>
      enter (fuel + 1) frame (.expressions place step exprs) do
        match exprs with
        | [] => return []
        | expr :: exprs =>
            let value ← evaluate natives home fuel (place.child step) frame expr
            let values ← evaluateAll natives home fuel place (step + 1) frame exprs
            return value :: values
termination_by structural fuel => fuel

/-- The frame is that of the caller. -/
def call (natives : List Native) (home : Closure → Place) :
    Nat → FrameId → Value → List Value → Token → Steps Value
  | 0, caller, callee, arguments, _ => exhausted caller (.call callee arguments)
  | fuel + 1, caller, callee, arguments, paren =>
      enter (fuel + 1) caller (.call callee arguments) do
        match callee with
        | .native key signature =>
            lift (requireArity signature.name signature.parameters.length arguments.length)
            match Native.find? natives key with
            | some native => lift (callNative native arguments paren)
            | none => lift (throw (.faulted (.uncallable callee.quoted)))
        | .function closure =>
            lift (requireArity closure.name closure.parameters.length arguments.length)
            let frame ← lift (nest closure.frame)
            lift (define frame (closure.parameters.zip arguments))
            through catchReturn (executeBody natives home fuel (home closure) frame closure.body)
        | other => lift (throw (.faulted (.uncallable other.quoted)))
termination_by structural fuel => fuel

def execute (natives : List Native) (home : Closure → Place) :
    Nat → Place → FrameId → Stmt → Steps Value
  | 0, place, frame, stmt => exhausted frame (.statement place stmt)
  | fuel + 1, place, frame, stmt =>
      enter (fuel + 1) frame (.statement place stmt) do
        match stmt with
        | .expression value => evaluate natives home fuel (place.child 0) frame value
        | .letValue name _ initializer =>
            let value ← evaluate natives home fuel (place.child 0) frame initializer
            lift (define frame [(name.lexeme, value)])
            return .unit
        | .block body => executeBlock natives home fuel place frame body
        | .ifThen keyword condition consequent =>
            if ← lift (orStop (truth keyword
                (← evaluate natives home fuel (place.child 0) frame condition))) then
              let _ ← executeBlock natives home fuel (place.child 1) frame consequent
            return .unit
        | .ifElse keyword condition consequent alternative =>
            if ← lift (orStop (truth keyword
                (← evaluate natives home fuel (place.child 0) frame condition))) then
              let _ ← executeBlock natives home fuel (place.child 1) frame consequent
            else
              let _ ← execute natives home fuel (place.child 2) frame alternative
            return .unit
        | .whileLoop keyword condition body =>
            repeatWhile natives home fuel place frame keyword condition body
        | .forLoop name bounds body =>
            let start ← evaluate natives home fuel (place.child 0) frame bounds.start
            let step ←
              match bounds.step with
              | none => pure none
              | some step => some <$> evaluate natives home fuel (place.child 1) frame step
            let stop ← evaluate natives home fuel (place.child 2) frame bounds.stop
            let range ← lift (orStop (loopRange bounds.token start stop step))
            repeatFor natives home fuel place frame name.lexeme range 0 body
        | .function name parameters body =>
            let closure ← lift (nest frame)
            let function : Closure :=
              { name := name.lexeme, parameters := parameters.map (·.lexeme)
                body := body, frame := closure }
            lift (define frame [(name.lexeme, .function function)])
            return .unit
        | .giveBack _ value =>
            match value with
            | none => lift (throw (.returned .unit))
            | some value =>
                let given ← evaluate natives home fuel (place.child 0) frame value
                lift (throw (.returned given))
termination_by structural fuel => fuel

def executeAll (natives : List Native) (home : Closure → Place) :
    Nat → Place → Nat → FrameId → List Stmt → Steps Unit
  | 0, place, step, frame, stmts => exhausted frame (.statements place step stmts)
  | fuel + 1, place, step, frame, stmts =>
      enter (fuel + 1) frame (.statements place step stmts) do
        match stmts with
        | [] => return ()
        | stmt :: stmts =>
            let _ ← execute natives home fuel (place.child step) frame stmt
            executeAll natives home fuel place (step + 1) frame stmts
termination_by structural fuel => fuel

def executeBody (natives : List Native) (home : Closure → Place) :
    Nat → Place → FrameId → Block → Steps Value
  | 0, place, frame, body => exhausted frame (.body place body)
  | fuel + 1, place, frame, .mk brace statements tail =>
      enter (fuel + 1) frame (.body place (.mk brace statements tail)) do
        executeAll natives home fuel place 0 frame statements
        match tail with
        | none => return .unit
        | some tail => evaluate natives home fuel (place.child statements.length) frame tail
termination_by structural fuel => fuel

def executeBlock (natives : List Native) (home : Closure → Place) :
    Nat → Place → FrameId → Block → Steps Value
  | 0, place, frame, body => exhausted frame (.block place body)
  | fuel + 1, place, frame, body =>
      enter (fuel + 1) frame (.block place body) do
        let inner ← lift (nest frame)
        executeBody natives home fuel place inner body
termination_by structural fuel => fuel

def repeatWhile (natives : List Native) (home : Closure → Place) :
    Nat → Place → FrameId → Token → Expr → Block → Steps Value
  | 0, place, frame, keyword, condition, body =>
      exhausted frame (.whileLoop place keyword condition body)
  | fuel + 1, place, frame, keyword, condition, body =>
      enter (fuel + 1) frame (.whileLoop place keyword condition body) do
        if ← lift (orStop (truth keyword
            (← evaluate natives home fuel (place.child 0) frame condition))) then
          let _ ← executeBlock natives home fuel (place.child 1) frame body
          repeatWhile natives home fuel place frame keyword condition body
        else
          return .unit
termination_by structural fuel => fuel

def repeatFor (natives : List Native) (home : Closure → Place) :
    Nat → Place → FrameId → String → NumberRange Float → Nat → Block → Steps Value
  | 0, place, frame, name, range, index, body =>
      exhausted frame (.forLoop place name range index body)
  | fuel + 1, place, frame, name, range, index, body =>
      enter (fuel + 1) frame (.forLoop place name range index body) do
        match range.item? index with
        | none => return .unit
        | some item =>
            let inner ← lift (nest frame)
            lift (define inner [(name, .number item)])
            let _ ← executeBlock natives home fuel (place.child 3) inner body
            repeatFor natives home fuel place frame name range (index + 1) body
termination_by structural fuel => fuel

end

def executeProgram (natives : List Native) (home : Closure → Place) (fuel : Nat)
    (frame : FrameId) : Nat → Value → List Stmt → Steps Value
  | _, last, [] => return last
  | step, _, stmt :: stmts => do
      let value ← execute natives home fuel ((Place.root 0).child step) frame stmt
      executeProgram natives home fuel frame (step + 1) value stmts

/-- Without the notes, the steps are those of the evaluator. -/
structure Forgets (natives : List Native) (home : Closure → Place) (fuel : Nat) : Prop where
  evaluate : ∀ place frame expr,
    (evaluate natives home fuel place frame expr).run = Eval.evaluate natives fuel frame expr
  evaluateAll : ∀ place step frame exprs,
    (evaluateAll natives home fuel place step frame exprs).run =
      Eval.evaluateAll natives fuel frame exprs
  call : ∀ caller callee arguments paren,
    (call natives home fuel caller callee arguments paren).run =
      Eval.call natives fuel callee arguments paren
  execute : ∀ place frame stmt,
    (execute natives home fuel place frame stmt).run = Eval.execute natives fuel frame stmt
  executeAll : ∀ place step frame stmts,
    (executeAll natives home fuel place step frame stmts).run =
      Eval.executeAll natives fuel frame stmts
  executeBody : ∀ place frame body,
    (executeBody natives home fuel place frame body).run = Eval.executeBody natives fuel frame body
  executeBlock : ∀ place frame body,
    (executeBlock natives home fuel place frame body).run =
      Eval.executeBlock natives fuel frame body
  repeatWhile : ∀ place frame keyword condition body,
    (repeatWhile natives home fuel place frame keyword condition body).run =
      Eval.repeatWhile natives fuel frame keyword condition body
  repeatFor : ∀ place frame name range index body,
    (repeatFor natives home fuel place frame name range index body).run =
      Eval.repeatFor natives fuel frame name range index body

namespace Forgets

variable {natives : List Native} {home : Closure → Place} {fuel : Nat}

theorem evaluate_succ (forgets : Forgets natives home fuel) (place : Place) (frame : FrameId)
    (expr : Expr) :
    (Trace.evaluate natives home (fuel + 1) place frame expr).run =
      Eval.evaluate natives (fuel + 1) frame expr := by
  cases expr with
  | literal | reference => rfl
  | group inner => exact forgets.evaluate _ _ inner
  | assign | tuple | unary | binary | call =>
      simp [Trace.evaluate, Eval.evaluate, forgets.evaluate, forgets.evaluateAll, forgets.call]
  | logical operator token left right =>
      simp only [Trace.evaluate, Eval.evaluate, run_enter, Traced.run_bind, Traced.run_lift,
        forgets.evaluate]
      refine bind_congr fun value => bind_congr fun first => ?_
      cases operator <;> cases first <;> simp [forgets.evaluate]

theorem evaluateAll_succ (forgets : Forgets natives home fuel) (place : Place) (step : Nat)
    (frame : FrameId) (exprs : List Expr) :
    (Trace.evaluateAll natives home (fuel + 1) place step frame exprs).run =
      Eval.evaluateAll natives (fuel + 1) frame exprs := by
  cases exprs <;>
    simp [Trace.evaluateAll, Eval.evaluateAll, forgets.evaluate, forgets.evaluateAll]

theorem call_succ (forgets : Forgets natives home fuel) (caller : FrameId) (callee : Value)
    (arguments : List Value) (paren : Token) :
    (Trace.call natives home (fuel + 1) caller callee arguments paren).run =
      Eval.call natives (fuel + 1) callee arguments paren := by
  cases callee with
  | native key signature =>
      simp only [Trace.call, Eval.call, run_enter, Traced.run_bind, Traced.run_lift]
      cases Native.find? natives key <;> rfl
  | function closure => simp [Trace.call, Eval.call, forgets.executeBody]
  | _ => rfl

theorem execute_succ (forgets : Forgets natives home fuel) (place : Place) (frame : FrameId)
    (stmt : Stmt) :
    (Trace.execute natives home (fuel + 1) place frame stmt).run =
      Eval.execute natives (fuel + 1) frame stmt := by
  cases stmt with
  | expression value => exact forgets.evaluate _ _ value
  | block body => exact forgets.executeBlock _ _ body
  | whileLoop => exact forgets.repeatWhile _ _ _ _ _
  | function => rfl
  | letValue => simp [Trace.execute, Eval.execute, forgets.evaluate]
  | ifThen keyword condition consequent =>
      simp only [Trace.execute, Eval.execute, run_enter, Traced.run_bind, Traced.run_lift,
        forgets.evaluate]
      refine bind_congr fun test => bind_congr fun holds => ?_
      cases holds <;> simp [forgets.executeBlock]
  | ifElse keyword condition consequent alternative =>
      simp only [Trace.execute, Eval.execute, run_enter, Traced.run_bind, Traced.run_lift,
        forgets.evaluate]
      refine bind_congr fun test => bind_congr fun holds => ?_
      cases holds <;> simp [forgets.executeBlock, forgets.execute]
  | forLoop name bounds body =>
      obtain ⟨token, start, stop, step⟩ := bounds
      cases step <;>
        simp [Trace.execute, Eval.execute, forgets.evaluate, forgets.repeatFor]
  | giveBack keyword value =>
      cases value <;> simp [Trace.execute, Eval.execute, forgets.evaluate]

theorem executeAll_succ (forgets : Forgets natives home fuel) (place : Place) (step : Nat)
    (frame : FrameId) (stmts : List Stmt) :
    (Trace.executeAll natives home (fuel + 1) place step frame stmts).run =
      Eval.executeAll natives (fuel + 1) frame stmts := by
  cases stmts <;> simp [Trace.executeAll, Eval.executeAll, forgets.execute, forgets.executeAll]

theorem executeBody_succ (forgets : Forgets natives home fuel) (place : Place) (frame : FrameId)
    (body : Block) :
    (Trace.executeBody natives home (fuel + 1) place frame body).run =
      Eval.executeBody natives (fuel + 1) frame body := by
  obtain ⟨brace, statements, tail⟩ := body
  cases tail <;> simp [Trace.executeBody, Eval.executeBody, forgets.executeAll, forgets.evaluate]

theorem repeatWhile_succ (forgets : Forgets natives home fuel) (place : Place) (frame : FrameId)
    (keyword : Token) (condition : Expr) (body : Block) :
    (Trace.repeatWhile natives home (fuel + 1) place frame keyword condition body).run =
      Eval.repeatWhile natives (fuel + 1) frame keyword condition body := by
  simp only [Trace.repeatWhile, Eval.repeatWhile, run_enter, Traced.run_bind, Traced.run_lift,
    forgets.evaluate]
  refine bind_congr fun test => bind_congr fun holds => ?_
  cases holds <;> simp [forgets.executeBlock, forgets.repeatWhile]

theorem repeatFor_succ (forgets : Forgets natives home fuel) (place : Place) (frame : FrameId)
    (name : String) (range : NumberRange Float) (index : Nat) (body : Block) :
    (Trace.repeatFor natives home (fuel + 1) place frame name range index body).run =
      Eval.repeatFor natives (fuel + 1) frame name range index body := by
  simp only [Trace.repeatFor, Eval.repeatFor]
  cases range.item? index <;> simp [forgets.executeBlock, forgets.repeatFor]

end Forgets

theorem forgets (natives : List Native) (home : Closure → Place) (fuel : Nat) :
    Forgets natives home fuel := by
  induction fuel with
  | zero =>
      exact
        { evaluate := fun _ _ _ => rfl
          evaluateAll := fun _ _ _ _ => rfl
          call := fun _ _ _ _ => rfl
          execute := fun _ _ _ => rfl
          executeAll := fun _ _ _ _ => rfl
          executeBody := fun _ _ _ => rfl
          executeBlock := fun _ _ _ => rfl
          repeatWhile := fun _ _ _ _ _ => rfl
          repeatFor := fun _ _ _ _ _ _ => rfl }
  | succ fuel forgets =>
      exact
        { evaluate := forgets.evaluate_succ
          evaluateAll := forgets.evaluateAll_succ
          call := forgets.call_succ
          execute := forgets.execute_succ
          executeAll := forgets.executeAll_succ
          executeBody := forgets.executeBody_succ
          executeBlock := fun place frame body => by
            simp [Trace.executeBlock, Eval.executeBlock, forgets.executeBody]
          repeatWhile := forgets.repeatWhile_succ
          repeatFor := forgets.repeatFor_succ }

theorem run_executeProgram (natives : List Native) (home : Closure → Place) (fuel : Nat)
    (frame : FrameId) (step : Nat) (last : Value) (program : List Stmt) :
    (executeProgram natives home fuel frame step last program).run =
      Eval.executeProgram natives fuel frame last program := by
  induction program generalizing step last with
  | nil => rfl
  | cons stmt stmts inductionHypothesis =>
      simp [executeProgram, Eval.executeProgram, (forgets natives home fuel).execute,
        inductionHypothesis]

end Eval.Trace

namespace Evaluation

open Eval

/-- The visits of a run of a program on a new machine, in the order in which they are made. -/
def visits (natives : List Native) (home : Closure → Place) (bound : Nat) (program : Program) :
    List Visit :=
  (Trace.executeProgram natives home bound Machine.root 0 .unit program).visits
    (Machine.start natives)

end Evaluation

end CheckedScript
