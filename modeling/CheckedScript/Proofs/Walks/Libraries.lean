import CheckedScript.Proofs.Walks.RunTraces

/-!
# Runs with other native functions

If two libraries of native functions answer the calls of a run alike, the run is the same
with both.  So to change a native function for some arguments, and to see no change in a run,
is to see that the run does not call it with these arguments.
-/

namespace CheckedScript

open Typing (Place)
open Evaluation

namespace Traced

variable {ν ε σ α β : Type} {property : ν → Prop}

/-- A computation that goes like a traced one wherever the trace has a property. -/
def Follows (property : ν → Prop) (traced : Traced ν ε σ α) (other : EStateM ε σ α) : Prop :=
  ∀ state, Within property traced state → other state = traced.run state

namespace Follows

theorem refl (step : EStateM ε σ α) : Follows property (Traced.lift step) step :=
  fun _ _ => rfl

theorem pure (value : α) : Follows property (Pure.pure value) (Pure.pure value : EStateM ε σ α) :=
  fun _ _ => rfl

theorem bind {first : Traced ν ε σ α} {other : EStateM ε σ α} {next : α → Traced ν ε σ β}
    {rest : α → EStateM ε σ β} (early : Follows property first other)
    (late : ∀ value, Follows property (next value) (rest value)) :
    Follows property (first >>= next) (other >>= rest) := by
  intro state within
  have same := early state fun label member => within label (mem_visits_bind.2 (.inl member))
  rw [run_bind, bind_apply, bind_apply, same]
  cases ended : first.run state with
  | ok value after =>
      exact late value after fun label member =>
        within label (mem_visits_bind.2 (.inr ⟨value, after, ended, member⟩))
  | error stop after => rfl

theorem map {first : Traced ν ε σ α} {other : EStateM ε σ α} (change : α → β)
    (early : Follows property first other) :
    Follows property (change <$> first) (change <$> other) := by
  intro state within
  have same := early state fun label member => within label (by rwa [visits_map])
  rw [run_map, map_apply, map_apply, same]

theorem noted {label : σ → ν} {inner : Traced ν ε σ α} {other : EStateM ε σ α}
    (follows : ∀ state, property (label state) → Within property inner state →
      other state = inner.run state) : Follows property (Traced.noted label inner) other :=
  fun state within => follows state (within _ List.mem_cons_self)
    fun later member => within later (List.mem_cons_of_mem _ member)

theorem through {handle : EStateM ε σ α → EStateM ε σ β} {inner : Traced ν ε σ α}
    {other : EStateM ε σ α}
    (looks : ∀ state, other state = inner.run state → handle other state = handle inner.run state)
    (follows : Follows property inner other) :
    Follows property (Traced.through handle inner) (handle other) :=
  fun state within => looks state (follows state within)

end Follows

end Traced

namespace Eval

/-- What a native function with a key does. -/
def callKey (natives : List Native) (key : String) (callee : Value) (arguments : List Value)
    (paren : Token) : Eval Value :=
  match Native.find? natives key with
  | some native => callNative native arguments paren
  | none => throw (.faulted (.uncallable callee.quoted))

end Eval

open Eval

/-- A visit that is no call of a native function which two libraries answer differently. -/
def Evaluation.Visit.Indifferent (natives others : List Native) (visit : Visit) : Prop :=
  ∀ key signature arguments, visit.task = .call (.native key signature) arguments →
    ∀ paren, callKey others key (.native key signature) arguments paren =
      callKey natives key (.native key signature) arguments paren

namespace Eval.Trace

open Traced (Follows)

/-- With a bound on the nesting, a run is the same with other native functions if it calls none
that answers differently. -/
structure Exchanges (natives others : List Native) (home : Closure → Place) (fuel : Nat) :
    Prop where
  evaluate : ∀ place frame expr,
    Follows (Visit.Indifferent natives others) (evaluate natives home fuel place frame expr)
      (Eval.evaluate others fuel frame expr)
  evaluateAll : ∀ place step frame exprs,
    Follows (Visit.Indifferent natives others)
      (evaluateAll natives home fuel place step frame exprs)
      (Eval.evaluateAll others fuel frame exprs)
  call : ∀ caller callee arguments paren,
    Follows (Visit.Indifferent natives others)
      (call natives home fuel caller callee arguments paren)
      (Eval.call others fuel callee arguments paren)
  execute : ∀ place frame stmt,
    Follows (Visit.Indifferent natives others) (execute natives home fuel place frame stmt)
      (Eval.execute others fuel frame stmt)
  executeAll : ∀ place step frame stmts,
    Follows (Visit.Indifferent natives others)
      (executeAll natives home fuel place step frame stmts)
      (Eval.executeAll others fuel frame stmts)
  executeBody : ∀ place frame body,
    Follows (Visit.Indifferent natives others) (executeBody natives home fuel place frame body)
      (Eval.executeBody others fuel frame body)
  executeBlock : ∀ place frame body,
    Follows (Visit.Indifferent natives others) (executeBlock natives home fuel place frame body)
      (Eval.executeBlock others fuel frame body)
  repeatWhile : ∀ place frame keyword condition body,
    Follows (Visit.Indifferent natives others)
      (repeatWhile natives home fuel place frame keyword condition body)
      (Eval.repeatWhile others fuel frame keyword condition body)
  repeatFor : ∀ place frame name range index body,
    Follows (Visit.Indifferent natives others)
      (repeatFor natives home fuel place frame name range index body)
      (Eval.repeatFor others fuel frame name range index body)

namespace Exchanges

variable {natives others : List Native} {home : Closure → Place} {fuel : Nat}

/-- The note of a task may be left out of account unless the task is a call. -/
theorem entered {α : Type} {frame : FrameId} {task : Task} {steps : Steps α} {other : Eval α}
    (follows : Follows (Visit.Indifferent natives others) steps other) :
    Follows (Visit.Indifferent natives others) (enter fuel frame task steps) other :=
  .noted fun state _ within => follows state within

theorem evaluate_succ (same : Exchanges natives others home fuel) (place : Place)
    (frame : FrameId) (expr : Expr) :
    Follows (Visit.Indifferent natives others)
      (Trace.evaluate natives home (fuel + 1) place frame expr)
      (Eval.evaluate others (fuel + 1) frame expr) := by
  cases expr with
  | literal => exact entered (.pure _)
  | reference => exact entered (.refl _)
  | assign name value =>
      rw [Trace.evaluate, Eval.evaluate]
      exact entered ((same.evaluate _ _ _).bind fun _ => (Follows.refl _).bind fun _ => .pure _)
  | group inner => exact entered (same.evaluate _ _ _)
  | tuple items =>
      rw [Trace.evaluate, Eval.evaluate]
      exact entered ((same.evaluateAll _ _ _ _).bind fun _ => .pure _)
  | unary operator token operand =>
      rw [Trace.evaluate, Eval.evaluate]
      exact entered ((same.evaluate _ _ _).bind fun _ => .refl _)
  | logical operator token left right =>
      rw [Trace.evaluate, Eval.evaluate]
      refine entered ((same.evaluate _ _ _).bind fun _ => (Follows.refl _).bind fun first => ?_)
      cases operator <;> cases first
      case conjunction.false | disjunction.true => exact .pure _
      case conjunction.true | disjunction.false =>
          exact (same.evaluate _ _ _).bind fun _ => (Follows.refl _).bind fun _ => .pure _
  | binary operator token left right =>
      rw [Trace.evaluate, Eval.evaluate]
      exact entered
        ((same.evaluate _ _ _).bind fun _ => (same.evaluate _ _ _).bind fun _ => .refl _)
  | call callee paren arguments =>
      rw [Trace.evaluate, Eval.evaluate]
      exact entered ((same.evaluate _ _ _).bind fun _ =>
        (same.evaluateAll _ _ _ _).bind fun _ => same.call _ _ _ _)

theorem evaluateAll_succ (same : Exchanges natives others home fuel) (place : Place) (step : Nat)
    (frame : FrameId) (exprs : List Expr) :
    Follows (Visit.Indifferent natives others)
      (Trace.evaluateAll natives home (fuel + 1) place step frame exprs)
      (Eval.evaluateAll others (fuel + 1) frame exprs) := by
  cases exprs with
  | nil => exact entered (.pure _)
  | cons expr exprs =>
      rw [Trace.evaluateAll, Eval.evaluateAll]
      exact entered ((same.evaluate _ _ _).bind fun _ =>
        (same.evaluateAll _ _ _ _).bind fun _ => .pure _)

theorem catchReturn_congr {body other : Eval Value} (machine : Machine)
    (same : body machine = other machine) :
    catchReturn body machine = catchReturn other machine := by
  rw [catchReturn, catchReturn, same]

theorem call_succ (same : Exchanges natives others home fuel) (caller : FrameId) (callee : Value)
    (arguments : List Value) (paren : Token) :
    Follows (Visit.Indifferent natives others)
      (Trace.call natives home (fuel + 1) caller callee arguments paren)
      (Eval.call others (fuel + 1) callee arguments paren) := by
  cases callee with
  | native key signature =>
      rw [Trace.call, Eval.call]
      refine .noted fun machine indifferent _ => ?_
      have answers := indifferent key signature arguments rfl paren
      rw [Traced.run_bind, bind_apply, bind_apply, Traced.run_lift]
      cases required : requireArity signature.name signature.parameters.length arguments.length
          machine with
      | ok value after =>
          refine (congrFun answers after).trans ?_
          rw [callKey]
          cases Native.find? natives key <;> rfl
      | error stop after => rfl
  | function closure =>
      rw [Trace.call, Eval.call]
      refine entered ((Follows.refl _).bind fun _ => (Follows.refl _).bind fun frame =>
        (Follows.refl _).bind fun _ => ?_)
      exact .through (fun machine => catchReturn_congr machine) (same.executeBody _ _ _)
  | _ => exact entered (.refl _)

theorem execute_succ (same : Exchanges natives others home fuel) (place : Place)
    (frame : FrameId) (stmt : Stmt) :
    Follows (Visit.Indifferent natives others)
      (Trace.execute natives home (fuel + 1) place frame stmt)
      (Eval.execute others (fuel + 1) frame stmt) := by
  cases stmt with
  | expression value => exact entered (same.evaluate _ _ _)
  | letValue name declared initializer =>
      rw [Trace.execute, Eval.execute]
      exact entered ((same.evaluate _ _ _).bind fun _ => (Follows.refl _).bind fun _ => .pure _)
  | block body => exact entered (same.executeBlock _ _ _)
  | ifThen keyword condition consequent =>
      rw [Trace.execute, Eval.execute]
      refine entered ((same.evaluate _ _ _).bind fun _ => (Follows.refl _).bind fun holds => ?_)
      cases holds with
      | true => exact (same.executeBlock _ _ _).bind fun _ => .pure _
      | false => exact .pure _
  | ifElse keyword condition consequent alternative =>
      rw [Trace.execute, Eval.execute]
      refine entered ((same.evaluate _ _ _).bind fun _ => (Follows.refl _).bind fun holds => ?_)
      cases holds with
      | true => exact (same.executeBlock _ _ _).bind fun _ => .pure _
      | false => exact (same.execute _ _ _).bind fun _ => .pure _
  | whileLoop keyword condition body => exact entered (same.repeatWhile _ _ _ _ _)
  | forLoop name bounds body =>
      obtain ⟨token, start, stop, step⟩ := bounds
      rw [Trace.execute, Eval.execute]
      refine entered ((same.evaluate _ _ _).bind fun _ => ?_)
      cases step with
      | none =>
          exact (Follows.pure _).bind fun _ => (same.evaluate _ _ _).bind fun _ =>
            (Follows.refl _).bind fun _ => same.repeatFor _ _ _ _ _ _
      | some step =>
          exact ((same.evaluate _ _ _).map some).bind fun _ => (same.evaluate _ _ _).bind fun _ =>
            (Follows.refl _).bind fun _ => same.repeatFor _ _ _ _ _ _
  | function name parameters body =>
      rw [Trace.execute, Eval.execute]
      exact entered ((Follows.refl _).bind fun _ => (Follows.refl _).bind fun _ => .pure _)
  | giveBack keyword value =>
      cases value with
      | none => exact entered (.refl _)
      | some value =>
          rw [Trace.execute, Eval.execute]
          exact entered ((same.evaluate _ _ _).bind fun _ => .refl _)

theorem executeAll_succ (same : Exchanges natives others home fuel) (place : Place) (step : Nat)
    (frame : FrameId) (stmts : List Stmt) :
    Follows (Visit.Indifferent natives others)
      (Trace.executeAll natives home (fuel + 1) place step frame stmts)
      (Eval.executeAll others (fuel + 1) frame stmts) := by
  cases stmts with
  | nil => exact entered (.pure _)
  | cons stmt stmts =>
      rw [Trace.executeAll, Eval.executeAll]
      exact entered ((same.execute _ _ _).bind fun _ => same.executeAll _ _ _ _)

theorem executeBody_succ (same : Exchanges natives others home fuel) (place : Place)
    (frame : FrameId) (body : Block) :
    Follows (Visit.Indifferent natives others)
      (Trace.executeBody natives home (fuel + 1) place frame body)
      (Eval.executeBody others (fuel + 1) frame body) := by
  obtain ⟨brace, statements, tail⟩ := body
  cases tail with
  | none => exact entered ((same.executeAll _ _ _ _).bind fun _ => .pure _)
  | some tail => exact entered ((same.executeAll _ _ _ _).bind fun _ => same.evaluate _ _ _)

theorem executeBlock_succ (same : Exchanges natives others home fuel) (place : Place)
    (frame : FrameId) (body : Block) :
    Follows (Visit.Indifferent natives others)
      (Trace.executeBlock natives home (fuel + 1) place frame body)
      (Eval.executeBlock others (fuel + 1) frame body) :=
  entered ((Follows.refl _).bind fun _ => same.executeBody _ _ _)

theorem repeatWhile_succ (same : Exchanges natives others home fuel) (place : Place)
    (frame : FrameId) (keyword : Token) (condition : Expr) (body : Block) :
    Follows (Visit.Indifferent natives others)
      (Trace.repeatWhile natives home (fuel + 1) place frame keyword condition body)
      (Eval.repeatWhile others (fuel + 1) frame keyword condition body) := by
  rw [Trace.repeatWhile, Eval.repeatWhile]
  refine entered ((same.evaluate _ _ _).bind fun _ => (Follows.refl _).bind fun holds => ?_)
  cases holds with
  | true => exact (same.executeBlock _ _ _).bind fun _ => same.repeatWhile _ _ _ _ _
  | false => exact .pure _

theorem repeatFor_succ (same : Exchanges natives others home fuel) (place : Place)
    (frame : FrameId) (name : String) (range : NumberRange Float) (index : Nat) (body : Block) :
    Follows (Visit.Indifferent natives others)
      (Trace.repeatFor natives home (fuel + 1) place frame name range index body)
      (Eval.repeatFor others (fuel + 1) frame name range index body) := by
  rw [Trace.repeatFor, Eval.repeatFor]
  refine entered ?_
  cases range.item? index with
  | none => exact .pure _
  | some item =>
      exact (Follows.refl _).bind fun _ => (Follows.refl _).bind fun _ =>
        (same.executeBlock _ _ _).bind fun _ => same.repeatFor _ _ _ _ _ _

end Exchanges

theorem exchanges (natives others : List Native) (home : Closure → Place) (fuel : Nat) :
    Exchanges natives others home fuel := by
  induction fuel with
  | zero =>
      exact
        { evaluate := fun _ _ _ _ _ => rfl
          evaluateAll := fun _ _ _ _ _ _ => rfl
          call := fun _ _ _ _ _ _ => rfl
          execute := fun _ _ _ _ _ => rfl
          executeAll := fun _ _ _ _ _ _ => rfl
          executeBody := fun _ _ _ _ _ => rfl
          executeBlock := fun _ _ _ _ _ => rfl
          repeatWhile := fun _ _ _ _ _ _ _ => rfl
          repeatFor := fun _ _ _ _ _ _ _ _ => rfl }
  | succ fuel same =>
      exact
        { evaluate := same.evaluate_succ
          evaluateAll := same.evaluateAll_succ
          call := same.call_succ
          execute := same.execute_succ
          executeAll := same.executeAll_succ
          executeBody := same.executeBody_succ
          executeBlock := same.executeBlock_succ
          repeatWhile := same.repeatWhile_succ
          repeatFor := same.repeatFor_succ }

theorem follows_executeProgram (natives others : List Native) (home : Closure → Place)
    (fuel : Nat) (frame : FrameId) (step : Nat) (last : Value) (program : List Stmt) :
    Follows (Visit.Indifferent natives others)
      (executeProgram natives home fuel frame step last program)
      (Eval.executeProgram others fuel frame last program) := by
  induction program generalizing step last with
  | nil => exact .pure _
  | cons stmt stmts inductionHypothesis =>
      exact ((exchanges natives others home fuel).execute _ _ _).bind fun _ =>
        inductionHypothesis _ _

end Eval.Trace

/-- A program runs alike with other native functions, if none is called in its run that
answers differently. -/
theorem Evaluation.executeProgram_congr {natives others : List Native} {home : Closure → Place}
    {bound : Nat} {program : Program}
    (indifferent : ∀ visit ∈ visits natives home bound program,
      visit.Indifferent natives others) :
    executeProgram others bound Machine.root .unit program (Machine.start natives) =
      executeProgram natives bound Machine.root .unit program (Machine.start natives) := by
  rw [← Eval.Trace.run_executeProgram natives home bound Machine.root 0 .unit program]
  exact Eval.Trace.follows_executeProgram natives others home bound Machine.root 0 .unit program _
    indifferent

end CheckedScript
