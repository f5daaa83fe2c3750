import CheckedScript.Evaluation.Evaluate
import CheckedScript.Proofs.Computation
import CheckedScript.Typing.Rules

/-!
# Statements that never end normally

A statement that always returns never lets the statements after it run: it gives a
value back, stops for another reason, or does not stop at all.
-/

namespace CheckedScript

open Evaluation Eval Typing

variable {natives : List Native}

/-- With a bound on the nesting, what always returns does not end normally. -/
structure NoneEnd (natives : List Native) (fuel : Nat) : Prop where
  execute : ∀ {frame stmt machine value after}, alwaysReturns stmt = true →
    execute natives fuel frame stmt machine ≠ .ok value after
  executeAll : ∀ {frame stmts machine after}, anyReturns stmts = true →
    executeAll natives fuel frame stmts machine ≠ .ok () after
  executeBody : ∀ {frame body machine value after}, blockReturns body = true →
    executeBody natives fuel frame body machine ≠ .ok value after
  executeBlock : ∀ {frame body machine value after}, blockReturns body = true →
    executeBlock natives fuel frame body machine ≠ .ok value after

namespace NoneEnd

variable {fuel : Nat} {frame : FrameId} {machine after : Machine} {value : Value}

theorem execute_succ (none : NoneEnd natives fuel) {stmt : Stmt}
    (returns : alwaysReturns stmt = true) :
    Eval.execute natives (fuel + 1) frame stmt machine ≠ .ok value after := by
  intro equation
  cases stmt with
  | giveBack keyword expr =>
      cases expr with
      | none => cases equation
      | some expr =>
          rw [Eval.execute] at equation
          obtain ⟨_, _, _, rest⟩ := bind_eq_ok equation
          cases rest
  | block body => exact none.executeBlock returns equation
  | ifElse keyword condition consequent alternative =>
      obtain ⟨first, second⟩ := Bool.and_eq_true_iff.1 returns
      rw [Eval.execute] at equation
      obtain ⟨_, _, _, rest⟩ := bind_eq_ok equation
      obtain ⟨holds, _, _, rest⟩ := bind_eq_ok rest
      cases holds with
      | true =>
          obtain ⟨_, _, executed, _⟩ := bind_eq_ok rest
          exact none.executeBlock first executed
      | false =>
          obtain ⟨_, _, executed, _⟩ := bind_eq_ok rest
          exact none.execute second executed
  | expression _ | letValue _ _ _ | ifThen _ _ _ | whileLoop _ _ _ | forLoop _ _ _
  | function _ _ _ => cases returns

theorem executeAll_succ (none : NoneEnd natives fuel) {stmts : List Stmt}
    (returns : anyReturns stmts = true) :
    Eval.executeAll natives (fuel + 1) frame stmts machine ≠ .ok () after := by
  intro equation
  cases stmts with
  | nil => cases returns
  | cons stmt stmts =>
      rw [Eval.executeAll] at equation
      obtain ⟨_, _, executed, rest⟩ := bind_eq_ok equation
      rcases Bool.or_eq_true_iff.1 returns with first | later
      · exact none.execute first executed
      · exact none.executeAll later rest

theorem executeBody_succ (none : NoneEnd natives fuel) {body : Block}
    (returns : blockReturns body = true) :
    Eval.executeBody natives (fuel + 1) frame body machine ≠ .ok value after := by
  intro equation
  obtain ⟨brace, stmts, tail⟩ := body
  obtain ⟨_, _, executed, _⟩ := bind_eq_ok equation
  exact none.executeAll returns executed

theorem executeBlock_succ (none : NoneEnd natives fuel) {body : Block}
    (returns : blockReturns body = true) :
    Eval.executeBlock natives (fuel + 1) frame body machine ≠ .ok value after := by
  intro equation
  rw [Eval.executeBlock] at equation
  obtain ⟨_, _, _, rest⟩ := bind_eq_ok equation
  exact none.executeBody returns rest

end NoneEnd

theorem noneEnd (natives : List Native) (fuel : Nat) : NoneEnd natives fuel := by
  induction fuel with
  | zero =>
      exact
        { execute := fun _ equation => by cases equation
          executeAll := fun _ equation => by cases equation
          executeBody := fun _ equation => by cases equation
          executeBlock := fun _ equation => by cases equation }
  | succ fuel none =>
      exact
        { execute := none.execute_succ
          executeAll := none.executeAll_succ
          executeBody := none.executeBody_succ
          executeBlock := none.executeBlock_succ }

end CheckedScript
