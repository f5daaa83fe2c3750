import CheckedScript.Proofs.Recovery.States
import CheckedScript.Proofs.Walks.Courses
import CheckedScript.Typing.Check

/-!
# Conditions out of sight

The check of an expression without calls declares nothing and enters no body: it notes the
types of expressions, and it fails at a position of the expression if it fails.  So the check
of a condition leaves nothing behind that can be seen, whatever is wrong with it, if its
positions are hidden.  It comes to its end if its bound is large enough for the condition.
-/

namespace CheckedScript

open Typing Check

variable {hidden : Position → Bool} {enough : Prop}

/-- Why the check of a confined expression may stop: at a hidden position, or since its bound
has not been enough. -/
inductive Typing.Stop.Confined (hidden : Position → Bool) (enough : Prop) : Stop → Prop
  | failed {diagnostic : Diagnostic} :
      hidden diagnostic.token.position = true → Stop.Confined hidden enough (.failed diagnostic)
  | exhausted : ¬ enough → Stop.Confined hidden enough .exhausted

/-- The way of a check that leaves nothing behind but notes. -/
def confinement (hidden : Position → Bool) (enough : Prop) : Course Stop State where
  later := State.Noted
  state _ := True
  stop stop _ := stop.Confined hidden enough
  refl := .refl
  trans := .trans

theorem Expr.sizeOf_pos (expr : Expr) : 0 < sizeOf expr := by
  cases expr <;> simp +arith

/-- From every state on, the check leaves nothing behind but notes. -/
def Confines (hidden : Position → Bool) (enough : Prop) {α : Type} (check : Check α) : Prop :=
  ∀ state, (confinement hidden enough).Ends state (fun _ _ => True) (check state)

namespace Confines

variable {α β : Type}

theorem pure (value : α) : Confines hidden enough (Pure.pure value) :=
  fun _ => .pure trivial trivial

theorem bind {first : Check α} {next : α → Check β} (early : Confines hidden enough first)
    (late : ∀ value, Confines hidden enough (next value)) :
    Confines hidden enough (first >>= next) :=
  fun state => (early state).bind fun value after _ _ _ _ => late value after

theorem exhausted (few : ¬ enough) :
    Confines hidden enough (MonadExcept.throw .exhausted : Check α) :=
  fun _ => .throw trivial (.exhausted few)

theorem fail (cause : Cause) {token : Token} (outOfSight : hidden token.position = true) :
    Confines hidden enough (Check.fail cause token : Check α) :=
  fun _ => .throw trivial (.failed outOfSight)

theorem lookup? (frame : FrameId) (name : String) :
    Confines hidden enough (Check.lookup? frame name) :=
  fun state => ⟨.refl state, trivial, trivial⟩

end Confines

section Confined

variable {fuel : Nat} {frame : FrameId} {place : Place}

/-- A bound that is large enough for a whole is large enough for its parts, further down. -/
theorem large_part {size part rest : Nat} (large : enough → 2 * size ≤ rest + 2)
    (smaller : part < size) (holds : enough) : 2 * part ≤ rest := by
  have := large holds
  omega

theorem Confines.exhausted_of_large {α : Type} {size : Nat} (large : enough → 2 * size ≤ fuel)
    (small : fuel < 2 * size) :
    Confines hidden enough (MonadExcept.throw .exhausted : Check α) :=
  .exhausted fun holds => Nat.not_le_of_lt small (large holds)

/-- The type of an expression is noted once its parts have been looked at. -/
theorem Confines.typeOf {expr : Expr} (large : enough → 2 * sizeOf expr ≤ fuel)
    (infers : ∀ rest, (enough → 2 * sizeOf expr ≤ rest + 2) →
      Confines hidden enough (infer (rest + 1) frame place expr)) :
    Confines hidden enough (Check.typeOf fuel frame place expr) := by
  have positive := expr.sizeOf_pos
  have notes : ∀ type, Confines hidden enough (do
      modify fun state => state.note place expr type
      return type) := fun type state => ⟨.note state place expr type, trivial, trivial⟩
  obtain _ | _ | rest := fuel
  · exact .exhausted_of_large large (by omega)
  · exact .bind (.exhausted_of_large large (by omega)) notes
  · exact .bind (infers rest large) notes

/-- Expressions one after the other. -/
theorem Confines.typesOf {exprs : List Expr} {step : Nat}
    (each : ∀ expr ∈ exprs, ∀ {fuel place}, (enough → 2 * sizeOf expr ≤ fuel) →
      Confines hidden enough (Check.typeOf fuel frame place expr))
    (large : enough → 2 * sizeOf exprs ≤ fuel) :
    Confines hidden enough (Check.typesOf fuel frame place step exprs) := by
  induction exprs generalizing fuel step with
  | nil =>
      cases fuel with
      | zero => exact .exhausted_of_large large (by simp)
      | succ fuel => exact .pure []
  | cons expr exprs inductionHypothesis =>
      simp only [List.cons.sizeOf_spec] at large
      cases fuel with
      | zero => exact .exhausted_of_large large (by omega)
      | succ fuel =>
          have larger := fun holds => Nat.le_succ_of_le (large holds)
          have first : Confines hidden enough (Check.typeOf fuel frame (place.child step) expr) :=
            each expr List.mem_cons_self (large_part larger (by omega))
          have others : Confines hidden enough (Check.typesOf fuel frame place (step + 1) exprs) :=
            inductionHypothesis (fun other inside => each other (List.mem_cons_of_mem _ inside))
              (large_part larger (by omega))
          exact first.bind fun type => others.bind fun types => .pure (type :: types)

/-- The check of an expression without calls. -/
theorem Expr.Confined.confines {expr : Expr} (confined : expr.Confined hidden)
    (large : enough → 2 * sizeOf expr ≤ fuel) :
    Confines hidden enough (typeOf fuel frame place expr) := by
  induction confined generalizing fuel place with
  | literal => exact .typeOf large fun rest _ => .pure _
  | reference outOfSight =>
      refine .typeOf large fun rest _ => (Confines.lookup? _ _).bind fun found => ?_
      cases found with
      | none => exact .fail _ outOfSight
      | some type => exact .pure type
  | assign outOfSight _ value =>
      refine .typeOf large fun rest larger => ?_
      simp only [Expr.assign.sizeOf_spec] at larger
      refine (value (large_part larger (by omega))).bind fun found =>
        (Confines.lookup? _ _).bind fun declared => ?_
      cases declared with
      | none => exact .fail _ outOfSight
      | some declared =>
          dsimp only
          split
          · exact .pure declared
          · exact .fail _ outOfSight
  | unary outOfSight _ operand =>
      refine .typeOf large fun rest larger => ?_
      simp only [Expr.unary.sizeOf_spec] at larger
      refine (operand (large_part larger (by omega))).bind fun found => ?_
      split
      · exact .pure _
      · exact .fail _ outOfSight
  | binary outOfSight _ _ left right =>
      refine .typeOf large fun rest larger => ?_
      simp only [Expr.binary.sizeOf_spec] at larger
      refine (left (large_part larger (by omega))).bind fun leftType =>
        (right (large_part larger (by omega))).bind fun rightType => ?_
      split
      · exact .pure _
      · exact .fail _ outOfSight
  | logical outOfSight _ _ left right =>
      refine .typeOf large fun rest larger => ?_
      simp only [Expr.logical.sizeOf_spec] at larger
      refine (left (large_part larger (by omega))).bind fun leftType =>
        (right (large_part larger (by omega))).bind fun rightType => ?_
      split
      · exact .pure _
      · exact .fail _ outOfSight
  | group _ inner =>
      refine .typeOf large fun rest larger => ?_
      simp only [Expr.group.sizeOf_spec] at larger
      exact inner (large_part larger (by omega))
  | tuple _ items =>
      refine .typeOf large fun rest larger => ?_
      simp only [Expr.tuple.sizeOf_spec] at larger
      exact (Confines.typesOf items (large_part larger (by omega))).bind fun types =>
        .pure (Ty.tuple types)

end Confined

/-- The check of a condition out of sight ends well, if it comes to its end. -/
theorem checkCondition_confined {fuel : Nat} {keyword : Token} {condition : Expr}
    (outOfSight : hidden keyword.position = true) (confined : condition.Confined hidden)
    (frame : FrameId) (place : Place) (state : State) :
    (∃ after, checkCondition (fuel + 1) frame place keyword condition state = .ok () after ∧
        state.Veiled hidden after) ∨
      (¬ 2 * sizeOf condition ≤ fuel ∧ ∃ after,
        checkCondition (fuel + 1) frame place keyword condition state =
          .error .exhausted after) := by
  have ends : (confinement hidden (2 * sizeOf condition ≤ fuel)).Ends state (fun _ _ => True)
      (typeOf fuel frame place condition state) := confined.confines id state
  rw [checkCondition, bind_apply, reporting]
  cases equation : typeOf fuel frame place condition state with
  | ok found after =>
      rw [equation] at ends
      refine .inl ?_
      dsimp only
      split
      · exact ⟨_, rfl, ends.1.veiled.trans (.report after outOfSight)⟩
      · exact ⟨after, rfl, ends.1.veiled⟩
  | error stop after =>
      rw [equation] at ends
      obtain ⟨noted, _, stops⟩ := ends
      cases stops with
      | failed charged => exact .inl ⟨_, rfl, noted.veiled.trans (.report after charged)⟩
      | exhausted few => exact .inr ⟨few, after, rfl⟩

end CheckedScript
