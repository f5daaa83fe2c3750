import CheckedScript.Proofs.Reader.Locality
import CheckedScript.Proofs.Reader.Modes

/-!
# Reading up to the first fault

Reading that stops at the first fault is local, since nothing is skipped.  It is what reading with
recovery does up to there: where it returns, so does reading with recovery, and where it stops,
reading with recovery either stops as well or has recorded the fault.
-/

namespace CheckedScript

namespace Reader

variable {α β : Type}

namespace Local

/-- Reading that stops at a fault skips nothing, so an attempt is no more than what is attempted. -/
theorem statementCongruence : StatementCongruence .stopping .stopping fun _ => Local Unmarked where
  toCongruence := congruence
  nextKind? same _ := nextKind?.bind same
  attempt alike := congruence.map alike some
  expression := (unbounded fun _ => Inner.unmarked).expression
  parameters := (unbounded fun _ => Inner.unmarked).parameters
  bounds := (unbounded fun _ => Inner.unmarked).bounds
  returnStem := (unbounded fun _ => Inner.unmarked).returnStem
  letStem := (unbounded fun _ => Inner.unmarked).letStem

end Local

theorem localStatements (fuel other : Nat) :
    StatementsAlike .stopping .stopping (fun _ => Local Unmarked) fuel other :=
  (Local.unbounded fun _ => Inner.unmarked).statements Local.statementCongruence fuel other

theorem statementsBy_local (fuel other : Nat) :
    Local Unmarked (statementsBy .stopping fuel) (statementsBy .stopping other) :=
  (Local.unbounded fun _ => Inner.unmarked).statementsBy Local.statementCongruence fuel other

/-- One reader does what another one does up to the first fault: it returns where the other one
returns, and where the other one stops at a fault, it stops as well or has recorded the fault.
Whatever it does, what was recorded before stays. -/
structure Follows (stopping resuming : Reader α) : Prop where
  grows : ∀ (cursor : Cursor) (outcome : Except Cause α) (after : Cursor),
    Finishes (resuming cursor) outcome after → cursor.diagnostics <+: after.diagnostics
  returns : ∀ (cursor : Cursor) (value : α) (after : Cursor),
    stopping cursor = .ok value after → resuming cursor = .ok value after
  exhausts : ∀ cursor : Cursor, Exhausts (stopping cursor) → Exhausts (resuming cursor)
  stops : ∀ (cursor : Cursor) (diagnostic : Diagnostic) (after : Cursor),
    stopping cursor = .error (.failed diagnostic) after →
      resuming cursor = .error (.failed diagnostic) after ∨
        ∀ outcome last, Finishes (resuming cursor) outcome last →
          after.diagnostics ++ [diagnostic] <+: last.diagnostics

namespace Follows

/-- A reader that never resumes follows itself. -/
theorem ofLocal {consumes : Kind → Prop} {reader : Reader α} (isLocal : Local consumes reader reader) :
    Follows reader reader where
  grows cursor outcome after finishes := by
    obtain ⟨used, causes, advance, _⟩ := isLocal cursor outcome after finishes
    obtain ⟨new, same, _⟩ := advance.recorded
    exact ⟨new, same.symm⟩
  returns _ _ _ equation := equation
  exhausts _ exhausts := exhausts
  stops _ _ _ equation := .inl equation

theorem bind {first second : Reader α} {next following : α → Reader β}
    (follows : Follows first second) (continues : ∀ value, Follows (next value) (following value)) :
    Follows (first >>= next) (second >>= following) where
  grows cursor outcome after finishes := by
    rcases finishes.bind_cases with ⟨value, middle, returns, finishes⟩ | ⟨cause, rfl, failed⟩
    · exact (follows.grows _ _ _ returns).trans ((continues value).grows _ _ _ finishes)
    · exact follows.grows _ _ _ failed
  returns cursor value after equation := by
    obtain ⟨middle, between, returns, continued⟩ := bind_eq_ok equation
    rw [bind_apply, follows.returns _ _ _ returns]
    exact (continues middle).returns _ _ _ continued
  exhausts cursor exhausts := by
    rw [bind_apply] at exhausts
    cases equation : first cursor with
    | ok value middle =>
        rw [equation] at exhausts
        rw [bind_apply, follows.returns _ _ _ equation]
        exact (continues value).exhausts _ exhausts
    | error stop middle =>
        rw [equation] at exhausts
        cases exhausts
        exact (follows.exhausts cursor (equation ▸ .intro)).bind_first
  stops cursor diagnostic after equation := by
    rw [bind_apply] at equation
    cases shape : first cursor with
    | ok value middle =>
        rw [shape] at equation
        rw [bind_apply, follows.returns _ _ _ shape]
        exact (continues value).stops _ _ _ equation
    | error stop middle =>
        rw [shape] at equation
        cases equation
        rcases follows.stops _ _ _ shape with same | recorded
        · exact .inl (by rw [bind_apply, same])
        · refine .inr fun outcome last finishes => ?_
          rcases finishes.bind_cases with ⟨value, between, returns, finishes⟩ | ⟨cause, rfl, failed⟩
          · exact (recorded _ _ returns).trans ((continues value).grows _ _ _ finishes)
          · exact recorded _ _ failed

/-- Where no fault of the first reader has been recorded, both readers do the same. -/
theorem same {stopping resuming : Reader α} (follows : Follows stopping resuming) {cursor last : Cursor}
    {outcome : Except Cause α} (finishes : Finishes (resuming cursor) outcome last)
    (clean : ∀ diagnostic after, stopping cursor = .error (.failed diagnostic) after →
      ¬ after.diagnostics ++ [diagnostic] <+: last.diagnostics) :
    stopping cursor = resuming cursor := by
  cases equation : stopping cursor with
  | ok value after => exact (follows.returns _ _ _ equation).symm
  | error stop after =>
      cases stop with
      | exhausted =>
          have exhausts := follows.exhausts cursor (equation ▸ .intro)
          generalize resuming cursor = result at exhausts finishes
          cases exhausts
          cases finishes
      | failed diagnostic =>
          rcases follows.stops _ _ _ equation with same | recorded
          · exact same.symm
          · exact absurd (recorded _ _ finishes) (clean _ _ equation)

theorem pure (value : α) : Follows (Pure.pure value : Reader α) (Pure.pure value) :=
  .ofLocal (Local.pure value : Local Inner _ _)

/-- Where reading stops at a fault, an attempt records it. -/
theorem attempt {stopping resuming : Reader α} (follows : Follows stopping resuming) :
    Follows (some <$> stopping) (Reader.attempt resuming) where
  grows cursor outcome after finishes := by
    obtain ⟨result, middle, finishes, kept⟩ := finishes.of_attempt
    exact (follows.grows _ _ _ finishes).trans kept
  returns cursor value after equation := by
    obtain ⟨given, rfl, returns⟩ := map_eq_ok equation
    rw [Reader.attempt, follows.returns _ _ _ returns]
  exhausts cursor exhausts := by
    generalize equation : (some <$> stopping) cursor = result at exhausts
    cases exhausts
    have exhausts := follows.exhausts cursor (map_eq_error equation ▸ .intro)
    rw [Reader.attempt]
    generalize resuming cursor = result at exhausts
    cases exhausts
    exact .intro
  stops cursor diagnostic after equation := by
    refine .inr fun outcome last finishes => ?_
    rcases follows.stops _ _ _ (map_eq_error equation) with same | recorded
    · rw [Reader.attempt, same] at finishes
      cases finishes
      rw [Cursor.resume_diagnostics]
      exact List.prefix_refl _
    · obtain ⟨result, middle, finishes, kept⟩ := finishes.of_attempt
      exact (recorded _ _ finishes).trans kept

theorem congruence : Congruence Unmarked fun _ => Follows where
  pure := pure
  fail cause token := .ofLocal (Local.fail cause token : Local Unmarked _ _)
  failAfter cause := .ofLocal (Local.failAfter cause : Local Unmarked _ _)
  record diagnostic := .ofLocal (Local.record diagnostic : Local Unmarked _ _)
  nextIs _ := .ofLocal (Local.nextIs _ : Local Unmarked _ _)
  choice chooses allowed := .ofLocal (Local.choice chooses allowed)
  bind := bind

theorem statementCongruence : StatementCongruence .stopping .resuming fun _ => Follows where
  toCongruence := congruence
  nextKind? same _ := (Follows.ofLocal (Local.nextKind? : Local Unmarked _ _)).bind same
  attempt := attempt
  expression := .ofLocal Local.statementCongruence.expression
  parameters := .ofLocal Local.statementCongruence.parameters
  bounds := .ofLocal Local.statementCongruence.bounds
  returnStem := .ofLocal Local.statementCongruence.returnStem
  letStem := .ofLocal Local.statementCongruence.letStem

/-- Reading that takes its bound on the nesting from the tokens that are left. -/
theorem measured {stopping resuming : Nat → Reader α}
    (follows : ∀ fuel, Follows (stopping fuel) (resuming fuel)) :
    Follows (fun cursor => stopping (nestingBound cursor.rest.length) cursor)
      (fun cursor => resuming (nestingBound cursor.rest.length) cursor) where
  grows cursor := (follows _).grows cursor
  returns cursor := (follows _).returns cursor
  exhausts cursor := (follows _).exhausts cursor
  stops cursor := (follows _).stops cursor

end Follows

/-- The readers of statements that stop at a fault against those that resume behind it. -/
theorem followsStatements (fuel : Nat) :
    StatementsAlike .stopping .resuming (fun _ => Follows) fuel fuel := by
  induction fuel with
  | zero =>
      have exhausted : ∀ {γ : Type}, Follows (throw .exhausted : Reader γ) (throw .exhausted) :=
        .ofLocal (Local.ofExhausted : Local Unmarked _ _)
      exact ⟨exhausted, exhausted, exhausted, exhausted, exhausted⟩
  | succ fuel follows => exact Follows.statementCongruence.succ follows

theorem statementsBy_follows (fuel : Nat) :
    Follows (statementsBy .stopping fuel) (statementsBy .resuming fuel) := by
  induction fuel with
  | zero => exact .ofLocal (Local.ofExhausted : Local Unmarked _ _)
  | succ fuel inductionHypothesis =>
      exact Follows.statementCongruence.statementsBy_succ
        (.measured fun fuel => (followsStatements fuel).statement) inductionHypothesis

/-- Reading a program, up to the first fault and beyond. -/
theorem statements_follows (fuel : Nat) :
    Follows (statementsBy .stopping fuel) (statements fuel) :=
  statementsBy_resuming fuel ▸ statementsBy_follows fuel

end Reader

end CheckedScript
