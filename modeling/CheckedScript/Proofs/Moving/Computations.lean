import CheckedScript.Proofs.Computation

/-!
# Computations that go the same way

A motion takes states and the reasons to stop to others.  It carries a computation
to a second one if the second one, started in the moved state, ends as the first
one does, with the value, the state and the reason to stop moved alike.  What holds
of all states in between is part of the motion.
-/

namespace CheckedScript

variable {ε σ α β γ δ : Type}

/-- Where states and reasons to stop are moved to, and what is known of the states
that are moved. -/
structure Motion (ε σ : Type) where
  stop : ε → ε
  state : σ → σ
  admits : σ → Prop

namespace Motion

variable {motion : Motion ε σ} {state : σ}

/-- The second result is the first one, moved. -/
def Result (motion : Motion ε σ) (value : α → β) (first : EStateM.Result ε σ α)
    (second : EStateM.Result ε σ β) : Prop :=
  match first with
  | .ok found after => second = .ok (value found) (motion.state after) ∧ motion.admits after
  | .error stop after =>
      second = .error (motion.stop stop) (motion.state after) ∧ motion.admits after

/-- From a state on, the second computation goes the way of the first. -/
def Carries (motion : Motion ε σ) (value : α → β) (state : σ) (first : EStateM ε σ α)
    (second : EStateM ε σ β) : Prop :=
  motion.Result value (first state) (second (motion.state state))

namespace Carries

theorem pure {value : α → β} {found : α} {moved : β} (admits : motion.admits state)
    (same : moved = value found) :
    motion.Carries value state (Pure.pure found) (Pure.pure moved) := by
  subst same
  exact ⟨rfl, admits⟩

theorem throw {value : α → β} {stop moved : ε} (admits : motion.admits state)
    (same : moved = motion.stop stop) :
    motion.Carries value state (MonadExcept.throw stop) (MonadExcept.throw moved) := by
  subst same
  exact ⟨rfl, admits⟩

theorem bind {value : α → β} {result : γ → δ} {first : EStateM ε σ α} {second : EStateM ε σ β}
    {next : α → EStateM ε σ γ} {nextMoved : β → EStateM ε σ δ}
    (early : motion.Carries value state first second)
    (late : ∀ found after, first state = .ok found after → motion.admits after →
      motion.Carries result after (next found) (nextMoved (value found))) :
    motion.Carries result state (first >>= next) (second >>= nextMoved) := by
  unfold Carries at early ⊢
  rw [bind_apply, bind_apply]
  match equation : first state with
  | .ok found after =>
      rw [equation] at early
      rw [early.1]
      exact late found after equation early.2
  | .error stop after =>
      rw [equation] at early
      rw [early.1]
      exact ⟨rfl, early.2⟩

theorem map {value : α → β} {result : γ → δ} {first : EStateM ε σ α} {second : EStateM ε σ β}
    {change : α → γ} {changeMoved : β → δ} (carries : motion.Carries value state first second)
    (same : ∀ found, changeMoved (value found) = result (change found)) :
    motion.Carries result state (change <$> first) (changeMoved <$> second) := by
  rw [← bind_pure_comp, ← bind_pure_comp]
  exact carries.bind fun found after _ admits => pure admits (same found)

theorem get {result : γ → δ} {next : σ → EStateM ε σ γ} {nextMoved : σ → EStateM ε σ δ}
    (carries : motion.Carries result state (next state) (nextMoved (motion.state state))) :
    motion.Carries result state (MonadState.get >>= next) (MonadState.get >>= nextMoved) :=
  carries

theorem modify {change changeMoved : σ → σ} (admits : motion.admits (change state))
    (same : changeMoved (motion.state state) = motion.state (change state)) :
    motion.Carries id state (modifyThe σ change) (modifyThe σ changeMoved) :=
  ⟨congrArg (EStateM.Result.ok PUnit.unit) same, admits⟩

theorem set {after moved : σ} (admits : motion.admits after) (same : moved = motion.state after) :
    motion.Carries id state (MonadState.set after) (MonadState.set moved) := by
  subst same
  exact ⟨rfl, admits⟩

/-- Where the first computation succeeds, the second one does. -/
theorem eq_ok {value : α → β} {first : EStateM ε σ α} {second : EStateM ε σ β}
    (carries : motion.Carries value state first second) {found : α} {after : σ}
    (equation : first state = .ok found after) :
    second (motion.state state) = .ok (value found) (motion.state after) ∧ motion.admits after := by
  unfold Carries at carries
  rwa [equation] at carries

/-- Where the second computation succeeds, the first one has. -/
theorem of_eq_ok {value : α → β} {first : EStateM ε σ α} {second : EStateM ε σ β}
    (carries : motion.Carries value state first second) {result : β} {last : σ}
    (equation : second (motion.state state) = .ok result last) :
    ∃ found after, first state = .ok found after ∧ result = value found ∧
      last = motion.state after ∧ motion.admits after := by
  unfold Carries at carries
  match ended : first state with
  | .ok found after =>
      rw [ended] at carries
      cases equation.symm.trans carries.1
      exact ⟨found, after, rfl, rfl, rfl, carries.2⟩
  | .error stop after =>
      rw [ended] at carries
      cases equation.symm.trans carries.1

end Carries

/-- From every state on, the second computation goes the way of the first. -/
def Moves (motion : Motion ε σ) (value : α → β) (first : EStateM ε σ α) (second : EStateM ε σ β) :
    Prop :=
  ∀ state, motion.admits state → motion.Carries value state first second

namespace Moves

theorem pure {value : α → β} {found : α} {moved : β} (same : moved = value found) :
    motion.Moves value (Pure.pure found) (Pure.pure moved) :=
  fun _ admits => .pure admits same

theorem throw {value : α → β} {stop moved : ε} (same : moved = motion.stop stop) :
    motion.Moves value (MonadExcept.throw stop) (MonadExcept.throw moved) :=
  fun _ admits => .throw admits same

theorem bind {value : α → β} {result : γ → δ} {first : EStateM ε σ α} {second : EStateM ε σ β}
    {next : α → EStateM ε σ γ} {nextMoved : β → EStateM ε σ δ}
    (early : motion.Moves value first second)
    (late : ∀ found, motion.Moves result (next found) (nextMoved (value found))) :
    motion.Moves result (first >>= next) (second >>= nextMoved) :=
  fun state admits =>
    (early state admits).bind fun found after _ admitsAfter => late found after admitsAfter

theorem map {value : α → β} {result : γ → δ} {first : EStateM ε σ α} {second : EStateM ε σ β}
    {change : α → γ} {changeMoved : β → δ} (moves : motion.Moves value first second)
    (same : ∀ found, changeMoved (value found) = result (change found)) :
    motion.Moves result (change <$> first) (changeMoved <$> second) :=
  fun state admits => (moves state admits).map same

end Moves

end Motion

end CheckedScript
