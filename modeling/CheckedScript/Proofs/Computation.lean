/-!
# Computations that may stop

Readers, checks and runs are all computations with a state that may stop before
their end.  One after another, they stop where the first of them stops.
-/

namespace CheckedScript

variable {ε σ α β : Type}

theorem bind_apply (first : EStateM ε σ α) (next : α → EStateM ε σ β) (state : σ) :
    (first >>= next) state =
      match first state with
      | .ok value after => next value after
      | .error stop after => .error stop after := by
  simp only [Bind.bind, EStateM.bind]
  cases first state <;> rfl

theorem get_bind_apply (next : σ → EStateM ε σ α) (state : σ) :
    ((get : EStateM ε σ σ) >>= next) state = next state state :=
  rfl

/-- A computation that succeeds is made of computations that succeed. -/
theorem bind_eq_ok {first : EStateM ε σ α} {next : α → EStateM ε σ β} {state after : σ}
    {result : β} (equation : (first >>= next) state = .ok result after) :
    ∃ value middle, first state = .ok value middle ∧ next value middle = .ok result after := by
  rw [bind_apply] at equation
  cases shape : first state with
  | ok value middle =>
      rw [shape] at equation
      exact ⟨value, middle, rfl, equation⟩
  | error stop middle =>
      rw [shape] at equation
      cases equation

/-- A computation that stops has a first part that stops, or one that succeeds before the
rest stops. -/
theorem bind_eq_error {first : EStateM ε σ α} {next : α → EStateM ε σ β} {state after : σ}
    {stop : ε} (equation : (first >>= next) state = .error stop after) :
    first state = .error stop after ∨
      ∃ value middle, first state = .ok value middle ∧ next value middle = .error stop after := by
  rw [bind_apply] at equation
  cases shape : first state with
  | ok value middle =>
      rw [shape] at equation
      exact .inr ⟨value, middle, rfl, equation⟩
  | error reason middle =>
      rw [shape] at equation
      cases equation
      exact .inl rfl

theorem pure_eq_ok {value result : α} {state after : σ}
    (equation : (Pure.pure value : EStateM ε σ α) state = .ok result after) :
    value = result ∧ state = after := by
  cases equation
  exact ⟨rfl, rfl⟩

theorem map_eq_ok {first : EStateM ε σ α} {change : α → β} {state after : σ} {result : β}
    (equation : (change <$> first) state = .ok result after) :
    ∃ value, result = change value ∧ first state = .ok value after := by
  change EStateM.map change first state = _ at equation
  unfold EStateM.map at equation
  cases shape : first state with
  | ok value middle =>
      rw [shape] at equation
      cases equation
      exact ⟨value, rfl, rfl⟩
  | error stop middle =>
      rw [shape] at equation
      cases equation

theorem map_eq_error {first : EStateM ε σ α} {change : α → β} {state after : σ} {stop : ε}
    (equation : (change <$> first) state = .error stop after) : first state = .error stop after := by
  change EStateM.map change first state = _ at equation
  unfold EStateM.map at equation
  cases shape : first state with
  | ok value middle =>
      rw [shape] at equation
      cases equation
  | error reason middle =>
      rw [shape] at equation
      cases equation
      rfl

end CheckedScript
