import CheckedScript.Proofs.Computation

/-!
# Computations that keep what is known

A guard says what is known of states and of reasons to stop.  A computation keeps it if,
from every state of which that much is known, it ends in such a state, with a value of the
kind that is expected or for such a reason.
-/

namespace CheckedScript

variable {ε σ α β : Type}

/-- What is known of the states of a computation, and of the reasons for which it stops. -/
structure Guard (ε σ : Type) where
  stop : ε → Prop
  state : σ → Prop

namespace Guard

variable {guard : Guard ε σ}

/-- How a computation may end. -/
def Admits (guard : Guard ε σ) (fits : α → Prop) : EStateM.Result ε σ α → Prop
  | .ok value after => fits value ∧ guard.state after
  | .error stop after => guard.stop stop ∧ guard.state after

/-- From every admitted state the computation ends as it may. -/
def Keeps (guard : Guard ε σ) (fits : α → Prop) (computation : EStateM ε σ α) : Prop :=
  ∀ state, guard.state state → guard.Admits fits (computation state)

namespace Keeps

variable {fits wide : α → Prop} {result : β → Prop}

theorem pure {value : α} (holds : fits value) : guard.Keeps fits (Pure.pure value) :=
  fun _ admitted => ⟨holds, admitted⟩

theorem throw {stop : ε} (admitted : guard.stop stop) :
    guard.Keeps fits (MonadExcept.throw stop) :=
  fun _ known => ⟨admitted, known⟩

theorem mono {computation : EStateM ε σ α} (keeps : guard.Keeps fits computation)
    (implies : ∀ value, fits value → wide value) : guard.Keeps wide computation := by
  intro state admitted
  have ended := keeps state admitted
  cases equation : computation state with
  | ok value after =>
      rw [equation] at ended
      exact ⟨implies value ended.1, ended.2⟩
  | error stop after =>
      rw [equation] at ended
      exact ended

theorem bind {first : EStateM ε σ α} {next : α → EStateM ε σ β} (early : guard.Keeps fits first)
    (late : ∀ value, fits value → guard.Keeps result (next value)) :
    guard.Keeps result (first >>= next) := by
  intro state admitted
  have ended := early state admitted
  rw [bind_apply]
  cases equation : first state with
  | ok value after =>
      rw [equation] at ended
      exact late value ended.1 after ended.2
  | error stop after =>
      rw [equation] at ended
      exact ended

theorem map {computation : EStateM ε σ α} {change : α → β}
    (keeps : guard.Keeps (fun value => result (change value)) computation) :
    guard.Keeps result (change <$> computation) := by
  rw [← bind_pure_comp]
  exact keeps.bind fun _ holds => pure holds

theorem get {next : σ → EStateM ε σ β}
    (late : ∀ state, guard.state state → guard.Keeps result (next state)) :
    guard.Keeps result (MonadState.get >>= next) :=
  fun state admitted => late state admitted state admitted

theorem modify {change : σ → σ} (keeps : ∀ state, guard.state state → guard.state (change state)) :
    guard.Keeps (fun _ => True) (modifyThe σ change) :=
  fun state admitted => ⟨trivial, keeps state admitted⟩

theorem set {after : σ} (admitted : guard.state after) :
    guard.Keeps (fun _ => True) (MonadState.set after) :=
  fun _ _ => ⟨trivial, admitted⟩

end Keeps

end Guard

end CheckedScript
