import CheckedScript.Proofs.Computation
import Mathlib.Data.List.Forall2

/-!
# Computations side by side

A pairing says which states of two computations belong together, and which reasons to
stop.  Two computations are paired if, started in states that belong together, they end in
states that belong together, and with values, or for reasons, that do.
-/

namespace CheckedScript

variable {ε σ α β γ δ : Type}

/-- Which states and which reasons to stop of two computations belong together. -/
structure Pairing (ε σ : Type) where
  stop : ε → ε → Prop
  state : σ → σ → Prop

namespace Pairing

variable {pairing : Pairing ε σ}

/-- Results that belong together. -/
inductive Ends (pairing : Pairing ε σ) (value : α → β → Prop) :
    EStateM.Result ε σ α → EStateM.Result ε σ β → Prop
  | ok {found : α} {other : β} {after later : σ} :
      value found other → pairing.state after later →
        Ends pairing value (.ok found after) (.ok other later)
  | error {stop other : ε} {after later : σ} :
      pairing.stop stop other → pairing.state after later →
        Ends pairing value (.error stop after) (.error other later)

/-- Computations with results that belong together. -/
def Pairs (pairing : Pairing ε σ) (value : α → β → Prop) (first : EStateM ε σ α)
    (second : EStateM ε σ β) : Prop :=
  ∀ state other, pairing.state state other → pairing.Ends value (first state) (second other)

namespace Pairs

variable {value : α → β → Prop} {result : γ → δ → Prop}

theorem pure {found : α} {other : β} (related : value found other) :
    pairing.Pairs value (Pure.pure found) (Pure.pure other) :=
  fun _ _ paired => .ok related paired

theorem throw {stop other : ε} (related : pairing.stop stop other) :
    pairing.Pairs value (MonadExcept.throw stop) (MonadExcept.throw other) :=
  fun _ _ paired => .error related paired

theorem bind {first : EStateM ε σ α} {second : EStateM ε σ β} {next : α → EStateM ε σ γ}
    {further : β → EStateM ε σ δ} (early : pairing.Pairs value first second)
    (late : ∀ found other, value found other →
      pairing.Pairs result (next found) (further other)) :
    pairing.Pairs result (first >>= next) (second >>= further) := by
  intro state other paired
  have ends := early state other paired
  rw [bind_apply, bind_apply]
  generalize first state = one, second other = two at ends
  cases ends with
  | ok related after => exact late _ _ related _ _ after
  | error related after => exact .error related after

theorem map {first : EStateM ε σ α} {second : EStateM ε σ β} {change : α → γ}
    {otherChange : β → δ} (pairs : pairing.Pairs value first second)
    (implies : ∀ found other, value found other → result (change found) (otherChange other)) :
    pairing.Pairs result (change <$> first) (otherChange <$> second) := by
  rw [← bind_pure_comp, ← bind_pure_comp]
  exact pairs.bind fun _ _ related => pure (implies _ _ related)

theorem get {next : σ → EStateM ε σ γ} {further : σ → EStateM ε σ δ}
    (late : ∀ state other, pairing.state state other →
      pairing.Pairs result (next state) (further other)) :
    pairing.Pairs result (MonadState.get >>= next) (MonadState.get >>= further) :=
  fun state other paired => late state other paired state other paired

theorem modify {change otherChange : σ → σ}
    (keeps : ∀ state other, pairing.state state other →
      pairing.state (change state) (otherChange other)) :
    pairing.Pairs (fun _ _ => True) (modifyThe σ change) (modifyThe σ otherChange) :=
  fun state other paired => .ok trivial (keeps state other paired)

theorem set {after later : σ} (paired : pairing.state after later) :
    pairing.Pairs (fun _ _ => True) (MonadState.set after) (MonadState.set later) :=
  fun _ _ _ => .ok trivial paired

end Pairs

end Pairing

end CheckedScript
