import CheckedScript.Proofs.Anchors.Computations
import CheckedScript.Proofs.Renaming.Computations

/-!
# Computations with enough room

Two computations go side by side, and the second one is given as much room as it asks for.  It
follows the first one if, with enough room, it comes to an end that belongs to that of the first
one.  Where the first computation has used up its own room, nothing is known of how the second
one ends, but with enough room it gets at least as far.
-/

namespace CheckedScript

variable {ε σ α β γ δ : Type}

/-- What belongs together in two computations, which reason to stop is the lack of room, and what
the second computation keeps once the first one has run out of room in a given state. -/
structure Pursuit (ε σ : Type) extends Pairing ε σ where
  exhausted : ε
  kept : σ → σ → Prop
  start : ∀ {first other}, state first other → kept first other

namespace Pursuit

variable {pursuit : Pursuit ε σ}

/-- What is known of the second computation once the first one has run out of room. -/
def guard (pursuit : Pursuit ε σ) (after : σ) : Guard ε σ where
  stop _ := True
  state := pursuit.kept after

/-- Computations that fall behind no point they have got to. -/
def Keeps (pursuit : Pursuit ε σ) (computation : EStateM ε σ α) : Prop :=
  ∀ after, (pursuit.guard after).Keeps (fun _ => True) computation

/-- A result, and what comes of another computation with more and more room. -/
inductive Follows (pursuit : Pursuit ε σ) (value : α → β → Prop)
    (result : EStateM.Result ε σ α) (second : Nat → EStateM.Result ε σ β) : Prop
  | settled {other : EStateM.Result ε σ β} (bound : Nat) :
      pursuit.Ends value result other → (∀ room, bound ≤ room → second room = other) →
        Follows pursuit value result second
  | exhausted {after : σ} (bound : Nat) :
      result = .error pursuit.exhausted after →
        (∀ room, bound ≤ room → (pursuit.guard after).Admits (fun _ => True) (second room)) →
        Follows pursuit value result second

/-- From states that belong together the second computation follows the first one. -/
def Leads (pursuit : Pursuit ε σ) (value : α → β → Prop) (first : EStateM ε σ α)
    (second : Nat → EStateM ε σ β) : Prop :=
  ∀ state other, pursuit.state state other →
    pursuit.Follows value (first state) fun room => second room other

namespace Leads

variable {value : α → β → Prop} {result : γ → δ → Prop}

/-- A second computation that needs no room. -/
theorem of_pairs {first : EStateM ε σ α} {second : EStateM ε σ β}
    (pairs : pursuit.Pairs value first second) : pursuit.Leads value first fun _ => second :=
  fun state other paired => .settled 0 (pairs state other paired) fun _ _ => rfl

/-- A first computation without any room. -/
theorem exhausted {second : Nat → EStateM ε σ β} (keeps : ∀ room, pursuit.Keeps (second room)) :
    pursuit.Leads value (throw pursuit.exhausted) second :=
  fun state other paired =>
    .exhausted 0 rfl fun room _ => keeps room state other (pursuit.start paired)

/-- One step more of room. -/
theorem succ {first : EStateM ε σ α} {second : Nat → EStateM ε σ β}
    (leads : pursuit.Leads value first fun room => second (room + 1)) :
    pursuit.Leads value first second := by
  intro state other paired
  cases leads state other paired with
  | settled bound ends same =>
      refine .settled (bound + 1) ends fun room enough => ?_
      obtain ⟨less, rfl⟩ := Nat.exists_eq_add_of_le' (Nat.le_of_add_left_le enough)
      exact same less (Nat.le_of_add_le_add_right enough)
  | exhausted bound equation keeps =>
      refine .exhausted (bound + 1) equation fun room enough => ?_
      obtain ⟨less, rfl⟩ := Nat.exists_eq_add_of_le' (Nat.le_of_add_left_le enough)
      exact keeps less (Nat.le_of_add_le_add_right enough)

/-- What goes on after computations that need no room. -/
theorem after {first : EStateM ε σ α} {second : EStateM ε σ β} {next : α → EStateM ε σ γ}
    {further : Nat → β → EStateM ε σ δ} (early : pursuit.Pairs value first second)
    (late : ∀ found other, value found other →
      pursuit.Leads result (next found) fun room => further room other) :
    pursuit.Leads result (first >>= next) fun room => second >>= further room := by
  intro state other paired
  have ends := early state other paired
  simp only [bind_apply]
  generalize first state = one, second other = two at ends
  cases ends with
  | ok related after => exact late _ _ related _ _ after
  | error related after => exact .settled 0 (.error related after) fun _ _ => rfl

theorem get {next : σ → EStateM ε σ γ} {further : Nat → σ → EStateM ε σ δ}
    (late : ∀ state other, pursuit.state state other →
      pursuit.Leads result (next state) fun room => further room other) :
    pursuit.Leads result (MonadState.get >>= next) fun room => MonadState.get >>= further room :=
  fun state other paired => late state other paired state other paired

theorem bind {first : EStateM ε σ α} {second : Nat → EStateM ε σ β} {next : α → EStateM ε σ γ}
    {further : Nat → β → EStateM ε σ δ} (early : pursuit.Leads value first second)
    (late : ∀ found other, value found other →
      pursuit.Leads result (next found) fun room => further room other)
    (keeps : ∀ room other, pursuit.Keeps (further room other)) :
    pursuit.Leads result (first >>= next) fun room => second room >>= further room := by
  intro state other paired
  simp only [bind_apply]
  cases early state other paired with
  | settled bound ends same =>
      generalize first state = one at ends
      cases ends with
      | error related after =>
          refine .settled bound (.error related after) fun room enough => ?_
          rw [same room enough]
      | ok related after =>
          cases late _ _ related _ _ after with
          | settled more ends further =>
              refine .settled (max bound more) ends fun room enough => ?_
              rw [same room (Nat.max_le.1 enough |>.1)]
              exact further room (Nat.max_le.1 enough |>.2)
          | exhausted more equation further =>
              refine .exhausted (max bound more) equation fun room enough => ?_
              rw [same room (Nat.max_le.1 enough |>.1)]
              exact further room (Nat.max_le.1 enough |>.2)
  | @exhausted after bound equation reached =>
      -- Whatever the second computation goes on with, it does not fall behind that point.
      rw [equation]
      refine .exhausted bound rfl fun room enough => ?_
      have here := reached room enough
      cases ended : second room other with
      | ok found later =>
          rw [ended] at here
          exact keeps room found after later here.2
      | error stop later =>
          rw [ended] at here
          exact here

theorem map {first : EStateM ε σ α} {second : Nat → EStateM ε σ β} {change : α → γ}
    {otherChange : β → δ} (leads : pursuit.Leads value first second)
    (implies : ∀ found other, value found other → result (change found) (otherChange other)) :
    pursuit.Leads result (change <$> first) fun room => otherChange <$> second room := by
  simp only [← bind_pure_comp]
  exact leads.bind (fun _ _ related => of_pairs (.pure (implies _ _ related)))
    fun _ _ _ => .pure trivial

/-- Both computations are changed, in what comes of them and not where they lack room. -/
theorem changed {first : EStateM ε σ α} {second : Nat → EStateM ε σ β} {final : EStateM ε σ γ}
    {last : Nat → EStateM ε σ δ} (leads : pursuit.Leads value first second)
    (ends : ∀ {room state other}, pursuit.Ends value (first state) (second room other) →
      pursuit.Ends result (final state) (last room other))
    (exhausted : ∀ {state after}, first state = .error pursuit.exhausted after →
      final state = .error pursuit.exhausted after)
    (same : ∀ {room more state}, second room state = second more state →
      last room state = last more state)
    (keeps : ∀ {room state after}, (pursuit.guard after).Admits (fun _ => True)
      (second room state) → (pursuit.guard after).Admits (fun _ => True) (last room state)) :
    pursuit.Leads result final last := by
  intro state other paired
  cases leads state other paired with
  | settled bound settled settles =>
      refine .settled bound (ends (settles bound (Nat.le_refl bound) ▸ settled)) ?_
      intro room enough
      exact same ((settles room enough).trans (settles bound (Nat.le_refl bound)).symm)
  | exhausted bound equation reached =>
      exact .exhausted bound (exhausted equation) fun room enough => keeps (reached room enough)

end Leads

end Pursuit

end CheckedScript
