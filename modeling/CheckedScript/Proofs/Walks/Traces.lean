import CheckedScript.Proofs.Computation

/-!
# Traces of computations

A traced computation comes with the list of what it comes to, which depends on the state it
starts in.  It is made of the same steps as the computation that it traces: one after
another, the traces follow one another as long as no step stops.  `Traced.run` forgets the
trace again.
-/

namespace CheckedScript

/-- A computation together with what it comes to on its way. -/
structure Traced (ν ε σ α : Type) where
  run : EStateM ε σ α
  visits : σ → List ν

namespace Traced

variable {ν ε σ α β : Type}

/-- The trace of a second step, if the first one does not stop. -/
def onward (result : EStateM.Result ε σ α) (next : α → σ → List ν) : List ν :=
  match result with
  | .ok value after => next value after
  | .error _ _ => []

instance : Monad (Traced ν ε σ) where
  pure value := ⟨pure value, fun _ => []⟩
  bind first next :=
    { run := first.run >>= fun value => (next value).run
      visits := fun state =>
        first.visits state ++ onward (first.run state) fun value => (next value).visits }

/-- A step that comes to nothing worth a note. -/
def lift (step : EStateM ε σ α) : Traced ν ε σ α :=
  ⟨step, fun _ => []⟩

/-- Note the start of a computation. -/
def noted (label : σ → ν) (inner : Traced ν ε σ α) : Traced ν ε σ α :=
  ⟨inner.run, fun state => label state :: inner.visits state⟩

/-- Run a computation in the state that is there, and go on from its end in another way. -/
def through (handle : EStateM ε σ α → EStateM ε σ β) (inner : Traced ν ε σ α) : Traced ν ε σ β :=
  ⟨handle inner.run, inner.visits⟩

@[simp]
theorem run_pure (value : α) : (pure value : Traced ν ε σ α).run = pure value :=
  rfl

@[simp]
theorem run_bind (first : Traced ν ε σ α) (next : α → Traced ν ε σ β) :
    (first >>= next).run = first.run >>= fun value => (next value).run :=
  rfl

@[simp]
theorem run_map (change : α → β) (first : Traced ν ε σ α) :
    (change <$> first).run = change <$> first.run := by
  funext state
  change (first.run >>= fun value => pure (change value)) state = EStateM.map change first.run state
  rw [bind_apply]
  unfold EStateM.map
  cases first.run state <;> rfl

@[simp]
theorem run_lift (step : EStateM ε σ α) : (lift step : Traced ν ε σ α).run = step :=
  rfl

@[simp]
theorem run_through (handle : EStateM ε σ α → EStateM ε σ β) (inner : Traced ν ε σ α) :
    (through handle inner).run = handle inner.run :=
  rfl

@[simp]
theorem run_noted (label : σ → ν) (inner : Traced ν ε σ α) : (noted label inner).run = inner.run :=
  rfl

@[simp]
theorem visits_pure (value : α) (state : σ) : (pure value : Traced ν ε σ α).visits state = [] :=
  rfl

@[simp]
theorem visits_lift (step : EStateM ε σ α) (state : σ) :
    (lift step : Traced ν ε σ α).visits state = [] :=
  rfl

@[simp]
theorem visits_through (handle : EStateM ε σ α → EStateM ε σ β) (inner : Traced ν ε σ α) :
    (through handle inner).visits = inner.visits :=
  rfl

@[simp]
theorem visits_noted (label : σ → ν) (inner : Traced ν ε σ α) (state : σ) :
    (noted label inner).visits state = label state :: inner.visits state :=
  rfl

@[simp]
theorem visits_map (change : α → β) (first : Traced ν ε σ α) (state : σ) :
    (change <$> first).visits state = first.visits state := by
  change first.visits state ++ onward (first.run state) (fun _ _ => []) = first.visits state
  cases first.run state <;> simp [onward]

theorem pure_apply (value : α) (state : σ) :
    (pure value : EStateM ε σ α) state = .ok value state :=
  rfl

theorem map_apply (change : α → β) (first : EStateM ε σ α) (state : σ) :
    (change <$> first) state =
      match first state with
      | .ok value after => .ok (change value) after
      | .error stop after => .error stop after := by
  change EStateM.map change first state = _
  unfold EStateM.map
  cases first state <;> rfl

/-- A second step is come to if the first one does not stop. -/
theorem mem_visits_bind {first : Traced ν ε σ α} {next : α → Traced ν ε σ β} {state : σ}
    {label : ν} :
    label ∈ (first >>= next).visits state ↔
      label ∈ first.visits state ∨
        ∃ value after, first.run state = .ok value after ∧ label ∈ (next value).visits after := by
  change label ∈ first.visits state ++ onward (first.run state) _ ↔ _
  rw [List.mem_append]
  cases first.run state <;> simp [onward, and_assoc]

/-- All that a computation comes to, from a state on, has a property. -/
def Within (property : ν → Prop) (traced : Traced ν ε σ α) (state : σ) : Prop :=
  ∀ label ∈ traced.visits state, property label

namespace Within

variable {property : ν → Prop} {state : σ}

theorem pure (value : α) : Within property (Pure.pure value : Traced ν ε σ α) state :=
  List.forall_mem_nil _

theorem lift (step : EStateM ε σ α) : Within property (Traced.lift step) state :=
  List.forall_mem_nil _

theorem bind {first : Traced ν ε σ α} {next : α → Traced ν ε σ β}
    (early : Within property first state)
    (late : ∀ value after, first.run state = .ok value after →
      Within property (next value) after) : Within property (first >>= next) state := by
  intro label member
  rcases mem_visits_bind.1 member with member | ⟨value, after, equation, member⟩
  · exact early label member
  · exact late value after equation label member

theorem noted {label : σ → ν} {inner : Traced ν ε σ α} (start : property (label state))
    (rest : Within property inner state) : Within property (Traced.noted label inner) state :=
  List.forall_mem_cons.2 ⟨start, rest⟩

theorem map {first : Traced ν ε σ α} (change : α → β) (early : Within property first state) :
    Within property (change <$> first) state := by
  intro label member
  rw [visits_map] at member
  exact early label member

/-- Steps that change the state and come to nothing worth a note. -/
theorem lift_bind {step : EStateM ε σ α} {next : α → Traced ν ε σ β}
    (late : ∀ value after, step state = .ok value after → Within property (next value) after) :
    Within property (Traced.lift step >>= next) state :=
  (lift step).bind late

end Within

end Traced

end CheckedScript
