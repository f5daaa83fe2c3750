import CheckedScript.Proofs.Computation
import CheckedScript.Typing.State

/-!
# What a computation leaves behind

A course says how a later state stands to an earlier one, what is known of every state, and
what of the reasons to stop.  What is expected of the value of a computation may depend on
the state it ends in, and what a computation goes on with may depend on all that came
before it, so the steps of a course are followed one by one.  Checks have steps of their own:
they report failures and go on, and some change the state before a failure goes on.
-/

namespace CheckedScript

variable {ε σ α β : Type}

/-- The states that one state may lead to, and the reasons to stop there. -/
structure Course (ε σ : Type) where
  later : σ → σ → Prop
  state : σ → Prop
  stop : ε → σ → Prop
  refl : ∀ state, later state state
  trans : ∀ {first second third}, later first second → later second third → later first third

namespace Course

variable (course : Course ε σ)

/-- How a computation that begins in a given state may end. -/
def Ends (start : σ) (fits : α → σ → Prop) : EStateM.Result ε σ α → Prop
  | .ok value after => course.later start after ∧ course.state after ∧ fits value after
  | .error stop after => course.later start after ∧ course.state after ∧ course.stop stop after

variable {course} {start middle : σ} {fits wide : α → σ → Prop} {result : β → σ → Prop}

namespace Ends

theorem pure {value : α} (known : course.state start) (holds : fits value start) :
    course.Ends start fits ((Pure.pure value : EStateM ε σ α) start) :=
  ⟨course.refl start, known, holds⟩

theorem throw {stop : ε} (known : course.state start) (stops : course.stop stop start) :
    course.Ends start fits ((MonadExcept.throw stop : EStateM ε σ α) start) :=
  ⟨course.refl start, known, stops⟩

theorem mono {ended : EStateM.Result ε σ α} (ends : course.Ends start fits ended)
    (implies : ∀ value after, fits value after → wide value after) :
    course.Ends start wide ended := by
  cases ended with
  | ok value after => exact ⟨ends.1, ends.2.1, implies value after ends.2.2⟩
  | error stop after => exact ends

/-- What began later began later than anything before. -/
theorem since {ended : EStateM.Result ε σ α} (ends : course.Ends middle fits ended)
    (later : course.later start middle) : course.Ends start fits ended := by
  cases ended with
  | ok value after => exact ⟨course.trans later ends.1, ends.2⟩
  | error stop after => exact ⟨course.trans later ends.1, ends.2⟩

theorem bind {first : EStateM ε σ α} {next : α → EStateM ε σ β}
    (early : course.Ends start fits (first start))
    (late : ∀ value after, first start = .ok value after → course.later start after →
      course.state after → fits value after → course.Ends after result (next value after)) :
    course.Ends start result ((first >>= next) start) := by
  rw [bind_apply]
  cases equation : first start with
  | ok value after =>
      rw [equation] at early
      obtain ⟨later, known, holds⟩ := early
      exact (late value after equation later known holds).since later
  | error stop after =>
      rw [equation] at early
      exact early

theorem get {next : σ → EStateM ε σ β} (ends : course.Ends start result (next start start)) :
    course.Ends start result ((MonadState.get >>= next) start) :=
  ends

theorem of_ok {computation : EStateM ε σ α} {value : α} {after : σ}
    (ends : course.Ends start fits (computation start))
    (equation : computation start = .ok value after) :
    course.later start after ∧ course.state after ∧ fits value after := by
  rw [equation] at ends
  exact ends

end Ends

section Checks

open Typing Check

variable {course : Course Stop State} {state : State} {fits : α → State → Prop} {check : Check α}

theorem Ends.orFault {result : Except Fault α} (known : course.state state)
    (stops : ∀ fault, result = .error fault → course.stop (.faulted fault) state) :
    course.Ends state (fun value after => result = .ok value ∧ state = after)
      (Check.orFault result state) := by
  cases result with
  | ok value => exact .pure known ⟨rfl, rfl⟩
  | error fault => exact .throw known (stops fault rfl)

/-- A check that reports its failures ends well if a report is a step of the course. -/
theorem Ends.reporting
    (reports : ∀ diagnostic after, course.state after → course.stop (.failed diagnostic) after →
      course.later after (after.report diagnostic) ∧ course.state (after.report diagnostic))
    (ends : course.Ends state fits (check state)) :
    course.Ends state (fun found after => ∀ value ∈ found, fits value after)
      (Check.reporting check state) := by
  unfold Check.reporting
  cases equation : check state with
  | ok value after =>
      rw [equation] at ends
      exact ⟨ends.1, ends.2.1, by simpa using ends.2.2⟩
  | error stop after =>
      rw [equation] at ends
      obtain ⟨later, known, stops⟩ := ends
      cases stop with
      | failed diagnostic =>
          obtain ⟨further, reported⟩ := reports diagnostic after known stops
          exact ⟨course.trans later further, reported, by simp⟩
      | reported => exact ⟨later, known, by simp⟩
      | faulted | exhausted => exact ⟨later, known, stops⟩

/-- A check that changes the state when it fails ends well if the change is a step of the
course. -/
theorem Ends.onFailure {change : State → State}
    (changes : ∀ stop after, course.state after → course.stop stop after →
      course.later after (change after) ∧ course.state (change after) ∧
        course.stop stop (change after))
    (ends : course.Ends state fits (check state)) :
    course.Ends state fits (Check.onFailure check change state) := by
  unfold Check.onFailure
  cases equation : check state with
  | ok value after =>
      rw [equation] at ends
      exact ends
  | error stop after =>
      rw [equation] at ends
      obtain ⟨later, known, stops⟩ := ends
      obtain ⟨further, changed⟩ := changes stop after known stops
      cases stop with
      | failed | reported => exact ⟨course.trans later further, changed⟩
      | faulted | exhausted => exact ⟨later, known, stops⟩

end Checks

end Course

end CheckedScript
