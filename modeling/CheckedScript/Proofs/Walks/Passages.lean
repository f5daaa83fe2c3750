import CheckedScript.Proofs.Walks.Courses
import CheckedScript.Proofs.Walks.Parts

/-!
# What checks pass through

A course says how later states stand to earlier ones and what is known of every state.  A
check that keeps to a course in every step does so in all the states that it passes through:
they come later than its beginning and earlier than its end, and of any two of them one
comes later than the other.  Checks that follow each other pass through the states of the
one and then through those of the other.
-/

namespace CheckedScript

namespace Typing

open Check

variable {α β : Type}

theorem Leaves.unique {result : EStateM.Result Stop State α} {first second : State}
    (leaves : Leaves result first) (other : Leaves result second) : first = second := by
  cases leaves <;> cases other <;> rfl

end Typing

open Typing Check

namespace Course

variable {α β : Type}

/-- How a check may end that begins in a given state, and how the states that it passes
through inside stand to its beginning, to its end and to each other. -/
structure Tells (course : Course Stop State) (start : State) (inside : State → Prop)
    (fits : α → State → Prop) (result : EStateM.Result Stop State α) : Prop where
  ends : course.Ends start fits result
  since : ∀ state, inside state → course.later start state ∧ course.state state
  leads : ∀ state after, inside state → Leaves result after → course.later state after
  ordered : ∀ first second, inside first → inside second →
    course.later first second ∨ course.later second first

namespace Tells

variable {course : Course Stop State} {start middle : State} {inside within : State → Prop}
  {fits : α → State → Prop} {result : EStateM.Result Stop State α}

theorem leaves {last : State} (tells : course.Tells start inside fits result)
    (leaves : Leaves result last) :
    course.later start last ∧ course.state last := by
  cases leaves with
  | value => exact ⟨tells.ends.1, tells.ends.2.1⟩
  | failed | reported => exact ⟨tells.ends.1, tells.ends.2.1⟩

/-- A check that passes through nothing inside. -/
theorem quiet (ends : course.Ends start fits result) :
    course.Tells start (fun _ => False) fits result where
  ends := ends
  since _ none := none.elim
  leads _ _ none := none.elim
  ordered _ _ none := none.elim

theorem narrow (tells : course.Tells start inside fits result)
    (fewer : ∀ state, within state → inside state) : course.Tells start within fits result where
  ends := tells.ends
  since state passed := tells.since state (fewer state passed)
  leads state after passed := tells.leads state after (fewer state passed)
  ordered first second passed also :=
    tells.ordered first second (fewer first passed) (fewer second also)

/-- The check as a whole, its beginning and its end included. -/
theorem whole (tells : course.Tells start inside fits result) (known : course.state start) :
    course.Tells start (fun state => (state = start ∨ Leaves result state) ∨ inside state) fits
      result where
  ends := tells.ends
  since := by
    rintro state ((rfl | left) | passed)
    · exact ⟨course.refl _, known⟩
    · exact tells.leaves left
    · exact tells.since state passed
  leads := by
    rintro state after ((rfl | left) | passed) leaves
    · exact (tells.leaves leaves).1
    · rw [left.unique leaves]
      exact course.refl _
    · exact tells.leads state after passed leaves
  ordered := by
    rintro first second ((rfl | left) | passed) ((rfl | also) | also)
    · exact .inl (course.refl _)
    · exact .inl (tells.leaves also).1
    · exact .inl (tells.since second also).1
    · exact .inr (tells.leaves left).1
    · rw [left.unique also]
      exact .inl (course.refl _)
    · exact .inr (tells.leads second first also left)
    · exact .inr (tells.since first passed).1
    · exact .inl (tells.leads first second passed also)
    · exact tells.ordered first second passed also

/-- A part of the work as a whole. -/
theorem part (part : Part) (tells : course.Tells start part.PassesInside fits result)
    (begins : part.state = start) (ends : ∀ state, part.Ends state → Leaves result state)
    (known : course.state start) : course.Tells start part.Passes fits result := by
  refine (tells.whole known).narrow fun state passes => ?_
  rw [← begins]
  exact (Part.passes_iff.1 passes).imp_left fun meets => meets.imp_right (ends state)

/-- What began later began later than anything before. -/
theorem after (tells : course.Tells middle inside fits result)
    (later : course.later start middle) : course.Tells start inside fits result where
  ends := tells.ends.since later
  since state passed := (tells.since state passed).imp_left (course.trans later)
  leads := tells.leads
  ordered := tells.ordered

/-- The state in which a check ends is changed. -/
theorem onward {ended : EStateM.Result Stop State β} {good : β → State → Prop}
    (tells : course.Tells start inside fits result) (last : State)
    (ends : course.Ends start good ended)
    (leaves : ∀ after, Leaves ended after → Leaves result last ∧ course.later last after) :
    course.Tells start inside good ended where
  ends := ends
  since := tells.since
  leads state after passed left := by
    obtain ⟨left, further⟩ := leaves after left
    exact course.trans (tells.leads state last passed left) further
  ordered := tells.ordered

/-- One check after another, which passes through further states. -/
theorem bind {first : Check α} {next : α → Check β} {good : β → State → Prop}
    (further : α → State → State → Prop) (early : course.Tells start inside fits (first start))
    (late : ∀ value after, first start = .ok value after → course.later start after →
      course.state after → fits value after →
      course.Tells after (further value after) good (next value after)) :
    course.Tells start
      (fun state => inside state ∨
        ∃ value after, first start = .ok value after ∧ further value after state)
      good ((first >>= next) start) := by
  rw [bind_apply]
  cases equation : first start with
  | error stop last =>
      rw [equation] at early
      have alone : course.Tells start inside good (.error stop last) := by
        refine early.onward last early.ends fun after left => ?_
        cases left with
        | failed => exact ⟨.failed, course.refl _⟩
        | reported => exact ⟨.reported, course.refl _⟩
      refine alone.narrow ?_
      rintro state (passed | ⟨value, after, same, _⟩)
      · exact passed
      · cases same
  | ok value last =>
      rw [equation] at early
      obtain ⟨later, known, holds⟩ := early.ends
      have tells := late value last equation later known holds
      have reaches : ∀ state, inside state → course.later state last := fun state passed =>
        early.leads state last passed .value
      have joined : course.Tells start (fun state => inside state ∨ further value last state) good
          (next value last) := by
        refine
          { ends := tells.ends.since later, since := ?_, leads := ?_, ordered := ?_ }
        · rintro state (passed | passed)
          · exact early.since state passed
          · obtain ⟨further, known⟩ := tells.since state passed
            exact ⟨course.trans later further, known⟩
        · rintro state after (passed | passed) leaves
          · exact course.trans (reaches state passed) (tells.leaves leaves).1
          · exact tells.leads state after passed leaves
        · rintro first second (passed | passed) (also | also)
          · exact early.ordered first second passed also
          · exact .inl (course.trans (reaches first passed) (tells.since second also).1)
          · exact .inr (course.trans (reaches second also) (tells.since first passed).1)
          · exact tells.ordered first second passed also
      refine joined.narrow ?_
      rintro state (passed | ⟨_, _, same, passed⟩)
      · exact .inl passed
      · cases same
        exact .inr passed

/-- One check after another, which passes through nothing inside. -/
theorem followed {first : Check α} {next : α → Check β} {good : β → State → Prop}
    (early : course.Tells start inside fits (first start))
    (late : ∀ value after, first start = .ok value after → course.later start after →
      course.state after → fits value after → course.Ends after good (next value after)) :
    course.Tells start inside good ((first >>= next) start) :=
  (early.bind (fun _ _ _ => False) fun value after equation later known holds =>
    .quiet (late value after equation later known holds)).narrow fun _ => .inl

theorem reporting {check : Check α} (tells : course.Tells start inside fits (check start))
    (reports : ∀ diagnostic after, course.state after →
      course.later after (after.report diagnostic) ∧ course.state (after.report diagnostic)) :
    course.Tells start inside (fun found after => ∀ value ∈ found, fits value after)
      (Check.reporting check start) := by
  have ends := tells.ends.reporting fun diagnostic after known _ => reports diagnostic after known
  unfold Check.reporting at ends ⊢
  cases equation : check start with
  | ok value last =>
      rw [equation] at tells ends
      exact tells.onward last ends fun after left => by
        cases left
        exact ⟨.value, course.refl _⟩
  | error stop last =>
      rw [equation] at tells ends
      obtain ⟨_, known, _⟩ := tells.ends
      cases stop with
      | failed diagnostic =>
          exact tells.onward last ends fun after left => by
            cases left
            exact ⟨.failed, (reports diagnostic last known).1⟩
      | reported =>
          exact tells.onward last ends fun after left => by
            cases left
            exact ⟨.reported, course.refl _⟩
      | faulted fault =>
          exact tells.onward last ends fun after left => by cases left
      | exhausted =>
          exact tells.onward last ends fun after left => by cases left

/-- The state is changed where a check fails. -/
theorem onFailure {check : Check α} {change : State → State}
    (tells : course.Tells start inside fits (check start))
    (stops : ∀ stop state, course.stop stop state)
    (changes : ∀ after, course.later start after → course.state after →
      course.later after (change after) ∧ course.state (change after)) :
    course.Tells start inside fits (Check.onFailure check change start) := by
  unfold Check.onFailure
  cases equation : check start with
  | ok value last =>
      rw [equation] at tells
      exact tells
  | error stop last =>
      rw [equation] at tells
      obtain ⟨later, known, stopped⟩ := tells.ends
      obtain ⟨further, changed⟩ := changes last later known
      have ended : course.Ends start fits (.error stop (change last)) :=
        ⟨course.trans later further, changed, stops _ _⟩
      cases stop with
      | failed diagnostic =>
          exact tells.onward last ended fun after left => by
            cases left
            exact ⟨.failed, further⟩
      | reported =>
          exact tells.onward last ended fun after left => by
            cases left
            exact ⟨.reported, further⟩
      | faulted | exhausted => exact tells

end Tells

end Course

end CheckedScript
