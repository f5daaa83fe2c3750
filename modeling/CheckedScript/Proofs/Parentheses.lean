import CheckedScript.Proofs.Grouping.Checking
import CheckedScript.Proofs.Grouping.Running
import CheckedScript.Proofs.Layout

/-!
# Redundant parentheses mean nothing

A program and the same program without groups are checked and run alike.  Groups cost room,
so the two need different bounds on the nesting.  What is compared is what comes of a check or
a run with enough room: the type or the diagnostics, the end of the run, and all that is printed
on the way, also by a run that never ends.
-/

namespace CheckedScript

section Natives

theorem Native.ignoresGroups_print : Native.print.IgnoresGroups := by
  intro values others console regrouped
  have shown : values.map (fun value => value.display ++ "\n") =
      others.map fun value => value.display ++ "\n" := by
    rw [← List.forall₂_eq_eq_eq]
    exact List.rel_map (fun _ _ same => by rw [same.display]) regrouped
  refine ⟨.value (.refl _), ?_⟩
  dsimp only [Native.print, Native.printTo]
  rw [shown]

theorem Native.ignoresGroups_clockReading (readings : Nat → Float) :
    (Native.clockReading readings).IgnoresGroups :=
  fun _ _ _ _ => ⟨.value (.refl _), rfl⟩

theorem Native.appends_print : Native.print.Appends :=
  fun _ _ => ⟨_, rfl⟩

theorem Native.appends_clockReading (readings : Nat → Float) :
    (Native.clockReading readings).Appends :=
  fun _ console => .refl console

end Natives

/-- What is seen of a run that has come to an end. -/
inductive RunResult.Ending where
  | value (text : String)
  | rejected (rejection : Rejection)
  | faulted (fault : Fault)
  | aborted (reason : String)

/-- What is seen of a run, if it has come to an end. -/
def RunResult.ending? : RunResult → Option RunResult.Ending
  | value result => some (.value result.display)
  | rejected rejection => some (.rejected rejection)
  | faulted fault => some (.faulted fault)
  | aborted reason => some (.aborted reason)
  | exhausted => none

namespace Program

variable (program : Program) (natives : List Native)

/-- With enough room, the check of a program has this result. -/
def Checks (result : CheckResult) : Prop :=
  ∃ bound, ∀ fuel, bound ≤ fuel →
    (({} : Typing.State).check fuel (Native.signatures natives) program).1 = result

/-- With enough room, a run of a program ends so, and leaves the console so. -/
def Ends (checked : Bool) (ending : RunResult.Ending) (console : Console) : Prop :=
  ∃ bound, ∀ fuel, bound ≤ fuel → (program.run natives fuel checked).1.ending? = some ending ∧
    (program.run natives fuel checked).2.console = console

/-- With enough room, a run of a program prints this, and may print more after it. -/
def Prints (checked : Bool) (output : String) : Prop :=
  ∃ bound, ∀ fuel, bound ≤ fuel →
    ∃ rest, (program.run natives fuel checked).2.console.output = output ++ rest

/-- However much room it has, no run of a program comes to an end. -/
def NeverEnds (checked : Bool) : Prop :=
  ∀ fuel, (program.run natives fuel checked).1.ending? = none

end Program

/-- The check of a regrouped program comes to the same result with enough room. -/
theorem Typing.State.check_regrouped (natives : Bindings Signature) (fuel : Nat)
    {program other : Program} (regrouped : program.Regrouped other) :
    (({} : State).check fuel natives program).1 = .exhausted ∨
      ∃ bound, ∀ room, bound ≤ room →
        (({} : State).check room natives other).1 =
          (({} : State).check fuel natives program).1 := by
  have start : State.Regrouped {} {} := ⟨rfl, rfl, ⟨rfl, fun _ => by simp⟩, rfl, rfl⟩
  unfold check
  cases Check.keepsUp_checkProgram fuel natives regrouped {} {} start with
  | settled bound ends same =>
      refine .inr ⟨bound, fun room enough => ?_⟩
      have ended : Check.checkProgram room natives other {} = _ := same room enough
      rw [ended]
      generalize Check.checkProgram fuel natives program {} = one at ends ⊢
      cases ends with
      | ok types after =>
          subst types
          dsimp only
          rw [after.diagnostics]
          split <;> rfl
      | @error stop second _ _ stops after =>
          obtain rfl : stop = second := stops
          cases stop <;> rfl
  | exhausted bound equation _ =>
      rw [equation]
      exact .inl rfl

/-- The second run has ended like the first one, or the first one has not come to an end and the
second one has got at least as far. -/
def CatchesUp (first second : RunResult × Evaluation.Machine) : Prop :=
  (second.1.ending? = first.1.ending? ∧ second.2.console = first.2.console) ∨
    (first.1.ending? = none ∧ first.2.console.Continues second.2.console)

section Runs

variable {natives : List Native} (ignore : ∀ native ∈ natives, native.IgnoresGroups)
  (append : ∀ native ∈ natives, native.Appends) {program other : Program}
  (regrouped : program.Regrouped other)
include ignore append regrouped

/-- With enough room, a run of a regrouped program catches up with every run. -/
theorem Evaluation.Machine.run_regrouped (fuel : Nat) :
    ∃ bound, ∀ room, bound ≤ room →
      CatchesUp ((Machine.start natives).run natives fuel program)
        ((Machine.start natives).run natives room other) := by
  have bindings : Table.Paired Eq Value.Regrouped
      (natives.map fun native => (native.key, native.value))
      (natives.map fun native => (native.key, native.value)) :=
    List.forall₂_same.2 fun binding _ => ⟨rfl, .refl _⟩
  have start : Machine.Regrouped
      { Machine.start natives with
        console := { (Machine.start natives).console with output := "" } }
      { Machine.start natives with
        console := { (Machine.start natives).console with output := "" } } :=
    ⟨(Scopes.Paired.empty.add []).defineAll Eval.eq_unique _ bindings, rfl⟩
  unfold run
  dsimp only
  cases Eval.leads_executeProgram ignore append fuel Machine.root (.refl _) regrouped _ _ start with
  | settled bound ends same =>
      refine ⟨bound, fun room enough => .inl ?_⟩
      have ended : Eval.executeProgram natives room Machine.root .unit other _ = _ :=
        same room enough
      rw [ended]
      generalize Eval.executeProgram natives fuel Machine.root .unit program _ = one at ends ⊢
      cases ends with
      | ok value after =>
          exact ⟨congrArg (some ∘ RunResult.Ending.value) value.display.symm, after.console.symm⟩
      | error stop after => cases stop <;> exact ⟨rfl, after.console.symm⟩
  | exhausted bound equation reached =>
      refine ⟨bound, fun room enough => .inr ?_⟩
      have further : Guard.Admits _ _
          (Eval.executeProgram natives room Machine.root .unit other _) := reached room enough
      rw [equation]
      refine ⟨rfl, ?_⟩
      generalize Eval.executeProgram natives room Machine.root .unit other _ = two at further ⊢
      cases two with
      | ok value later => exact further.2
      | error stop later => cases stop <;> exact further.2

/-- A program may be checked first. -/
theorem Program.run_regrouped (checked : Bool) (fuel : Nat) :
    ∃ bound, ∀ room, bound ≤ room →
      CatchesUp (program.run natives fuel checked) (other.run natives room checked) := by
  obtain ⟨bound, catches⟩ := Evaluation.Machine.run_regrouped ignore append regrouped fuel
  cases checked with
  | false => exact ⟨bound, catches⟩
  | true =>
      have silent (machine : Evaluation.Machine) :
          (Evaluation.Machine.start natives).console.Continues machine.console :=
        ⟨machine.console.output, (String.empty_append).symm⟩
      unfold Program.run
      simp only [if_true]
      obtain exhausted | ⟨more, same⟩ :=
        Typing.State.check_regrouped (Native.signatures natives) fuel regrouped
      · rw [exhausted]
        exact ⟨0, fun room _ => .inr ⟨rfl, silent _⟩⟩
      · refine ⟨max bound more, fun room enough => ?_⟩
        rw [same room (Nat.max_le.1 enough).2]
        generalize (({} : Typing.State).check fuel (Native.signatures natives) program).1 = result
        cases result with
        | accepted type => exact catches room (Nat.max_le.1 enough).1
        | rejected | faulted | exhausted => exact .inl ⟨rfl, rfl⟩

end Runs

namespace Program

section Implications

variable {natives : List Native} (ignore : ∀ native ∈ natives, native.IgnoresGroups)
  (append : ∀ native ∈ natives, native.Appends) {program other : Program}
  (regrouped : program.Regrouped other)

include regrouped in
theorem checks_of_regrouped {result : CheckResult} (checks : program.Checks natives result) :
    other.Checks natives result := by
  obtain ⟨bound, same⟩ := checks
  obtain exhausted | ⟨more, settles⟩ :=
    Typing.State.check_regrouped (Native.signatures natives) bound regrouped
  · -- The first check never comes to an end, so neither does the second one.
    refine ⟨0, fun room _ => ?_⟩
    obtain lacking | ⟨more, settles⟩ :=
      Typing.State.check_regrouped (Native.signatures natives) room regrouped.symm
    · rw [lacking, ← same bound (Nat.le_refl bound), exhausted]
    · rw [← settles (max bound more) (Nat.le_max_right bound more),
        same (max bound more) (Nat.le_max_left bound more)]
  · exact ⟨more, fun room enough => (settles room enough).trans (same bound (Nat.le_refl bound))⟩

include ignore append regrouped

/-- A run that has come to an end is enough to know how the runs of a regrouped program end. -/
theorem ends_of_run {checked : Bool} {fuel : Nat} {ending : RunResult.Ending}
    (ended : (program.run natives fuel checked).1.ending? = some ending) :
    other.Ends natives checked ending (program.run natives fuel checked).2.console := by
  obtain ⟨bound, catches⟩ := run_regrouped ignore append regrouped checked fuel
  refine ⟨bound, fun room enough => ?_⟩
  obtain ⟨same, consoles⟩ | ⟨unfinished, _⟩ := catches room enough
  · exact ⟨same.trans ended, consoles⟩
  · rw [ended] at unfinished
    cases unfinished

theorem ends_of_regrouped {checked : Bool} {ending : RunResult.Ending} {console : Console}
    (ends : program.Ends natives checked ending console) :
    other.Ends natives checked ending console := by
  obtain ⟨bound, settled⟩ := ends
  obtain ⟨ended, rfl⟩ := settled bound (Nat.le_refl bound)
  exact ends_of_run ignore append regrouped ended

theorem prints_of_regrouped {checked : Bool} {output : String}
    (prints : program.Prints natives checked output) : other.Prints natives checked output := by
  obtain ⟨bound, printed⟩ := prints
  obtain ⟨rest, written⟩ := printed bound (Nat.le_refl bound)
  obtain ⟨more, catches⟩ := run_regrouped ignore append regrouped checked bound
  refine ⟨more, fun room enough => ?_⟩
  obtain ⟨_, consoles⟩ | ⟨_, further, continued⟩ := catches room enough
  · exact ⟨rest, consoles ▸ written⟩
  · exact ⟨rest ++ further, by rw [continued, written, String.append_assoc]⟩

theorem neverEnds_of_regrouped {checked : Bool} (never : other.NeverEnds natives checked) :
    program.NeverEnds natives checked := by
  intro fuel
  by_contra ended
  obtain ⟨ending, ended⟩ := Option.ne_none_iff_exists'.1 ended
  obtain ⟨bound, settled⟩ := ends_of_run ignore append regrouped ended
  have finished := (settled bound (Nat.le_refl bound)).1
  rw [never bound] at finished
  cases finished

end Implications

section Certainty

variable (program : Program) (natives : List Native)

/-- With enough room, the result of a check is certain. -/
theorem exists_checks : ∃ result, program.Checks natives result := by
  have same : program.Regrouped program := List.forall₂_same.2 fun _ _ => rfl
  by_cases lacking : ∀ fuel,
      (({} : Typing.State).check fuel (Native.signatures natives) program).1 = .exhausted
  · exact ⟨.exhausted, 0, fun fuel _ => lacking fuel⟩
  · obtain ⟨fuel, finished⟩ := not_forall.1 lacking
    obtain ⟨bound, settles⟩ :=
      (Typing.State.check_regrouped (Native.signatures natives) fuel same).resolve_left finished
    exact ⟨_, bound, settles⟩

/-- With enough room, the end of a run is certain, unless there is none. -/
theorem ends_or_neverEnds (ignore : ∀ native ∈ natives, native.IgnoresGroups)
    (append : ∀ native ∈ natives, native.Appends) (checked : Bool) :
    (∃ ending console, program.Ends natives checked ending console) ∨
      program.NeverEnds natives checked := by
  have same : program.Regrouped program := List.forall₂_same.2 fun _ _ => rfl
  by_cases never : program.NeverEnds natives checked
  · exact .inr never
  · obtain ⟨fuel, finished⟩ := not_forall.1 never
    obtain ⟨ending, ended⟩ := Option.ne_none_iff_exists'.1 finished
    exact .inl ⟨ending, _, ends_of_run ignore append same ended⟩

end Certainty

/-- A program and the same program without groups are checked with the same result, end alike and
leave the same console, print the same, and go on forever alike.  The output takes every text
here: what has been printed before the end is a question only if the output keeps what it has
taken. -/
theorem groups_mean_nothing (program : Program) (readings : Nat → Float) :
    let natives : List Native := [.print, .clockReading readings]
    (∀ result, program.Checks natives result ↔ program.ungroup.Checks natives result) ∧
      ∀ checked,
        (∀ ending console, program.Ends natives checked ending console ↔
          program.ungroup.Ends natives checked ending console) ∧
        (∀ output, program.Prints natives checked output ↔
          program.ungroup.Prints natives checked output) ∧
        (program.NeverEnds natives checked ↔ program.ungroup.NeverEnds natives checked) := by
  intro natives
  have ignore : ∀ native ∈ natives, native.IgnoresGroups := by
    simp [natives, Native.ignoresGroups_print, Native.ignoresGroups_clockReading]
  have append : ∀ native ∈ natives, native.Appends := by
    simp [natives, Native.appends_print, Native.appends_clockReading]
  have regrouped := program.regrouped_ungroup
  refine ⟨fun result => ⟨checks_of_regrouped regrouped, checks_of_regrouped regrouped.symm⟩,
    fun checked => ⟨fun ending console => ?ends, fun output => ?prints, ?never⟩⟩
  case ends =>
    exact ⟨ends_of_regrouped ignore append regrouped,
      ends_of_regrouped ignore append regrouped.symm⟩
  case prints =>
    exact ⟨prints_of_regrouped ignore append regrouped,
      prints_of_regrouped ignore append regrouped.symm⟩
  case never =>
    exact ⟨neverEnds_of_regrouped ignore append regrouped.symm,
      neverEnds_of_regrouped ignore append regrouped⟩

/-- A group takes room, so that the same bound on the nesting may be enough without it only. -/
example :
    let token : Token := ⟨.identifier, "true", .origin, none⟩
    let grouped : Program := [.expression (.group (.literal (.bool true) token))]
    let endings (program : Program) := [2, 3].map fun fuel => (program.run [] fuel false).1.ending?
    endings grouped = [none, some (.value "true")] ∧
      endings grouped.ungroup = [some (.value "true"), some (.value "true")] :=
  ⟨rfl, rfl⟩

end Program

end CheckedScript
