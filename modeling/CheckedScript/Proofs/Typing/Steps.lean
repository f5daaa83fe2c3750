import CheckedScript.Proofs.Typing.CheckEffect

/-!
# Successful steps of a check

What is known of conditions, bounds and declarations when their checks succeed.
-/

namespace CheckedScript

namespace Check

open Typing

variable {fuel : Nat} {frame : FrameId} {place : Place} {before after : State}

/-- A condition that leaves no diagnostic is a truth value. -/
theorem checkCondition_eq_ok {keyword : Token} {condition : Expr}
    (equation : checkCondition fuel frame place keyword condition before = .ok () after)
    (clean : after.diagnostics = []) :
    ∃ left found, fuel = left + 1 ∧ typeOf left frame place condition before = .ok found after ∧
      Ty.bool.compatible found = true := by
  cases fuel with
  | zero => cases equation
  | succ fuel =>
      rw [checkCondition] at equation
      obtain ⟨result, middle, reported, rest⟩ := bind_eq_ok equation
      have effect : Effect .nothing middle after := by
        cases result with
        | none =>
            obtain ⟨_, rfl⟩ := pure_eq_ok rest
            exact .rest middle
        | some found =>
            dsimp only at rest
            split at rest
            · cases rest
              exact .report _ middle _
            · obtain ⟨_, rfl⟩ := pure_eq_ok rest
              exact .rest middle
      have cleanMiddle : middle.diagnostics = [] :=
        List.prefix_nil.1 (clean ▸ effect.diagnostics)
      obtain ⟨found, rfl, typed⟩ :=
        reporting_eq_ok ((allKeep fuel).typeOf frame place condition before) reported cleanMiddle
      dsimp only at rest
      split at rest
      · cases rest
        exact absurd clean (Keeps.diagnostics_report_ne_nil middle _)
      · next compatible =>
          obtain ⟨_, rfl⟩ := pure_eq_ok rest
          exact ⟨fuel, found, rfl, typed, by simpa using compatible⟩

theorem checkBound_eq_ok {token : Token} {expr : Expr}
    (equation : checkBound fuel frame place token expr before = .ok () after) :
    ∃ left found, fuel = left + 1 ∧ typeOf left frame place expr before = .ok found after ∧
      Ty.number.compatible found = true := by
  cases fuel with
  | zero => cases equation
  | succ fuel =>
      rw [checkBound] at equation
      obtain ⟨found, middle, typed, rest⟩ := bind_eq_ok equation
      split at rest
      · cases rest
      · next compatible =>
          obtain ⟨_, rfl⟩ := pure_eq_ok rest
          exact ⟨fuel, found, rfl, typed, by simpa using compatible⟩

/-- A `let` statement binds the type of its initializer, or a written type that it
is compatible with. -/
theorem checkLet_eq_ok {name : Token} {declared : Option WrittenType} {initializer : Expr}
    (equation : checkLet fuel frame place name (declared.map (·.type)) initializer before =
      .ok () after) :
    ∃ left found type middle, fuel = left + 1 ∧
      typeOf left frame (place.child 0) initializer before = .ok found middle ∧
      after = middle.bind frame name.lexeme type ∧
      (type = found ∨ ∃ written : WrittenType, type = written.type ∧
        type.compatible found = true) := by
  cases fuel with
  | zero => cases equation
  | succ fuel =>
      cases declared with
      | none =>
          rw [Option.map_none, checkLet] at equation
          obtain ⟨found, middle, typed, rest⟩ := bind_eq_ok equation
          cases rest
          exact ⟨fuel, found, found, middle, rfl, typed, rfl, .inl rfl⟩
      | some written =>
          rw [Option.map_some, checkLet] at equation
          obtain ⟨found, middle, typed, rest⟩ := bind_eq_ok equation
          have typed : typeOf fuel frame (place.child 0) initializer before = .ok found middle := by
            unfold onFailure at typed
            split at typed
            · cases typed
            · cases typed
            · exact typed
          obtain ⟨_, _, binds, rest⟩ := bind_eq_ok rest
          cases binds
          split at rest
          · cases rest
          · next compatible =>
              obtain ⟨_, rfl⟩ := pure_eq_ok rest
              exact ⟨fuel, found, written.type, middle, rfl, typed, rfl,
                .inr ⟨written, rfl, by simpa using compatible⟩⟩

end Check

end CheckedScript
