import CheckedScript.Proofs.Reader.Leads
import CheckedScript.Proofs.Reader.Sentences

/-!
# How readings end

Whatever is visited while a program is read comes to an end, what has been recorded by then stays,
and a fault that ends a visit is recorded sooner or later.
-/

namespace CheckedScript

namespace Reader

/-- Reading tokens ends with these diagnostics. -/
def EndsWith (tokens : List Token) (diagnostics : List Diagnostic) : Prop :=
  ∃ first rest program last, tokens = first :: rest ∧
    statements (tokens.length + 1) ⟨first, tokens, []⟩ = .ok program last ∧
    last.diagnostics = diagnostics

theorem Visited.nonempty {tokens : List Token} {visit : Visit} (visited : Visited tokens visit) :
    tokens ≠ [] := by
  induction visited with
  | start => exact List.cons_ne_nil _ _
  | call _ _ inductionHypothesis => exact inductionHypothesis

/-- What has been recorded at the end of a visit stays recorded. -/
theorem Visited.finishes {tokens : List Token} {visit : Visit} (visited : Visited tokens visit)
    {diagnostics : List Diagnostic} (ends : EndsWith tokens diagnostics) :
    ∃ outcome after, Finishes visit.result outcome after ∧ after.diagnostics <+: diagnostics := by
  induction visited with
  | start =>
      obtain ⟨first, rest, program, last, shape, equation, rfl⟩ := ends
      cases shape
      exact ⟨_, last, .of_ok equation, List.prefix_refl _⟩
  | call visited calls inductionHypothesis =>
      obtain ⟨outcome, last, finishes, kept⟩ := inductionHypothesis ends
      obtain ⟨result, after, finished, grown⟩ := calls.finishes finishes
      exact ⟨result, after, finished, grown.trans kept⟩

/-- The fault that ends a visit is recorded. -/
theorem Visited.reports {tokens : List Token} {visit : Visit} (visited : Visited tokens visit)
    {diagnostics : List Diagnostic} (ends : EndsWith tokens diagnostics)
    {diagnostic : Diagnostic} {after : Cursor}
    (failed : visit.result = .error (.failed diagnostic) after) :
    after.diagnostics ++ [diagnostic] <+: diagnostics := by
  induction visited with
  | start =>
      obtain ⟨first, rest, program, last, shape, equation, rfl⟩ := ends
      cases shape
      cases equation.symm.trans failed
  | call visited calls inductionHypothesis =>
      rcases calls.reports failed with passed | recorded
      · exact inductionHypothesis ends passed
      · obtain ⟨outcome, last, finishes, kept⟩ := visited.finishes ends
        exact (recorded outcome last finishes).trans kept

end Reader

namespace Program

open Reader

/-- Where something has been recorded, a program is refused with everything that has. -/
theorem read_of_recorded {tokens : List Token} {diagnostics : List Diagnostic}
    (ends : EndsWith tokens diagnostics) (recorded : diagnostics ≠ []) :
    read tokens = .error { phase := .parsing, diagnostics := diagnostics } := by
  obtain ⟨first, rest, program, last, rfl, equation, rfl⟩ := ends
  rw [read_eq first equation]
  simp only [List.isEmpty_iff, recorded, if_false]

theorem diagnostics_of_refused {tokens : List Token} {diagnostics : List Diagnostic}
    (ends : EndsWith tokens diagnostics) {rejection : Rejection}
    (refused : read tokens = .error rejection) : rejection.diagnostics = diagnostics := by
  obtain ⟨first, rest, program, last, rfl, equation, rfl⟩ := ends
  rw [read_eq first equation] at refused
  split at refused
  · cases refused
  · cases refused
    rfl

theorem exists_endsWith {tokens : List Token} (nonempty : tokens ≠ []) :
    ∃ diagnostics, EndsWith tokens diagnostics := by
  cases tokens with
  | nil => exact absurd rfl nonempty
  | cons first rest =>
      obtain ⟨program, last, equation, _⟩ :=
        statements_finish _ ⟨first, first :: rest, []⟩ (Nat.lt_succ_self (first :: rest).length)
      exact ⟨_, first, rest, program, last, rfl, equation, rfl⟩

end Program

end CheckedScript
