import CheckedScript.Proofs.Phases
import CheckedScript.Proofs.Reader.Endings

/-!
# Invalid assignment targets are reported

A target that is no name is noted once the value behind `=` has been read.  So either the target is
reported, or a fault in that value, which has ended the assignment before.
-/

namespace CheckedScript

namespace Reader

/-- A program that begins with an expression is read as one. -/
theorem Visited.value {first : Token} {rest : List Token} (noMarker : first.kind ≠ .endOfInput)
    (other : opensStatement first.kind = false) :
    Visited (first :: rest)
      ⟨16 * (first :: rest).length + 15 + 1, ⟨first, first :: rest, []⟩, .assignment⟩ := by
  refine (Visited.start.call (.first rfl noMarker)).call ?_
  have value : (⟨16 * (first :: rest).length + 15 + 1, ⟨first, first :: rest, []⟩,
      .statement⟩ : Visit).Calls (.expression ⟨first, first :: rest, []⟩) :=
    .value fun token member => by
      cases member
      exact other
  exact value

/-- Behind a target that is no name and a value that is read to its end, the target is noted. -/
theorem assignment_records {fuel : Nat} {cursor middle after : Cursor} {equals : Token}
    {rest : List Token} {target value : Expr} (left : tier fuel tiers cursor = .ok target middle)
    (noName : ∀ name, target ≠ .reference name)
    (opens : middle.Opens (.symbol .equal) equals rest)
    (right : assignment fuel (middle.past equals rest) = .ok value after) :
    assignment (fuel + 1) cursor =
      .ok target (after.record { cause := .invalidTarget, token := equals }) := by
  rw [assignment, bind_apply, left]
  dsimp only
  rw [bind_apply, opens.accept?]
  dsimp only
  rw [bind_apply, right]
  cases target with
  | reference name => exact absurd rfl (noName name)
  | _ => rfl

end Reader

namespace TokenStream

open Reader

/-- Each time `=` is consumed behind an expression that is no name, reading is refused, and what is
reported contains the invalid target at that `=`, unless the value behind it is faulty itself: then
the syntax error that has ended this value is reported in place of the target. -/
theorem invalid_target_or_fault_reported {tokens : List Token} {stream : TokenStream}
    (found : ofList? tokens = some stream) {fuel : Nat} {cursor middle : Cursor} {equals : Token}
    {rest : List Token} {target : Expr}
    (visited : Visited stream.body ⟨fuel + 1, cursor, .assignment⟩)
    (left : tier fuel tiers cursor = .ok target middle)
    (noName : ∀ name, target ≠ .reference name)
    (opens : middle.Opens (.symbol .equal) equals rest) :
    ∃ rejection, (ofList? tokens).map (fun stream => Program.read stream.body) =
        some (.error rejection) ∧
      ({ cause := .invalidTarget, token := equals } ∈ rejection.diagnostics ∨
        ∃ diagnostic after,
          assignment fuel (middle.past equals rest) = .error (.failed diagnostic) after ∧
          diagnostic.cause ≠ .invalidTarget ∧ diagnostic ∈ rejection.diagnostics) := by
  obtain ⟨diagnostics, ends⟩ := Program.exists_endsWith visited.nonempty
  have refused {diagnostic : Diagnostic} (member : diagnostic ∈ diagnostics) :
      (ofList? tokens).map (fun stream => Program.read stream.body) =
        some (.error { phase := .parsing, diagnostics := diagnostics }) := by
    rw [found, Option.map_some, Program.read_of_recorded ends (List.ne_nil_of_mem member)]
  have value := visited.call (.assigned left opens)
  cases right : assignment fuel (middle.past equals rest) with
  | ok result after =>
      obtain ⟨outcome, last, finishes, kept⟩ := visited.finishes ends
      rw [Visit.result, Task.reader, assignment_records left noName opens right] at finishes
      cases finishes
      have member := kept.subset (List.mem_append_right after.diagnostics (List.mem_singleton_self _))
      exact ⟨_, refused member, .inl member⟩
  | error stop after =>
      cases stop with
      | exhausted =>
          obtain ⟨outcome, last, finishes, _⟩ := value.finishes ends
          rw [Visit.result, Task.reader, right] at finishes
          cases finishes
      | failed diagnostic =>
          have member := (value.reports ends right).subset (List.mem_append_right after.diagnostics
            (List.mem_singleton_self _))
          have reaches := (expressionReaches fuel).assignment (middle.past equals rest)
          rw [right] at reaches
          exact ⟨_, refused member, .inr ⟨diagnostic, after, rfl, reaches.2.1, member⟩⟩

/-- The tokens of `1 = 2;` with an end marker, or those of `1 = ;`. -/
def literalTarget (value : List Token) : List Token :=
  ⟨.number, "1", .origin, none⟩ :: ⟨.symbol .equal, "=", .origin, none⟩ :: value ++
    [⟨.symbol .semicolon, ";", .origin, none⟩, ⟨.endOfInput, "", .origin, none⟩]

/-- The target in `1 = 2;` is reported. -/
theorem invalid_target_or_fault_reported_literal :
    let equals : Token := ⟨.symbol .equal, "=", .origin, none⟩
    let tokens := literalTarget [⟨.number, "2", .origin, none⟩]
    ∃ rejection, (ofList? tokens).map (fun stream => Program.read stream.body) =
        some (.error rejection) ∧
      { cause := .invalidTarget, token := equals } ∈ rejection.diagnostics := by
  intro equals tokens
  obtain ⟨rejection, reads, reported | ⟨diagnostic, after, failed, _⟩⟩ :=
    invalid_target_or_fault_reported (rfl : ofList? tokens = _) (Visited.value nofun (by rfl))
      rfl nofun ⟨rfl, rfl⟩
  · exact ⟨rejection, reads, reported⟩
  · cases failed

/-- In `1 = ;` the target is not reported, since the missing value is. -/
theorem missing_value_hides_target :
    ¬ ∀ (tokens : List Token) (stream : TokenStream), ofList? tokens = some stream →
      ∀ (fuel : Nat) (cursor middle : Cursor) (equals : Token) (rest : List Token) (target : Expr),
        Visited stream.body ⟨fuel + 1, cursor, .assignment⟩ →
        tier fuel tiers cursor = .ok target middle → (∀ name, target ≠ .reference name) →
        middle.Opens (.symbol .equal) equals rest →
        ∃ rejection, (ofList? tokens).map (fun stream => Program.read stream.body) =
            some (.error rejection) ∧
          { cause := .invalidTarget, token := equals } ∈ rejection.diagnostics := by
  intro claim
  obtain ⟨rejection, reads, reported⟩ := claim (literalTarget []) _ rfl _ _ _ _ _ _
    (Visited.value nofun (by rfl)) rfl nofun ⟨rfl, rfl⟩
  have only : rejection.diagnostics =
      [{ cause := .missingExpression, token := ⟨.symbol .equal, "=", .origin, none⟩ }] := by
    cases reads
    rfl
  rw [only, List.mem_singleton] at reported
  cases reported

end TokenStream

end CheckedScript
