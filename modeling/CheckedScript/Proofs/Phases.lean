import CheckedScript.Proofs.Reader.Charges
import CheckedScript.Proofs.Reader.Unread
import CheckedScript.Proofs.Typing.Faultless

/-!
# Every phase fails in its own way

Whatever tokens are read, and whatever program they are read as, reading and checking end in
one of two ways: with a result, or with faults that are their own.  Reading ends at the first
end marker and sees nothing behind it.  Since the trees it returns are marked and the types
that a check meets are founded, no table is asked for an entry that it lacks, and no wording
for a field or a type that cannot be shown.
-/

namespace CheckedScript

namespace Program

/-- Tokens are read as a marked program, or refused for faults of reading. -/
theorem read_own (tokens : List Token) (last : Token) :
    match read tokens with
    | .ok program => Stmt.AreMarked program
    | .error rejection => rejection.IsOwnOf .parsing := by
  obtain ⟨program, cursor, equation, outcome⟩ := read_start tokens last
  have charges := Reader.charges_statements (tokens.length + 1) (.start tokens last)
    (List.forall_mem_nil _)
  rw [equation] at charges
  obtain ⟨marked, parsing⟩ := charges
  rw [outcome]
  cases recorded : cursor.diagnostics with
  | nil => exact marked
  | cons diagnostic diagnostics =>
      have own : ∀ diagnostic ∈ cursor.diagnostics, diagnostic.IsOwnOf .parsing :=
        fun diagnostic member => ⟨parsing diagnostic member, by
          rw [Cause.typeTexts_of_parsing (parsing diagnostic member)]
          exact List.forall_mem_nil _⟩
      rw [recorded] at own
      exact Rejection.isOwnOf (List.cons_ne_nil _ _) own

end Program

/-- A check accepts the program, or refuses it for faults of typing. -/
def CheckResult.IsOwn : CheckResult → Prop
  | .accepted _ => True
  | .rejected rejection => rejection.IsOwnOf .checking
  | .faulted _ | .exhausted => False

/-- A check with founded signatures never faults: it uses up its bound, accepts the program
or refuses it for faults of typing. -/
theorem Typing.State.check_own {natives : Bindings Signature}
    (fits : ∀ native ∈ natives, native.2.type.Founded 0) (fuel : Nat) (program : Program) :
    (∃ after, Check.checkProgram fuel natives program {} = .error .exhausted after) ∨
      (({} : Typing.State).check fuel natives program).1.IsOwn := by
  have start : Typing.State.Founded {} := ⟨by simp [Scopes.All], by simp, by simp, by simp⟩
  have gives := Check.gives_checkProgram fuel program start fits
  have recovers := Check.recovers_checkProgram fuel natives program {}
  unfold check
  cases equation : Check.checkProgram fuel natives program {} with
  | ok type after =>
      rw [equation] at gives
      obtain ⟨_, founded, _⟩ := gives
      right
      dsimp only
      cases recorded : after.diagnostics with
      | nil => trivial
      | cons diagnostic diagnostics =>
          exact Rejection.isOwnOf (List.cons_ne_nil _ _) (recorded ▸ founded.diagnostics)
  | error stop after =>
      rw [equation] at gives recovers
      cases stop with
      | exhausted => exact .inl ⟨after, rfl⟩
      | faulted fault => exact gives.2.2.elim
      | failed diagnostic => exact recovers.elim
      | reported => exact recovers.elim

theorem Native.founded_signatures :
    ∀ native ∈ Native.signatures Native.defaults, native.2.type.Founded 0 := by
  simp [Native.signatures, Native.defaults, Native.print, Native.printTo, Native.clock,
    Native.clockReading, Signature.type, Ty.Founded, Ty.AreFounded, Ty.unit]

namespace TokenStream

theorem ofList?_eq_some {tokens : List Token} {last : Token} (ends : tokens.getLast? = some last)
    (closes : last.kind = .endOfInput) :
    ofList? tokens = some { body := tokens.dropLast, last := last } := by
  rw [ofList?, ends]
  exact if_pos closes

/-- A stream is read as all of its tokens are. -/
theorem read_body {tokens : List Token} {last : Token} (ends : tokens.getLast? = some last)
    (closes : last.kind = .endOfInput) :
    (ofList? tokens).map (fun stream => Program.read stream.body) = some (Program.read tokens) := by
  have whole : tokens.dropLast ++ [last] = tokens :=
    List.dropLast_append_getLast? last (Option.mem_def.2 ends)
  rw [ofList?_eq_some ends closes, Option.map_some, ← Program.read_concat_marker _ closes, whole]

/-- Reading stops with its cursor in front of the first end marker, whatever stands behind that,
and ends with a marked program or is refused for faults of reading; and the check of a program that
has been read, whenever it ends, accepts the program or refuses it for faults of typing. -/
theorem front_end_fails_in_its_own_phases {tokens : List Token} {final : Token}
    (ends : tokens.getLast? = some final) (closes : final.kind = .endOfInput) :
    (ofList? tokens).map (fun stream => Program.read stream.body) = some (Program.read tokens) ∧
      (∃ front marker behind, IsFirstMarker tokens front marker behind ∧
        (∃ program cursor, Reader.statements (tokens.length + 1) (.start tokens final) =
            .ok program cursor ∧ cursor.rest = marker :: behind ∧
          Program.read tokens =
            if cursor.diagnostics.isEmpty then .ok program
            else .error { phase := .parsing, diagnostics := cursor.diagnostics }) ∧
        ∀ others, Program.read (front ++ marker :: others) = Program.read tokens) ∧
      match Program.read tokens with
      | .error rejection => rejection.IsOwnOf .parsing
      | .ok program => Stmt.AreMarked program ∧ ∀ fuel,
          (∃ after, Check.checkProgram fuel (Native.signatures Native.defaults) program {} =
            .error .exhausted after) ∨
          (({} : Typing.State).check fuel (Native.signatures Native.defaults) program).1.IsOwn := by
  refine ⟨read_body ends closes, ?_, ?_⟩
  · obtain ⟨front, marker, behind, first⟩ :=
      exists_isFirstMarker (List.mem_of_getLast? ends) closes
    obtain ⟨program, cursor, equation, reads⟩ := Program.read_start tokens final
    exact ⟨front, marker, behind, first,
      ⟨program, cursor, equation, first.rest_eq final equation, reads⟩, first.read_eq⟩
  · have own := Program.read_own tokens final
    cases outcome : Program.read tokens with
    | error rejection =>
        rw [outcome] at own
        exact own
    | ok program =>
        rw [outcome] at own
        exact ⟨own, fun fuel => Typing.State.check_own Native.founded_signatures fuel program⟩

/-- What stands behind the first end marker does not keep `x;` from being read, and the
check of it finds that `x` is undefined. -/
theorem front_end_fails_in_its_own_phases_undefined :
    let token (kind : Kind) (lexeme : String) : Token := ⟨kind, lexeme, .origin, none⟩
    let tokens := [token .identifier "x", token (.symbol .semicolon) ";", token .endOfInput "",
      token .unknown "@", token .endOfInput ""]
    ∃ program rejection,
      (ofList? tokens).map (fun stream => Program.read stream.body) = some (.ok program) ∧
      (({} : Typing.State).check 9 (Native.signatures Native.defaults) program).1 =
        .rejected rejection ∧ rejection.IsOwnOf .checking := by
  intro token tokens
  have ends : tokens.getLast? = some (token .endOfInput "") := rfl
  obtain ⟨taken, _, phases⟩ := front_end_fails_in_its_own_phases ends rfl
  have read : Program.read tokens = .ok [.expression (.reference (token .identifier "x"))] := rfl
  rw [read] at phases taken
  obtain ⟨diagnostics, rejected⟩ : ∃ diagnostics,
      (({} : Typing.State).check 9 (Native.signatures Native.defaults)
        [.expression (.reference (token .identifier "x"))]).1 =
          .rejected { phase := .checking, diagnostics := diagnostics } := ⟨_, rfl⟩
  refine ⟨_, _, taken, rejected, ?_⟩
  rcases phases.2 9 with ⟨after, exhausted⟩ | own
  · simp [Typing.State.check, exhausted] at rejected
  · rw [rejected] at own
    exact own

end TokenStream

end CheckedScript
