import CheckedScript.Proofs.Moving.Checking
import CheckedScript.Proofs.Moving.Reading
import CheckedScript.Proofs.Moving.Running
import CheckedScript.Proofs.Reader.Unread
import Mathlib.Logic.Equiv.Fintype

/-!
# Layout has no meaning

Two source texts with the same kinds and lexemes are told apart by the positions of
their tokens only.  No text has two tokens at one position, so the tokens of one text
are those of the other, moved by a map that keeps positions apart.  Reading, checking
and running the moved program look from outside like reading, checking and running
the program itself.
-/

namespace CheckedScript

/-- A token without its position. -/
def Token.content (token : Token) : Kind × String :=
  (token.kind, token.lexeme)

/-- What the diagnostics of a rejection say, without their positions. -/
def Rejection.said (rejection : Rejection) : Phase × List (String × String) :=
  (rejection.phase, rejection.diagnostics.map fun diagnostic =>
    (diagnostic.cause.code, diagnostic.message))

/-- What is seen of the end of a check. -/
inductive CheckResult.Look where
  | accepted (type : Ty)
  | rejected (said : Phase × List (String × String))
  | faulted (fault : Fault)
  | exhausted

/-- What is seen of the end of a check. -/
def CheckResult.look : CheckResult → CheckResult.Look
  | accepted type => .accepted type
  | rejected rejection => .rejected rejection.said
  | faulted fault => .faulted fault
  | exhausted => .exhausted

/-- What is seen of the end of a run. -/
inductive RunResult.Look where
  | value (text : String)
  | rejected (said : Phase × List (String × String))
  | faulted (fault : Fault)
  | aborted (reason : String)
  | exhausted

/-- What is seen of the end of a run. -/
def RunResult.look : RunResult → RunResult.Look
  | value result => .value result.display
  | rejected rejection => .rejected rejection.said
  | faulted fault => .faulted fault
  | aborted reason => .aborted reason
  | exhausted => .exhausted

section Tokens

/-- Different positions can be moved to any other different positions. -/
theorem exists_move {first second : List Position} (firstApart : first.Nodup)
    (secondApart : second.Nodup) (length : first.length = second.length) :
    ∃ moved : Position → Position, moved.Injective ∧ second = first.map moved := by
  obtain ⟨moved, carries⟩ := Equiv.Perm.exists_extending_pair first.get
    (fun index => second.get (index.cast length)) (List.nodup_iff_injective_get.1 firstApart)
    ((List.nodup_iff_injective_get.1 secondApart).comp (Fin.cast_injective length))
  refine ⟨moved, moved.injective, List.ext_getElem (by simp [length]) fun index lower _ => ?_⟩
  have moves := carries ⟨index, length ▸ lower⟩
  simpa using moves.symm

theorem eq_map_move {moved : Position → Position} {first second : List Token}
    (contents : first.map Token.content = second.map Token.content)
    (positions : second.map (·.position) = (first.map (·.position)).map moved)
    (firstPayloads : ∀ token ∈ first, token.payload = Scanner.payload? token.kind token.lexeme)
    (secondPayloads : ∀ token ∈ second, token.payload = Scanner.payload? token.kind token.lexeme) :
    second = first.map (Token.move moved) := by
  induction first generalizing second with
  | nil => exact (List.map_eq_nil_iff.1 contents.symm)
  | cons token first inductionHypothesis =>
      cases second with
      | nil => cases contents
      | cons other second =>
          simp only [List.map_cons, List.cons.injEq, Token.content, Prod.mk.injEq] at contents positions
          obtain ⟨⟨kind, lexeme⟩, contents⟩ := contents
          obtain ⟨position, positions⟩ := positions
          obtain ⟨payload, firstPayloads⟩ := List.forall_mem_cons.1 firstPayloads
          obtain ⟨otherPayload, secondPayloads⟩ := List.forall_mem_cons.1 secondPayloads
          have here : other = token.move moved := by
            obtain ⟨otherKind, otherLexeme, otherPosition, otherConstant⟩ := other
            dsimp only at kind lexeme position otherPayload
            rw [Token.move, payload, kind, lexeme, position, otherPayload]
          rw [here, inductionHypothesis contents positions firstPayloads secondPayloads,
            List.map_cons]

/-- Texts with the same kinds and lexemes have the same tokens, up to positions. -/
theorem exists_move_tokens {segmentation : Segmentation} {first second : String}
    {firstStream secondStream : TokenStream}
    (firstScanned : segmentation.tokenize first = .ok firstStream)
    (secondScanned : segmentation.tokenize second = .ok secondStream)
    (same : firstStream.body.map Token.content = secondStream.body.map Token.content) :
    ∃ moved : Position → Position, moved.Injective ∧
      secondStream.body = firstStream.body.map (Token.move moved) := by
  have length : firstStream.body.length = secondStream.body.length := by
    simpa using congrArg List.length same
  obtain ⟨moved, injective, positions⟩ := exists_move (nodup_positions_of_tokenize firstScanned)
    (nodup_positions_of_tokenize secondScanned) (by simpa using length)
  exact ⟨moved, injective, eq_map_move same positions (payload_of_tokenize firstScanned)
    (payload_of_tokenize secondScanned)⟩

end Tokens

section Looks

variable (moved : Position → Position)

@[simp]
theorem Rejection.said_move (rejection : Rejection) :
    (rejection.move moved).said = rejection.said := by
  simp [Rejection.said, Rejection.move]

theorem RunResult.look_move (result : RunResult) : (result.move moved).look = result.look := by
  cases result with
  | value result => exact congrArg RunResult.Look.value (result.display_move moved)
  | rejected rejection => exact congrArg RunResult.Look.rejected (rejection.said_move moved)
  | faulted _ | aborted _ | exhausted => rfl

theorem Native.blind_printTo (write : Writing) : (Native.printTo write).Blind moved := by
  intro values console
  have texts : (values.map (Value.move moved)).map (fun value => value.display ++ "\n") =
      values.map fun value => value.display ++ "\n" := by
    simp [Value.display_move, Function.comp_def]
  unfold Native.printTo
  dsimp only
  rw [texts]
  split <;> rfl

theorem Native.blind_clockReading (readings : Nat → Float) :
    (Native.clockReading readings).Blind moved :=
  fun _ _ => rfl

open Check in
/-- A moved program is checked like the program itself. -/
theorem Typing.State.look_check_move {moved : Position → Position} (injective : moved.Injective)
    (fuel : Nat) (natives : Bindings Signature) (program : Program) :
    (({} : State).check fuel natives (program.move moved)).1.look =
      (({} : State).check fuel natives program).1.look := by
  let relocation := Relocation.ofMove injective 1
  have types : relocation.type = id := funext Ty.rename_id
  have start : relocation.state {} = {} := by
    simp [Relocation.state, Relocation.diagnostics, Scopes.behind, relocation, Relocation.ofMove]
  have tidy : (({} : State).opened natives).Tidy relocation.limit := .opened .new natives
  have carries : relocation.motion.Carries relocation.type {}
      (checkProgram fuel natives program) (checkProgram fuel natives (program.move moved)) := by
    rw [checkProgram_eq, checkProgram_eq]
    refine (moves_checkTop relocation fuel (fun _ _ => by rw [types]; rfl) program tidy).bind
      fun type after _ tidy => ?_
    exact (moves_checkUncalled relocation fuel 0 after tidy).bind
      fun _ _ _ tidy => .pure tidy rfl
  unfold Motion.Carries at carries
  dsimp only [Relocation.motion] at carries
  rw [start] at carries
  have diagnostics : ∀ after : State,
      (relocation.state after).diagnostics = after.diagnostics.map (Diagnostic.move moved) := by
    simp [Relocation.state, Relocation.diagnostics, Relocation.isKnown, relocation,
      Relocation.ofMove]
  unfold State.check
  cases equation : checkProgram fuel natives program {} with
  | ok type after =>
      rw [equation] at carries
      rw [carries.1, types]
      dsimp only
      rw [diagnostics, List.isEmpty_map]
      split
      · rfl
      · exact congrArg CheckResult.Look.rejected
          (Rejection.said_move moved { phase := .checking, diagnostics := after.diagnostics })
  | error stop after =>
      rw [equation] at carries
      rw [carries.1]
      cases stop <;> rfl

/-- A moved program runs like the program itself. -/
theorem Program.look_run_move {moved : Position → Position} (injective : moved.Injective)
    {natives : List Native} (blind : ∀ native ∈ natives, native.Blind moved) (fuel : Nat)
    (checked : Bool) (program : Program) :
    ((program.move moved).run natives fuel checked).1.look =
        (program.run natives fuel checked).1.look ∧
      ((program.move moved).run natives fuel checked).2.console =
        (program.run natives fuel checked).2.console := by
  have runs := Evaluation.Machine.run_move moved blind (.start natives) fuel program
  rw [Evaluation.Machine.move_start] at runs
  have alike : ((Evaluation.Machine.start natives).run natives fuel (program.move moved)).1.look =
        ((Evaluation.Machine.start natives).run natives fuel program).1.look ∧
      ((Evaluation.Machine.start natives).run natives fuel (program.move moved)).2.console =
        ((Evaluation.Machine.start natives).run natives fuel program).2.console := by
    rw [Program.move, runs]
    exact ⟨RunResult.look_move moved _, rfl⟩
  cases checked with
  | false => exact alike
  | true =>
      have verdict := Typing.State.look_check_move injective fuel (Native.signatures natives) program
      unfold Program.run
      simp only [if_true]
      generalize (({} : Typing.State).check fuel (Native.signatures natives)
        (program.move moved)).1 = result at verdict ⊢
      generalize (({} : Typing.State).check fuel (Native.signatures natives) program).1 = other
        at verdict ⊢
      cases result <;> cases other <;> simp only [CheckResult.look, reduceCtorEq,
        CheckResult.Look.rejected.injEq, CheckResult.Look.faulted.injEq] at verdict
      case accepted.accepted => exact alike
      case rejected.rejected => exact ⟨congrArg RunResult.Look.rejected verdict, rfl⟩
      case faulted.faulted => exact ⟨congrArg RunResult.Look.faulted verdict, rfl⟩
      case exhausted.exhausted => exact ⟨rfl, rfl⟩

end Looks

/-- Source texts with the same kinds and lexemes are read, checked and run alike, at
whatever positions their tokens stand. -/
theorem layout_has_no_meaning {segmentation : Segmentation} {first second : String}
    {firstStream secondStream : TokenStream}
    (firstScanned : segmentation.tokenize first = .ok firstStream)
    (secondScanned : segmentation.tokenize second = .ok secondStream)
    (same : firstStream.toList.map Token.content = secondStream.toList.map Token.content) :
    match segmentation.parse first, segmentation.parse second with
    | .error rejection, .error other => rejection.said = other.said
    | .ok program, .ok other =>
        (∀ natives fuel, (({} : Typing.State).check fuel natives program).1.look =
          (({} : Typing.State).check fuel natives other).1.look) ∧
        ∀ write readings fuel checked,
          let natives := [.printTo write, .clockReading readings]
          (program.run natives fuel checked).1.look = (other.run natives fuel checked).1.look ∧
            (program.run natives fuel checked).2.console =
              (other.run natives fuel checked).2.console
    | _, _ => False := by
  have bodies : firstStream.body.map Token.content = secondStream.body.map Token.content := by
    simp only [TokenStream.toList, List.map_append, List.map_cons, List.map_nil] at same
    exact (List.append_inj' same rfl).1
  obtain ⟨moved, injective, moves⟩ := exists_move_tokens firstScanned secondScanned bodies
  rw [Segmentation.parse_of_tokenize firstScanned, Segmentation.parse_of_tokenize secondScanned,
    moves, Program.read_move]
  cases Program.read firstStream.body with
  | error rejection => exact (rejection.said_move moved).symm
  | ok program =>
      refine ⟨fun natives fuel => ?_, fun write readings fuel checked => ?_⟩
      · exact (Typing.State.look_check_move injective fuel natives program).symm
      · have blind : ∀ native ∈ [Native.printTo write, .clockReading readings],
            native.Blind moved := by
          simp [Native.blind_printTo, Native.blind_clockReading]
        obtain ⟨looks, consoles⟩ := Program.look_run_move injective blind fuel checked program
        exact ⟨looks.symm, consoles.symm⟩

/-- A comment and a line end between the tokens of a program change nothing. -/
theorem layout_has_no_meaning_comment :
    let first := "print(\"a\");"
    let second := "print # one\r\n\t(\"a\") ;"
    let tokens (opening text closing ending last : Position) : TokenStream :=
      { body :=
          [{ kind := .identifier, lexeme := "print", position := ⟨0, 0⟩ },
            { kind := .symbol .leftParen, lexeme := "(", position := opening },
            { kind := .text, lexeme := "\"a\"", position := text, payload := some (.text "a") },
            { kind := .symbol .rightParen, lexeme := ")", position := closing },
            { kind := .symbol .semicolon, lexeme := ";", position := ending }]
        last := { kind := .endOfInput, lexeme := "", position := last } }
    let standard := Segmentation.standard
    standard.tokenize first = .ok (tokens ⟨0, 5⟩ ⟨0, 6⟩ ⟨0, 9⟩ ⟨0, 10⟩ ⟨0, 11⟩) ∧
      standard.tokenize second = .ok (tokens ⟨1, 1⟩ ⟨1, 2⟩ ⟨1, 5⟩ ⟨1, 7⟩ ⟨1, 8⟩) ∧
      ∀ write readings fuel checked,
        let natives := [.printTo write, .clockReading readings]
        (standard.run first natives fuel checked).1.look =
            (standard.run second natives fuel checked).1.look ∧
          (standard.run first natives fuel checked).2.console =
            (standard.run second natives fuel checked).2.console := by
  intro first second tokens standard
  have firstScanned : Segmentation.standard.tokenize first =
      .ok (tokens ⟨0, 5⟩ ⟨0, 6⟩ ⟨0, 9⟩ ⟨0, 10⟩ ⟨0, 11⟩) := by cbv
  have secondScanned : Segmentation.standard.tokenize second =
      .ok (tokens ⟨1, 1⟩ ⟨1, 2⟩ ⟨1, 5⟩ ⟨1, 7⟩ ⟨1, 8⟩) := by cbv
  refine ⟨firstScanned, secondScanned, fun write readings fuel checked => ?_⟩
  have alike := layout_has_no_meaning firstScanned secondScanned rfl
  unfold Segmentation.run
  cases firstRead : Segmentation.standard.parse first <;>
    cases secondRead : Segmentation.standard.parse second <;>
    rw [firstRead, secondRead] at alike
  case error.error => exact ⟨congrArg RunResult.Look.rejected alike, rfl⟩
  case ok.ok => exact alike.2 write readings fuel checked
  all_goals exact alike.elim

end CheckedScript
