import CheckedScript.Proofs.Reader.StatementCompleteness
import CheckedScript.Proofs.Shape

/-!
# Programs are read exactly if they are sentences

The reader of programs returns the tree of a token list if the grammar has one,
and refuses the list otherwise.  Since the reader returns one tree, the grammar
is unambiguous.
-/

namespace CheckedScript

namespace Reader

open Grammar (Statements)

/-- Reading begins at the first token. -/
def Cursor.start (tokens : List Token) (last : Token) : Cursor where
  previous := tokens.headD last
  rest := tokens

/-- Every fault is recorded and stepped over, so all tokens up to an end marker are consumed. -/
theorem statements_finish (fuel : Nat) (cursor : Cursor) (enough : cursor.rest.length < fuel) :
    ∃ list after, statements fuel cursor = .ok list after ∧
      Ahead (· = .endOfInput) after.rest := by
  induction fuel generalizing cursor with
  | zero => omega
  | succ fuel inductionHypothesis =>
      rw [statements, nextKind?_bind]
      generalize shape : cursor.rest.head?.map (·.kind) = head
      split
      · refine ⟨[], cursor, rfl, fun token member => ?_⟩
        simp [Option.mem_def.1 member] at shape
      · exact ⟨[], cursor, rfl, ahead_of_head shape rfl⟩
      · next noMarker =>
        have outcome := statement_outcome cursor
        simp only [bind_apply, attempt]
        cases equation : statement cursor with
        | error stop after =>
            rw [equation] at outcome
            cases stop with
            | exhausted => exact outcome.elim
            | failed diagnostic =>
                obtain ⟨token, rest, split, same⟩ := Cursor.exists_cons_of_head shape
                have within : after.rest <:+ token :: rest := split ▸ outcome
                have resumes := Cursor.resume_suffix (after.record diagnostic)
                  (fun marks => noMarker (same.symm.trans marks)) within
                have fewer := resumes.length_le
                rw [split, List.length_cons] at enough
                rw [split]
                exact inductionHypothesis _ (by omega)
        | ok first after =>
            rw [equation] at outcome
            have shorter := outcome.length
            obtain ⟨list, last, others, finished⟩ := inductionHypothesis after (by omega)
            refine ⟨first :: list, last, ?_, finished⟩
            simp only [bind_apply, others]
            rfl

/-- Tokens without an end marker are all consumed. -/
theorem rest_eq_nil_of_statements {fuel : Nat} {cursor last : Cursor} {program : Program}
    (inner : ∀ token ∈ cursor.rest, token.kind ≠ .endOfInput) (enough : cursor.rest.length < fuel)
    (equation : statements fuel cursor = .ok program last) : last.rest = [] := by
  obtain ⟨_, _, same, ends⟩ := statements_finish fuel cursor enough
  cases equation.symm.trans same
  have outcome := statements_outcome fuel cursor enough
  rw [equation] at outcome
  obtain ⟨used, split, _⟩ := outcome
  cases left : last.rest with
  | nil => rfl
  | cons marker behind =>
      exact absurd (ends marker (by simp [left])) (inner marker (by simp [split, left]))

end Reader

namespace Program

open Grammar (Statements)

/-- A program is the tree of the tokens before an end marker, or of all tokens. -/
def IsTreeOf (program : Program) (tokens : List Token) : Prop :=
  ∃ used behind, tokens = used ++ behind ∧ Reader.Ahead (· = .endOfInput) behind ∧
    Statements used program

theorem isTreeOf_of_statements {tokens : List Token} {program : Program}
    (holds : Statements tokens program) : program.IsTreeOf tokens :=
  ⟨tokens, [], (List.append_nil tokens).symm, fun _ member => (by cases member), holds⟩

/-- Without an end marker, all tokens belong to the tree. -/
theorem statements_of_isTreeOf {tokens : List Token} {program : Program}
    (inner : ∀ token ∈ tokens, token.kind ≠ .endOfInput) (isTree : program.IsTreeOf tokens) :
    Statements tokens program := by
  obtain ⟨used, behind, rfl, ends, holds⟩ := isTree
  cases behind with
  | nil => rwa [List.append_nil]
  | cons marker behind => exact absurd (Reader.ahead_cons.1 ends) (inner marker (by simp))

/-- What is read is decided by the faults recorded when reading ends. -/
theorem read_eq {tokens : List Token} (last : Token) {program : Program} {cursor : Reader.Cursor}
    (equation : Reader.statements (tokens.length + 1) (.start tokens last) = .ok program cursor) :
    read tokens =
      if cursor.diagnostics.isEmpty then .ok program
      else .error { phase := .parsing, diagnostics := cursor.diagnostics } := by
  cases tokens with
  | nil =>
      cases equation
      rfl
  | cons first rest =>
      rw [Reader.Cursor.start, List.headD_cons] at equation
      rw [read]
      simp only [equation]

theorem read_start (tokens : List Token) (last : Token) :
    ∃ program cursor, Reader.statements (tokens.length + 1) (.start tokens last) =
        .ok program cursor ∧
      read tokens =
        if cursor.diagnostics.isEmpty then .ok program
        else .error { phase := .parsing, diagnostics := cursor.diagnostics } := by
  obtain ⟨program, cursor, equation, _⟩ :=
    Reader.statements_finish (tokens.length + 1) (.start tokens last) (Nat.lt_succ_self _)
  exact ⟨program, cursor, equation, read_eq last equation⟩

/-- Reading goes through all tokens before an end marker and either returns the statements or
refuses them with what was recorded. -/
theorem read_cases (tokens : List Token) :
    (∃ program, read tokens = .ok program ∧ program.IsTreeOf tokens) ∨
      ∃ rejection, read tokens = .error rejection ∧ rejection.phase = .parsing ∧
        rejection.diagnostics ≠ [] := by
  cases tokens with
  | nil => exact .inl ⟨[], rfl, isTreeOf_of_statements .nil⟩
  | cons first rest =>
      let start : Reader.Cursor := .start (first :: rest) first
      have enough : start.rest.length < (first :: rest).length + 1 := Nat.lt_succ_self _
      have outcome := Reader.statements_outcome _ start enough
      obtain ⟨program, after, equation, finished⟩ := Reader.statements_finish _ start enough
      rw [equation] at outcome
      rw [read_eq first equation]
      cases recorded : after.diagnostics with
      | nil =>
          obtain ⟨used, split, _, holds⟩ := outcome
          exact .inl ⟨program, rfl, used, after.rest, split, finished, (holds recorded).2⟩
      | cons diagnostic others => exact .inr ⟨_, rfl, rfl, by simp⟩

theorem read_of_isTreeOf {tokens : List Token} {program : Program}
    (isTree : program.IsTreeOf tokens) : read tokens = .ok program := by
  obtain ⟨used, behind, split, ends, holds⟩ := isTree
  cases tokens with
  | nil =>
      obtain ⟨rfl, rfl⟩ := List.append_eq_nil_iff.1 split.symm
      generalize shape : [] = used at holds
      cases holds with
      | nil => rfl
      | cons first _ =>
          obtain ⟨token, rest, rfl⟩ := Reader.statement_cons first
          cases shape
  | cons first rest =>
      have enough : used.length < (first :: rest).length + 1 := by
        rw [split, List.length_append]
        omega
      obtain ⟨last, equation⟩ := Reader.statements_returns _ holds ends enough first []
      rw [← split] at equation
      rw [read_eq first equation]
      rfl

theorem read_of_statements {tokens : List Token} {program : Program}
    (holds : Statements tokens program) : read tokens = .ok program :=
  read_of_isTreeOf (isTreeOf_of_statements holds)

theorem read_eq_ok_iff {tokens : List Token} {program : Program} :
    read tokens = .ok program ↔ program.IsTreeOf tokens := by
  constructor
  · intro equation
    rcases read_cases tokens with ⟨other, same, isTree⟩ | ⟨rejection, same, _⟩
    · rw [equation] at same
      exact Except.ok.inj same ▸ isTree
    · rw [equation] at same
      cases same
  · exact read_of_isTreeOf

theorem statements_unique {tokens : List Token} {first second : Program}
    (holdsFirst : Statements tokens first) (holdsSecond : Statements tokens second) :
    first = second := by
  have same := (read_of_statements holdsFirst).symm.trans (read_of_statements holdsSecond)
  exact Except.ok.inj same

/-- What can be read is shaped as programs are. -/
theorem areShaped_of_read {tokens : List Token} {program : Program}
    (reads : read tokens = .ok program) : Stmt.areShaped program = true := by
  obtain ⟨_, _, _, _, derived⟩ := read_eq_ok_iff.1 reads
  exact Stmt.areShaped_of_derived program derived

end Program

namespace TokenStream

open Grammar (Statements)

/-- An end marker makes a stream of the tokens before it. -/
theorem ofList?_append (tokens : List Token) {last : Token} (marks : last.kind = .endOfInput) :
    ofList? (tokens ++ [last]) = some { body := tokens, last := last } := by
  rw [ofList?, List.getLast?_concat, List.dropLast_concat]
  exact if_pos marks

/-- Reading a stream gives the one tree that the grammar has for its tokens, or
refuses tokens for which it has none. -/
theorem read_exactly_sentences (tokens : List Token) (last : Token)
    (inner : ∀ token ∈ tokens, token.kind ≠ .endOfInput) (marks : last.kind = .endOfInput) :
    ∃ result, (ofList? (tokens ++ [last])).map (fun stream => Program.read stream.body) =
        some result ∧
      (∀ program, result = .ok program ↔ Statements tokens program) ∧
      (∀ first second, Statements tokens first → Statements tokens second → first = second) ∧
      ((∀ program, ¬ Statements tokens program) →
        ∃ rejection, result = .error rejection ∧ rejection.phase = .parsing ∧
          rejection.diagnostics ≠ []) := by
  have derives (program : Program) :
      Program.read tokens = .ok program ↔ Statements tokens program :=
    Program.read_eq_ok_iff.trans
      ⟨Program.statements_of_isTreeOf inner, Program.isTreeOf_of_statements⟩
  refine ⟨Program.read tokens, by rw [ofList?_append tokens marks]; rfl, derives,
    fun _ _ => Program.statements_unique, fun none => ?_⟩
  rcases Program.read_cases tokens with ⟨program, same, _⟩ | rejected
  · exact absurd ((derives program).1 same) (none program)
  · exact rejected

/-- `x = -1;` is read as the assignment that the grammar derives. -/
theorem read_exactly_sentences_assignment :
    let token (kind : Kind) (lexeme : String) : Token := ⟨kind, lexeme, .origin, none⟩
    let tokens := [token .identifier "x", token (.symbol .equal) "=", token (.symbol .minus) "-",
      token .number "1", token (.symbol .semicolon) ";"]
    ∃ result, (ofList? (tokens ++ [token .endOfInput ""])).map
        (fun stream => Program.read stream.body) = some result ∧
      ∀ program, result = .ok program ↔ Statements tokens program := by
  intro token tokens
  obtain ⟨result, found, derives, _⟩ := read_exactly_sentences tokens (token .endOfInput "")
    (by simp [tokens, token]) rfl
  exact ⟨result, found, derives⟩

end TokenStream

end CheckedScript
