import CheckedScript.Proofs.Reader.FirstFaults
import CheckedScript.Proofs.Reader.StatementAcceptance

/-!
# Syntax errors are detected at the first impossible token

What has been consumed at the first fault begins a sentence, and together with the next token it
does not.  In the sentences any expression of the loosest tier may stand before `=`, since an
invalid target is noted without failing.

For the second half, suppose that a sentence begins with the tokens consumed and the next one.
Reading it without recovery stops where it has stopped before, since what it does depends on no
more than these tokens.  But a sentence is accepted to its end.
-/

namespace CheckedScript

namespace Reader

open Grammar.Loose

/-- Reading without recovery never runs out of steps. -/
theorem statementsBy_not_exhausts {fuel : Nat} {cursor : Cursor}
    (enough : cursor.rest.length < fuel) : ¬ Exhausts (statementsBy .stopping fuel cursor) := by
  intro exhausts
  have exhausted := (statements_follows fuel).exhausts cursor exhausts
  obtain ⟨program, last, equation, _⟩ := statements_finish fuel cursor enough
  rw [equation] at exhausted
  cases exhausted

/-- Statements are read to their end without recovery. -/
theorem statementsBy_returns {tokens : List Token} (holds : Statements tokens) (first : Token) :
    ∃ program last, statementsBy .stopping (tokens.length + 1) ⟨first, tokens, []⟩ =
      .ok program last ∧ last.rest = [] := by
  rcases statementsBy_accepts (tokens.length + 1) holds first [] with exhausts | returns
  · rw [List.append_nil] at exhausts
    exact absurd exhausts (statementsBy_not_exhausts (Nat.lt_succ_self tokens.length))
  · rw [List.append_nil] at returns
    obtain ⟨program, last, equation, _, finished⟩ := returns
    exact ⟨program, last, equation, finished⟩

/-- No statement holds an end marker. -/
theorem unmarked_of_statements {tokens : List Token} (holds : Statements tokens) :
    ∀ token ∈ tokens, token.kind ≠ .endOfInput := by
  cases tokens with
  | nil => simp
  | cons first rest =>
      obtain ⟨program, last, equation, finished⟩ := statementsBy_returns holds first
      obtain ⟨used, causes, advance, unmarked, _⟩ :=
        statementsBy_local _ 0 _ _ _ (.of_ok equation)
      have same : first :: rest = used := by simpa [finished] using advance.consumed
      exact same ▸ unmarked

/-- Where reading without recovery has stopped, it also stops on other tokens that begin with those
consumed and show the same next token.  So these are no statements. -/
theorem not_statements {tokens used others : List Token} {start : Cursor} {fuel : Nat}
    {diagnostic : Diagnostic} {after : Cursor}
    (failed : statementsBy .stopping fuel start = .error (.failed diagnostic) after)
    (split : start.rest = used ++ after.rest) (same : tokens = used ++ others)
    (next : others.head? = after.rest.head?) : ¬ Statements tokens := by
  intro holds
  obtain ⟨consumed, causes, advance, _, alike⟩ :=
    statementsBy_local fuel (tokens.length + 1) _ _ _ (.of_failed failed)
  have sameUsed : consumed = used := List.append_cancel_right (advance.consumed.symm.trans split)
  subst sameUsed
  rcases alike ⟨start.previous, tokens, []⟩ others same next with exhausts | ⟨last, stops, _⟩
  · exact statementsBy_not_exhausts (Nat.lt_succ_self tokens.length) exhausts
  · obtain ⟨program, last, returns, _⟩ := statementsBy_returns holds start.previous
    rw [returns] at stops
    cases stops

/-- What has been consumed where reading without recovery stops can be completed, but not together
with the next token. -/
theorem viable_of_stops {tokens : List Token} {marker : Token} {start : Cursor} {fuel : Nat}
    {diagnostic : Diagnostic} {after : Cursor} (begins : start.rest = tokens)
    (inner : ∀ token ∈ tokens, token.kind ≠ .endOfInput) (marks : marker.kind = .endOfInput)
    (failed : statementsBy .stopping fuel start = .error (.failed diagnostic) after) :
    ∃ used next later, tokens ++ [marker] = used ++ next :: later ∧
      after.rest ++ [marker] = next :: later ∧ Extendable used ∧ ¬ Extendable (used ++ [next]) := by
  have reaches := statementsBy_reaches fuel start
  rw [failed] at reaches
  obtain ⟨_, _, used, split, more, completes⟩ := reaches
  obtain ⟨next, later, shape⟩ : ∃ next later, after.rest ++ [marker] = next :: later := by
    cases after.rest with
    | nil => exact ⟨marker, [], rfl⟩
    | cons next others => exact ⟨next, others ++ [marker], rfl⟩
  have whole : tokens ++ [marker] = used ++ next :: later := by
    rw [← shape, ← List.append_assoc, ← split, begins]
  have completed : Extendable used :=
    ⟨more ++ [marker], by simpa using Sentence.program completes marks⟩
  refine ⟨used, next, later, whole, shape, completed, ?_⟩
  rintro ⟨rest, sentence⟩
  generalize extended : used ++ [next] ++ rest = sentenceTokens at sentence
  obtain @⟨body, last, holds, isLast⟩ := sentence
  rcases List.eq_nil_or_concat rest with rfl | ⟨init, final, rfl⟩
  · -- The sentence ends with the next token, so that is an end marker.
    rw [List.append_nil] at extended
    obtain ⟨rfl, same⟩ := List.append_inj' extended rfl
    cases List.cons.inj same |>.1
    cases remaining : after.rest with
    | nil => exact not_statements failed split (List.append_nil _).symm (by rw [remaining]) holds
    | cons token others =>
        rw [remaining] at shape
        cases shape
        exact inner next (by simp [← begins, split, remaining]) isLast
  · -- The next token is one of the statements of the sentence, so it is no end marker.
    rw [List.concat_eq_append, ← List.append_assoc] at extended
    obtain ⟨rfl, -⟩ := List.append_inj' extended rfl
    have unmarked := unmarked_of_statements holds next (by simp)
    cases remaining : after.rest with
    | nil =>
        rw [remaining] at shape
        cases shape
        exact unmarked marks
    | cons token others =>
        rw [remaining] at shape
        cases shape
        exact not_statements failed split (List.append_assoc _ _ _) (by rw [remaining]; rfl) holds

end Reader

namespace Program

open Reader

/-- Tokens that are read to their end are statements of the loose grammar if nothing but invalid
targets is recorded. -/
theorem looseStatements_of_clean {first : Token} {tokens : List Token} {fuel : Nat}
    {program : Program} {last : Cursor}
    (equation : statements fuel ⟨first, tokens, []⟩ = .ok program last) (clean : Clean last)
    (finished : last.rest = []) : Grammar.Loose.Statements tokens := by
  have reaches := statementsBy_reaches fuel ⟨first, tokens, []⟩
  have agree := (statements_follows _).agree reaches (.of_ok equation) clean
  rw [agree, equation] at reaches
  obtain ⟨_, used, split, holds⟩ := reaches
  have split : tokens = used := by simpa [finished] using split
  exact split ▸ holds

/-- The sentences of the loose grammar are the token lists that are read without a fault, but for
invalid targets. -/
theorem looseStatements_iff {tokens : List Token}
    (inner : ∀ token ∈ tokens, token.kind ≠ .endOfInput) :
    Grammar.Loose.Statements tokens ↔ ∀ rejection, read tokens = .error rejection →
      ∀ diagnostic ∈ rejection.diagnostics, diagnostic.cause = .invalidTarget := by
  cases tokens with
  | nil =>
      refine ⟨fun _ rejection refused => ?_, fun _ => .nil⟩
      cases refused
  | cons first rest =>
      obtain ⟨diagnostics, ends⟩ := exists_endsWith (List.cons_ne_nil first rest)
      have ⟨_, _, program, last, shape, equation, recorded⟩ := ends
      cases shape
      constructor
      · intro holds rejection refused
        have reaches := statementsBy_reaches ((first :: rest).length + 1) ⟨first, first :: rest, []⟩
        obtain ⟨_, _, returns, _⟩ := statementsBy_returns holds first
        have same := (statements_follows _).returns _ _ _ returns
        cases equation.symm.trans same
        rw [returns] at reaches
        obtain ⟨⟨new, grown, targets⟩, _⟩ := reaches
        rw [diagnostics_of_refused ends refused, ← recorded, grown]
        simpa using targets
      · intro clean
        have cleanLast : Clean last := by
          intro diagnostic member
          have nonempty : diagnostics ≠ [] := recorded ▸ List.ne_nil_of_mem member
          exact clean _ (read_of_recorded ends nonempty) diagnostic (recorded ▸ member)
        exact looseStatements_of_clean equation cleanLast
          (rest_eq_nil_of_statements inner (Nat.lt_succ_self _) equation)

/-- Whatever the grammar derives, the loose grammar does as well. -/
theorem looseStatements_of_statements {tokens : List Token} {program : Program}
    (holds : Grammar.Statements tokens program) : Grammar.Loose.Statements tokens := by
  cases tokens with
  | nil => exact .nil
  | cons first rest =>
      have ends : Ahead (· = .endOfInput) [] := fun token member => by cases member
      obtain ⟨last, equation⟩ := statements_returns _ holds ends (Nat.lt_succ_self _) first []
      rw [List.append_nil] at equation
      exact looseStatements_of_clean equation (List.forall_mem_nil _) rfl

end Program

namespace TokenStream

open Reader Grammar.Loose

/-- If reading fails anywhere, there is one first fault.  It is reported behind nothing but invalid
targets, and it is detected at the first impossible token: what stands before the cursor can be
completed to a sentence, and what stands up to and including the token at the cursor cannot. -/
theorem syntax_errors_at_first_impossible_token (tokens : List Token) (marker : Token)
    (inner : ∀ token ∈ tokens, token.kind ≠ .endOfInput) (marks : marker.kind = .endOfInput)
    (rejection : Rejection)
    (refused : (ofList? (tokens ++ [marker])).map (fun stream => Program.read stream.body) =
      some (.error rejection))
    (fails : ∃ diagnostic ∈ rejection.diagnostics, diagnostic.cause ≠ .invalidTarget) :
    ∃ diagnostic after, FirstFault tokens diagnostic after ∧
      (∀ other last, FirstFault tokens other last → other = diagnostic ∧ last = after) ∧
      (∃ targets others, rejection.diagnostics = targets ++ diagnostic :: others ∧
        ∀ target ∈ targets, target.cause = .invalidTarget) ∧
      ∃ used next later, tokens ++ [marker] = used ++ next :: later ∧
        after.rest ++ [marker] = next :: later ∧
        Extendable used ∧ ¬ Extendable (used ++ [next]) := by
  rw [ofList?_append tokens marks, Option.map_some] at refused
  have refused := Option.some.inj refused
  obtain ⟨diagnostic, member, proper⟩ := fails
  have nonempty : tokens ≠ [] := by
    intro empty
    rw [empty] at refused
    cases refused
  obtain ⟨diagnostics, ends⟩ := Program.exists_endsWith nonempty
  have same := Program.diagnostics_of_refused ends refused
  rw [same] at member
  obtain ⟨diagnostic, after, fault⟩ := exists_firstFault ends member proper
  refine ⟨diagnostic, after, fault, fun other last otherFault => ?_, ?_, ?_⟩
  · obtain ⟨first, rest, shape, failed⟩ := fault.stops
    obtain ⟨_, _, shapeOther, failedOther⟩ := otherFault.stops
    cases shape.symm.trans shapeOther
    cases failed.symm.trans failedOther
    exact ⟨rfl, rfl⟩
  · obtain ⟨visit, visited, failed, clean⟩ := fault
    obtain ⟨others, recorded⟩ := visited.reports ends failed
    exact ⟨after.diagnostics, others, by rw [same, ← recorded]; simp, clean⟩
  · obtain ⟨first, rest, shape, failed⟩ := fault.stops
    have begins : (⟨first, tokens, []⟩ : Cursor).rest = tokens := rfl
    exact viable_of_stops begins inner marks failed

/-- In `1 = 2; )` the parenthesis is impossible; the invalid target before it is no reason to
fail. -/
theorem syntax_errors_at_first_impossible_token_parenthesis :
    let token (kind : Kind) (lexeme : String) : Token := ⟨kind, lexeme, .origin, none⟩
    let tokens := [token .number "1", token (.symbol .equal) "=", token .number "2",
      token (.symbol .semicolon) ";", token (.symbol .rightParen) ")"]
    ∃ diagnostic after, FirstFault tokens diagnostic after ∧
      ∃ used next later, tokens ++ [token .endOfInput ""] = used ++ next :: later ∧
        after.rest ++ [token .endOfInput ""] = next :: later ∧
        Extendable used ∧ ¬ Extendable (used ++ [next]) := by
  intro token tokens
  obtain ⟨diagnostic, after, fault, _, _, detected⟩ :=
    syntax_errors_at_first_impossible_token tokens (token .endOfInput "") (by decide) rfl
      { phase := .parsing
        diagnostics :=
          [{ cause := .invalidTarget, token := token (.symbol .equal) "=" },
            { cause := .missingExpression, token := token (.symbol .semicolon) ";" }] }
      rfl ⟨_, List.mem_cons_of_mem _ (List.mem_singleton_self _), by decide⟩
  exact ⟨diagnostic, after, fault, detected⟩

end TokenStream

end CheckedScript
