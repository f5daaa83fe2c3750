import CheckedScript.Proofs.Computation
import CheckedScript.Proofs.Grammar

/-!
# Outcomes of readers

`Outcome` says what a reader may do from a cursor on: it never runs out of steps,
it never gives tokens back, and if it returns a value without recording anything,
then the tokens it has consumed form a phrase for that value.  The lemmas below
follow the ways in which readers are put together, so that a reader is shown to
have an outcome by going through its definition.
-/

namespace CheckedScript

namespace Reader

variable {α β : Type}

/-- A reader that returns has consumed at least `least` tokens, and if nothing is
recorded they are a phrase for the value.  A reader that fails gives no token
back.  No reader runs out of steps. -/
def Outcome (cursor : Cursor) (least : Nat) (phrase : List Token → α → Prop) :
    EStateM.Result Stop Cursor α → Prop
  | .ok value after =>
      ∃ used, cursor.rest = used ++ after.rest ∧ least ≤ used.length ∧
        (after.diagnostics = [] → cursor.diagnostics = [] ∧ phrase used value)
  | .error (.failed _) after => after.rest <:+ cursor.rest
  | .error .exhausted _ => False

namespace Outcome

variable {cursor : Cursor} {least : Nat}

theorem pure {phrase : List Token → α → Prop} {value : α} (holds : phrase [] value) :
    Outcome cursor 0 phrase ((Pure.pure value : Reader α) cursor) :=
  ⟨[], rfl, Nat.zero_le _, fun clean => ⟨clean, holds⟩⟩

theorem fail {phrase : List Token → α → Prop} (cause : Cause) (token : Token) :
    Outcome cursor least phrase ((Reader.fail cause token : Reader α) cursor) :=
  List.suffix_refl _

theorem failAfter {phrase : List Token → α → Prop} (cause : Cause) :
    Outcome cursor least phrase ((Reader.failAfter cause : Reader α) cursor) :=
  List.suffix_refl _

theorem length {phrase : List Token → α → Prop} {value : α} {after : Cursor}
    (outcome : Outcome cursor least phrase (.ok value after)) :
    after.rest.length + least ≤ cursor.rest.length := by
  obtain ⟨used, split, enough, _⟩ := outcome
  rw [split, List.length_append]
  omega

/-- An outcome may be weakened. -/
theorem mono {phrase other : List Token → α → Prop} {fewer : Nat}
    {result : EStateM.Result Stop Cursor α} (outcome : Outcome cursor least phrase result)
    (le : fewer ≤ least) (implies : ∀ used value, phrase used value → other used value) :
    Outcome cursor fewer other result := by
  match result, outcome with
  | .ok value after, ⟨used, split, enough, holds⟩ =>
      exact ⟨used, split, by omega, fun clean =>
        ⟨(holds clean).1, implies used value (holds clean).2⟩⟩
  | .error (.failed _) after, outcome => exact outcome
  | .error .exhausted _, outcome => exact outcome.elim

/-- What two readers in a row consume is what the first and then the second one
consumes. -/
theorem bind {first : Reader α} {next : α → Reader β} {taken : Nat}
    {phrase : List Token → α → Prop} {whole : List Token → β → Prop}
    (outcome : Outcome cursor taken phrase (first cursor))
    (continues : ∀ value after, after.rest.length + taken ≤ cursor.rest.length →
      Outcome after (least - taken)
        (fun later result => ∀ used, phrase used value → whole (used ++ later) result)
        (next value after)) :
    Outcome cursor least whole ((first >>= next) cursor) := by
  rw [bind_apply]
  match equation : first cursor with
  | .error (.failed _) after =>
      rw [equation] at outcome
      exact outcome
  | .error .exhausted after =>
      rw [equation] at outcome
      exact outcome.elim
  | .ok value middle =>
      rw [equation] at outcome
      have rest := continues value middle outcome.length
      obtain ⟨used, usedSplit, usedLength, usedHolds⟩ := outcome
      match finish : next value middle with
      | .error (.failed _) after =>
          simp only [finish] at rest ⊢
          exact rest.trans (usedSplit ▸ List.suffix_append used middle.rest)
      | .error .exhausted after =>
          rw [finish] at rest
          exact rest.elim
      | .ok result after =>
          simp only [finish] at rest ⊢
          obtain ⟨later, laterSplit, laterLength, laterHolds⟩ := rest
          refine ⟨used ++ later, by rw [usedSplit, laterSplit, List.append_assoc],
            by rw [List.length_append]; omega, fun clean => ?_⟩
          obtain ⟨middleClean, laterHolds⟩ := laterHolds clean
          obtain ⟨clean, usedHolds⟩ := usedHolds middleClean
          exact ⟨clean, laterHolds used usedHolds⟩

/-- Apply a function to what a reader returns. -/
theorem map {reader : Reader α} {phrase : List Token → α → Prop}
    {whole : List Token → β → Prop} {change : α → β}
    (outcome : Outcome cursor least phrase (reader cursor))
    (implies : ∀ used value, phrase used value → whole used (change value)) :
    Outcome cursor least whole ((change <$> reader) cursor) := by
  rw [← bind_pure_comp]
  refine bind outcome fun value after _ => ?_
  rw [Nat.sub_self]
  exact pure fun used holds => by simpa using implies used value holds

end Outcome

/-- The cursor after a token. -/
def Cursor.past (cursor : Cursor) (token : Token) (rest : List Token) : Cursor where
  previous := token
  rest := rest
  diagnostics := cursor.diagnostics

/-- A token is either chosen and consumed, or left alone. -/
theorem acceptWhere?_apply (choose : Kind → Option α) (cursor : Cursor) :
    (∃ token rest chosen, cursor.rest = token :: rest ∧ choose token.kind = some chosen ∧
        acceptWhere? choose cursor = .ok (some (chosen, token)) (cursor.past token rest)) ∨
      ((∀ token ∈ cursor.rest.head?, choose token.kind = none) ∧
        acceptWhere? choose cursor = .ok none cursor) := by
  obtain ⟨previous, rest, diagnostics⟩ := cursor
  cases rest with
  | nil => exact .inr ⟨by simp, rfl⟩
  | cons token rest =>
      cases equation : choose token.kind with
      | none =>
          refine .inr ⟨by simpa using equation, ?_⟩
          simp only [acceptWhere?, get_bind_apply, equation]
          rfl
      | some chosen =>
          refine .inl ⟨token, rest, chosen, rfl, equation, ?_⟩
          simp only [acceptWhere?, get_bind_apply, equation]
          rfl

/-- A literal token is consumed, any other is left alone. -/
theorem literal?_apply (cursor : Cursor) :
    (∃ token rest value, cursor.rest = token :: rest ∧ constant? token = some value ∧
        literal? cursor = .ok (some (.literal value token)) (cursor.past token rest)) ∨
      ((∀ token ∈ cursor.rest.head?, constant? token = none) ∧
        literal? cursor = .ok none cursor) := by
  obtain ⟨previous, rest, diagnostics⟩ := cursor
  cases rest with
  | nil => exact .inr ⟨by simp, rfl⟩
  | cons token rest =>
      cases equation : constant? token with
      | none =>
          refine .inr ⟨by simpa using equation, ?_⟩
          simp only [literal?, get_bind_apply, equation]
          rfl
      | some value =>
          refine .inl ⟨token, rest, value, rfl, equation, ?_⟩
          simp only [literal?, get_bind_apply, equation]
          rfl

/-- A token of a given kind is consumed, any other is left alone. -/
theorem accept?_apply (kind : Kind) (cursor : Cursor) :
    (∃ token rest, cursor.rest = token :: rest ∧ token.kind = kind ∧
        accept? kind cursor = .ok (some token) (cursor.past token rest)) ∨
      ((∀ token ∈ cursor.rest.head?, token.kind ≠ kind) ∧
        accept? kind cursor = .ok none cursor) := by
  rcases acceptWhere?_apply (fun next => if next = kind then some () else none) cursor with
    ⟨token, rest, _, split, chosen, equation⟩ | ⟨other, equation⟩
  · refine .inl ⟨token, rest, split, by simpa using chosen, ?_⟩
    simp only [accept?, bind_apply, equation]
    rfl
  · refine .inr ⟨fun token member same => by simpa [same] using other token member, ?_⟩
    simp only [accept?, bind_apply, equation]
    rfl

namespace Cursor

theorem exists_cons_of_head {cursor : Cursor} {kind : Kind}
    (head : cursor.rest.head?.map (·.kind) = some kind) :
    ∃ token rest, cursor.rest = token :: rest ∧ token.kind = kind := by
  cases split : cursor.rest with
  | nil => simp [split] at head
  | cons token rest => exact ⟨token, rest, rfl, by simpa [split] using head⟩

theorem dropToBorder_suffix (previous : Token) (tokens : List Token) :
    (dropToBorder previous tokens).2 <:+ tokens := by
  induction tokens generalizing previous with
  | nil => exact List.suffix_refl _
  | cons token rest inductionHypothesis =>
      rw [dropToBorder]
      split
      · exact List.suffix_cons _ _
      · split
        · exact List.suffix_refl _
        · exact (inductionHypothesis token).trans (List.suffix_cons _ _)

/-- Resuming consumes at least one of the tokens that there were before the failure. -/
theorem resume_suffix (cursor : Cursor) {token : Token} {rest : List Token}
    (unmarked : token.kind ≠ .endOfInput) (part : cursor.rest <:+ token :: rest) :
    (cursor.resume (token :: rest).length).rest <:+ rest := by
  have dropped := (dropToBorder_suffix cursor.previous cursor.rest).trans part
  unfold resume
  generalize dropToBorder cursor.previous cursor.rest = border at dropped
  obtain ⟨previous, left⟩ := border
  dsimp only at dropped ⊢
  split
  · next same =>
      obtain rfl : left = token :: rest := dropped.eq_of_length same
      simp [skip, advance, unmarked]
  · next different =>
      rcases List.suffix_cons_iff.1 dropped with rfl | shorter
      · exact absurd rfl different
      · exact shorter

@[simp]
theorem resume_diagnostics (cursor : Cursor) (before : Nat) :
    (cursor.resume before).diagnostics = cursor.diagnostics := by
  unfold resume
  generalize dropToBorder cursor.previous cursor.rest = border
  obtain ⟨previous, rest⟩ := border
  dsimp only
  split
  · unfold skip advance
    split
    · rfl
    · dsimp only
      split <;> rfl
  · rfl

end Cursor

namespace Outcome

variable {cursor : Cursor} {least : Nat}

/-- What follows a consumed token, seen from the cursor before that token. -/
theorem past {phrase : List Token → α → Prop} {token : Token} {rest : List Token}
    {result : EStateM.Result Stop Cursor α} (split : cursor.rest = token :: rest)
    (outcome : Outcome (cursor.past token rest) (least - 1)
      (fun used value => phrase (token :: used) value) result) :
    Outcome cursor least phrase result := by
  match result, outcome with
  | .ok value after, ⟨used, usedSplit, enough, holds⟩ =>
      have usedRest : rest = used ++ after.rest := usedSplit
      exact ⟨token :: used, by rw [split, usedRest, List.cons_append],
        by rw [List.length_cons]; omega, holds⟩
  | .error (.failed _) after, outcome =>
      have part : after.rest <:+ rest := outcome
      change after.rest <:+ cursor.rest
      exact split ▸ part.trans (List.suffix_cons token rest)
  | .error .exhausted _, outcome => exact outcome.elim

/-- Go on after a token that may or may not be chosen. -/
theorem acceptWhere? {choose : Kind → Option α} {next : Option (α × Token) → Reader β}
    {phrase : List Token → β → Prop}
    (chosen : ∀ token rest value, cursor.rest = token :: rest → choose token.kind = some value →
      Outcome (cursor.past token rest) (least - 1)
        (fun used result => phrase (token :: used) result)
        (next (some (value, token)) (cursor.past token rest)))
    (left : (∀ token ∈ cursor.rest.head?, choose token.kind = none) →
      Outcome cursor least phrase (next none cursor)) :
    Outcome cursor least phrase ((Reader.acceptWhere? choose >>= next) cursor) := by
  rw [bind_apply]
  rcases acceptWhere?_apply choose cursor with
    ⟨token, rest, value, split, accepted, equation⟩ | ⟨other, equation⟩
  · rw [equation]
    exact past split (chosen token rest value split accepted)
  · rw [equation]
    exact left other

/-- Go on after a token that may or may not have a given kind. -/
theorem accept? {kind : Kind} {next : Option Token → Reader β}
    {phrase : List Token → β → Prop}
    (found : ∀ token rest, cursor.rest = token :: rest → token.kind = kind →
      Outcome (cursor.past token rest) (least - 1)
        (fun used result => phrase (token :: used) result)
        (next (some token) (cursor.past token rest)))
    (missing : (∀ token ∈ cursor.rest.head?, token.kind ≠ kind) →
      Outcome cursor least phrase (next none cursor)) :
    Outcome cursor least phrase ((Reader.accept? kind >>= next) cursor) := by
  rw [bind_apply]
  rcases accept?_apply kind cursor with ⟨token, rest, split, same, equation⟩ | ⟨other, equation⟩
  · rw [equation]
    exact past split (found token rest split same)
  · rw [equation]
    exact missing other

/-- Go on after a token that may or may not be a literal. -/
theorem literal? {next : Option Expr → Reader β} {phrase : List Token → β → Prop}
    (found : ∀ token rest value, cursor.rest = token :: rest → constant? token = some value →
      Outcome (cursor.past token rest) (least - 1)
        (fun used result => phrase (token :: used) result)
        (next (some (.literal value token)) (cursor.past token rest)))
    (missing : (∀ token ∈ cursor.rest.head?, constant? token = none) →
      Outcome cursor least phrase (next none cursor)) :
    Outcome cursor least phrase ((Reader.literal? >>= next) cursor) := by
  rw [bind_apply]
  rcases literal?_apply cursor with
    ⟨token, rest, value, split, constant, equation⟩ | ⟨other, equation⟩
  · rw [equation]
    exact past split (found token rest value split constant)
  · rw [equation]
    exact missing other

/-- Go on after a token that has to have a given kind. -/
theorem expect {kind : Kind} {next : Token → Reader β} {phrase : List Token → β → Prop}
    (found : ∀ token rest, cursor.rest = token :: rest → token.kind = kind →
      Outcome (cursor.past token rest) (least - 1)
        (fun used result => phrase (token :: used) result)
        (next token (cursor.past token rest))) :
    Outcome cursor least phrase ((Reader.expect kind >>= next) cursor) := by
  rw [bind_apply, Reader.expect, bind_apply]
  rcases accept?_apply kind cursor with ⟨token, rest, split, same, equation⟩ | ⟨_, equation⟩
  · rw [equation]
    exact past split (found token rest split same)
  · rw [equation]
    exact List.suffix_refl _

/-- Go on after an identifier. -/
theorem expectName {next : Token → Reader β} {phrase : List Token → β → Prop}
    (found : ∀ token rest, cursor.rest = token :: rest → token.kind = .identifier →
      Outcome (cursor.past token rest) (least - 1)
        (fun used result => phrase (token :: used) result)
        (next token (cursor.past token rest))) :
    Outcome cursor least phrase ((Reader.expectName >>= next) cursor) := by
  rw [bind_apply, Reader.expectName, bind_apply]
  rcases accept?_apply .identifier cursor with ⟨token, rest, split, same, equation⟩ | ⟨_, equation⟩
  · rw [equation]
    exact past split (found token rest split same)
  · rw [equation]
    exact List.suffix_refl _

/-- Go on after a reader whose failure is recorded.  Then nothing is a phrase any
more, but at least one token has been dropped. -/
theorem attempt {reader : Reader α} {next : Option α → Reader β} {phrase : List Token → α → Prop}
    {whole other : List Token → β → Prop} {token : Token} {rest : List Token}
    (split : cursor.rest = token :: rest) (unmarked : token.kind ≠ .endOfInput)
    (outcome : Outcome cursor 1 phrase (reader cursor))
    (failed : ∀ after : Cursor, after.rest.length + 1 ≤ cursor.rest.length →
      Outcome after 0 other (next none after))
    (succeeded : ∀ value after, after.rest.length + 1 ≤ cursor.rest.length →
      Outcome after 0
        (fun later result => ∀ used, phrase used value → whole (used ++ later) result)
        (next (some value) after)) :
    Outcome cursor 0 whole ((Reader.attempt reader >>= next) cursor) := by
  rw [bind_apply, Reader.attempt]
  match equation : reader cursor with
  | .error .exhausted after =>
      rw [equation] at outcome
      exact outcome.elim
  | .error (.failed diagnostic) after =>
      rw [equation] at outcome
      have part : after.rest <:+ token :: rest := split ▸ outcome
      have resumes := Cursor.resume_suffix (after.record diagnostic) unmarked part
      rw [← split] at resumes
      simp only
      generalize resumed : (after.record diagnostic).resume cursor.rest.length = start at *
      have ends := failed start (by
        have := resumes.length_le
        rw [split, List.length_cons]
        omega)
      have within : start.rest <:+ cursor.rest :=
        split ▸ resumes.trans (List.suffix_cons token rest)
      have recorded : start.diagnostics ≠ [] := by
        rw [← resumed, Cursor.resume_diagnostics]
        simp [Cursor.record]
      match finish : next none start with
      | .error (.failed _) after =>
          rw [finish] at ends
          have later : after.rest <:+ start.rest := ends
          exact later.trans within
      | .error .exhausted after =>
          rw [finish] at ends
          exact ends.elim
      | .ok result after =>
          rw [finish] at ends
          obtain ⟨later, laterSplit, _, holds⟩ := ends
          obtain ⟨skipped, skippedSplit⟩ := within
          exact ⟨skipped ++ later, by rw [List.append_assoc, ← laterSplit, skippedSplit],
            Nat.zero_le _, fun clean => absurd (holds clean).1 recorded⟩
  | .ok value middle =>
      have composed : Outcome cursor 0 whole ((reader >>= fun value => next (some value)) cursor) :=
        outcome.bind fun value after afterLength => succeeded value after afterLength
      rw [bind_apply, equation] at composed
      exact composed

end Outcome

/-- The kind of the next token is looked at without consuming it. -/
theorem nextKind?_bind (next : Option Kind → Reader α) (cursor : Cursor) :
    (nextKind? >>= next) cursor = next (cursor.rest.head?.map (·.kind)) cursor :=
  rfl

theorem get_bind (next : Cursor → Reader α) (cursor : Cursor) :
    ((get : Reader Cursor) >>= next) cursor = next cursor cursor :=
  rfl

theorem nextIs_bind (kind : Kind) (next : Bool → Reader α) (cursor : Cursor) :
    (nextIs kind >>= next) cursor =
      next (decide (cursor.rest.head?.map (·.kind) = some kind)) cursor :=
  rfl

end Reader

end CheckedScript
