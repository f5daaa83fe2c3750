import CheckedScript.Proofs.Reader.Congruences

/-!
# Readers depend on little more than what they consume

What a reader does is decided by the tokens it consumes and the one token behind them.  On any
other list that begins in the same way and shows the same next token, it ends alike: it returns
the same value or fails for the same cause, and it records the same causes on the way.

A reader bounds its nesting by the number of tokens that are left, so on another list it may run
with another bound.  Two readers are therefore compared: `Local` says that the second one does
what the first one did, unless it runs out of steps.
-/

namespace CheckedScript

namespace Reader

variable {α β : Type}

/-- How a run has finished, and where.  Of a failure only the cause is kept, since what is missing
may be charged to a token from before the run. -/
inductive Finishes : EStateM.Result Stop Cursor α → Except Cause α → Cursor → Prop
  | ok {value : α} {after : Cursor} : Finishes (.ok value after) (.ok value) after
  | failed {diagnostic : Diagnostic} {after : Cursor} :
      Finishes (.error (.failed diagnostic) after) (.error diagnostic.cause) after

/-- A run that has run out of steps. -/
inductive Exhausts : EStateM.Result Stop Cursor α → Prop
  | intro {after : Cursor} : Exhausts (.error .exhausted after)

namespace Finishes

theorem of_ok {result : EStateM.Result Stop Cursor α} {value : α} {after : Cursor}
    (equation : result = .ok value after) : Finishes result (.ok value) after :=
  equation ▸ .ok

theorem of_failed {result : EStateM.Result Stop Cursor α} {diagnostic : Diagnostic} {after : Cursor}
    (equation : result = .error (.failed diagnostic) after) :
    Finishes result (.error diagnostic.cause) after :=
  equation ▸ .failed

variable {first : Reader α} {next : α → Reader β} {cursor middle after : Cursor}

theorem bind {value : α} {outcome : Except Cause β}
    (finishes : Finishes (first cursor) (.ok value) middle)
    (continues : Finishes (next value middle) outcome after) :
    Finishes ((first >>= next) cursor) outcome after := by
  rw [bind_apply]
  generalize first cursor = result at finishes
  cases finishes
  exact continues

theorem bind_failed {cause : Cause} (finishes : Finishes (first cursor) (.error cause) after) :
    Finishes ((first >>= next) cursor) (.error cause) after := by
  rw [bind_apply]
  generalize first cursor = result at finishes
  cases finishes
  exact .failed

/-- Readers in a row finish with the second one, or with the first one where that fails. -/
theorem bind_cases {outcome : Except Cause β}
    (finishes : Finishes ((first >>= next) cursor) outcome after) :
    (∃ value middle, Finishes (first cursor) (.ok value) middle ∧
        Finishes (next value middle) outcome after) ∨
      ∃ cause, outcome = .error cause ∧ Finishes (first cursor) (.error cause) after := by
  rw [bind_apply] at finishes
  generalize first cursor = result at finishes ⊢
  cases result with
  | ok value middle => exact .inl ⟨value, middle, .ok, finishes⟩
  | error stop middle =>
      cases finishes
      exact .inr ⟨_, rfl, .failed⟩

/-- An attempt keeps what its reader has recorded. -/
theorem of_attempt {reader : Reader α} {last : Cursor}
    {outcome : Except Cause (Option α)} (finishes : Finishes (Reader.attempt reader cursor) outcome last) :
    ∃ result after, Finishes (reader cursor) result after ∧
      after.diagnostics <+: last.diagnostics := by
  rw [Reader.attempt] at finishes
  cases equation : reader cursor with
  | ok value after =>
      rw [equation] at finishes
      cases finishes
      exact ⟨_, last, .ok, List.prefix_refl _⟩
  | error stop after =>
      rw [equation] at finishes
      cases stop with
      | exhausted => cases finishes
      | failed diagnostic =>
          cases finishes
          refine ⟨_, after, .failed, ?_⟩
          rw [Cursor.resume_diagnostics]
          exact List.prefix_append ..

end Finishes

namespace Exhausts

variable {first : Reader α} {next : α → Reader β} {cursor middle : Cursor}

theorem bind_first (exhausts : Exhausts (first cursor)) : Exhausts ((first >>= next) cursor) := by
  rw [bind_apply]
  generalize first cursor = result at exhausts
  cases exhausts
  exact .intro

theorem bind_next {value : α} (finishes : Finishes (first cursor) (.ok value) middle)
    (exhausts : Exhausts (next value middle)) : Exhausts ((first >>= next) cursor) := by
  rw [bind_apply]
  generalize first cursor = result at finishes
  cases finishes
  exact exhausts

end Exhausts

/-- What has been recorded between two cursors has the given causes. -/
def Recorded (before after : Cursor) (causes : List Cause) : Prop :=
  ∃ new, after.diagnostics = before.diagnostics ++ new ∧ new.map (·.cause) = causes

/-- What lies between two cursors: the tokens consumed and the causes recorded. -/
structure Advance (before after : Cursor) (used : List Token) (causes : List Cause) : Prop where
  consumed : before.rest = used ++ after.rest
  recorded : Recorded before after causes

namespace Advance

variable {before middle after : Cursor} {used later : List Token} {causes others : List Cause}

theorem refl (cursor : Cursor) : Advance cursor cursor [] [] :=
  ⟨rfl, [], by simp, rfl⟩

theorem trans (first : Advance before middle used causes)
    (second : Advance middle after later others) :
    Advance before after (used ++ later) (causes ++ others) := by
  obtain ⟨new, recorded, rfl⟩ := first.recorded
  obtain ⟨more, recordedMore, rfl⟩ := second.recorded
  refine ⟨by rw [first.consumed, second.consumed, List.append_assoc], new ++ more, ?_, by simp⟩
  rw [recordedMore, recorded, List.append_assoc]

theorem past {cursor : Cursor} {token : Token} {rest : List Token}
    (split : cursor.rest = token :: rest) :
    Advance cursor (cursor.past token rest) [token] [] :=
  ⟨split, [], by simp [Cursor.past], rfl⟩

/-- Two cursors determine what lies between them. -/
theorem unique (first : Advance before after used causes)
    (second : Advance before after later others) : used = later ∧ causes = others := by
  obtain ⟨new, recorded, rfl⟩ := first.recorded
  obtain ⟨more, recordedMore, rfl⟩ := second.recorded
  refine ⟨List.append_cancel_right (first.consumed.symm.trans second.consumed), ?_⟩
  rw [List.append_cancel_left (recorded.symm.trans recordedMore)]

end Advance

/-- The second reader does on tokens that begin alike what the first one has done, unless it runs
out of steps; the first one consumes tokens of certain kinds only. -/
def Local (consumes : Kind → Prop) (first second : Reader α) : Prop :=
  ∀ (cursor : Cursor) (outcome : Except Cause α) (after : Cursor),
    Finishes (first cursor) outcome after →
    ∃ used causes, Advance cursor after used causes ∧ (∀ token ∈ used, consumes token.kind) ∧
      ∀ (start : Cursor) (rest : List Token), start.rest = used ++ rest →
        rest.head? = after.rest.head? →
        Exhausts (second start) ∨
          ∃ last, Finishes (second start) outcome last ∧ last.rest = rest ∧
            Advance start last used causes

namespace Local

variable {consumes other : Kind → Prop}

theorem mono {first second : Reader α} (holds : Local consumes first second)
    (implies : ∀ kind, consumes kind → other kind) : Local other first second := by
  intro cursor outcome after finishes
  obtain ⟨used, causes, advance, allowed, alike⟩ := holds cursor outcome after finishes
  exact ⟨used, causes, advance, fun token member => implies _ (allowed token member), alike⟩

/-- A reader without steps has done nothing. -/
theorem ofExhausted {second : Reader α} : Local consumes (throw .exhausted) second :=
  fun _ _ _ finishes => nomatch finishes

/-- A reader without steps does not go against any other. -/
theorem toExhausted {first second : Reader α} (holds : Local consumes first second) :
    Local consumes first (throw .exhausted) := by
  intro cursor outcome after finishes
  obtain ⟨used, causes, advance, allowed, _⟩ := holds cursor outcome after finishes
  exact ⟨used, causes, advance, allowed, fun _ _ _ _ => .inl .intro⟩

theorem pure (value : α) : Local consumes (Pure.pure value : Reader α) (Pure.pure value) := by
  rintro cursor _ _ ⟨⟩
  exact ⟨[], [], .refl cursor, by simp, fun start rest same _ =>
    .inr ⟨start, .ok, same, .refl start⟩⟩

theorem fail (cause : Cause) (token : Token) :
    Local consumes (Reader.fail cause token : Reader α) (Reader.fail cause token) := by
  rintro cursor _ _ ⟨⟩
  exact ⟨[], [], .refl cursor, by simp, fun start rest same _ =>
    .inr ⟨start, .failed, same, .refl start⟩⟩

theorem failAfter (cause : Cause) :
    Local consumes (Reader.failAfter cause : Reader α) (Reader.failAfter cause) := by
  rintro cursor _ _ ⟨⟩
  exact ⟨[], [], .refl cursor, by simp, fun start rest same _ =>
    .inr ⟨start, .failed, same, .refl start⟩⟩

/-- Noting a diagnostic consumes nothing. -/
theorem record (diagnostic : Diagnostic) :
    Local consumes (modify fun cursor => cursor.record diagnostic : Reader Unit)
      (modify fun cursor => cursor.record diagnostic) := by
  rintro cursor _ _ ⟨⟩
  refine ⟨[], [diagnostic.cause], ⟨rfl, [diagnostic], rfl, rfl⟩, by simp, fun start rest same _ => ?_⟩
  exact .inr ⟨start.record diagnostic, .ok, same, rfl, [diagnostic], rfl, rfl⟩

theorem nextKind? : Local consumes Reader.nextKind? Reader.nextKind? := by
  rintro cursor _ _ ⟨⟩
  refine ⟨[], [], .refl cursor, by simp, fun start rest same alike => .inr ⟨start, ?_, same, .refl start⟩⟩
  rw [← alike, ← List.nil_append rest, ← same]
  exact .ok

theorem nextIs (kind : Kind) : Local consumes (Reader.nextIs kind) (Reader.nextIs kind) := by
  rintro cursor _ _ ⟨⟩
  refine ⟨[], [], .refl cursor, by simp, fun start rest same alike => .inr ⟨start, ?_, same, .refl start⟩⟩
  rw [← alike, ← List.nil_append rest, ← same]
  exact .ok

/-- A reader that consumes the next token or leaves it alone is local, since what lies ahead decides
both whether a token is consumed and which one. -/
theorem choice {choose : Token → Option α} {reader : Reader (Option α)}
    (chooses : Chooses choose reader)
    (allowed : ∀ token, (choose token).isSome → consumes token.kind) :
    Local consumes reader reader := by
  intro cursor outcome after finishes
  rcases chooses cursor with ⟨token, left, value, split, found, equation⟩ | ⟨absent, equation⟩
  · rw [equation] at finishes
    cases finishes
    refine ⟨[token], [], .past split, by simpa using allowed token (by simp [found]), ?_⟩
    intro start rest same _
    rcases chooses start with ⟨next, others, chosen, splitStart, foundStart, equationStart⟩ |
      ⟨absentStart, _⟩
    · rw [same, List.singleton_append] at splitStart
      obtain ⟨rfl, rfl⟩ := List.cons.inj splitStart
      cases found.symm.trans foundStart
      exact .inr ⟨_, equationStart ▸ .ok, rfl, .past same⟩
    · have := absentStart token (by simp [same])
      rw [found] at this
      cases this
  · rw [equation] at finishes
    cases finishes
    refine ⟨[], [], .refl cursor, by simp, fun start rest same alike => ?_⟩
    rw [List.nil_append] at same
    rcases chooses start with ⟨next, others, chosen, splitStart, foundStart, _⟩ |
      ⟨_, equationStart⟩
    · have := absent next (by rw [← alike, ← same, splitStart]; rfl)
      rw [foundStart] at this
      cases this
    · exact .inr ⟨_, equationStart ▸ .ok, same, .refl start⟩

/-- Readers in a row are local if each of them is. -/
theorem bind {first second : Reader α} {next following : α → Reader β}
    (holds : Local consumes first second)
    (continues : ∀ value, Local consumes (next value) (following value)) :
    Local consumes (first >>= next) (second >>= following) := by
  intro cursor outcome after finishes
  rcases finishes.bind_cases with ⟨value, middle, returns, finishes⟩ | ⟨cause, rfl, failed⟩
  · obtain ⟨used, causes, advance, allowed, alike⟩ := holds _ _ _ returns
    obtain ⟨later, others, advanceLater, allowedLater, alikeLater⟩ := continues _ _ _ _ finishes
    refine ⟨used ++ later, causes ++ others, advance.trans advanceLater, ?_,
      fun start rest same ahead => ?_⟩
    · intro token member
      rcases List.mem_append.1 member with member | member
      · exact allowed token member
      · exact allowedLater token member
    have aheadMiddle : (later ++ rest).head? = middle.rest.head? := by
      rw [advanceLater.consumed]
      cases later with
      | nil => exact ahead
      | cons token later => rfl
    rcases alike start (later ++ rest) (by rw [same, List.append_assoc]) aheadMiddle with
      exhausts | ⟨between, returns, left, moved⟩
    · exact .inl exhausts.bind_first
    rcases alikeLater between rest left ahead with exhausts | ⟨last, finishes, left, movedLater⟩
    · exact .inl (.bind_next returns exhausts)
    · exact .inr ⟨last, returns.bind finishes, left, moved.trans movedLater⟩
  · obtain ⟨used, causes, advance, allowed, alike⟩ := holds _ _ _ failed
    refine ⟨used, causes, advance, allowed, fun start rest same ahead => ?_⟩
    rcases alike start rest same ahead with exhausts | ⟨last, failed, left, moved⟩
    · exact .inl exhausts.bind_first
    · exact .inr ⟨last, failed.bind_failed, left, moved⟩

/-- Looking at where a reader stands is local if what follows does not depend on it but for the
bounds on the steps. -/
theorem get {next following : Cursor → Reader α}
    (continues : ∀ cursor start, Local consumes (next cursor) (following start)) :
    Local consumes ((MonadState.get : Reader Cursor) >>= next) (MonadState.get >>= following) := by
  intro cursor outcome after finishes
  obtain ⟨used, causes, advance, allowed, _⟩ := continues cursor cursor cursor _ _ finishes
  refine ⟨used, causes, advance, allowed, fun start rest same ahead => ?_⟩
  obtain ⟨later, others, advanceLater, _, alike⟩ := continues cursor start cursor _ _ finishes
  obtain ⟨rfl, rfl⟩ := advance.unique advanceLater
  exact alike start rest same ahead

/-- Readers are local if the steps they are put together from are. -/
theorem congruence : Congruence consumes fun _ => Local consumes where
  pure := pure
  fail := fail
  failAfter := failAfter
  record := record
  nextIs _ := nextIs _
  choice := choice
  bind := bind

theorem unbounded (inner : ∀ kind, Inner kind → consumes kind) :
    Unbounded consumes fun _ => Local consumes where
  toCongruence := congruence
  inner := inner
  ofExhausted _ := ofExhausted
  toExhausted := toExhausted
  get := get

end Local

theorem localExpressions (fuel other : Nat) :
    ExpressionsAlike (fun _ => Local Inner) fuel other :=
  (Local.unbounded fun _ inner => inner).expressions fuel other

theorem expression_local : Local Inner expression expression :=
  (Local.unbounded fun _ inner => inner).expression

theorem functionHeader_local : Local Inner functionHeader functionHeader :=
  (Local.unbounded fun _ inner => inner).functionHeader

theorem forStem_local : Local Inner forStem forStem :=
  (Local.unbounded fun _ inner => inner).forStem

theorem returnStem_local : Local Inner returnStem returnStem :=
  (Local.unbounded fun _ inner => inner).returnStem

theorem letStem_local : Local Inner letStem letStem :=
  (Local.unbounded fun _ inner => inner).letStem

end Reader

end CheckedScript
