import CheckedScript.Proofs.Reader.Congruences
import CheckedScript.Proofs.Reader.Sentences
import CheckedScript.Proofs.Scanning.Tokens
import CheckedScript.Run

/-!
# Nothing behind an end marker is read

Reading ends at the first end marker, wherever that stands: the tokens before it are read as if
nothing stood behind them.  A reader in front of an end marker is compared with itself at the end of
the tokens.  Both do the same, but they may bound their steps in different ways, since a bound is
taken from all tokens that are left.
-/

namespace CheckedScript

namespace Reader

variable {α β : Type} {behind : List Token}

namespace Cursor

/-- A cursor with further tokens behind those that are left. -/
def before (cursor : Cursor) (behind : List Token) : Cursor :=
  { cursor with rest := cursor.rest ++ behind }

theorem start_append (tokens : List Token) (marker : Token) (others : List Token) :
    start (tokens ++ marker :: others) marker =
      (start tokens marker).before (marker :: others) := by
  cases tokens <;> rfl

/-- No end marker is left. -/
def IsUnmarked (cursor : Cursor) : Prop :=
  ∀ token ∈ cursor.rest, Unmarked token.kind

theorem IsUnmarked.past {cursor : Cursor} (unmarked : cursor.IsUnmarked) {token : Token}
    {rest : List Token} (split : cursor.rest = token :: rest) :
    (cursor.past token rest).IsUnmarked :=
  fun _ member => unmarked _ (split ▸ List.mem_cons_of_mem token member)

/-- Skipping to a statement border stops at an end marker. -/
theorem dropToBorder_append {marker : Token} (others : List Token) (previous : Token)
    {rest : List Token} (marks : marker.kind = .endOfInput) :
    dropToBorder previous (rest ++ marker :: others) =
      ((dropToBorder previous rest).1, (dropToBorder previous rest).2 ++ marker :: others) := by
  induction rest generalizing previous with
  | nil => simp [dropToBorder, marks]
  | cons token rest inductionHypothesis =>
      simp only [List.cons_append, dropToBorder, inductionHypothesis]
      split
      · rfl
      · split <;> rfl

theorem skip_before {marker : Token} (others : List Token) {cursor : Cursor}
    (unmarked : cursor.IsUnmarked) (marks : marker.kind = .endOfInput) :
    (cursor.before (marker :: others)).skip = cursor.skip.before (marker :: others) := by
  obtain ⟨previous, rest, diagnostics⟩ := cursor
  cases rest with
  | nil => simp [skip, before, advance, marks]
  | cons token rest =>
      have other : token.kind ≠ .endOfInput := unmarked token (List.mem_cons_self ..)
      simp [skip, before, advance, other]

theorem resume_before {marker : Token} (others : List Token) {cursor : Cursor} (left : Nat)
    (unmarked : cursor.IsUnmarked) (marks : marker.kind = .endOfInput) :
    (cursor.before (marker :: others)).resume (left + (marker :: others).length) =
      (cursor.resume left).before (marker :: others) := by
  have within := dropToBorder_suffix cursor.previous cursor.rest
  simp only [resume, before, dropToBorder_append others _ marks, List.length_append,
    Nat.add_right_cancel_iff]
  split
  · have border : Cursor.IsUnmarked
        { cursor with
          previous := (dropToBorder cursor.previous cursor.rest).1
          rest := (dropToBorder cursor.previous cursor.rest).2 } :=
      fun token member => unmarked token (within.subset member)
    exact skip_before others border marks
  · rfl

theorem IsUnmarked.resume {cursor : Cursor} (unmarked : cursor.IsUnmarked) (left : Nat) :
    (cursor.resume left).IsUnmarked := by
  have within := dropToBorder_suffix cursor.previous cursor.rest
  have border : Cursor.IsUnmarked
      { cursor with
        previous := (dropToBorder cursor.previous cursor.rest).1
        rest := (dropToBorder cursor.previous cursor.rest).2 } :=
    fun token member => unmarked token (within.subset member)
  unfold Cursor.resume
  dsimp only
  split
  · unfold skip advance
    split
    · exact border
    · split
      · exact border
      · next split => exact fun _ member => border _ (split ▸ List.mem_cons_of_mem _ member)
  · exact border

end Cursor

/-- Two runs end alike, the second one with further tokens behind those that are left, or one of
them has run out of steps. -/
inductive EndAlike (behind : List Token) :
    EStateM.Result Stop Cursor α → EStateM.Result Stop Cursor α → Prop
  | ok {value : α} {after : Cursor} : after.IsUnmarked →
      EndAlike behind (.ok value after) (.ok value (after.before behind))
  | failed {diagnostic : Diagnostic} {after : Cursor} : after.IsUnmarked →
      EndAlike behind (.error (.failed diagnostic) after)
        (.error (.failed diagnostic) (after.before behind))
  | exhaustedFirst {after : Cursor} {result : EStateM.Result Stop Cursor α} :
      EndAlike behind (.error .exhausted after) result
  | exhaustedSecond {after : Cursor} {result : EStateM.Result Stop Cursor α} :
      EndAlike behind result (.error .exhausted after)

/-- In front of further tokens the second reader does what the first one does without them. -/
def Blind (behind : List Token) (first second : Reader α) : Prop :=
  ∀ cursor : Cursor, cursor.IsUnmarked →
    EndAlike behind (first cursor) (second (cursor.before behind))

namespace Blind

theorem pure (value : α) : Blind behind (Pure.pure value : Reader α) (Pure.pure value) :=
  fun _ unmarked => .ok unmarked

theorem fail (cause : Cause) (token : Token) :
    Blind behind (Reader.fail cause token : Reader α) (Reader.fail cause token) :=
  fun _ unmarked => .failed unmarked

theorem failAfter (cause : Cause) :
    Blind behind (Reader.failAfter cause : Reader α) (Reader.failAfter cause) :=
  fun _ unmarked => .failed unmarked

theorem record (diagnostic : Diagnostic) :
    Blind behind (modify fun cursor => cursor.record diagnostic : Reader Unit)
      (modify fun cursor => cursor.record diagnostic) :=
  fun cursor unmarked =>
    have left : (cursor.record diagnostic).IsUnmarked := unmarked
    .ok left

theorem bind {first second : Reader α} {next following : α → Reader β}
    (blind : Blind behind first second)
    (continues : ∀ value, Blind behind (next value) (following value)) :
    Blind behind (first >>= next) (second >>= following) := by
  intro cursor unmarked
  have ends := blind cursor unmarked
  rw [bind_apply, bind_apply]
  generalize first cursor = result, second (cursor.before behind) = other at ends
  cases ends with
  | ok left => exact continues _ _ left
  | failed left => exact .failed left
  | exhaustedFirst => exact .exhaustedFirst
  | exhaustedSecond => exact .exhaustedSecond

theorem get {next following : Cursor → Reader α}
    (continues : ∀ cursor start, Blind behind (next cursor) (following start)) :
    Blind behind ((MonadState.get : Reader Cursor) >>= next) (MonadState.get >>= following) :=
  fun cursor unmarked => continues cursor (cursor.before behind) cursor unmarked

variable {marker : Token} {others : List Token} (marks : marker.kind = .endOfInput)

include marks

/-- An end marker is never consumed. -/
theorem choice {choose : Token → Option α} {reader : Reader (Option α)}
    (chooses : Chooses choose reader)
    (allowed : ∀ token, (choose token).isSome → Unmarked token.kind) :
    Blind (marker :: others) reader reader := by
  intro cursor unmarked
  rcases chooses cursor with ⟨token, rest, value, split, found, equation⟩ | ⟨absent, equation⟩
  · have splitBefore :
        (cursor.before (marker :: others)).rest = token :: (rest ++ marker :: others) := by
      simp [Cursor.before, split]
    rcases chooses (cursor.before (marker :: others)) with
      ⟨next, left, chosen, splitNext, foundNext, equationNext⟩ | ⟨absentNext, _⟩
    · obtain ⟨rfl, rfl⟩ := List.cons.inj (splitBefore.symm.trans splitNext)
      cases found.symm.trans foundNext
      rw [equation, equationNext]
      exact .ok (unmarked.past split)
    · have := absentNext token (by simp [splitBefore])
      rw [found] at this
      cases this
  · rcases chooses (cursor.before (marker :: others)) with
      ⟨next, left, chosen, splitNext, foundNext, _⟩ | ⟨_, equationNext⟩
    · have consumed : Unmarked next.kind := allowed next (by simp [foundNext])
      cases split : cursor.rest with
      | nil =>
          simp only [Cursor.before, split, List.nil_append, List.cons.injEq] at splitNext
          exact absurd (splitNext.1 ▸ marks) consumed
      | cons token rest =>
          simp only [Cursor.before, split, List.cons_append, List.cons.injEq] at splitNext
          have := absent next (by simp [split, splitNext.1])
          rw [foundNext] at this
          cases this
    · rw [equation, equationNext]
      exact .ok unmarked

/-- Where no token is left, the end marker is next. -/
theorem nextKind? {next following : Option Kind → Reader α}
    (same : ∀ kind, Blind (marker :: others) (next kind) (following kind))
    (ends : Blind (marker :: others) (next none) (following (some .endOfInput))) :
    Blind (marker :: others) (Reader.nextKind? >>= next) (Reader.nextKind? >>= following) := by
  intro cursor unmarked
  rw [nextKind?_bind, nextKind?_bind]
  cases split : cursor.rest with
  | nil => simpa [Cursor.before, split, marks] using ends cursor unmarked
  | cons token rest => simpa [Cursor.before, split] using same (some token.kind) cursor unmarked

theorem nextIs {kind : Kind} (other : Unmarked kind) :
    Blind (marker :: others) (Reader.nextIs kind) (Reader.nextIs kind) := by
  refine nextKind? marks (fun _ => pure _) ?_
  have differs : decide (some Kind.endOfInput = some kind) = false := by
    simpa using fun same : Kind.endOfInput = kind => other same.symm
  rw [differs]
  exact pure false

/-- Behind a fault, reading resumes in front of the end marker at the latest. -/
theorem attempt {first second : Reader α} (blind : Blind (marker :: others) first second) :
    Blind (marker :: others) (Reader.attempt first) (Reader.attempt second) := by
  intro cursor unmarked
  have ends := blind cursor unmarked
  unfold Reader.attempt
  generalize first cursor = result, second (cursor.before (marker :: others)) = other at ends
  cases ends with
  | ok left => exact .ok left
  | @failed diagnostic after left =>
      have recorded : (after.record diagnostic).IsUnmarked := left
      have resumes := Cursor.resume_before others cursor.rest.length recorded marks
      have length : (cursor.before (marker :: others)).rest.length =
          cursor.rest.length + (marker :: others).length := List.length_append
      dsimp only
      rw [length]
      exact resumes ▸ .ok (recorded.resume _)
  | exhaustedFirst => exact .exhaustedFirst
  | exhaustedSecond =>
      cases result with
      | ok => exact .exhaustedSecond
      | error stop => cases stop <;> exact .exhaustedSecond

theorem unbounded : Unbounded Unmarked fun _ => Blind (marker :: others) where
  pure := pure
  fail := fail
  failAfter := failAfter
  record := record
  nextIs := nextIs marks
  choice := choice marks
  bind := bind
  inner _ := Inner.unmarked
  ofExhausted _ := fun _ _ => .exhaustedFirst
  toExhausted _ := fun _ _ => .exhaustedSecond
  get := get

theorem statementCongruence :
    StatementCongruence .resuming .resuming fun _ => Blind (marker :: others) where
  toCongruence := (unbounded marks).toCongruence
  nextKind? := nextKind? marks
  attempt := attempt marks
  expression := (unbounded marks).expression
  parameters := (unbounded marks).parameters
  bounds := (unbounded marks).bounds
  returnStem := (unbounded marks).returnStem
  letStem := (unbounded marks).letStem

end Blind

/-- Statements before an end marker are read as if nothing stood behind them. -/
theorem statements_blind {marker : Token} (others : List Token) (marks : marker.kind = .endOfInput)
    (fuel bound : Nat) : Blind (marker :: others) (statements fuel) (statements bound) := by
  have blind :
      Blind (marker :: others) (statementsBy .resuming fuel) (statementsBy .resuming bound) :=
    (Blind.unbounded marks).statementsBy (Blind.statementCongruence marks) fuel bound
  rwa [statementsBy_resuming, statementsBy_resuming] at blind

/-- Reading stops in front of an end marker, with what is read without it. -/
theorem statements_before (cursor : Cursor) {marker : Token} (others : List Token)
    (unmarked : cursor.IsUnmarked) (marks : marker.kind = .endOfInput) :
    ∃ program last, last.rest = [] ∧
      statements (cursor.rest.length + 1) cursor = .ok program last ∧
      statements ((cursor.before (marker :: others)).rest.length + 1)
          (cursor.before (marker :: others)) =
        .ok program (last.before (marker :: others)) := by
  let whole := cursor.before (marker :: others)
  have ends : EndAlike (marker :: others) (statements (cursor.rest.length + 1) cursor)
      (statements (whole.rest.length + 1) whole) :=
    statements_blind others marks _ _ cursor unmarked
  obtain ⟨program, last, alone, _⟩ := statements_finish _ cursor (Nat.lt_succ_self _)
  obtain ⟨result, after, before, _⟩ := statements_finish _ whole (Nat.lt_succ_self _)
  rw [before, alone] at ends
  cases ends
  have nothing := rest_eq_nil_of_statements unmarked (Nat.lt_succ_self _) alone
  exact ⟨program, last, nothing, alone, before⟩

end Reader

/-- A token list splits at its first end marker. -/
structure IsFirstMarker (tokens front : List Token) (marker : Token) (behind : List Token) :
    Prop where
  split : tokens = front ++ marker :: behind
  inner : ∀ token ∈ front, token.kind ≠ .endOfInput
  marks : marker.kind = .endOfInput

theorem exists_isFirstMarker {tokens : List Token} {token : Token} (member : token ∈ tokens)
    (marks : token.kind = .endOfInput) :
    ∃ front marker behind, IsFirstMarker tokens front marker behind := by
  have present : (tokens.find? fun token => token.kind = .endOfInput).isSome :=
    List.find?_isSome.2 ⟨token, member, by simpa using marks⟩
  obtain ⟨marker, found⟩ := Option.isSome_iff_exists.1 present
  obtain ⟨isMarker, front, behind, split, inner⟩ := List.find?_eq_some_iff_append.1 found
  exact ⟨front, marker, behind, split, by simpa using inner, by simpa using isMarker⟩

namespace Program

open Reader

/-- Tokens before an end marker are read as if nothing stood behind them. -/
theorem read_append_marker {tokens : List Token} {marker : Token} (others : List Token)
    (inner : ∀ token ∈ tokens, token.kind ≠ .endOfInput) (marks : marker.kind = .endOfInput) :
    read (tokens ++ marker :: others) = read tokens := by
  obtain ⟨program, last, _, alone, before⟩ :=
    statements_before (.start tokens marker) others inner marks
  rw [← Cursor.start_append] at before
  have whole : read (tokens ++ marker :: others) =
      if last.diagnostics.isEmpty then .ok program
      else .error { phase := .parsing, diagnostics := last.diagnostics } :=
    have reads := read_eq marker before
    reads
  exact whole.trans (read_eq marker alone).symm

end Program

namespace IsFirstMarker

open Reader

variable {tokens front behind : List Token} {marker : Token}
  (first : IsFirstMarker tokens front marker behind)

include first

/-- Whatever stands behind the first end marker, the same is read. -/
theorem read_eq (others : List Token) :
    Program.read (front ++ marker :: others) = Program.read tokens := by
  rw [first.split, Program.read_append_marker others first.inner first.marks,
    Program.read_append_marker behind first.inner first.marks]

/-- Reading stops with its cursor in front of the first end marker. -/
theorem rest_eq (last : Token) {program : Program} {cursor : Cursor}
    (equation : statements (tokens.length + 1) (.start tokens last) = .ok program cursor) :
    cursor.rest = marker :: behind := by
  let start : Cursor := ⟨tokens.headD last, front, []⟩
  have whole : Cursor.start tokens last = start.before (marker :: behind) := by
    simp [Cursor.start, Cursor.before, start, ← first.split]
  obtain ⟨_, after, nothing, _, stops⟩ := statements_before start behind first.inner first.marks
  rw [← whole] at stops
  cases equation.symm.trans stops
  rw [Cursor.before, nothing, List.nil_append]

end IsFirstMarker

namespace Program

/-- One more end marker behind the tokens changes nothing. -/
theorem read_concat_marker (tokens : List Token) {last : Token} (marks : last.kind = .endOfInput) :
    read (tokens ++ [last]) = read tokens := by
  by_cases present : ∃ token ∈ tokens, token.kind = .endOfInput
  · obtain ⟨token, member, isMarker⟩ := present
    obtain ⟨front, marker, behind, first⟩ := exists_isFirstMarker member isMarker
    rw [first.split, List.append_assoc, List.cons_append, first.read_eq, first.split]
  · have inner : ∀ token ∈ tokens, token.kind ≠ .endOfInput :=
      fun token member isMarker => present ⟨token, member, isMarker⟩
    exact read_append_marker [] inner marks

end Program

namespace Segmentation

variable {segmentation : Segmentation} {source : String}

/-- A source text is read by what stands before its end marker. -/
theorem parse_of_tokenize {stream : TokenStream}
    (scanned : segmentation.tokenize source = .ok stream) :
    segmentation.parse source = Program.read stream.body := by
  have whole : segmentation.parse source = Program.read stream.toList := by
    rw [parse, scanned]
    rfl
  rw [whole, TokenStream.toList, Program.read_concat_marker _ (marker_of_tokenize scanned).2]

theorem exists_of_parse_eq_ok {program : Program}
    (parsed : segmentation.parse source = .ok program) :
    ∃ stream, segmentation.tokenize source = .ok stream ∧
      Program.read stream.body = .ok program := by
  cases scanned : segmentation.tokenize source with
  | error rejection =>
      rw [parse, scanned] at parsed
      cases parsed
  | ok stream => exact ⟨stream, rfl, parse_of_tokenize scanned ▸ parsed⟩

/-- A source text is refused for its lexemes, or for what its tokens are read as. -/
theorem cases_of_parse_eq_error {rejection : Rejection}
    (refused : segmentation.parse source = .error rejection) :
    segmentation.tokenize source = .error rejection ∨
      ∃ stream, segmentation.tokenize source = .ok stream ∧
        Program.read stream.body = .error rejection := by
  cases scanned : segmentation.tokenize source with
  | error lexical =>
      rw [parse, scanned] at refused
      cases refused
      exact .inl rfl
  | ok stream => exact .inr ⟨stream, rfl, parse_of_tokenize scanned ▸ refused⟩

end Segmentation

end CheckedScript
