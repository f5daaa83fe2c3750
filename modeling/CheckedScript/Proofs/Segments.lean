import CheckedScript.Proofs.Phases
import CheckedScript.Proofs.Reader.Borders
import CheckedScript.Proofs.Reader.Stopping

/-!
# Recovery isolates faulty statements

A program is cut into segments: complete statements, and faulty ones that end at their only
semicolon and hold neither braces nor the beginning of another statement.  What is reported for
the whole is what the faulty segments report when they are read alone, one after another, and
nothing else: no fault swallows a part of the next segment, and none is reported twice.
-/

namespace CheckedScript

namespace Reader

open Grammar (Statement Statements)

/-- The words that open a statement. -/
def statementWords : List Kind :=
  [.keyword .letWord, .keyword .funWord, .keyword .ifWord, .keyword .whileWord, .keyword .forWord,
    .keyword .returnWord]

/-- The shape of a segment in which a fault stays: it ends at its only semicolon, it holds neither
braces nor end markers, a word that opens a statement stands at most in front, and it does not
begin with `else`. -/
structure Isolated (segment : List Token) : Prop where
  ends : ∃ inner semicolon, segment = inner ++ [semicolon] ∧
    semicolon.kind = .symbol .semicolon ∧ ∀ token ∈ inner, token.kind ≠ .symbol .semicolon
  noBrace : ∀ token ∈ segment,
    token.kind ≠ .symbol .leftBrace ∧ token.kind ≠ .symbol .rightBrace
  noMarker : ∀ token ∈ segment, token.kind ≠ .endOfInput
  opensFirst : ∀ token ∈ segment.tail, token.kind ∉ statementWords
  noElse : ∀ token ∈ segment.head?, token.kind ≠ .keyword .elseWord

/-- Apart from the braces, the kinds at which reading resumes are the words that open a
statement. -/
theorem startsStatement_cases {kind : Kind} (starts : kind.startsStatement) :
    kind ∈ statementWords ∨ kind = .symbol .leftBrace ∨ kind = .symbol .rightBrace := by
  cases kind with
  | keyword word => cases word <;> simp [Kind.startsStatement, statementWords] at starts ⊢
  | symbol mark => cases mark <;> simp [Kind.startsStatement] at starts ⊢
  | _ => cases starts

theorem Settles.ofPast {α : Type} {start : Cursor} {token : Token} {rest others : List Token}
    {causes : List Cause} {result : EStateM.Result Stop Cursor α}
    (settles : Settles (start.past token rest) others causes result) :
    Settles start others causes result := by
  cases settles with
  | ok rest recorded => exact .ok rest recorded
  | failed split plain isSemicolon recorded => exact .failed split plain isSemicolon recorded

/-- A statement that no word and no brace opens is an expression. -/
theorem statementWithin_plain (fuel : Nat) {cursor : Cursor} {token : Token} {rest : List Token}
    (split : cursor.rest = token :: rest) (noStart : token.kind.startsStatement = false) :
    statementWithin (fuel + 1) cursor = expressionStatement cursor := by
  rw [statementWithin, nextKind?_bind, split, List.head?_cons, Option.map_some]
  generalize shape : some token.kind = head
  split
  case h_8 => rfl
  all_goals
    rw [Option.some.inj shape] at noStart
    cases noStart

/-- A statement is never read without steps left. -/
theorem statement_not_exhausts (cursor : Cursor) : ¬ Exhausts (statement cursor) := by
  intro exhausts
  have outcome := statement_outcome cursor
  generalize statement cursor = result at exhausts outcome
  cases exhausts
  exact outcome

theorem statement_eq (cursor : Cursor) :
    ∃ fuel, statement cursor = statementWithin (fuel + 3) cursor :=
  ⟨16 * cursor.rest.length + 13, rfl⟩

theorem word_of_mem {kind : Kind} (member : kind ∈ statementWords) :
    ∃ word, kind = .keyword word ∧ (Kind.keyword word).startsStatement := by
  simp only [statementWords, List.mem_cons, List.not_mem_nil, or_false] at member
  rcases member with rfl | rfl | rfl | rfl | rfl | rfl <;> exact ⟨_, rfl, rfl⟩

section Bodies

variable {body : List Token} {semicolon : Token} (plain : ∀ token ∈ body, Plain token.kind)
  (isSemicolon : semicolon.kind = .symbol .semicolon)
include plain isSemicolon

/-- A statement that a word opens, with plain tokens up to its semicolon. -/
theorem word_settles {token : Token} (isWord : token.kind ∈ statementWords) :
    ∃ causes, ∀ (cursor : Cursor) (others : List Token),
      cursor.rest = token :: body ++ semicolon :: others →
        Settles cursor others causes (statement cursor) := by
  obtain ⟨word, same, starts⟩ := word_of_mem isWord
  obtain ⟨reader, stemmed, shape⟩ := statementWithin_word token same starts
  obtain ⟨causes, settles⟩ := stemmed.settles plain isSemicolon
  refine ⟨causes, fun cursor others split => ?_⟩
  obtain ⟨fuel, equation⟩ := statement_eq cursor
  have ends := statement_not_exhausts cursor
  rw [equation, shape fuel cursor _ split] at ends ⊢
  exact (settles fuel _ others rfl ends).ofPast

/-- A statement of plain tokens up to its semicolon is an expression. -/
theorem plain_settles :
    ∃ causes, ∀ (cursor : Cursor) (others : List Token),
      cursor.rest = body ++ semicolon :: others →
        Settles cursor others causes (statement cursor) := by
  obtain ⟨causes, settles⟩ := expressionStatement_stemmed.settles plain isSemicolon
  refine ⟨causes, fun cursor others split => ?_⟩
  obtain ⟨fuel, equation⟩ := statement_eq cursor
  have ends := statement_not_exhausts cursor
  have asExpression : statementWithin (fuel + 3) cursor = expressionStatement cursor := by
    cases body with
    | nil => exact statementWithin_plain _ split (by rw [isSemicolon]; rfl)
    | cons first body => exact statementWithin_plain _ split (plain first (List.mem_cons_self ..)).2.1
  rw [equation, asExpression] at ends ⊢
  exact settles fuel cursor others split ends

end Bodies

/-- What a segment records when it is read as a statement depends on the segment only, and reading
goes on right behind it. -/
theorem Isolated.settles {segment : List Token} (isolated : Isolated segment) :
    ∃ causes, ∀ (cursor : Cursor) (others : List Token), cursor.rest = segment ++ others →
      Settles cursor others causes (statement cursor) := by
  obtain ⟨inner, semicolon, rfl, isSemicolon, noSemicolon⟩ := isolated.ends
  have plain : ∀ token ∈ inner, token.kind ∉ statementWords → Plain token.kind := by
    refine fun token member noWord => ⟨noSemicolon token member, ?_,
      isolated.noMarker token (List.mem_append_left _ member)⟩
    obtain ⟨noOpening, noClosing⟩ := isolated.noBrace token (List.mem_append_left _ member)
    refine Bool.eq_false_iff.2 fun starts => ?_
    rcases startsStatement_cases starts with word | opening | closing
    · exact noWord word
    · exact noOpening opening
    · exact noClosing closing
  have asPlain : (∀ token ∈ inner, token.kind ∉ statementWords) →
      ∃ causes, ∀ (cursor : Cursor) (others : List Token),
        cursor.rest = inner ++ [semicolon] ++ others →
          Settles cursor others causes (statement cursor) := by
    intro noWord
    simpa using plain_settles (fun token member => plain token member (noWord token member)) isSemicolon
  cases inner with
  | nil => exact asPlain (by simp)
  | cons first body =>
      have later : ∀ token ∈ body, token.kind ∉ statementWords := fun token member =>
        isolated.opensFirst token (by simp [member])
      by_cases isWord : first.kind ∈ statementWords
      · simpa using word_settles
          (fun token member => plain token (List.mem_cons_of_mem _ member) (later token member))
          isSemicolon isWord
      · refine asPlain fun token member => ?_
        rcases List.mem_cons.1 member with rfl | member
        · exact isWord
        · exact later token member

/-- One round of reading statements, and what the rounds behind it come to. -/
theorem statements_step {fuel : Nat} {cursor middle after : Cursor} {value? : Option Stmt}
    {program : List Stmt} (present : cursor.rest ≠ [])
    (noMarker : Ahead (· ≠ .endOfInput) cursor.rest)
    (attempted : attempt statement cursor = .ok value? middle)
    (returns : statements fuel middle = .ok program after) :
    statements (fuel + 1) cursor = .ok (value?.toList ++ program) after := by
  obtain ⟨first, rest, split⟩ := List.exists_cons_of_ne_nil present
  have noMarker : first.kind ≠ .endOfInput := ahead_cons.1 (split ▸ noMarker)
  rw [statements, nextKind?_bind, split, List.head?_cons, Option.map_some]
  simp only [bind_apply, attempted]
  cases value? with
  | none => exact returns
  | some value =>
      simp only [bind_apply, returns]
      rfl

theorem statements_nil (fuel : Nat) {cursor : Cursor} (empty : cursor.rest = []) :
    statements (fuel + 1) cursor = .ok [] cursor := by
  rw [statements, nextKind?_bind, empty]
  rfl

end Reader

namespace Program

open Reader (Isolated Cursor Recorded Settles statements attempt statement)
open Grammar (Statement Statements)

/-- The codes of what a reading reports. -/
def codes : Except Rejection Program → List String
  | .ok _ => []
  | .error rejection => rejection.diagnostics.map (·.cause.code)

/-- The statements that a reading returns. -/
def statementsOf : Except Rejection Program → List Stmt
  | .ok program => program
  | .error _ => []

/-- A segment that is one statement to its last token.  No end marker stands in it, since the tokens
behind one belong to no statement. -/
structure IsStatement (segment : List Token) : Prop where
  noMarker : ∀ token ∈ segment, token.kind ≠ .endOfInput
  reads : ∃ statement, read segment = .ok [statement]

/-- A segment with a fault that stays in it. -/
structure IsFaulty (segment : List Token) : Prop where
  isolated : Isolated segment
  refused : ∃ rejection, read segment = .error rejection

/-- What a reading reports is what was recorded when it ends. -/
theorem codes_read {tokens : List Token} {last : Token} {program : Program} {after : Cursor}
    (equation : statements (tokens.length + 1) (.start tokens last) = .ok program after) :
    codes (read tokens) = after.diagnostics.map (·.cause.code) ∧
      (after.diagnostics = [] → read tokens = .ok program) := by
  rw [read_eq last equation]
  split
  · next empty => exact ⟨by rw [List.isEmpty_iff.1 empty]; rfl, fun _ => rfl⟩
  · next recorded => exact ⟨rfl, fun empty => absurd (List.isEmpty_iff.2 empty) recorded⟩

/-- Alone, an isolated segment reports what it records as a statement. -/
theorem codes_of_settles {segment : List Token} (isolated : Isolated segment) {causes : List Cause}
    (settles : ∀ (cursor : Cursor) (others : List Token), cursor.rest = segment ++ others →
      Settles cursor others causes (statement cursor)) :
    codes (read segment) = causes.map (·.code) := by
  obtain ⟨inner, semicolon, rfl, _⟩ := isolated.ends
  let start : Cursor := .start (inner ++ [semicolon]) semicolon
  obtain ⟨value?, after, attempted, finished, new, recorded, rfl⟩ :=
    (settles start [] (by simp [start, Cursor.start])).attempt (by simp [start, Cursor.start])
  have length : (inner ++ [semicolon]).length = inner.length + 1 := List.length_append
  have returns : statements ((inner ++ [semicolon]).length + 1) start = .ok _ after :=
    Reader.statements_step (by simp [start, Cursor.start])
      (fun token member => isolated.noMarker token (List.mem_of_mem_head? member)) attempted
      (length ▸ Reader.statements_nil inner.length finished)
  have reports := (codes_read returns).1
  rw [recorded] at reports
  simpa [start, Cursor.start, Function.comp_def] using reports

theorem IsStatement.derived {segment : List Token} (complete : IsStatement segment) :
    ∃ value, read segment = .ok [value] ∧ Statement segment value := by
  obtain ⟨value, reads⟩ := complete.reads
  refine ⟨value, reads, ?_⟩
  cases statements_of_isTreeOf complete.noMarker (read_eq_ok_iff.1 reads) with
  | cons holds none =>
      cases none
      simpa using holds

/-- A segment does not begin with `else`. -/
theorem ahead_segments {segments : List (List Token)}
    (each : ∀ segment ∈ segments, IsStatement segment ∨ IsFaulty segment) :
    Reader.Ahead (· ≠ .keyword .elseWord) segments.flatten := by
  cases segments with
  | nil => exact fun token member => by cases member
  | cons segment segments =>
      rw [List.flatten_cons]
      rcases each segment (List.mem_cons_self ..) with complete | faulty
      · obtain ⟨value, _, derived⟩ := complete.derived
        exact Reader.ahead_statement derived (fun _ => Reader.opensStatement_ne_else)
          fun _ => Reader.startsExpression_ne_else
      · obtain ⟨inner, semicolon, rfl, _⟩ := faulty.isolated.ends
        obtain ⟨first, rest, shape⟩ := List.exists_cons_of_ne_nil
          (show inner ++ [semicolon] ≠ [] by simp)
        rw [shape, List.cons_append]
        exact Reader.ahead_cons.2 (faulty.isolated.noElse first (by simp [shape]))

theorem noMarker_of_segment {segment : List Token}
    (each : IsStatement segment ∨ IsFaulty segment) :
    ∀ token ∈ segment, token.kind ≠ .endOfInput :=
  each.elim (·.noMarker) (·.isolated.noMarker)

theorem ne_nil_of_segment {segment : List Token} (each : IsStatement segment ∨ IsFaulty segment) :
    segment ≠ [] := by
  rcases each with complete | faulty
  · obtain ⟨value, _, derived⟩ := complete.derived
    obtain ⟨first, rest, rfl⟩ := Reader.statement_cons derived
    exact List.cons_ne_nil first rest
  · obtain ⟨inner, semicolon, rfl, _⟩ := faulty.isolated.ends
    simp

/-- Reading comes from the beginning of a segment to its end, and reports what the segment reports
alone. -/
theorem attempt_segment {segment others : List Token}
    (each : IsStatement segment ∨ IsFaulty segment)
    (ahead : Reader.Ahead (· ≠ .keyword .elseWord) others) {cursor : Cursor}
    (split : cursor.rest = segment ++ others) :
    ∃ value? middle causes, attempt statement cursor = .ok value? middle ∧ middle.rest = others ∧
      Recorded cursor middle causes ∧ causes.map (·.code) = codes (read segment) ∧
      (IsStatement segment → value?.toList = statementsOf (read segment)) := by
  have present := ne_nil_of_segment each
  rcases each with complete | faulty
  · obtain ⟨value, reads, derived⟩ := complete.derived
    obtain ⟨last, attempted⟩ :=
      (Reader.statement_returns derived ahead).attempt cursor.previous cursor.diagnostics
    rw [← split] at attempted
    refine ⟨some value, _, [], attempted, rfl, ⟨[], by simp, rfl⟩, ?_, fun _ => ?_⟩
    · rw [reads]
      rfl
    · rw [reads]
      rfl
  · obtain ⟨causes, settles⟩ := faulty.isolated.settles
    have fewer : others.length < cursor.rest.length := by
      have := List.length_pos_of_ne_nil present
      rw [split, List.length_append]
      omega
    obtain ⟨value?, middle, attempted, finished, recorded⟩ := (settles cursor others split).attempt fewer
    refine ⟨value?, middle, causes, attempted, finished, recorded,
      (codes_of_settles faulty.isolated settles).symm, ?_⟩
    -- A faulty segment is refused, so it is no statement.
    rintro ⟨_, value, reads⟩
    obtain ⟨rejection, refused⟩ := faulty.refused
    rw [reads] at refused
    cases refused

/-- Reading segments one after another reports for each of them what it reports alone. -/
theorem statements_segments (segments : List (List Token)) (fuel : Nat) (cursor : Cursor)
    (each : ∀ segment ∈ segments, IsStatement segment ∨ IsFaulty segment)
    (split : cursor.rest = segments.flatten) (enough : cursor.rest.length < fuel) :
    ∃ program after causes, statements fuel cursor = .ok program after ∧
      Recorded cursor after causes ∧
      causes.map (·.code) = segments.flatMap (fun segment => codes (read segment)) ∧
      ((∀ segment ∈ segments, IsStatement segment) →
        program = segments.flatMap fun segment => statementsOf (read segment)) := by
  induction segments generalizing fuel cursor with
  | nil =>
      obtain ⟨fuel, rfl⟩ : ∃ left, fuel = left + 1 := ⟨fuel - 1, by omega⟩
      exact ⟨[], cursor, [], Reader.statements_nil fuel split, ⟨[], by simp, rfl⟩, rfl, fun _ => rfl⟩
  | cons segment segments inductionHypothesis =>
      obtain ⟨fuel, rfl⟩ : ∃ left, fuel = left + 1 := ⟨fuel - 1, by omega⟩
      obtain ⟨first, others⟩ := List.forall_mem_cons.1 each
      rw [List.flatten_cons] at split
      have present := List.length_pos_of_ne_nil (ne_nil_of_segment first)
      have length : cursor.rest.length = segment.length + segments.flatten.length := by
        rw [split, List.length_append]
      have noMarker : Reader.Ahead (· ≠ .endOfInput) cursor.rest := by
        obtain ⟨token, rest, rfl⟩ := List.exists_cons_of_ne_nil (ne_nil_of_segment first)
        rw [split, List.cons_append]
        exact Reader.ahead_cons.2 (noMarker_of_segment first token (List.mem_cons_self ..))
      obtain ⟨value?, middle, causes, attempted, finished, recorded, codesFirst, complete⟩ :=
        attempt_segment first (ahead_segments others) split
      obtain ⟨program, after, more, returns, recordedMore, codesOthers, completeOthers⟩ :=
        inductionHypothesis fuel middle others finished (by rw [finished]; omega)
      refine ⟨value?.toList ++ program, after, causes ++ more,
        Reader.statements_step (List.ne_nil_of_length_pos (by omega)) noMarker attempted returns,
        recorded.trans recordedMore, ?_, fun all => ?_⟩
      · rw [List.map_append, List.flatMap_cons, codesFirst, codesOthers]
      · obtain ⟨isFirst, areOthers⟩ := List.forall_mem_cons.1 all
        rw [List.flatMap_cons, complete isFirst, completeOthers areOthers]

end Program

namespace TokenStream

open Program (codes statementsOf IsStatement IsFaulty)
open Reader (Cursor)

/-- What is reported for segments in a row is what the faulty ones report alone, in order.  If none
is faulty, the statements are returned in order. -/
theorem recovery_isolates_segments (segments : List (List Token)) (last : Token)
    (marks : last.kind = .endOfInput)
    (each : ∀ segment ∈ segments, IsStatement segment ∨ IsFaulty segment) :
    ∃ result, (ofList? (segments.flatten ++ [last])).map (fun stream => Program.read stream.body) =
        some result ∧
      codes result = segments.flatMap (fun segment => codes (Program.read segment)) ∧
      ((∀ segment ∈ segments, IsStatement segment) →
        result = .ok (segments.flatMap fun segment => statementsOf (Program.read segment))) := by
  refine ⟨Program.read segments.flatten, by rw [ofList?_append _ marks]; rfl, ?_⟩
  obtain ⟨program, after, causes, returns, ⟨new, recorded, rfl⟩, codesEq, complete⟩ :=
    Program.statements_segments segments (segments.flatten.length + 1)
      (.start segments.flatten last) each rfl (Nat.lt_succ_self _)
  obtain ⟨reports, returned⟩ := Program.codes_read returns
  have diagnostics : after.diagnostics = new := by simpa [Cursor.start] using recorded
  refine ⟨?_, fun all => ?_⟩
  · rw [reports, diagnostics, ← codesEq, List.map_map]
    rfl
  · rw [← complete all]
    refine returned ?_
    -- No segment reports anything.
    have none : new.map (·.cause.code) = [] := by
      rw [List.map_map] at codesEq
      refine codesEq.trans (List.flatMap_eq_nil_iff.2 fun segment member => ?_)
      obtain ⟨value, reads⟩ := (all segment member).reads
      rw [reads]
      rfl
    rw [diagnostics, List.map_eq_nil_iff.1 none]

/-- An invalid target, a complete statement and a missing name in a row are reported in order. -/
theorem recovery_isolates_segments_mixed :
    let token (kind : Kind) (lexeme : String) : Token := ⟨kind, lexeme, .origin, none⟩
    let target := [token .number "1", token (.symbol .equal) "=", token .number "2",
      token (.symbol .semicolon) ";"]
    let complete := [token .identifier "x", token (.symbol .semicolon) ";"]
    let nameless := [token (.keyword .letWord) "let", token (.symbol .equal) "=",
      token (.symbol .semicolon) ";"]
    ∃ result, (ofList? ([target, complete, nameless].flatten ++ [token .endOfInput ""])).map
        (fun stream => Program.read stream.body) = some result ∧
      codes result = ["S009", "S007"] := by
  intro token target complete nameless
  have isolatedTarget : IsFaulty target :=
    ⟨⟨⟨target.dropLast, _, rfl, rfl, by decide⟩, by decide, by decide, by decide, by decide⟩,
      _, rfl⟩
  have isolatedNameless : IsFaulty nameless :=
    ⟨⟨⟨nameless.dropLast, _, rfl, rfl, by decide⟩, by decide, by decide, by decide, by decide⟩,
      _, rfl⟩
  have isComplete : IsStatement complete := ⟨by decide, _, rfl⟩
  obtain ⟨result, reads, same, _⟩ := recovery_isolates_segments [target, complete, nameless]
    (token .endOfInput "") rfl (by
      intro segment member
      simp only [List.mem_cons, List.not_mem_nil, or_false] at member
      rcases member with rfl | rfl | rfl
      · exact .inr isolatedTarget
      · exact .inl isComplete
      · exact .inr isolatedNameless)
  exact ⟨result, reads, same.trans rfl⟩

end TokenStream

end CheckedScript
