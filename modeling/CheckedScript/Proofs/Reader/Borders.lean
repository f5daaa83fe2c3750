import CheckedScript.Proofs.Reader.Locality
import CheckedScript.Proofs.Reader.StatementSoundness

/-!
# Faults within a statement stay there

A statement that is no block ends at a semicolon.  Its reader consumes a stem, which holds no
semicolon, and then requires the semicolon; a reader of a statement with a block requires an
opening brace there instead.  If neither another statement nor a brace begins before the
semicolon, then whatever goes wrong, reading resumes right behind it, and by locality the causes
recorded up to there do not depend on what follows.
-/

namespace CheckedScript

namespace Reader

variable {α β : Type}

/-- Kinds that are skipped when reading resumes. -/
def Plain (kind : Kind) : Prop :=
  kind ≠ .symbol .semicolon ∧ kind.startsStatement = false ∧ kind ≠ .endOfInput

theorem dropToBorder_plain (previous : Token) {inner others : List Token} {semicolon : Token}
    (plain : ∀ token ∈ inner, Plain token.kind) (isSemicolon : semicolon.kind = .symbol .semicolon) :
    Cursor.dropToBorder previous (inner ++ semicolon :: others) = (semicolon, others) := by
  induction inner generalizing previous with
  | nil => rw [List.nil_append, Cursor.dropToBorder, if_pos isSemicolon]
  | cons token inner inductionHypothesis =>
      obtain ⟨other, noStart, noMarker⟩ := plain token (List.mem_cons_self ..)
      rw [List.cons_append, Cursor.dropToBorder, if_neg other, if_neg (by simp [noStart, noMarker])]
      exact inductionHypothesis token fun token member =>
        plain token (List.mem_cons_of_mem _ member)

/-- Reading resumes right behind the next semicolon. -/
theorem resume_plain {cursor : Cursor} {inner others : List Token} {semicolon : Token} {before : Nat}
    (split : cursor.rest = inner ++ semicolon :: others)
    (plain : ∀ token ∈ inner, Plain token.kind) (isSemicolon : semicolon.kind = .symbol .semicolon)
    (fewer : others.length < before) : (cursor.resume before).rest = others := by
  simp only [Cursor.resume, split, dropToBorder_plain _ plain isSemicolon]
  rw [if_neg (by omega)]

/-- A run on a statement whose semicolon stands before `others`: it has consumed that semicolon,
or it has failed before it where only plain tokens are left. -/
inductive Settles (start : Cursor) (others : List Token) (causes : List Cause) :
    EStateM.Result Stop Cursor α → Prop
  | ok {value : α} {after : Cursor} :
      after.rest = others → Recorded start after causes → Settles start others causes (.ok value after)
  | failed {diagnostic : Diagnostic} {after : Cursor} {inner : List Token} {semicolon : Token} :
      after.rest = inner ++ semicolon :: others → (∀ token ∈ inner, Plain token.kind) →
        semicolon.kind = .symbol .semicolon → Recorded start (after.record diagnostic) causes →
        Settles start others causes (.error (.failed diagnostic) after)

/-- However such a run ends, reading goes on behind the semicolon. -/
theorem Settles.attempt {reader : Reader α} {cursor : Cursor} {others : List Token}
    {causes : List Cause} (settles : Settles cursor others causes (reader cursor))
    (fewer : others.length < cursor.rest.length) :
    ∃ value? after, attempt reader cursor = .ok value? after ∧ after.rest = others ∧
      Recorded cursor after causes := by
  rw [Reader.attempt]
  generalize reader cursor = result at settles
  cases settles with
  | ok rest recorded => exact ⟨_, _, rfl, rest, recorded⟩
  | failed split plain isSemicolon recorded =>
      refine ⟨_, _, rfl, resume_plain split plain isSemicolon fewer, ?_⟩
      rw [Recorded, Cursor.resume_diagnostics]
      exact recorded

/-- Tokens without a semicolon that begin a list end before its first semicolon. -/
theorem split_before_semicolon {used left body others : List Token} {semicolon : Token}
    (same : used ++ left = body ++ semicolon :: others) (inner : ∀ token ∈ used, Inner token.kind)
    (isSemicolon : semicolon.kind = .symbol .semicolon) :
    ∃ more, body = used ++ more ∧ left = more ++ semicolon :: others := by
  rcases List.append_eq_append_iff.1 same with ⟨more, rfl, split⟩ | ⟨more, rfl, split⟩
  · exact ⟨more, rfl, split⟩
  · cases more with
    | nil => exact ⟨[], by simp, by simpa using split.symm⟩
    | cons token more =>
        obtain ⟨rfl, _⟩ := List.cons.inj split
        exact absurd isSemicolon (inner _ (by simp)).1

theorem expect_apply (kind : Kind) (cursor : Cursor) :
    (∃ token rest, cursor.rest = token :: rest ∧ token.kind = kind ∧
        expect kind cursor = .ok token (cursor.past token rest)) ∨
      ((∀ token ∈ cursor.rest.head?, token.kind ≠ kind) ∧
        expect kind cursor = .error
          (.failed { cause := .missingToken kind.name, token := cursor.previous }) cursor) := by
  rw [expect, bind_apply]
  rcases accept?_apply kind cursor with ⟨token, rest, split, same, equation⟩ | ⟨other, equation⟩
  · exact .inl ⟨token, rest, split, same, by rw [equation]; rfl⟩
  · exact .inr ⟨other, by rw [equation]; rfl⟩

theorem Recorded.failed {start after : Cursor} {causes : List Cause} {diagnostic : Diagnostic}
    (recorded : Recorded start after causes) :
    Recorded start (after.record diagnostic) (causes ++ [diagnostic.cause]) := by
  obtain ⟨new, same, rfl⟩ := recorded
  exact ⟨new ++ [diagnostic], by simp [Cursor.record, same], by simp⟩

/-- A run that has steps left finishes. -/
theorem finishes_of_not_exhausts {result : EStateM.Result Stop Cursor α}
    (ends : ¬ Exhausts result) : ∃ outcome after, Finishes result outcome after :=
  match result, ends with
  | .ok value after, _ => ⟨.ok value, after, .ok⟩
  | .error (.failed diagnostic) after, _ => ⟨.error diagnostic.cause, after, .failed⟩
  | .error .exhausted _, ends => absurd .intro ends

theorem Recorded.trans {start middle after : Cursor} {causes others : List Cause}
    (first : Recorded start middle causes) (second : Recorded middle after others) :
    Recorded start after (causes ++ others) := by
  obtain ⟨new, recorded, rfl⟩ := first
  obtain ⟨more, recordedMore, rfl⟩ := second
  exact ⟨new ++ more, by rw [recordedMore, recorded, List.append_assoc], by simp⟩

theorem Settles.bind {first : Reader α} {next : α → Reader β} {cursor middle : Cursor}
    {others : List Token} {causes more : List Cause} {value : α}
    (finishes : Finishes (first cursor) (.ok value) middle)
    (recorded : Recorded cursor middle causes)
    (settles : Settles middle others more (next value middle)) :
    Settles cursor others (causes ++ more) ((first >>= next) cursor) := by
  rw [bind_apply]
  generalize first cursor = result at finishes
  cases finishes
  dsimp only
  generalize next value middle = result at settles ⊢
  cases settles with
  | ok rest later => exact .ok rest (recorded.trans later)
  | failed split plain isSemicolon later => exact .failed split plain isSemicolon (recorded.trans later)

/-- Where a local reader that consumes no semicolon ends before a semicolon, and what it records
there, does not depend on what stands behind the semicolon. -/
theorem Local.before_semicolon {stem : Reader α} (isLocal : Local Inner stem stem)
    (body : List Token) {semicolon : Token} (isSemicolon : semicolon.kind = .symbol .semicolon) :
    ∃ outcome causes used more, body = used ++ more ∧
      ∀ (cursor : Cursor) (others : List Token), cursor.rest = body ++ semicolon :: others →
        ¬ Exhausts (stem cursor) →
        ∃ last, Finishes (stem cursor) outcome last ∧ last.rest = more ++ semicolon :: others ∧
          Recorded cursor last causes := by
  by_cases runs : ∃ (cursor : Cursor) (others : List Token),
      cursor.rest = body ++ semicolon :: others ∧ ¬ Exhausts (stem cursor)
  · -- One run of the stem decides all others.
    obtain ⟨base, behind, split, ends⟩ := runs
    obtain ⟨outcome, middle, finishes⟩ := finishes_of_not_exhausts ends
    obtain ⟨used, causes, advance, allowed, alike⟩ := isLocal _ _ _ finishes
    obtain ⟨more, rfl, left⟩ :=
      split_before_semicolon (advance.consumed.symm.trans split) allowed isSemicolon
    refine ⟨outcome, causes, used, more, rfl, fun cursor others split ends => ?_⟩
    have ahead : (more ++ semicolon :: others).head? = middle.rest.head? := by
      rw [left]
      cases more <;> rfl
    rcases alike cursor _ (by rw [split, List.append_assoc]) ahead with
      exhausts | ⟨last, finishes, rest, moved⟩
    · exact absurd exhausts ends
    · exact ⟨last, finishes, rest, moved.recorded⟩
  · exact ⟨.error .missingExpression, [], [], body, rfl, fun cursor others split ends =>
      absurd ⟨cursor, others, split, ends⟩ runs⟩

/-- Among plain tokens before a semicolon, a closing semicolon is met only at their end and an
opening brace never. -/
theorem expect_settles {closer : Kind}
    (closes : closer = .symbol .semicolon ∨ closer = .symbol .leftBrace) {more : List Token}
    {semicolon : Token} (plain : ∀ token ∈ more, Plain token.kind)
    (isSemicolon : semicolon.kind = .symbol .semicolon) :
    ∃ causes, ∀ (next : Token → Reader β) (cursor : Cursor) (others : List Token),
      (closer = .symbol .semicolon → ∀ token, ∃ result, next token = pure result) →
      cursor.rest = more ++ semicolon :: others →
        Settles cursor others causes ((expect closer >>= next) cursor) := by
  have fails : (∀ token ∈ (more ++ [semicolon]).head?, token.kind ≠ closer) →
      ∀ (next : Token → Reader β) (cursor : Cursor) (others : List Token),
      cursor.rest = more ++ semicolon :: others →
        Settles cursor others [.missingToken closer.name] ((expect closer >>= next) cursor) := by
    intro other next cursor others split
    rw [bind_apply]
    rcases expect_apply closer cursor with ⟨token, rest, found, same, _⟩ | ⟨_, equation⟩
    · refine absurd same (other token ?_)
      rw [found] at split
      cases more with
      | nil => simpa using (List.cons.inj split).1.symm
      | cons first more => simpa using (List.cons.inj split).1.symm
    · rw [equation]
      exact .failed split plain isSemicolon
        (Recorded.failed (⟨[], by simp, rfl⟩ : Recorded _ _ []))
  cases more with
  | cons first more =>
      obtain ⟨other, noStart, _⟩ := plain first (List.mem_cons_self ..)
      refine ⟨_, fun next cursor others _ split => fails ?_ next cursor others split⟩
      rcases closes with rfl | rfl
      · simpa using other
      · simp only [List.cons_append, List.head?_cons, Option.mem_some_iff, forall_eq']
        intro same
        rw [same] at noStart
        cases noStart
  | nil =>
      rcases closes with rfl | rfl
      · refine ⟨[], fun next cursor others ends split => ?_⟩
        obtain ⟨result, returns⟩ := ends rfl semicolon
        rw [bind_apply]
        rcases expect_apply (.symbol .semicolon) cursor with
          ⟨token, rest, found, _, equation⟩ | ⟨other, _⟩
        · rw [split] at found
          obtain ⟨rfl, rfl⟩ := List.cons.inj found
          rw [equation]
          dsimp only
          rw [returns]
          exact .ok rfl ⟨[], by simp [Cursor.past], rfl⟩
        · exact absurd isSemicolon (other semicolon (by simp [split]))
      · exact ⟨_, fun next cursor others _ split => fails (by simp [isSemicolon]) next cursor others split⟩

/-- Readers with any bound that read a stem and then require a semicolon, or an opening brace. -/
def Stemmed (reader : Nat → Reader β) : Prop :=
  ∃ (α : Type) (stem : Reader α) (closer : Kind), Local Inner stem stem ∧
    (closer = .symbol .semicolon ∨ closer = .symbol .leftBrace) ∧
    ∀ fuel, ∃ next : α → Token → Reader β,
      (closer = .symbol .semicolon → ∀ value token, ∃ result, next value token = pure result) ∧
      reader fuel = stem >>= fun value => expect closer >>= next value

/-- What is recorded on plain tokens up to a semicolon depends on these tokens only. -/
theorem Stemmed.settles {reader : Nat → Reader β} (stemmed : Stemmed reader) {body : List Token}
    {semicolon : Token} (plain : ∀ token ∈ body, Plain token.kind)
    (isSemicolon : semicolon.kind = .symbol .semicolon) :
    ∃ causes, ∀ (fuel : Nat) (cursor : Cursor) (others : List Token),
      cursor.rest = body ++ semicolon :: others → ¬ Exhausts (reader fuel cursor) →
        Settles cursor others causes (reader fuel cursor) := by
  obtain ⟨γ, stem, closer, isLocal, closes, shape⟩ := stemmed
  obtain ⟨outcome, causes, used, more, rfl, stems⟩ := isLocal.before_semicolon body isSemicolon
  have plainMore : ∀ token ∈ more, Plain token.kind := fun token member =>
    plain token (List.mem_append_right _ member)
  have runs : ∀ (fuel : Nat) (cursor : Cursor) (others : List Token),
      cursor.rest = used ++ more ++ semicolon :: others → ¬ Exhausts (reader fuel cursor) →
      ∃ last, Finishes (stem cursor) outcome last ∧ last.rest = more ++ semicolon :: others ∧
        Recorded cursor last causes := by
    intro fuel cursor others split ends
    obtain ⟨next, _, equation⟩ := shape fuel
    exact stems cursor others split fun exhausts => ends (equation ▸ exhausts.bind_first)
  cases outcome with
  | error cause =>
      refine ⟨causes ++ [cause], fun fuel cursor others split ends => ?_⟩
      obtain ⟨last, finishes, rest, recorded⟩ := runs fuel cursor others split ends
      obtain ⟨next, _, equation⟩ := shape fuel
      have finishes : Finishes (reader fuel cursor) (.error cause) last :=
        equation ▸ finishes.bind_failed
      generalize reader fuel cursor = result at finishes
      cases finishes
      exact .failed rest plainMore isSemicolon recorded.failed
  | ok value =>
      obtain ⟨others, closing⟩ := expect_settles (β := β) closes plainMore isSemicolon
      refine ⟨causes ++ others, fun fuel cursor behind split ends => ?_⟩
      obtain ⟨last, finishes, rest, recorded⟩ := runs fuel cursor behind split ends
      obtain ⟨next, pureNext, equation⟩ := shape fuel
      rw [equation]
      exact .bind finishes recorded (closing (next value) last behind (fun same => pureNext same value) rest)

theorem expect_bind {kind : Kind} (next : Token → Reader α) {cursor : Cursor} {token : Token}
    {rest : List Token} (split : cursor.rest = token :: rest) (same : token.kind = kind) :
    (expect kind >>= next) cursor = next token (cursor.past token rest) := by
  rw [bind_apply]
  rcases expect_apply kind cursor with ⟨first, others, found, _, equation⟩ | ⟨other, _⟩
  · rw [split] at found
    obtain ⟨rfl, rfl⟩ := List.cons.inj found
    rw [equation]
  · exact absurd same (other token (by simp [split]))

/-- A block requires an opening brace first. -/
theorem blockWithin_opens (fuel : Nat) :
    ∃ next, blockWithin (fuel + 1) = expect (.symbol .leftBrace) >>= next :=
  ⟨_, by rw [blockWithin]⟩

/-- A stem and a block behind it. -/
theorem Stemmed.ofBlock {stem : Reader α} (isLocal : Local Inner stem stem) (depth : Nat → Nat)
    (following : Nat → α → Block → Reader β) :
    Stemmed fun fuel =>
      stem >>= fun value => blockWithin (depth fuel + 1) >>= following fuel value := by
  refine ⟨α, stem, _, isLocal, .inr rfl, fun fuel => ?_⟩
  obtain ⟨next, opens⟩ := blockWithin_opens (depth fuel)
  refine ⟨fun value token => next token >>= following fuel value, fun same => (by cases same), ?_⟩
  simp only [opens, bind_assoc]

/-- A stem and a semicolon behind it. -/
theorem Stemmed.ofSemicolon {reader : Reader β} {stem : Reader α} (isLocal : Local Inner stem stem)
    (result : α → β)
    (shape : reader = stem >>= fun value => expect (.symbol .semicolon) >>= fun _ =>
      pure (result value)) :
    Stemmed fun _ => reader :=
  ⟨α, stem, _, isLocal, .inl rfl, fun _ => ⟨fun value _ => pure (result value),
    fun _ value _ => ⟨result value, rfl⟩, shape⟩⟩

theorem expressionStatement_stemmed : Stemmed fun _ => expressionStatement :=
  .ofSemicolon expression_local .expression rfl

theorem returnRest_stemmed (keyword : Token) : Stemmed fun _ => returnRest keyword :=
  .ofSemicolon returnStem_local (Stmt.giveBack keyword) (returnRest_eq keyword)

theorem letRest_stemmed : Stemmed fun _ => letRest :=
  .ofSemicolon letStem_local id letRest_eq

/-- What follows the block of a conditional. -/
def alternativeWithin (keyword : Token) (fuel : Nat) (condition : Expr) (consequent : Block) :
    Reader Stmt := do
  match ← accept? (.keyword .elseWord) with
  | none => return .ifThen keyword condition consequent
  | some _ =>
      if ← nextIs (.keyword .ifWord) then
        return .ifElse keyword condition consequent (← ifWithin (fuel + 1))
      else
        return .ifElse keyword condition consequent (.block (← blockWithin (fuel + 1)))

/-- What follows the word that opens a statement: a stem, and then a semicolon or a block. -/
theorem statementWithin_word (token : Token) {word : Keyword}
    (isWord : token.kind = .keyword word) (starts : (Kind.keyword word).startsStatement) :
    ∃ reader : Nat → Reader Stmt, Stemmed reader ∧
      ∀ (fuel : Nat) (cursor : Cursor) (rest : List Token), cursor.rest = token :: rest →
        statementWithin (fuel + 3) cursor = reader fuel (cursor.past token rest) := by
  -- The word itself is consumed; what is left is to bring what follows into the form of a stem.
  have opened : ∀ (cursor : Cursor) (rest : List Token), cursor.rest = token :: rest →
      cursor.rest.head?.map (·.kind) = some (.keyword word) := by
    intro cursor rest split
    rw [split, List.head?_cons, Option.map_some, isWord]
  cases word with
  | letWord =>
      refine ⟨_, letRest_stemmed, fun fuel cursor rest split => ?_⟩
      rw [statementWithin, nextKind?_bind, opened cursor rest split]
      exact expect_bind _ split isWord
  | funWord =>
      refine ⟨_, .ofBlock functionHeader_local (· + 1)
        (fun _ header body => pure (.function header.1 header.2 body)),
        fun fuel cursor rest split => ?_⟩
      rw [statementWithin, nextKind?_bind, opened cursor rest split]
      refine (expect_bind _ split isWord).trans ?_
      simp only [functionHeader, bind_assoc, pure_bind]
  | ifWord =>
      refine ⟨_, .ofBlock expression_local id (alternativeWithin token),
        fun fuel cursor rest split => ?_⟩
      rw [statementWithin, nextKind?_bind, opened cursor rest split]
      dsimp only
      rw [ifWithin]
      exact expect_bind _ split isWord
  | whileWord =>
      refine ⟨_, .ofBlock expression_local (· + 1)
        (fun _ condition body => pure (.whileLoop token condition body)),
        fun fuel cursor rest split => ?_⟩
      rw [statementWithin, nextKind?_bind, opened cursor rest split]
      exact expect_bind _ split isWord
  | forWord =>
      refine ⟨_, .ofBlock forStem_local (· + 1)
        (fun _ header body => pure (.forLoop header.1 header.2 body)),
        fun fuel cursor rest split => ?_⟩
      rw [statementWithin, nextKind?_bind, opened cursor rest split]
      refine (expect_bind _ split isWord).trans ?_
      simp only [forStem, forHeader, bind_assoc, pure_bind]
  | returnWord =>
      refine ⟨_, returnRest_stemmed token, fun fuel cursor rest split => ?_⟩
      rw [statementWithin, nextKind?_bind, opened cursor rest split]
      exact expect_bind _ split isWord
  | _ => cases starts

end Reader

end CheckedScript
