import CheckedScript.Proofs.Reader.Acceptance
import CheckedScript.Proofs.Reader.StatementCompleteness
import CheckedScript.Proofs.Reader.Stopping

/-!
# Loose sentences are accepted

The readers of statements and whole programs that stop at the first fault go through the phrases
of the grammar with any assignment target.  So does the reader of programs, which then finds no
token left.
-/

namespace CheckedScript

namespace Reader

open Grammar (TypePhrase Parameters)
open Grammar.Loose

theorem letRest_accepts {name semicolon equals : Token} {tokens rest : List Token}
    (isName : name.kind = .identifier) (isEqual : equals.kind = .symbol .equal)
    (holds : Expression tokens) (isSemicolon : semicolon.kind = .symbol .semicolon) :
    Accepts letRest Anything (name :: equals :: tokens ++ [semicolon]) rest := by
  rw [letRest]
  refine Accepts.expectName isName (Accepts.skip? (ahead_cons.2 (by simp [isEqual])) ?_)
  refine Accepts.accept? isEqual ((expression_accepts holds ?_).bind fun value _ => ?_)
  · exact ahead_cons.2 (isSemicolon ▸ by decide)
  · exact Accepts.expect isSemicolon (.pure trivial)

theorem letRest_accepts_typed {name colon equals semicolon : Token}
    {typeTokens tokens rest : List Token} {declared : WrittenType}
    (isName : name.kind = .identifier) (isColon : colon.kind = .symbol .colon)
    (typed : TypePhrase typeTokens declared) (isEqual : equals.kind = .symbol .equal)
    (holds : Expression tokens) (isSemicolon : semicolon.kind = .symbol .semicolon) :
    Accepts letRest Anything (name :: colon :: typeTokens ++ equals :: tokens ++ [semicolon])
      rest := by
  rw [letRest, List.append_assoc]
  refine Accepts.expectName isName (Accepts.accept? isColon ?_)
  refine Accepts.after _ ((writtenType_returns typed).map some) ?_
  refine Accepts.accept? isEqual ((expression_accepts holds ?_).bind fun value _ => ?_)
  · exact ahead_cons.2 (isSemicolon ▸ by decide)
  · exact Accepts.expect isSemicolon (.pure trivial)

theorem returnRest_accepts_unit {keyword semicolon : Token} {rest : List Token}
    (isSemicolon : semicolon.kind = .symbol .semicolon) :
    Accepts (returnRest keyword) Anything [semicolon] rest :=
  .ofReturns (returnRest_returns_unit isSemicolon) trivial

theorem returnRest_accepts {keyword semicolon : Token} {tokens rest : List Token}
    (holds : Expression tokens) (isSemicolon : semicolon.kind = .symbol .semicolon) :
    Accepts (returnRest keyword) Anything (tokens ++ [semicolon]) rest := by
  rw [returnRest]
  refine Accepts.nextIs ?_
  obtain ⟨first, others, shape, starts⟩ := looseExpression_head holds
  have other : first.kind ≠ .symbol .semicolon := fun same => by
    simp [same, startsExpression] at starts
  rw [if_neg (by simp [shape, other])]
  have ends : Ahead Ends ([semicolon] ++ rest) := ahead_cons.2 (isSemicolon ▸ by decide)
  have value : Accepts (some <$> expression) Anything tokens ([semicolon] ++ rest) :=
    (expression_accepts holds ends).map fun _ _ => trivial
  exact value.bind fun _ _ => Accepts.expect isSemicolon (.pure trivial)

theorem bounds_accepts {used rest : List Token} (holds : Range used)
    (opened : Ahead (· = .symbol .leftBrace) rest) : Accepts bounds Anything used rest := by
  have ends : Ahead Ends rest := opened.mono fun kind same => same ▸ by decide
  rw [bounds]
  cases holds with
  | between first isDots second =>
      refine (expression_accepts first (ahead_cons.2 (isDots ▸ by decide))).bind fun start _ => ?_
      refine Accepts.expect isDots ((expression_accepts second ends).bindLast fun stop _ => ?_)
      exact Accepts.skip? (opened.mono fun kind same => by simp [same]) (.pure trivial)
  | stepped first isDots second areDots third =>
      rw [List.append_assoc]
      refine (expression_accepts first (ahead_cons.2 (isDots ▸ by decide))).bind fun start _ => ?_
      refine Accepts.expect isDots ((expression_accepts second ?_).bind fun step _ => ?_)
      · exact ahead_cons.2 (areDots ▸ by decide)
      · refine Accepts.accept? areDots ((expression_accepts third ends).bindLast fun stop _ => ?_)
        exact .pure trivial

theorem expressionStatement_accepts {semicolon : Token} {tokens rest : List Token}
    (holds : Expression tokens) (isSemicolon : semicolon.kind = .symbol .semicolon) :
    Accepts expressionStatement Anything (tokens ++ [semicolon]) rest := by
  rw [expressionStatement]
  refine (expression_accepts holds (ahead_cons.2 (isSemicolon ▸ by decide))).bind fun value _ => ?_
  exact Accepts.expect isSemicolon (.pure trivial)

theorem looseBraced_head {tokens : List Token} (braced : Braced tokens) :
    ∃ first rest, tokens = first :: rest ∧ first.kind = .symbol .leftBrace := by
  cases braced with
  | block opens => exact ⟨_, _, rfl, opens⟩

theorem ahead_looseBraced {tokens rest : List Token} (braced : Braced tokens) :
    Ahead (· = .symbol .leftBrace) (tokens ++ rest) := by
  obtain ⟨first, others, rfl, opens⟩ := looseBraced_head braced
  exact ahead_cons.2 opens

theorem ends_looseBraced {tokens rest : List Token} (braced : Braced tokens) :
    Ahead Ends (tokens ++ rest) :=
  (ahead_looseBraced braced).mono fun kind same => same ▸ by decide

theorem looseConditional_head {tokens : List Token} (conditional : Conditional tokens) :
    ∃ first rest, tokens = first :: rest ∧ first.kind = .keyword .ifWord := by
  cases conditional with
  | alone isIf | orBlock isIf | orConditional isIf => exact ⟨_, _, rfl, isIf⟩

/-- A statement is an expression with a semicolon, or its first token tells which one it is. -/
theorem looseStatement_head {tokens : List Token} (holds : Statement tokens) :
    (∃ first rest, tokens = first :: rest ∧ opensStatement first.kind = true) ∨
      ∃ used semicolon, tokens = used ++ [semicolon] ∧ Expression used ∧
        semicolon.kind = .symbol .semicolon := by
  cases holds with
  | letPlain isWord | letTyped isWord | function isWord | whileLoop isWord | forLoop isWord
  | giveUnit isWord | giveValue isWord => exact .inl ⟨_, _, rfl, by rw [isWord]; rfl⟩
  | block braced =>
      obtain ⟨first, rest, rfl, opens⟩ := looseBraced_head braced
      exact .inl ⟨first, rest, rfl, by rw [opens]; rfl⟩
  | conditional conditional =>
      obtain ⟨first, rest, rfl, isIf⟩ := looseConditional_head conditional
      exact .inl ⟨first, rest, rfl, by rw [isIf]; rfl⟩
  | expression phrase isSemicolon => exact .inr ⟨_, _, rfl, phrase, isSemicolon⟩

/-- Something that holds of every first token of a statement is ahead of it. -/
theorem ahead_looseStatement {tokens rest : List Token} {holds : Kind → Prop}
    (phrase : Statement tokens) (opening : ∀ kind, opensStatement kind = true → holds kind)
    (starting : ∀ kind, startsExpression kind = true → holds kind) :
    Ahead holds (tokens ++ rest) := by
  rcases looseStatement_head phrase with ⟨first, others, rfl, opens⟩ | ⟨used, _, rfl, isValue, _⟩
  · exact ahead_cons.2 (opening first.kind opens)
  · rw [List.append_assoc]
    exact ahead_looseExpression isValue starting

/-- No statement starts with an end marker. -/
theorem ahead_looseStatement_unmarked {tokens rest : List Token} (phrase : Statement tokens) :
    Ahead (· ≠ .endOfInput) (tokens ++ rest) :=
  ahead_looseStatement phrase (fun kind opens same => by simp [same, opensStatement] at opens)
    fun kind starts same => by simp [same, startsExpression] at starts

theorem looseStatement_cons {tokens : List Token} (holds : Statement tokens) :
    ∃ first rest, tokens = first :: rest := by
  rcases looseStatement_head holds with ⟨first, rest, shape, _⟩ | ⟨used, semicolon, rfl, _⟩
  · exact ⟨first, rest, shape⟩
  · exact List.exists_cons_of_ne_nil (by simp)

/-- Nothing in a block starts with `else`. -/
theorem ahead_body {used rest : List Token} (body : Body used)
    (closed : rest.head?.map (·.kind) = some (.symbol .rightBrace)) :
    Ahead (· ≠ .keyword .elseWord) (used ++ rest) := by
  cases body with
  | nil => exact ahead_of_head closed (by decide)
  | tail isTail => exact ahead_looseExpression isTail fun _ => startsExpression_ne_else
  | cons first others =>
      rw [List.append_assoc]
      exact ahead_looseStatement first (fun _ => opensStatement_ne_else)
        fun _ => startsExpression_ne_else

/-- A statement of a block. -/
inductive Item.IsStatement : Item → Prop
  | intro {statement : Stmt} : Item.IsStatement (.statement statement)

/-- The tail of a block. -/
inductive Item.IsTail : Item → Prop
  | intro {value : Expr} : Item.IsTail (.tail value)

/-- The readers of statements that stop at the first fault, each on the phrases it is meant for. -/
structure StatementAccepts (fuel : Nat) : Prop where
  statement : ∀ {used rest : List Token}, Statement used → Ahead (· ≠ .keyword .elseWord) rest →
    Accepts (statementBy .stopping fuel) Anything used rest
  conditional : ∀ {used rest : List Token}, Conditional used →
    Ahead (· ≠ .keyword .elseWord) rest → Accepts (ifBy .stopping fuel) Anything used rest
  block : ∀ {used rest : List Token}, Braced used →
    Accepts (blockBy .stopping fuel) Anything used rest
  items : ∀ {used rest : List Token}, Body used →
    rest.head?.map (·.kind) = some (.symbol .rightBrace) →
    Accepts (itemsBy .stopping fuel) Anything used rest
  item : ∀ {used rest : List Token}, Statement used → Ahead (· ≠ .keyword .elseWord) rest →
    Accepts (itemBy .stopping fuel) Item.IsStatement used rest
  tail : ∀ {used rest : List Token}, Expression used →
    rest.head?.map (·.kind) = some (.symbol .rightBrace) →
    Accepts (itemBy .stopping fuel) Item.IsTail used rest

namespace StatementAccepts

variable {fuel : Nat}

theorem statement_succ (accepts : StatementAccepts fuel) {used rest : List Token}
    (holds : Statement used) (noElse : Ahead (· ≠ .keyword .elseWord) rest) :
    Accepts (statementBy .stopping (fuel + 1)) Anything used rest := by
  rw [statementBy]
  refine Accepts.nextKind? ?_
  cases holds with
  | letPlain isLet isName isEqual initializer isSemicolon =>
      simp only [List.cons_append, List.head?_cons, Option.map_some, isLet]
      exact Accepts.expect isLet (letRest_accepts isName isEqual initializer isSemicolon)
  | letTyped isLet isName isColon typed isEqual initializer isSemicolon =>
      simp only [List.cons_append, List.head?_cons, Option.map_some, isLet]
      exact Accepts.expect isLet
        (letRest_accepts_typed isName isColon typed isEqual initializer isSemicolon)
  | function isFun isName parameters braced =>
      simp only [List.cons_append, List.head?_cons, Option.map_some, isFun]
      refine Accepts.expect isFun (Accepts.expectName isName ?_)
      refine Accepts.after _ (parameters_returns parameters) ?_
      exact (accepts.block braced).bindLast fun body _ => .pure trivial
  | block braced =>
      obtain ⟨first, others, rfl, opens⟩ := looseBraced_head braced
      simp only [List.cons_append, List.head?_cons, Option.map_some, opens]
      exact (accepts.block braced).bindLast fun body _ => .pure trivial
  | conditional conditional =>
      obtain ⟨first, others, rfl, isIf⟩ := looseConditional_head conditional
      simp only [List.cons_append, List.head?_cons, Option.map_some, isIf]
      exact accepts.conditional conditional noElse
  | whileLoop isWhile test braced =>
      simp only [List.cons_append, List.head?_cons, Option.map_some, isWhile]
      refine Accepts.expect isWhile ?_
      refine (expression_accepts test (ends_looseBraced braced)).bind fun condition _ => ?_
      exact (accepts.block braced).bindLast fun body _ => .pure trivial
  | forLoop isFor isName isIn range braced =>
      simp only [List.cons_append, List.head?_cons, Option.map_some, isFor]
      refine Accepts.expect isFor (Accepts.expectName isName (Accepts.expect isIn ?_))
      refine (bounds_accepts range (ahead_looseBraced braced)).bind fun range _ => ?_
      exact (accepts.block braced).bindLast fun body _ => .pure trivial
  | giveUnit isReturn isSemicolon =>
      simp only [List.cons_append, List.head?_cons, Option.map_some, isReturn]
      exact Accepts.expect isReturn (returnRest_accepts_unit isSemicolon)
  | giveValue isReturn value isSemicolon =>
      simp only [List.cons_append, List.head?_cons, Option.map_some, isReturn]
      exact Accepts.expect isReturn (returnRest_accepts value isSemicolon)
  | expression value isSemicolon =>
      have reads : Accepts expressionStatement Anything _ rest :=
        expressionStatement_accepts value isSemicolon
      obtain ⟨first, others, rfl, starts⟩ := looseExpression_head value
      simp only [List.cons_append, List.head?_cons, Option.map_some]
      generalize first.kind = kind at starts
      split <;>
        first
        | exact reads
        | next same => rw [Option.some.inj same] at starts; cases starts

theorem conditional_succ (accepts : StatementAccepts fuel) {used rest : List Token}
    (holds : Conditional used) (noElse : Ahead (· ≠ .keyword .elseWord) rest) :
    Accepts (ifBy .stopping (fuel + 1)) Anything used rest := by
  rw [ifBy]
  cases holds with
  | alone isIf test braced =>
      refine Accepts.expect isIf ?_
      refine (expression_accepts test (ends_looseBraced braced)).bind fun condition _ => ?_
      refine (accepts.block braced).bindLast fun body _ => ?_
      exact Accepts.skip? noElse (.pure trivial)
  | orBlock isIf test braced isElse alternative =>
      rw [List.append_assoc]
      refine Accepts.expect isIf ((expression_accepts test ?_).bind fun condition _ => ?_)
      · rw [List.append_assoc]
        exact ends_looseBraced braced
      refine (accepts.block braced).bind fun body _ => ?_
      refine Accepts.accept? isElse (Accepts.nextIs ?_)
      obtain ⟨first, others, shape, opens⟩ := looseBraced_head alternative
      rw [if_neg (by simp [shape, opens])]
      exact (accepts.block alternative).bindLast fun body _ => .pure trivial
  | orConditional isIf test braced isElse alternative =>
      rw [List.append_assoc]
      refine Accepts.expect isIf ((expression_accepts test ?_).bind fun condition _ => ?_)
      · rw [List.append_assoc]
        exact ends_looseBraced braced
      refine (accepts.block braced).bind fun body _ => ?_
      refine Accepts.accept? isElse (Accepts.nextIs ?_)
      obtain ⟨first, others, shape, startsIf⟩ := looseConditional_head alternative
      rw [if_pos (by simp [shape, startsIf])]
      exact (accepts.conditional alternative noElse).bindLast fun body _ => .pure trivial

theorem block_succ (accepts : StatementAccepts fuel) {used rest : List Token}
    (holds : Braced used) : Accepts (blockBy .stopping (fuel + 1)) Anything used rest := by
  rw [blockBy]
  cases holds with
  | block opens body closes =>
      rw [List.cons_append]
      refine Accepts.expect opens ?_
      refine (accepts.items body (by simp [closes])).bind fun items _ => ?_
      exact Accepts.accept? closes (.pure trivial)

/-- Before something that does not close the block and is no end marker, an item is read, and more
of them if it is a statement. -/
theorem itemsBy_present {given : Item → Prop} {token : Token} {tokens later rest : List Token}
    (noBrace : token.kind ≠ .symbol .rightBrace) (noMarker : token.kind ≠ .endOfInput)
    (reads : Accepts (itemBy .stopping fuel) given (token :: tokens) (later ++ rest))
    (tail : ∀ value, given (.tail value) → later = [])
    (statement : ∀ statement, given (.statement statement) →
      Accepts (itemsBy .stopping fuel) Anything later rest) :
    Accepts (itemsBy .stopping (fuel + 1)) Anything (token :: tokens ++ later) rest := by
  rw [itemsBy]
  refine Accepts.nextKind? ?_
  generalize shape : (token :: tokens ++ later ++ rest).head?.map (·.kind) = head
  have shape : some token.kind = head := shape
  split
  · cases shape
  · exact absurd (Option.some.inj shape) noMarker
  · exact absurd (Option.some.inj shape) noBrace
  · rw [Recovery.stopping_bind]
    refine reads.bind fun item fits => ?_
    cases item with
    | tail value =>
        obtain rfl := tail value fits
        exact .pure trivial
    | statement value => exact (statement value fits).bindLast fun items _ => .pure trivial

theorem items_succ (accepts : StatementAccepts fuel) {used rest : List Token} (body : Body used)
    (closed : rest.head?.map (·.kind) = some (.symbol .rightBrace)) :
    Accepts (itemsBy .stopping (fuel + 1)) Anything used rest := by
  cases body with
  | nil =>
      rw [itemsBy]
      refine Accepts.nextKind? ?_
      simp only [List.nil_append, closed]
      exact .pure trivial
  | tail isTail =>
      have reads := accepts.tail isTail closed
      obtain ⟨first, others, rfl, starts⟩ := looseExpression_head isTail
      have noBrace : first.kind ≠ .symbol .rightBrace := fun same => by
        simp [same, startsExpression] at starts
      have noMarker : first.kind ≠ .endOfInput := fun same => by
        simp [same, startsExpression] at starts
      rw [← List.append_nil (first :: others)]
      refine itemsBy_present noBrace noMarker reads (fun _ _ => rfl) ?_
      rintro value ⟨⟩
  | @cons tokens others first more =>
      have reads := accepts.item first (ahead_body more closed)
      have noBrace : Ahead (· ≠ .symbol .rightBrace) (tokens ++ others) :=
        ahead_looseStatement first (fun kind opens same => by simp [same, opensStatement] at opens)
          fun kind starts same => by simp [same, startsExpression] at starts
      have noMarker : Ahead (· ≠ .endOfInput) (tokens ++ others) :=
        ahead_looseStatement_unmarked first
      obtain ⟨token, tail, rfl⟩ := looseStatement_cons first
      refine itemsBy_present (ahead_cons.1 noBrace) (ahead_cons.1 noMarker) reads ?_
        fun _ _ => accepts.items more closed
      rintro value ⟨⟩

theorem item_succ (accepts : StatementAccepts fuel) {used rest : List Token}
    (holds : Statement used) (noElse : Ahead (· ≠ .keyword .elseWord) rest) :
    Accepts (itemBy .stopping (fuel + 1)) Item.IsStatement used rest := by
  rw [itemBy]
  refine Accepts.nextKind? ?_
  rcases looseStatement_head holds with
    ⟨first, others, rfl, opens⟩ | ⟨tokens, semicolon, rfl, isValue, isSemicolon⟩
  · rw [if_pos (by simpa using opens)]
    exact (accepts.statement holds noElse).map fun value _ => .intro
  · have ends : Ahead Ends ([semicolon] ++ rest) := ahead_cons.2 (isSemicolon ▸ by decide)
    have reads := expression_accepts isValue ends
    obtain ⟨first, others, rfl, starts⟩ := looseExpression_head isValue
    rw [if_neg (by simpa using startsExpression_not_opens starts)]
    refine reads.bind fun value _ => Accepts.nextIs ?_
    rw [if_neg (by simp [isSemicolon])]
    exact Accepts.expect isSemicolon (.pure .intro)

theorem tail_succ {used rest : List Token} (holds : Expression used)
    (closed : rest.head?.map (·.kind) = some (.symbol .rightBrace)) :
    Accepts (itemBy .stopping (fuel + 1)) Item.IsTail used rest := by
  have reads := expression_accepts holds (ahead_of_head closed (by decide))
  obtain ⟨first, others, rfl, starts⟩ := looseExpression_head holds
  rw [itemBy]
  refine Accepts.nextKind? ?_
  rw [if_neg (by simpa using startsExpression_not_opens starts)]
  refine reads.bindLast fun value _ => Accepts.nextIs ?_
  rw [if_pos (by simpa using closed)]
  exact .pure .intro

end StatementAccepts

theorem statementAccepts (fuel : Nat) : StatementAccepts fuel := by
  induction fuel with
  | zero => constructor <;> intros <;> exact .exhausted
  | succ fuel accepts =>
      exact
        { statement := accepts.statement_succ
          conditional := accepts.conditional_succ
          block := accepts.block_succ
          items := accepts.items_succ
          item := accepts.item_succ
          tail := StatementAccepts.tail_succ }

/-- A program is accepted to its end. -/
theorem statementsBy_accepts (fuel : Nat) {used : List Token} (holds : Statements used) :
    Accepts (statementsBy .stopping fuel) Anything used [] := by
  induction fuel generalizing used with
  | zero => exact .exhausted
  | succ fuel inductionHypothesis =>
      rw [statementsBy]
      refine Accepts.nextKind? ?_
      cases holds with
      | nil => exact .pure trivial
      | @cons tokens others first more =>
          have noElse : Ahead (· ≠ .keyword .elseWord) (others ++ []) := by
            cases more with
            | nil => exact fun token member => by cases member
            | cons next _ =>
                rw [List.append_assoc]
                exact ahead_looseStatement next (fun _ => opensStatement_ne_else)
                  fun _ => startsExpression_ne_else
          have reads : Accepts
              (fun cursor => statementBy .stopping (nestingBound cursor.rest.length) cursor)
              Anything tokens (others ++ []) :=
            .measured fun fuel => (statementAccepts fuel).statement first noElse
          have noMarker : Ahead (· ≠ .endOfInput) (tokens ++ (others ++ [])) :=
            ahead_looseStatement_unmarked first
          obtain ⟨token, tail, rfl⟩ := looseStatement_cons first
          have attempted : Accepts (some <$> fun cursor =>
              statementBy .stopping (nestingBound cursor.rest.length) cursor)
              (fun found => ∃ first, found = some first) (token :: tail) (others ++ []) :=
            reads.map fun first _ => ⟨first, rfl⟩
          have noMarker := ahead_cons.1 noMarker
          simp only [List.cons_append, List.head?_cons, Option.map_some]
          refine attempted.bind fun found isSome => ?_
          cases found with
          | none =>
              obtain ⟨_, same⟩ := isSome
              cases same
          | some statement =>
              exact (inductionHypothesis more).bindLast fun list _ => .pure trivial

end Reader

end CheckedScript
