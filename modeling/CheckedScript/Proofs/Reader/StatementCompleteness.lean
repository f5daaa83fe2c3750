import CheckedScript.Proofs.Reader.Completeness
import CheckedScript.Proofs.Reader.StatementSoundness

/-!
# Every phrase of a program is read

The readers of statements, blocks and whole programs return the trees of the
phrases they meet.  A conditional ends before any token other than `else`, and
an expression in a block is its tail exactly if the closing brace follows.
-/

namespace CheckedScript

namespace Reader

open Grammar (Expression TypePhrase Separated Name Parameters Range Statement Conditional Braced
  Statements)

theorem namesRest_returns (fuel : Nat) {used rest names : List Token}
    (list : ListRest Name used names) (closed : Ahead (· = .symbol .rightParen) rest)
    (enough : used.length < fuel) : Returns (namesRest fuel) used names rest := by
  induction fuel generalizing used names with
  | zero => omega
  | succ fuel inductionHypothesis =>
      rw [namesRest]
      rcases list with ⟨rfl, rfl⟩ | ⟨comma, tokens, rfl, isComma, separated⟩
      · exact Returns.skip? (closed.mono fun kind same => by simp [same]) (Returns.pure _ rest)
      obtain ⟨first, used, name, others, rfl, rfl, ⟨rfl, isName⟩, listRest⟩ :=
        listRest_of_separated separated
      simp only [List.length_append, List.length_cons, List.length_nil] at enough
      refine Returns.accept? isComma (Returns.expectName isName ?_)
      exact (inductionHypothesis listRest (by omega)).andThen _

theorem parameters_returns {used rest names : List Token} (holds : Parameters used names) :
    Returns parameters used names rest := by
  rw [parameters]
  cases holds with
  | empty opens closes =>
      refine Returns.expect opens (Returns.nextIs ?_)
      rw [if_pos (by simp [closes])]
      exact Returns.expect closes (Returns.pure _ rest)
  | @names opening closing tokens names opens separated closes =>
      obtain ⟨first, used, name, others, rfl, rfl, ⟨rfl, isName⟩, listRest⟩ :=
        listRest_of_separated separated
      have closed : Ahead (· = .symbol .rightParen) ([closing] ++ rest) := ahead_cons.2 closes
      have order : opening :: ([name] ++ used) ++ [closing] =
          opening :: name :: (used ++ [closing]) := rfl
      rw [order]
      refine Returns.expect opens (Returns.nextIs ?_)
      rw [if_neg (by simp [isName])]
      refine Returns.expectName isName (Returns.get fun cursor shape => ?_)
      refine Returns.bind (namesRest_returns _ listRest closed ?_) ?_
      · simp only [shape, nestingBound, List.length_append]
        omega
      · exact Returns.expect closes (Returns.pure _ rest)

theorem letRest_returns {name semicolon equals : Token} {tokens rest : List Token}
    {initializer : Expr} (isName : name.kind = .identifier) (isEqual : equals.kind = .symbol .equal)
    (holds : Expression tokens initializer) (isSemicolon : semicolon.kind = .symbol .semicolon) :
    Returns letRest (name :: equals :: tokens ++ [semicolon]) (.letValue name none initializer)
      rest := by
  rw [letRest]
  refine Returns.expectName isName (Returns.skip? (ahead_cons.2 (by simp [isEqual])) ?_)
  refine Returns.accept? isEqual (Returns.bind (expression_returns holds ?_) ?_)
  · exact ahead_cons.2 (isSemicolon ▸ by decide)
  · exact Returns.expect isSemicolon (Returns.pure _ rest)

theorem letRest_returns_typed {name colon equals semicolon : Token}
    {typeTokens tokens rest : List Token} {declared : WrittenType} {initializer : Expr}
    (isName : name.kind = .identifier) (isColon : colon.kind = .symbol .colon)
    (typed : TypePhrase typeTokens declared) (isEqual : equals.kind = .symbol .equal)
    (holds : Expression tokens initializer) (isSemicolon : semicolon.kind = .symbol .semicolon) :
    Returns letRest (name :: colon :: typeTokens ++ equals :: tokens ++ [semicolon])
      (.letValue name (some declared) initializer) rest := by
  rw [letRest, List.append_assoc]
  refine Returns.expectName isName (Returns.accept? isColon ?_)
  refine Returns.bind ((writtenType_returns typed).map some) ?_
  refine Returns.accept? isEqual (Returns.bind (expression_returns holds ?_) ?_)
  · exact ahead_cons.2 (isSemicolon ▸ by decide)
  · exact Returns.expect isSemicolon (Returns.pure _ rest)

theorem returnRest_returns_unit {keyword semicolon : Token} {rest : List Token}
    (isSemicolon : semicolon.kind = .symbol .semicolon) :
    Returns (returnRest keyword) [semicolon] (.giveBack keyword none) rest := by
  rw [returnRest]
  refine Returns.nextIs ?_
  rw [if_pos (by simp [isSemicolon])]
  exact Returns.expect isSemicolon (Returns.pure _ rest)

theorem returnRest_returns {keyword semicolon : Token} {tokens rest : List Token} {value : Expr}
    (holds : Expression tokens value) (isSemicolon : semicolon.kind = .symbol .semicolon) :
    Returns (returnRest keyword) (tokens ++ [semicolon]) (.giveBack keyword (some value)) rest := by
  rw [returnRest]
  refine Returns.nextIs ?_
  obtain ⟨first, others, shape, starts⟩ := expression_head holds
  have other : first.kind ≠ .symbol .semicolon := fun same => by
    simp [same, startsExpression] at starts
  rw [if_neg (by simp [shape, other])]
  refine Returns.bind ((expression_returns holds ?_).map some) ?_
  · exact ahead_cons.2 (isSemicolon ▸ by decide)
  · exact Returns.expect isSemicolon (Returns.pure _ rest)

theorem bounds_returns {used rest : List Token} {range : Bounds} (holds : Range used range)
    (opened : Ahead (· = .symbol .leftBrace) rest) : Returns bounds used range rest := by
  have ends : Ahead Ends rest := opened.mono fun kind same => same ▸ by decide
  rw [bounds]
  cases holds with
  | between first isDots second =>
      refine Returns.bind (expression_returns first (ahead_cons.2 (isDots ▸ by decide))) ?_
      refine Returns.expect isDots (Returns.bindLast (expression_returns second ends) ?_)
      exact Returns.skip? (opened.mono fun kind same => by simp [same]) (Returns.pure _ rest)
  | stepped first isDots second areDots third =>
      rw [List.append_assoc]
      refine Returns.bind (expression_returns first (ahead_cons.2 (isDots ▸ by decide))) ?_
      refine Returns.expect isDots (Returns.bind (expression_returns second ?_) ?_)
      · exact ahead_cons.2 (areDots ▸ by decide)
      · refine Returns.accept? areDots ?_
        exact (expression_returns third ends).andThen _

theorem expressionStatement_returns {semicolon : Token} {tokens rest : List Token} {value : Expr}
    (holds : Expression tokens value) (isSemicolon : semicolon.kind = .symbol .semicolon) :
    Returns expressionStatement (tokens ++ [semicolon]) (.expression value) rest := by
  rw [expressionStatement]
  refine Returns.bind (expression_returns holds (ahead_cons.2 (isSemicolon ▸ by decide))) ?_
  exact Returns.expect isSemicolon (Returns.pure _ rest)

theorem braced_head {tokens : List Token} {body : Block} (braced : Braced tokens body) :
    ∃ first rest, tokens = first :: rest ∧ first.kind = .symbol .leftBrace := by
  cases braced with
  | plain opens => exact ⟨_, _, rfl, opens⟩
  | tail opens => exact ⟨_, _, rfl, opens⟩

theorem conditional_head {tokens : List Token} {statement : Stmt}
    (conditional : Conditional tokens statement) :
    ∃ first rest, tokens = first :: rest ∧ first.kind = .keyword .ifWord := by
  cases conditional with
  | alone isIf => exact ⟨_, _, rfl, isIf⟩
  | orBlock isIf => exact ⟨_, _, rfl, isIf⟩
  | orConditional isIf => exact ⟨_, _, rfl, isIf⟩

/-- A statement is an expression with a semicolon, or its first token tells which
one it is. -/
theorem statement_head {tokens : List Token} {statement : Stmt}
    (holds : Statement tokens statement) :
    (∃ first rest, tokens = first :: rest ∧ opensStatement first.kind = true) ∨
      ∃ used semicolon value, tokens = used ++ [semicolon] ∧ Expression used value ∧
        semicolon.kind = .symbol .semicolon ∧ statement = .expression value := by
  cases holds with
  | letPlain isWord | letTyped isWord | function isWord | whileLoop isWord | forLoop isWord
  | giveUnit isWord | giveValue isWord => exact .inl ⟨_, _, rfl, by rw [isWord]; rfl⟩
  | block braced =>
      obtain ⟨first, rest, rfl, opens⟩ := braced_head braced
      exact .inl ⟨first, rest, rfl, by rw [opens]; rfl⟩
  | conditional conditional =>
      obtain ⟨first, rest, rfl, isIf⟩ := conditional_head conditional
      exact .inl ⟨first, rest, rfl, by rw [isIf]; rfl⟩
  | expression phrase isSemicolon => exact .inr ⟨_, _, _, rfl, phrase, isSemicolon, rfl⟩

/-- Something that holds of every first token of a statement is ahead of it. -/
theorem ahead_statement {tokens rest : List Token} {statement : Stmt} {holds : Kind → Prop}
    (phrase : Statement tokens statement)
    (opening : ∀ kind, opensStatement kind = true → holds kind)
    (starting : ∀ kind, startsExpression kind = true → holds kind) :
    Ahead holds (tokens ++ rest) := by
  rcases statement_head phrase with ⟨first, others, rfl, opens⟩ | ⟨used, _, value, rfl, isValue, _⟩
  · exact ahead_cons.2 (opening first.kind opens)
  · rw [List.append_assoc]
    exact ahead_expression isValue starting

/-- No statement starts with an end marker. -/
theorem ahead_unmarked {tokens rest : List Token} {statement : Stmt}
    (phrase : Statement tokens statement) : Ahead (· ≠ .endOfInput) (tokens ++ rest) := by
  refine ahead_statement phrase (fun kind opens same => ?_) fun kind starts same => ?_
  · rw [same] at opens
    cases opens
  · rw [same] at starts
    cases starts

theorem statement_cons {tokens : List Token} {statement : Stmt}
    (holds : Statement tokens statement) : ∃ first rest, tokens = first :: rest := by
  rcases statement_head holds with ⟨first, rest, shape, _⟩ | ⟨used, semicolon, _, rfl, _⟩
  · exact ⟨first, rest, shape⟩
  · exact List.exists_cons_of_ne_nil (by simp)

theorem opensStatement_ne_else {kind : Kind} (opens : opensStatement kind = true) :
    kind ≠ .keyword .elseWord := by
  rintro rfl
  cases opens

theorem startsExpression_ne_else {kind : Kind} (starts : startsExpression kind = true) :
    kind ≠ .keyword .elseWord := by
  rintro rfl
  cases starts

theorem startsExpression_not_opens {kind : Kind} (starts : startsExpression kind = true) :
    ¬ opensStatement kind = true := by
  intro opens
  unfold opensStatement at opens
  split at opens <;> first | cases starts | cases opens

/-- The items of a block are none, the tail alone, or a statement and more. -/
theorem itemsPhrase_cases {used : List Token} {items : List Stmt × Option Expr}
    (holds : ItemsPhrase used items) :
    (used = [] ∧ items = ([], none)) ∨ (∃ value, items = ([], some value) ∧ Expression used value) ∨
      ∃ tokens others statement rest, used = tokens ++ others ∧
        items = (statement :: rest.1, rest.2) ∧ Statement tokens statement ∧
        ItemsPhrase others rest := by
  obtain ⟨statements, tail⟩ := items
  cases tail with
  | none =>
      cases holds with
      | nil => exact .inl ⟨rfl, rfl⟩
      | cons first others => exact .inr (.inr ⟨_, _, _, (_, none), rfl, rfl, first, others⟩)
  | some value =>
      obtain ⟨tokens, last, rfl, isList, isTail⟩ := holds
      cases isList with
      | nil => exact .inr (.inl ⟨value, rfl, isTail⟩)
      | cons first others =>
          exact .inr (.inr ⟨_, _, _, (_, some value), List.append_assoc .., rfl, first,
            _, _, rfl, others, isTail⟩)

/-- Nothing in a block starts with `else`. -/
theorem ahead_items {used rest : List Token} {items : List Stmt × Option Expr}
    (holds : ItemsPhrase used items)
    (closed : rest.head?.map (·.kind) = some (.symbol .rightBrace)) :
    Ahead (· ≠ .keyword .elseWord) (used ++ rest) := by
  rcases itemsPhrase_cases holds with
    ⟨rfl, rfl⟩ | ⟨value, rfl, isTail⟩ | ⟨tokens, others, statement, rest, rfl, rfl, first, _⟩
  · exact ahead_of_head closed (by decide)
  · exact ahead_expression isTail fun _ => startsExpression_ne_else
  · rw [List.append_assoc]
    exact ahead_statement first (fun _ => opensStatement_ne_else) fun _ => startsExpression_ne_else

/-- The readers of statements and blocks, each on the phrases it is meant for. -/
structure StatementReturns (fuel : Nat) : Prop where
  statementWithin : ∀ {used rest : List Token} {statement : Stmt}, Statement used statement →
    Ahead (· ≠ .keyword .elseWord) rest → 16 * used.length + 6 ≤ fuel →
    Returns (statementWithin fuel) used statement rest
  ifWithin : ∀ {used rest : List Token} {statement : Stmt}, Conditional used statement →
    Ahead (· ≠ .keyword .elseWord) rest → 16 * used.length + 5 ≤ fuel →
    Returns (ifWithin fuel) used statement rest
  blockWithin : ∀ {used rest : List Token} {body : Block}, Braced used body →
    16 * used.length + 5 ≤ fuel → Returns (blockWithin fuel) used body rest
  itemsWithin : ∀ {used rest : List Token} {items : List Stmt × Option Expr},
    ItemsPhrase used items → rest.head?.map (·.kind) = some (.symbol .rightBrace) →
    16 * used.length + 8 ≤ fuel → Returns (itemsWithin fuel) used items rest
  itemWithin : ∀ {used rest : List Token} {statement : Stmt}, Statement used statement →
    Ahead (· ≠ .keyword .elseWord) rest → 16 * used.length + 7 ≤ fuel →
    Returns (itemWithin fuel) used (.statement statement) rest

namespace StatementReturns

variable {fuel : Nat}

theorem ahead_braced {tokens rest : List Token} {body : Block} (braced : Braced tokens body) :
    Ahead (· = .symbol .leftBrace) (tokens ++ rest) := by
  obtain ⟨first, others, rfl, opens⟩ := braced_head braced
  exact ahead_cons.2 opens

theorem ends_braced {tokens rest : List Token} {body : Block} (braced : Braced tokens body) :
    Ahead Ends (tokens ++ rest) :=
  (ahead_braced braced).mono fun kind same => same ▸ by decide

theorem statementWithin_succ (returns : StatementReturns fuel) {used rest : List Token}
    {statement : Stmt} (holds : Statement used statement)
    (noElse : Ahead (· ≠ .keyword .elseWord) rest) (enough : 16 * used.length + 6 ≤ fuel + 1) :
    Returns (Reader.statementWithin (fuel + 1)) used statement rest := by
  rw [Reader.statementWithin]
  refine Returns.nextKind? ?_
  cases holds with
  | letPlain isLet isName isEqual initializer isSemicolon =>
      simp only [List.cons_append, List.head?_cons, Option.map_some, isLet]
      exact Returns.expect isLet (letRest_returns isName isEqual initializer isSemicolon)
  | letTyped isLet isName isColon typed isEqual initializer isSemicolon =>
      simp only [List.cons_append, List.head?_cons, Option.map_some, isLet]
      exact Returns.expect isLet
        (letRest_returns_typed isName isColon typed isEqual initializer isSemicolon)
  | function isFun isName parameters braced =>
      simp only [List.cons_append, List.length_cons, List.length_append] at enough
      simp only [List.cons_append, List.head?_cons, Option.map_some, isFun]
      refine Returns.expect isFun (Returns.expectName isName ?_)
      refine Returns.bind (parameters_returns parameters) ?_
      exact (returns.blockWithin braced (by omega)).andThen _
  | block braced =>
      obtain ⟨first, others, rfl, opens⟩ := braced_head braced
      simp only [List.cons_append, List.head?_cons, Option.map_some, opens]
      exact (returns.blockWithin braced (by omega)).andThen _
  | conditional conditional =>
      obtain ⟨first, others, rfl, isIf⟩ := conditional_head conditional
      simp only [List.cons_append, List.head?_cons, Option.map_some, isIf]
      exact returns.ifWithin conditional noElse (by omega)
  | whileLoop isWhile test braced =>
      simp only [List.cons_append, List.length_cons, List.length_append] at enough
      simp only [List.cons_append, List.head?_cons, Option.map_some, isWhile]
      refine Returns.expect isWhile ?_
      refine Returns.bind (expression_returns test (ends_braced braced)) ?_
      exact (returns.blockWithin braced (by omega)).andThen _
  | forLoop isFor isName isIn range braced =>
      simp only [List.cons_append, List.length_cons, List.length_append] at enough
      simp only [List.cons_append, List.head?_cons, Option.map_some, isFor]
      refine Returns.expect isFor (Returns.expectName isName (Returns.expect isIn ?_))
      refine Returns.bind (bounds_returns range (ahead_braced braced)) ?_
      exact (returns.blockWithin braced (by omega)).andThen _
  | giveUnit isReturn isSemicolon =>
      simp only [List.cons_append, List.head?_cons, Option.map_some, isReturn]
      exact Returns.expect isReturn (returnRest_returns_unit isSemicolon)
  | giveValue isReturn value isSemicolon =>
      simp only [List.cons_append, List.head?_cons, Option.map_some, isReturn]
      exact Returns.expect isReturn (returnRest_returns value isSemicolon)
  | expression value isSemicolon =>
      have reads : Returns expressionStatement _ _ rest :=
        expressionStatement_returns value isSemicolon
      obtain ⟨first, others, rfl, starts⟩ := expression_head value
      simp only [List.cons_append, List.head?_cons, Option.map_some]
      generalize first.kind = kind at starts
      split <;>
        first
        | exact reads
        | next same => rw [Option.some.inj same] at starts; cases starts

theorem ifWithin_succ (returns : StatementReturns fuel) {used rest : List Token}
    {statement : Stmt} (holds : Conditional used statement)
    (noElse : Ahead (· ≠ .keyword .elseWord) rest) (enough : 16 * used.length + 5 ≤ fuel + 1) :
    Returns (Reader.ifWithin (fuel + 1)) used statement rest := by
  rw [Reader.ifWithin]
  cases holds with
  | alone isIf test braced =>
      simp only [List.cons_append, List.length_cons, List.length_append] at enough
      refine Returns.expect isIf ?_
      refine Returns.bind (expression_returns test (ends_braced braced)) ?_
      refine Returns.bindLast (returns.blockWithin braced (by omega)) ?_
      exact Returns.skip? noElse (Returns.pure _ rest)
  | orBlock isIf test braced isElse alternative =>
      simp only [List.cons_append, List.length_cons, List.length_append] at enough
      rw [List.append_assoc]
      refine Returns.expect isIf ?_
      refine Returns.bind (expression_returns test ?_) ?_
      · rw [List.append_assoc]
        exact ends_braced braced
      refine Returns.bind (returns.blockWithin braced (by omega)) ?_
      refine Returns.accept? isElse (Returns.nextIs ?_)
      obtain ⟨first, others, shape, opens⟩ := braced_head alternative
      rw [if_neg (by simp [shape, opens])]
      exact (returns.blockWithin alternative (by omega)).andThen _
  | orConditional isIf test braced isElse alternative =>
      simp only [List.cons_append, List.length_cons, List.length_append] at enough
      rw [List.append_assoc]
      refine Returns.expect isIf ?_
      refine Returns.bind (expression_returns test ?_) ?_
      · rw [List.append_assoc]
        exact ends_braced braced
      refine Returns.bind (returns.blockWithin braced (by omega)) ?_
      refine Returns.accept? isElse (Returns.nextIs ?_)
      obtain ⟨first, others, shape, startsIf⟩ := conditional_head alternative
      rw [if_pos (by simp [shape, startsIf])]
      exact (returns.ifWithin alternative noElse (by omega)).andThen _

theorem blockWithin_succ (returns : StatementReturns fuel) {used rest : List Token} {body : Block}
    (holds : Braced used body) (enough : 16 * used.length + 5 ≤ fuel + 1) :
    Returns (Reader.blockWithin (fuel + 1)) used body rest := by
  have items : ∀ {opening closing : Token} {tokens : List Token}
      (items : List Stmt × Option Expr), opening.kind = .symbol .leftBrace →
      ItemsPhrase tokens items → closing.kind = .symbol .rightBrace → 16 * (tokens.length + 2) + 5 ≤ fuel + 1 →
      Returns (Reader.blockWithin (fuel + 1)) (opening :: (tokens ++ [closing]))
        (.mk opening items.1 items.2) rest := by
    intro opening closing tokens items opens holds closes enough
    rw [Reader.blockWithin]
    refine Returns.expect opens ?_
    refine Returns.bind (returns.itemsWithin holds (by simp [closes]) (by omega)) ?_
    exact Returns.accept? closes (Returns.pure _ rest)
  cases holds with
  | plain opens statements closes =>
      simp only [List.cons_append, List.length_cons, List.length_append, List.length_nil] at enough
      exact items (_, none) opens statements closes (by omega)
  | tail opens statements value closes =>
      simp only [List.cons_append, List.length_cons, List.length_append, List.length_nil] at enough
      have phrase : ItemsPhrase (_ ++ _) (_, some _) := ⟨_, _, rfl, statements, value⟩
      exact items _ opens phrase closes (by rw [List.length_append]; omega)

/-- The tail of a block needs one step only. -/
theorem itemWithin_tail {used rest : List Token} {value : Expr} (holds : Expression used value)
    (closed : rest.head?.map (·.kind) = some (.symbol .rightBrace)) :
    Returns (Reader.itemWithin (fuel + 1)) used (.tail value) rest := by
  have reads := expression_returns holds (ahead_of_head closed (by decide))
  obtain ⟨first, others, rfl, starts⟩ := expression_head holds
  rw [Reader.itemWithin]
  refine Returns.nextKind? ?_
  rw [if_neg (by simpa using startsExpression_not_opens starts)]
  refine Returns.bindLast reads (Returns.nextIs ?_)
  rw [if_pos (by simpa using closed)]
  exact Returns.pure _ rest

theorem itemWithin_succ (returns : StatementReturns fuel) {used rest : List Token}
    {statement : Stmt} (holds : Statement used statement)
    (noElse : Ahead (· ≠ .keyword .elseWord) rest) (enough : 16 * used.length + 7 ≤ fuel + 1) :
    Returns (Reader.itemWithin (fuel + 1)) used (.statement statement) rest := by
  rw [Reader.itemWithin]
  refine Returns.nextKind? ?_
  rcases statement_head holds with
    ⟨first, others, rfl, opens⟩ | ⟨tokens, semicolon, value, rfl, isValue, isSemicolon, rfl⟩
  · rw [if_pos (by simpa using opens)]
    exact (returns.statementWithin holds noElse (by omega)).map _
  · have ends : Ahead Ends ([semicolon] ++ rest) := ahead_cons.2 (isSemicolon ▸ by decide)
    have reads := expression_returns isValue ends
    obtain ⟨first, others, rfl, starts⟩ := expression_head isValue
    rw [if_neg (by simpa using startsExpression_not_opens starts)]
    refine Returns.bind reads (Returns.nextIs ?_)
    rw [if_neg (by simp [isSemicolon])]
    exact Returns.expect isSemicolon (Returns.pure _ rest)

theorem itemsWithin_succ (returns : StatementReturns fuel) {used rest : List Token}
    {items : List Stmt × Option Expr} (holds : ItemsPhrase used items)
    (closed : rest.head?.map (·.kind) = some (.symbol .rightBrace))
    (enough : 16 * used.length + 8 ≤ fuel + 1) :
    Returns (Reader.itemsWithin (fuel + 1)) used items rest := by
  rw [Reader.itemsWithin]
  refine Returns.nextKind? ?_
  rcases itemsPhrase_cases holds with
    ⟨rfl, rfl⟩ | ⟨value, rfl, isTail⟩ | ⟨tokens, others, statement, items, rfl, rfl, first, more⟩
  · simp only [List.nil_append, closed]
    exact Returns.pure _ rest
  · obtain ⟨fuel, rfl⟩ : ∃ left, fuel = left + 1 := ⟨fuel - 1, by omega⟩
    have reads : Returns (attempt (Reader.itemWithin (fuel + 1))) _ _ rest :=
      (itemWithin_tail isTail closed).attempt
    obtain ⟨token, others, rfl, starts⟩ := expression_head isTail
    simp only [List.cons_append, List.head?_cons, Option.map_some]
    generalize token.kind = kind at starts
    split
    · next same => cases same
    · next same => rw [Option.some.inj same] at starts; cases starts
    · next same => rw [Option.some.inj same] at starts; cases starts
    · exact Returns.bindLast reads (Returns.pure _ rest)
  · have noBrace : Ahead (· ≠ .symbol .rightBrace) (tokens ++ (others ++ rest)) := by
      refine ahead_statement first (fun kind opens same => ?_) fun kind starts same => ?_
      · rw [same] at opens
        cases opens
      · rw [same] at starts
        cases starts
    have noMarker : Ahead (· ≠ .endOfInput) (tokens ++ (others ++ rest)) := ahead_unmarked first
    have reads : Returns (attempt (Reader.itemWithin fuel)) tokens (some (.statement statement))
        (others ++ rest) :=
      (returns.itemWithin first (ahead_items more closed)
        (by rw [List.length_append] at enough; omega)).attempt
    obtain ⟨token, tail, rfl⟩ := statement_cons first
    simp only [List.cons_append, List.length_cons, List.length_append] at enough
    simp only [List.cons_append, List.head?_cons, Option.map_some]
    have noBrace := ahead_cons.1 noBrace
    have noMarker := ahead_cons.1 noMarker
    generalize token.kind = kind at noBrace noMarker
    split
    · next same => cases same
    · next same => exact absurd (Option.some.inj same) noMarker
    · next same => exact absurd (Option.some.inj same) noBrace
    · refine Returns.bind reads ?_
      exact (returns.itemsWithin more closed (by omega)).andThen _

end StatementReturns

theorem statementReturns (fuel : Nat) : StatementReturns fuel := by
  induction fuel with
  | zero =>
      constructor <;> intros <;> omega
  | succ fuel returns =>
      exact
        { statementWithin := returns.statementWithin_succ
          ifWithin := returns.ifWithin_succ
          blockWithin := returns.blockWithin_succ
          itemsWithin := returns.itemsWithin_succ
          itemWithin := returns.itemWithin_succ }

theorem statement_returns {used rest : List Token} {value : Stmt} (holds : Statement used value)
    (noElse : Ahead (· ≠ .keyword .elseWord) rest) : Returns statement used value rest := by
  intro previous diagnostics
  refine (statementReturns _).statementWithin holds noElse ?_ previous diagnostics
  simp only [nestingBound, List.length_append]
  omega

theorem statements_returns (fuel : Nat) {used rest : List Token} {list : List Stmt}
    (holds : Statements used list) (ends : Ahead (· = .endOfInput) rest)
    (enough : used.length < fuel) : Returns (statements fuel) used list rest := by
  induction fuel generalizing used list with
  | zero => omega
  | succ fuel inductionHypothesis =>
      rw [statements]
      refine Returns.nextKind? ?_
      cases holds with
      | nil =>
          rw [List.nil_append]
          cases rest with
          | nil => exact Returns.pure _ []
          | cons marker behind =>
              simp only [List.head?_cons, Option.map_some, ahead_cons.1 ends]
              exact Returns.pure _ (marker :: behind)
      | @cons tokens others first list isFirst more =>
          have noElse : Ahead (· ≠ .keyword .elseWord) (others ++ rest) := by
            cases more with
            | nil => exact ends.mono fun kind same => same ▸ by decide
            | cons next _ =>
                rw [List.append_assoc]
                exact ahead_statement next (fun _ => opensStatement_ne_else)
                  fun _ => startsExpression_ne_else
          have noMarker : Ahead (· ≠ .endOfInput) (tokens ++ (others ++ rest)) :=
            ahead_unmarked isFirst
          have reads := (statement_returns isFirst noElse).attempt
          obtain ⟨token, tail, rfl⟩ := statement_cons isFirst
          simp only [List.cons_append, List.length_cons, List.length_append] at enough
          simp only [List.cons_append, List.head?_cons, Option.map_some]
          have noMarker := ahead_cons.1 noMarker
          generalize token.kind = kind at noMarker
          split
          · next same => cases same
          · next same => exact absurd (Option.some.inj same) noMarker
          · refine Returns.bind reads ?_
            exact (inductionHypothesis more (by omega)).andThen _

end Reader

end CheckedScript
