import CheckedScript.Proofs.Reader.StatementSoundness
import CheckedScript.Proofs.Reader.Viability

/-!
# What has been consumed of a statement can be completed

The readers of types, statements and whole programs that stop at the first fault reach the phrases
they are meant for.  A missing expression is completed by a name and a missing block by an empty
one.
-/

namespace CheckedScript

namespace Reader

open Grammar (TypePhrase Name Parameters Separated)
open Grammar.Loose

/-- A written type of any kind. -/
def IsType (tokens : List Token) : Prop :=
  ∃ type, TypePhrase tokens type

theorem isType_sample : IsType [sample (.keyword .numberWord)] :=
  ⟨_, .number rfl⟩

/-- The readers of written types, each with the phrases it is meant for. -/
structure TypeReaches (fuel : Nat) : Prop where
  typeWithin : ∀ cursor, Reaches cursor IsType (typeWithin fuel cursor)
  typesWithin : ∀ cursor,
    Reaches cursor (fun used => ∃ types, ListRest TypePhrase used types) (typesWithin fuel cursor)

namespace TypeReaches

variable {fuel : Nat}

theorem typeWithin_succ (reaches : TypeReaches fuel) (cursor : Cursor) :
    Reaches cursor IsType (Reader.typeWithin (fuel + 1) cursor) := by
  have closes := kind_sample (.symbol .rightParen)
  rw [Reader.typeWithin]
  refine Reaches.acceptWhere? (fun token rest type found => ?_) ?_
  · exact .pure ⟨type, typePhrase_of_simpleType? found⟩
  refine Reaches.accept? (fun opening rest opens => ?_) ?_
  · refine Reaches.accept? (fun closing rest closes => .pure ⟨_, .unit opens closes⟩) ?_
    have whole : ∀ {closing : Token}, closing.kind = .symbol .rightParen → ∀ others,
        (∃ types, ListRest TypePhrase others types) → ∀ tokens, IsType tokens →
        IsType (opening :: (tokens ++ (others ++ [closing]))) := by
      rintro closing closes others ⟨types, list⟩ tokens ⟨type, holds⟩
      exact ⟨_, by simpa using
        typePhrase_of_separated opens (separated_of_listRest holds list) closes⟩
    refine (reaches.typeWithin _).bind
      ⟨_, fun tokens holds => whole closes [] ⟨[], .inl ⟨rfl, rfl⟩⟩ tokens holds⟩
      fun first middle => ?_
    refine (reaches.typesWithin middle).bind ⟨_, whole closes⟩ fun others last => ?_
    refine Reaches.accept? (fun closing rest closes => .pure (whole closes)) ?_
    exact .fail (by simp) ⟨_, whole closes⟩
  · exact .failAfter (by simp) ⟨_, isType_sample⟩

theorem typesWithin_succ (reaches : TypeReaches fuel) (cursor : Cursor) :
    Reaches cursor (fun used => ∃ types, ListRest TypePhrase used types)
      (Reader.typesWithin (fuel + 1) cursor) := by
  rw [Reader.typesWithin]
  refine Reaches.accept? (fun comma rest isComma => ?_) (.pure ⟨[], .inl ⟨rfl, rfl⟩⟩)
  have whole : ∀ others, (∃ types, ListRest TypePhrase others types) → ∀ tokens, IsType tokens →
      ∃ types, ListRest TypePhrase (comma :: (tokens ++ others)) types := by
    rintro others ⟨types, list⟩ tokens ⟨type, holds⟩
    exact ⟨_, .inr ⟨comma, _, rfl, isComma, separated_of_listRest holds list⟩⟩
  refine (reaches.typeWithin _).bind
    ⟨[], fun tokens holds => whole [] ⟨[], .inl ⟨rfl, rfl⟩⟩ tokens holds⟩ fun item middle => ?_
  refine (reaches.typesWithin middle).bind ⟨[], by simpa using whole⟩ fun others last => ?_
  exact .pure (by simpa using whole)

end TypeReaches

theorem typeReaches (fuel : Nat) : TypeReaches fuel := by
  induction fuel with
  | zero => constructor <;> intros <;> exact .exhausted
  | succ fuel reaches =>
      exact
        { typeWithin := reaches.typeWithin_succ
          typesWithin := reaches.typesWithin_succ }

theorem writtenType_reaches (cursor : Cursor) : Reaches cursor IsType (writtenType cursor) :=
  (typeReaches _).typeWithin cursor

theorem namesRest_reaches (fuel : Nat) (cursor : Cursor) :
    Reaches cursor (fun used => ∃ names, ListRest Name used names) (namesRest fuel cursor) := by
  induction fuel generalizing cursor with
  | zero => exact .exhausted
  | succ fuel inductionHypothesis =>
      rw [namesRest]
      refine Reaches.accept? (fun comma rest isComma => ?_) (.pure ⟨[], .inl ⟨rfl, rfl⟩⟩)
      have whole : ∀ {name : Token}, name.kind = .identifier → ∀ others,
          (∃ names, ListRest Name others names) →
          ∃ names, ListRest Name (comma :: name :: others) names := by
        rintro name isName others ⟨names, list⟩
        have named : Name [name] name := ⟨rfl, isName⟩
        exact ⟨_, .inr ⟨comma, _, rfl, isComma, separated_of_listRest named list⟩⟩
      refine Reaches.expectName ⟨_, whole (kind_sample .identifier) [] ⟨[], .inl ⟨rfl, rfl⟩⟩⟩
        fun name rest isName => ?_
      refine (inductionHypothesis _).bind ⟨[], by simpa using whole isName⟩ fun others last => ?_
      exact .pure (by simpa using whole isName)

/-- The parameters of a function with their parentheses. -/
def AreParameters (tokens : List Token) : Prop :=
  ∃ names, Parameters tokens names

theorem areParameters_sample :
    AreParameters [sample (.symbol .leftParen), sample (.symbol .rightParen)] :=
  ⟨[], .empty rfl rfl⟩

theorem parameters_reaches (cursor : Cursor) :
    Reaches cursor AreParameters (parameters cursor) := by
  have closes := kind_sample (.symbol .rightParen)
  rw [parameters]
  refine Reaches.expect ⟨_, areParameters_sample⟩ fun opening rest opens => ?_
  rw [nextIs_bind]
  split
  · refine Reaches.expect ⟨_, [], .empty opens closes⟩ fun closing rest closes => ?_
    exact .pure ⟨[], .empty opens closes⟩
  · have whole : ∀ {name closing : Token}, name.kind = .identifier →
        closing.kind = .symbol .rightParen → ∀ others, (∃ names, ListRest Name others names) →
        AreParameters (opening :: name :: (others ++ [closing])) := by
      rintro name closing isName closes others ⟨names, list⟩
      have named : Name [name] name := ⟨rfl, isName⟩
      exact ⟨_, by simpa using Parameters.names opens (separated_of_listRest named list) closes⟩
    refine Reaches.expectName
      ⟨_, whole (kind_sample .identifier) closes [] ⟨[], .inl ⟨rfl, rfl⟩⟩⟩
      fun first rest isName => ?_
    rw [get_bind]
    refine (namesRest_reaches _ _).bind ⟨_, whole isName closes⟩ fun others last => ?_
    refine Reaches.expect ⟨_, whole isName closes⟩ fun closing rest closes => ?_
    exact .pure (whole isName closes)

/-- What stands between `let` and the initializer. -/
inductive LetHeader : List Token → Prop
  | plain {name equals : Token} :
      name.kind = .identifier → equals.kind = .symbol .equal → LetHeader [name, equals]
  | typed {name colon equals : Token} {typeTokens : List Token} :
      name.kind = .identifier → colon.kind = .symbol .colon → IsType typeTokens →
        equals.kind = .symbol .equal → LetHeader (name :: colon :: typeTokens ++ [equals])

theorem letHeader_reaches (cursor : Cursor) : Reaches cursor LetHeader (letHeader cursor) := by
  have equal := kind_sample (.symbol .equal)
  rw [letHeader]
  refine Reaches.expectName ⟨_, .plain (kind_sample .identifier) equal⟩ fun name rest isName => ?_
  refine Reaches.accept? (fun colon rest isColon => ?_) ?_
  · refine ((writtenType_reaches _).map some).bind ⟨_, fun tokens typed =>
      .typed isName isColon typed equal⟩ fun declared middle => ?_
    refine Reaches.accept? (fun equals rest isEqual => .pure fun tokens typed =>
      .typed isName isColon typed isEqual) ?_
    exact .fail (by simp) ⟨_, fun tokens typed => .typed isName isColon typed equal⟩
  · refine Reaches.accept? (fun equals rest isEqual => .pure (.plain isName isEqual)) ?_
    exact .fail (by simp) ⟨_, .plain isName equal⟩

theorem statement_of_letHeader {keyword semicolon : Token} {header tokens : List Token}
    (isLet : keyword.kind = .keyword .letWord) (holds : LetHeader header)
    (initializer : Expression tokens) (isSemicolon : semicolon.kind = .symbol .semicolon) :
    Statement (keyword :: (header ++ (tokens ++ [semicolon]))) := by
  cases holds with
  | plain isName isEqual => exact .letPlain isLet isName isEqual initializer isSemicolon
  | typed isName isColon typed isEqual =>
      obtain ⟨type, typed⟩ := typed
      simpa using Statement.letTyped isLet isName isColon typed isEqual initializer isSemicolon

theorem letRest_reaches (cursor : Cursor) {keyword : Token} (isLet : keyword.kind = .keyword .letWord) :
    Reaches cursor (fun used => Statement (keyword :: used)) (letRest cursor) := by
  have semicolon := kind_sample (.symbol .semicolon)
  rw [letRest_eq, letStem, bind_assoc]
  refine (letHeader_reaches cursor).bind ⟨_, fun header holds =>
    statement_of_letHeader isLet holds expression_sample semicolon⟩ fun header middle => ?_
  rw [bind_assoc]
  refine (expression_reaches middle).bind ⟨_, fun tokens initializer header holds =>
    statement_of_letHeader isLet holds initializer semicolon⟩ fun value after => ?_
  rw [pure_bind]
  refine Reaches.expect ⟨_, fun tokens initializer header holds =>
    statement_of_letHeader isLet holds initializer semicolon⟩ fun closing rest isSemicolon => ?_
  exact .pure fun tokens initializer header holds =>
    statement_of_letHeader isLet holds initializer isSemicolon

theorem returnRest_reaches (cursor : Cursor) {keyword : Token}
    (isReturn : keyword.kind = .keyword .returnWord) :
    Reaches cursor (fun used => Statement (keyword :: used)) (returnRest keyword cursor) := by
  have semicolon := kind_sample (.symbol .semicolon)
  rw [returnRest, nextIs_bind]
  split
  · refine Reaches.expect ⟨_, .giveUnit isReturn semicolon⟩ fun closing rest isSemicolon => ?_
    exact .pure (.giveUnit isReturn isSemicolon)
  · refine ((expression_reaches cursor).map some).bind
      ⟨_, fun tokens holds => .giveValue isReturn holds semicolon⟩ fun value middle => ?_
    refine Reaches.expect ⟨_, fun tokens holds => .giveValue isReturn holds semicolon⟩
      fun closing rest isSemicolon => ?_
    exact .pure fun tokens holds => .giveValue isReturn holds isSemicolon

theorem bounds_reaches (cursor : Cursor) : Reaches cursor Range (bounds cursor) := by
  have dots := kind_sample (.symbol .dotDot)
  rw [bounds]
  have possible : ∀ tokens, Expression tokens →
      Range (tokens ++ [sample (.symbol .dotDot), sample .identifier]) :=
    fun tokens holds => .between holds dots expression_sample
  refine (expression_reaches cursor).bind ⟨_, possible⟩ fun start first => ?_
  refine Reaches.expect ⟨_, possible⟩ fun token rest isDots => ?_
  have between : ∀ second, Expression second → ∀ first, Expression first →
      Range (first ++ token :: (second ++ [])) := fun second holds first start => by
    simpa using Range.between start isDots holds
  refine (expression_reaches _).bind ⟨[], between⟩ fun second middle => ?_
  refine Reaches.accept? (fun other rest areDots => ?_) (.pure between)
  have stepped : ∀ third, Expression third → ∀ second, Expression second → ∀ first,
      Expression first → Range (first ++ token :: (second ++ other :: (third ++ []))) :=
    fun third stop second step first start => by
      simpa using Range.stepped start isDots step areDots stop
  refine (expression_reaches _).bind ⟨[], stepped⟩ fun third last => ?_
  exact .pure stepped

theorem expressionStatement_reaches (cursor : Cursor) :
    Reaches cursor Statement (expressionStatement cursor) := by
  have semicolon := kind_sample (.symbol .semicolon)
  rw [expressionStatement]
  refine (expression_reaches cursor).bind ⟨_, fun tokens holds => .expression holds semicolon⟩
    fun value middle => ?_
  refine Reaches.expect ⟨_, fun tokens holds => .expression holds semicolon⟩
    fun closing rest isSemicolon => ?_
  exact .pure fun tokens holds => .expression holds isSemicolon

theorem braced_sample : Braced [sample (.symbol .leftBrace), sample (.symbol .rightBrace)] :=
  .block rfl .nil rfl

/-- The readers of statements that stop at the first fault, each with the phrases it is meant for.
What stands in a block is a statement or its tail, and which of them it is decides how the block
goes on. -/
structure StatementReaches (fuel : Nat) : Prop where
  statement : ∀ cursor, Reaches cursor Statement (statementBy .stopping fuel cursor)
  conditional : ∀ cursor, Reaches cursor Conditional (ifBy .stopping fuel cursor)
  block : ∀ cursor, Reaches cursor Braced (blockBy .stopping fuel cursor)
  items : ∀ cursor, Reaches cursor Body (itemsBy .stopping fuel cursor)
  item : ∀ {β : Type} (next : Item → Reader β) (whole : List Token → Prop) (cursor : Cursor),
    (∃ more, ∀ used, Statement used → whole (used ++ more)) →
    (∀ statement after, Reaches after (fun later => ∀ used, Statement used → whole (used ++ later))
      (next (.statement statement) after)) →
    (∀ value after, Reaches after (fun later => ∀ used, Expression used → whole (used ++ later))
      (next (.tail value) after)) →
    Reaches cursor whole ((itemBy .stopping fuel >>= next) cursor)

namespace StatementReaches

variable {fuel : Nat}

theorem statement_succ (reaches : StatementReaches fuel) (cursor : Cursor) :
    Reaches cursor Statement (statementBy .stopping (fuel + 1) cursor) := by
  rw [statementBy, nextKind?_bind]
  generalize cursor.rest.head?.map (·.kind) = head
  have semicolon := kind_sample (.symbol .semicolon)
  -- Any statement will do where the word that opens one is expected.
  have possible : ∃ more, Statement more := ⟨_, .block braced_sample⟩
  split
  · exact Reaches.expect possible fun keyword rest isLet => letRest_reaches _ isLet
  · refine Reaches.expect possible fun keyword rest isFun => ?_
    refine Reaches.expectName ⟨_, .function isFun (kind_sample .identifier)
      areParameters_sample.choose_spec braced_sample⟩ fun name rest isName => ?_
    have whole : ∀ tokens, Braced tokens → ∀ used, AreParameters used →
        Statement (keyword :: name :: (used ++ tokens)) :=
      fun tokens body used holds => .function isFun isName holds.choose_spec body
    refine (parameters_reaches _).bind ⟨_, whole _ braced_sample⟩ fun names middle => ?_
    refine (reaches.block middle).bind ⟨[], by simpa using whole⟩ fun body last => ?_
    exact .pure (by simpa using whole)
  · refine (reaches.block cursor).bind ⟨[], fun tokens body => by simpa using .block body⟩
      fun body last => ?_
    exact .pure fun tokens body => by simpa using .block body
  · exact (reaches.conditional cursor).mono fun tokens holds => .conditional holds
  · refine Reaches.expect possible fun keyword rest isWhile => ?_
    have whole : ∀ tokens, Braced tokens → ∀ used, Expression used →
        Statement (keyword :: (used ++ tokens)) :=
      fun tokens body used condition => .whileLoop isWhile condition body
    refine (expression_reaches _).bind ⟨_, whole _ braced_sample⟩ fun condition middle => ?_
    refine (reaches.block middle).bind ⟨[], by simpa using whole⟩ fun body last => ?_
    exact .pure (by simpa using whole)
  · refine Reaches.expect possible fun keyword rest isFor => ?_
    have range : Range _ := .between expression_sample (kind_sample (.symbol .dotDot))
      expression_sample
    refine Reaches.expectName ⟨_, .forLoop isFor (kind_sample .identifier)
      (kind_sample (.keyword .inWord)) range braced_sample⟩ fun name rest isName => ?_
    refine Reaches.expect ⟨_, .forLoop isFor isName (kind_sample (.keyword .inWord)) range
      braced_sample⟩ fun inWord rest isIn => ?_
    have whole : ∀ tokens, Braced tokens → ∀ used, Range used →
        Statement (keyword :: name :: inWord :: (used ++ tokens)) :=
      fun tokens body used bounds => .forLoop isFor isName isIn bounds body
    refine (bounds_reaches _).bind ⟨_, whole _ braced_sample⟩ fun range middle => ?_
    refine (reaches.block middle).bind ⟨[], by simpa using whole⟩ fun body last => ?_
    exact .pure (by simpa using whole)
  · exact Reaches.expect possible fun keyword rest isReturn => returnRest_reaches _ isReturn
  · exact expressionStatement_reaches cursor

theorem conditional_succ (reaches : StatementReaches fuel) (cursor : Cursor) :
    Reaches cursor Conditional (ifBy .stopping (fuel + 1) cursor) := by
  rw [ifBy]
  refine Reaches.expect ⟨_, .alone (kind_sample (.keyword .ifWord)) expression_sample
    braced_sample⟩ fun keyword rest isIf => ?_
  have alone : ∀ tokens, Braced tokens → ∀ test, Expression test →
      Conditional (keyword :: (test ++ (tokens ++ []))) := fun tokens body test condition => by
    simpa using Conditional.alone isIf condition body
  refine (expression_reaches _).bind ⟨_, fun test condition => by
    simpa using alone _ braced_sample test condition⟩ fun condition middle => ?_
  refine (reaches.block middle).bind ⟨[], alone⟩ fun consequent after => ?_
  refine Reaches.accept? (fun elseWord rest isElse => ?_) (.pure alone)
  dsimp only
  rw [nextIs_bind]
  split
  · have whole : ∀ others, Conditional others → ∀ tokens, Braced tokens → ∀ test, Expression test →
        Conditional (keyword :: (test ++ (tokens ++ elseWord :: (others ++ [])))) :=
      fun others alternative tokens body test condition => by
        simpa using Conditional.orConditional isIf condition body isElse alternative
    refine (reaches.conditional _).bind ⟨[], whole⟩ fun alternative last => ?_
    exact .pure whole
  · have whole : ∀ others, Braced others → ∀ tokens, Braced tokens → ∀ test, Expression test →
        Conditional (keyword :: (test ++ (tokens ++ elseWord :: (others ++ [])))) :=
      fun others alternative tokens body test condition => by
        simpa using Conditional.orBlock isIf condition body isElse alternative
    refine (reaches.block _).bind ⟨[], whole⟩ fun alternative last => ?_
    exact .pure whole

theorem block_succ (reaches : StatementReaches fuel) (cursor : Cursor) :
    Reaches cursor Braced (blockBy .stopping (fuel + 1) cursor) := by
  have closes := kind_sample (.symbol .rightBrace)
  rw [blockBy]
  refine Reaches.expect ⟨_, braced_sample⟩ fun opening rest opens => ?_
  refine (reaches.items _).bind ⟨_, fun tokens body => .block opens body closes⟩
    fun items middle => ?_
  refine Reaches.accept? (fun closing rest closes => .pure fun tokens body => ?_) ?_
  · exact .block opens body closes
  · exact .fail (by simp) ⟨_, fun tokens body => .block opens body closes⟩

theorem items_succ (reaches : StatementReaches fuel) (cursor : Cursor) :
    Reaches cursor Body (itemsBy .stopping (fuel + 1) cursor) := by
  rw [itemsBy, nextKind?_bind]
  generalize cursor.rest.head?.map (·.kind) = head
  split
  · exact .pure .nil
  · exact .pure .nil
  · exact .pure .nil
  · have single : ∀ used, Statement used → Body (used ++ []) := fun used statement =>
      .cons statement .nil
    rw [Recovery.stopping_bind]
    refine reaches.item _ _ cursor ⟨[], single⟩ (fun statement middle => ?_) fun value middle => ?_
    · refine (reaches.items middle).bind
        ⟨[], fun others body used statement => by simpa using .cons statement body⟩
        fun items last => ?_
      exact .pure fun others body used statement => by simpa using .cons statement body
    · exact .pure fun used value => by simpa using .tail value

theorem item_succ (reaches : StatementReaches fuel) {β : Type} (next : Item → Reader β)
    (whole : List Token → Prop) (cursor : Cursor)
    (possible : ∃ more, ∀ used, Statement used → whole (used ++ more))
    (statement : ∀ statement after,
      Reaches after (fun later => ∀ used, Statement used → whole (used ++ later))
        (next (.statement statement) after))
    (tail : ∀ value after,
      Reaches after (fun later => ∀ used, Expression used → whole (used ++ later))
        (next (.tail value) after)) :
    Reaches cursor whole ((itemBy .stopping (fuel + 1) >>= next) cursor) := by
  rw [itemBy, bind_assoc, nextKind?_bind]
  split
  · rw [map_eq_pure_bind, bind_assoc]
    refine (reaches.statement cursor).bind possible fun value after => ?_
    rw [pure_bind]
    exact statement value after
  · obtain ⟨more, completes⟩ := possible
    have semicolon := kind_sample (.symbol .semicolon)
    have ends : ∃ more, ∀ used, Expression used → whole (used ++ more) :=
      ⟨sample (.symbol .semicolon) :: more, fun used value => by
        simpa using completes _ (.expression value semicolon)⟩
    rw [bind_assoc]
    refine (expression_reaches cursor).bind ends fun value middle => ?_
    rw [bind_assoc, nextIs_bind]
    split
    · rw [pure_bind]
      exact tail value middle
    · rw [bind_assoc]
      refine Reaches.expect ends fun closing rest isSemicolon => ?_
      rw [pure_bind]
      refine (statement _ _).mono fun later holds used value => ?_
      simpa using holds _ (.expression value isSemicolon)

end StatementReaches

theorem statementReaches (fuel : Nat) : StatementReaches fuel := by
  induction fuel with
  | zero =>
      exact ⟨fun _ => .exhausted, fun _ => .exhausted, fun _ => .exhausted, fun _ => .exhausted,
        fun _ _ _ _ _ _ => trivial⟩
  | succ fuel reaches =>
      exact
        { statement := reaches.statement_succ
          conditional := reaches.conditional_succ
          block := reaches.block_succ
          items := reaches.items_succ
          item := reaches.item_succ }

/-- Reading a program up to the first fault consumes what programs begin with. -/
theorem statementsBy_reaches (fuel : Nat) (cursor : Cursor) :
    Reaches cursor Statements (statementsBy .stopping fuel cursor) := by
  induction fuel generalizing cursor with
  | zero => exact .exhausted
  | succ fuel inductionHypothesis =>
      rw [statementsBy, nextKind?_bind]
      generalize cursor.rest.head?.map (·.kind) = head
      split
      · exact .pure .nil
      · exact .pure .nil
      · have whole : ∀ others, Statements others → ∀ used, Statement used →
            Statements (used ++ (others ++ [])) := fun others list used first => by
          simpa using .cons first list
        let reads : Reader Stmt := fun cursor =>
          statementBy .stopping (nestingBound cursor.rest.length) cursor
        have first : Reaches cursor Statement (reads cursor) := (statementReaches _).statement cursor
        refine (first.map some).bind ⟨[], fun used statement => .cons statement .nil⟩ fun found middle => ?_
        cases found with
        | none =>
            exact (inductionHypothesis middle).mono fun others list used first => .cons first list
        | some statement =>
            refine (inductionHypothesis middle).bind ⟨[], whole⟩ fun list last => ?_
            exact .pure whole

end Reader

end CheckedScript
