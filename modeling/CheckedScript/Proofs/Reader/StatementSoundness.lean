import CheckedScript.Proofs.Reader.Soundness

/-!
# What the readers of statements consume are phrases

The outcomes of the readers of statements, blocks and whole programs.  A faulty
statement is recorded before reading resumes behind it, so it never takes part
in a phrase; it only has to drop a token, which bounds the number of attempts.
-/

namespace CheckedScript

namespace Reader

open Grammar (Expression TypePhrase Separated Name Parameters Range Statement Conditional Braced
  Statements)
open ExpressionOutcomes (length_past)

theorem namesRest_outcome (fuel : Nat) (cursor : Cursor) (enough : cursor.rest.length < fuel) :
    Outcome cursor 0 (ListRest Name) (namesRest fuel cursor) := by
  induction fuel generalizing cursor with
  | zero => omega
  | succ fuel inductionHypothesis =>
      rw [namesRest]
      refine Outcome.accept? (fun comma rest split isComma => ?_) fun _ => ?_
      · have restLength := length_past split
        refine Outcome.expectName fun name rest split isName => ?_
        have nameLength := length_past split
        refine (inductionHypothesis _ (by omega)).bind fun others after _ => ?_
        refine Outcome.pure fun used list => .inr ⟨comma, [name] ++ used, by simp, isComma, ?_⟩
        exact separated_of_listRest ⟨rfl, isName⟩ list
      · exact Outcome.pure (.inl ⟨rfl, rfl⟩)

theorem parameters_outcome (cursor : Cursor) :
    Outcome cursor 1 Parameters (parameters cursor) := by
  rw [parameters]
  refine Outcome.expect fun opening rest split opens => ?_
  rw [nextIs_bind]
  split
  · refine Outcome.expect fun closing rest _ closes => ?_
    exact Outcome.pure (.empty opens closes)
  · refine Outcome.expectName fun first rest _ isName => ?_
    rw [get_bind]
    refine (namesRest_outcome _ _ (by simp only [nestingBound]; omega)).bind
      fun others after _ => ?_
    refine Outcome.expect fun closing rest _ closes => ?_
    refine Outcome.pure fun used list => ?_
    simpa using Parameters.names opens (separated_of_listRest ⟨rfl, isName⟩ list) closes

/-- What follows the name and the type of a `let` statement. -/
def Initialized (name : Token) (declared : Option WrittenType) (used : List Token)
    (statement : Stmt) : Prop :=
  ∃ equals tokens semicolon initializer, used = equals :: tokens ++ [semicolon] ∧
    equals.kind = .symbol .equal ∧ Expression tokens initializer ∧
    semicolon.kind = .symbol .semicolon ∧ statement = .letValue name declared initializer

theorem initialized_outcome (name : Token) (declared : Option WrittenType) (cursor : Cursor) :
    Outcome cursor 0 (Initialized name declared)
      ((do
        match ← accept? (.symbol .equal) with
        | none => Reader.fail .missingInitializer name
        | some _ =>
            let initializer ← expression
            let _ ← expect (.symbol .semicolon)
            return .letValue name declared initializer : Reader Stmt) cursor) := by
  refine Outcome.accept? (fun equals rest _ isEqual => ?_) fun _ => ?_
  · refine (expression_outcome _).bind fun initializer middle _ => ?_
    refine Outcome.expect fun semicolon rest _ isSemicolon => ?_
    refine Outcome.pure fun tokens holds => ?_
    exact ⟨equals, tokens, semicolon, initializer, by simp, isEqual, holds, isSemicolon, rfl⟩
  · exact Outcome.fail _ _

theorem letRest_outcome (cursor : Cursor) :
    Outcome cursor 1
      (fun used statement => ∀ keyword : Token, keyword.kind = .keyword .letWord →
        Statement (keyword :: used) statement)
      (letRest cursor) := by
  rw [letRest]
  refine Outcome.expectName fun name afterName _ isName => ?_
  refine Outcome.accept? (fun colon rest _ isColon => ?_) fun _ => ?_
  · have annotated : Outcome ((cursor.past name afterName).past colon rest) 1
        (fun used declared => ∃ type, declared = some type ∧ TypePhrase used type)
        ((some <$> writtenType) ((cursor.past name afterName).past colon rest)) :=
      (writtenType_outcome _).map fun used type holds => ⟨type, rfl, holds⟩
    refine annotated.bind fun declared middle _ => ?_
    refine (initialized_outcome name declared middle).mono (Nat.zero_le _) ?_
    rintro _ _ ⟨equals, tokens, semicolon, initializer, rfl, isEqual, holds, isSemicolon, rfl⟩
      typeTokens ⟨type, rfl, typed⟩ keyword isLet
    simpa using Statement.letTyped isLet isName isColon typed isEqual holds isSemicolon
  · refine (initialized_outcome name none _).mono (Nat.zero_le _) ?_
    rintro _ _ ⟨equals, tokens, semicolon, initializer, rfl, isEqual, holds, isSemicolon, rfl⟩
      keyword isLet
    simpa using Statement.letPlain isLet isName isEqual holds isSemicolon

theorem returnRest_outcome (keyword : Token) (cursor : Cursor) :
    Outcome cursor 1
      (fun used statement => keyword.kind = .keyword .returnWord →
        Statement (keyword :: used) statement)
      (returnRest keyword cursor) := by
  rw [returnRest, nextIs_bind]
  split
  · refine Outcome.expect fun semicolon rest _ isSemicolon => ?_
    exact Outcome.pure fun isReturn => .giveUnit isReturn isSemicolon
  · have given : Outcome cursor 1
        (fun used value => ∃ expr, value = some expr ∧ Expression used expr)
        ((some <$> expression) cursor) :=
      (expression_outcome cursor).map fun used expr holds => ⟨expr, rfl, holds⟩
    refine given.bind fun value middle _ => ?_
    refine Outcome.expect fun semicolon rest _ isSemicolon => ?_
    refine Outcome.pure ?_
    rintro tokens ⟨expr, rfl, holds⟩ isReturn
    simpa using Statement.giveValue isReturn holds isSemicolon

theorem bounds_outcome (cursor : Cursor) : Outcome cursor 1 Range (bounds cursor) := by
  rw [bounds]
  refine (expression_outcome cursor).bind fun start first _ => ?_
  refine Outcome.expect fun token rest _ isDots => ?_
  refine (expression_outcome _).bind fun stop second _ => ?_
  refine Outcome.accept? (fun other rest _ areDots => ?_) fun _ => ?_
  · refine (expression_outcome _).bind fun last third _ => ?_
    refine Outcome.pure fun lastTokens lastHolds stepTokens stepHolds startTokens startHolds => ?_
    simpa using Range.stepped startHolds isDots stepHolds areDots lastHolds
  · refine Outcome.pure fun stopTokens stopHolds startTokens startHolds => ?_
    simpa using Range.between startHolds isDots stopHolds

theorem expressionStatement_outcome (cursor : Cursor) :
    Outcome cursor 1 Statement (expressionStatement cursor) := by
  rw [expressionStatement]
  refine (expression_outcome cursor).bind fun value middle _ => ?_
  refine Outcome.expect fun semicolon rest _ isSemicolon => ?_
  exact Outcome.pure fun used holds => .expression holds isSemicolon

/-- What stands in a block: a statement, or an expression as the tail. -/
def ItemPhrase (used : List Token) : Item → Prop
  | .statement statement => Statement used statement
  | .tail value => Expression used value

/-- The statements of a block, and its tail if there is one. -/
def ItemsPhrase (used : List Token) : List Stmt × Option Expr → Prop
  | (statements, none) => Statements used statements
  | (statements, some value) =>
      ∃ tokens last, used = tokens ++ last ∧ Statements tokens statements ∧ Expression last value

theorem itemsPhrase_cons {tokens used : List Token} {statement : Stmt}
    {items : List Stmt × Option Expr} (first : Statement tokens statement)
    (rest : ItemsPhrase used items) :
    ItemsPhrase (tokens ++ used) (statement :: items.1, items.2) := by
  obtain ⟨statements, tail⟩ := items
  cases tail with
  | none => exact .cons first rest
  | some value =>
      obtain ⟨before, last, rfl, holds, isTail⟩ := rest
      exact ⟨tokens ++ before, last, by simp, .cons first holds, isTail⟩

theorem braced_of_items {opening closing : Token} {used : List Token}
    {items : List Stmt × Option Expr} (opens : opening.kind = .symbol .leftBrace)
    (holds : ItemsPhrase used items) (closes : closing.kind = .symbol .rightBrace) :
    Braced (opening :: used ++ [closing]) (.mk opening items.1 items.2) := by
  obtain ⟨statements, tail⟩ := items
  cases tail with
  | none => exact .plain opens holds closes
  | some value =>
      obtain ⟨tokens, last, rfl, statementsHold, isTail⟩ := holds
      simpa using Braced.tail opens statementsHold isTail closes

/-- The outcomes of all readers of statements with a bound on the nesting. -/
structure StatementOutcomes (fuel : Nat) : Prop where
  statementWithin : ∀ cursor : Cursor, 16 * cursor.rest.length + 6 ≤ fuel →
    Outcome cursor 1 Statement (statementWithin fuel cursor)
  ifWithin : ∀ cursor : Cursor, 16 * cursor.rest.length + 5 ≤ fuel →
    Outcome cursor 1 Conditional (ifWithin fuel cursor)
  blockWithin : ∀ cursor : Cursor, 16 * cursor.rest.length + 5 ≤ fuel →
    Outcome cursor 1 Braced (blockWithin fuel cursor)
  itemsWithin : ∀ cursor : Cursor, 16 * cursor.rest.length + 8 ≤ fuel →
    Outcome cursor 0 ItemsPhrase (itemsWithin fuel cursor)
  itemWithin : ∀ cursor : Cursor, 16 * cursor.rest.length + 7 ≤ fuel →
    Outcome cursor 1 ItemPhrase (itemWithin fuel cursor)

namespace StatementOutcomes

variable {fuel : Nat}

theorem statementWithin_succ (outcomes : StatementOutcomes fuel) (cursor : Cursor)
    (enough : 16 * cursor.rest.length + 6 ≤ fuel + 1) :
    Outcome cursor 1 Statement (Reader.statementWithin (fuel + 1) cursor) := by
  rw [Reader.statementWithin, nextKind?_bind]
  generalize cursor.rest.head?.map (·.kind) = head
  split
  · refine Outcome.expect fun keyword rest _ isLet => ?_
    exact (letRest_outcome _).mono (Nat.zero_le _) fun used statement holds => holds keyword isLet
  · refine Outcome.expect fun keyword rest split isFun => ?_
    have restLength := length_past split
    refine Outcome.expectName fun name rest split isName => ?_
    have nameLength := length_past split
    refine (parameters_outcome _).bind fun names middle middleLength => ?_
    refine (outcomes.blockWithin middle (by omega)).bind fun body after _ => ?_
    refine Outcome.pure fun tokens braced parameters holds => ?_
    simpa using Statement.function isFun isName holds braced
  · refine (outcomes.blockWithin cursor (by omega)).bind fun body after _ => ?_
    exact Outcome.pure fun tokens braced => by simpa using Statement.block braced
  · exact (outcomes.ifWithin cursor (by omega)).mono (Nat.le_refl _)
      fun used statement holds => .conditional holds
  · refine Outcome.expect fun keyword rest split isWhile => ?_
    have restLength := length_past split
    refine (expression_outcome _).bind fun condition middle middleLength => ?_
    refine (outcomes.blockWithin middle (by omega)).bind fun body after _ => ?_
    refine Outcome.pure fun tokens braced test holds => ?_
    simpa using Statement.whileLoop isWhile holds braced
  · refine Outcome.expect fun keyword rest split isFor => ?_
    have restLength := length_past split
    refine Outcome.expectName fun name rest split isName => ?_
    have nameLength := length_past split
    refine Outcome.expect fun inWord rest split isIn => ?_
    have inLength := length_past split
    refine (bounds_outcome _).bind fun range middle middleLength => ?_
    refine (outcomes.blockWithin middle (by omega)).bind fun body after _ => ?_
    refine Outcome.pure fun tokens braced rangeTokens holds => ?_
    simpa using Statement.forLoop isFor isName isIn holds braced
  · refine Outcome.expect fun keyword rest _ isReturn => ?_
    exact (returnRest_outcome keyword _).mono (Nat.zero_le _)
      fun used statement holds => holds isReturn
  · exact expressionStatement_outcome cursor

theorem ifWithin_succ (outcomes : StatementOutcomes fuel) (cursor : Cursor)
    (enough : 16 * cursor.rest.length + 5 ≤ fuel + 1) :
    Outcome cursor 1 Conditional (Reader.ifWithin (fuel + 1) cursor) := by
  rw [Reader.ifWithin]
  refine Outcome.expect fun keyword rest split isIf => ?_
  have restLength := length_past split
  refine (expression_outcome _).bind fun condition second secondLength => ?_
  refine (outcomes.blockWithin second (by omega)).bind fun consequent third thirdLength => ?_
  refine Outcome.accept? (fun elseWord rest split isElse => ?_) fun _ => ?_
  · have elseLength := length_past split
    dsimp only
    rw [nextIs_bind]
    split
    · refine (outcomes.ifWithin _ (by omega)).bind fun alternative after _ => ?_
      refine Outcome.pure fun others conditional tokens braced test holds => ?_
      simpa using Conditional.orConditional isIf holds braced isElse conditional
    · refine (outcomes.blockWithin _ (by omega)).bind fun alternative after _ => ?_
      refine Outcome.pure fun others otherwise tokens braced test holds => ?_
      simpa using Conditional.orBlock isIf holds braced isElse otherwise
  · refine Outcome.pure fun tokens braced test holds => ?_
    simpa using Conditional.alone isIf holds braced

theorem blockWithin_succ (outcomes : StatementOutcomes fuel) (cursor : Cursor)
    (enough : 16 * cursor.rest.length + 5 ≤ fuel + 1) :
    Outcome cursor 1 Braced (Reader.blockWithin (fuel + 1) cursor) := by
  rw [Reader.blockWithin]
  refine Outcome.expect fun opening rest split opens => ?_
  have restLength := length_past split
  refine (outcomes.itemsWithin _ (by omega)).bind fun items middle _ => ?_
  obtain ⟨statements, tail⟩ := items
  refine Outcome.accept? (fun closing rest _ closes => ?_) fun _ => ?_
  · refine Outcome.pure fun used holds => ?_
    simpa using braced_of_items opens holds closes
  · exact Outcome.fail _ _

theorem itemsWithin_succ (outcomes : StatementOutcomes fuel) (cursor : Cursor)
    (enough : 16 * cursor.rest.length + 8 ≤ fuel + 1) :
    Outcome cursor 0 ItemsPhrase (Reader.itemsWithin (fuel + 1) cursor) := by
  rw [Reader.itemsWithin, nextKind?_bind]
  generalize equation : cursor.rest.head?.map (·.kind) = head
  split
  · exact Outcome.pure .nil
  · exact Outcome.pure .nil
  · exact Outcome.pure .nil
  · next noMarker _ =>
    obtain ⟨token, rest, split, same⟩ := Cursor.exists_cons_of_head equation
    refine Outcome.attempt split (fun marks => noMarker (same.symm.trans marks))
      (outcomes.itemWithin cursor (by omega))
      (fun after afterLength => outcomes.itemsWithin after (by omega))
      fun item after afterLength => ?_
    cases item with
    | tail value =>
        exact Outcome.pure fun used isTail => ⟨[], used, by simp, .nil, isTail⟩
    | statement statement =>
        refine (outcomes.itemsWithin after (by omega)).bind fun items last _ => ?_
        obtain ⟨statements, tail⟩ := items
        refine Outcome.pure fun used holds tokens first => ?_
        simpa using itemsPhrase_cons first holds

theorem itemWithin_succ (outcomes : StatementOutcomes fuel) (cursor : Cursor)
    (enough : 16 * cursor.rest.length + 7 ≤ fuel + 1) :
    Outcome cursor 1 ItemPhrase (Reader.itemWithin (fuel + 1) cursor) := by
  rw [Reader.itemWithin, nextKind?_bind]
  split
  · exact (outcomes.statementWithin cursor (by omega)).map fun used statement holds => holds
  · refine (expression_outcome cursor).bind fun value middle _ => ?_
    rw [nextIs_bind]
    split
    · exact Outcome.pure fun used holds => by simpa [ItemPhrase] using holds
    · refine Outcome.expect fun semicolon rest _ isSemicolon => ?_
      exact Outcome.pure fun used holds => Statement.expression holds isSemicolon

end StatementOutcomes

theorem statementOutcomes (fuel : Nat) : StatementOutcomes fuel := by
  induction fuel with
  | zero =>
      constructor <;> intros <;> omega
  | succ fuel outcomes =>
      exact
        { statementWithin := outcomes.statementWithin_succ
          ifWithin := outcomes.ifWithin_succ
          blockWithin := outcomes.blockWithin_succ
          itemsWithin := outcomes.itemsWithin_succ
          itemWithin := outcomes.itemWithin_succ }

theorem statement_outcome (cursor : Cursor) :
    Outcome cursor 1 Statement (statement cursor) := by
  refine (statementOutcomes _).statementWithin cursor ?_
  simp only [nestingBound]
  omega

theorem statements_outcome (fuel : Nat) (cursor : Cursor) (enough : cursor.rest.length < fuel) :
    Outcome cursor 0 Statements (statements fuel cursor) := by
  induction fuel generalizing cursor with
  | zero => omega
  | succ fuel inductionHypothesis =>
      rw [statements, nextKind?_bind]
      generalize equation : cursor.rest.head?.map (·.kind) = head
      split
      · exact Outcome.pure .nil
      · exact Outcome.pure .nil
      · next noMarker =>
        obtain ⟨token, rest, split, same⟩ := Cursor.exists_cons_of_head equation
        refine Outcome.attempt split (fun marks => noMarker (same.symm.trans marks))
          (statement_outcome cursor)
          (fun after afterLength => inductionHypothesis after (by omega))
          fun first after afterLength => ?_
        refine (inductionHypothesis after (by omega)).bind fun others last _ => ?_
        exact Outcome.pure fun used holds tokens isFirst => by
          simpa using Statements.cons isFirst holds

end Reader

end CheckedScript
