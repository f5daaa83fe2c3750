import CheckedScript.Proofs.Reader.Outcome

/-!
# What readers consume are phrases

Every reader of expressions and written types has an outcome with respect to the
phrases of the grammar, provided that its bound on the nesting is large enough
for the tokens that are left.  Each nested step that consumes no token makes
phrases tighter, so sixteen steps for every token are enough.
-/

namespace CheckedScript

namespace Reader

open Grammar (Expression Infix Operand Unary Call Primary Separated TypePhrase)

/-- The phrases that `tier` reads for given tiers. -/
def Phrase : List Tier → List Token → Expr → Prop
  | [] => Unary
  | level :: _ => Infix level

/-- Tiers of which each one has phrases of the next one as operands. -/
def Descends : List Tier → Prop
  | [] => True
  | level :: levels => Grammar.tighter? level = levels.head? ∧ Descends levels

theorem descends_tiers : Descends tiers := by
  simp [Descends, tiers, Grammar.tighter?]

theorem operand_iff_phrase {level : Tier} {levels : List Tier}
    (descends : Descends (level :: levels)) (tokens : List Token) (value : Expr) :
    Operand level tokens value ↔ Phrase levels tokens value := by
  have tighter := descends.1
  constructor
  · intro operand
    cases operand with
    | tighter inner phrase =>
        cases levels with
        | nil => simp [inner] at tighter
        | cons next levels =>
            rw [inner, List.head?_cons, Option.some.injEq] at tighter
            exact tighter ▸ phrase
    | unary none phrase =>
        cases levels with
        | nil => exact phrase
        | cons next levels => simp [none] at tighter
  · intro phrase
    cases levels with
    | nil => exact .unary tighter phrase
    | cons next levels => exact .tighter tighter phrase

/-- The table of inner operators is the one of the grammar. -/
theorem innerOperator_of_operator? {level : Tier} {kind : Kind} {operator : InnerOperator}
    (found : level.operator? kind = some operator) :
    Grammar.InnerOperator level kind fun token left right => operator.apply token left right := by
  unfold Tier.operator? at found
  split at found <;>
    first
    | (obtain rfl := Option.some.inj found; constructor)
    | cases found

theorem outerOperator_of_unaryOperator? {kind : Kind} {operator : UnaryOperator}
    (found : unaryOperator? kind = some operator) : Grammar.OuterOperator kind operator := by
  unfold unaryOperator? at found
  split at found
  · obtain rfl := Option.some.inj found
    exact .invert
  · obtain rfl := Option.some.inj found
    exact .negate
  · cases found

theorem literalKind_of_constant? {token : Token} {value : Constant}
    (found : constant? token = some value) : Grammar.LiteralKind token.kind := by
  unfold constant? at found
  split at found
  · next kind => exact kind ▸ .number
  · next kind => exact kind ▸ .text
  · next kind => exact kind ▸ .trueWord
  · next kind => exact kind ▸ .falseWord
  · cases found

/-- A phrase that stands for a name is that name. -/
theorem phrase_reference {levels : List Tier} {tokens : List Token} {name : Token}
    (descends : Descends levels) (phrase : Phrase levels tokens (.reference name)) :
    tokens = [name] ∧ name.kind = .identifier := by
  induction levels with
  | nil =>
      cases phrase with
      | call called =>
          cases called with
          | primary primary =>
              cases primary with
              | reference isName => exact ⟨rfl, isName⟩
  | cons level levels inductionHypothesis =>
      refine inductionHypothesis descends.2 ((operand_iff_phrase descends _ _).1 ?_)
      generalize shape : Expr.reference name = value at phrase
      cases phrase with
      | first operand => exact operand
      | @next _ _ _ token _ _ _ _ operator _ =>
          generalize token.kind = kind at operator
          cases operator <;> cases shape

/-- What `listRest` consumes: nothing, or a comma and a list. -/
def ListRest {α : Type} (phrase : List Token → α → Prop) (used : List Token)
    (values : List α) : Prop :=
  (used = [] ∧ values = []) ∨
    ∃ comma tokens, used = comma :: tokens ∧ comma.kind = .symbol .comma ∧
      Separated phrase tokens values

theorem separated_of_listRest {α : Type} {phrase : List Token → α → Prop} {value : α}
    {values : List α} {first used : List Token} (holds : phrase first value)
    (rest : ListRest phrase used values) : Separated phrase (first ++ used) (value :: values) := by
  rcases rest with ⟨rfl, rfl⟩ | ⟨comma, tokens, rfl, isComma, separated⟩
  · simpa using Separated.one holds
  · exact .more holds isComma separated

/-- What `listAfter` consumes: a list, if there is one, and the parenthesis that
closes it. -/
def ListAfter (used : List Token) : List Expr × Token → Prop
  | (values, closing) =>
      closing.kind = .symbol .rightParen ∧
        ((used = [closing] ∧ values = []) ∨
          ∃ tokens, used = tokens ++ [closing] ∧ Separated Expression tokens values)

theorem primary_of_listAfter {opening closing : Token} {used : List Token} {values : List Expr}
    (opens : opening.kind = .symbol .leftParen) (list : ListAfter used (values, closing)) :
    Primary (opening :: used) (parenthesized values) := by
  obtain ⟨closes, ⟨rfl, rfl⟩ | ⟨tokens, rfl, separated⟩⟩ := list
  · exact .unit opens closes
  · cases separated with
    | one holds => exact .group opens holds closes
    | @more first others comma value values holds isComma others =>
        have tuple := Primary.tuple opens holds isComma others closes
        cases others <;> simpa [parenthesized] using tuple

theorem call_of_listAfter {opening closing : Token} {before used : List Token} {callee : Expr}
    {values : List Expr} (called : Call before callee)
    (opens : opening.kind = .symbol .leftParen) (list : ListAfter used (values, closing)) :
    Call (before ++ opening :: used) (.call callee closing values) := by
  obtain ⟨closes, ⟨rfl, rfl⟩ | ⟨tokens, rfl, separated⟩⟩ := list
  · exact .empty called opens closes
  · simpa using Call.arguments called opens separated closes

/-- The outcomes of all readers of expressions with a bound on the nesting. -/
structure ExpressionOutcomes (fuel : Nat) : Prop where
  assignment : ∀ cursor : Cursor, 16 * cursor.rest.length + 12 ≤ fuel →
    Outcome cursor 1 Expression (assignment fuel cursor)
  tier : ∀ (levels : List Tier) (cursor : Cursor), Descends levels →
    16 * cursor.rest.length + levels.length + 5 ≤ fuel →
    Outcome cursor 1 (Phrase levels) (tier fuel levels cursor)
  tierRest : ∀ (level : Tier) (tighter : List Tier) (left : Expr) (cursor : Cursor),
    Descends (level :: tighter) → 16 * cursor.rest.length + tighter.length + 1 ≤ fuel →
    Outcome cursor 0
      (fun later value => ∀ before, Infix level before left → Infix level (before ++ later) value)
      (tierRest fuel level tighter left cursor)
  unary : ∀ cursor : Cursor, 16 * cursor.rest.length + 4 ≤ fuel →
    Outcome cursor 1 Unary (unary fuel cursor)
  callRest : ∀ (callee : Expr) (cursor : Cursor), 16 * cursor.rest.length + 1 ≤ fuel →
    Outcome cursor 0
      (fun later value => ∀ before, Call before callee → Call (before ++ later) value)
      (callRest fuel callee cursor)
  primary : ∀ cursor : Cursor, 16 * cursor.rest.length + 2 ≤ fuel →
    Outcome cursor 1 Primary (primary fuel cursor)
  listAfter : ∀ (opening : Token) (cursor : Cursor), 16 * cursor.rest.length + 13 ≤ fuel →
    Outcome cursor 1 ListAfter (listAfter fuel opening cursor)
  listRest : ∀ cursor : Cursor, 16 * cursor.rest.length + 1 ≤ fuel →
    Outcome cursor 0 (ListRest Expression) (listRest fuel cursor)

namespace ExpressionOutcomes

variable {fuel : Nat}

/-- The number of tokens left after one. -/
theorem length_past {cursor : Cursor} {token : Token} {rest : List Token}
    (split : cursor.rest = token :: rest) :
    (cursor.past token rest).rest.length + 1 = cursor.rest.length := by
  rw [split]
  rfl

theorem assignment_succ (outcomes : ExpressionOutcomes fuel) (cursor : Cursor)
    (enough : 16 * cursor.rest.length + 12 ≤ fuel + 1) :
    Outcome cursor 1 Expression (Reader.assignment (fuel + 1) cursor) := by
  rw [Reader.assignment]
  refine (outcomes.tier tiers cursor descends_tiers (by simp [tiers]; omega)).bind
    fun target middle middleLength => ?_
  refine Outcome.accept? (fun equals rest split isEqual => ?_) fun _ => ?_
  · have restLength := length_past split
    refine (outcomes.assignment _ (by omega)).bind fun value after afterLength => ?_
    split
    · next name =>
        refine Outcome.pure fun tokens assigned targetTokens target => ?_
        obtain ⟨rfl, isName⟩ := phrase_reference descends_tiers target
        simpa using Expression.assign isName isEqual assigned
    · exact ⟨[], rfl, Nat.zero_le _, fun clean => absurd clean (by simp [Cursor.record])⟩
  · exact Outcome.pure fun tokens target => by simpa using Expression.plain target

theorem tier_succ (outcomes : ExpressionOutcomes fuel) (levels : List Tier) (cursor : Cursor)
    (descends : Descends levels)
    (enough : 16 * cursor.rest.length + levels.length + 5 ≤ fuel + 1) :
    Outcome cursor 1 (Phrase levels) (Reader.tier (fuel + 1) levels cursor) := by
  cases levels with
  | nil =>
      rw [Reader.tier]
      rw [List.length_nil] at enough
      exact outcomes.unary cursor (by omega)
  | cons level tighter =>
      rw [Reader.tier]
      rw [List.length_cons] at enough
      refine (outcomes.tier tighter cursor descends.2 (by omega)).bind
        fun left middle middleLength => ?_
      refine (outcomes.tierRest level tighter left middle descends (by omega)).mono
        (Nat.zero_le _) fun later value rest used operand => ?_
      exact rest used (.first ((operand_iff_phrase descends used left).2 operand))

theorem tierRest_succ (outcomes : ExpressionOutcomes fuel) (level : Tier)
    (tighter : List Tier) (left : Expr) (cursor : Cursor) (descends : Descends (level :: tighter))
    (enough : 16 * cursor.rest.length + tighter.length + 1 ≤ fuel + 1) :
    Outcome cursor 0
      (fun later value => ∀ before, Infix level before left → Infix level (before ++ later) value)
      (Reader.tierRest (fuel + 1) level tighter left cursor) := by
  rw [Reader.tierRest]
  refine Outcome.acceptWhere? (fun token rest operator split found => ?_) fun _ => ?_
  · have restLength := length_past split
    refine (outcomes.tier tighter _ descends.2 (by omega)).bind fun right middle middleLength => ?_
    refine (outcomes.tierRest level tighter _ middle descends (by omega)).mono
      (Nat.zero_le _) fun later value rest used operand before infixBefore => ?_
    have extended := rest (before ++ token :: used)
      (.next infixBefore (innerOperator_of_operator? found)
        ((operand_iff_phrase descends used right).2 operand))
    simpa using extended
  · exact Outcome.pure fun before infixBefore => by simpa using infixBefore

theorem unary_succ (outcomes : ExpressionOutcomes fuel) (cursor : Cursor)
    (enough : 16 * cursor.rest.length + 4 ≤ fuel + 1) :
    Outcome cursor 1 Unary (Reader.unary (fuel + 1) cursor) := by
  rw [Reader.unary]
  refine Outcome.acceptWhere? (fun token rest operator split found => ?_) fun _ => ?_
  · have restLength := length_past split
    refine (outcomes.unary _ (by omega)).bind fun operand after afterLength => ?_
    refine Outcome.pure fun used holds => ?_
    simpa using Unary.operator (outerOperator_of_unaryOperator? found) holds
  · refine (outcomes.primary cursor (by omega)).bind fun callee middle middleLength => ?_
    refine (outcomes.callRest callee middle (by omega)).mono
      (Nat.zero_le _) fun later value rest used holds => ?_
    exact .call (rest used (.primary holds))

theorem callRest_succ (outcomes : ExpressionOutcomes fuel) (callee : Expr) (cursor : Cursor)
    (enough : 16 * cursor.rest.length + 1 ≤ fuel + 1) :
    Outcome cursor 0
      (fun later value => ∀ before, Call before callee → Call (before ++ later) value)
      (Reader.callRest (fuel + 1) callee cursor) := by
  rw [Reader.callRest]
  refine Outcome.accept? (fun opening rest split opens => ?_) fun _ => ?_
  · have restLength := length_past split
    refine (outcomes.listAfter opening _ (by omega)).bind fun list middle middleLength => ?_
    obtain ⟨values, closing⟩ := list
    refine (outcomes.callRest _ middle (by omega)).mono
      (Nat.zero_le _) fun later value rest used list before called => ?_
    have extended := rest (before ++ opening :: used) (call_of_listAfter called opens list)
    simpa using extended
  · exact Outcome.pure fun before called => by simpa using called

theorem primary_succ (outcomes : ExpressionOutcomes fuel) (cursor : Cursor)
    (enough : 16 * cursor.rest.length + 2 ≤ fuel + 1) :
    Outcome cursor 1 Primary (Reader.primary (fuel + 1) cursor) := by
  rw [Reader.primary]
  refine Outcome.literal? (fun token rest value split found => ?_) fun _ => ?_
  · exact Outcome.pure (.literal (literalKind_of_constant? found) found)
  refine Outcome.accept? (fun name rest split isName => ?_) fun _ => ?_
  · exact Outcome.pure (.reference isName)
  refine Outcome.accept? (fun opening rest split opens => ?_) fun _ => ?_
  · have restLength := length_past split
    refine (outcomes.listAfter opening _ (by omega)).bind fun list after afterLength => ?_
    obtain ⟨values, closing⟩ := list
    exact Outcome.pure fun used list => by simpa using primary_of_listAfter opens list
  · exact Outcome.failAfter _

theorem listAfter_succ (outcomes : ExpressionOutcomes fuel) (opening : Token) (cursor : Cursor)
    (enough : 16 * cursor.rest.length + 13 ≤ fuel + 1) :
    Outcome cursor 1 ListAfter (Reader.listAfter (fuel + 1) opening cursor) := by
  rw [Reader.listAfter]
  refine Outcome.accept? (fun closing rest split closes => ?_) fun _ => ?_
  · exact Outcome.pure ⟨closes, .inl ⟨rfl, rfl⟩⟩
  refine (outcomes.assignment cursor (by omega)).bind fun first middle middleLength => ?_
  refine (outcomes.listRest middle (by omega)).bind fun others after afterLength => ?_
  refine Outcome.accept? (fun closing rest split closes => ?_) fun _ => ?_
  · refine Outcome.pure fun used list firstTokens holds => ⟨closes, .inr ⟨firstTokens ++ used, ?_⟩⟩
    exact ⟨by simp, separated_of_listRest holds list⟩
  · exact Outcome.fail _ _

theorem listRest_succ (outcomes : ExpressionOutcomes fuel) (cursor : Cursor)
    (enough : 16 * cursor.rest.length + 1 ≤ fuel + 1) :
    Outcome cursor 0 (ListRest Expression) (Reader.listRest (fuel + 1) cursor) := by
  rw [Reader.listRest]
  refine Outcome.accept? (fun comma rest split isComma => ?_) fun _ => ?_
  · have restLength := length_past split
    refine (outcomes.assignment _ (by omega)).bind fun item middle middleLength => ?_
    refine (outcomes.listRest middle (by omega)).bind fun others after afterLength => ?_
    refine Outcome.pure fun used list itemTokens holds => .inr ⟨comma, itemTokens ++ used, ?_⟩
    exact ⟨by simp, isComma, separated_of_listRest holds list⟩
  · exact Outcome.pure (.inl ⟨rfl, rfl⟩)

end ExpressionOutcomes

/-- With enough steps, all readers of expressions have their outcomes. -/
theorem expressionOutcomes (fuel : Nat) : ExpressionOutcomes fuel := by
  induction fuel with
  | zero =>
      constructor <;> intros <;> omega
  | succ fuel outcomes =>
      exact
        { assignment := outcomes.assignment_succ
          tier := outcomes.tier_succ
          tierRest := outcomes.tierRest_succ
          unary := outcomes.unary_succ
          callRest := outcomes.callRest_succ
          primary := outcomes.primary_succ
          listAfter := outcomes.listAfter_succ
          listRest := outcomes.listRest_succ }

theorem expression_outcome (cursor : Cursor) :
    Outcome cursor 1 Expression (expression cursor) := by
  refine (expressionOutcomes _).assignment cursor ?_
  simp only [nestingBound]
  omega

/-- The outcomes of the readers of written types. -/
structure TypeOutcomes (fuel : Nat) : Prop where
  typeWithin : ∀ cursor : Cursor, 16 * cursor.rest.length + 2 ≤ fuel →
    Outcome cursor 1 TypePhrase (typeWithin fuel cursor)
  typesWithin : ∀ cursor : Cursor, 16 * cursor.rest.length + 1 ≤ fuel →
    Outcome cursor 0 (ListRest TypePhrase) (typesWithin fuel cursor)

theorem typePhrase_of_simpleType? {token : Token} {type : WrittenType}
    (found : simpleType? token.kind = some type) : TypePhrase [token] type := by
  unfold simpleType? at found
  split at found
  · next kind => exact Option.some.inj found ▸ .number kind
  · next kind => exact Option.some.inj found ▸ .text kind
  · next kind => exact Option.some.inj found ▸ .bool kind
  · cases found

theorem typePhrase_of_separated {opening closing : Token} {tokens : List Token}
    {types : List WrittenType} (opens : opening.kind = .symbol .leftParen)
    (separated : Separated TypePhrase tokens types) (closes : closing.kind = .symbol .rightParen) :
    TypePhrase (opening :: tokens ++ [closing]) (parenthesizedType types) := by
  cases separated with
  | one holds => exact .parenthesized opens holds closes
  | @more first others comma type types holds isComma others =>
      have tuple := TypePhrase.tuple opens holds isComma others closes
      cases others <;> simpa [parenthesizedType] using tuple

namespace TypeOutcomes

variable {fuel : Nat}

theorem typeWithin_succ (outcomes : TypeOutcomes fuel) (cursor : Cursor)
    (enough : 16 * cursor.rest.length + 2 ≤ fuel + 1) :
    Outcome cursor 1 TypePhrase (Reader.typeWithin (fuel + 1) cursor) := by
  rw [Reader.typeWithin]
  refine Outcome.acceptWhere? (fun token rest type split found => ?_) fun _ => ?_
  · exact Outcome.pure (typePhrase_of_simpleType? found)
  refine Outcome.accept? (fun opening rest split opens => ?_) fun _ => ?_
  · have restLength := ExpressionOutcomes.length_past split
    refine Outcome.accept? (fun closing rest split closes => ?_) fun _ => ?_
    · exact Outcome.pure (.unit opens closes)
    refine (outcomes.typeWithin _ (by omega)).bind fun first middle middleLength => ?_
    refine (outcomes.typesWithin middle (by omega)).bind fun others after afterLength => ?_
    refine Outcome.accept? (fun closing rest split closes => ?_) fun _ => ?_
    · refine Outcome.pure fun used list firstTokens holds => ?_
      simpa using typePhrase_of_separated opens (separated_of_listRest holds list) closes
    · exact Outcome.fail _ _
  · exact Outcome.failAfter _

theorem typesWithin_succ (outcomes : TypeOutcomes fuel) (cursor : Cursor)
    (enough : 16 * cursor.rest.length + 1 ≤ fuel + 1) :
    Outcome cursor 0 (ListRest TypePhrase) (Reader.typesWithin (fuel + 1) cursor) := by
  rw [Reader.typesWithin]
  refine Outcome.accept? (fun comma rest split isComma => ?_) fun _ => ?_
  · have restLength := ExpressionOutcomes.length_past split
    refine (outcomes.typeWithin _ (by omega)).bind fun item middle middleLength => ?_
    refine (outcomes.typesWithin middle (by omega)).bind fun others after afterLength => ?_
    refine Outcome.pure fun used list itemTokens holds => .inr ⟨comma, itemTokens ++ used, ?_⟩
    exact ⟨by simp, isComma, separated_of_listRest holds list⟩
  · exact Outcome.pure (.inl ⟨rfl, rfl⟩)

end TypeOutcomes

theorem typeOutcomes (fuel : Nat) : TypeOutcomes fuel := by
  induction fuel with
  | zero =>
      constructor <;> intros <;> omega
  | succ fuel outcomes =>
      exact
        { typeWithin := outcomes.typeWithin_succ
          typesWithin := outcomes.typesWithin_succ }

theorem writtenType_outcome (cursor : Cursor) :
    Outcome cursor 1 TypePhrase (writtenType cursor) := by
  refine (typeOutcomes _).typeWithin cursor ?_
  simp only [nestingBound]
  omega

end Reader

end CheckedScript
