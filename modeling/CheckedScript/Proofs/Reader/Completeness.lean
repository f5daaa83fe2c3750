import CheckedScript.Proofs.Reader.Returns
import CheckedScript.Proofs.Reader.Soundness

/-!
# Every phrase of an expression is read

A reader of expressions that meets a phrase returns its tree and stops right
behind it, provided that the next token cannot belong to a longer phrase.  The
rules of the grammar that nest to the left are first turned into what the loops
of the readers meet: a first operand and what follows it.
-/

namespace CheckedScript

namespace Reader

open Grammar (Expression Infix Operand Unary Call Primary Separated TypePhrase)

/-- What follows the first operand of a phrase of a tier, which turns the tree
of what stands before it into the tree of the whole phrase. -/
inductive InfixRest (level : Tier) : Expr → List Token → Expr → Prop
  | done (left : Expr) : InfixRest level left [] left
  | step {left right value : Expr} {token : Token} {after others : List Token}
      {node : Token → Expr → Expr → Expr} :
      Grammar.InnerOperator level token.kind node → Operand level after right →
        InfixRest level (node token left right) others value →
        InfixRest level left (token :: after ++ others) value

theorem InfixRest.append {level : Tier} {left right value : Expr} {later after : List Token}
    {token : Token} {node : Token → Expr → Expr → Expr} (rest : InfixRest level left later value)
    (inner : Grammar.InnerOperator level token.kind node) (operand : Operand level after right) :
    InfixRest level left (later ++ token :: after) (node token value right) := by
  induction rest with
  | done left => simpa using InfixRest.step inner operand (.done _)
  | step innerFirst operandFirst _ inductionHypothesis =>
      simpa using InfixRest.step innerFirst operandFirst inductionHypothesis

theorem infixRest_of_infix (length : Nat) {level : Tier} {tokens : List Token} {value : Expr}
    (bound : tokens.length ≤ length) (infixed : Infix level tokens value) :
    ∃ first later left, tokens = first ++ later ∧ Operand level first left ∧
      InfixRest level left later value := by
  induction length generalizing tokens value with
  | zero =>
      cases infixed with
      | first operand => exact ⟨tokens, [], value, by simp, operand, .done value⟩
      | next => simp at bound
  | succ length inductionHypothesis =>
      cases infixed with
      | first operand => exact ⟨tokens, [], value, by simp, operand, .done value⟩
      | @next _ before after token left right node infixed inner operand =>
          rw [List.length_append, List.length_cons] at bound
          obtain ⟨first, later, start, rfl, firstOperand, rest⟩ :=
            inductionHypothesis (by omega) infixed
          exact ⟨first, later ++ token :: after, start, by simp, firstOperand,
            rest.append inner operand⟩

/-- The argument lists after a primary phrase. -/
inductive CallRest : Expr → List Token → Expr → Prop
  | done (callee : Expr) : CallRest callee [] callee
  | step {callee value : Expr} {opening closing : Token} {list others : List Token}
      {values : List Expr} :
      opening.kind = .symbol .leftParen → ListAfter list (values, closing) →
        CallRest (.call callee closing values) others value →
        CallRest callee (opening :: list ++ others) value

theorem CallRest.append {callee value : Expr} {later list : List Token} {opening closing : Token}
    {values : List Expr} (rest : CallRest callee later value)
    (opens : opening.kind = .symbol .leftParen) (listed : ListAfter list (values, closing)) :
    CallRest callee (later ++ opening :: list) (.call value closing values) := by
  induction rest with
  | done callee => simpa using CallRest.step opens listed (.done _)
  | step opensFirst listedFirst _ inductionHypothesis =>
      simpa using CallRest.step opensFirst listedFirst inductionHypothesis

theorem callRest_of_call (length : Nat) {tokens : List Token} {value : Expr}
    (bound : tokens.length ≤ length) (called : Call tokens value) :
    ∃ first later callee, tokens = first ++ later ∧ Primary first callee ∧
      CallRest callee later value := by
  induction length generalizing tokens value with
  | zero =>
      cases called with
      | primary primary => exact ⟨tokens, [], value, by simp, primary, .done value⟩
      | empty => simp at bound
      | arguments => simp at bound
  | succ length inductionHypothesis =>
      cases called with
      | primary primary => exact ⟨tokens, [], value, by simp, primary, .done value⟩
      | @empty tokens opening closing callee called opens closes =>
          simp only [List.length_append, List.length_cons, List.length_nil] at bound
          obtain ⟨first, later, start, rfl, primary, rest⟩ :=
            inductionHypothesis (by omega) called
          exact ⟨first, later ++ [opening, closing], start, by simp, primary,
            rest.append opens ⟨closes, .inl ⟨rfl, rfl⟩⟩⟩
      | @arguments tokens items opening closing callee values called opens separated closes =>
          simp only [List.length_append, List.length_cons, List.length_nil] at bound
          obtain ⟨first, later, start, rfl, primary, rest⟩ :=
            inductionHypothesis (by omega) called
          exact ⟨first, later ++ opening :: (items ++ [closing]), start, by simp, primary,
            rest.append opens ⟨closes, .inr ⟨items, rfl, separated⟩⟩⟩

/-- The kinds of tokens an expression may start with. -/
def startsExpression : Kind → Bool
  | .number | .text | .identifier | .keyword .trueWord | .keyword .falseWord => true
  | .symbol .leftParen | .symbol .bang | .symbol .minus => true
  | _ => false

/-- A kind that cannot continue a phrase of the given tiers. -/
def Closed (levels : List Tier) (kind : Kind) : Prop :=
  kind ≠ .symbol .leftParen ∧ ∀ level ∈ levels, level.operator? kind = none

/-- A kind that cannot continue an expression. -/
def Ends (kind : Kind) : Prop :=
  Closed tiers kind ∧ kind ≠ .symbol .equal

instance : DecidablePred Ends := fun kind =>
  inferInstanceAs (Decidable
    ((kind ≠ .symbol .leftParen ∧ ∀ level ∈ tiers, level.operator? kind = none) ∧
      kind ≠ .symbol .equal))

theorem primary_head {tokens : List Token} {value : Expr} (primary : Primary tokens value) :
    ∃ first rest, tokens = first :: rest ∧ startsExpression first.kind = true ∧
      unaryOperator? first.kind = none := by
  cases primary with
  | @literal token value isLiteral found =>
      refine ⟨token, [], rfl, ?_⟩
      generalize token.kind = kind at isLiteral
      cases isLiteral <;> exact ⟨rfl, rfl⟩
  | reference isName => exact ⟨_, [], rfl, by rw [isName]; rfl, by rw [isName]; rfl⟩
  | unit opens closes => exact ⟨_, _, rfl, by rw [opens]; rfl, by rw [opens]; rfl⟩
  | group opens holds closes => exact ⟨_, _, rfl, by rw [opens]; rfl, by rw [opens]; rfl⟩
  | tuple opens holds isComma others closes =>
      exact ⟨_, _, rfl, by rw [opens]; rfl, by rw [opens]; rfl⟩

theorem call_head {tokens : List Token} {value : Expr} (called : Call tokens value) :
    ∃ first rest, tokens = first :: rest ∧ startsExpression first.kind = true := by
  obtain ⟨start, later, callee, rfl, primary, _⟩ := callRest_of_call _ (Nat.le_refl _) called
  obtain ⟨first, rest, rfl, starts, _⟩ := primary_head primary
  exact ⟨first, rest ++ later, rfl, starts⟩

theorem unary_head {tokens : List Token} {value : Expr} (unary : Unary tokens value) :
    ∃ first rest, tokens = first :: rest ∧ startsExpression first.kind = true := by
  cases unary with
  | @operator token tokens operator operand outer holds =>
      refine ⟨token, tokens, rfl, ?_⟩
      generalize token.kind = kind at outer
      cases outer <;> rfl
  | call called => exact call_head called

theorem phrase_head {levels : List Tier} (descends : Descends levels) {tokens : List Token}
    {value : Expr} (phrase : Phrase levels tokens value) :
    ∃ first rest, tokens = first :: rest ∧ startsExpression first.kind = true := by
  induction levels generalizing tokens value with
  | nil => exact unary_head phrase
  | cons level levels inductionHypothesis =>
      obtain ⟨start, later, left, rfl, operand, _⟩ := infixRest_of_infix _ (Nat.le_refl _) phrase
      obtain ⟨first, rest, rfl, starts⟩ :=
        inductionHypothesis descends.2 ((operand_iff_phrase descends _ _).1 operand)
      exact ⟨first, rest ++ later, rfl, starts⟩

theorem expression_head {tokens : List Token} {value : Expr} (phrase : Expression tokens value) :
    ∃ first rest, tokens = first :: rest ∧ startsExpression first.kind = true := by
  cases phrase with
  | assign isName isEqual holds => exact ⟨_, _, rfl, by rw [isName]; rfl⟩
  | plain infixed => exact phrase_head descends_tiers infixed

/-- The token ahead of an expression is one that starts an expression. -/
theorem ahead_expression {tokens rest : List Token} {value : Expr} {holds : Kind → Prop}
    (phrase : Expression tokens value)
    (implies : ∀ kind, startsExpression kind = true → holds kind) :
    Ahead holds (tokens ++ rest) := by
  obtain ⟨first, others, rfl, starts⟩ := expression_head phrase
  exact ahead_cons.2 (implies first.kind starts)

/-- The place of a tier among all tiers. -/
def Tier.rank : Tier → Nat
  | .disjunction => 0
  | .conjunction => 1
  | .equality => 2
  | .comparison => 3
  | .sum => 4
  | .product => 5

theorem rank_lt_of_mem {level other : Tier} {tighter : List Tier}
    (descends : Descends (level :: tighter)) (member : other ∈ tighter) :
    level.rank < other.rank := by
  induction tighter generalizing level with
  | nil => cases member
  | cons next tighter inductionHypothesis =>
      have step : level.rank < next.rank := by
        have tighterEq := descends.1
        cases level <;> simp [Grammar.tighter?] at tighterEq <;> subst tighterEq <;> decide
      rcases List.mem_cons.1 member with rfl | member
      · exact step
      · exact Nat.lt_trans step (inductionHypothesis descends.2 member)

/-- An operator of the grammar is in the table of its tier, and in no other. -/
theorem operator?_of_innerOperator {level : Tier} {kind : Kind}
    {node : Token → Expr → Expr → Expr} (inner : Grammar.InnerOperator level kind node) :
    (∃ operator, level.operator? kind = some operator ∧
        ∀ token left right, operator.apply token left right = node token left right) ∧
      kind ≠ .symbol .leftParen ∧ kind ≠ .symbol .equal ∧
      ∀ other, other ≠ level → Tier.operator? other kind = none := by
  cases inner <;>
    exact ⟨⟨_, rfl, fun _ _ _ => rfl⟩, by decide, by decide, fun other different => by
      cases other <;> first | rfl | exact absurd rfl different⟩

theorem unaryOperator?_of_outerOperator {kind : Kind} {operator : UnaryOperator}
    (outer : Grammar.OuterOperator kind operator) : unaryOperator? kind = some operator := by
  cases outer <;> rfl

theorem constant?_eq_none {token : Token}
    (other : token.kind = .identifier ∨ token.kind = .symbol .leftParen) :
    constant? token = none := by
  rcases other with isName | opens
  · simp [constant?, isName]
  · simp [constant?, opens]

theorem closed_of_innerOperator {level : Tier} {tighter : List Tier} {kind : Kind}
    {node : Token → Expr → Expr → Expr} (descends : Descends (level :: tighter))
    (inner : Grammar.InnerOperator level kind node) : Closed tighter kind := by
  obtain ⟨_, notParen, _, others⟩ := operator?_of_innerOperator inner
  refine ⟨notParen, fun other member => others other fun same => ?_⟩
  have lower := rank_lt_of_mem descends member
  rw [same] at lower
  exact Nat.lt_irrefl _ lower

/-- What follows an operand cannot continue it. -/
theorem ahead_infixRest {level : Tier} {tighter : List Tier} {left value : Expr}
    {later rest : List Token} (descends : Descends (level :: tighter))
    (infixRest : InfixRest level left later value)
    (closed : Ahead (Closed (level :: tighter)) rest) : Ahead (Closed tighter) (later ++ rest) := by
  cases infixRest with
  | done =>
      exact closed.mono fun kind holds =>
        ⟨holds.1, fun other member => holds.2 other (List.mem_cons_of_mem level member)⟩
  | step inner => exact ahead_cons.2 (closed_of_innerOperator descends inner)

theorem listRest_of_separated {α : Type} {phrase : List Token → α → Prop} {values : List α}
    {tokens : List Token} (separated : Separated phrase tokens values) :
    ∃ first used value others, tokens = first ++ used ∧ values = value :: others ∧
      phrase first value ∧ ListRest phrase used others := by
  cases separated with
  | @one tokens value holds =>
      exact ⟨tokens, [], value, [], by simp, rfl, holds, .inl ⟨rfl, rfl⟩⟩
  | @more first tokens comma value values holds isComma others =>
      exact ⟨first, comma :: tokens, value, values, rfl, rfl, holds,
        .inr ⟨comma, tokens, rfl, isComma, others⟩⟩

/-- A primary phrase in parentheses holds a list. -/
theorem listAfter_of_separated {closing : Token} {tokens : List Token} {values : List Expr}
    (closes : closing.kind = .symbol .rightParen) (separated : Separated Expression tokens values) :
    ListAfter (tokens ++ [closing]) (values, closing) :=
  ⟨closes, .inr ⟨tokens, rfl, separated⟩⟩

theorem parenthesized_tuple {tokens : List Token} {value : Expr} {values : List Expr}
    (separated : Separated Expression tokens values) :
    parenthesized (value :: values) = .tuple (value :: values) := by
  cases separated <;> rfl

/-- The readers of expressions, each on the phrases it is meant for. -/
structure ExpressionReturns (fuel : Nat) : Prop where
  assignment : ∀ {used rest : List Token} {value : Expr}, Expression used value →
    Ahead Ends rest → 16 * used.length + 12 ≤ fuel → Returns (assignment fuel) used value rest
  tier : ∀ {levels : List Tier} {used rest : List Token} {value : Expr}, Descends levels →
    Phrase levels used value → Ahead (Closed levels) rest →
    16 * used.length + levels.length + 5 ≤ fuel → Returns (tier fuel levels) used value rest
  tierRest : ∀ {level : Tier} {tighter : List Tier} {left value : Expr} {later rest : List Token},
    Descends (level :: tighter) → InfixRest level left later value →
    Ahead (Closed (level :: tighter)) rest → 16 * later.length + tighter.length + 1 ≤ fuel →
    Returns (tierRest fuel level tighter left) later value rest
  unary : ∀ {used rest : List Token} {value : Expr}, Unary used value →
    Ahead (· ≠ .symbol .leftParen) rest → 16 * used.length + 4 ≤ fuel →
    Returns (unary fuel) used value rest
  callRest : ∀ {callee value : Expr} {later rest : List Token}, CallRest callee later value →
    Ahead (· ≠ .symbol .leftParen) rest → 16 * later.length + 1 ≤ fuel →
    Returns (callRest fuel callee) later value rest
  primary : ∀ {used rest : List Token} {value : Expr}, Primary used value →
    16 * used.length + 2 ≤ fuel → Returns (primary fuel) used value rest
  listAfter : ∀ {opening : Token} {used rest : List Token} {list : List Expr × Token},
    ListAfter used list → 16 * used.length + 13 ≤ fuel →
    Returns (listAfter fuel opening) used list rest
  listRest : ∀ {used rest : List Token} {values : List Expr}, ListRest Expression used values →
    Ahead (· = .symbol .rightParen) rest → 16 * used.length + 1 ≤ fuel →
    Returns (listRest fuel) used values rest

/-- The list of a pair of parentheses goes on with a comma or is closed. -/
theorem ahead_listRest {α : Type} {phrase : List Token → α → Prop} {used rest : List Token}
    {values : List α} {holds : Kind → Prop} (list : ListRest phrase used values) (closed : Ahead (· = .symbol .rightParen) rest)
    (comma : holds (.symbol .comma)) (paren : holds (.symbol .rightParen)) :
    Ahead holds (used ++ rest) := by
  rcases list with ⟨rfl, rfl⟩ | ⟨token, tokens, rfl, isComma, _⟩
  · exact closed.mono fun kind same => same ▸ paren
  · exact ahead_cons.2 (isComma ▸ comma)

namespace ExpressionReturns

variable {fuel : Nat}

theorem assignment_succ (returns : ExpressionReturns fuel) {used rest : List Token} {value : Expr}
    (phrase : Expression used value) (ends : Ahead Ends rest)
    (enough : 16 * used.length + 12 ≤ fuel + 1) :
    Returns (Reader.assignment (fuel + 1)) used value rest := by
  rw [Reader.assignment]
  cases phrase with
  | @assign name equals tokens value isName isEqual holds =>
      simp only [List.length_cons] at enough
      have target : Phrase tiers [name] (.reference name) :=
        .first (.tighter rfl (.first (.tighter rfl (.first (.tighter rfl (.first (.tighter rfl
          (.first (.tighter rfl (.first (.unary rfl (.call (.primary (.reference isName))))))))))))))
      have closed : Ahead (Closed tiers) ((equals :: tokens) ++ rest) := by
        refine ahead_cons.2 ⟨by simp [isEqual], fun level _ => ?_⟩
        rw [isEqual]
        cases level <;> rfl
      have first : Returns (Reader.tier fuel tiers) [name] (.reference name)
          ((equals :: tokens) ++ rest) :=
        returns.tier descends_tiers target closed (by simp [tiers]; omega)
      refine first.bind (Returns.accept? isEqual ?_)
      exact (returns.assignment holds ends (by omega)).andThen _
  | plain infixed =>
      refine Returns.bindLast
        (returns.tier descends_tiers infixed (ends.mono fun _ holds => holds.1) ?_) ?_
      · simp [tiers]
        omega
      · exact Returns.skip? (ends.mono fun _ holds => holds.2) (Returns.pure value rest)

theorem tier_succ (returns : ExpressionReturns fuel) {levels : List Tier} {used rest : List Token}
    {value : Expr} (descends : Descends levels) (phrase : Phrase levels used value)
    (closed : Ahead (Closed levels) rest)
    (enough : 16 * used.length + levels.length + 5 ≤ fuel + 1) :
    Returns (Reader.tier (fuel + 1) levels) used value rest := by
  cases levels with
  | nil =>
      rw [Reader.tier]
      rw [List.length_nil] at enough
      exact returns.unary phrase (closed.mono fun _ holds => holds.1) (by omega)
  | cons level tighter =>
      rw [Reader.tier]
      obtain ⟨first, later, left, rfl, operand, infixRest⟩ :=
        infixRest_of_infix _ (Nat.le_refl _) phrase
      rw [List.length_cons, List.length_append] at enough
      have closedFirst := ahead_infixRest descends infixRest closed
      exact Returns.bind
        (returns.tier descends.2 ((operand_iff_phrase descends _ _).1 operand) closedFirst
          (by omega))
        (returns.tierRest descends infixRest closed (by omega))

theorem tierRest_succ (returns : ExpressionReturns fuel) {level : Tier} {tighter : List Tier}
    {left value : Expr} {later rest : List Token} (descends : Descends (level :: tighter))
    (infixRest : InfixRest level left later value)
    (closed : Ahead (Closed (level :: tighter)) rest)
    (enough : 16 * later.length + tighter.length + 1 ≤ fuel + 1) :
    Returns (Reader.tierRest (fuel + 1) level tighter left) later value rest := by
  rw [Reader.tierRest]
  cases infixRest with
  | done =>
      refine Returns.skipWhere? (closed.mono fun kind holds => ?_) (Returns.pure _ rest)
      exact holds.2 level (List.mem_cons_self ..)
  | @step _ right _ token after others node inner operand others =>
      simp only [List.cons_append, List.length_cons, List.length_append] at enough
      obtain ⟨⟨operator, found, same⟩, _⟩ := operator?_of_innerOperator inner
      refine Returns.acceptWhere? found ?_
      have closedOperand := ahead_infixRest descends others closed
      refine Returns.bind
        (returns.tier descends.2 ((operand_iff_phrase descends _ _).1 operand) closedOperand
          (by omega)) ?_
      rw [same]
      exact returns.tierRest descends others closed (by omega)

theorem unary_succ (returns : ExpressionReturns fuel) {used rest : List Token} {value : Expr}
    (phrase : Unary used value) (closed : Ahead (· ≠ .symbol .leftParen) rest)
    (enough : 16 * used.length + 4 ≤ fuel + 1) :
    Returns (Reader.unary (fuel + 1)) used value rest := by
  rw [Reader.unary]
  cases phrase with
  | @operator token tokens operator operand outer holds =>
      rw [List.length_cons] at enough
      refine Returns.acceptWhere? (unaryOperator?_of_outerOperator outer) ?_
      exact (returns.unary holds closed (by omega)).andThen _
  | call called =>
      obtain ⟨first, later, callee, rfl, primary, callRest⟩ :=
        callRest_of_call _ (Nat.le_refl _) called
      rw [List.length_append] at enough
      obtain ⟨token, others, rfl, _, noOperator⟩ := primary_head primary
      refine Returns.skipWhere? (ahead_cons.2 noOperator) ?_
      exact Returns.bind (returns.primary primary (by omega))
        (returns.callRest callRest closed (by omega))

theorem callRest_succ (returns : ExpressionReturns fuel) {callee value : Expr}
    {later rest : List Token} (callRest : CallRest callee later value)
    (closed : Ahead (· ≠ .symbol .leftParen) rest) (enough : 16 * later.length + 1 ≤ fuel + 1) :
    Returns (Reader.callRest (fuel + 1) callee) later value rest := by
  rw [Reader.callRest]
  cases callRest with
  | done => exact Returns.skip? closed (Returns.pure _ rest)
  | step opens listed others =>
      simp only [List.cons_append, List.length_cons, List.length_append] at enough
      refine Returns.accept? opens ?_
      exact Returns.bind (returns.listAfter listed (by omega))
        (returns.callRest others closed (by omega))

theorem primary_succ (returns : ExpressionReturns fuel) {used rest : List Token} {value : Expr}
    (phrase : Primary used value) (enough : 16 * used.length + 2 ≤ fuel + 1) :
    Returns (Reader.primary (fuel + 1)) used value rest := by
  -- All three forms in parentheses are a list up to the parenthesis that closes it.
  have list : ∀ {opening closing : Token} {tokens : List Token} {values : List Expr},
      opening.kind = .symbol .leftParen → ListAfter tokens (values, closing) →
      16 * (tokens.length + 1) + 2 ≤ fuel + 1 →
      Returns (Reader.primary (fuel + 1)) (opening :: tokens) (parenthesized values) rest := by
    intro opening closing tokens values opens listed enough
    rw [Reader.primary]
    refine Returns.skipLiteral? (constant?_eq_none (by simp [opens])) ?_
    refine Returns.skip? (ahead_cons.2 (by simp [opens])) ?_
    refine Returns.accept? opens ?_
    exact (returns.listAfter listed (by omega)).andThen _
  cases phrase with
  | literal isLiteral found =>
      rw [Reader.primary]
      exact Returns.literal? found (Returns.pure _ rest)
  | reference isName =>
      rw [Reader.primary]
      refine Returns.skipLiteral? (constant?_eq_none (by simp [isName])) ?_
      exact Returns.accept? isName (Returns.pure _ rest)
  | unit opens closes =>
      exact list opens ⟨closes, .inl ⟨rfl, rfl⟩⟩ enough
  | group opens holds closes =>
      exact list opens (listAfter_of_separated closes (.one holds)) (by simpa using enough)
  | tuple opens holds isComma others closes =>
      rw [← parenthesized_tuple others]
      have listed := listAfter_of_separated closes (.more holds isComma others)
      simpa using list opens listed (by simpa using enough)

theorem listAfter_succ (returns : ExpressionReturns fuel) {opening : Token}
    {used rest : List Token} {list : List Expr × Token} (listed : ListAfter used list)
    (enough : 16 * used.length + 13 ≤ fuel + 1) :
    Returns (Reader.listAfter (fuel + 1) opening) used list rest := by
  rw [Reader.listAfter]
  obtain ⟨values, closing⟩ := list
  obtain ⟨closes, ⟨rfl, rfl⟩ | ⟨tokens, rfl, separated⟩⟩ := listed
  · exact Returns.accept? closes (Returns.pure _ rest)
  obtain ⟨first, used, value, others, rfl, rfl, holds, listRest⟩ :=
    listRest_of_separated separated
  simp only [List.length_append, List.length_cons, List.length_nil] at enough
  have closed : Ahead (· = .symbol .rightParen) ([closing] ++ rest) := ahead_cons.2 closes
  refine Returns.skip? ?_ ?_
  · rw [List.append_assoc, List.append_assoc]
    exact ahead_expression holds fun kind starts same => by simp [same, startsExpression] at starts
  rw [List.append_assoc]
  refine Returns.bind (returns.assignment holds ?_ (by omega)) ?_
  · rw [List.append_assoc]
    exact ahead_listRest listRest closed (by decide) (by decide)
  refine Returns.bind (returns.listRest listRest closed (by omega)) ?_
  exact Returns.accept? closes (Returns.pure _ rest)

theorem listRest_succ (returns : ExpressionReturns fuel) {used rest : List Token}
    {values : List Expr} (list : ListRest Expression used values)
    (closed : Ahead (· = .symbol .rightParen) rest) (enough : 16 * used.length + 1 ≤ fuel + 1) :
    Returns (Reader.listRest (fuel + 1)) used values rest := by
  rw [Reader.listRest]
  rcases list with ⟨rfl, rfl⟩ | ⟨comma, tokens, rfl, isComma, separated⟩
  · exact Returns.skip? (closed.mono fun kind same => by simp [same]) (Returns.pure _ rest)
  obtain ⟨first, used, value, others, rfl, rfl, holds, listRest⟩ :=
    listRest_of_separated separated
  simp only [List.length_append, List.length_cons] at enough
  refine Returns.accept? isComma ?_
  refine Returns.bind (returns.assignment holds ?_ (by omega)) ?_
  · exact ahead_listRest listRest closed (by decide) (by decide)
  exact (returns.listRest listRest closed (by omega)).andThen _

end ExpressionReturns

theorem expressionReturns (fuel : Nat) : ExpressionReturns fuel := by
  induction fuel with
  | zero =>
      constructor <;> intros <;> omega
  | succ fuel returns =>
      exact
        { assignment := returns.assignment_succ
          tier := returns.tier_succ
          tierRest := returns.tierRest_succ
          unary := returns.unary_succ
          callRest := returns.callRest_succ
          primary := returns.primary_succ
          listAfter := returns.listAfter_succ
          listRest := returns.listRest_succ }

/-- An expression is read up to a token that cannot continue it. -/
theorem expression_returns {used rest : List Token} {value : Expr}
    (phrase : Expression used value) (ends : Ahead Ends rest) :
    Returns expression used value rest := by
  intro previous diagnostics
  refine (expressionReturns _).assignment phrase ends ?_ previous diagnostics
  simp only [nestingBound, List.length_append]
  omega

theorem typePhrase_head {tokens : List Token} {type : WrittenType} (typed : TypePhrase tokens type) :
    ∃ first rest, tokens = first :: rest ∧ first.kind ≠ .symbol .rightParen := by
  cases typed with
  | number isWord | text isWord | bool isWord => exact ⟨_, _, rfl, by simp [isWord]⟩
  | unit opens | parenthesized opens | tuple opens => exact ⟨_, _, rfl, by simp [opens]⟩

theorem parenthesizedType_tuple {tokens : List Token} {type : WrittenType}
    {types : List WrittenType} (separated : Separated TypePhrase tokens types) :
    parenthesizedType (type :: types) = .tuple (type :: types) := by
  cases separated <;> rfl

/-- The readers of written types, each on the phrases it is meant for. -/
structure TypeReturns (fuel : Nat) : Prop where
  typeWithin : ∀ {used rest : List Token} {type : WrittenType}, TypePhrase used type →
    16 * used.length + 2 ≤ fuel → Returns (typeWithin fuel) used type rest
  typesWithin : ∀ {used rest : List Token} {types : List WrittenType},
    ListRest TypePhrase used types → Ahead (· = .symbol .rightParen) rest →
    16 * used.length + 1 ≤ fuel → Returns (typesWithin fuel) used types rest

namespace TypeReturns

variable {fuel : Nat}

theorem typeWithin_succ (returns : TypeReturns fuel) {used rest : List Token} {type : WrittenType}
    (typed : TypePhrase used type) (enough : 16 * used.length + 2 ≤ fuel + 1) :
    Returns (Reader.typeWithin (fuel + 1)) used type rest := by
  have list : ∀ {opening closing : Token} {tokens : List Token} {types : List WrittenType},
      opening.kind = .symbol .leftParen → Separated TypePhrase tokens types →
      closing.kind = .symbol .rightParen → 16 * (tokens.length + 2) + 2 ≤ fuel + 1 →
      Returns (Reader.typeWithin (fuel + 1)) (opening :: tokens ++ [closing])
        (parenthesizedType types) rest := by
    intro opening closing tokens types opens separated closes enough
    obtain ⟨first, used, type, others, rfl, rfl, holds, listRest⟩ :=
      listRest_of_separated separated
    rw [List.length_append] at enough
    have closed : Ahead (· = .symbol .rightParen) ([closing] ++ rest) := ahead_cons.2 closes
    rw [Reader.typeWithin, List.cons_append, List.append_assoc]
    refine Returns.skipWhere? (ahead_cons.2 (by rw [opens]; rfl)) ?_
    refine Returns.accept? opens ?_
    obtain ⟨head, tail, rfl, other⟩ := typePhrase_head holds
    refine Returns.skip? (ahead_cons.2 other) ?_
    refine Returns.bind (returns.typeWithin holds (by omega)) ?_
    refine Returns.bind (returns.typesWithin listRest closed (by omega)) ?_
    exact Returns.accept? closes (Returns.pure _ rest)
  cases typed with
  | number isWord | text isWord | bool isWord =>
      rw [Reader.typeWithin]
      exact Returns.acceptWhere? (by rw [isWord]; rfl) (Returns.pure _ rest)
  | unit opens closes =>
      rw [Reader.typeWithin]
      refine Returns.skipWhere? (ahead_cons.2 (by rw [opens]; rfl)) ?_
      exact Returns.accept? opens (Returns.accept? closes (Returns.pure _ rest))
  | parenthesized opens holds closes =>
      exact list opens (.one holds) closes (by simpa using enough)
  | tuple opens holds isComma others closes =>
      rw [← parenthesizedType_tuple others]
      simp only [List.length_append, List.length_cons, List.length_nil] at enough
      have listed := list opens (.more holds isComma others) closes
        (by simp only [List.length_append, List.length_cons]; omega)
      simpa using listed

theorem typesWithin_succ (returns : TypeReturns fuel) {used rest : List Token}
    {types : List WrittenType} (list : ListRest TypePhrase used types)
    (closed : Ahead (· = .symbol .rightParen) rest) (enough : 16 * used.length + 1 ≤ fuel + 1) :
    Returns (Reader.typesWithin (fuel + 1)) used types rest := by
  rw [Reader.typesWithin]
  rcases list with ⟨rfl, rfl⟩ | ⟨comma, tokens, rfl, isComma, separated⟩
  · exact Returns.skip? (closed.mono fun kind same => by simp [same]) (Returns.pure _ rest)
  obtain ⟨first, used, type, others, rfl, rfl, holds, listRest⟩ := listRest_of_separated separated
  simp only [List.length_append, List.length_cons] at enough
  refine Returns.accept? isComma ?_
  refine Returns.bind (returns.typeWithin holds (by omega)) ?_
  exact (returns.typesWithin listRest closed (by omega)).andThen _

end TypeReturns

theorem typeReturns (fuel : Nat) : TypeReturns fuel := by
  induction fuel with
  | zero =>
      constructor <;> intros <;> omega
  | succ fuel returns =>
      exact
        { typeWithin := returns.typeWithin_succ
          typesWithin := returns.typesWithin_succ }

theorem writtenType_returns {used rest : List Token} {type : WrittenType}
    (typed : TypePhrase used type) : Returns writtenType used type rest := by
  intro previous diagnostics
  refine (typeReturns _).typeWithin typed ?_ previous diagnostics
  simp only [nestingBound, List.length_append]
  omega

end Reader

end CheckedScript
