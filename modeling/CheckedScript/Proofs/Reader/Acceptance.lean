import CheckedScript.Proofs.Reader.Completeness
import CheckedScript.Proofs.Reader.Viability

/-!
# Loose phrases are accepted

A reader that meets a phrase of the grammar with any assignment target goes through it and stops
right behind it, unless it runs out of steps.  What it returns and records on the way is left
open; only whether an item of a block is its tail is told from the value.
-/

namespace CheckedScript

namespace Reader

open Grammar.Loose

variable {α β : Type}

/-- A reader consumes exactly the given tokens and returns a value that fits, unless it runs out of
steps. -/
def Accepts (reader : Reader α) (fits : α → Prop) (tokens rest : List Token) : Prop :=
  ∀ previous diagnostics, Exhausts (reader ⟨previous, tokens ++ rest, diagnostics⟩) ∨
    ∃ value last, reader ⟨previous, tokens ++ rest, diagnostics⟩ = .ok value last ∧ fits value ∧
      last.rest = rest

namespace Accepts

variable {fits : β → Prop} {used later rest : List Token}

theorem exhausted {fits : α → Prop} : Accepts (throw .exhausted) fits used rest :=
  fun _ _ => .inl .intro

theorem ofReturns {reader : Reader α} {fits : α → Prop} {value : α}
    (returns : Returns reader used value rest) (holds : fits value) :
    Accepts reader fits used rest := by
  intro previous diagnostics
  obtain ⟨last, equation⟩ := returns previous diagnostics
  exact .inr ⟨value, _, equation, holds, rfl⟩

theorem pure {value : β} (holds : fits value) : Accepts (Pure.pure value) fits [] rest :=
  ofReturns (.pure value rest) holds

theorem bind {first : Reader α} {next : α → Reader β} {given : α → Prop}
    (accepts : Accepts first given used (later ++ rest))
    (continues : ∀ value, given value → Accepts (next value) fits later rest) :
    Accepts (first >>= next) fits (used ++ later) rest := by
  intro previous diagnostics
  rw [List.append_assoc]
  rcases accepts previous diagnostics with exhausts | ⟨value, middle, equation, holds, same⟩
  · exact .inl exhausts.bind_first
  · rw [bind_apply, equation]
    have rest := continues value holds middle.previous middle.diagnostics
    rw [← same] at rest
    exact rest

/-- What comes next consumes nothing. -/
theorem bindLast {first : Reader α} {next : α → Reader β} {given : α → Prop}
    (accepts : Accepts first given used rest)
    (continues : ∀ value, given value → Accepts (next value) fits [] rest) :
    Accepts (first >>= next) fits used rest := by
  rw [← List.append_nil used]
  exact bind accepts continues

theorem map {reader : Reader α} {given : α → Prop} {change : α → β}
    (accepts : Accepts reader given used rest)
    (implies : ∀ value, given value → fits (change value)) :
    Accepts (change <$> reader) fits used rest := by
  rw [← bind_pure_comp]
  exact accepts.bindLast fun value holds => pure (implies value holds)

/-- After a reader whose value is known. -/
theorem after (used : List Token) {first : Reader α} {next : α → Reader β} {value : α}
    (returns : Returns first used value (later ++ rest))
    (continues : Accepts (next value) fits later rest) :
    Accepts (first >>= next) fits (used ++ later) rest :=
  have known : Accepts first (· = value) used (later ++ rest) := ofReturns returns rfl
  known.bind fun _ same => same ▸ continues

theorem acceptWhere? {choose : Kind → Option α} {next : Option (α × Token) → Reader β}
    {token : Token} {chosen : α} (found : choose token.kind = some chosen)
    (continues : Accepts (next (some (chosen, token))) fits later rest) :
    Accepts (Reader.acceptWhere? choose >>= next) fits (token :: later) rest :=
  have returns : Returns (Reader.acceptWhere? choose >>= Pure.pure) [token] _ (later ++ rest) :=
    .acceptWhere? found (.pure _ _)
  after [token] (by simpa using returns) continues

theorem skipWhere? {choose : Kind → Option α} {next : Option (α × Token) → Reader β}
    (other : Ahead (fun kind => choose kind = none) (used ++ rest))
    (continues : Accepts (next none) fits used rest) :
    Accepts (Reader.acceptWhere? choose >>= next) fits used rest :=
  have returns : Returns (Reader.acceptWhere? choose >>= Pure.pure) [] none (used ++ rest) :=
    .skipWhere? other (.pure _ _)
  after [] (by simpa using returns) continues

theorem accept? {kind : Kind} {next : Option Token → Reader β} {token : Token}
    (same : token.kind = kind) (continues : Accepts (next (some token)) fits later rest) :
    Accepts (Reader.accept? kind >>= next) fits (token :: later) rest :=
  have returns : Returns (Reader.accept? kind >>= Pure.pure) [token] _ (later ++ rest) :=
    .accept? same (.pure _ _)
  after [token] (by simpa using returns) continues

theorem skip? {kind : Kind} {next : Option Token → Reader β}
    (other : Ahead (· ≠ kind) (used ++ rest)) (continues : Accepts (next none) fits used rest) :
    Accepts (Reader.accept? kind >>= next) fits used rest :=
  have returns : Returns (Reader.accept? kind >>= Pure.pure) [] none (used ++ rest) :=
    .skip? other (.pure _ _)
  after [] (by simpa using returns) continues

theorem expect {kind : Kind} {next : Token → Reader β} {token : Token} (same : token.kind = kind)
    (continues : Accepts (next token) fits later rest) :
    Accepts (Reader.expect kind >>= next) fits (token :: later) rest := by
  rw [Reader.expect, bind_assoc]
  exact accept? same continues

theorem expectName {next : Token → Reader β} {token : Token} (same : token.kind = .identifier)
    (continues : Accepts (next token) fits later rest) :
    Accepts (Reader.expectName >>= next) fits (token :: later) rest := by
  rw [Reader.expectName, bind_assoc]
  exact accept? same continues

theorem literal? {next : Option Expr → Reader β} {token : Token} {constant : Constant}
    (found : constant? token = some constant)
    (continues : Accepts (next (some (.literal constant token))) fits later rest) :
    Accepts (Reader.literal? >>= next) fits (token :: later) rest :=
  have returns : Returns (Reader.literal? >>= Pure.pure) [token] _ (later ++ rest) :=
    .literal? found (.pure _ _)
  after [token] (by simpa using returns) continues

theorem skipLiteral? {next : Option Expr → Reader β} {token : Token}
    (other : constant? token = none) (continues : Accepts (next none) fits (token :: later) rest) :
    Accepts (Reader.literal? >>= next) fits (token :: later) rest := by
  intro previous diagnostics
  rcases literal?_apply ⟨previous, token :: later ++ rest, diagnostics⟩ with
    ⟨_, _, value, split, same, _⟩ | ⟨_, left⟩
  · obtain ⟨rfl, rfl⟩ := List.cons.inj split
    simp [other] at same
  · rw [bind_apply, left]
    exact continues previous diagnostics

/-- The next token is looked at without consuming it. -/
theorem nextKind? {next : Option Kind → Reader β}
    (continues : Accepts (next ((used ++ rest).head?.map (·.kind))) fits used rest) :
    Accepts (Reader.nextKind? >>= next) fits used rest :=
  continues

theorem nextIs {kind : Kind} {next : Bool → Reader β}
    (continues :
      Accepts (next (decide ((used ++ rest).head?.map (·.kind) = some kind))) fits used rest) :
    Accepts (Reader.nextIs kind >>= next) fits used rest :=
  continues

/-- A reader whose bound on the steps is taken from the tokens that are left. -/
theorem measured {reader : Nat → Reader β} {bound : Nat → Nat}
    (accepts : ∀ fuel, Accepts (reader fuel) fits used rest) :
    Accepts (fun cursor => reader (bound cursor.rest.length) cursor) fits used rest :=
  fun previous diagnostics => accepts (bound (used ++ rest).length) previous diagnostics

end Accepts

/-- Nothing is asked of a value. -/
def Anything (_ : α) : Prop :=
  True

theorem constant?_of_literalKind {token : Token} (literal : Grammar.LiteralKind token.kind) :
    ∃ value, constant? token = some value := by
  generalize kindEq : token.kind = kind at literal
  cases literal with
  | number =>
      rw [constant?, kindEq]
      dsimp only
      split <;> exact ⟨_, rfl⟩
  | text =>
      rw [constant?, kindEq]
      dsimp only
      split <;> exact ⟨_, rfl⟩
  | trueWord => exact ⟨.bool true, by rw [constant?, kindEq]⟩
  | falseWord => exact ⟨.bool false, by rw [constant?, kindEq]⟩

theorem loosePrimary_head {tokens : List Token} (primary : Primary tokens) :
    ∃ first rest, tokens = first :: rest ∧ startsExpression first.kind = true ∧
      unaryOperator? first.kind = none := by
  cases primary with
  | @literal token isLiteral =>
      refine ⟨token, [], rfl, ?_⟩
      generalize token.kind = kind at isLiteral
      cases isLiteral <;> exact ⟨rfl, rfl⟩
  | reference isName => exact ⟨_, [], rfl, by rw [isName]; rfl, by rw [isName]; rfl⟩
  | parenthesized opens listed => exact ⟨_, _, rfl, by rw [opens]; rfl, by rw [opens]; rfl⟩

theorem looseUnary_head {tokens : List Token} (unary : Unary tokens) :
    ∃ first rest, tokens = first :: rest ∧ startsExpression first.kind = true := by
  cases unary with
  | @operator token tokens operator outer holds =>
      refine ⟨token, tokens, rfl, ?_⟩
      generalize token.kind = kind at outer
      cases outer <;> rfl
  | call primary calls =>
      obtain ⟨first, rest, rfl, starts, _⟩ := loosePrimary_head primary
      exact ⟨first, _, rfl, starts⟩

theorem loosePhrase_head {levels : List Tier} (descends : Descends levels) {tokens : List Token}
    (phrase : LoosePhrase levels tokens) :
    ∃ first rest, tokens = first :: rest ∧ startsExpression first.kind = true := by
  induction levels generalizing tokens with
  | nil => exact looseUnary_head phrase
  | cons level levels inductionHypothesis =>
      cases phrase with
      | operand operand others =>
          obtain ⟨first, rest, rfl, starts⟩ :=
            inductionHypothesis descends.2 (loosePhrase_of_operand descends operand)
          exact ⟨first, _, rfl, starts⟩

theorem looseExpression_head {tokens : List Token} (phrase : Expression tokens) :
    ∃ first rest, tokens = first :: rest ∧ startsExpression first.kind = true := by
  cases phrase with
  | assign target isEqual holds =>
      obtain ⟨first, rest, rfl, starts⟩ := loosePhrase_head descends_tiers target
      exact ⟨first, _, rfl, starts⟩
  | plain infixed => exact loosePhrase_head descends_tiers infixed

/-- The token ahead of an expression is one that starts an expression. -/
theorem ahead_looseExpression {tokens rest : List Token} {holds : Kind → Prop}
    (phrase : Expression tokens) (implies : ∀ kind, startsExpression kind = true → holds kind) :
    Ahead holds (tokens ++ rest) := by
  obtain ⟨first, others, rfl, starts⟩ := looseExpression_head phrase
  exact ahead_cons.2 (implies first.kind starts)

/-- What follows an operand cannot continue it. -/
theorem ahead_operators {level : Tier} {tighter : List Tier} {later rest : List Token}
    (descends : Descends (level :: tighter)) (operators : Operators level later)
    (closed : Ahead (Closed (level :: tighter)) rest) : Ahead (Closed tighter) (later ++ rest) := by
  cases operators with
  | none =>
      exact closed.mono fun kind holds =>
        ⟨holds.1, fun other member => holds.2 other (List.mem_cons_of_mem level member)⟩
  | some inner => exact ahead_cons.2 (closed_of_innerOperator descends inner)

/-- The list of a pair of parentheses goes on with a comma or is closed. -/
theorem ahead_looseItems {used rest : List Token} {holds : Kind → Prop} (items : Items used)
    (closed : Ahead (· = .symbol .rightParen) rest) (comma : holds (.symbol .comma))
    (paren : holds (.symbol .rightParen)) : Ahead holds (used ++ rest) := by
  cases items with
  | none => exact closed.mono fun kind same => same ▸ paren
  | some isComma => exact ahead_cons.2 (isComma ▸ comma)

/-- The readers of expressions, each on the phrases it is meant for. -/
structure ExpressionAccepts (fuel : Nat) : Prop where
  assignment : ∀ {used rest : List Token}, Expression used → Ahead Ends rest →
    Accepts (assignment fuel) Anything used rest
  tier : ∀ {levels : List Tier} {used rest : List Token}, Descends levels →
    LoosePhrase levels used → Ahead (Closed levels) rest →
    Accepts (tier fuel levels) Anything used rest
  tierRest : ∀ {level : Tier} {tighter : List Tier} {later rest : List Token} (left : Expr),
    Descends (level :: tighter) → Operators level later → Ahead (Closed (level :: tighter)) rest →
    Accepts (tierRest fuel level tighter left) Anything later rest
  unary : ∀ {used rest : List Token}, Unary used → Ahead (· ≠ .symbol .leftParen) rest →
    Accepts (unary fuel) Anything used rest
  callRest : ∀ {later rest : List Token} (callee : Expr), Calls later →
    Ahead (· ≠ .symbol .leftParen) rest → Accepts (callRest fuel callee) Anything later rest
  primary : ∀ {used rest : List Token}, Primary used → Accepts (primary fuel) Anything used rest
  listAfter : ∀ {used rest : List Token} (opening : Token), Listed used →
    Accepts (listAfter fuel opening) Anything used rest
  listRest : ∀ {used rest : List Token}, Items used → Ahead (· = .symbol .rightParen) rest →
    Accepts (listRest fuel) Anything used rest

namespace ExpressionAccepts

variable {fuel : Nat}

theorem assignment_succ (accepts : ExpressionAccepts fuel) {used rest : List Token}
    (phrase : Expression used) (ends : Ahead Ends rest) :
    Accepts (Reader.assignment (fuel + 1)) Anything used rest := by
  rw [Reader.assignment]
  cases phrase with
  | @assign equals target tokens isTarget isEqual holds =>
      have closed : Ahead (Closed tiers) (equals :: tokens ++ rest) := by
        refine ahead_cons.2 ⟨by simp [isEqual], fun level _ => ?_⟩
        rw [isEqual]
        cases level <;> rfl
      refine (accepts.tier descends_tiers isTarget closed).bind fun target _ => ?_
      refine Accepts.accept? isEqual ((accepts.assignment holds ends).bindLast fun value _ => ?_)
      cases target with
      | reference name => exact .pure trivial
      | _ =>
          intro previous diagnostics
          exact .inr ⟨_, _, rfl, trivial, rfl⟩
  | plain infixed =>
      refine (accepts.tier descends_tiers infixed (ends.mono fun _ holds => holds.1)).bindLast
        fun target _ => ?_
      exact Accepts.skip? (ends.mono fun _ holds => holds.2) (.pure trivial)

theorem tier_succ (accepts : ExpressionAccepts fuel) {levels : List Tier} {used rest : List Token}
    (descends : Descends levels) (phrase : LoosePhrase levels used)
    (closed : Ahead (Closed levels) rest) :
    Accepts (Reader.tier (fuel + 1) levels) Anything used rest := by
  cases levels with
  | nil =>
      rw [Reader.tier]
      exact accepts.unary phrase (closed.mono fun _ holds => holds.1)
  | cons level tighter =>
      rw [Reader.tier]
      cases phrase with
      | operand operand operators =>
          refine (accepts.tier descends.2 (loosePhrase_of_operand descends operand)
            (ahead_operators descends operators closed)).bind fun left _ => ?_
          exact accepts.tierRest left descends operators closed

theorem tierRest_succ (accepts : ExpressionAccepts fuel) {level : Tier} {tighter : List Tier}
    {later rest : List Token} (left : Expr) (descends : Descends (level :: tighter))
    (operators : Operators level later) (closed : Ahead (Closed (level :: tighter)) rest) :
    Accepts (Reader.tierRest (fuel + 1) level tighter left) Anything later rest := by
  rw [Reader.tierRest]
  cases operators with
  | none =>
      refine Accepts.skipWhere? (closed.mono fun kind holds => ?_) (.pure trivial)
      exact holds.2 level (List.mem_cons_self ..)
  | some inner operand others =>
      obtain ⟨⟨operator, found, _⟩, _⟩ := operator?_of_innerOperator inner
      refine Accepts.acceptWhere? found ?_
      refine (accepts.tier descends.2 (loosePhrase_of_operand descends operand)
        (ahead_operators descends others closed)).bind fun right _ => ?_
      exact accepts.tierRest _ descends others closed

theorem unary_succ (accepts : ExpressionAccepts fuel) {used rest : List Token}
    (phrase : Unary used) (closed : Ahead (· ≠ .symbol .leftParen) rest) :
    Accepts (Reader.unary (fuel + 1)) Anything used rest := by
  rw [Reader.unary]
  cases phrase with
  | operator outer holds =>
      refine Accepts.acceptWhere? (unaryOperator?_of_outerOperator outer) ?_
      exact (accepts.unary holds closed).bindLast fun operand _ => .pure trivial
  | call primary calls =>
      obtain ⟨token, others, rfl, _, noOperator⟩ := loosePrimary_head primary
      refine Accepts.skipWhere? (ahead_cons.2 noOperator) ?_
      exact (accepts.primary primary).bind fun callee _ => accepts.callRest callee calls closed

theorem callRest_succ (accepts : ExpressionAccepts fuel) {later rest : List Token} (callee : Expr)
    (calls : Calls later) (closed : Ahead (· ≠ .symbol .leftParen) rest) :
    Accepts (Reader.callRest (fuel + 1) callee) Anything later rest := by
  rw [Reader.callRest]
  cases calls with
  | none => exact Accepts.skip? closed (.pure trivial)
  | some opens listed others =>
      refine Accepts.accept? opens ?_
      exact (accepts.listAfter _ listed).bind fun list _ => accepts.callRest _ others closed

theorem primary_succ (accepts : ExpressionAccepts fuel) {used rest : List Token}
    (phrase : Primary used) : Accepts (Reader.primary (fuel + 1)) Anything used rest := by
  rw [Reader.primary]
  cases phrase with
  | literal isLiteral =>
      obtain ⟨value, found⟩ := constant?_of_literalKind isLiteral
      exact Accepts.literal? found (.pure trivial)
  | reference isName =>
      refine Accepts.skipLiteral? (constant?_eq_none (by simp [isName])) ?_
      exact Accepts.accept? isName (.pure trivial)
  | parenthesized opens listed =>
      refine Accepts.skipLiteral? (constant?_eq_none (by simp [opens])) ?_
      refine Accepts.skip? (ahead_cons.2 (by simp [opens])) (Accepts.accept? opens ?_)
      exact (accepts.listAfter _ listed).bindLast fun list _ => .pure trivial

theorem listAfter_succ (accepts : ExpressionAccepts fuel) {used rest : List Token} (opening : Token)
    (listed : Listed used) : Accepts (Reader.listAfter (fuel + 1) opening) Anything used rest := by
  rw [Reader.listAfter]
  cases listed with
  | empty closes => exact Accepts.accept? closes (.pure trivial)
  | @items closing tokens others holds items closes =>
      have closed : Ahead (· = .symbol .rightParen) ([closing] ++ rest) := ahead_cons.2 closes
      rw [List.append_assoc]
      refine Accepts.skip? ?_ ?_
      · rw [List.append_assoc]
        exact ahead_looseExpression holds fun kind starts same => by
          simp [same, startsExpression] at starts
      refine (accepts.assignment holds ?_).bind fun first _ => ?_
      · rw [List.append_assoc]
        exact ahead_looseItems items closed (by decide) (by decide)
      refine (accepts.listRest items closed).bind fun others _ => ?_
      exact Accepts.accept? closes (.pure trivial)

theorem listRest_succ (accepts : ExpressionAccepts fuel) {used rest : List Token}
    (items : Items used) (closed : Ahead (· = .symbol .rightParen) rest) :
    Accepts (Reader.listRest (fuel + 1)) Anything used rest := by
  rw [Reader.listRest]
  cases items with
  | none => exact Accepts.skip? (closed.mono fun kind same => by simp [same]) (.pure trivial)
  | some isComma holds others =>
      refine Accepts.accept? isComma ?_
      refine (accepts.assignment holds (ahead_looseItems others closed (by decide) (by decide))).bind
        fun item _ => ?_
      exact (accepts.listRest others closed).bindLast fun items _ => .pure trivial

end ExpressionAccepts

theorem expressionAccepts (fuel : Nat) : ExpressionAccepts fuel := by
  induction fuel with
  | zero => constructor <;> intros <;> exact .exhausted
  | succ fuel accepts =>
      exact
        { assignment := accepts.assignment_succ
          tier := accepts.tier_succ
          tierRest := accepts.tierRest_succ
          unary := accepts.unary_succ
          callRest := accepts.callRest_succ
          primary := accepts.primary_succ
          listAfter := accepts.listAfter_succ
          listRest := accepts.listRest_succ }

/-- An expression is accepted up to a token that cannot continue it. -/
theorem expression_accepts {used rest : List Token} (phrase : Expression used)
    (ends : Ahead Ends rest) : Accepts expression Anything used rest :=
  .measured fun fuel => (expressionAccepts fuel).assignment phrase ends

end Reader

end CheckedScript
