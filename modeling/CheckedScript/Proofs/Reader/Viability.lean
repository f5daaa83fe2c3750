import CheckedScript.Proofs.LooseGrammar
import CheckedScript.Proofs.Reader.Soundness
import CheckedScript.Proofs.Reader.Stopping

/-!
# What has been consumed can be completed

`Reaches` says of a run that the tokens it has consumed form a phrase if it returns, and begin a
phrase if it fails.  On the way nothing but invalid assignment targets is recorded, and no run
fails for one.  A reader is shown to reach a phrase by going through its definition; wherever it
may fail, a way has to be known to complete what has been consumed before.
-/

namespace CheckedScript

namespace Reader

open Grammar (TypePhrase Name Parameters Separated)
open Grammar.Loose

variable {α β : Type}

/-- Only invalid assignment targets have been recorded between two cursors. -/
def Noted (before after : Cursor) : Prop :=
  ∃ new, after.diagnostics = before.diagnostics ++ new ∧
    ∀ diagnostic ∈ new, diagnostic.cause = .invalidTarget

namespace Noted

theorem refl (cursor : Cursor) : Noted cursor cursor :=
  ⟨[], by simp, by simp⟩

theorem trans {before middle after : Cursor} (first : Noted before middle)
    (second : Noted middle after) : Noted before after := by
  obtain ⟨new, recorded, targets⟩ := first
  obtain ⟨more, recordedMore, targetsMore⟩ := second
  exact ⟨new ++ more, by rw [recordedMore, recorded, List.append_assoc],
    List.forall_mem_append.2 ⟨targets, targetsMore⟩⟩

end Noted

/-- A run that returns has consumed a phrase, and one that fails has consumed what a phrase begins
with. -/
def Reaches (cursor : Cursor) (phrase : List Token → Prop) :
    EStateM.Result Stop Cursor α → Prop
  | .ok _ after => Noted cursor after ∧ ∃ used, cursor.rest = used ++ after.rest ∧ phrase used
  | .error (.failed diagnostic) after =>
      Noted cursor after ∧ diagnostic.cause ≠ .invalidTarget ∧
        ∃ used, cursor.rest = used ++ after.rest ∧ ∃ more, phrase (used ++ more)
  | .error .exhausted _ => True

namespace Reaches

variable {cursor : Cursor} {phrase other : List Token → Prop}

theorem mono {result : EStateM.Result Stop Cursor α} (reaches : Reaches cursor phrase result)
    (implies : ∀ used, phrase used → other used) : Reaches cursor other result := by
  match result, reaches with
  | .ok _ after, ⟨noted, used, split, holds⟩ => exact ⟨noted, used, split, implies used holds⟩
  | .error (.failed _) after, ⟨noted, proper, used, split, more, holds⟩ =>
      exact ⟨noted, proper, used, split, more, implies _ holds⟩
  | .error .exhausted _, _ => trivial

theorem exhausted : Reaches cursor phrase ((throw .exhausted : Reader α) cursor) :=
  trivial

theorem pure {value : α} (holds : phrase []) :
    Reaches cursor phrase ((Pure.pure value : Reader α) cursor) :=
  ⟨.refl cursor, [], rfl, holds⟩

theorem fail {cause : Cause} {token : Token} (proper : cause ≠ .invalidTarget)
    (possible : ∃ more, phrase more) :
    Reaches cursor phrase ((Reader.fail cause token : Reader α) cursor) :=
  ⟨.refl cursor, proper, [], rfl, possible⟩

theorem failAfter {cause : Cause} (proper : cause ≠ .invalidTarget)
    (possible : ∃ more, phrase more) :
    Reaches cursor phrase ((Reader.failAfter cause : Reader α) cursor) :=
  ⟨.refl cursor, proper, [], rfl, possible⟩

/-- Two readers in a row, provided that what the first one consumes can be completed. -/
theorem bind {first : Reader α} {next : α → Reader β} {whole : List Token → Prop}
    (reaches : Reaches cursor phrase (first cursor))
    (possible : ∃ more, ∀ used, phrase used → whole (used ++ more))
    (continues : ∀ value after,
      Reaches after (fun later => ∀ used, phrase used → whole (used ++ later)) (next value after)) :
    Reaches cursor whole ((first >>= next) cursor) := by
  rw [bind_apply]
  match equation : first cursor with
  | .error .exhausted _ => trivial
  | .error (.failed _) after =>
      rw [equation] at reaches
      obtain ⟨noted, proper, used, split, more, holds⟩ := reaches
      obtain ⟨rest, completes⟩ := possible
      exact ⟨noted, proper, used, split, more ++ rest, by
        simpa using completes _ holds⟩
  | .ok value middle =>
      rw [equation] at reaches
      obtain ⟨noted, used, split, holds⟩ := reaches
      have rest := continues value middle
      match finish : next value middle with
      | .error .exhausted _ =>
          simp only [finish]
          trivial
      | .error (.failed _) after =>
          simp only [finish] at rest ⊢
          obtain ⟨notedRest, proper, later, splitRest, more, completes⟩ := rest
          exact ⟨noted.trans notedRest, proper, used ++ later, by
            rw [split, splitRest, List.append_assoc], more, by simpa using completes used holds⟩
      | .ok _ after =>
          simp only [finish] at rest ⊢
          obtain ⟨notedRest, later, splitRest, holdsRest⟩ := rest
          exact ⟨noted.trans notedRest, used ++ later, by
            rw [split, splitRest, List.append_assoc], holdsRest used holds⟩

theorem map {reader : Reader α} (change : α → β) (reaches : Reaches cursor phrase (reader cursor)) :
    Reaches cursor phrase ((change <$> reader) cursor) := by
  rw [← bind_pure_comp]
  exact reaches.bind ⟨[], fun used holds => by simpa using holds⟩
    fun value after => pure fun used holds => by simpa using holds

/-- What follows a consumed token, seen from the cursor before that token. -/
theorem past {token : Token} {rest : List Token} {result : EStateM.Result Stop Cursor α}
    (split : cursor.rest = token :: rest)
    (reaches : Reaches (cursor.past token rest) (fun used => phrase (token :: used)) result) :
    Reaches cursor phrase result := by
  match result, reaches with
  | .ok _ after, ⟨noted, used, splitRest, holds⟩ =>
      have splitRest : rest = used ++ after.rest := splitRest
      exact ⟨noted, token :: used, by rw [split, splitRest, List.cons_append], holds⟩
  | .error (.failed _) after, ⟨noted, proper, used, splitRest, more, holds⟩ =>
      have splitRest : rest = used ++ after.rest := splitRest
      exact ⟨noted, proper, token :: used, by rw [split, splitRest, List.cons_append], more, holds⟩
  | .error .exhausted _, _ => trivial

/-- Go on after a token that may or may not be chosen. -/
theorem acceptWhere? {choose : Kind → Option α} {next : Option (α × Token) → Reader β}
    (chosen : ∀ token rest value, choose token.kind = some value →
      Reaches (cursor.past token rest) (fun used => phrase (token :: used))
        (next (some (value, token)) (cursor.past token rest)))
    (left : Reaches cursor phrase (next none cursor)) :
    Reaches cursor phrase ((Reader.acceptWhere? choose >>= next) cursor) := by
  rw [bind_apply]
  rcases acceptWhere?_apply choose cursor with
    ⟨token, rest, value, split, accepted, equation⟩ | ⟨_, equation⟩
  · rw [equation]
    exact past split (chosen token rest value accepted)
  · rw [equation]
    exact left

/-- Go on after a token that may or may not have a given kind. -/
theorem accept? {kind : Kind} {next : Option Token → Reader β}
    (found : ∀ token rest, token.kind = kind →
      Reaches (cursor.past token rest) (fun used => phrase (token :: used))
        (next (some token) (cursor.past token rest)))
    (missing : Reaches cursor phrase (next none cursor)) :
    Reaches cursor phrase ((Reader.accept? kind >>= next) cursor) := by
  rw [bind_apply]
  rcases accept?_apply kind cursor with ⟨token, rest, split, same, equation⟩ | ⟨_, equation⟩
  · rw [equation]
    exact past split (found token rest same)
  · rw [equation]
    exact missing

/-- Go on after a token that may or may not be a literal. -/
theorem literal? {next : Option Expr → Reader β}
    (found : ∀ token rest value, constant? token = some value →
      Reaches (cursor.past token rest) (fun used => phrase (token :: used))
        (next (some (.literal value token)) (cursor.past token rest)))
    (missing : Reaches cursor phrase (next none cursor)) :
    Reaches cursor phrase ((Reader.literal? >>= next) cursor) := by
  rw [bind_apply]
  rcases literal?_apply cursor with
    ⟨token, rest, value, split, constant, equation⟩ | ⟨_, equation⟩
  · rw [equation]
    exact past split (found token rest value constant)
  · rw [equation]
    exact missing

/-- Go on after a token that has to have a given kind. -/
theorem expect {kind : Kind} {next : Token → Reader β} (possible : ∃ more, phrase more)
    (found : ∀ token rest, token.kind = kind →
      Reaches (cursor.past token rest) (fun used => phrase (token :: used))
        (next token (cursor.past token rest))) :
    Reaches cursor phrase ((Reader.expect kind >>= next) cursor) := by
  rw [Reader.expect, bind_assoc]
  refine accept? found ?_
  rw [bind_apply]
  exact failAfter (by simp) possible

/-- Go on after an identifier. -/
theorem expectName {next : Token → Reader β} (possible : ∃ more, phrase more)
    (found : ∀ token rest, token.kind = .identifier →
      Reaches (cursor.past token rest) (fun used => phrase (token :: used))
        (next token (cursor.past token rest))) :
    Reaches cursor phrase ((Reader.expectName >>= next) cursor) := by
  rw [Reader.expectName, bind_assoc]
  refine accept? found ?_
  rw [bind_apply]
  exact failAfter (by simp) possible

end Reaches

/-- A token of a given kind. -/
def sample (kind : Kind) : Token where
  kind := kind
  lexeme := ""
  position := .origin

theorem kind_sample (kind : Kind) : (sample kind).kind = kind :=
  rfl

/-- The phrases that `tier` reads for given tiers. -/
def LoosePhrase : List Tier → List Token → Prop
  | [] => Unary
  | level :: _ => Infix level

theorem operand_of_loosePhrase {level : Tier} {levels : List Tier}
    (descends : Descends (level :: levels)) {tokens : List Token}
    (phrase : LoosePhrase levels tokens) : Operand level tokens := by
  cases levels with
  | nil => exact .unary descends.1 phrase
  | cons next levels => exact .tighter descends.1 phrase

theorem loosePhrase_of_operand {level : Tier} {levels : List Tier}
    (descends : Descends (level :: levels)) {tokens : List Token}
    (operand : Operand level tokens) : LoosePhrase levels tokens := by
  have tighter := descends.1
  cases operand with
  | tighter inner phrase =>
      cases levels with
      | nil => simp [inner] at tighter
      | cons next levels =>
          rw [inner, List.head?_cons, Option.some.injEq] at tighter
          exact tighter ▸ phrase
  | unary none phrase =>
      cases levels with
      | nil => exact phrase
      | cons next levels => simp [none] at tighter

/-- A name is a phrase of all tiers. -/
theorem loosePhrase_name {levels : List Tier} (descends : Descends levels) {name : Token}
    (isName : name.kind = .identifier) : LoosePhrase levels [name] := by
  induction levels with
  | nil => exact .call (.reference isName) .none
  | cons level levels inductionHypothesis =>
      exact .operand (operand_of_loosePhrase descends (inductionHypothesis descends.2)) .none

theorem expression_name {name : Token} (isName : name.kind = .identifier) : Expression [name] :=
  .plain (loosePhrase_name descends_tiers isName)

/-- Every expression can be a name. -/
theorem expression_sample : Expression [sample .identifier] :=
  expression_name rfl

/-- The readers of expressions, each with the phrases it is meant for. -/
structure ExpressionReaches (fuel : Nat) : Prop where
  assignment : ∀ cursor, Reaches cursor Expression (assignment fuel cursor)
  tier : ∀ levels cursor, Descends levels →
    Reaches cursor (LoosePhrase levels) (tier fuel levels cursor)
  tierRest : ∀ level tighter left cursor, Descends (level :: tighter) →
    Reaches cursor (Operators level) (tierRest fuel level tighter left cursor)
  unary : ∀ cursor, Reaches cursor Unary (unary fuel cursor)
  callRest : ∀ callee cursor, Reaches cursor Calls (callRest fuel callee cursor)
  primary : ∀ cursor, Reaches cursor Primary (primary fuel cursor)
  listAfter : ∀ opening cursor, Reaches cursor Listed (listAfter fuel opening cursor)
  listRest : ∀ cursor, Reaches cursor Items (listRest fuel cursor)

namespace ExpressionReaches

variable {fuel : Nat}

theorem assignment_succ (reaches : ExpressionReaches fuel) (cursor : Cursor) :
    Reaches cursor Expression (Reader.assignment (fuel + 1) cursor) := by
  rw [Reader.assignment]
  refine (reaches.tier tiers cursor descends_tiers).bind
    ⟨[], fun target holds => by simpa using .plain holds⟩ fun target middle => ?_
  refine Reaches.accept? (fun equals rest isEqual => ?_) ?_
  · refine (reaches.assignment _).bind
      ⟨[], fun tokens holds target isTarget => by simpa using .assign isTarget isEqual holds⟩
      fun value after => ?_
    have whole : ∀ tokens, Expression tokens → ∀ target, LoosePhrase tiers target →
        Expression (target ++ equals :: (tokens ++ [])) := by
      intro tokens holds target isTarget
      rw [List.append_nil]
      exact .assign isTarget isEqual holds
    cases target with
    | reference name => exact Reaches.pure whole
    | _ =>
        refine ⟨⟨[_], rfl, by simp⟩, [], rfl, whole⟩
  · exact Reaches.pure fun target holds => by simpa using .plain holds

theorem tier_succ (reaches : ExpressionReaches fuel) (levels : List Tier) (cursor : Cursor)
    (descends : Descends levels) :
    Reaches cursor (LoosePhrase levels) (Reader.tier (fuel + 1) levels cursor) := by
  cases levels with
  | nil =>
      rw [Reader.tier]
      exact reaches.unary cursor
  | cons level tighter =>
      rw [Reader.tier]
      refine (reaches.tier tighter cursor descends.2).bind
        ⟨[], fun tokens holds => .operand (operand_of_loosePhrase descends holds) .none⟩
        fun left middle => ?_
      exact (reaches.tierRest level tighter left middle descends).mono
        fun later rest tokens holds => .operand (operand_of_loosePhrase descends holds) rest

theorem tierRest_succ (reaches : ExpressionReaches fuel) (level : Tier) (tighter : List Tier)
    (left : Expr) (cursor : Cursor) (descends : Descends (level :: tighter)) :
    Reaches cursor (Operators level) (Reader.tierRest (fuel + 1) level tighter left cursor) := by
  rw [Reader.tierRest]
  refine Reaches.acceptWhere? (fun token rest operator found => ?_) (.pure .none)
  have inner := innerOperator_of_operator? found
  refine (reaches.tier tighter _ descends.2).bind
    ⟨[], fun tokens holds => .some inner (operand_of_loosePhrase descends holds) .none⟩
    fun right middle => ?_
  exact (reaches.tierRest level tighter _ middle descends).mono
    fun later rest tokens holds => .some inner (operand_of_loosePhrase descends holds) rest

theorem unary_succ (reaches : ExpressionReaches fuel) (cursor : Cursor) :
    Reaches cursor Unary (Reader.unary (fuel + 1) cursor) := by
  rw [Reader.unary]
  refine Reaches.acceptWhere? (fun token rest operator found => ?_) ?_
  · have outer := outerOperator_of_unaryOperator? found
    refine (reaches.unary _).bind ⟨[], fun tokens holds => by simpa using .operator outer holds⟩
      fun operand middle => ?_
    exact .pure fun tokens holds => by simpa using .operator outer holds
  · refine (reaches.primary cursor).bind ⟨[], fun tokens holds => .call holds .none⟩
      fun callee middle => ?_
    exact (reaches.callRest callee middle).mono fun later rest tokens holds => .call holds rest

theorem callRest_succ (reaches : ExpressionReaches fuel) (callee : Expr) (cursor : Cursor) :
    Reaches cursor Calls (Reader.callRest (fuel + 1) callee cursor) := by
  rw [Reader.callRest]
  refine Reaches.accept? (fun opening rest opens => ?_) (.pure .none)
  refine (reaches.listAfter opening _).bind ⟨[], fun tokens holds => .some opens holds .none⟩
    fun list middle => ?_
  exact (reaches.callRest _ middle).mono fun later rest tokens holds => .some opens holds rest

theorem primary_succ (reaches : ExpressionReaches fuel) (cursor : Cursor) :
    Reaches cursor Primary (Reader.primary (fuel + 1) cursor) := by
  rw [Reader.primary]
  refine Reaches.literal? (fun token rest value found => ?_) ?_
  · exact .pure (.literal (literalKind_of_constant? found))
  refine Reaches.accept? (fun name rest isName => .pure (.reference isName)) ?_
  refine Reaches.accept? (fun opening rest opens => ?_) ?_
  · refine (reaches.listAfter opening _).bind
      ⟨[], fun tokens holds => by simpa using .parenthesized opens holds⟩ fun list middle => ?_
    exact .pure fun tokens holds => by simpa using .parenthesized opens holds
  · exact .failAfter (by simp) ⟨_, .reference (kind_sample .identifier)⟩

theorem listAfter_succ (reaches : ExpressionReaches fuel) (opening : Token) (cursor : Cursor) :
    Reaches cursor Listed (Reader.listAfter (fuel + 1) opening cursor) := by
  rw [Reader.listAfter]
  have closes : (sample (.symbol .rightParen)).kind = .symbol .rightParen := rfl
  refine Reaches.accept? (fun closing rest closes => .pure (.empty closes)) ?_
  refine (reaches.assignment cursor).bind
    ⟨_, fun tokens holds => by simpa using Listed.items holds .none closes⟩ fun first middle => ?_
  refine (reaches.listRest middle).bind
    ⟨_, fun others rest tokens holds => by simpa using Listed.items holds rest closes⟩
    fun others last => ?_
  refine Reaches.accept? (fun closing rest closes => .pure fun others rest tokens holds => ?_) ?_
  · simpa using Listed.items holds rest closes
  · exact .fail (by simp) ⟨_, fun others rest tokens holds => by
      simpa using Listed.items holds rest closes⟩

theorem listRest_succ (reaches : ExpressionReaches fuel) (cursor : Cursor) :
    Reaches cursor Items (Reader.listRest (fuel + 1) cursor) := by
  rw [Reader.listRest]
  refine Reaches.accept? (fun comma rest isComma => ?_) (.pure .none)
  refine (reaches.assignment _).bind ⟨[], fun tokens holds => .some isComma holds .none⟩
    fun item middle => ?_
  refine (reaches.listRest middle).bind
    ⟨[], fun others rest tokens holds => by simpa using .some isComma holds rest⟩
    fun others last => ?_
  exact .pure fun others rest tokens holds => by simpa using .some isComma holds rest

end ExpressionReaches

theorem expressionReaches (fuel : Nat) : ExpressionReaches fuel := by
  induction fuel with
  | zero => constructor <;> intros <;> exact .exhausted
  | succ fuel reaches =>
      exact
        { assignment := reaches.assignment_succ
          tier := reaches.tier_succ
          tierRest := reaches.tierRest_succ
          unary := reaches.unary_succ
          callRest := reaches.callRest_succ
          primary := reaches.primary_succ
          listAfter := reaches.listAfter_succ
          listRest := reaches.listRest_succ }

theorem expression_reaches (cursor : Cursor) : Reaches cursor Expression (expression cursor) :=
  (expressionReaches _).assignment cursor

end Reader

end CheckedScript
