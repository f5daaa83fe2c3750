import CheckedScript.Proofs.Computation
import CheckedScript.Typing.Check

/-!
# Larger bounds

The bound on the nesting of a check only decides whether the check comes to an end.
A check that has not used up its bound goes the same way under every larger one.
-/

namespace CheckedScript

open Typing

namespace Check

variable {α β : Type}

/-- Unless the first check uses up its bound, the second one does the same. -/
def Extends (first second : Check α) : Prop :=
  ∀ state, (∃ after, first state = .error .exhausted after) ∨ second state = first state

namespace Extends

theorem refl (check : Check α) : Extends check check :=
  fun _ => .inr rfl

theorem trans {first second third : Check α} (early : Extends first second)
    (late : Extends second third) : Extends first third := by
  intro state
  rcases early state with exhausted | same
  · exact .inl exhausted
  · rw [← same]
    exact late state

theorem exhausted (check : Check α) : Extends (throw .exhausted) check :=
  fun state => .inl ⟨state, rfl⟩

theorem bind {first second : Check α} {next nextMore : α → Check β} (early : Extends first second)
    (late : ∀ value, Extends (next value) (nextMore value)) :
    Extends (first >>= next) (second >>= nextMore) := by
  intro state
  rw [bind_apply, bind_apply]
  rcases early state with ⟨after, used⟩ | same
  · rw [used]
    exact .inl ⟨after, rfl⟩
  · rw [same]
    cases first state with
    | ok value after => exact late value after
    | error stop after => exact .inr rfl

theorem reporting {first second : Check α} (ends : Extends first second) :
    Extends (Check.reporting first) (Check.reporting second) := by
  intro state
  unfold Check.reporting
  rcases ends state with ⟨after, used⟩ | same
  · rw [used]
    exact .inl ⟨after, rfl⟩
  · rw [same]
    exact .inr rfl

theorem onFailure {first second : Check α} (ends : Extends first second)
    (change : State → State) :
    Extends (Check.onFailure first change) (Check.onFailure second change) := by
  intro state
  unfold Check.onFailure
  rcases ends state with ⟨after, used⟩ | same
  · rw [used]
    exact .inl ⟨after, rfl⟩
  · rw [same]
    exact .inr rfl

end Extends

/-- All parts of a check under a bound and under the next one. -/
structure AllExtend (fuel : Nat) : Prop where
  typeOf : ∀ frame place expr,
    Extends (typeOf fuel frame place expr) (typeOf (fuel + 1) frame place expr)
  typesOf : ∀ frame place step exprs,
    Extends (typesOf fuel frame place step exprs) (typesOf (fuel + 1) frame place step exprs)
  infer : ∀ frame place expr,
    Extends (infer fuel frame place expr) (infer (fuel + 1) frame place expr)
  callType : ∀ callee arguments paren,
    Extends (callType fuel callee arguments paren) (callType (fuel + 1) callee arguments paren)
  instantiate : ∀ name identifier arguments anchor,
    Extends (instantiate fuel name identifier arguments anchor)
      (instantiate (fuel + 1) name identifier arguments anchor)
  checkBody : ∀ identifier arguments function frame,
    Extends (checkBody fuel identifier arguments function frame)
      (checkBody (fuel + 1) identifier arguments function frame)
  checkStmt : ∀ frame place stmt,
    Extends (checkStmt fuel frame place stmt) (checkStmt (fuel + 1) frame place stmt)
  checkLet : ∀ frame place name declared initializer,
    Extends (checkLet fuel frame place name declared initializer)
      (checkLet (fuel + 1) frame place name declared initializer)
  checkAll : ∀ frame place step stmts,
    Extends (checkAll fuel frame place step stmts) (checkAll (fuel + 1) frame place step stmts)
  checkBlock : ∀ frame place body,
    Extends (checkBlock fuel frame place body) (checkBlock (fuel + 1) frame place body)
  checkCondition : ∀ frame place keyword condition,
    Extends (checkCondition fuel frame place keyword condition)
      (checkCondition (fuel + 1) frame place keyword condition)
  checkBound : ∀ frame place token bound,
    Extends (checkBound fuel frame place token bound)
      (checkBound (fuel + 1) frame place token bound)

namespace AllExtend

variable {fuel : Nat}

theorem typeOf_succ (all : AllExtend fuel) (frame : FrameId) (place : Place) (expr : Expr) :
    Extends (Check.typeOf (fuel + 1) frame place expr)
      (Check.typeOf (fuel + 2) frame place expr) := by
  rw [Check.typeOf, Check.typeOf]
  exact (all.infer frame place expr).bind fun _ => .refl _

theorem typesOf_succ (all : AllExtend fuel) (frame : FrameId) (place : Place) (step : Nat)
    (exprs : List Expr) :
    Extends (Check.typesOf (fuel + 1) frame place step exprs)
      (Check.typesOf (fuel + 2) frame place step exprs) := by
  cases exprs with
  | nil => exact .refl _
  | cons expr exprs =>
      rw [Check.typesOf, Check.typesOf]
      refine (all.typeOf frame (place.child step) expr).bind fun type => ?_
      exact (all.typesOf frame place (step + 1) exprs).bind fun _ => .refl _

theorem infer_succ (all : AllExtend fuel) (frame : FrameId) (place : Place) (expr : Expr) :
    Extends (Check.infer (fuel + 1) frame place expr) (Check.infer (fuel + 2) frame place expr) := by
  have child := fun step part => all.typeOf frame (place.child step) part
  cases expr with
  | literal value token => exact .refl _
  | reference name => exact .refl _
  | assign name value =>
      rw [Check.infer, Check.infer]
      exact (child 0 value).bind fun _ => .refl _
  | group inner =>
      rw [Check.infer, Check.infer]
      exact child 0 inner
  | tuple items =>
      rw [Check.infer, Check.infer]
      exact (all.typesOf frame place 0 items).bind fun _ => .refl _
  | unary operator token operand =>
      rw [Check.infer, Check.infer]
      exact (child 0 operand).bind fun _ => .refl _
  | binary operator token left right =>
      rw [Check.infer, Check.infer]
      exact (child 0 left).bind fun _ => (child 1 right).bind fun _ => .refl _
  | logical operator token left right =>
      rw [Check.infer, Check.infer]
      exact (child 0 left).bind fun _ => (child 1 right).bind fun _ => .refl _
  | call callee paren arguments =>
      rw [Check.infer, Check.infer]
      refine (child 0 callee).bind fun calleeType => ?_
      refine (all.typesOf frame place 1 arguments).bind fun argumentTypes => ?_
      exact all.callType calleeType argumentTypes paren

theorem callType_succ (all : AllExtend fuel) (callee : Ty) (arguments : List Ty) (paren : Token) :
    Extends (Check.callType (fuel + 1) callee arguments paren)
      (Check.callType (fuel + 2) callee arguments paren) := by
  cases callee with
  | function name identifier =>
      rw [Check.callType, Check.callType]
      refine (Extends.refl _).bind fun state => (Extends.refl _).bind fun expected => ?_
      split
      · exact all.instantiate name identifier arguments paren
      · exact .refl _
  | native _ _ _ | unknown | bareNative | tuple _ | number | text | bool | displayable =>
      exact .refl _

theorem instantiate_succ (all : AllExtend fuel) (name : String) (identifier : Nat)
    (arguments : List Ty) (anchor : Token) :
    Extends (Check.instantiate (fuel + 1) name identifier arguments anchor)
      (Check.instantiate (fuel + 2) name identifier arguments anchor) := by
  rw [Check.instantiate, Check.instantiate]
  refine (Extends.refl _).bind fun state => (Extends.refl _).bind fun function => ?_
  dsimp only
  split
  · exact .refl _
  · split
    · exact .refl _
    · split
      · exact .refl _
      · refine (Extends.refl _).bind fun frame => (Extends.refl _).bind fun _ => ?_
        exact (all.checkBody identifier arguments function frame).bind fun _ => .refl _

theorem checkBody_succ (all : AllExtend fuel) (identifier : Nat) (arguments : List Ty)
    (function : DeclaredFunction) (frame : FrameId) :
    Extends (Check.checkBody (fuel + 1) identifier arguments function frame)
      (Check.checkBody (fuel + 2) identifier arguments function frame) := by
  rw [Check.checkBody, Check.checkBody]
  refine (Extends.refl _).bind fun _ => ?_
  refine (all.checkAll frame function.place 0 function.body.statements).bind fun _ => ?_
  cases function.body.tail with
  | none => exact .refl _
  | some tail => exact (all.typeOf frame _ tail).reporting.bind fun _ => .refl _

theorem checkStmt_succ (all : AllExtend fuel) (frame : FrameId) (place : Place) (stmt : Stmt) :
    Extends (Check.checkStmt (fuel + 1) frame place stmt)
      (Check.checkStmt (fuel + 2) frame place stmt) := by
  cases stmt with
  | expression value =>
      rw [Check.checkStmt, Check.checkStmt]
      exact all.typeOf frame (place.child 0) value
  | letValue name declared initializer =>
      rw [Check.checkStmt, Check.checkStmt]
      exact (all.checkLet frame place name _ initializer).bind fun _ => .refl _
  | block body =>
      rw [Check.checkStmt, Check.checkStmt]
      exact all.checkBlock frame place body
  | ifThen keyword condition consequent =>
      rw [Check.checkStmt, Check.checkStmt]
      refine (all.checkCondition frame (place.child 0) keyword condition).bind fun _ => ?_
      exact (all.checkBlock frame (place.child 1) consequent).bind fun _ => .refl _
  | ifElse keyword condition consequent alternative =>
      rw [Check.checkStmt, Check.checkStmt]
      refine (all.checkCondition frame (place.child 0) keyword condition).bind fun _ => ?_
      refine (all.checkBlock frame (place.child 1) consequent).bind fun _ => ?_
      exact (all.checkStmt frame (place.child 2) alternative).bind fun _ => .refl _
  | whileLoop keyword condition body =>
      rw [Check.checkStmt, Check.checkStmt]
      refine (all.checkCondition frame (place.child 0) keyword condition).bind fun _ => ?_
      exact (all.checkBlock frame (place.child 1) body).bind fun _ => .refl _
  | forLoop name bounds body =>
      rw [Check.checkStmt, Check.checkStmt]
      have bound := fun step expr => all.checkBound frame (place.child step) bounds.token expr
      have rest : Extends
          (do
            Check.checkBound fuel frame (place.child 2) bounds.token bounds.stop
            let inner ← nest frame
            define inner [(name.lexeme, .number)]
            let _ ← Check.checkBlock fuel inner (place.child 3) body
            return Ty.unit)
          (do
            Check.checkBound (fuel + 1) frame (place.child 2) bounds.token bounds.stop
            let inner ← nest frame
            define inner [(name.lexeme, .number)]
            let _ ← Check.checkBlock (fuel + 1) inner (place.child 3) body
            return Ty.unit) := by
        refine (bound 2 bounds.stop).bind fun _ => (Extends.refl _).bind fun inner => ?_
        refine (Extends.refl _).bind fun _ => ?_
        exact (all.checkBlock inner (place.child 3) body).bind fun _ => .refl _
      refine (bound 0 bounds.start).bind fun _ => ?_
      cases bounds.step with
      | none => exact rest
      | some step => exact (bound 1 step).bind fun _ => rest
  | function name parameters body => exact .refl _
  | giveBack keyword value =>
      rw [Check.checkStmt, Check.checkStmt]
      refine (Extends.refl _).bind fun state => ?_
      split
      · exact .refl _
      · cases value with
        | none => exact .refl _
        | some value => exact (all.typeOf frame (place.child 0) value).bind fun _ => .refl _

theorem checkLet_succ (all : AllExtend fuel) (frame : FrameId) (place : Place) (name : Token)
    (declared : Option Ty) (initializer : Expr) :
    Extends (Check.checkLet (fuel + 1) frame place name declared initializer)
      (Check.checkLet (fuel + 2) frame place name declared initializer) := by
  have typed := all.typeOf frame (place.child 0) initializer
  cases declared with
  | none =>
      rw [Check.checkLet, Check.checkLet]
      exact typed.bind fun _ => .refl _
  | some type =>
      rw [Check.checkLet, Check.checkLet]
      exact (typed.onFailure _).bind fun _ => .refl _

theorem checkAll_succ (all : AllExtend fuel) (frame : FrameId) (place : Place) (step : Nat)
    (stmts : List Stmt) :
    Extends (Check.checkAll (fuel + 1) frame place step stmts)
      (Check.checkAll (fuel + 2) frame place step stmts) := by
  cases stmts with
  | nil => exact .refl _
  | cons stmt stmts =>
      rw [Check.checkAll, Check.checkAll]
      refine (all.checkStmt frame (place.child step) stmt).reporting.bind fun _ => ?_
      exact all.checkAll frame place (step + 1) stmts

theorem checkBlock_succ (all : AllExtend fuel) (frame : FrameId) (place : Place) (body : Block) :
    Extends (Check.checkBlock (fuel + 1) frame place body)
      (Check.checkBlock (fuel + 2) frame place body) := by
  obtain ⟨brace, statements, tail⟩ := body
  cases tail with
  | none =>
      rw [Check.checkBlock, Check.checkBlock]
      refine (Extends.refl _).bind fun inner => ?_
      exact (all.checkAll inner place 0 statements).bind fun _ => .refl _
  | some tail =>
      rw [Check.checkBlock, Check.checkBlock]
      refine (Extends.refl _).bind fun inner => ?_
      refine (all.checkAll inner place 0 statements).bind fun _ => ?_
      exact (all.typeOf inner _ tail).reporting.bind fun _ => .refl _

theorem checkCondition_succ (all : AllExtend fuel) (frame : FrameId) (place : Place)
    (keyword : Token) (condition : Expr) :
    Extends (Check.checkCondition (fuel + 1) frame place keyword condition)
      (Check.checkCondition (fuel + 2) frame place keyword condition) := by
  rw [Check.checkCondition, Check.checkCondition]
  exact (all.typeOf frame place condition).reporting.bind fun _ => .refl _

theorem checkBound_succ (all : AllExtend fuel) (frame : FrameId) (place : Place) (token : Token)
    (bound : Expr) :
    Extends (Check.checkBound (fuel + 1) frame place token bound)
      (Check.checkBound (fuel + 2) frame place token bound) := by
  rw [Check.checkBound, Check.checkBound]
  exact (all.typeOf frame place bound).bind fun _ => .refl _

end AllExtend

theorem allExtend (fuel : Nat) : AllExtend fuel := by
  induction fuel with
  | zero =>
      exact
        { typeOf := fun _ _ _ => .exhausted _
          typesOf := fun _ _ _ _ => .exhausted _
          infer := fun _ _ _ => .exhausted _
          callType := fun _ _ _ => .exhausted _
          instantiate := fun _ _ _ _ => .exhausted _
          checkBody := fun _ _ _ _ => .exhausted _
          checkStmt := fun _ _ _ => .exhausted _
          checkLet := fun _ _ _ _ _ => .exhausted _
          checkAll := fun _ _ _ _ => .exhausted _
          checkBlock := fun _ _ _ => .exhausted _
          checkCondition := fun _ _ _ _ => .exhausted _
          checkBound := fun _ _ _ _ => .exhausted _ }
  | succ fuel all =>
      exact
        { typeOf := all.typeOf_succ
          typesOf := all.typesOf_succ
          infer := all.infer_succ
          callType := all.callType_succ
          instantiate := all.instantiate_succ
          checkBody := all.checkBody_succ
          checkStmt := all.checkStmt_succ
          checkLet := all.checkLet_succ
          checkAll := all.checkAll_succ
          checkBlock := all.checkBlock_succ
          checkCondition := all.checkCondition_succ
          checkBound := all.checkBound_succ }

/-- What the next bound leaves as it is, every larger bound leaves as it is. -/
theorem Extends.of_le {check : Nat → Check α} (next : ∀ fuel, Extends (check fuel) (check (fuel + 1)))
    {fuel larger : Nat} (le : fuel ≤ larger) : Extends (check fuel) (check larger) := by
  induction le with
  | refl => exact .refl _
  | step _ inductionHypothesis => exact inductionHypothesis.trans (next _)

theorem extends_checkStatements (fuel : Nat) (frame : FrameId) (place : Place) (step : Nat)
    (last : Ty) (stmts : List Stmt) :
    Extends (checkStatements fuel frame place step last stmts)
      (checkStatements (fuel + 1) frame place step last stmts) := by
  induction stmts generalizing step last with
  | nil => exact .refl _
  | cons stmt stmts inductionHypothesis =>
      rw [checkStatements, checkStatements]
      exact ((allExtend fuel).checkStmt frame (place.child step) stmt).reporting.bind
        fun type => inductionHypothesis (step + 1) (type.getD .unit)

theorem extends_checkUncalled (fuel identifier : Nat) :
    Extends (checkUncalled fuel identifier) (checkUncalled (fuel + 1) identifier) := by
  induction fuel generalizing identifier with
  | zero => exact .exhausted _
  | succ fuel inductionHypothesis =>
      rw [checkUncalled, checkUncalled]
      refine (Extends.refl _).bind fun state => ?_
      cases state.functions[identifier]? with
      | none => exact .refl _
      | some function =>
          dsimp only
          split
          · exact ((allExtend fuel).instantiate _ _ _ _).reporting.bind
              fun _ => inductionHypothesis (identifier + 1)
          · exact inductionHypothesis (identifier + 1)

end Check

end CheckedScript
