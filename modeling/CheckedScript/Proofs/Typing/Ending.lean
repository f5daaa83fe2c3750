import CheckedScript.Proofs.Sessions
import CheckedScript.Proofs.Typing.Flat
import Mathlib

/-!
# Checks that come to an end

For every part of the check of a flat program there is a bound that is not used up: it
covers the part itself, twice its size, and a reserve for the bodies that may still be
entered.  A body that is entered takes its share out of the reserve.
-/

namespace CheckedScript

namespace Check

open Typing

variable {α β : Type}

/-- The end of a check that declares at most a number of functions, and that is not
exhausted if its bound is large enough. -/
def Ending (limit size : Nat) (running : List Nat) (count : Nat) (enough : Prop) (state : State) :
    EStateM.Result Stop State α → Prop
  | .ok _ after | .error (.failed _) after | .error .reported after =>
      after.Bounded limit size running ∧ after.functions.size ≤ state.functions.size + count
  | .error (.faulted _) _ => True
  | .error .exhausted _ => ¬ enough

def Ends (limit size : Nat) (running : List Nat) (count : Nat) (enough : Prop) (state : State)
    (check : Check α) : Prop :=
  Ending limit size running count enough state (check state)

namespace Ends

variable {limit size count more : Nat} {running : List Nat} {enough stronger : Prop}
  {state middle : State} {check : Check α} {next : α → Check β}

theorem pure (bounded : state.Bounded limit size running) (value : α) :
    Ends limit size running count enough state (Pure.pure value : Check α) :=
  ⟨bounded, Nat.le_add_right _ _⟩

theorem fail (bounded : state.Bounded limit size running) (cause : Cause) (token : Token) :
    Ends limit size running count enough state (Check.fail cause token : Check α) :=
  ⟨bounded, Nat.le_add_right _ _⟩

theorem modify {change : State → State} (bounded : (change state).Bounded limit size running)
    (grown : (change state).functions.size ≤ state.functions.size + count) :
    Ends limit size running count enough state (modifyThe State change : Check PUnit) :=
  ⟨bounded, grown⟩

/-- The state that a check leads to. -/
theorem of_ok {value : α} (ends : Ends limit size running count enough state check)
    (equation : check state = .ok value middle) :
    middle.Bounded limit size running ∧
      middle.functions.size ≤ state.functions.size + count := by
  unfold Ends at ends
  rwa [equation] at ends

theorem weaken (ends : Ends limit size running count enough state check) (le : count ≤ more)
    (implies : stronger → enough) : Ends limit size running more stronger state check := by
  have wider : state.functions.size + count ≤ state.functions.size + more :=
    Nat.add_le_add_left le _
  unfold Ends at ends ⊢
  generalize check state = result at ends ⊢
  cases result with
  | ok value after => exact ⟨ends.1, Nat.le_trans ends.2 wider⟩
  | error stop after =>
      cases stop with
      | failed _ | reported => exact ⟨ends.1, Nat.le_trans ends.2 wider⟩
      | faulted _ => trivial
      | exhausted => exact fun holds => ends (implies holds)

/-- What was there before may be counted as well. -/
theorem from_middle {middle : State} {result : EStateM.Result Stop State β}
    (grown : middle.functions.size ≤ state.functions.size + count)
    (ends : Ending limit size running more enough middle result) :
    Ending limit size running (count + more) enough state result := by
  have wider : middle.functions.size + more ≤ state.functions.size + (count + more) := by
    omega
  cases result with
  | ok value after => exact ⟨ends.1, Nat.le_trans ends.2 wider⟩
  | error stop after =>
      cases stop with
      | failed _ | reported => exact ⟨ends.1, Nat.le_trans ends.2 wider⟩
      | faulted _ => trivial
      | exhausted => exact ends

theorem bind (early : Ends limit size running count enough state check)
    (late : ∀ value middle, middle.Bounded limit size running →
      middle.functions.size ≤ state.functions.size + count →
      Ends limit size running more enough middle (next value)) :
    Ends limit size running (count + more) enough state (check >>= next) := by
  have longer := early.weaken (Nat.le_add_right count more) id
  unfold Ends at early longer ⊢
  rw [bind_apply]
  generalize check state = result at early longer ⊢
  cases result with
  | ok value middle => exact from_middle early.2 (late value middle early.1 early.2)
  | error stop after =>
      cases stop with
      | failed _ | reported | faulted _ | exhausted => exact longer

/-- A check after one that declares no function. -/
theorem plainThen (early : Ends limit size running 0 enough state check)
    (late : ∀ value middle, middle.Bounded limit size running →
      middle.functions.size ≤ state.functions.size →
      Ends limit size running count enough middle (next value)) :
    Ends limit size running count enough state (check >>= next) := by
  have both := early.bind late
  rwa [Nat.zero_add] at both

/-- A check before one that declares no function. -/
theorem thenPlain (early : Ends limit size running count enough state check)
    (late : ∀ value middle, middle.Bounded limit size running →
      Ends limit size running 0 enough middle (next value)) :
    Ends limit size running count enough state (check >>= next) :=
  early.bind fun value middle bounded _ => late value middle bounded

theorem get {next : State → Check β}
    (ends : Ends limit size running count enough state (next state)) :
    Ends limit size running count enough state ((MonadState.get : Check State) >>= next) :=
  ends

theorem lookup? {next : Option Ty → Check β} {frame : FrameId} {name : String}
    (ends : Ends limit size running count enough state (next (state.scopes.get? frame name))) :
    Ends limit size running count enough state (Check.lookup? frame name >>= next) :=
  ends

theorem nest {frame : FrameId} {next : FrameId → Check β}
    (ends : Ends limit size running count enough
      { state with scopes := (state.scopes.nest frame).2 } (next state.scopes.frames.size)) :
    Ends limit size running count enough state (Check.nest frame >>= next) :=
  ends

theorem orFault (bounded : state.Bounded limit size running) (result : Except Fault α) :
    Ends limit size running count enough state (Check.orFault result) := by
  cases result with
  | ok value => exact .pure bounded value
  | error fault => trivial

theorem orFault_ok {value : α}
    (ends : Ends limit size running count enough state (next value)) :
    Ends limit size running count enough state (Check.orFault (.ok value) >>= next) :=
  ends

theorem reporting (ends : Ends limit size running count enough state check) :
    Ends limit size running count enough state (Check.reporting check) := by
  unfold Ends at ends ⊢
  rw [Check.reporting]
  generalize check state = result at ends ⊢
  cases result with
  | ok value after => exact ends
  | error stop after =>
      cases stop with
      | failed diagnostic =>
          have same : (after.report diagnostic).functions = after.functions :=
            (AllKeep.functions_reports [diagnostic] after).1
          refine ⟨ends.1.reports [diagnostic], ?_⟩
          rw [same]
          exact ends.2
      | reported | exhausted => exact ends
      | faulted _ => trivial

theorem onFailure {change : State → State}
    (ends : Ends limit size running count enough state check)
    (kept : ∀ after, (change after).functions = after.functions ∧
      (change after).running = after.running) :
    Ends limit size running count enough state (Check.onFailure check change) := by
  unfold Ends at ends ⊢
  rw [Check.onFailure]
  generalize check state = result at ends ⊢
  cases result with
  | ok value after => exact ends
  | error stop after =>
      cases stop with
      | failed diagnostic | reported =>
          obtain ⟨functions, same⟩ := kept after
          refine ⟨ends.1.congr functions same, ?_⟩
          rw [functions]
          exact ends.2
      | exhausted => exact ends
      | faulted _ => trivial

end Ends

/-- All parts of a check of a flat program come to an end. -/
structure AllEnd (limit size fuel : Nat) : Prop where
  typeOf : ∀ {running}, Capped limit running → ∀ frame place expr (state : State),
    state.Bounded limit size running →
    Ends limit size running 0 (2 * sizeOf expr + reserve limit size running ≤ fuel) state
      (typeOf fuel frame place expr)
  typesOf : ∀ {running}, Capped limit running → ∀ frame place step exprs (state : State),
    state.Bounded limit size running →
    Ends limit size running 0 (2 * sizeOf exprs + reserve limit size running ≤ fuel) state
      (typesOf fuel frame place step exprs)
  infer : ∀ {running}, Capped limit running → ∀ frame place expr (state : State),
    state.Bounded limit size running →
    Ends limit size running 0 (2 * sizeOf expr + reserve limit size running ≤ fuel + 1) state
      (infer fuel frame place expr)
  callType : ∀ {running}, Capped limit running → ∀ callee arguments paren (state : State),
    state.Bounded limit size running →
    Ends limit size running 0 (2 + reserve limit size running ≤ fuel) state
      (callType fuel callee arguments paren)
  instantiate : ∀ {running}, Capped limit running → ∀ name identifier arguments anchor
    (state : State), state.Bounded limit size running →
    Ends limit size running 0 (1 + reserve limit size running ≤ fuel) state
      (instantiate fuel name identifier arguments anchor)
  checkBody : ∀ {running identifier}, Capped limit (identifier :: running) →
    ∀ arguments function frame (state : State),
    function.body.isPlain = true → sizeOf function.body ≤ size →
    state.Bounded limit size running →
    Ends limit size running 0
      (2 * sizeOf function.body + reserve limit size (identifier :: running) + 1 ≤ fuel) state
      (checkBody fuel identifier arguments function frame)
  checkStmt : ∀ {running}, Capped limit running → ∀ frame place stmt (state : State),
    stmt.isFlat = true → sizeOf stmt ≤ size → state.Bounded limit size running →
    state.functions.size + stmt.functionCount ≤ limit →
    Ends limit size running stmt.functionCount
      (2 * sizeOf stmt + reserve limit size running ≤ fuel) state (checkStmt fuel frame place stmt)
  checkLet : ∀ {running}, Capped limit running → ∀ frame place name declared initializer
    (state : State), state.Bounded limit size running →
    Ends limit size running 0 (2 * sizeOf initializer + reserve limit size running + 1 ≤ fuel)
      state (checkLet fuel frame place name declared initializer)
  checkAll : ∀ {running}, Capped limit running → ∀ frame place step stmts (state : State),
    Stmt.areFlat stmts = true → sizeOf stmts ≤ size → state.Bounded limit size running →
    state.functions.size + Stmt.functionCounts stmts ≤ limit →
    Ends limit size running (Stmt.functionCounts stmts)
      (2 * sizeOf stmts + reserve limit size running ≤ fuel) state
      (checkAll fuel frame place step stmts)
  checkBlock : ∀ {running}, Capped limit running → ∀ frame place body (state : State),
    body.isFlat = true → sizeOf body ≤ size → state.Bounded limit size running →
    state.functions.size + body.functionCount ≤ limit →
    Ends limit size running body.functionCount
      (2 * sizeOf body + reserve limit size running ≤ fuel) state (checkBlock fuel frame place body)
  checkCondition : ∀ {running}, Capped limit running → ∀ frame place keyword condition
    (state : State), state.Bounded limit size running →
    Ends limit size running 0 (2 * sizeOf condition + reserve limit size running + 1 ≤ fuel) state
      (checkCondition fuel frame place keyword condition)
  checkBound : ∀ {running}, Capped limit running → ∀ frame place token bound (state : State),
    state.Bounded limit size running →
    Ends limit size running 0 (2 * sizeOf bound + reserve limit size running + 1 ≤ fuel) state
      (checkBound fuel frame place token bound)

namespace AllEnd

variable {limit size fuel : Nat} {running : List Nat} {state : State}

theorem typeOf_succ (all : AllEnd limit size fuel) (capped : Capped limit running) (frame : FrameId)
    (place : Place) (expr : Expr) (state : State) (bounded : state.Bounded limit size running) :
    Ends limit size running 0 (2 * sizeOf expr + reserve limit size running ≤ fuel + 1) state
      (Check.typeOf (fuel + 1) frame place expr) := by
  rw [Check.typeOf]
  apply (all.infer capped frame place expr state bounded).plainThen
  intro type middle bounded _
  apply Ends.plainThen (Ends.modify (bounded.congr rfl rfl) (Nat.le_refl _))
  intro _ after bounded _
  exact .pure bounded type

theorem typesOf_succ (all : AllEnd limit size fuel) (capped : Capped limit running)
    (frame : FrameId) (place : Place) (step : Nat) (exprs : List Expr) (state : State)
    (bounded : state.Bounded limit size running) :
    Ends limit size running 0 (2 * sizeOf exprs + reserve limit size running ≤ fuel + 1) state
      (Check.typesOf (fuel + 1) frame place step exprs) := by
  cases exprs with
  | nil => exact .pure bounded []
  | cons expr exprs =>
      have sizes := List.cons.sizeOf_spec expr exprs
      rw [Check.typesOf]
      apply Ends.plainThen ((all.typeOf capped frame _ expr state bounded).weaken (Nat.le_refl 0) _)
      · intro type middle bounded _
        apply Ends.plainThen
          ((all.typesOf capped frame place (step + 1) exprs middle bounded).weaken (Nat.le_refl 0) _)
        · intro types after bounded _
          exact .pure bounded _
        · omega
      · omega

theorem infer_succ (all : AllEnd limit size fuel) (capped : Capped limit running) (frame : FrameId)
    (place : Place) (expr : Expr) (state : State) (bounded : state.Bounded limit size running) :
    Ends limit size running 0 (2 * sizeOf expr + reserve limit size running ≤ fuel + 1 + 1) state
      (Check.infer (fuel + 1) frame place expr) := by
  have child : ∀ (step : Nat) (part : Expr) (state : State), state.Bounded limit size running →
      sizeOf part < sizeOf expr →
      Ends limit size running 0 (2 * sizeOf expr + reserve limit size running ≤ fuel + 1 + 1) state
        (Check.typeOf fuel frame (place.child step) part) := by
    intro step part state bounded smaller
    exact (all.typeOf capped frame _ part state bounded).weaken (Nat.le_refl 0) (by omega)
  have parts : ∀ (step : Nat) (list : List Expr) (state : State),
      state.Bounded limit size running → sizeOf list < sizeOf expr →
      Ends limit size running 0 (2 * sizeOf expr + reserve limit size running ≤ fuel + 1 + 1) state
        (Check.typesOf fuel frame place step list) := by
    intro step list state bounded smaller
    exact (all.typesOf capped frame place step list state bounded).weaken (Nat.le_refl 0)
      (by omega)
  cases expr with
  | literal value token =>
      rw [Check.infer]
      exact .pure bounded _
  | reference name =>
      rw [Check.infer]
      apply Ends.lookup?
      split
      · exact .pure bounded _
      · exact .fail bounded _ _
  | assign name value =>
      rw [Check.infer]
      apply (child 0 value state bounded (by simp)).plainThen
      intro found middle bounded _
      apply Ends.lookup?
      split
      · exact .fail bounded _ _
      · split
        · exact .pure bounded _
        · exact .fail bounded _ _
  | group inner =>
      rw [Check.infer]
      exact child 0 inner state bounded (by simp)
  | tuple items =>
      rw [Check.infer]
      apply (parts 0 items state bounded (by simp)).plainThen
      intro types after bounded _
      exact .pure bounded _
  | unary operator token operand =>
      rw [Check.infer]
      apply (child 0 operand state bounded (by simp)).plainThen
      intro found middle bounded _
      split
      · exact .pure bounded _
      · exact .fail bounded _ _
  | binary operator token left right =>
      rw [Check.infer]
      apply (child 0 left state bounded (by simp; omega)).plainThen
      intro leftType middle bounded _
      apply (child 1 right middle bounded (by simp)).plainThen
      intro rightType after bounded _
      split
      · exact .pure bounded _
      · exact .fail bounded _ _
  | logical operator token left right =>
      rw [Check.infer]
      apply (child 0 left state bounded (by simp; omega)).plainThen
      intro leftType middle bounded _
      apply (child 1 right middle bounded (by simp)).plainThen
      intro rightType after bounded _
      split
      · exact .pure bounded _
      · exact .fail bounded _ _
  | call callee paren arguments =>
      have positive : 0 < sizeOf callee := by
        cases callee <;> simp
      have sizes := Expr.call.sizeOf_spec callee paren arguments
      rw [Check.infer]
      apply (child 0 callee state bounded (by omega)).plainThen
      intro calleeType middle bounded _
      apply (parts 1 arguments middle bounded (by omega)).plainThen
      intro argumentTypes after bounded _
      exact (all.callType capped calleeType argumentTypes paren after bounded).weaken
        (Nat.le_refl 0) (by omega)

theorem callType_succ (all : AllEnd limit size fuel) (capped : Capped limit running) (callee : Ty)
    (arguments : List Ty) (paren : Token) (state : State)
    (bounded : state.Bounded limit size running) :
    Ends limit size running 0 (2 + reserve limit size running ≤ fuel + 1) state
      (Check.callType (fuel + 1) callee arguments paren) := by
  cases callee with
  | native name parameters result =>
      rw [Check.callType]
      split
      · exact .pure bounded _
      · exact .fail bounded _ _
  | function name identifier =>
      rw [Check.callType]
      apply Ends.get
      apply (Ends.orFault bounded _).plainThen
      intro expected middle bounded _
      split
      · exact (all.instantiate capped _ _ _ _ middle bounded).weaken (Nat.le_refl 0) (by omega)
      · exact .fail bounded _ _
  | unknown => exact .pure bounded _
  | bareNative => trivial
  | number | text | bool | displayable | tuple items => exact .fail bounded _ _

theorem instantiate_succ (all : AllEnd limit size fuel) (capped : Capped limit running)
    (name : String) (identifier : Nat) (arguments : List Ty) (anchor : Token) (state : State)
    (bounded : state.Bounded limit size running) :
    Ends limit size running 0 (1 + reserve limit size running ≤ fuel + 1) state
      (Check.instantiate (fuel + 1) name identifier arguments anchor) := by
  rw [Check.instantiate]
  apply Ends.get
  cases declared : declaration state.functions name identifier with
  | error fault => trivial
  | ok function =>
      have found := declaration_eq_ok.1 declared
      obtain ⟨plain, small⟩ := bounded.bodies identifier function found
      apply Ends.orFault_ok
      dsimp only
      split
      · exact .pure bounded _
      split
      · split
        · exact .pure bounded _
        · split
          · exact .pure bounded _
          · exact .fail bounded _ _
      split
      · exact .fail bounded _ _
      next few =>
      -- The body is entered, and what is left of the reserve is enough for the others.
      have deeper := capped.entered bounded.running bounded.functions found (Nat.lt_of_not_le few)
      have used := reserve_cons size deeper
      apply Ends.nest
      apply Ends.plainThen (.modify (bounded.congr rfl rfl) (Nat.le_refl _))
      intro _ entered bounded _
      have body := all.checkBody deeper arguments function state.scopes.frames.size entered plain
        small bounded
      apply (body.weaken (Nat.le_refl 0) (by omega)).plainThen
      intro results after bounded _
      apply Ends.plainThen (.modify ((bounded.reports _).setInstance _ _ _) _)
      · intro _ last bounded _
        exact .pure bounded _
      · rw [State.setInstance, Array.size_modify, (AllKeep.functions_reports _ after).1]
        exact Nat.le_refl _

/-- The statements of a body and its tail. -/
theorem throughBody (all : AllEnd limit size fuel) (capped : Capped limit running)
    (function : DeclaredFunction) (frame : FrameId) (state : State)
    (plain : function.body.isPlain = true) (small : sizeOf function.body ≤ size)
    (bounded : state.Bounded limit size running) :
    Ends limit size running 0
      (2 * sizeOf function.body + reserve limit size running ≤ fuel) state
      (AllKeep.throughBody fuel function frame) := by
  obtain ⟨flat, none⟩ := function.body.isFlat_of_isPlain plain
  rw [AllKeep.throughBody]
  generalize function.body = body at flat none small ⊢
  obtain ⟨brace, statements, tail⟩ := body
  have sizes := Block.mk.sizeOf_spec brace statements tail
  have noFunctions : Stmt.functionCounts statements = 0 := none
  have inside := all.checkAll capped frame function.place 0 statements state flat (by omega)
    bounded (by rw [noFunctions]; exact bounded.functions)
  rw [noFunctions] at inside
  apply (inside.weaken (Nat.le_refl 0) (by omega)).plainThen
  intro _ middle bounded _
  cases tail with
  | none => exact .pure bounded _
  | some tail =>
      have sizes := Option.some.sizeOf_spec tail
      have typed := all.typeOf capped frame (function.place.child statements.length) tail middle
        bounded
      exact typed.reporting.weaken (Nat.le_refl 0) (by omega)

theorem checkBody_succ (all : AllEnd limit size fuel) {identifier : Nat}
    (capped : Capped limit (identifier :: running)) (arguments : List Ty)
    (function : DeclaredFunction) (frame : FrameId) (state : State)
    (plain : function.body.isPlain = true) (small : sizeOf function.body ≤ size)
    (bounded : state.Bounded limit size running) :
    Ends limit size running 0
      (2 * sizeOf function.body + reserve limit size (identifier :: running) + 1 ≤ fuel + 1) state
      (Check.checkBody (fuel + 1) identifier arguments function frame) := by
  let start : State :=
    { state with
      activations := { function := identifier, arguments := arguments, returns := [] } ::
        state.activations }
  have started : start.Bounded limit size (identifier :: running) :=
    { bounded with running := congrArg (identifier :: ·) bounded.running }
  have through := all.throughBody capped function frame start plain small started
  have recovers := AllKeep.throughBody_recovers fuel function frame start
  unfold Ends at through ⊢
  rw [AllKeep.checkBody_apply]
  generalize AllKeep.throughBody fuel function frame start = result at through recovers ⊢
  cases result with
  | ok fallThrough after =>
      obtain ⟨ended, grown⟩ := through
      have left : (after.activations.tail).map (·.function) = running := by
        rw [List.map_tail]
        exact congrArg List.tail ended.running
      exact ⟨{ ended with running := left }, grown⟩
  | error stop after =>
      cases stop with
      | failed _ | reported => exact recovers.elim
      | faulted _ => trivial
      | exhausted => exact fun enough => through (Nat.le_of_succ_le_succ enough)

theorem checkLet_succ (all : AllEnd limit size fuel) (capped : Capped limit running)
    (frame : FrameId) (place : Place) (name : Token) (declared : Option Ty) (initializer : Expr)
    (state : State) (bounded : state.Bounded limit size running) :
    Ends limit size running 0 (2 * sizeOf initializer + reserve limit size running + 1 ≤ fuel + 1)
      state (Check.checkLet (fuel + 1) frame place name declared initializer) := by
  have typed : Ends limit size running 0
      (2 * sizeOf initializer + reserve limit size running + 1 ≤ fuel + 1) state
      (Check.typeOf fuel frame (place.child 0) initializer) :=
    (all.typeOf capped frame _ initializer state bounded).weaken (Nat.le_refl 0) (by omega)
  cases declared with
  | none =>
      rw [Check.checkLet]
      apply typed.plainThen
      intro found after bounded _
      exact .modify (bounded.congr rfl rfl) (Nat.le_refl _)
  | some type =>
      rw [Check.checkLet]
      have kept : ∀ after : State, (after.bind frame name.lexeme type).functions =
          after.functions ∧ (after.bind frame name.lexeme type).running = after.running :=
        fun _ => ⟨rfl, rfl⟩
      apply (typed.onFailure kept).plainThen
      intro found middle bounded _
      apply Ends.plainThen (.modify (bounded.congr rfl rfl) (Nat.le_refl _))
      intro _ after bounded _
      split
      · exact .fail bounded _ _
      · exact .pure bounded _

theorem checkAll_succ (all : AllEnd limit size fuel) (capped : Capped limit running)
    (frame : FrameId) (place : Place) (step : Nat) (stmts : List Stmt) (state : State)
    (flat : Stmt.areFlat stmts = true) (small : sizeOf stmts ≤ size)
    (bounded : state.Bounded limit size running)
    (few : state.functions.size + Stmt.functionCounts stmts ≤ limit) :
    Ends limit size running (Stmt.functionCounts stmts)
      (2 * sizeOf stmts + reserve limit size running ≤ fuel + 1) state
      (Check.checkAll (fuel + 1) frame place step stmts) := by
  cases stmts with
  | nil => exact .pure bounded _
  | cons stmt stmts =>
      have sizes := List.cons.sizeOf_spec stmt stmts
      obtain ⟨flatFirst, flatOthers⟩ := Bool.and_eq_true_iff.1 flat
      rw [Stmt.functionCounts] at few ⊢
      rw [Check.checkAll]
      have first := all.checkStmt capped frame (place.child step) stmt state flatFirst (by omega)
        bounded (by omega)
      apply (first.reporting.weaken (Nat.le_refl _) (by omega)).bind
      intro _ middle bounded grown
      exact (all.checkAll capped frame place (step + 1) stmts middle flatOthers (by omega) bounded
        (by omega)).weaken (Nat.le_refl _) (by omega)

theorem checkCondition_succ (all : AllEnd limit size fuel) (capped : Capped limit running)
    (frame : FrameId) (place : Place) (keyword : Token) (condition : Expr) (state : State)
    (bounded : state.Bounded limit size running) :
    Ends limit size running 0 (2 * sizeOf condition + reserve limit size running + 1 ≤ fuel + 1)
      state (Check.checkCondition (fuel + 1) frame place keyword condition) := by
  rw [Check.checkCondition]
  have typed := all.typeOf capped frame place condition state bounded
  apply (typed.reporting.weaken (Nat.le_refl 0) (by omega)).plainThen
  intro found middle bounded _
  split
  · exact .pure bounded _
  · split
    · exact .modify (bounded.reports [_])
        (Nat.le_of_eq (congrArg Array.size (AllKeep.functions_reports [_] middle).1))
    · exact .pure bounded _

theorem checkBound_succ (all : AllEnd limit size fuel) (capped : Capped limit running)
    (frame : FrameId) (place : Place) (token : Token) (bound : Expr) (state : State)
    (bounded : state.Bounded limit size running) :
    Ends limit size running 0 (2 * sizeOf bound + reserve limit size running + 1 ≤ fuel + 1) state
      (Check.checkBound (fuel + 1) frame place token bound) := by
  rw [Check.checkBound]
  have typed := all.typeOf capped frame place bound state bounded
  apply (typed.weaken (Nat.le_refl 0) (by omega)).plainThen
  intro found middle bounded _
  split
  · exact .fail bounded _ _
  · exact .pure bounded _

theorem checkBlock_succ (all : AllEnd limit size fuel) (capped : Capped limit running)
    (frame : FrameId) (place : Place) (body : Block) (state : State) (flat : body.isFlat = true)
    (small : sizeOf body ≤ size) (bounded : state.Bounded limit size running)
    (few : state.functions.size + body.functionCount ≤ limit) :
    Ends limit size running body.functionCount
      (2 * sizeOf body + reserve limit size running ≤ fuel + 1) state
      (Check.checkBlock (fuel + 1) frame place body) := by
  obtain ⟨brace, statements, tail⟩ := body
  have sizes := Block.mk.sizeOf_spec brace statements tail
  rw [Check.checkBlock]
  apply Ends.nest
  have inside := all.checkAll capped state.scopes.frames.size place 0 statements
    { state with scopes := (state.scopes.nest frame).2 } flat (by omega)
    (bounded.congr rfl rfl) few
  apply (inside.weaken (Nat.le_refl _) (by omega)).thenPlain
  intro _ middle bounded
  cases tail with
  | none => exact .pure bounded _
  | some tail =>
      have sizes := Option.some.sizeOf_spec tail
      have typed := all.typeOf capped state.scopes.frames.size (place.child statements.length) tail
        middle bounded
      apply (typed.reporting.weaken (Nat.le_refl 0) (by omega)).plainThen
      intro type after bounded _
      cases type with
      | some type => exact .pure bounded _
      | none => exact ⟨bounded, Nat.le_refl _⟩

/-- The body of a loop over numbers. -/
theorem forBody (all : AllEnd limit size fuel) (capped : Capped limit running) (frame : FrameId)
    (place : Place) (name : Token) (body : Block) (state : State) (flat : body.isFlat = true)
    (small : sizeOf body ≤ size) (bounded : state.Bounded limit size running)
    (few : state.functions.size + body.functionCount ≤ limit) :
    Ends limit size running body.functionCount
      (2 * sizeOf body + reserve limit size running ≤ fuel) state (do
        let inner ← nest frame
        define inner [(name.lexeme, .number)]
        let _ ← Check.checkBlock fuel inner (place.child 3) body
        return Ty.unit) := by
  apply Ends.nest
  apply Ends.plainThen (.modify (bounded.congr rfl rfl) (Nat.le_refl _))
  intro _ middle bounded grown
  have inside := all.checkBlock capped state.scopes.frames.size (place.child 3) body middle flat
    small bounded (Nat.le_trans (Nat.add_le_add_right grown _) few)
  apply inside.thenPlain
  intro _ after bounded
  exact .pure bounded _

theorem checkStmt_succ (all : AllEnd limit size fuel) (capped : Capped limit running)
    (frame : FrameId) (place : Place) (stmt : Stmt) (state : State) (flat : stmt.isFlat = true)
    (small : sizeOf stmt ≤ size) (bounded : state.Bounded limit size running)
    (few : state.functions.size + stmt.functionCount ≤ limit) :
    Ends limit size running stmt.functionCount
      (2 * sizeOf stmt + reserve limit size running ≤ fuel + 1) state
      (Check.checkStmt (fuel + 1) frame place stmt) := by
  -- The parts of a statement are smaller, so half of what its size allows is left for them.
  have condition : ∀ (keyword : Token) (test : Expr) (state : State),
      state.Bounded limit size running → sizeOf test < sizeOf stmt →
      Ends limit size running 0 (2 * sizeOf stmt + reserve limit size running ≤ fuel + 1) state
        (Check.checkCondition fuel frame (place.child 0) keyword test) := by
    intro keyword test state bounded smaller
    exact (all.checkCondition capped frame _ keyword test state bounded).weaken (Nat.le_refl 0)
      (by omega)
  have bound : ∀ (step : Nat) (token : Token) (expr : Expr) (state : State),
      state.Bounded limit size running → sizeOf expr < sizeOf stmt →
      Ends limit size running 0 (2 * sizeOf stmt + reserve limit size running ≤ fuel + 1) state
        (Check.checkBound fuel frame (place.child step) token expr) := by
    intro step token expr state bounded smaller
    exact (all.checkBound capped frame _ token expr state bounded).weaken (Nat.le_refl 0)
      (by omega)
  have block : ∀ (place : Place) (body : Block) (state : State), body.isFlat = true →
      state.Bounded limit size running → sizeOf body < sizeOf stmt →
      state.functions.size + body.functionCount ≤ limit →
      Ends limit size running body.functionCount
        (2 * sizeOf stmt + reserve limit size running ≤ fuel + 1) state
        (Check.checkBlock fuel frame place body) := by
    intro place body state flat bounded smaller few
    exact (all.checkBlock capped frame place body state flat (by omega) bounded few).weaken
      (Nat.le_refl _) (by omega)
  cases stmt with
  | expression value =>
      have sizes := Stmt.expression.sizeOf_spec value
      rw [Check.checkStmt]
      exact (all.typeOf capped frame _ value state bounded).weaken (Nat.zero_le _) (by omega)
  | letValue name declared initializer =>
      have sizes := Stmt.letValue.sizeOf_spec name declared initializer
      rw [Check.checkStmt]
      have typed := all.checkLet capped frame place name (declared.map (·.type)) initializer state
        bounded
      apply (typed.weaken (Nat.zero_le _) (by omega)).thenPlain
      intro _ after bounded
      exact .pure bounded _
  | block body =>
      rw [Check.checkStmt]
      exact block place body state flat bounded (by simp) few
  | ifThen keyword test consequent =>
      have sizes := Stmt.ifThen.sizeOf_spec keyword test consequent
      rw [Check.checkStmt]
      apply (condition keyword test state bounded (by omega)).plainThen
      intro _ middle bounded grown
      apply (block (place.child 1) consequent middle flat bounded (by omega)
        (Nat.le_trans (Nat.add_le_add_right grown _) few)).thenPlain
      intro _ after bounded
      exact .pure bounded _
  | ifElse keyword test consequent alternative =>
      have sizes := Stmt.ifElse.sizeOf_spec keyword test consequent alternative
      obtain ⟨flatFirst, flatOther⟩ := Bool.and_eq_true_iff.1 flat
      rw [Stmt.functionCount] at few ⊢
      rw [Check.checkStmt]
      apply (condition keyword test state bounded (by omega)).plainThen
      intro _ first bounded grown
      apply (block (place.child 1) consequent first flatFirst bounded (by omega)
        (by omega)).bind
      intro _ second bounded grownAgain
      have other := all.checkStmt capped frame (place.child 2) alternative second flatOther
        (by omega) bounded (by omega)
      apply (other.weaken (Nat.le_refl _) (by omega)).thenPlain
      intro _ after bounded
      exact .pure bounded _
  | whileLoop keyword test body =>
      have sizes := Stmt.whileLoop.sizeOf_spec keyword test body
      rw [Check.checkStmt]
      apply (condition keyword test state bounded (by omega)).plainThen
      intro _ middle bounded grown
      apply (block (place.child 1) body middle flat bounded (by omega)
        (Nat.le_trans (Nat.add_le_add_right grown _) few)).thenPlain
      intro _ after bounded
      exact .pure bounded _
  | forLoop name bounds body =>
      obtain ⟨token, start, stop, step⟩ := bounds
      have sizes := Stmt.forLoop.sizeOf_spec name ⟨token, start, stop, step⟩ body
      have parts := Bounds.mk.sizeOf_spec token start stop step
      rw [Check.checkStmt]
      have rest : ∀ middle : State, middle.Bounded limit size running →
          middle.functions.size ≤ state.functions.size →
          Ends limit size running body.functionCount
            (2 * sizeOf (Stmt.forLoop name ⟨token, start, stop, step⟩ body) +
              reserve limit size running ≤ fuel + 1) middle (do
            Check.checkBound fuel frame (place.child 2) token stop
            let inner ← nest frame
            define inner [(name.lexeme, .number)]
            let _ ← Check.checkBlock fuel inner (place.child 3) body
            return Ty.unit) := by
        intro middle bounded grown
        apply (bound 2 token stop middle bounded (by omega)).plainThen
        intro _ last bounded grownAgain
        exact (all.forBody capped frame place name body last flat (by omega) bounded
          (Nat.le_trans (Nat.add_le_add_right (Nat.le_trans grownAgain grown) _) few)).weaken
            (Nat.le_refl _) (by omega)
      apply (bound 0 token start state bounded (by omega)).plainThen
      intro _ first bounded grown
      cases step with
      | none => exact rest first bounded grown
      | some step =>
          have written := Option.some.sizeOf_spec step
          apply (bound 1 token step first bounded (by omega)).plainThen
          intro _ second bounded grownAgain
          exact rest second bounded (Nat.le_trans grownAgain grown)
  | function name parameters body =>
      have sizes := Stmt.function.sizeOf_spec name parameters body
      obtain ⟨_, none⟩ := body.isFlat_of_isPlain flat
      rw [Stmt.functionCount, none] at few ⊢
      rw [Check.checkStmt]
      have declared : (state.declare frame (place.child 0) name parameters body).Bounded limit size
          running := bounded.declare few frame _ name parameters flat (by omega)
      apply Ends.thenPlain (.modify declared (Nat.le_of_eq (Array.size_push _)))
      intro _ after bounded
      exact .pure bounded _
  | giveBack keyword value =>
      rw [Check.checkStmt]
      apply Ends.get
      split
      · exact .fail bounded _ _
      have added : ∀ (type : Ty) (middle : State), middle.Bounded limit size running →
          Ends limit size running 0
            (2 * sizeOf (Stmt.giveBack keyword value) + reserve limit size running ≤ fuel + 1)
            middle (do
              modify fun state => state.addReturn type keyword
              return Ty.unit) := by
        intro type middle bounded
        apply Ends.plainThen (.modify (bounded.addReturn type keyword) _)
        · intro _ after bounded _
          exact .pure bounded _
        · unfold State.addReturn
          split <;> exact Nat.le_refl _
      cases value with
      | none => exact added .unit state bounded
      | some value =>
          have sizes := Stmt.giveBack.sizeOf_spec keyword (some value)
          have written := Option.some.sizeOf_spec value
          have typed := all.typeOf capped frame (place.child 0) value state bounded
          apply (typed.weaken (Nat.zero_le _) (by omega)).thenPlain
          intro type middle bounded
          exact added type middle bounded

end AllEnd

/-- All checks come to an end. -/
theorem allEnd (limit size fuel : Nat) : AllEnd limit size fuel := by
  induction fuel with
  | zero =>
      have expr : ∀ expr : Expr, 0 < sizeOf expr := by
        intro expr
        cases expr <;> simp
      have stmt : ∀ stmt : Stmt, 0 < sizeOf stmt := by
        intro stmt
        cases stmt <;> simp
      have block : ∀ body : Block, 0 < sizeOf body := by
        intro body
        cases body
        simp
      have list : ∀ {α : Type} [SizeOf α] (list : List α), 0 < sizeOf list := by
        intro α _ list
        cases list <;> simp
      constructor
      · intro running _ frame place part state _ enough
        have positive := expr part
        omega
      · intro running _ frame place step parts state _ enough
        have positive := list parts
        omega
      · intro running _ frame place part state _ enough
        have positive := expr part
        omega
      · intro running _ callee arguments paren state _ enough
        omega
      · intro running _ name identifier arguments anchor state _ enough
        omega
      · intro running identifier _ arguments function frame state _ _ _ enough
        omega
      · intro running _ frame place part state _ _ _ _ enough
        have positive := stmt part
        omega
      · intro running _ frame place name declared initializer state _ enough
        omega
      · intro running _ frame place step parts state _ _ _ _ enough
        have positive := list parts
        omega
      · intro running _ frame place part state _ _ _ _ enough
        have positive := block part
        omega
      · intro running _ frame place keyword condition state _ enough
        omega
      · intro running _ frame place token part state _ enough
        omega
  | succ fuel all =>
      exact
        { typeOf := all.typeOf_succ
          typesOf := all.typesOf_succ
          infer := all.infer_succ
          callType := all.callType_succ
          instantiate := all.instantiate_succ
          checkBody := all.checkBody_succ
          checkStmt := all.checkStmt_succ
          checkLet := all.checkLet_succ
          checkAll := all.checkAll_succ
          checkBlock := all.checkBlock_succ
          checkCondition := all.checkCondition_succ
          checkBound := all.checkBound_succ }

section Program

variable {limit size : Nat}

theorem ends_checkStatements (fuel : Nat) (frame : FrameId) (place : Place) (step : Nat)
    (last : Ty) (stmts : List Stmt) (state : State) (flat : Stmt.areFlat stmts = true)
    (small : sizeOf stmts ≤ size) (bounded : state.Bounded limit size [])
    (few : state.functions.size + Stmt.functionCounts stmts ≤ limit) :
    Ends limit size [] (Stmt.functionCounts stmts)
      (2 * sizeOf stmts + reserve limit size [] ≤ fuel) state
      (checkStatements fuel frame place step last stmts) := by
  induction stmts generalizing step last state with
  | nil => exact .pure bounded _
  | cons stmt stmts inductionHypothesis =>
      have sizes := List.cons.sizeOf_spec stmt stmts
      obtain ⟨flatFirst, flatOthers⟩ := Bool.and_eq_true_iff.1 flat
      rw [Stmt.functionCounts] at few ⊢
      rw [checkStatements]
      have first := (allEnd limit size fuel).checkStmt (.nil limit) frame (place.child step) stmt
        state flatFirst (by omega) bounded (by omega)
      apply (first.reporting.weaken (Nat.le_refl _) (by omega)).bind
      intro type middle bounded grown
      have others := inductionHypothesis (step + 1) (type.getD .unit) middle flatOthers (by omega)
        bounded (by omega)
      exact others.weaken (Nat.le_refl _) (by omega)

/-- The functions that no call has reached are checked one after the other. -/
theorem ends_checkUncalled (fuel identifier : Nat) (state : State)
    (lower : identifier ≤ limit) (bounded : state.Bounded limit size []) :
    Ends limit size [] 0 (limit + 2 + reserve limit size [] ≤ fuel + identifier) state
      (checkUncalled fuel identifier) := by
  induction fuel generalizing identifier state with
  | zero =>
      intro enough
      omega
  | succ fuel inductionHypothesis =>
      rw [checkUncalled]
      apply Ends.get
      cases found : state.functions[identifier]? with
      | none => exact .pure bounded _
      | some function =>
          have present := (Array.getElem?_eq_some_iff.1 found).1
          have functions := bounded.functions
          have others : ∀ middle : State, middle.Bounded limit size [] →
              Ends limit size [] 0 (limit + 2 + reserve limit size [] ≤ fuel + 1 + identifier)
                middle (checkUncalled fuel (identifier + 1)) := by
            intro middle bounded
            exact (inductionHypothesis (identifier + 1) middle (by omega) bounded).weaken
              (Nat.le_refl 0) (by omega)
          dsimp only
          split
          · have checked := (allEnd limit size fuel).instantiate (.nil limit) function.name.lexeme
              identifier (List.replicate function.parameters.length Ty.unknown) function.name state
              bounded
            apply (checked.reporting.weaken (Nat.le_refl 0) (by omega)).thenPlain
            intro _ middle bounded
            exact others middle bounded
          · exact others state bounded

theorem ends_checkProgram (fuel : Nat) (natives : Bindings Signature) {program : Program}
    (flat : Stmt.areFlat program = true) (count : Stmt.functionCounts program = limit)
    (small : sizeOf program = size) :
    Ends limit size [] limit (2 * size + reserve limit size [] + limit + 2 ≤ fuel) {}
      (checkProgram fuel natives program) := by
  have opened : (({} : State).opened natives).Bounded limit size [] :=
    { running := rfl
      functions := Nat.zero_le _
      bodies := fun _ _ found => by cases found }
  have top : Ends limit size [] limit (2 * size + reserve limit size [] + limit + 2 ≤ fuel) {}
      (checkTop fuel natives program) := by
    have statements := ends_checkStatements fuel 0 (Place.root 0) 0 .unit program
      (({} : State).opened natives) flat (Nat.le_of_eq small) opened
      (Nat.le_of_eq (count ▸ Nat.zero_add _))
    exact statements.weaken (Nat.le_of_eq count) (by omega)
  rw [checkProgram_eq]
  apply top.thenPlain
  intro type middle bounded
  have uncalled := ends_checkUncalled fuel 0 middle (Nat.zero_le _) bounded
  apply (uncalled.weaken (Nat.le_refl 0) (by omega)).thenPlain
  intro _ after bounded
  exact .pure bounded _

end Program

theorem Recovers.bind {first : Check α} {next : α → Check β} {state : State}
    (early : Recovers (first state)) (late : ∀ value middle, Recovers (next value middle)) :
    Recovers ((first >>= next) state) := by
  rw [bind_apply]
  generalize first state = result at early ⊢
  cases result with
  | ok value middle => exact late value middle
  | error stop after =>
      cases stop with
      | failed _ | reported => exact early.elim
      | faulted _ | exhausted => trivial

theorem recovers_checkStatements (fuel : Nat) (frame : FrameId) (place : Place) (step : Nat)
    (last : Ty) (stmts : List Stmt) (state : State) :
    Recovers (checkStatements fuel frame place step last stmts state) := by
  induction stmts generalizing step last state with
  | nil => trivial
  | cons stmt stmts inductionHypothesis =>
      rw [checkStatements]
      apply Recovers.bind (recovers_reporting _ state)
      intro type middle
      exact inductionHypothesis (step + 1) (type.getD .unit) middle

theorem recovers_checkUncalled (fuel identifier : Nat) (state : State) :
    Recovers (checkUncalled fuel identifier state) := by
  induction fuel generalizing identifier state with
  | zero => trivial
  | succ fuel inductionHypothesis =>
      rw [checkUncalled, get_bind_apply]
      cases state.functions[identifier]? with
      | none => trivial
      | some function =>
          dsimp only
          split
          · apply Recovers.bind (recovers_reporting _ state)
            intro _ middle
            exact inductionHypothesis (identifier + 1) middle
          · exact inductionHypothesis (identifier + 1) state

/-- All faults of a program are reported. -/
theorem recovers_checkProgram (fuel : Nat) (natives : Bindings Signature) (program : Program)
    (state : State) : Recovers (checkProgram fuel natives program state) := by
  rw [checkProgram_eq]
  apply Recovers.bind (recovers_checkStatements fuel _ _ 0 .unit program (state.opened natives))
  intro type middle
  apply Recovers.bind (recovers_checkUncalled fuel 0 middle)
  intro _ after
  trivial

end Check

namespace Typing

open Check

/-- The check of a program in which no function is declared in the body of another one
comes to an end, and a larger bound changes nothing. -/
theorem State.check_flat {program : Program} (flat : Stmt.areFlat program = true)
    (natives : Bindings Signature) : ∃ bound,
      (({} : State).check bound natives program).1 ≠ .exhausted ∧
      ∀ fuel ≥ bound, ({} : State).check fuel natives program =
        ({} : State).check bound natives program := by
  obtain ⟨bound, isBound⟩ : ∃ bound, 2 * sizeOf program +
      reserve (Stmt.functionCounts program) (sizeOf program) [] +
        Stmt.functionCounts program + 2 = bound := ⟨_, rfl⟩
  have ends := ends_checkProgram bound natives flat rfl rfl
  have recovers := recovers_checkProgram bound natives program {}
  refine ⟨bound, ?_, ?_⟩
  · unfold Ends at ends
    rw [State.check]
    generalize checkProgram bound natives program {} = result at ends recovers ⊢
    cases result with
    | ok type after =>
        dsimp only
        split <;> exact nofun
    | error stop after =>
        cases stop with
        | failed _ | reported => exact recovers.elim
        | faulted _ => exact nofun
        | exhausted => exact absurd (Nat.le_of_eq isBound) ends
  · intro fuel larger
    unfold Ends at ends
    rcases Extends.of_le (extends_checkProgram · natives program) larger {} with ⟨after, used⟩ | same
    · rw [used] at ends
      exact absurd (Nat.le_of_eq isBound) ends
    · rw [State.check, State.check, same]

end Typing

end CheckedScript
