import CheckedScript.Proofs.Walks.Disciplines

/-!
# Checkers keep to disciplines

Statements and blocks lead to expressions, to calls and to other statements, so they keep to
a course that every single step keeps to, and so does everything that a checker does: the
statements of a program, the functions that no call has reached, and one program after the
other.
-/

namespace CheckedScript

open Typing Check

namespace Discipline

variable {within : Part → Prop} {course : Course Stop State} {fits : Ty → Prop}

namespace ChecksTell

variable {fuel : Nat} {frame : FrameId} {place : Place} {state : State}

theorem checkLet_succ (last : ChecksTell within course fits fuel)
    (discipline : Discipline within course fits) {name : Token} {declared : Option WrittenType}
    {initializer : Expr}
    (reaches : within (.visit ⟨fuel + 2, frame, state,
      .statement place (.letValue name declared initializer)⟩)) (known : course.state state) :
    course.Tells state (Part.visit ⟨fuel + 2, frame, state,
      .statement place (.letValue name declared initializer)⟩).PassesInside (fun _ _ => True)
      (Check.checkLet (fuel + 1) frame place name (declared.map (·.type)) initializer state) := by
  have onward := discipline.closed reaches known
  have tells := last.expression (onward (.walk .initializer rfl)) known
  have covers : ∀ passed, (Part.visit ⟨fuel + 2, frame, state,
      .statement place (.letValue name declared initializer)⟩).PassesInside passed →
      (Part.visit ⟨fuel, frame, state, .expression (place.child 0) initializer⟩).Passes passed := by
    rintro passed ⟨_, calls, passes⟩
    cases calls with
    | walk calls _ => cases calls with | initializer => exact passes
  cases declared with
  | none =>
      rw [Option.map_none, Check.checkLet]
      refine (tells.followed fun found after _ later known fitting => ?_).narrow covers
      have bound := discipline.bind name.lexeme reaches later known fitting
      exact ⟨bound.1, bound.2, trivial⟩
  | some written =>
      rw [Option.map_some, Check.checkLet]
      have fitting := discipline.written written
      have binding := tells.onFailure discipline.stops fun after later known =>
        discipline.bind name.lexeme reaches later known fitting
      refine (binding.followed fun found after _ later known _ => ?_).narrow covers
      obtain ⟨further, bound⟩ := discipline.bind name.lexeme reaches later known fitting
      suffices ends : course.Ends (after.bind frame name.lexeme written.type) (fun _ _ => True)
          ((if _ then _ else _ : Check Unit) (after.bind frame name.lexeme written.type)) from
        ends.since further
      split
      · exact discipline.fails _ _ bound
      · exact .pure bound trivial

theorem checkAll_succ (last : ChecksTell within course fits fuel)
    (discipline : Discipline within course fits) {step : Nat} {stmts : List Stmt}
    (reaches : within (.visit ⟨fuel + 1, frame, state, .statements place step stmts⟩))
    (known : course.state state) :
    course.Tells state
      (Part.visit ⟨fuel + 1, frame, state, .statements place step stmts⟩).PassesInside
      (fun _ _ => True) (Check.checkAll (fuel + 1) frame place step stmts state) := by
  cases stmts with
  | nil =>
      refine (Course.Tells.quiet (.pure known trivial)).narrow ?_
      rintro passed ⟨_, calls, _⟩
      cases calls with
      | walk calls _ => cases calls
  | cons stmt stmts =>
      rw [Check.checkAll]
      have onward := discipline.closed reaches known
      have first := (last.statement (onward (.walk .first rfl)) known).reporting
        fun diagnostic after known => discipline.report diagnostic known
      refine (first.bind
        (fun _ middle =>
          (Part.visit ⟨fuel, frame, middle, .statements place (step + 1) stmts⟩).Passes)
        fun type middle equation _ known _ => ?_).narrow ?_
      · exact last.statements (onward (.walk (.others equation) rfl)) known
      · rintro passed ⟨_, calls, passes⟩
        cases calls with
        | walk calls _ =>
            cases calls with
            | first => exact .inl passes
            | others equation => exact .inr ⟨_, _, equation, passes⟩

theorem checkBlock_succ (last : ChecksTell within course fits fuel)
    (discipline : Discipline within course fits) {body : Block}
    (reaches : within (.visit ⟨fuel + 1, frame, state, .block place body⟩))
    (known : course.state state) :
    course.Tells state (Part.visit ⟨fuel + 1, frame, state, .block place body⟩).PassesInside
      (fun type _ => fits type) (Check.checkBlock (fuel + 1) frame place body state) := by
  obtain ⟨entered, inner⟩ := discipline.nested reaches known
  obtain ⟨brace, stmts, tail⟩ := body
  rw [Check.checkBlock]
  have onward := discipline.closed reaches known
  have statements := last.statements (onward (.walk .blockStatements rfl)) inner
  refine ((statements.bind
    (fun _ middle passed => ∃ expr, tail = some expr ∧
      (Part.visit ⟨fuel, state.next, middle,
        .expression (place.child stmts.length) expr⟩).Passes passed)
    fun _ middle equation _ known _ => ?_).after entered).narrow ?_
  · cases tail with
    | none =>
        refine (Course.Tells.quiet (.pure known discipline.unit)).narrow ?_
        rintro passed ⟨_, same, _⟩
        cases same
    | some expr =>
        have tells := (last.expression (onward (.walk (.blockTail equation) rfl)) known).reporting
          fun diagnostic after known => discipline.report diagnostic known
        refine (tells.followed fun found after _ _ known fitting => ?_).narrow ?_
        · cases found with
          | none => exact .throw known (discipline.stops _ _)
          | some type => exact .pure known (fitting type rfl)
        · rintro passed ⟨_, same, passes⟩
          cases same
          exact passes
  · rintro passed ⟨_, calls, passes⟩
    cases calls with
    | walk calls _ =>
        cases calls with
        | blockStatements => exact .inl passes
        | blockTail equation => exact .inr ⟨_, _, equation, _, rfl, passes⟩

theorem checkCondition_succ (last : ChecksTell within course fits fuel)
    (discipline : Discipline within course fits) {keyword : Token} {condition : Expr}
    (reaches : ∀ {rest}, fuel + 1 = rest + 1 →
      within (.visit ⟨rest, frame, state, .expression place condition⟩))
    (known : course.state state) :
    course.Tells state
      (fun passed => ∃ rest, fuel + 1 = rest + 1 ∧
        (Part.visit ⟨rest, frame, state, .expression place condition⟩).Passes passed)
      (fun _ _ => True) (Check.checkCondition (fuel + 1) frame place keyword condition state) := by
  rw [Check.checkCondition]
  have tells := (last.expression (reaches rfl) known).reporting
    fun diagnostic after known => discipline.report diagnostic known
  refine (tells.followed fun found after _ _ known _ => ?_).narrow ?_
  · cases found with
    | none => exact .pure known trivial
    | some type =>
        dsimp only
        split
        · have reported := discipline.report
            { cause := .conditionNotBool type.describe, token := keyword } known
          exact ⟨reported.1, reported.2, trivial⟩
        · exact .pure known trivial
  · rintro passed ⟨_, same, passes⟩
    cases same
    exact passes

theorem checkBound_succ (last : ChecksTell within course fits fuel)
    (discipline : Discipline within course fits) {token : Token} {bound : Expr}
    (reaches : ∀ {rest}, fuel + 1 = rest + 1 →
      within (.visit ⟨rest, frame, state, .expression place bound⟩))
    (known : course.state state) :
    course.Tells state
      (fun passed => ∃ rest, fuel + 1 = rest + 1 ∧
        (Part.visit ⟨rest, frame, state, .expression place bound⟩).Passes passed)
      (fun _ _ => True) (Check.checkBound (fuel + 1) frame place token bound state) := by
  rw [Check.checkBound]
  have tells := last.expression (reaches rfl) known
  refine (tells.followed fun found after _ _ known _ => ?_).narrow ?_
  · split
    · exact discipline.fails _ _ known
    · exact .pure known trivial
  · rintro passed ⟨_, same, passes⟩
    cases same
    exact passes

/-- The states that a loop over numbers passes through from its last bound on. -/
def LoopPasses (fuel : Nat) (frame : FrameId) (place : Place) (name : Token) (bounds : Bounds)
    (body : Block) (before passed : State) : Prop :=
  (∃ rest, fuel = rest + 1 ∧
    (Part.visit ⟨rest, frame, before, .expression (place.child 2) bounds.stop⟩).Passes passed) ∨
  ∃ value after, Check.checkBound fuel frame (place.child 2) bounds.token bounds.stop before =
      .ok value after ∧
    (Part.visit ⟨fuel, after.next, after.turn frame name.lexeme,
      .block (place.child 3) body⟩).Passes passed

theorem loop (last : ChecksTell within course fits fuel)
    (discipline : Discipline within course fits) {name : Token} {bounds : Bounds} {body : Block}
    {middle after : State}
    (reaches : within (.visit ⟨fuel + 1, frame, state,
      .statement place (.forLoop name bounds body)⟩))
    (onward : ∀ ⦃called⦄, (Part.visit ⟨fuel + 1, frame, state,
      .statement place (.forLoop name bounds body)⟩).Calls called → within called)
    (start : Check.checkBound fuel frame (place.child 0) bounds.token bounds.start state =
      .ok () middle)
    (step : StepChecked fuel frame (place.child 1) bounds.token bounds.step middle after)
    (later : course.later state after) (known : course.state after) :
    course.Tells after (LoopPasses fuel frame place name bounds body after)
      (fun type _ => fits type)
      ((do
        Check.checkBound fuel frame (place.child 2) bounds.token bounds.stop
        let inner ← nest frame
        define inner [(name.lexeme, .number)]
        let _ ← Check.checkBlock fuel inner (place.child 3) body
        return Ty.unit : Check Ty) after) := by
  have stop : course.Tells after
      (fun passed => ∃ rest, fuel = rest + 1 ∧
        (Part.visit ⟨rest, frame, after, .expression (place.child 2) bounds.stop⟩).Passes passed)
      (fun _ _ => True)
      (Check.checkBound fuel frame (place.child 2) bounds.token bounds.stop after) := by
    refine last.checkBound (fun {rest} same => ?_) known
    subst same
    exact onward (.walk (.forStop start step) rfl)
  refine stop.bind _ fun _ last' equation further known _ => ?_
  obtain ⟨entered, turned⟩ := discipline.turn reaches (course.trans later further) known
  have inner := last.block (onward (.walk (.forBody start step equation) rfl)) turned
  exact Course.Tells.after
    (inner.followed fun _ _ _ _ known _ => .pure known discipline.unit) entered

/-- A condition and the block that is checked behind it. -/
theorem guarded (last : ChecksTell within course fits fuel)
    (discipline : Discipline within course fits) {stmt : Stmt} {condition : Expr} {body : Block}
    (reaches : within (.visit ⟨fuel + 1, frame, state, .statement place stmt⟩))
    (known : course.state state) (keyword : Token)
    (calls : ∀ called, (Part.visit ⟨fuel + 1, frame, state, .statement place stmt⟩).Calls called ↔
      (∃ rest, fuel = rest + 1 ∧
        called = .visit ⟨rest, frame, state, .expression (place.child 0) condition⟩) ∨
      ∃ value middle,
        Check.checkCondition fuel frame (place.child 0) keyword condition state =
          .ok value middle ∧
        called = .visit ⟨fuel, frame, middle, .block (place.child 1) body⟩) :
    course.Tells state (Part.visit ⟨fuel + 1, frame, state, .statement place stmt⟩).PassesInside
      (fun type _ => fits type)
      ((do
        Check.checkCondition fuel frame (place.child 0) keyword condition
        let _ ← Check.checkBlock fuel frame (place.child 1) body
        return Ty.unit : Check Ty) state) := by
  have onward := discipline.closed reaches known
  have test : course.Tells state _ _
      (Check.checkCondition fuel frame (place.child 0) keyword condition state) :=
    last.checkCondition (fun same => onward ((calls _).2 (.inl ⟨_, same, rfl⟩))) known
  refine (test.bind
    (fun _ middle => (Part.visit ⟨fuel, frame, middle, .block (place.child 1) body⟩).Passes)
    fun _ middle equation _ known _ => ?_).narrow ?_
  · have block := last.block (onward ((calls _).2 (.inr ⟨_, _, equation, rfl⟩))) known
    exact block.followed fun _ _ _ _ known _ => .pure known discipline.unit
  · rintro passed ⟨called, isCalled, passes⟩
    rcases (calls called).1 isCalled with ⟨rest, same, rfl⟩ | ⟨value, middle, equation, rfl⟩
    · exact .inl ⟨rest, same, passes⟩
    · exact .inr ⟨value, middle, equation, passes⟩

/-- A branch with an alternative. -/
theorem ifElse_succ (last : ChecksTell within course fits fuel)
    (discipline : Discipline within course fits) {keyword : Token} {condition : Expr}
    {consequent : Block} {alternative : Stmt}
    (reaches : within (.visit ⟨fuel + 1, frame, state,
      .statement place (.ifElse keyword condition consequent alternative)⟩))
    (known : course.state state) :
    course.Tells state (Part.visit ⟨fuel + 1, frame, state,
      .statement place (.ifElse keyword condition consequent alternative)⟩).PassesInside
      (fun type _ => fits type)
      (Check.checkStmt (fuel + 1) frame place
        (.ifElse keyword condition consequent alternative) state) := by
  have onward := discipline.closed reaches known
  rw [Check.checkStmt]
  have test : course.Tells state _ _
      (Check.checkCondition fuel frame (place.child 0) keyword condition state) :=
    last.checkCondition
      (by rintro rest rfl; exact onward (.walk .elseCondition rfl)) known
  refine (test.bind
    (fun _ middle passed =>
      (Part.visit ⟨fuel, frame, middle, .block (place.child 1) consequent⟩).Passes passed ∨
        ∃ type after,
          Check.checkBlock fuel frame (place.child 1) consequent middle = .ok type after ∧
          (Part.visit ⟨fuel, frame, after, .statement (place.child 2) alternative⟩).Passes
            passed)
    fun _ middle equation _ known _ => ?_).narrow ?_
  · refine (last.block (onward (.walk (.elseConsequent equation) rfl)) known).bind _
      fun _ after equationBlock _ known _ => ?_
    exact (last.statement
      (onward (.walk (.alternative equation equationBlock) rfl)) known).followed
        fun _ _ _ _ known _ => .pure known discipline.unit
  · rintro passed ⟨_, calls, passes⟩
    cases calls with
    | walk calls _ =>
        cases calls with
        | elseCondition => exact .inl ⟨_, rfl, passes⟩
        | elseConsequent equation => exact .inr ⟨_, _, equation, .inl passes⟩
        | alternative equation equationBlock =>
            exact .inr ⟨_, _, equation, .inr ⟨_, _, equationBlock, passes⟩⟩

/-- A return. -/
theorem giveBack_succ (last : ChecksTell within course fits fuel)
    (discipline : Discipline within course fits) {keyword : Token} {value : Option Expr}
    (reaches : within (.visit ⟨fuel + 1, frame, state,
      .statement place (.giveBack keyword value)⟩))
    (known : course.state state) :
    course.Tells state (Part.visit ⟨fuel + 1, frame, state,
      .statement place (.giveBack keyword value)⟩).PassesInside
      (fun type _ => fits type)
      (Check.checkStmt (fuel + 1) frame place (.giveBack keyword value) state) := by
  have onward := discipline.closed reaches known
  rw [Check.checkStmt, get_bind_apply]
  have returned : ∀ {type after}, course.state after → fits type →
      course.Ends after (fun type _ => fits type)
        ((modify (fun state => state.addReturn type keyword) >>= fun _ => pure Ty.unit :
          Check Ty) after) := fun known fitting =>
    changes (discipline.addReturn keyword known fitting) discipline.unit
  cases idle : state.activations.isEmpty with
  | true =>
      refine (Course.Tells.quiet (discipline.fails _ _ known)).narrow ?_
      rintro passed ⟨_, calls, _⟩
      cases calls with
      | walk _ proceeds => cases idle.symm.trans proceeds
  | false =>
      dsimp only
      rw [if_neg Bool.false_ne_true]
      cases value with
      | none =>
          refine (Course.Tells.quiet (returned known discipline.unit)).narrow ?_
          rintro passed ⟨_, calls, _⟩
          cases calls with
          | walk calls _ => cases calls
      | some value =>
          have tells := last.expression (onward (.walk .returned idle)) known
          refine (tells.followed fun type after _ _ known fitting =>
            returned known fitting).narrow ?_
          rintro passed ⟨_, calls, passes⟩
          cases calls with
          | walk calls _ => cases calls with | returned => exact passes

/-- A loop over numbers. -/
theorem forLoop_succ (last : ChecksTell within course fits fuel)
    (discipline : Discipline within course fits) {name : Token} {bounds : Bounds} {body : Block}
    (reaches : within (.visit ⟨fuel + 1, frame, state,
      .statement place (.forLoop name bounds body)⟩))
    (known : course.state state) :
    course.Tells state (Part.visit ⟨fuel + 1, frame, state,
      .statement place (.forLoop name bounds body)⟩).PassesInside
      (fun type _ => fits type)
      (Check.checkStmt (fuel + 1) frame place (.forLoop name bounds body) state) := by
  have onward := discipline.closed reaches known
  rw [Check.checkStmt]
  have start : course.Tells state _ _
      (Check.checkBound fuel frame (place.child 0) bounds.token bounds.start state) :=
    last.checkBound (by rintro rest rfl; exact onward (.walk .forStart rfl)) known
  cases shape : bounds.step with
  | none =>
      have absent : ∀ middle, StepChecked fuel frame (place.child 1) bounds.token bounds.step
          middle middle := fun middle => by
        rw [shape]
        exact .absent
      refine (start.bind _ fun _ middle equation later known _ =>
        last.loop discipline reaches onward equation (absent middle) later known).narrow ?_
      rintro passed ⟨_, calls, passes⟩
      cases calls with
      | walk calls _ =>
          cases calls with
          | forStart => exact .inl ⟨_, rfl, passes⟩
          | forStep _ written => cases shape.symm.trans written
          | forStop equation step =>
              rw [shape] at step
              cases step
              exact .inr ⟨_, _, equation, .inl ⟨_, rfl, passes⟩⟩
          | forBody equation step equationStop =>
              rw [shape] at step
              cases step
              exact .inr ⟨_, _, equation, .inr ⟨_, _, equationStop, passes⟩⟩
  | some step =>
      have written : ∀ {middle after},
          Check.checkBound fuel frame (place.child 1) bounds.token step middle = .ok () after →
          StepChecked fuel frame (place.child 1) bounds.token bounds.step middle after :=
        fun equation => by
          rw [shape]
          exact .written equation
      refine (start.bind
        (fun _ middle passed =>
          (∃ rest, fuel = rest + 1 ∧
            (Part.visit ⟨rest, frame, middle, .expression (place.child 1) step⟩).Passes
              passed) ∨
          ∃ value after,
            Check.checkBound fuel frame (place.child 1) bounds.token step middle =
              .ok value after ∧
            LoopPasses fuel frame place name bounds body after passed)
        fun _ middle equation later known _ => ?_).narrow ?_
      · have second : course.Tells middle _ _
            (Check.checkBound fuel frame (place.child 1) bounds.token step middle) :=
          last.checkBound
            (by rintro rest rfl; exact onward (.walk (.forStep equation shape) rfl)) known
        exact second.bind _ fun _ after equationStep further known _ =>
          last.loop discipline reaches onward equation (written equationStep)
            (course.trans later further) known
      · rintro passed ⟨_, calls, passes⟩
        cases calls with
        | walk calls _ =>
            cases calls with
            | forStart => exact .inl ⟨_, rfl, passes⟩
            | forStep equation isStep =>
                cases shape.symm.trans isStep
                exact .inr ⟨_, _, equation, .inl ⟨_, rfl, passes⟩⟩
            | forStop equation checked =>
                rw [shape] at checked
                cases checked with
                | written equationStep =>
                    exact .inr ⟨_, _, equation, .inr ⟨_, _, equationStep,
                      .inl ⟨_, rfl, passes⟩⟩⟩
            | forBody equation checked equationStop =>
                rw [shape] at checked
                cases checked with
                | written equationStep =>
                    exact .inr ⟨_, _, equation, .inr ⟨_, _, equationStep,
                      .inr ⟨_, _, equationStop, passes⟩⟩⟩

theorem checkStmt_succ (last : ChecksTell within course fits fuel)
    (discipline : Discipline within course fits) {stmt : Stmt}
    (reaches : within (.visit ⟨fuel + 1, frame, state, .statement place stmt⟩))
    (known : course.state state) :
    course.Tells state (Part.visit ⟨fuel + 1, frame, state, .statement place stmt⟩).PassesInside
      (fun type _ => fits type) (Check.checkStmt (fuel + 1) frame place stmt state) := by
  have onward := discipline.closed reaches known
  cases stmt with
  | expression value =>
      rw [Check.checkStmt]
      refine (last.expression (onward (.walk .value rfl)) known).narrow ?_
      rintro passed ⟨_, calls, passes⟩
      cases calls with
      | walk calls _ => cases calls with | value => exact passes
  | letValue name declared initializer =>
      rw [Check.checkStmt]
      exact (last.checkLet reaches known).followed fun _ after _ _ known _ =>
        .pure known discipline.unit
  | block body =>
      rw [Check.checkStmt]
      refine (last.block (onward (.walk .block rfl)) known).narrow ?_
      rintro passed ⟨_, calls, passes⟩
      cases calls with
      | walk calls _ => cases calls with | block => exact passes
  | ifThen keyword condition consequent =>
      rw [Check.checkStmt]
      refine last.guarded discipline reaches known keyword fun called => ?_
      constructor
      · intro calls
        cases calls with
        | walk calls _ =>
            cases calls with
            | ifCondition => exact .inl ⟨_, rfl, rfl⟩
            | ifConsequent equation => exact .inr ⟨_, _, equation, rfl⟩
      · rintro (⟨_, rfl, rfl⟩ | ⟨_, _, equation, rfl⟩)
        · exact .walk .ifCondition rfl
        · exact .walk (.ifConsequent equation) rfl
  | ifElse keyword condition consequent alternative =>
      exact last.ifElse_succ discipline reaches known
  | whileLoop keyword condition body =>
      rw [Check.checkStmt]
      refine last.guarded discipline reaches known keyword fun called => ?_
      constructor
      · intro calls
        cases calls with
        | walk calls _ =>
            cases calls with
            | whileCondition => exact .inl ⟨_, rfl, rfl⟩
            | whileBody equation => exact .inr ⟨_, _, equation, rfl⟩
      · rintro (⟨_, rfl, rfl⟩ | ⟨_, _, equation, rfl⟩)
        · exact .walk .whileCondition rfl
        · exact .walk (.whileBody equation) rfl
  | function name parameters body =>
      rw [Check.checkStmt]
      refine (Course.Tells.quiet
        (changes (discipline.declare reaches known) discipline.unit)).narrow ?_
      rintro passed ⟨_, calls, _⟩
      cases calls with
      | walk calls _ => cases calls
  | giveBack keyword value => exact last.giveBack_succ discipline reaches known
  | forLoop name bounds body => exact last.forLoop_succ discipline reaches known

/-- Nothing is done without a bound on the nesting. -/
theorem zero (discipline : Discipline within course fits) : ChecksTell within course fits 0 := by
  have stops : ∀ {α : Type} {state : State} {good : α → State → Prop} {inside : State → Prop},
      course.state state → (∀ passed, ¬ inside passed) →
      course.Tells state inside good ((throw .exhausted : Check α) state) :=
    fun known nowhere => (Course.Tells.quiet (.throw known (discipline.stops _ _))).narrow nowhere
  have nowhere : ∀ {frame state task passed},
      ¬ (Part.visit ⟨0, frame, state, task⟩).PassesInside passed := by
    rintro frame state task passed ⟨_, calls, _⟩
    cases calls with
    | walk calls _ => cases calls
  exact
    { typeOf := fun _ known => stops known fun _ => nowhere
      typesOf := fun _ known => stops known fun _ => nowhere
      infer := fun _ known => stops known fun passed ⟨_, calls, _⟩ => by
        cases calls with
        | walk calls _ => cases calls
      callType := fun _ known _ _ => stops known fun passed ⟨_, _, _, same, _⟩ => by cases same
      instantiate := fun _ known _ => stops known fun passed ⟨_, calls, _⟩ => by cases calls
      checkBody := fun reaches opens known fitting => by
        obtain ⟨entered, holds⟩ := (discipline.enter reaches opens known fitting).1
        refine (stops holds ?_).after entered
        rintro passed ⟨_, calls, _⟩
        cases calls
      checkStmt := fun _ known => stops known fun _ => nowhere
      checkLet := fun _ known => stops known fun passed ⟨_, calls, _⟩ => by
        cases calls with
        | walk calls _ => cases calls
      checkAll := fun _ known => stops known fun _ => nowhere
      checkBlock := fun _ known => stops known fun _ => nowhere
      checkCondition := fun _ known => stops known fun passed ⟨_, same, _⟩ => by cases same
      checkBound := fun _ known => stops known fun passed ⟨_, same, _⟩ => by cases same }

end ChecksTell

theorem checksTell (discipline : Discipline within course fits) (fuel : Nat) :
    ChecksTell within course fits fuel := by
  induction fuel with
  | zero => exact .zero discipline
  | succ fuel last =>
      exact
        { typeOf := last.typeOf_succ discipline
          typesOf := last.typesOf_succ discipline
          infer := last.infer_succ discipline
          callType := last.callType_succ discipline
          instantiate := last.instantiate_succ discipline
          checkBody := last.checkBody_succ discipline
          checkStmt := last.checkStmt_succ discipline
          checkLet := last.checkLet_succ discipline
          checkAll := last.checkAll_succ discipline
          checkBlock := last.checkBlock_succ discipline
          checkCondition := last.checkCondition_succ discipline
          checkBound := last.checkBound_succ discipline }

/-- What the walk over a tree leads to comes to its end before the walk does. -/
theorem leads (discipline : Discipline within course fits) {visit : Visit} {called : Part}
    {last after : State} (inside : within (.visit visit)) (known : course.state visit.state)
    (calls : (Part.visit visit).Calls called) (ends : called.Ends last)
    (whole : (Part.visit visit).Ends after) : course.later last after := by
  have passed : (Part.visit visit).PassesInside last := ⟨called, calls, called, .refl, .inr ends⟩
  obtain ⟨fuel, frame, state, task⟩ := visit
  have tells := discipline.checksTell fuel
  cases task with
  | expression => exact (tells.typeOf inside known).leads last after passed whole
  | expressions => exact (tells.typesOf inside known).leads last after passed whole
  | statement => exact (tells.checkStmt inside known).leads last after passed whole
  | statements => exact (tells.checkAll inside known).leads last after passed whole
  | block => exact (tells.checkBlock inside known).leads last after passed whole

section Programs

variable {fuel : Nat} {frame : FrameId} {place : Place} {state : State}

/-- The statements of a program. -/
theorem top (discipline : Discipline within course fits) {step : Nat} {type : Ty}
    {stmts : List Stmt}
    (reaches : within (.top fuel frame state place step type stmts))
    (known : course.state state) :
    course.Tells state (Part.top fuel frame state place step type stmts).Passes (fun _ _ => True)
      (checkStatements fuel frame place step type stmts state) := by
  refine Course.Tells.part (.top fuel frame state place step type stmts) ?_ rfl
    (fun _ ends => ends) known
  induction stmts generalizing state step type with
  | nil =>
      refine (Course.Tells.quiet (.pure known trivial)).narrow ?_
      rintro passed ⟨_, calls, _⟩
      cases calls
  | cons stmt stmts inductionHypothesis =>
      rw [checkStatements]
      have onward := discipline.closed reaches known
      have first := ((discipline.checksTell fuel).statement (onward .first) known).reporting
        fun diagnostic after known => discipline.report diagnostic known
      refine (first.bind
        (fun found middle =>
          (Part.top fuel frame middle place (step + 1) (found.getD .unit) stmts).Passes)
        fun found middle equation _ known _ => ?_).narrow ?_
      · exact (inductionHypothesis (onward (.others equation)) known).part _ rfl
          (fun _ ends => ends) known
      · rintro passed ⟨_, calls, passes⟩
        cases calls with
        | first => exact .inl passes
        | others equation => exact .inr ⟨_, _, equation, passes⟩

/-- The functions that no call has reached. -/
theorem uncalled (discipline : Discipline within course fits) (unknown : fits .unknown)
    {identifier : Nat} (reaches : within (.uncalled fuel state identifier))
    (known : course.state state) :
    course.Tells state (Part.uncalled fuel state identifier).Passes (fun _ _ => True)
      (checkUncalled fuel identifier state) := by
  refine Course.Tells.part (.uncalled fuel state identifier) ?_ rfl
    (fun _ ends => ends) known
  induction fuel generalizing state identifier with
  | zero =>
      refine (Course.Tells.quiet (.throw known (discipline.stops _ _))).narrow ?_
      rintro passed ⟨_, calls, _⟩
      cases calls
  | succ fuel inductionHypothesis =>
      rw [checkUncalled, get_bind_apply]
      have onward := discipline.closed reaches known
      cases found : state.functions[identifier]? with
      | none =>
          refine (Course.Tells.quiet (.pure known trivial)).narrow ?_
          rintro passed ⟨_, calls, _⟩
          cases calls with
          | unreached other _ | reached other _ | otherUncalled other _ _ =>
              cases found.symm.trans other
      | some function =>
          cases new : function.instances.isEmpty with
          | false =>
              dsimp only
              rw [new, if_neg Bool.false_ne_true]
              refine ((inductionHypothesis (onward (.reached found new)) known).part _ rfl
                (fun _ ends => ends) known).narrow ?_
              rintro passed ⟨_, calls, passes⟩
              cases calls with
              | reached => exact passes
              | unreached other isNew | otherUncalled other isNew _ =>
                  cases found.symm.trans other
                  cases new.symm.trans isNew
          | true =>
              dsimp only
              rw [new, if_pos rfl]
              have called := onward (.unreached found new)
              have arguments : ∀ type ∈ List.replicate function.parameters.length Ty.unknown,
                  fits type := fun type member => (List.eq_of_mem_replicate member).symm ▸ unknown
              have first := (((discipline.checksTell fuel).instantiate called known arguments).part
                _ rfl (fun _ ends => ends) known).reporting
                  fun diagnostic after known => discipline.report diagnostic known
              refine (first.bind
                (fun _ middle => (Part.uncalled fuel middle (identifier + 1)).Passes)
                fun _ middle equation _ known _ => ?_).narrow ?_
              · exact (inductionHypothesis
                  (onward (.otherUncalled found new equation)) known).part _ rfl
                    (fun _ ends => ends) known
              · rintro passed ⟨_, calls, passes⟩
                cases calls with
                | unreached other _ =>
                    cases found.symm.trans other
                    exact .inl passes
                | reached other isOld =>
                    cases found.symm.trans other
                    cases new.symm.trans isOld
                | otherUncalled other _ equation =>
                    cases found.symm.trans other
                    exact .inr ⟨_, _, equation, passes⟩

/-- Programs, one after the other. -/
theorem programs (discipline : Discipline within course fits) (unknown : fits .unknown)
    {natives : Bindings Signature} {list : List Program}
    (opened : ∀ {state}, course.state state → course.Steps state (state.opened natives))
    (reaches : within (.programs fuel state natives list)) (known : course.state state) :
    course.Tells state (Part.programs fuel state natives list).Passes (fun _ _ => True)
      (checkEach fuel natives list state) := by
  refine Course.Tells.part (.programs fuel state natives list) ?_ rfl
    (fun _ ends => ends) known
  induction list generalizing state with
  | nil =>
      refine (Course.Tells.quiet (.pure known trivial)).narrow ?_
      rintro passed ⟨_, calls, _⟩
      cases calls
  | cons program list inductionHypothesis =>
      rw [checkEach, checkProgram_eq]
      have onward := discipline.closed reaches known
      obtain ⟨later, holds⟩ := opened known
      have statements : course.Tells state _ (fun _ _ => True)
          (checkTop fuel natives program state) :=
        (discipline.top (onward .statements) holds).after later
      have checked : course.Tells state _ (fun _ _ => True)
          ((do
            let type ← checkTop fuel natives program
            checkUncalled fuel 0
            return type : Check Ty) state) :=
        statements.bind (fun _ middle => (Part.uncalled fuel middle 0).Passes)
          fun _ middle equation _ known _ =>
            (discipline.uncalled unknown (onward (.uncalled equation)) known).followed
              fun _ _ _ _ known _ => .pure known trivial
      refine (checked.bind (fun _ after => (Part.programs fuel after natives list).Passes)
        fun _ after equation _ known _ => ?_).narrow ?_
      · exact (inductionHypothesis
          (onward (.otherPrograms (checkProgram_eq fuel natives program ▸ equation)))
          known).part _ rfl (fun _ ends => ends) known
      · rintro passed ⟨_, calls, passes⟩
        cases calls with
        | statements => exact .inl (.inl passes)
        | uncalled equation => exact .inl (.inr ⟨_, _, equation, passes⟩)
        | otherPrograms equation =>
            exact .inr ⟨_, _, checkProgram_eq fuel natives program ▸ equation, passes⟩

end Programs

end Discipline

end CheckedScript
