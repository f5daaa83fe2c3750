import CheckedScript.Proofs.Walks.Passages

/-!
# What a checker keeps to

A discipline collects what has to be shown of the single steps of a checker: that they keep
to a course, and that the types they come up with are of one variety as long as the types
that they start from are.  Expressions, calls and the bodies of functions keep to a course
that every step keeps to, if what they lead to does.
-/

namespace CheckedScript

open Typing Check

/-- A step from one state to another that keeps to a course. -/
def Course.Steps (course : Course Stop State) (before after : State) : Prop :=
  course.later before after ∧ course.state after

/-- The rules of typing and what a checker keeps give types of one variety only. -/
structure Variety (course : Course Stop State) (fits : Ty → Prop) : Prop where
  constant : ∀ value, fits (constantType value)
  written : ∀ written : WrittenType, fits written.type
  bool : fits .bool
  unit : fits .unit
  tuple : ∀ {types}, (∀ type ∈ types, fits type) → fits (.tuple types)
  unary : ∀ {operator operand result}, fits operand → unaryType? operator operand = some result →
    fits result
  binary : ∀ {operator left right result}, fits left → fits right →
    binaryType? operator left right = some result → fits result
  native : ∀ {name parameters result}, fits (.native name parameters result) → fits result
  unresolved : ∀ {arguments}, (∀ type ∈ arguments, fits type) → Ty.anyUnknown arguments = true →
    fits .unknown
  visible : ∀ {state frame name type}, course.state state →
    state.scopes.get? frame name = some type → fits type
  cached : ∀ {state identifier key type}, course.state state →
    state.instance? identifier key = some type → fits type
  returned : ∀ {state activation entry}, course.state state → activation ∈ state.activations →
    entry ∈ activation.returns → fits entry.1

/-- All types are of some variety. -/
theorem Variety.any (course : Course Stop State) : Variety course fun _ => True where
  constant _ := trivial
  written _ := trivial
  bool := trivial
  unit := trivial
  tuple _ := trivial
  unary _ _ := trivial
  binary _ _ _ := trivial
  native _ := trivial
  unresolved _ _ := trivial
  visible _ _ := trivial
  cached _ _ := trivial
  returned _ _ _ := trivial

/-- Every single step in some parts of the work of a checker keeps to a course, and to the
types of a variety, and these parts lead to each other. -/
structure Discipline (within : Part → Prop) (course : Course Stop State) (fits : Ty → Prop) : Prop
    extends Variety course fits where
  closed : ∀ {part}, within part → course.state part.state →
    ∀ ⦃called⦄, part.Calls called → within called
  stops : ∀ stop state, course.stop stop state
  report : ∀ {state} diagnostic, course.state state → course.Steps state (state.report diagnostic)
  note : ∀ {fuel frame before place expr state type},
    within (.visit ⟨fuel, frame, before, .expression place expr⟩) →
    course.later before state → course.state state → fits type →
    course.Steps state (state.note place expr type)
  bind : ∀ {fuel frame before place stmt state} name {type},
    within (.visit ⟨fuel, frame, before, .statement place stmt⟩) →
    course.later before state → course.state state → fits type →
    course.Steps state (state.bind frame name type)
  declare : ∀ {fuel frame state place name parameters body},
    within (.visit ⟨fuel, frame, state, .statement place (.function name parameters body)⟩) →
    course.state state →
    course.Steps state (state.declare frame (place.child 0) name parameters body)
  addReturn : ∀ {state type} keyword, course.state state → fits type →
    course.Steps state (state.addReturn type keyword)
  nested : ∀ {fuel frame state place body},
    within (.visit ⟨fuel, frame, state, .block place body⟩) → course.state state →
    course.Steps state (state.nested frame)
  turn : ∀ {fuel frame before place name bounds body state},
    within (.visit ⟨fuel, frame, before, .statement place (.forLoop name bounds body)⟩) →
    course.later before state → course.state state →
    course.Steps state (state.turn frame name.lexeme)
  enter : ∀ {fuel state name identifier arguments anchor function},
    within (.call fuel state name identifier arguments anchor) →
    state.Opens identifier arguments function → course.state state →
    (∀ type ∈ arguments, fits type) →
    course.Steps state (AllKeep.entered state function arguments) ∧
      course.Steps state (state.begun function identifier arguments)
  leave : ∀ {fuel before name identifier arguments anchor function state},
    within (.call fuel before name identifier arguments anchor) →
    before.Opens identifier arguments function → course.state before →
    Effect (.body before.next) (before.begun function identifier arguments) state →
    course.later (before.begun function identifier arguments) state → course.state state →
    course.Steps state { state with activations := state.activations.tail }
  remember : ∀ {fuel before name identifier arguments anchor function state declared result},
    within (.call (fuel + 1) before name identifier arguments anchor) →
    before.Opens identifier arguments function → course.later before state →
    (∃ results middle, checkBody fuel identifier arguments function before.next
      (AllKeep.entered before function arguments) = .ok results middle ∧
        course.later middle state) →
    course.state state → (∀ type ∈ arguments, fits type) → fits result →
    state.functions[identifier]? = some declared →
    state.instance? identifier (arguments, before.generation) = none →
    ¬ state.Active identifier arguments →
    course.Steps state (state.setInstance identifier (arguments, before.generation) result)

namespace Typing

theorem BodyVisit.opens {fuel : Nat} {state : State} {identifier : Nat} {arguments : List Ty}
    {visit : Visit} (inside : BodyVisit fuel state identifier arguments visit) :
    ∃ function, state.Opens identifier arguments function := by
  cases inside with
  | statements opens => exact ⟨_, opens⟩
  | tail opens _ _ => exact ⟨_, opens⟩

/-- The returns of the innermost body, with the value at its end if that one can be reached. -/
def State.collected (state : State) (function : DeclaredFunction) (fallThrough : Option Ty) :
    List (Ty × Token) :=
  let returns := (state.activations.head?.map (·.returns)).getD []
  match fallThrough with
  | some type =>
      if blockReturns function.body then returns else returns ++ [(type, function.name)]
  | none => returns

theorem State.mem_collected {state : State} {function : DeclaredFunction}
    {fallThrough : Option Ty} {entry : Ty × Token}
    (member : entry ∈ state.collected function fallThrough) :
    (∃ activation ∈ state.activations, entry ∈ activation.returns) ∨
      fallThrough = some entry.1 := by
  have isReturn : entry ∈ (state.activations.head?.map (·.returns)).getD [] →
      ∃ activation ∈ state.activations, entry ∈ activation.returns := by
    intro member
    cases shape : state.activations with
    | nil =>
        rw [shape] at member
        cases member
    | cons activation activations =>
        rw [shape] at member
        exact ⟨activation, List.mem_cons_self, member⟩
  unfold State.collected at member
  cases fallThrough with
  | none => exact .inl (isReturn member)
  | some type =>
      dsimp only at member
      split at member
      · exact .inl (isReturn member)
      · rcases List.mem_append.1 member with member | isEnd
        · exact .inl (isReturn member)
        · cases List.mem_singleton.1 isEnd
          exact .inr rfl

/-- A body is checked for some types of its parameters. -/
theorem checkBody_entered (fuel : Nat) (start : State) (identifier : Nat) (arguments : List Ty)
    (function : DeclaredFunction) :
    checkBody (fuel + 1) identifier arguments function start.next
        (AllKeep.entered start function arguments) =
      match AllKeep.throughBody fuel function start.next
        (start.begun function identifier arguments) with
      | .ok fallThrough last =>
          .ok (last.collected function fallThrough)
            { last with activations := last.activations.tail }
      | .error stop last => .error stop last :=
  AllKeep.checkBody_apply fuel identifier arguments function _ _

theorem chooseResult_mem (types : List Ty) :
    chooseResult types ∈ types ∨ chooseResult types = .unit := by
  unfold chooseResult
  split
  · next found => exact .inl (List.mem_of_find?_eq_some found)
  · cases types with
    | nil => exact .inr rfl
    | cons type types => exact .inl List.mem_cons_self

end Typing

namespace Discipline

variable {within : Part → Prop} {course : Course Stop State} {fits : Ty → Prop}

/-- All parts of the work of a checker keep to the course, with a bound on their nesting. -/
structure ChecksTell (within : Part → Prop) (course : Course Stop State) (fits : Ty → Prop)
    (fuel : Nat) : Prop where
  typeOf : ∀ {frame place expr state},
    within (.visit ⟨fuel, frame, state, .expression place expr⟩) → course.state state →
    course.Tells state (Part.visit ⟨fuel, frame, state, .expression place expr⟩).PassesInside
      (fun type _ => fits type) (typeOf fuel frame place expr state)
  typesOf : ∀ {frame place step exprs state},
    within (.visit ⟨fuel, frame, state, .expressions place step exprs⟩) →
    course.state state →
    course.Tells state (Part.visit ⟨fuel, frame, state, .expressions place step exprs⟩).PassesInside
      (fun types _ => ∀ type ∈ types, fits type) (typesOf fuel frame place step exprs state)
  infer : ∀ {frame place expr state},
    within (.visit ⟨fuel + 1, frame, state, .expression place expr⟩) → course.state state →
    course.Tells state (Part.visit ⟨fuel + 1, frame, state, .expression place expr⟩).PassesInside
      (fun type _ => fits type) (infer fuel frame place expr state)
  callType : ∀ {callee arguments paren state},
    (∀ {rest name identifier}, fuel = rest + 1 → callee = .function name identifier →
      arity state.functions name identifier = .ok arguments.length →
      within (.call rest state name identifier arguments paren)) →
    course.state state → fits callee → (∀ type ∈ arguments, fits type) →
    course.Tells state
      (fun passed => ∃ rest name identifier, fuel = rest + 1 ∧ callee = .function name identifier ∧
        arity state.functions name identifier = .ok arguments.length ∧
        (Part.call rest state name identifier arguments paren).Passes passed)
      (fun type _ => fits type) (callType fuel callee arguments paren state)
  instantiate : ∀ {name identifier arguments anchor state},
    within (.call fuel state name identifier arguments anchor) → course.state state →
    (∀ type ∈ arguments, fits type) →
    course.Tells state (Part.call fuel state name identifier arguments anchor).PassesInside
      (fun type _ => fits type) (instantiate fuel name identifier arguments anchor state)
  checkBody : ∀ {name identifier arguments anchor function state},
    within (.call (fuel + 1) state name identifier arguments anchor) →
    state.Opens identifier arguments function → course.state state →
    (∀ type ∈ arguments, fits type) →
    course.Tells state (Part.call (fuel + 1) state name identifier arguments anchor).PassesInside
      (fun results _ => ∀ entry ∈ results, fits entry.1)
      (checkBody fuel identifier arguments function state.next
        (AllKeep.entered state function arguments))
  checkStmt : ∀ {frame place stmt state},
    within (.visit ⟨fuel, frame, state, .statement place stmt⟩) → course.state state →
    course.Tells state (Part.visit ⟨fuel, frame, state, .statement place stmt⟩).PassesInside
      (fun type _ => fits type) (checkStmt fuel frame place stmt state)
  checkLet : ∀ {frame place name declared initializer state},
    within (.visit ⟨fuel + 1, frame, state,
      .statement place (.letValue name declared initializer)⟩) → course.state state →
    course.Tells state (Part.visit ⟨fuel + 1, frame, state,
      .statement place (.letValue name declared initializer)⟩).PassesInside (fun _ _ => True)
      (checkLet fuel frame place name (declared.map (·.type)) initializer state)
  checkAll : ∀ {frame place step stmts state},
    within (.visit ⟨fuel, frame, state, .statements place step stmts⟩) →
    course.state state →
    course.Tells state (Part.visit ⟨fuel, frame, state, .statements place step stmts⟩).PassesInside
      (fun _ _ => True) (checkAll fuel frame place step stmts state)
  checkBlock : ∀ {frame place body state},
    within (.visit ⟨fuel, frame, state, .block place body⟩) → course.state state →
    course.Tells state (Part.visit ⟨fuel, frame, state, .block place body⟩).PassesInside
      (fun type _ => fits type) (checkBlock fuel frame place body state)
  checkCondition : ∀ {frame place keyword condition state},
    (∀ {rest}, fuel = rest + 1 →
      within (.visit ⟨rest, frame, state, .expression place condition⟩)) →
    course.state state →
    course.Tells state
      (fun passed => ∃ rest, fuel = rest + 1 ∧
        (Part.visit ⟨rest, frame, state, .expression place condition⟩).Passes passed)
      (fun _ _ => True) (checkCondition fuel frame place keyword condition state)
  checkBound : ∀ {frame place token bound state},
    (∀ {rest}, fuel = rest + 1 →
      within (.visit ⟨rest, frame, state, .expression place bound⟩)) →
    course.state state →
    course.Tells state
      (fun passed => ∃ rest, fuel = rest + 1 ∧
        (Part.visit ⟨rest, frame, state, .expression place bound⟩).Passes passed)
      (fun _ _ => True) (checkBound fuel frame place token bound state)

section Steps

variable {α : Type} {state : State} {good : α → State → Prop}

theorem fails (discipline : Discipline within course fits) (cause : Cause) (token : Token)
    (known : course.state state) : course.Ends state good ((fail cause token : Check α) state) :=
  .throw known (discipline.stops _ _)

theorem reports (discipline : Discipline within course fits) (diagnostics : List Diagnostic)
    (known : course.state state) :
    course.Steps state (diagnostics.foldl State.report state) := by
  induction diagnostics generalizing state with
  | nil => exact ⟨course.refl _, known⟩
  | cons diagnostic diagnostics inductionHypothesis =>
      obtain ⟨later, reported⟩ := discipline.report diagnostic known
      obtain ⟨further, last⟩ := inductionHypothesis reported
      exact ⟨course.trans later further, last⟩

theorem looks {next : Option Ty → Check α} {frame : FrameId} {name : String}
    (ends : course.Ends state good (next (state.scopes.get? frame name) state)) :
    course.Ends state good ((lookup? frame name >>= next) state) :=
  ends

/-- A change of the state. -/
theorem changes {change : State → State} {value : α} (steps : course.Steps state (change state))
    (holds : good value (change state)) :
    course.Ends state good ((modify change >>= fun _ => pure value : Check α) state) :=
  ⟨steps.1, steps.2, holds⟩

end Steps

namespace ChecksTell

variable {fuel : Nat} {frame : FrameId} {place : Place} {state : State}

/-- The check of an expression as a whole. -/
theorem expression (last : ChecksTell within course fits fuel) {expr : Expr}
    (reaches : within (.visit ⟨fuel, frame, state, .expression place expr⟩))
    (known : course.state state) :
    course.Tells state (Part.visit ⟨fuel, frame, state, .expression place expr⟩).Passes
      (fun type _ => fits type) (Check.typeOf fuel frame place expr state) :=
  (last.typeOf reaches known).part _ rfl (fun _ ends => ends) known

theorem expressions (last : ChecksTell within course fits fuel) {step : Nat} {exprs : List Expr}
    (reaches : within (.visit ⟨fuel, frame, state, .expressions place step exprs⟩))
    (known : course.state state) :
    course.Tells state (Part.visit ⟨fuel, frame, state, .expressions place step exprs⟩).Passes
      (fun types _ => ∀ type ∈ types, fits type)
      (Check.typesOf fuel frame place step exprs state) :=
  (last.typesOf reaches known).part _ rfl (fun _ ends => ends) known

theorem statement (last : ChecksTell within course fits fuel) {stmt : Stmt}
    (reaches : within (.visit ⟨fuel, frame, state, .statement place stmt⟩))
    (known : course.state state) :
    course.Tells state (Part.visit ⟨fuel, frame, state, .statement place stmt⟩).Passes
      (fun type _ => fits type) (Check.checkStmt fuel frame place stmt state) :=
  (last.checkStmt reaches known).part _ rfl (fun _ ends => ends) known

theorem statements (last : ChecksTell within course fits fuel) {step : Nat} {stmts : List Stmt}
    (reaches : within (.visit ⟨fuel, frame, state, .statements place step stmts⟩))
    (known : course.state state) :
    course.Tells state (Part.visit ⟨fuel, frame, state, .statements place step stmts⟩).Passes
      (fun _ _ => True) (Check.checkAll fuel frame place step stmts state) :=
  (last.checkAll reaches known).part _ rfl (fun _ ends => ends) known

theorem block (last : ChecksTell within course fits fuel) {body : Block}
    (reaches : within (.visit ⟨fuel, frame, state, .block place body⟩))
    (known : course.state state) :
    course.Tells state (Part.visit ⟨fuel, frame, state, .block place body⟩).Passes
      (fun type _ => fits type) (Check.checkBlock fuel frame place body state) :=
  (last.checkBlock reaches known).part _ rfl (fun _ ends => ends) known

theorem typeOf_succ (last : ChecksTell within course fits fuel)
    (discipline : Discipline within course fits) {expr : Expr}
    (reaches : within (.visit ⟨fuel + 1, frame, state, .expression place expr⟩))
    (known : course.state state) :
    course.Tells state (Part.visit ⟨fuel + 1, frame, state, .expression place expr⟩).PassesInside
      (fun type _ => fits type) (Check.typeOf (fuel + 1) frame place expr state) := by
  rw [Check.typeOf]
  exact (last.infer reaches known).followed fun type after _ later known fitting =>
    changes (discipline.note reaches later known fitting) fitting

theorem typesOf_succ (last : ChecksTell within course fits fuel)
    (discipline : Discipline within course fits) {step : Nat} {exprs : List Expr}
    (reaches : within (.visit ⟨fuel + 1, frame, state, .expressions place step exprs⟩))
    (known : course.state state) :
    course.Tells state
      (Part.visit ⟨fuel + 1, frame, state, .expressions place step exprs⟩).PassesInside
      (fun types _ => ∀ type ∈ types, fits type)
      (Check.typesOf (fuel + 1) frame place step exprs state) := by
  cases exprs with
  | nil =>
      refine (Course.Tells.quiet (.pure known (by simp))).narrow ?_
      rintro passed ⟨_, calls, _⟩
      cases calls with
      | walk calls _ => cases calls
  | cons expr exprs =>
      rw [Check.typesOf]
      have onward := discipline.closed reaches known
      have first := last.expression (onward (.walk .item rfl)) known
      refine (first.bind
        (fun _ middle =>
          (Part.visit ⟨fuel, frame, middle, .expressions place (step + 1) exprs⟩).Passes)
        fun type middle equation _ known fitting => ?_).narrow ?_
      · have others := last.expressions (onward (.walk (.otherItems equation) rfl)) known
        exact others.followed fun types after _ _ known fittingOthers =>
          .pure known (List.forall_mem_cons.2 ⟨fitting, fittingOthers⟩)
      · rintro passed ⟨_, calls, passes⟩
        cases calls with
        | walk calls _ =>
            cases calls with
            | item => exact .inl passes
            | otherItems equation => exact .inr ⟨_, _, equation, passes⟩

/-- An expression with one part. -/
theorem single (last : ChecksTell within course fits fuel)
    (discipline : Discipline within course fits) {expr : Expr}
    (reaches : within (.visit ⟨fuel + 2, frame, state, .expression place expr⟩))
    (known : course.state state) (part : Expr)
    (calls : ∀ called, (Part.visit ⟨fuel + 2, frame, state, .expression place expr⟩).Calls called ↔
      called = .visit ⟨fuel, frame, state, .expression (place.child 0) part⟩) :
    course.Tells state (Part.visit ⟨fuel + 2, frame, state, .expression place expr⟩).PassesInside
      (fun type _ => fits type) (Check.typeOf fuel frame (place.child 0) part state) := by
  have onward := discipline.closed reaches known
  refine (last.expression (onward ((calls _).2 rfl)) known).narrow ?_
  rintro passed ⟨called, isCalled, passes⟩
  rw [(calls called).1 isCalled] at passes
  exact passes

/-- An expression with two parts. -/
theorem double (last : ChecksTell within course fits fuel)
    (discipline : Discipline within course fits) {expr left right : Expr}
    (reaches : within (.visit ⟨fuel + 2, frame, state, .expression place expr⟩))
    (known : course.state state)
    (calls : ∀ called, (Part.visit ⟨fuel + 2, frame, state, .expression place expr⟩).Calls called ↔
      called = .visit ⟨fuel, frame, state, .expression (place.child 0) left⟩ ∨
        ∃ type middle, Check.typeOf fuel frame (place.child 0) left state = .ok type middle ∧
          called = .visit ⟨fuel, frame, middle, .expression (place.child 1) right⟩)
    {next : Ty → Ty → Check Ty}
    (holds : ∀ leftType rightType after, course.state after → fits leftType → fits rightType →
      course.Ends after (fun type _ => fits type) (next leftType rightType after)) :
    course.Tells state (Part.visit ⟨fuel + 2, frame, state, .expression place expr⟩).PassesInside
      (fun type _ => fits type)
      ((do
        let leftType ← Check.typeOf fuel frame (place.child 0) left
        let rightType ← Check.typeOf fuel frame (place.child 1) right
        next leftType rightType : Check Ty) state) := by
  have onward := discipline.closed reaches known
  have first := last.expression (onward ((calls _).2 (.inl rfl))) known
  refine (first.bind
    (fun _ middle => (Part.visit ⟨fuel, frame, middle, .expression (place.child 1) right⟩).Passes)
    fun leftType middle equation _ known fittingLeft => ?_).narrow ?_
  · have second := last.expression
      (onward ((calls _).2 (.inr ⟨_, _, equation, rfl⟩))) known
    exact second.followed fun rightType after _ _ known fittingRight =>
      holds leftType rightType after known fittingLeft fittingRight
  · rintro passed ⟨called, isCalled, passes⟩
    rcases (calls called).1 isCalled with rfl | ⟨type, middle, equation, rfl⟩
    · exact .inl passes
    · exact .inr ⟨_, _, equation, passes⟩

/-- A call: the callee, then the arguments, then the body if the callee is a function. -/
theorem call_succ (last : ChecksTell within course fits fuel)
    (discipline : Discipline within course fits) {callee : Expr} {paren : Token}
    {arguments : List Expr}
    (reaches : within (.visit ⟨fuel + 2, frame, state,
      .expression place (.call callee paren arguments)⟩))
    (known : course.state state) :
    course.Tells state (Part.visit ⟨fuel + 2, frame, state,
      .expression place (.call callee paren arguments)⟩).PassesInside
      (fun type _ => fits type)
      (Check.infer (fuel + 1) frame place (.call callee paren arguments) state) := by
  have onward := discipline.closed reaches known
  rw [Check.infer]
  have first := last.expression (onward (.walk .callee rfl)) known
  refine (first.bind
    (fun calleeType middle passed =>
      (Part.visit ⟨fuel, frame, middle, .expressions place 1 arguments⟩).Passes passed ∨
        ∃ types after, Check.typesOf fuel frame place 1 arguments middle = .ok types after ∧
          ∃ rest name identifier, fuel = rest + 1 ∧ calleeType = .function name identifier ∧
            arity after.functions name identifier = .ok types.length ∧
            (Part.call rest after name identifier types paren).Passes passed)
    fun calleeType middle equation _ known fitting => ?_).narrow ?_
  · have others := last.expressions (onward (.walk (.arguments equation) rfl)) known
    refine others.bind _ fun types after equationOthers _ known fittingOthers => ?_
    refine last.callType (fun {rest name identifier} same isFunction isArity => ?_) known
      fitting fittingOthers
    subst same isFunction
    exact onward (.request equation equationOthers isArity)
  · rintro passed ⟨_, calls, passes⟩
    cases calls with
    | walk calls _ =>
        cases calls with
        | callee => exact .inl passes
        | arguments equation => exact .inr ⟨_, _, equation, .inl passes⟩
    | request equation equationOthers isArity =>
        exact .inr ⟨_, _, equation, .inr ⟨_, _, equationOthers, _, _, _, rfl, rfl, isArity,
          passes⟩⟩

theorem infer_succ (last : ChecksTell within course fits fuel)
    (discipline : Discipline within course fits) {expr : Expr}
    (reaches : within (.visit ⟨fuel + 2, frame, state, .expression place expr⟩))
    (known : course.state state) :
    course.Tells state (Part.visit ⟨fuel + 2, frame, state, .expression place expr⟩).PassesInside
      (fun type _ => fits type) (Check.infer (fuel + 1) frame place expr state) := by
  have onward := discipline.closed reaches known
  cases expr with
  | literal value token =>
      rw [Check.infer]
      refine (Course.Tells.quiet (.pure known (discipline.constant value))).narrow ?_
      rintro passed ⟨_, calls, _⟩
      cases calls with
      | walk calls _ => cases calls
  | reference name =>
      rw [Check.infer]
      refine (Course.Tells.quiet (looks ?_)).narrow ?_
      · cases found : state.scopes.get? frame name.lexeme with
        | some type => exact .pure known (discipline.visible known found)
        | none => exact discipline.fails _ _ known
      · rintro passed ⟨_, calls, _⟩
        cases calls with
        | walk calls _ => cases calls
  | assign name value =>
      rw [Check.infer]
      have tells := last.single discipline reaches known value fun called => by
        constructor
        · intro calls
          cases calls with
          | walk calls _ => cases calls with | assigned => rfl
        · rintro rfl
          exact .walk .assigned rfl
      refine tells.followed fun found after _ _ known _ => looks ?_
      cases declared : after.scopes.get? frame name.lexeme with
      | none => exact discipline.fails _ _ known
      | some type =>
          dsimp only
          split
          · exact .pure known (discipline.visible known declared)
          · exact discipline.fails _ _ known
  | group inner =>
      rw [Check.infer]
      exact last.single discipline reaches known _ fun called => by
        constructor
        · intro calls
          cases calls with
          | walk calls _ => cases calls with | inner => rfl
        · rintro rfl
          exact .walk .inner rfl
  | tuple items =>
      rw [Check.infer]
      have tells := last.expressions (onward (.walk .items rfl)) known
      refine (tells.followed fun types after _ _ known fitting =>
        .pure known (discipline.tuple fitting)).narrow ?_
      rintro passed ⟨_, calls, passes⟩
      cases calls with
      | walk calls _ => cases calls with | items => exact passes
  | unary operator token operand =>
      rw [Check.infer]
      have tells := last.single discipline reaches known operand fun called => by
        constructor
        · intro calls
          cases calls with
          | walk calls _ => cases calls with | operand => rfl
        · rintro rfl
          exact .walk .operand rfl
      refine tells.followed fun found after _ _ known fitting => ?_
      cases result : unaryType? operator found with
      | some type => exact .pure known (discipline.unary fitting result)
      | none => exact discipline.fails _ _ known
  | binary operator token left right =>
      rw [Check.infer]
      refine last.double discipline reaches known (fun called => ?_)
        fun leftType rightType after known fittingLeft fittingRight => ?_
      · constructor
        · intro calls
          cases calls with
          | walk calls _ =>
              cases calls with
              | left => exact .inl rfl
              | right equation => exact .inr ⟨_, _, equation, rfl⟩
        · rintro (rfl | ⟨_, _, equation, rfl⟩)
          · exact .walk .left rfl
          · exact .walk (.right equation) rfl
      · cases result : binaryType? operator leftType rightType with
        | some type => exact .pure known (discipline.binary fittingLeft fittingRight result)
        | none => exact discipline.fails _ _ known
  | logical operator token left right =>
      rw [Check.infer]
      refine last.double discipline reaches known (fun called => ?_)
        fun leftType rightType after known _ _ => ?_
      · constructor
        · intro calls
          cases calls with
          | walk calls _ =>
              cases calls with
              | logicalLeft => exact .inl rfl
              | logicalRight equation => exact .inr ⟨_, _, equation, rfl⟩
        · rintro (rfl | ⟨_, _, equation, rfl⟩)
          · exact .walk .logicalLeft rfl
          · exact .walk (.logicalRight equation) rfl
      · split
        · exact .pure known discipline.bool
        · exact discipline.fails _ _ known
  | call callee paren arguments => exact last.call_succ discipline reaches known

theorem callType_succ (last : ChecksTell within course fits fuel)
    (discipline : Discipline within course fits) {callee : Ty} {arguments : List Ty} {paren : Token}
    (reaches : ∀ {rest name identifier}, fuel + 1 = rest + 1 → callee = .function name identifier →
      arity state.functions name identifier = .ok arguments.length →
      within (.call rest state name identifier arguments paren))
    (known : course.state state) (fitting : fits callee)
    (fittingArguments : ∀ type ∈ arguments, fits type) :
    course.Tells state
      (fun passed => ∃ rest name identifier, fuel + 1 = rest + 1 ∧
        callee = .function name identifier ∧
        arity state.functions name identifier = .ok arguments.length ∧
        (Part.call rest state name identifier arguments paren).Passes passed)
      (fun type _ => fits type) (Check.callType (fuel + 1) callee arguments paren state) := by
  cases callee with
  | function name identifier =>
      rw [Check.callType]
      cases isArity : arity state.functions name identifier with
      | error fault =>
          refine (Course.Tells.quiet ?_).narrow ?_
          · rw [get_bind_apply, isArity]
            exact .throw known (discipline.stops _ _)
          · rintro passed ⟨_, _, _, _, same, ok, _⟩
            cases same
            cases isArity.symm.trans ok
      | ok expected =>
          rw [get_bind_apply, isArity]
          change course.Tells state _ _ ((if expected = arguments.length then _ else _ : Check Ty)
            state)
          split
          · next same =>
              subst same
              have called := reaches rfl rfl isArity
              refine ((last.instantiate called known fittingArguments).part _ rfl
                (fun _ ends => ends) known).narrow ?_
              rintro passed ⟨_, _, _, same, sameCallee, _, passes⟩
              cases same
              cases sameCallee
              exact passes
          · next different =>
              refine (Course.Tells.quiet (discipline.fails _ _ known)).narrow ?_
              rintro passed ⟨_, _, _, _, same, ok, _⟩
              cases same
              cases isArity.symm.trans ok
              exact different rfl
  | native name parameters result =>
      rw [Check.callType]
      refine (Course.Tells.quiet ?_).narrow (by rintro passed ⟨_, _, _, _, same, _⟩; cases same)
      cases called : nativeCallType name parameters result arguments with
      | error cause => exact discipline.fails _ _ known
      | ok type =>
          have same : result = type := by
            unfold nativeCallType at called
            split at called
            · cases called
            · split at called <;> cases called
              rfl
          exact .pure known (same ▸ discipline.native fitting)
  | unknown =>
      refine (Course.Tells.quiet (.pure known fitting)).narrow ?_
      rintro passed ⟨_, _, _, _, same, _⟩
      cases same
  | bareNative =>
      refine (Course.Tells.quiet (.throw known (discipline.stops _ _))).narrow ?_
      rintro passed ⟨_, _, _, _, same, _⟩
      cases same
  | number | text | bool | displayable | tuple items =>
      refine (Course.Tells.quiet (discipline.fails _ _ known)).narrow ?_
      rintro passed ⟨_, _, _, _, same, _⟩
      cases same

/-- A call that no body is checked for is answered from what is known. -/
theorem answered (discipline : Discipline within course fits) {name : String} {identifier : Nat}
    {arguments : List Ty} {anchor : Token} (known : course.state state)
    (fitting : ∀ type ∈ arguments, fits type)
    (closed : ¬ ∃ function, state.Opens identifier arguments function) :
    course.Ends state (fun type _ => fits type)
      (Check.instantiate (fuel + 1) name identifier arguments anchor state) := by
  rw [Check.instantiate]
  refine .get ?_
  cases declared : declaration state.functions name identifier with
  | error fault => exact .throw known (discipline.stops _ _)
  | ok function =>
      have found := declaration_eq_ok.1 declared
      change course.Ends state _ ((match function.instances.get? (arguments, state.generation) with
        | some _ => _
        | none => _ : Check Ty) state)
      cases cached : function.instances.get? (arguments, state.generation) with
      | some result =>
          exact .pure known (discipline.cached known
            (Option.bind_eq_some_iff.2 ⟨function, found, cached⟩))
      | none =>
          cases active : state.activations.find? fun activation =>
            activation.function = identifier && activation.arguments = arguments with
          | some activation =>
              have member := List.mem_of_find?_eq_some active
              cases shape : activation.returns with
              | cons entry rest =>
                  have isEntry : entry ∈ activation.returns := by
                    rw [shape]
                    exact List.mem_cons_self
                  dsimp only
                  rw [shape]
                  exact .pure known (discipline.returned known member isEntry)
              | nil =>
                  dsimp only
                  rw [shape]
                  dsimp only
                  split
                  · next unresolved => exact .pure known (discipline.unresolved fitting unresolved)
                  · exact discipline.fails _ _ known
          | none =>
              dsimp only
              split
              · exact discipline.fails _ _ known
              · next few =>
                  exact absurd ⟨function, found, cached, active, Nat.lt_of_not_le few⟩ closed

theorem instantiate_succ (last : ChecksTell within course fits fuel)
    (discipline : Discipline within course fits) {name : String} {identifier : Nat}
    {arguments : List Ty} {anchor : Token}
    (reaches : within (.call (fuel + 1) state name identifier arguments anchor))
    (known : course.state state) (fitting : ∀ type ∈ arguments, fits type) :
    course.Tells state
      (Part.call (fuel + 1) state name identifier arguments anchor).PassesInside
      (fun type _ => fits type)
      (Check.instantiate (fuel + 1) name identifier arguments anchor state) := by
  by_cases opens : ∃ function, state.Opens identifier arguments function
  · obtain ⟨function, opens⟩ := opens
    have tells := last.checkBody reaches opens known fitting
    have keeps := (allKeep fuel).checkBody identifier arguments function state.next
      (AllKeep.entered state function arguments) (by simp [AllKeep.entered, State.next])
    rw [instantiate_new name anchor opens.found opens.unknown opens.idle opens.few]
    obtain ⟨keeps, protects⟩ := keeps
    unfold Keeps at keeps
    cases equation : Check.checkBody fuel identifier arguments function state.scopes.frames.size
        (AllKeep.entered state function arguments) with
    | error stop after =>
        rw [State.next, equation] at tells
        refine tells.onward after tells.ends fun _ left => ?_
        cases left with
        | failed => exact ⟨.failed, course.refl _⟩
        | reported => exact ⟨.reported, course.refl _⟩
    | ok results after =>
        rw [State.next, equation] at tells keeps
        dsimp only
        obtain ⟨later, holds, fittingResults⟩ := tells.ends
        -- The mismatches are reported, and then the result is remembered.
        obtain ⟨reported, known'⟩ := discipline.reports
          (returnMismatches name (chooseResult (results.map (·.1))) results) holds
        have fittingResult : fits (chooseResult (results.map (·.1))) := by
          rcases chooseResult_mem (results.map (·.1)) with member | isUnit
          · obtain ⟨entry, isEntry, same⟩ := List.mem_map.1 member
            exact same ▸ fittingResults entry isEntry
          · exact isUnit ▸ discipline.unit
        obtain ⟨functions, activations⟩ := AllKeep.functions_reports
          (returnMismatches name (chooseResult (results.map (·.1))) results) after
        obtain ⟨declared, isDeclared, _⟩ :=
          Effect.declarations keeps identifier function opens.found
        have new : after.instance? identifier (arguments, state.generation) = none := by
          cases cached : after.instance? identifier (arguments, state.generation) with
          | none => rfl
          | some result =>
              have before := protects results after equation state.generation result cached
              change state.instance? identifier (arguments, state.generation) = some result
                at before
              rw [State.instance?, opens.found, Option.bind_some, opens.unknown] at before
              cases before
        have idle : ¬ after.Active identifier arguments := fun active =>
          AllKeep.not_active_of_find? opens.idle
            (((Effect.activations keeps).any_iff _ _).1 active)
        obtain ⟨remembered, done⟩ := discipline.remember reaches opens
          (course.trans later reported) ⟨results, after, equation, reported⟩ known' fitting
          fittingResult (functions ▸ isDeclared)
          (by rw [State.instance?, functions]; exact new)
          (by rw [State.Active, activations]; exact idle)
        refine tells.onward after
          ⟨course.trans later (course.trans reported remembered), done, fittingResult⟩
          fun _ left => ?_
        cases left
        exact ⟨.value, course.trans reported remembered⟩
  · refine (Course.Tells.quiet (answered discipline known fitting opens)).narrow ?_
    rintro passed ⟨_, calls, _⟩
    cases calls with
    | body inside => exact opens inside.opens

/-- What happens between entering a body and leaving it. -/
theorem throughBody (last : ChecksTell within course fits fuel)
    (discipline : Discipline within course fits) {name : String} {identifier : Nat}
    {arguments : List Ty} {anchor : Token} {function : DeclaredFunction}
    (onward : ∀ ⦃called⦄,
      (Part.call (fuel + 2) state name identifier arguments anchor).Calls called → within called)
    (opens : state.Opens identifier arguments function)
    (known : course.state (state.begun function identifier arguments)) :
    course.Tells (state.begun function identifier arguments)
      (Part.call (fuel + 2) state name identifier arguments anchor).PassesInside
      (fun found _ => ∀ type ∈ found, fits type)
      (AllKeep.throughBody fuel function state.next
        (state.begun function identifier arguments)) := by
  unfold AllKeep.throughBody
  have statements := last.statements (onward (.body (.statements opens))) known
  refine (statements.bind
    (fun _ middle passed => ∃ tail, function.body.tail = some tail ∧
      (Part.visit ⟨fuel, state.next, middle,
        .expression (function.place.child function.body.statements.length) tail⟩).Passes passed)
    fun _ middle equation _ known _ => ?_).narrow ?_
  · cases shape : function.body.tail with
    | none =>
        refine (Course.Tells.quiet (.pure known ?_)).narrow fun _ ⟨_, same, _⟩ => by cases same
        exact fun type same => Option.some.inj same ▸ discipline.unit
    | some tail =>
        have tells := last.expression
          (onward (.body (.tail opens equation shape))) known
        refine (tells.reporting fun diagnostic after known =>
          discipline.report diagnostic known).narrow fun passed ⟨_, same, passes⟩ => ?_
        cases same
        exact passes
  · rintro passed ⟨_, calls, passes⟩
    cases calls with
    | body inside =>
        cases inside with
        | statements others =>
            cases others.found.symm.trans opens.found
            exact .inl passes
        | tail others equation shape =>
            cases others.found.symm.trans opens.found
            exact .inr ⟨_, _, equation, _, shape, passes⟩

theorem checkBody_succ (last : ChecksTell within course fits fuel)
    (discipline : Discipline within course fits) {name : String} {identifier : Nat}
    {arguments : List Ty} {anchor : Token} {function : DeclaredFunction}
    (reaches : within (.call (fuel + 2) state name identifier arguments anchor))
    (opens : state.Opens identifier arguments function) (known : course.state state)
    (fitting : ∀ type ∈ arguments, fits type) :
    course.Tells state (Part.call (fuel + 2) state name identifier arguments anchor).PassesInside
      (fun results _ => ∀ entry ∈ results, fits entry.1)
      (Check.checkBody (fuel + 1) identifier arguments function state.next
        (AllKeep.entered state function arguments)) := by
  obtain ⟨entered, begun⟩ := (discipline.enter reaches opens known fitting).2
  have tells := last.throughBody discipline (discipline.closed reaches known) opens begun
  have keeps := AllKeep.throughBody_keeps (allKeep fuel) function state.next
    (state.begun function identifier arguments) (by simp [State.begun, AllKeep.entered, State.next])
  rw [checkBody_entered]
  unfold Keeps at keeps
  cases equation : AllKeep.throughBody fuel function state.next
      (state.begun function identifier arguments) with
  | error stop after =>
      rw [equation] at tells
      refine ((tells.after entered).onward after
        ⟨(tells.after entered).ends.1, tells.ends.2⟩ fun _ left => ?_)
      cases left with
      | failed => exact ⟨.failed, course.refl _⟩
      | reported => exact ⟨.reported, course.refl _⟩
  | ok fallThrough after =>
      rw [equation] at tells keeps
      obtain ⟨later, holds, fittingEnd⟩ := tells.ends
      obtain ⟨left, done⟩ := discipline.leave reaches opens known keeps later holds
      refine (tells.after entered).onward after
        ⟨course.trans entered (course.trans later left), done, ?_⟩ fun _ ended => ?_
      · intro entry isEntry
        rcases State.mem_collected isEntry with ⟨activation, member, isReturn⟩ | isEnd
        · exact discipline.returned holds member isReturn
        · exact fittingEnd entry.1 isEnd
      · cases ended
        exact ⟨.value, left⟩

end ChecksTell

end Discipline

end CheckedScript
