import CheckedScript.Proofs.Typing.Ending
import CheckedScript.Proofs.Walks.Visits

/-!
# The bodies in progress

`Reaches` follows a check into the bodies of functions, those that calls lead to and
those that no call has reached.  Wherever a check is, at most `nestingLimit` bodies of
each function that it has made are in progress.
-/

namespace CheckedScript

namespace Typing

open Check

/-- A call of a function for which its body is checked. -/
structure State.Opens (state : State) (identifier : Nat) (arguments : List Ty)
    (function : DeclaredFunction) : Prop where
  found : state.functions[identifier]? = some function
  unknown : function.instances.get? (arguments, state.generation) = none
  idle : (state.activations.find? fun activation =>
    activation.function = identifier && activation.arguments = arguments) = none
  few : (state.activations.countP fun activation => activation.function = identifier) <
    nestingLimit

/-- The state in which the body of a function is checked. -/
def State.begun (state : State) (function : DeclaredFunction) (identifier : Nat)
    (arguments : List Ty) : State :=
  { AllKeep.entered state function arguments with
    activations := { function := identifier, arguments := arguments, returns := [] } ::
      state.activations }

/-- The visits that a call of a function leads to: the statements of its body and the
tail after them. -/
inductive BodyVisit (fuel : Nat) (state : State) (identifier : Nat) (arguments : List Ty) :
    Visit → Prop
  | statements {function : DeclaredFunction} :
      state.Opens identifier arguments function →
      BodyVisit fuel state identifier arguments
        ⟨fuel, state.next, state.begun function identifier arguments,
          .statements function.place 0 function.body.statements⟩
  | tail {function : DeclaredFunction} {middle : State} {tail : Expr} :
      state.Opens identifier arguments function →
      checkAll fuel state.next function.place 0 function.body.statements
        (state.begun function identifier arguments) = .ok () middle →
      function.body.tail = some tail →
      BodyVisit fuel state identifier arguments
        ⟨fuel, state.next, middle,
          .expression (function.place.child function.body.statements.length) tail⟩

/-- After the statements of a program, the functions are gone through for those that no
call has reached: the bound that is left, the next function and the state. -/
inductive Uncalled (natives : Bindings Signature) (bound : Nat) (program : Program) :
    Nat → Nat → State → Prop
  | start {type : Ty} {state : State} :
      checkStatements bound 0 (Place.root 0) 0 .unit program (State.start natives) =
        .ok type state →
      Uncalled natives bound program bound 0 state
  | reached {fuel identifier : Nat} {state : State} {function : DeclaredFunction} :
      Uncalled natives bound program (fuel + 1) identifier state →
      state.functions[identifier]? = some function → function.instances.isEmpty = false →
      Uncalled natives bound program fuel (identifier + 1) state
  | checked {fuel identifier : Nat} {state after : State} {function : DeclaredFunction}
      {result : Option Ty} :
      Uncalled natives bound program (fuel + 1) identifier state →
      state.functions[identifier]? = some function → function.instances.isEmpty = true →
      reporting (instantiate fuel function.name.lexeme identifier
        (List.replicate function.parameters.length .unknown) function.name) state =
          .ok result after →
      Uncalled natives bound program fuel (identifier + 1) after

/-- The visits of a check of a program, also those in the bodies of functions. -/
inductive Reaches (natives : Bindings Signature) (bound : Nat) (program : Program) : Visit → Prop
  | top {before after : List Stmt} {stmt : Stmt} {type : Ty} {state : State} :
      program = before ++ stmt :: after →
      checkStatements bound 0 (Place.root 0) 0 .unit before (State.start natives) =
        .ok type state →
      Reaches natives bound program
        ⟨bound, 0, state, .statement ((Place.root 0).child before.length) stmt⟩
  | part {visit called : Visit} :
      Reaches natives bound program visit → visit.Calls called →
      Reaches natives bound program called
  | call {fuel : Nat} {frame : FrameId} {state middle after : State} {place : Place}
      {callee : Expr} {paren : Token} {arguments : List Expr} {name : String} {identifier : Nat}
      {types : List Ty} {visit : Visit} :
      Reaches natives bound program
        ⟨fuel + 5, frame, state, .expression place (.call callee paren arguments)⟩ →
      typeOf (fuel + 3) frame (place.child 0) callee state =
        .ok (.function name identifier) middle →
      typesOf (fuel + 3) frame place 1 arguments middle = .ok types after →
      arity after.functions name identifier = .ok types.length →
      BodyVisit fuel after identifier types visit →
      Reaches natives bound program visit
  | uncalled {fuel identifier : Nat} {state : State} {function : DeclaredFunction}
      {visit : Visit} :
      Uncalled natives bound program (fuel + 3) identifier state →
      state.functions[identifier]? = some function → function.instances.isEmpty = true →
      BodyVisit fuel state identifier (List.replicate function.parameters.length .unknown) visit →
      Reaches natives bound program visit

section Invariant

variable {before after : State}

theorem Appended.functions_eq {before after : List Activation} (appended : Appended before after) :
    after.map (·.function) = before.map (·.function) := by
  match before, after, appended with
  | [], [], _ => rfl
  | first :: rest, other :: others, ⟨same, _, _, sameRest⟩ =>
      rw [List.map_cons, List.map_cons, same, sameRest]

theorem Effect.size_functions_le {footprint : Footprint} (effect : Effect footprint before after) :
    before.functions.size ≤ after.functions.size := by
  by_contra fewer
  have present : after.functions.size < before.functions.size := Nat.lt_of_not_le fewer
  obtain ⟨later, found, _⟩ := effect.declarations after.functions.size _
    (Array.getElem?_eq_getElem present)
  exact Nat.lt_irrefl _ (Array.getElem?_eq_some_iff.1 found).1

/-- A frame of a state, with not too many bodies in progress. -/
structure State.Stands (state : State) (frame : FrameId) : Prop where
  present : frame < state.scopes.frames.size
  capped : Capped state.functions.size state.running

theorem Effect.stands {footprint : Footprint} (effect : Effect footprint before after)
    {frame : FrameId} (stands : before.Stands frame) : after.Stands frame where
  present := Nat.lt_of_lt_of_le stands.present effect.grown.size
  capped := by
    have running : after.running = before.running := effect.activations.functions_eq
    rw [running]
    exact stands.capped.mono effect.size_functions_le

/-- A new frame inside another one. -/
theorem State.Stands.nested {state : State} {frame : FrameId} (stands : state.Stands frame) :
    (state.nested frame).Stands state.next where
  present := by
    simp [State.nested, State.next]
  capped := stands.capped

end Invariant

variable {fuel : Nat} {frame : FrameId} {place : Place} {state after : State}

theorem StepChecked.stands {token : Token} {step : Option Expr}
    (checked : StepChecked fuel frame place token step state after) (stands : state.Stands frame) :
    after.Stands frame := by
  cases checked with
  | absent => exact stands
  | written equation => exact (((allKeep fuel).checkBound _ _ _ _ _).effect equation).stands stands

/-- What the parts before a part of the tree do leaves the bodies in progress as they are. -/
theorem Visit.Calls.stands {visit called : Visit} (calls : visit.Calls called)
    (stands : visit.state.Stands visit.frame) : called.state.Stands called.frame := by
  have typed : ∀ {fuel frame place expr type} {state after : State},
      typeOf fuel frame place expr state = .ok type after → state.Stands frame →
      after.Stands frame := by
    intro fuel frame place expr type state after equation stands
    exact (((allKeep fuel).typeOf frame place expr state).effect equation).stands stands
  have tested : ∀ {fuel frame place keyword condition} {state after : State},
      checkCondition fuel frame place keyword condition state = .ok () after →
      state.Stands frame → after.Stands frame := by
    intro fuel frame place keyword condition state after equation stands
    exact (((allKeep fuel).checkCondition frame place keyword condition state).effect
      equation).stands stands
  have bound : ∀ {fuel frame place token expr} {state after : State},
      checkBound fuel frame place token expr state = .ok () after → state.Stands frame →
      after.Stands frame := by
    intro fuel frame place token expr state after equation stands
    exact (((allKeep fuel).checkBound frame place token expr state).effect equation).stands stands
  cases calls with
  | assigned | inner | items | operand | left | logicalLeft | callee | item | value | initializer
  | block | ifCondition | elseCondition | whileCondition | forStart | returned | first =>
      exact stands
  | right equation | logicalRight equation | arguments equation | otherItems equation =>
      exact typed equation stands
  | ifConsequent equation | elseConsequent equation | whileBody equation =>
      exact tested equation stands
  | alternative condition consequent =>
      have middle := tested condition stands
      exact (((allKeep _).checkBlock _ _ _ _ middle.present).effect consequent).stands middle
  | forStep equation _ => exact bound equation stands
  | forStop equation checked => exact checked.stands (bound equation stands)
  | forBody start checked stop =>
      have last := bound stop (checked.stands (bound start stands))
      exact
        { present := by simp [State.turn, State.nested, State.next]
          capped := last.capped }
  | blockStatements => exact stands.nested
  | blockTail equation =>
      have inner := stands.nested
      exact (((allKeep _).checkAll _ _ _ _ _ inner.present).effect equation).stands inner
  | others equation =>
      exact (((allKeep _).checkStmt _ _ _ _ stands.present).reporting.effect equation).stands stands

/-- A body that is entered is one more in progress, and few enough of its function are. -/
theorem State.Opens.stands {identifier : Nat} {arguments : List Ty} {function : DeclaredFunction}
    (opens : state.Opens identifier arguments function)
    (capped : Capped state.functions.size state.running) :
    (state.begun function identifier arguments).Stands state.next where
  present := by
    simp [State.begun, AllKeep.entered, State.next]
  capped := capped.entered rfl (Nat.le_refl _) opens.found opens.few

theorem BodyVisit.stands {identifier : Nat} {arguments : List Ty} {visit : Visit}
    (inside : BodyVisit fuel state identifier arguments visit)
    (capped : Capped state.functions.size state.running) :
    visit.state.Stands visit.frame := by
  cases inside with
  | statements opens => exact opens.stands capped
  | tail opens equation _ =>
      have start := opens.stands capped
      exact (((allKeep fuel).checkAll _ _ _ _ _ start.present).effect equation).stands start

section Program

variable {natives : Bindings Signature} {bound : Nat} {program : Program}

theorem stands_start (natives : Bindings Signature) : (State.start natives).Stands 0 where
  present := by
    simp [State.start, Scopes.root, Scopes.addRoot, Scopes.add]
  capped := .nil _

theorem Uncalled.stands {identifier : Nat}
    (uncalled : Uncalled natives bound program fuel identifier state) : state.Stands 0 := by
  induction uncalled with
  | start equation =>
      have start := stands_start natives
      exact (checkStatements_effect start.present equation).stands start
  | reached _ _ _ stands => exact stands
  | checked _ _ _ equation stands =>
      exact (((allKeep _).instantiate _ _ _ _ _).reporting.effect equation).stands stands

theorem Reaches.stands {visit : Visit} (reaches : Reaches natives bound program visit) :
    visit.state.Stands visit.frame := by
  induction reaches with
  | top _ equation =>
      have start := stands_start natives
      exact (checkStatements_effect start.present equation).stands start
  | part _ calls stands => exact calls.stands stands
  | call _ callee arguments _ inside stands =>
      have middle := (((allKeep _).typeOf _ _ _ _).effect callee).stands stands
      have after := (((allKeep _).typesOf _ _ _ _ _).effect arguments).stands middle
      exact inside.stands after.capped
  | uncalled uncalled _ _ inside => exact inside.stands uncalled.stands.capped

end Program

/-- The number of functions declared in a task. -/
def Task.functionCount : Task → Nat
  | expression _ _ | expressions _ _ _ => 0
  | statement _ stmt => stmt.functionCount
  | statements _ _ stmts => Stmt.functionCounts stmts
  | block _ body => body.functionCount

/-- A part of a flat program, no larger than a given size. -/
def Task.Flat (size : Nat) : Task → Prop
  | expression _ _ | expressions _ _ _ => True
  | statement _ stmt => stmt.isFlat = true ∧ sizeOf stmt ≤ size
  | statements _ _ stmts => Stmt.areFlat stmts = true ∧ sizeOf stmts ≤ size
  | block _ body => body.isFlat = true ∧ sizeOf body ≤ size

/-- A visit of the check of a flat program: the functions that are there and those that
the task declares are not too many. -/
structure Visit.Fits (limit size : Nat) (running : List Nat) (visit : Visit) : Prop where
  bounded : visit.state.Bounded limit size running
  flat : visit.task.Flat size
  few : visit.state.functions.size + visit.task.functionCount ≤ limit

section Flat

variable {limit size : Nat} {running : List Nat}

theorem StepChecked.bounded {token : Token} {step : Option Expr} (capped : Capped limit running)
    (checked : StepChecked fuel frame place token step state after)
    (bounded : state.Bounded limit size running) :
    after.Bounded limit size running ∧ after.functions.size ≤ state.functions.size := by
  cases checked with
  | absent => exact ⟨bounded, Nat.le_refl _⟩
  | written equation =>
      exact ((allEnd limit size fuel).checkBound capped _ _ _ _ state bounded).of_ok equation

theorem State.Bounded.nested (bounded : state.Bounded limit size running) (frame : FrameId) :
    (state.nested frame).Bounded limit size running :=
  bounded.congr rfl rfl

theorem Visit.Calls.fits {visit called : Visit} (calls : visit.Calls called)
    (capped : Capped limit running) (fits : visit.Fits limit size running) :
    called.Fits limit size running := by
  obtain ⟨bounded, flat, few⟩ := fits
  have functions := bounded.functions
  cases calls with
  | assigned | inner | items | operand | left | logicalLeft | callee | item | value | initializer
  | ifCondition | elseCondition | whileCondition | forStart | returned =>
      exact ⟨bounded, trivial, functions⟩
  | right equation | logicalRight equation | arguments equation | otherItems equation =>
      obtain ⟨bounded, _⟩ := ((allEnd limit size _).typeOf capped _ _ _ _ bounded).of_ok equation
      exact ⟨bounded, trivial, bounded.functions⟩
  | block =>
      exact ⟨bounded, ⟨flat.1, Nat.le_trans (by simp) flat.2⟩, few⟩
  | first =>
      obtain ⟨flat, small⟩ := flat
      refine ⟨bounded, ⟨(Bool.and_eq_true_iff.1 flat).1, Nat.le_trans (by simp; omega) small⟩, ?_⟩
      exact Nat.le_trans (Nat.add_le_add_left (Nat.le_add_right _ _) _) few
  | ifConsequent equation | whileBody equation =>
      obtain ⟨bounded, grown⟩ :=
        ((allEnd limit size _).checkCondition capped _ _ _ _ _ bounded).of_ok equation
      exact ⟨bounded, ⟨flat.1, Nat.le_trans (by simp) flat.2⟩,
        Nat.le_trans (Nat.add_le_add_right grown _) few⟩
  | elseConsequent equation =>
      obtain ⟨bounded, grown⟩ :=
        ((allEnd limit size _).checkCondition capped _ _ _ _ _ bounded).of_ok equation
      obtain ⟨flat, small⟩ := flat
      refine ⟨bounded, ⟨(Bool.and_eq_true_iff.1 flat).1, Nat.le_trans (by simp; omega) small⟩, ?_⟩
      exact Nat.le_trans (Nat.add_le_add grown (Nat.le_add_right _ _)) few
  | alternative condition consequent =>
      obtain ⟨bounded, grown⟩ :=
        ((allEnd limit size _).checkCondition capped _ _ _ _ _ bounded).of_ok condition
      obtain ⟨flat, small⟩ := flat
      obtain ⟨flatFirst, flatOther⟩ := Bool.and_eq_true_iff.1 flat
      dsimp only [Task.functionCount, Stmt.functionCount] at few grown
      obtain ⟨bounded, grownAgain⟩ := ((allEnd limit size _).checkBlock capped _ _ _ _ flatFirst
        (Nat.le_trans (by simp; omega) small) bounded (by omega)).of_ok consequent
      refine ⟨bounded, ⟨flatOther, Nat.le_trans (by simp) small⟩, ?_⟩
      dsimp only [Task.functionCount]
      omega
  | forStep equation _ =>
      obtain ⟨bounded, _⟩ :=
        ((allEnd limit size _).checkBound capped _ _ _ _ _ bounded).of_ok equation
      exact ⟨bounded, trivial, bounded.functions⟩
  | forStop equation checked =>
      obtain ⟨bounded, _⟩ :=
        ((allEnd limit size _).checkBound capped _ _ _ _ _ bounded).of_ok equation
      obtain ⟨bounded, _⟩ := checked.bounded capped bounded
      exact ⟨bounded, trivial, bounded.functions⟩
  | forBody start checked stop =>
      obtain ⟨bounded, grown⟩ :=
        ((allEnd limit size _).checkBound capped _ _ _ _ _ bounded).of_ok start
      obtain ⟨bounded, grownStep⟩ := checked.bounded capped bounded
      obtain ⟨bounded, grownStop⟩ :=
        ((allEnd limit size _).checkBound capped _ _ _ _ _ bounded).of_ok stop
      refine ⟨bounded.congr rfl rfl, ⟨flat.1, Nat.le_trans (by simp) flat.2⟩, ?_⟩
      exact Nat.le_trans
        (Nat.add_le_add_right (Nat.le_trans grownStop (Nat.le_trans grownStep grown)) _) few
  | blockStatements =>
      exact ⟨bounded.nested _, ⟨flat.1, Nat.le_trans (by simp; omega) flat.2⟩, few⟩
  | blockTail equation =>
      obtain ⟨bounded, _⟩ := ((allEnd limit size _).checkAll capped _ _ _ _ _ flat.1
        (Nat.le_trans (by simp; omega) flat.2) (bounded.nested _) few).of_ok equation
      exact ⟨bounded, trivial, bounded.functions⟩
  | others equation =>
      obtain ⟨flat, small⟩ := flat
      obtain ⟨flatFirst, flatOthers⟩ := Bool.and_eq_true_iff.1 flat
      dsimp only [Task.functionCount, Stmt.functionCounts] at bounded few
      obtain ⟨bounded, grown⟩ := ((allEnd limit size _).checkStmt capped _ _ _ _ flatFirst
        (Nat.le_trans (by simp; omega) small) bounded (by omega)).reporting.of_ok equation
      refine ⟨bounded, ⟨flatOthers, Nat.le_trans (by simp) small⟩, ?_⟩
      dsimp only [Task.functionCount]
      omega

/-- The body of a function of a flat program declares nothing. -/
theorem BodyVisit.fits {identifier : Nat} {arguments : List Ty} {visit : Visit}
    (inside : BodyVisit fuel state identifier arguments visit) (capped : Capped limit running)
    (bounded : state.Bounded limit size running) :
    Capped limit (identifier :: running) ∧ visit.Fits limit size (identifier :: running) := by
  have begins : ∀ {function : DeclaredFunction}, state.Opens identifier arguments function →
      Capped limit (identifier :: running) ∧
        (⟨fuel, state.next, state.begun function identifier arguments,
          .statements function.place 0 function.body.statements⟩ : Visit).Fits limit size
            (identifier :: running) := by
    intro function opens
    have deeper := capped.entered bounded.running bounded.functions opens.found opens.few
    obtain ⟨plain, small⟩ := bounded.bodies identifier function opens.found
    obtain ⟨flat, none⟩ := function.body.isFlat_of_isPlain plain
    have begun : (state.begun function identifier arguments).Bounded limit size
        (identifier :: running) :=
      { bounded with running := congrArg (identifier :: ·) bounded.running }
    generalize function.body = body at flat none small ⊢
    obtain ⟨brace, statements, tail⟩ := body
    have sizes := Block.mk.sizeOf_spec brace statements tail
    have smaller : sizeOf statements ≤ size := by
      omega
    have noFunctions : Stmt.functionCounts statements = 0 := none
    refine ⟨deeper, begun, ⟨flat, smaller⟩, ?_⟩
    dsimp only [Task.functionCount, Block.statements]
    rw [noFunctions]
    exact bounded.functions
  cases inside with
  | statements opens => exact begins opens
  | tail opens equation _ =>
      obtain ⟨deeper, begun, flat, few⟩ := begins opens
      obtain ⟨bounded, _⟩ :=
        ((allEnd limit size _).checkAll deeper _ _ _ _ _ flat.1 flat.2 begun few).of_ok equation
      exact ⟨deeper, bounded, trivial, bounded.functions⟩

end Flat

section FlatProgram

variable {natives : Bindings Signature} {bound : Nat} {program : Program}

theorem bounded_start (limit size : Nat) (natives : Bindings Signature) :
    (State.start natives).Bounded limit size [] where
  running := rfl
  functions := Nat.zero_le _
  bodies _ _ found := by cases found

theorem Uncalled.bounded {identifier : Nat} (flat : Stmt.areFlat program = true)
    (uncalled : Uncalled natives bound program fuel identifier state) :
    state.Bounded (Stmt.functionCounts program) (sizeOf program) [] := by
  induction uncalled with
  | start equation =>
      have ends := ends_checkStatements bound 0 (Place.root 0) 0 .unit program _ flat
        (Nat.le_refl _) (bounded_start _ _ natives) (Nat.le_of_eq (Nat.zero_add _))
      exact (ends.of_ok equation).1
  | reached _ _ _ bounded => exact bounded
  | checked _ _ _ equation bounded =>
      exact (((allEnd _ _ _).instantiate (.nil _) _ _ _ _ _ bounded).reporting.of_ok equation).1

/-- The statements of a flat program that come before another one of its statements. -/
theorem fits_top {before after : List Stmt} {stmt : Stmt} {type : Ty}
    (flat : Stmt.areFlat program = true) (split : program = before ++ stmt :: after)
    (equation : checkStatements bound 0 (Place.root 0) 0 .unit before (State.start natives) =
      .ok type state) :
    (⟨bound, 0, state, .statement ((Place.root 0).child before.length) stmt⟩ : Visit).Fits
      (Stmt.functionCounts program) (sizeOf program) [] := by
  subst split
  rw [Stmt.areFlat_append, Bool.and_eq_true_iff] at flat
  obtain ⟨flatBefore, flatAfter⟩ := flat
  have smallStmt : sizeOf stmt ≤ sizeOf (before ++ stmt :: after) :=
    Nat.le_of_lt (List.sizeOf_lt_of_mem (by simp))
  have counts := Stmt.functionCounts_append before (stmt :: after)
  rw [Stmt.functionCounts] at counts
  have none : (State.start natives).functions.size = 0 := rfl
  have few : (State.start natives).functions.size + Stmt.functionCounts before ≤
      Stmt.functionCounts (before ++ stmt :: after) := by
    omega
  have ends := ends_checkStatements bound 0 (Place.root 0) 0 .unit before _ flatBefore
    (Stmt.sizeOf_le_append before (stmt :: after)) (bounded_start _ _ natives) few
  obtain ⟨bounded, grown⟩ := ends.of_ok equation
  refine ⟨bounded, ⟨(Bool.and_eq_true_iff.1 flatAfter).1, smallStmt⟩, ?_⟩
  dsimp only [Task.functionCount]
  omega

theorem Reaches.fits {visit : Visit} (flat : Stmt.areFlat program = true)
    (reaches : Reaches natives bound program visit) :
    ∃ running, Capped (Stmt.functionCounts program) running ∧
      visit.Fits (Stmt.functionCounts program) (sizeOf program) running := by
  induction reaches with
  | top split equation => exact ⟨[], .nil _, fits_top flat split equation⟩
  | part _ calls inductionHypothesis =>
      obtain ⟨running, capped, fits⟩ := inductionHypothesis
      exact ⟨running, capped, calls.fits capped fits⟩
  | call _ callee arguments _ inside inductionHypothesis =>
      obtain ⟨running, capped, fits⟩ := inductionHypothesis
      obtain ⟨bounded, _⟩ := ((allEnd _ _ _).typeOf capped _ _ _ _ fits.bounded).of_ok callee
      obtain ⟨bounded, _⟩ := ((allEnd _ _ _).typesOf capped _ _ _ _ _ bounded).of_ok arguments
      exact ⟨_, inside.fits capped bounded⟩
  | uncalled uncalled _ _ inside =>
      exact ⟨_, inside.fits (.nil _) (uncalled.bounded flat)⟩

end FlatProgram

/-- In the check of a program, at most `nestingLimit` bodies of each function that has been
made are in progress. -/
theorem Reaches.nesting_le {natives : Bindings Signature} {bound : Nat} {program : Program}
    {visit : Visit} (reaches : Reaches natives bound program visit) :
    (∀ identifier, visit.state.running.count identifier ≤ nestingLimit) ∧
      visit.state.running.length ≤ nestingLimit * visit.state.functions.size :=
  ⟨reaches.stands.capped.few, reaches.stands.capped.length_le⟩

end Typing

end CheckedScript
