import CheckedScript.Proofs.Shape
import CheckedScript.Proofs.Typing.Effect

/-!
# The effects of all parts of a check

An expression leaves notes below its place and writes to no frame that was there
before.  A statement binds names in its own frame only.  The bodies of functions
are checked in frames of their own, so the effect of a call is hidden from the
scopes of its caller.
-/

namespace CheckedScript

namespace Typing

namespace Footprint

/-- Nothing that was there before. -/
def nothing : Footprint where
  frames _ := False
  places _ := False
  declares := False

/-- The notes below a place. -/
def subtree (place : Place) : Footprint where
  frames _ := False
  places other := other.Under place
  declares := False

/-- The notes below the children of a place, from a given one on. -/
def children (place : Place) (step : Nat) : Footprint where
  frames _ := False
  places other := ∃ child, step ≤ child ∧ other.Under (place.child child)
  declares := False

def statement (frame : FrameId) (place : Place) (stmt : Stmt) : Footprint where
  frames other := other = frame ∧ stmt.declares = true
  places other := other.Under place
  declares := stmt.isPlain = false

def statements (frame : FrameId) (place : Place) (step : Nat) (stmts : List Stmt) : Footprint where
  frames other := other = frame
  places other := ∃ child, step ≤ child ∧ other.Under (place.child child)
  declares := Stmt.arePlain stmts = false

def block (place : Place) (body : Block) : Footprint where
  frames _ := False
  places other := ∃ child, 0 ≤ child ∧ other.Under (place.child child)
  declares := body.isPlain = false

/-- Everything a body that is checked in a given frame may write to. -/
def body (frame : FrameId) : Footprint where
  frames other := other = frame
  places _ := True
  declares := True

theorem covers_nothing (footprint : Footprint) (state : State) :
    footprint.Covers nothing state :=
  ⟨fun _ _ none => none.elim, fun _ none => none.elim, fun none => none.elim⟩

theorem covers_children_subtree (place : Place) {step child : Nat} (later : step ≤ child)
    (state : State) : (children place step).Covers (subtree (place.child child)) state :=
  ⟨fun _ _ none => none, fun _ below => ⟨child, later, below⟩, fun none => none⟩

theorem covers_children (place : Place) {step child : Nat} (later : step ≤ child) (state : State) :
    (children place step).Covers (children place child) state :=
  ⟨fun _ _ none => none, fun _ ⟨other, above, below⟩ => ⟨other, Nat.le_trans later above, below⟩,
    fun none => none⟩

theorem covers_subtree_children (place : Place) (step : Nat) (state : State) :
    (subtree place).Covers (children place step) state :=
  ⟨fun _ _ none => none, fun _ ⟨_, _, below⟩ => below.of_child, fun none => none⟩

end Footprint

namespace State

/-- The frame that is made next. -/
def next (state : State) : FrameId :=
  state.scopes.frames.size

/-- The state with a new frame inside a given one. -/
def nested (state : State) (frame : FrameId) : State :=
  { state with scopes := (state.scopes.nest frame).2 }

/-- The state with a new frame for the variable of a loop. -/
def turn (state : State) (frame : FrameId) (name : String) : State :=
  { state with
    scopes := (state.nested frame).scopes.defineAll state.next [(name, .number)] }

end State

theorem effect_nested {frame : FrameId} (state : State) (present : frame < state.scopes.frames.size) :
    Effect .nothing state (state.nested frame) :=
  .nest _ state fun _ => present

theorem effect_turn {frame : FrameId} (state : State) (name : String) (present : frame < state.scopes.frames.size) :
    Effect .nothing state (state.turn frame name) := by
  let new : Footprint := { Footprint.nothing with frames := fun other => other = state.next }
  have nested : Effect new state (state.nested frame) := .nest _ state fun _ => present
  have defined : Effect new (state.nested frame) (state.turn frame name) :=
    .defineAll _ _ (by simp [State.nested, State.next]) rfl
  exact (nested.trans defined).widen
    ⟨fun _ lower same => absurd same (Nat.ne_of_lt lower), fun _ none => none, fun none => none⟩

/-- Nothing happens. -/
theorem Effect.rest (state : State) : Effect .nothing state state :=
  .refl _ state

end Typing

namespace Check

open Typing

variable {α : Type}

/-- A check that neither fails nor passes a reported failure on. -/
def Recovers : EStateM.Result Stop State α → Prop
  | .error (.failed _) _ => False
  | .error .reported _ => False
  | _ => True

theorem recovers_reporting (check : Check α) (state : State) :
    Recovers (reporting check state) := by
  unfold reporting
  match check state with
  | .ok _ _ => trivial
  | .error (.failed _) _ => trivial
  | .error .reported _ => trivial
  | .error (.faulted _) _ => trivial
  | .error .exhausted _ => trivial

theorem recovers_checkAll (fuel : Nat) (frame : FrameId) (place : Place) (step : Nat)
    (stmts : List Stmt) (state : State) :
    Recovers (checkAll fuel frame place step stmts state) := by
  induction fuel generalizing step stmts state with
  | zero => trivial
  | succ fuel inductionHypothesis =>
      cases stmts with
      | nil => trivial
      | cons stmt stmts =>
          rw [checkAll, bind_apply]
          have recovers := recovers_reporting (checkStmt fuel frame (place.child step) stmt) state
          match equation : reporting (checkStmt fuel frame (place.child step) stmt) state with
          | .ok _ after => exact inductionHypothesis (step + 1) stmts after
          | .error (.failed _) _ =>
              rw [equation] at recovers
              exact recovers.elim
          | .error .reported _ =>
              rw [equation] at recovers
              exact recovers.elim
          | .error (.faulted _) _ => trivial
          | .error .exhausted _ => trivial

/-- The effects of all checks with a bound on their nesting. -/
structure AllKeep (fuel : Nat) : Prop where
  typeOf : ∀ frame place expr state,
    Keeps (.subtree place) state (typeOf fuel frame place expr)
  typesOf : ∀ frame place step exprs state,
    Keeps (.children place step) state (typesOf fuel frame place step exprs)
  infer : ∀ frame place expr state,
    Keeps (.children place 0) state (infer fuel frame place expr)
  callType : ∀ callee arguments paren state,
    Keeps .nothing state (callType fuel callee arguments paren)
  instantiate : ∀ name identifier arguments anchor state,
    Keeps .nothing state (instantiate fuel name identifier arguments anchor)
  checkBody : ∀ identifier arguments function frame (state : State),
    frame < state.scopes.frames.size →
    Keeps (.body frame) state (checkBody fuel identifier arguments function frame) ∧
      ∀ results after, checkBody fuel identifier arguments function frame state = .ok results after →
        ∀ generation result, after.instance? identifier (arguments, generation) = some result →
          state.instance? identifier (arguments, generation) = some result
  checkStmt : ∀ frame place stmt (state : State), frame < state.scopes.frames.size →
    Keeps (.statement frame place stmt) state (checkStmt fuel frame place stmt)
  checkLet : ∀ frame place name declared initializer (state : State),
    frame < state.scopes.frames.size →
    Keeps { Footprint.subtree place with frames := fun other => other = frame } state
      (checkLet fuel frame place name declared initializer)
  checkAll : ∀ frame place step stmts (state : State), frame < state.scopes.frames.size →
    Keeps (.statements frame place step stmts) state (checkAll fuel frame place step stmts)
  checkBlock : ∀ frame place body (state : State), frame < state.scopes.frames.size →
    Keeps (.block place body) state (checkBlock fuel frame place body)
  checkCondition : ∀ frame place keyword condition state,
    Keeps (.subtree place) state (checkCondition fuel frame place keyword condition)
  checkBound : ∀ frame place token bound state,
    Keeps (.subtree place) state (checkBound fuel frame place token bound)

namespace AllKeep

variable {fuel : Nat}

theorem typeOf_succ (all : AllKeep fuel) (frame : FrameId) (place : Place) (expr : Expr)
    (state : State) :
    Keeps (.subtree place) state (Check.typeOf (fuel + 1) frame place expr) := by
  rw [Check.typeOf]
  have inferred := (all.infer frame place expr state).widen
    (Footprint.covers_subtree_children place 0 state)
  refine inferred.bind fun type middle _ _ => ?_
  have noted : Effect (.subtree place) middle (middle.note place expr type) :=
    .note middle expr type (.refl place)
  exact Keeps.bind (Keeps.modify noted) fun _ after _ _ => Keeps.pure _ after type

theorem typesOf_succ (all : AllKeep fuel) (frame : FrameId) (place : Place) (step : Nat)
    (exprs : List Expr) (state : State) :
    Keeps (.children place step) state (Check.typesOf (fuel + 1) frame place step exprs) := by
  cases exprs with
  | nil => exact Keeps.pure _ state _
  | cons expr exprs =>
      rw [Check.typesOf]
      have first := (all.typeOf frame (place.child step) expr state).widen
        (Footprint.covers_children_subtree place (Nat.le_refl step) state)
      refine first.bind fun type middle _ _ => ?_
      have others := (all.typesOf frame place (step + 1) exprs middle).widen
        (Footprint.covers_children place (Nat.le_succ step) middle)
      exact others.bind fun types after _ _ => Keeps.pure _ after _

theorem infer_succ (all : AllKeep fuel) (frame : FrameId) (place : Place) (expr : Expr)
    (state : State) :
    Keeps (.children place 0) state (Check.infer (fuel + 1) frame place expr) := by
  have child : ∀ (step : Nat) (part : Expr) (state : State), Keeps (.children place 0) state
      (Check.typeOf fuel frame (place.child step) part) := fun step part state =>
    (all.typeOf frame (place.child step) part state).widen
      (Footprint.covers_children_subtree place (Nat.zero_le step) state)
  have parts : ∀ (step : Nat) (list : List Expr) (state : State), Keeps (.children place 0) state
      (Check.typesOf fuel frame place step list) := fun step list state =>
    (all.typesOf frame place step list state).widen
      (Footprint.covers_children place (Nat.zero_le step) state)
  cases expr with
  | literal value token =>
      rw [Check.infer]
      exact Keeps.pure _ state _
  | reference name =>
      rw [Check.infer]
      refine Keeps.lookup? ?_
      split
      · exact Keeps.pure _ state _
      · exact Keeps.fail _ state _ _
  | assign name value =>
      rw [Check.infer]
      refine (child 0 value state).bind fun found middle _ _ => ?_
      refine Keeps.lookup? ?_
      split
      · exact Keeps.fail _ middle _ _
      · split
        · exact Keeps.pure _ middle _
        · exact Keeps.fail _ middle _ _
  | group inner =>
      rw [Check.infer]
      exact child 0 inner state
  | tuple items =>
      rw [Check.infer]
      exact (parts 0 items state).bind fun types after _ _ => Keeps.pure _ after _
  | unary operator token operand =>
      rw [Check.infer]
      refine (child 0 operand state).bind fun found middle _ _ => ?_
      split
      · exact Keeps.pure _ middle _
      · exact Keeps.fail _ middle _ _
  | binary operator token left right =>
      rw [Check.infer]
      refine (child 0 left state).bind fun leftType middle _ _ => ?_
      refine (child 1 right middle).bind fun rightType after _ _ => ?_
      split
      · exact Keeps.pure _ after _
      · exact Keeps.fail _ after _ _
  | logical operator token left right =>
      rw [Check.infer]
      refine (child 0 left state).bind fun leftType middle _ _ => ?_
      refine (child 1 right middle).bind fun rightType after _ _ => ?_
      split
      · exact Keeps.pure _ after _
      · exact Keeps.fail _ after _ _
  | call callee paren arguments =>
      rw [Check.infer]
      refine (child 0 callee state).bind fun calleeType middle _ _ => ?_
      refine (parts 1 arguments middle).bind fun argumentTypes after _ _ => ?_
      exact (all.callType calleeType argumentTypes paren after).widen
        (Footprint.covers_nothing _ after)

theorem callType_succ (all : AllKeep fuel) (callee : Ty) (arguments : List Ty) (paren : Token)
    (state : State) :
    Keeps .nothing state (Check.callType (fuel + 1) callee arguments paren) := by
  cases callee with
  | native name parameters result =>
      rw [Check.callType]
      split
      · exact Keeps.pure _ state _
      · exact Keeps.fail _ state _ _
  | function name identifier =>
      rw [Check.callType]
      refine Keeps.get ((Keeps.orFault _ state _).bind fun expected middle _ _ => ?_)
      split
      · exact all.instantiate _ _ _ _ middle
      · exact Keeps.fail _ middle _ _
  | unknown => exact Keeps.pure _ state _
  | bareNative => trivial
  | number | text | bool | displayable | tuple items => exact Keeps.fail _ state _ _

/-- The state in which the body of a new instance is checked: the parameters are
bound to the types of the arguments in a new frame. -/
def entered (state : State) (function : DeclaredFunction) (arguments : List Ty) : State :=
  { state with
    scopes := (state.scopes.nest function.closure).2.defineAll state.scopes.frames.size
      ((function.parameters.map (·.lexeme)).zip arguments) }

theorem effect_entered (state : State) {identifier : Nat} {function : DeclaredFunction}
    (found : state.functions[identifier]? = some function) (arguments : List Ty) :
    Effect (.body state.scopes.frames.size) state (entered state function arguments) := by
  have nested : Effect (.body state.scopes.frames.size) state
      { state with scopes := (state.scopes.nest function.closure).2 } :=
    .nest _ state fun isWellFormed => isWellFormed.closures identifier function found
  exact nested.trans (.defineAll _ _ (by simp) rfl)

/-- The diagnostics for returns that do not fit. -/
theorem effect_reports (footprint : Footprint) (diagnostics : List Diagnostic) (state : State) :
    Effect footprint state (diagnostics.foldl State.report state) := by
  induction diagnostics generalizing state with
  | nil => exact .refl footprint state
  | cons diagnostic diagnostics inductionHypothesis =>
      exact (Effect.report footprint state diagnostic).trans (inductionHypothesis _)

theorem functions_reports (diagnostics : List Diagnostic) (state : State) :
    (diagnostics.foldl State.report state).functions = state.functions ∧
      (diagnostics.foldl State.report state).activations = state.activations := by
  induction diagnostics generalizing state with
  | nil => exact ⟨rfl, rfl⟩
  | cons diagnostic diagnostics inductionHypothesis =>
      have one : (state.report diagnostic).functions = state.functions ∧
          (state.report diagnostic).activations = state.activations := by
        unfold State.report
        split <;> exact ⟨rfl, rfl⟩
      obtain ⟨functions, activations⟩ := inductionHypothesis (state.report diagnostic)
      exact ⟨functions.trans one.1, activations.trans one.2⟩

/-- The result of an instance is remembered once its body has been checked. -/
theorem effect_finish (footprint : Footprint) (state : State) {identifier : Nat}
    {arguments : List Ty} {generation : Nat} (diagnostics : List Diagnostic) (result : Ty)
    {declared : DeclaredFunction} (found : state.functions[identifier]? = some declared)
    (new : state.instance? identifier (arguments, generation) = none)
    (idle : ¬ state.Active identifier arguments) :
    Effect footprint state ((diagnostics.foldl State.report state).setInstance identifier
      (arguments, generation) result) := by
  obtain ⟨functions, activations⟩ := functions_reports diagnostics state
  refine (effect_reports footprint diagnostics state).trans
    (.setInstance footprint _ result (functions ▸ found) ?_ ?_)
  · rw [State.instance?, functions]
    exact new
  · rw [State.Active, activations]
    exact idle

theorem not_active_of_find? {state : State} {identifier : Nat} {arguments : List Ty}
    (none : (state.activations.find? fun activation =>
      activation.function = identifier && activation.arguments = arguments) = none) :
    ¬ state.Active identifier arguments := by
  rintro ⟨activation, member, same⟩
  have other := List.find?_eq_none.1 none activation member
  simp [same.1, same.2] at other

theorem instantiate_succ (all : AllKeep fuel) (name : String) (identifier : Nat)
    (arguments : List Ty) (anchor : Token) (state : State) :
    Keeps .nothing state (Check.instantiate (fuel + 1) name identifier arguments anchor) := by
  rw [Check.instantiate]
  refine Keeps.get ((Keeps.orFault _ state _).bind fun function same equation _ => ?_)
  obtain ⟨found, rfl⟩ : state.functions[identifier]? = some function ∧ same = state := by
    cases declared : declaration state.functions name identifier with
    | error fault =>
        rw [declared] at equation
        cases equation
    | ok other =>
        rw [declared] at equation
        cases equation
        exact ⟨declaration_eq_ok.1 declared, rfl⟩
  dsimp only
  split
  · exact Keeps.pure _ same _
  next unknown =>
  split
  · split
    · exact Keeps.pure _ same _
    · split
      · exact Keeps.pure _ same _
      · exact Keeps.fail _ same _ _
  next idle =>
  split
  · exact Keeps.fail _ same _ _
  -- A new instance is checked, in a frame that nobody has seen.
  have fresh : Keeps (.body same.scopes.frames.size) (entered same function arguments) (do
      let results ← Check.checkBody fuel identifier arguments function same.scopes.frames.size
      let result := chooseResult (results.map (·.1))
      modify fun state =>
        ((returnMismatches name result results).foldl State.report state).setInstance identifier
          (arguments, same.generation) result
      return result) := by
    have body := all.checkBody identifier arguments function same.scopes.frames.size
      (entered same function arguments) (by simp [entered])
    refine body.1.bind fun results after equation effect => ?_
    obtain ⟨later, foundLater, _⟩ := effect.declarations identifier function found
    have new : after.instance? identifier (arguments, same.generation) = none := by
      cases known : after.instance? identifier (arguments, same.generation) with
      | none => rfl
      | some result =>
          have before := body.2 results after equation same.generation result known
          change same.instance? identifier (arguments, same.generation) = some result at before
          rw [State.instance?, found, Option.bind_some, unknown] at before
          cases before
    have idleAfter : ¬ after.Active identifier arguments := fun active =>
      not_active_of_find? idle ((effect.activations.any_iff _ _).1 active)
    exact (Keeps.modify (effect_finish _ after _ _ foundLater new idleAfter)).bind
      fun _ last _ _ => Keeps.pure _ last _
  have whole : EndsWith (.body same.scopes.frames.size) same _ :=
    Keeps.after (effect_entered same found arguments) fresh
  exact Keeps.imp whole fun after effect => effect.hidden found fun frame present isNew =>
    absurd isNew (Nat.ne_of_lt present)

theorem covers_body_statements (frame : FrameId) (place : Place) (step : Nat) (stmts : List Stmt)
    (state : State) :
    (Footprint.body frame).Covers (.statements frame place step stmts) state :=
  ⟨fun _ _ same => same, fun _ _ => trivial, fun _ => trivial⟩

theorem covers_body_subtree (frame : FrameId) (place : Place) (state : State) :
    (Footprint.body frame).Covers (.subtree place) state :=
  ⟨fun _ _ none => none.elim, fun _ _ => trivial, fun _ => trivial⟩

theorem covers_let (frame : FrameId) (place : Place) (state : State) :
    Footprint.Covers { Footprint.subtree place with frames := fun other => other = frame }
      (.subtree (place.child 0)) state :=
  ⟨fun _ _ none => none.elim, fun _ below => below.of_child, fun none => none⟩

theorem covers_first (frame : FrameId) (place : Place) (step : Nat) (stmt : Stmt)
    (stmts : List Stmt) (state : State) :
    (Footprint.statements frame place step (stmt :: stmts)).Covers
      (.statement frame (place.child step) stmt) state :=
  ⟨fun _ _ inside => inside.1, fun _ below => ⟨step, Nat.le_refl step, below⟩, fun declares => by
    change (stmt.isPlain && Stmt.arePlain stmts) = false
    rw [show stmt.isPlain = false from declares, Bool.false_and]⟩

theorem covers_rest (frame : FrameId) (place : Place) (step : Nat) (stmt : Stmt)
    (stmts : List Stmt) (state : State) :
    (Footprint.statements frame place step (stmt :: stmts)).Covers
      (.statements frame place (step + 1) stmts) state :=
  ⟨fun _ _ inside => inside, fun _ ⟨child, above, below⟩ => ⟨child, by omega, below⟩,
    fun declares => by
      change (stmt.isPlain && Stmt.arePlain stmts) = false
      rw [show Stmt.arePlain stmts = false from declares, Bool.and_false]⟩

theorem covers_tail (frame : FrameId) (place : Place) (statements : List Stmt) (state : State) :
    (Footprint.statements frame place 0 statements).Covers
      (.subtree (place.child statements.length)) state :=
  ⟨fun _ _ none => none.elim, fun _ below => ⟨_, Nat.zero_le _, below⟩, fun none => none.elim⟩

/-- Everything between entering a body and leaving it. -/
def throughBody (fuel : Nat) (function : DeclaredFunction) (frame : FrameId) :
    Check (Option Ty) := do
  Check.checkAll fuel frame function.place 0 function.body.statements
  match function.body.tail with
  | none => pure (some Ty.unit)
  | some tail =>
      reporting
        (Check.typeOf fuel frame (function.place.child function.body.statements.length) tail)

theorem throughBody_recovers (fuel : Nat) (function : DeclaredFunction) (frame : FrameId)
    (state : State) : Recovers (throughBody fuel function frame state) := by
  unfold throughBody
  rw [bind_apply]
  have recovers := recovers_checkAll fuel frame function.place 0 function.body.statements state
  match equation : Check.checkAll fuel frame function.place 0 function.body.statements state with
  | .ok _ after =>
      cases function.body.tail with
      | none => trivial
      | some tail => exact recovers_reporting _ after
  | .error (.failed _) _ =>
      rw [equation] at recovers
      exact recovers.elim
  | .error .reported _ =>
      rw [equation] at recovers
      exact recovers.elim
  | .error (.faulted _) _ => trivial
  | .error .exhausted _ => trivial

theorem throughBody_keeps (all : AllKeep fuel) (function : DeclaredFunction) (frame : FrameId)
    (state : State) (present : frame < state.scopes.frames.size) :
    Keeps (.body frame) state (throughBody fuel function frame) := by
  unfold throughBody
  have statements := all.checkAll frame function.place 0 function.body.statements state present
  refine (statements.widen (covers_body_statements frame _ _ _ state)).bind
    fun _ middle _ _ => ?_
  split
  · exact Keeps.pure _ middle _
  · next tail _ =>
      have last := all.typeOf frame (function.place.child function.body.statements.length) tail
        middle
      exact (last.widen (covers_body_subtree frame _ middle)).reporting

theorem checkBody_apply (fuel identifier : Nat) (arguments : List Ty) (function : DeclaredFunction)
    (frame : FrameId) (state : State) :
    Check.checkBody (fuel + 1) identifier arguments function frame state =
      match throughBody fuel function frame
        { state with
          activations := { function := identifier, arguments := arguments, returns := [] } ::
            state.activations } with
      | .ok fallThrough after =>
          .ok
            (match fallThrough with
            | some type =>
                if blockReturns function.body then
                  (after.activations.head?.map (·.returns)).getD []
                else
                  (after.activations.head?.map (·.returns)).getD [] ++ [(type, function.name)]
            | none => (after.activations.head?.map (·.returns)).getD [])
            { after with activations := after.activations.tail }
      | .error stop after => .error stop after := by
  rw [Check.checkBody]
  unfold throughBody
  generalize shape : ({ state with
    activations := { function := identifier, arguments := arguments, returns := [] } ::
      state.activations } : State) = start
  have entered : ∀ next : PUnit → Check (List (Ty × Token)),
      ((modify fun state : State => { state with
        activations := { function := identifier, arguments := arguments, returns := [] } ::
          state.activations }) >>= next) state = next ⟨⟩ start := fun next => shape ▸ rfl
  have leaves : ∀ (fallThrough : Option Ty) (after : State),
      (do
        let state ← get
        set { state with activations := state.activations.tail }
        match fallThrough with
        | some type =>
            if blockReturns function.body = true then
              return (state.activations.head?.map (·.returns)).getD []
            else
              return (state.activations.head?.map (·.returns)).getD [] ++ [(type, function.name)]
        | none => return (state.activations.head?.map (·.returns)).getD [] :
          Check (List (Ty × Token))) after =
        .ok
          (match fallThrough with
          | some type =>
              if blockReturns function.body then
                (after.activations.head?.map (·.returns)).getD []
              else
                (after.activations.head?.map (·.returns)).getD [] ++ [(type, function.name)]
          | none => (after.activations.head?.map (·.returns)).getD [])
          { after with activations := after.activations.tail } := by
    intro fallThrough after
    cases fallThrough with
    | none => rfl
    | some type => cases blockReturns function.body <;> rfl
  rw [entered, bind_apply, bind_apply]
  cases Check.checkAll fuel frame function.place 0 function.body.statements start with
  | error stop after => rfl
  | ok _ middle =>
      dsimp only
      cases function.body.tail with
      | none => exact leaves (some Ty.unit) middle
      | some tail =>
          dsimp only
          rw [bind_apply]
          cases reporting (Check.typeOf fuel frame
            (function.place.child function.body.statements.length) tail) middle with
          | error stop after => rfl
          | ok fallThrough after => exact leaves fallThrough after

theorem checkBody_succ (all : AllKeep fuel) (identifier : Nat) (arguments : List Ty)
    (function : DeclaredFunction) (frame : FrameId) (state : State)
    (present : frame < state.scopes.frames.size) :
    Keeps (.body frame) state
        (Check.checkBody (fuel + 1) identifier arguments function frame) ∧
      ∀ results after,
        Check.checkBody (fuel + 1) identifier arguments function frame state = .ok results after →
        ∀ generation result, after.instance? identifier (arguments, generation) = some result →
          state.instance? identifier (arguments, generation) = some result := by
  let activation : Activation := { function := identifier, arguments := arguments, returns := [] }
  let start : State := { state with activations := activation :: state.activations }
  have keeps := all.throughBody_keeps function frame start present
  have recovers := throughBody_recovers fuel function frame start
  have active : start.Active identifier arguments :=
    ⟨activation, List.mem_cons_self .., rfl, rfl⟩
  unfold Keeps at keeps ⊢
  rw [checkBody_apply]
  match equation : throughBody fuel function frame start with
  | .ok fallThrough after =>
      rw [equation] at keeps
      refine ⟨Effect.leave keeps, fun results last same generation result found => ?_⟩
      cases same
      exact Effect.protects keeps identifier (arguments, generation) result active found
  | .error (.failed _) _ =>
      rw [equation] at recovers
      exact recovers.elim
  | .error .reported _ =>
      rw [equation] at recovers
      exact recovers.elim
  | .error (.faulted _) _ => exact ⟨trivial, fun _ _ same => by cases same⟩
  | .error .exhausted _ => exact ⟨trivial, fun _ _ same => by cases same⟩

theorem checkLet_succ (all : AllKeep fuel) (frame : FrameId) (place : Place) (name : Token)
    (declared : Option Ty) (initializer : Expr) (state : State)
    (present : frame < state.scopes.frames.size) :
    Keeps { Footprint.subtree place with frames := fun other => other = frame } state
      (Check.checkLet (fuel + 1) frame place name declared initializer) := by
  have typed := (all.typeOf frame (place.child 0) initializer state).widen (covers_let frame place state)
  have binds : ∀ (type : Ty) (after : State),
      Effect { Footprint.subtree place with frames := fun other => other = frame } state after →
      Effect { Footprint.subtree place with frames := fun other => other = frame } after
        (after.bind frame name.lexeme type) := fun type after effect =>
    .bind after name.lexeme type (Nat.lt_of_lt_of_le present effect.grown.size) rfl
  cases declared with
  | none =>
      rw [Check.checkLet]
      exact typed.bind fun found after _ effect => Keeps.modify (binds found after effect)
  | some type =>
      rw [Check.checkLet]
      refine (typed.onFailure (binds type)).bind fun found middle _ effect => ?_
      refine (Keeps.modify (binds type middle effect)).bind fun _ after _ _ => ?_
      split
      · exact Keeps.fail _ after _ _
      · exact Keeps.pure _ after _

theorem checkAll_succ (all : AllKeep fuel) (frame : FrameId) (place : Place) (step : Nat)
    (stmts : List Stmt) (state : State) (present : frame < state.scopes.frames.size) :
    Keeps (.statements frame place step stmts) state
      (Check.checkAll (fuel + 1) frame place step stmts) := by
  cases stmts with
  | nil => exact Keeps.pure _ state _
  | cons stmt stmts =>
      rw [Check.checkAll]
      have first := all.checkStmt frame (place.child step) stmt state present
      refine ((first.widen (covers_first frame place step stmt stmts state)).reporting).bind
        fun _ middle _ effect => ?_
      have presentThen := Nat.lt_of_lt_of_le present effect.grown.size
      exact (all.checkAll frame place (step + 1) stmts middle presentThen).widen
        (covers_rest frame place step stmt stmts middle)

theorem checkCondition_succ (all : AllKeep fuel) (frame : FrameId) (place : Place)
    (keyword : Token) (condition : Expr) (state : State) :
    Keeps (.subtree place) state
      (Check.checkCondition (fuel + 1) frame place keyword condition) := by
  rw [Check.checkCondition]
  refine (all.typeOf frame place condition state).reporting.bind fun found middle _ _ => ?_
  split
  · exact Keeps.pure _ middle _
  · split
    · exact Keeps.modify (.report _ middle _)
    · exact Keeps.pure _ middle _

theorem checkBound_succ (all : AllKeep fuel) (frame : FrameId) (place : Place) (token : Token)
    (bound : Expr) (state : State) :
    Keeps (.subtree place) state (Check.checkBound (fuel + 1) frame place token bound) := by
  rw [Check.checkBound]
  refine (all.typeOf frame place bound state).bind fun found middle _ _ => ?_
  split
  · exact Keeps.fail _ middle _ _
  · exact Keeps.pure _ middle _

theorem checkBlock_succ (all : AllKeep fuel) (frame : FrameId) (place : Place) (body : Block)
    (state : State) (present : frame < state.scopes.frames.size) :
    Keeps (.block place body) state (Check.checkBlock (fuel + 1) frame place body) := by
  obtain ⟨brace, statements, tail⟩ := body
  rw [Check.checkBlock]
  -- Inside, names are bound in the new frame, which does not count as one that was there.
  have inside : Keeps (.statements state.scopes.frames.size place 0 statements) state (do
      let inner ← nest frame
      Check.checkAll fuel inner place 0 statements
      match tail with
      | none => return Ty.unit
      | some tail =>
          match ← reporting (Check.typeOf fuel inner (place.child statements.length) tail) with
          | some type => return type
          | none => throw .reported) := by
    refine Keeps.nest (fun _ => present) ?_
    refine (all.checkAll _ place 0 statements _ (by simp)).bind fun _ middle _ _ => ?_
    split
    · exact Keeps.pure _ middle _
    · next tail =>
        have last := (all.typeOf state.scopes.frames.size (place.child statements.length) tail
          middle).widen (covers_tail state.scopes.frames.size place statements middle)
        refine last.reporting.bind fun type after equation effect => ?_
        split
        · exact Keeps.pure _ after _
        · exact ⟨.refl _ after, last.reporting_none equation⟩
  exact inside.widen ⟨fun _ lower same => absurd same (Nat.ne_of_lt lower), fun _ below => below,
    fun declares => declares⟩

theorem covers_statement_subtree (frame : FrameId) (place : Place) (step : Nat) (stmt : Stmt)
    (state : State) :
    (Footprint.statement frame place stmt).Covers (.subtree (place.child step)) state :=
  ⟨fun _ _ none => none.elim, fun _ below => below.of_child, fun none => none.elim⟩

theorem covers_statement_let (frame : FrameId) (place : Place) (name : Token)
    (declared : Option WrittenType) (initializer : Expr) (state : State) :
    (Footprint.statement frame place (.letValue name declared initializer)).Covers
      { Footprint.subtree place with frames := fun other => other = frame } state :=
  ⟨fun _ _ same => ⟨same, rfl⟩, fun _ below => below, fun none => none.elim⟩

theorem covers_alternative (frame : FrameId) (place : Place) (keyword : Token) (test : Expr)
    (consequent : Block) (alternative : Stmt) (state : State) :
    (Footprint.statement frame place (.ifElse keyword test consequent alternative)).Covers
      (.statement frame (place.child 2) alternative) state :=
  ⟨fun _ _ inside => ⟨inside.1, inside.2⟩, fun _ below => below.of_child, fun declares => by
    change (consequent.isPlain && alternative.isPlain) = false
    rw [show alternative.isPlain = false from declares, Bool.and_false]⟩

/-- The body of a loop over numbers is checked in a frame of the loop variable. -/
theorem forBody (all : AllKeep fuel) (frame : FrameId) (place : Place) (name : Token)
    (bounds : Bounds) (body : Block) (state : State) (present : frame < state.scopes.frames.size) :
    Keeps (.statement frame place (.forLoop name bounds body)) state (do
      let inner ← nest frame
      define inner [(name.lexeme, .number)]
      let _ ← Check.checkBlock fuel inner (place.child 3) body
      return Ty.unit) := by
  have inside : Keeps (.statements state.scopes.frames.size place 0 [.forLoop name bounds body])
      state (do
        let inner ← nest frame
        define inner [(name.lexeme, .number)]
        let _ ← Check.checkBlock fuel inner (place.child 3) body
        return Ty.unit) := by
    refine Keeps.nest (fun _ => present) ?_
    refine (Keeps.modify (.defineAll _ _ (by simp) rfl)).bind fun _ middle _ effect => ?_
    have presentInner : state.scopes.frames.size < middle.scopes.frames.size :=
      Nat.lt_of_lt_of_le (by simp) effect.grown.size
    refine ((all.checkBlock _ (place.child 3) body middle presentInner).widen ?_).bind
      fun _ after _ _ => Keeps.pure _ after _
    exact ⟨fun _ _ none => none.elim, fun _ ⟨_, _, below⟩ => ⟨3, Nat.zero_le _, below.of_child⟩,
      fun declares => by
        change (body.isPlain && true) = false
        rw [show body.isPlain = false from declares, Bool.false_and]⟩
  exact inside.widen ⟨fun _ lower same => absurd same (Nat.ne_of_lt lower),
    fun _ ⟨_, _, below⟩ => below.of_child, fun declares => by
      change body.isPlain = false
      have same : (body.isPlain && true) = false := declares
      rwa [Bool.and_true] at same⟩

theorem checkStmt_succ (all : AllKeep fuel) (frame : FrameId) (place : Place) (stmt : Stmt)
    (state : State) (present : frame < state.scopes.frames.size) :
    Keeps (.statement frame place stmt) state (Check.checkStmt (fuel + 1) frame place stmt) := by
  have expression : ∀ (step : Nat) (expr : Expr) (state : State),
      Keeps (.statement frame place stmt) state
        (Check.typeOf fuel frame (place.child step) expr) := fun step expr state =>
    (all.typeOf frame (place.child step) expr state).widen
      (covers_statement_subtree frame place step stmt state)
  have condition : ∀ (keyword : Token) (expr : Expr) (state : State),
      Keeps (.statement frame place stmt) state
        (Check.checkCondition fuel frame (place.child 0) keyword expr) := fun keyword expr state =>
    (all.checkCondition frame (place.child 0) keyword expr state).widen
      (covers_statement_subtree frame place 0 stmt state)
  have bound : ∀ (step : Nat) (token : Token) (expr : Expr) (state : State),
      Keeps (.statement frame place stmt) state
        (Check.checkBound fuel frame (place.child step) token expr) := fun step token expr state =>
    (all.checkBound frame (place.child step) token expr state).widen
      (covers_statement_subtree frame place step stmt state)
  have block : ∀ (step : Nat) (inner : FrameId) (body : Block) (state : State),
      inner < state.scopes.frames.size → (body.isPlain = false → stmt.isPlain = false) →
      Keeps (.statement frame place stmt) state
        (Check.checkBlock fuel inner (place.child step) body) :=
    fun step inner body state isPresent plain =>
      (all.checkBlock inner (place.child step) body state isPresent).widen
        ⟨fun _ _ none => none.elim, fun _ ⟨_, _, below⟩ => below.of_child.of_child, plain⟩
  cases stmt with
  | expression value =>
      rw [Check.checkStmt]
      exact expression 0 value state
  | letValue name declared initializer =>
      rw [Check.checkStmt]
      have bound := (all.checkLet frame place name (declared.map (·.type)) initializer state
        present).widen (covers_statement_let frame place name declared initializer state)
      exact bound.bind fun _ after _ _ => Keeps.pure _ after _
  | block body =>
      rw [Check.checkStmt]
      exact (all.checkBlock frame place body state present).widen
        ⟨fun _ _ none => none.elim, fun _ ⟨_, _, below⟩ => below.of_child,
          fun declares => declares⟩
  | ifThen keyword test consequent =>
      rw [Check.checkStmt]
      refine (condition keyword test state).bind fun _ middle _ effect => ?_
      refine (block 1 frame consequent middle (Nat.lt_of_lt_of_le present effect.grown.size)
        fun declares => declares).bind fun _ after _ _ => ?_
      exact Keeps.pure _ after _
  | ifElse keyword test consequent alternative =>
      rw [Check.checkStmt]
      refine (condition keyword test state).bind fun _ first _ effect => ?_
      have presentFirst := Nat.lt_of_lt_of_le present effect.grown.size
      refine (block 1 frame consequent first presentFirst fun declares => by
        rw [Stmt.isPlain, declares, Bool.false_and]).bind fun _ second _ effect => ?_
      have presentSecond := Nat.lt_of_lt_of_le presentFirst effect.grown.size
      have other := (all.checkStmt frame (place.child 2) alternative second presentSecond).widen
        (covers_alternative frame place keyword test consequent alternative second)
      exact other.bind fun _ after _ _ => Keeps.pure _ after _
  | whileLoop keyword test body =>
      rw [Check.checkStmt]
      refine (condition keyword test state).bind fun _ middle _ effect => ?_
      refine (block 1 frame body middle (Nat.lt_of_lt_of_le present effect.grown.size)
        fun declares => declares).bind fun _ after _ _ => ?_
      exact Keeps.pure _ after _
  | forLoop name bounds body =>
      rw [Check.checkStmt]
      have rest : ∀ state : State, frame < state.scopes.frames.size →
          Keeps (.statement frame place (.forLoop name bounds body)) state (do
            Check.checkBound fuel frame (place.child 2) bounds.token bounds.stop
            let inner ← nest frame
            define inner [(name.lexeme, .number)]
            let _ ← Check.checkBlock fuel inner (place.child 3) body
            return Ty.unit) := by
        intro state present
        refine (bound 2 bounds.token bounds.stop state).bind fun _ middle _ effect => ?_
        have presentMiddle := Nat.lt_of_lt_of_le present effect.grown.size
        exact all.forBody frame place name bounds body middle presentMiddle
      refine (bound 0 bounds.token bounds.start state).bind fun _ first _ effect => ?_
      have presentFirst := Nat.lt_of_lt_of_le present effect.grown.size
      cases bounds.step with
      | none => exact rest first presentFirst
      | some step =>
          refine (bound 1 bounds.token step first).bind fun _ second _ effect => ?_
          exact rest second (Nat.lt_of_lt_of_le presentFirst effect.grown.size)
  | function name parameters body =>
      rw [Check.checkStmt]
      have declared : Effect (.statement frame place (.function name parameters body)) state _ :=
        .declare state (place.child 0) name parameters body present ⟨rfl, rfl⟩ rfl
      exact (Keeps.modify declared).bind fun _ after _ _ => Keeps.pure _ after _
  | giveBack keyword value =>
      rw [Check.checkStmt]
      refine Keeps.get ?_
      split
      · exact Keeps.fail _ state _ _
      · cases value with
        | none =>
            refine (Keeps.pure _ state Ty.unit).bind fun type middle _ _ => ?_
            exact (Keeps.modify (.addReturn _ middle type keyword)).bind
              fun _ after _ _ => Keeps.pure _ after _
        | some value =>
            refine (expression 0 value state).bind fun type middle _ _ => ?_
            exact (Keeps.modify (.addReturn _ middle type keyword)).bind
              fun _ after _ _ => Keeps.pure _ after _

end AllKeep

/-- The effects of all checks. -/
theorem allKeep (fuel : Nat) : AllKeep fuel := by
  induction fuel with
  | zero =>
      exact
        { typeOf := fun _ _ _ _ => trivial
          typesOf := fun _ _ _ _ _ => trivial
          infer := fun _ _ _ _ => trivial
          callType := fun _ _ _ _ => trivial
          instantiate := fun _ _ _ _ _ => trivial
          checkBody := fun _ _ _ _ _ _ => ⟨trivial, fun _ _ same => by cases same⟩
          checkStmt := fun _ _ _ _ _ => trivial
          checkLet := fun _ _ _ _ _ _ _ => trivial
          checkAll := fun _ _ _ _ _ _ => trivial
          checkBlock := fun _ _ _ _ _ => trivial
          checkCondition := fun _ _ _ _ _ => trivial
          checkBound := fun _ _ _ _ _ => trivial }
  | succ fuel all =>
      exact
        { typeOf := all.typeOf_succ
          typesOf := all.typesOf_succ
          infer := all.infer_succ
          callType := all.callType_succ
          instantiate := all.instantiate_succ
          checkBody := all.checkBody_succ
          checkStmt := all.checkStmt_succ
          checkLet := all.checkLet_succ
          checkAll := all.checkAll_succ
          checkBlock := all.checkBlock_succ
          checkCondition := all.checkCondition_succ
          checkBound := all.checkBound_succ }

/-- The statements of a program change their own frame and note their own parts. -/
theorem checkStatements_effect {fuel : Nat} {frame : FrameId} {place : Place} {step : Nat}
    {last type : Ty} {stmts : List Stmt} {before after : State}
    (present : frame < before.scopes.frames.size)
    (equation : checkStatements fuel frame place step last stmts before = .ok type after) :
    Effect (.statements frame place step stmts) before after := by
  induction stmts generalizing step last before with
  | nil =>
      obtain ⟨_, rfl⟩ := pure_eq_ok equation
      exact .refl _ before
  | cons stmt stmts inductionHypothesis =>
      rw [checkStatements] at equation
      obtain ⟨result, middle, reported, rest⟩ := bind_eq_ok equation
      have keeps := (allKeep fuel).checkStmt frame (place.child step) stmt before present
      have first := keeps.reporting.effect reported
      have others := inductionHypothesis (Nat.lt_of_lt_of_le present first.grown.size) rest
      exact (first.widen (AllKeep.covers_first frame place step stmt stmts before)).trans
        (others.widen (AllKeep.covers_rest frame place step stmt stmts middle))

end Check

end CheckedScript
