import CheckedScript.Proofs.Walks.CheckTurns

/-!
# The declarations behind the functions of a check

In a flat program every function statement is met at most once, so the functions that a check
makes have bodies at different places: `State.functionPlaces` is part of the list of places that
can be read off the program.  The bound on the bodies in progress of each function is
then one for each declaration.
-/

namespace CheckedScript

open Typing (Place)

mutual

/-- The places of the bodies of the functions declared in a statement, outside the bodies of
others. -/
def Stmt.functionPlaces (place : Place) : Stmt → List Place
  | .block body => body.functionPlaces place
  | .ifThen _ _ consequent => consequent.functionPlaces (place.child 1)
  | .ifElse _ _ consequent alternative =>
      consequent.functionPlaces (place.child 1) ++ alternative.functionPlaces (place.child 2)
  | .whileLoop _ _ body => body.functionPlaces (place.child 1)
  | .forLoop _ _ body => body.functionPlaces (place.child 3)
  | .function _ _ _ => [place.child 0]
  | _ => []

def Block.functionPlaces (place : Place) : Block → List Place
  | .mk _ statements _ => Stmt.functionPlacesFrom place 0 statements

/-- The first one of the statements stands at the given step. -/
def Stmt.functionPlacesFrom (place : Place) (step : Nat) : List Stmt → List Place
  | [] => []
  | statement :: statements =>
      statement.functionPlaces (place.child step) ++
        Stmt.functionPlacesFrom place (step + 1) statements

end

mutual

theorem Stmt.length_functionPlaces (place : Place) (stmt : Stmt) (flat : stmt.isFlat = true) :
    (stmt.functionPlaces place).length = stmt.functionCount := by
  cases stmt with
  | expression | letValue | giveBack => rfl
  | block body | ifThen _ _ body | whileLoop _ _ body | forLoop _ _ body =>
      exact body.length_functionPlaces _ flat
  | ifElse _ _ consequent alternative =>
      obtain ⟨flatFirst, flatOther⟩ := Bool.and_eq_true_iff.1 flat
      simp [Stmt.functionPlaces, Stmt.functionCount, consequent.length_functionPlaces _ flatFirst,
        alternative.length_functionPlaces _ flatOther]
  | function _ _ body =>
      have none : body.functionCount = 0 := (body.isFlat_of_isPlain flat).2
      simp [Stmt.functionPlaces, Stmt.functionCount, none]

theorem Block.length_functionPlaces (place : Place) (body : Block) (flat : body.isFlat = true) :
    (body.functionPlaces place).length = body.functionCount := by
  obtain ⟨_, statements, _⟩ := body
  exact Stmt.length_functionPlacesFrom place 0 statements flat

theorem Stmt.length_functionPlacesFrom (place : Place) (step : Nat) (stmts : List Stmt)
    (flat : Stmt.areFlat stmts = true) :
    (Stmt.functionPlacesFrom place step stmts).length = Stmt.functionCounts stmts := by
  cases stmts with
  | nil => rfl
  | cons stmt stmts =>
      obtain ⟨flatFirst, flatOthers⟩ := Bool.and_eq_true_iff.1 flat
      simp [Stmt.functionPlacesFrom, Stmt.functionCounts, stmt.length_functionPlaces _ flatFirst,
        Stmt.length_functionPlacesFrom place (step + 1) stmts flatOthers]

end

mutual

theorem Stmt.under_of_mem_functionPlaces {place found : Place} {stmt : Stmt}
    (member : found ∈ stmt.functionPlaces place) : found.Under place := by
  cases stmt with
  | expression | letValue | giveBack => cases member
  | block body => exact body.under_of_mem_functionPlaces member
  | ifThen _ _ body | whileLoop _ _ body | forLoop _ _ body =>
      exact (body.under_of_mem_functionPlaces member).of_child
  | ifElse _ _ consequent alternative =>
      rcases List.mem_append.1 member with member | member
      · exact (consequent.under_of_mem_functionPlaces member).of_child
      · exact (Stmt.under_of_mem_functionPlaces member).of_child
  | function _ _ _ =>
      rw [List.mem_singleton.1 member]
      exact .child place 0

theorem Block.under_of_mem_functionPlaces {place found : Place} (body : Block)
    (member : found ∈ body.functionPlaces place) : found.Under place := by
  obtain ⟨_, statements, _⟩ := body
  obtain ⟨_, _, below⟩ := Stmt.under_of_mem_functionPlacesFrom member
  exact below.of_child

theorem Stmt.under_of_mem_functionPlacesFrom {place found : Place} {step : Nat}
    {stmts : List Stmt} (member : found ∈ Stmt.functionPlacesFrom place step stmts) :
    ∃ index ≥ step, found.Under (place.child index) := by
  cases stmts with
  | nil => cases member
  | cons stmt stmts =>
      rcases List.mem_append.1 member with member | member
      · exact ⟨step, Nat.le_refl _, Stmt.under_of_mem_functionPlaces member⟩
      · obtain ⟨index, le, below⟩ := Stmt.under_of_mem_functionPlacesFrom member
        exact ⟨index, Nat.le_of_succ_le le, below⟩

end

mutual

/-- Different function statements have different places. -/
theorem Stmt.nodup_functionPlaces (place : Place) (stmt : Stmt) :
    (stmt.functionPlaces place).Nodup := by
  cases stmt with
  | expression | letValue | giveBack => exact List.nodup_nil
  | block body | ifThen _ _ body | whileLoop _ _ body | forLoop _ _ body =>
      exact body.nodup_functionPlaces _
  | ifElse _ _ consequent alternative =>
      refine List.nodup_append.2
        ⟨consequent.nodup_functionPlaces _, alternative.nodup_functionPlaces _, ?_⟩
      rintro found first _ second rfl
      have below := consequent.under_of_mem_functionPlaces first
      exact absurd (below.child_inj (Stmt.under_of_mem_functionPlaces second)) (by decide)
  | function _ _ _ => exact List.nodup_singleton _

theorem Block.nodup_functionPlaces (place : Place) (body : Block) :
    (body.functionPlaces place).Nodup := by
  obtain ⟨_, statements, _⟩ := body
  exact Stmt.nodup_functionPlacesFrom place 0 statements

theorem Stmt.nodup_functionPlacesFrom (place : Place) (step : Nat) (stmts : List Stmt) :
    (Stmt.functionPlacesFrom place step stmts).Nodup := by
  cases stmts with
  | nil => exact List.nodup_nil
  | cons stmt stmts =>
      refine List.nodup_append.2
        ⟨stmt.nodup_functionPlaces _, Stmt.nodup_functionPlacesFrom place _ stmts, ?_⟩
      rintro found first _ second rfl
      have below := Stmt.under_of_mem_functionPlaces first
      obtain ⟨index, le, besides⟩ := Stmt.under_of_mem_functionPlacesFrom second
      have same := below.child_inj besides
      omega

end

theorem Block.functionPlaces_of_isPlain (place : Place) (body : Block)
    (plain : body.isPlain = true) : body.functionPlaces place = [] := by
  obtain ⟨flat, none⟩ := body.isFlat_of_isPlain plain
  exact List.eq_nil_of_length_eq_zero ((body.length_functionPlaces place flat).trans none)

theorem Stmt.functionPlacesFrom_append (place : Place) (step : Nat) (first second : List Stmt) :
    Stmt.functionPlacesFrom place step (first ++ second) =
      Stmt.functionPlacesFrom place step first ++
        Stmt.functionPlacesFrom place (step + first.length) second := by
  induction first generalizing step with
  | nil => rfl
  | cons stmt first inductionHypothesis =>
      rw [List.cons_append, Stmt.functionPlacesFrom, Stmt.functionPlacesFrom,
        inductionHypothesis, List.append_assoc, List.length_cons, Nat.add_assoc,
        Nat.add_comm 1 first.length]

namespace Typing

open Check

/-- The places of the bodies of the functions that have been made. -/
def State.functionPlaces (state : State) : List Place :=
  state.functions.toList.map (·.place)

theorem State.getElem?_functionPlaces (state : State) (identifier : Nat) :
    state.functionPlaces[identifier]? = state.functions[identifier]?.map (·.place) := by
  rw [State.functionPlaces, List.getElem?_map, Array.getElem?_toList]

theorem State.functionPlaces_congr {state after : State}
    (same : after.functions = state.functions) : after.functionPlaces = state.functionPlaces := by
  rw [State.functionPlaces, same, State.functionPlaces]

theorem State.functions_addReturn (state : State) (type : Ty) (keyword : Token) :
    (state.addReturn type keyword).functions = state.functions := by
  unfold State.addReturn
  split <;> rfl

/-- A check that makes no function leaves the places as they are. -/
theorem Effect.functionPlaces_eq {footprint : Footprint} {before after : State}
    (effect : Effect footprint before after)
    (few : after.functions.size ≤ before.functions.size) :
    after.functionPlaces = before.functionPlaces := by
  have size : after.functions.size = before.functions.size :=
    Nat.le_antisymm few effect.size_functions_le
  refine List.ext_getElem? fun index => ?_
  simp only [State.functionPlaces, List.getElem?_map, Array.getElem?_toList]
  cases found : before.functions[index]? with
  | some function =>
      obtain ⟨later, foundLater, _, _, _, same, _⟩ := effect.declarations index function found
      rw [foundLater]
      exact congrArg some same
  | none =>
      rw [Array.getElem?_eq_none_iff] at found
      rw [Array.getElem?_eq_none_iff.2 (size ▸ found)]

/-- Of the functions that a check makes, the bodies stand at some of the given places. -/
def Adds {α : Type} (places : List Place) (state : State) (result : EStateM.Result Stop State α) :
    Prop :=
  ∀ after, Leaves result after → after.functionPlaces.Sublist (state.functionPlaces ++ places)

namespace Adds

variable {α β : Type} {places more : List Place} {state : State}

theorem ok {after : State} {value : α}
    (same : after.functions = state.functions) :
    Adds [] state (.ok value after : EStateM.Result Stop State α) := by
  intro last leaves
  cases leaves
  rw [State.functionPlaces_congr same, List.append_nil]

theorem throw (stop : Stop) :
    Adds [] state (.error stop state : EStateM.Result Stop State α) := by
  intro last leaves
  rw [List.append_nil]
  cases leaves <;> exact List.Sublist.refl _

/-- A check in the course of which no function is made. -/
theorem quiet {limit size : Nat} {running : List Nat} {enough : Prop} {footprint : Footprint}
    {check : Check α} (ends : Ends limit size running 0 enough state check)
    (keeps : Keeps footprint state check) : Adds [] state (check state) := by
  intro after leaves
  rw [List.append_nil]
  unfold Ends at ends
  unfold Keeps at keeps
  generalize check state = result at ends keeps leaves
  cases leaves with
  | value | failed => rw [Effect.functionPlaces_eq keeps ends.2]
  | reported => rw [Effect.functionPlaces_eq keeps.1 ends.2]

theorem of_eq_ok {check : Check α} {value : α} {after : State}
    (adds : Adds places state (check state)) (equation : check state = .ok value after) :
    after.functionPlaces.Sublist (state.functionPlaces ++ places) :=
  adds after (equation ▸ .value)

theorem bind {first : Check α} {next : α → Check β} (early : Adds places state (first state))
    (late : ∀ value middle, first state = .ok value middle → Adds more middle (next value middle)) :
    Adds (places ++ more) state ((first >>= next) state) := by
  intro after leaves
  rw [bind_apply] at leaves
  cases equation : first state with
  | ok value middle =>
      rw [equation] at leaves
      rw [← List.append_assoc]
      exact (late value middle equation after leaves).trans
        ((early.of_eq_ok equation).append_right more)
  | error stop middle =>
      rw [equation] at leaves early
      have left : after.functionPlaces.Sublist (state.functionPlaces ++ places) := by
        cases leaves <;> exact early _ (by constructor)
      rw [← List.append_assoc]
      exact left.trans (List.sublist_append_left _ _)

/-- A check before one that makes functions. -/
theorem quietThen {first : Check α} {next : α → Check β} (early : Adds [] state (first state))
    (late : ∀ value middle, first state = .ok value middle → Adds more middle (next value middle)) :
    Adds more state ((first >>= next) state) :=
  early.bind late

/-- A check after one that makes functions. -/
theorem thenQuiet {first : Check α} {next : α → Check β} (early : Adds places state (first state))
    (late : ∀ value middle, first state = .ok value middle → Adds [] middle (next value middle)) :
    Adds places state ((first >>= next) state) := by
  have both := early.bind late
  rwa [List.append_nil] at both

theorem reporting {check : Check α} (adds : Adds places state (check state)) :
    Adds places state (Check.reporting check state) := by
  intro last leaves
  unfold Check.reporting at leaves
  cases equation : check state with
  | ok value after =>
      rw [equation] at leaves
      cases leaves
      exact adds.of_eq_ok equation
  | error stop after =>
      rw [equation] at leaves adds
      cases stop with
      | failed diagnostic =>
          cases leaves
          have same : (after.report diagnostic).functions = after.functions :=
            (AllKeep.functions_reports [diagnostic] after).1
          rw [State.functionPlaces_congr same]
          exact adds after .failed
      | reported =>
          cases leaves
          exact adds _ .reported
      | faulted | exhausted => cases leaves

end Adds

/-- The places of the bodies of the functions that a task declares. -/
def Task.functionPlaces : Task → List Place
  | expression _ _ | expressions _ _ _ => []
  | statement place stmt => stmt.functionPlaces place
  | statements place step stmts => Stmt.functionPlacesFrom place step stmts
  | block place body => body.functionPlaces place

/-- A visit of the check of a flat program, in a frame that exists. -/
structure Visit.Sits (limit size : Nat) (running : List Nat) (visit : Visit) : Prop
    extends visit.Fits limit size running where
  stands : visit.state.Stands visit.frame

section Sits

variable {limit size fuel : Nat} {running : List Nat} {frame : FrameId} {state : State}

theorem Visit.Calls.sits {visit called : Visit} (calls : visit.Calls called)
    (capped : Capped limit running) (sits : visit.Sits limit size running) :
    called.Sits limit size running :=
  ⟨calls.fits capped sits.toFits, calls.stands sits.stands⟩

/-- The parts of a check that make no functions. -/
structure Quiet (limit size fuel : Nat) (running : List Nat) (state : State) : Prop where
  typeOf : ∀ frame place expr, Adds [] state (typeOf fuel frame place expr state)
  typesOf : ∀ frame place step exprs, Adds [] state (typesOf fuel frame place step exprs state)
  instantiate : ∀ name identifier arguments anchor,
    Adds [] state (instantiate fuel name identifier arguments anchor state)
  checkLet : ∀ frame place name declared initializer, frame < state.scopes.frames.size →
    Adds [] state (checkLet fuel frame place name declared initializer state)
  checkCondition : ∀ frame place keyword condition,
    Adds [] state (checkCondition fuel frame place keyword condition state)
  checkBound : ∀ frame place token bound,
    Adds [] state (checkBound fuel frame place token bound state)

theorem State.Bounded.quiet (bounded : state.Bounded limit size running)
    (capped : Capped limit running) (fuel : Nat) : Quiet limit size fuel running state := by
  have ends := allEnd limit size fuel
  have keeps := allKeep fuel
  exact
    { typeOf := fun frame place expr =>
        .quiet (ends.typeOf capped frame place expr state bounded) (keeps.typeOf _ _ _ _)
      typesOf := fun frame place step exprs =>
        .quiet (ends.typesOf capped frame place step exprs state bounded) (keeps.typesOf _ _ _ _ _)
      instantiate := fun name identifier arguments anchor =>
        .quiet (ends.instantiate capped name identifier arguments anchor state bounded)
          (keeps.instantiate _ _ _ _ _)
      checkLet := fun frame place name declared initializer present =>
        .quiet (ends.checkLet capped frame place name declared initializer state bounded)
          (keeps.checkLet _ _ _ _ _ _ present)
      checkCondition := fun frame place keyword condition =>
        .quiet (ends.checkCondition capped frame place keyword condition state bounded)
          (keeps.checkCondition _ _ _ _ _)
      checkBound := fun frame place token bound =>
        .quiet (ends.checkBound capped frame place token bound state bounded)
          (keeps.checkBound _ _ _ _ _) }

/-- The statements and blocks of a flat program make functions at the places where they
declare some. -/
structure AllAdd (limit size fuel : Nat) : Prop where
  checkStmt : ∀ {running}, Capped limit running → ∀ {frame state place stmt},
    (⟨fuel, frame, state, .statement place stmt⟩ : Visit).Sits limit size running →
    Adds (stmt.functionPlaces place) state (checkStmt fuel frame place stmt state)
  checkAll : ∀ {running}, Capped limit running → ∀ {frame state place step stmts},
    (⟨fuel, frame, state, .statements place step stmts⟩ : Visit).Sits limit size running →
    Adds (Stmt.functionPlacesFrom place step stmts) state
      (checkAll fuel frame place step stmts state)
  checkBlock : ∀ {running}, Capped limit running → ∀ {frame state place body},
    (⟨fuel, frame, state, .block place body⟩ : Visit).Sits limit size running →
    Adds (body.functionPlaces place) state (checkBlock fuel frame place body state)

namespace AllAdd

theorem checkLoop_succ (all : AllAdd limit size fuel) (capped : Capped limit running)
    {place : Place} {name : Token} {bounds : Bounds} {body : Block} {middle after : State}
    (sits : (⟨fuel + 1, frame, state, .statement place (.forLoop name bounds body)⟩ : Visit).Sits
      limit size running)
    (start : Check.checkBound fuel frame (place.child 0) bounds.token bounds.start state =
      .ok () middle)
    (step : StepChecked fuel frame (place.child 1) bounds.token bounds.step middle after)
    (bounded : after.Bounded limit size running) :
    Adds (body.functionPlaces (place.child 3)) after
      ((do
        Check.checkBound fuel frame (place.child 2) bounds.token bounds.stop
        let inner ← nest frame
        define inner [(name.lexeme, .number)]
        let _ ← Check.checkBlock fuel inner (place.child 3) body
        return Ty.unit : Check Ty) after) := by
  refine ((bounded.quiet capped fuel).checkBound _ _ _ _).quietThen fun _ last stop => ?_
  refine (Adds.ok rfl).quietThen fun _ _ nests => ?_
  cases nests
  refine (Adds.ok rfl).quietThen fun _ _ defines => ?_
  cases defines
  exact (all.checkBlock capped ((Visit.Calls.forBody start step stop).sits capped sits)).thenQuiet
    fun _ _ _ => .ok rfl

theorem checkStmt_succ (all : AllAdd limit size fuel) (capped : Capped limit running)
    {place : Place} {stmt : Stmt}
    (sits : (⟨fuel + 1, frame, state, .statement place stmt⟩ : Visit).Sits limit size running) :
    Adds (stmt.functionPlaces place) state (Check.checkStmt (fuel + 1) frame place stmt state) := by
  have quiet := sits.bounded.quiet capped fuel
  cases stmt with
  | expression value => exact quiet.typeOf _ _ _
  | letValue name declared initializer =>
      exact (quiet.checkLet _ _ _ _ _ sits.stands.present).quietThen fun _ _ _ => .ok rfl
  | block body => exact all.checkBlock capped (Visit.Calls.block.sits capped sits)
  | ifThen keyword condition consequent =>
      refine (quiet.checkCondition _ _ _ _).quietThen fun _ _ tested => ?_
      exact (all.checkBlock capped ((Visit.Calls.ifConsequent tested).sits capped sits)).thenQuiet
        fun _ _ _ => .ok rfl
  | ifElse keyword condition consequent alternative =>
      refine (quiet.checkCondition _ _ _ _).quietThen fun _ _ tested => ?_
      refine (all.checkBlock capped
        ((Visit.Calls.elseConsequent tested).sits capped sits)).bind fun _ _ checked => ?_
      exact (all.checkStmt capped
        ((Visit.Calls.alternative tested checked).sits capped sits)).thenQuiet fun _ _ _ => .ok rfl
  | whileLoop keyword condition body =>
      refine (quiet.checkCondition _ _ _ _).quietThen fun _ _ tested => ?_
      exact (all.checkBlock capped ((Visit.Calls.whileBody tested).sits capped sits)).thenQuiet
        fun _ _ _ => .ok rfl
  | forLoop name bounds body =>
      refine (quiet.checkBound _ _ _ _).quietThen fun _ middle start => ?_
      have ends := allEnd limit size fuel
      obtain ⟨bounded, _⟩ := (ends.checkBound capped _ _ _ _ _ sits.bounded).of_ok start
      obtain ⟨token, first, last, step⟩ := bounds
      cases step with
      | none => exact all.checkLoop_succ capped sits start .absent bounded
      | some step =>
          refine ((bounded.quiet capped fuel).checkBound _ _ _ _).quietThen fun _ _ checked => ?_
          obtain ⟨bounded, _⟩ := (ends.checkBound capped _ _ _ _ _ bounded).of_ok checked
          exact all.checkLoop_succ capped sits start (.written checked) bounded
  | function name parameters body =>
      intro after leaves
      cases leaves
      simp [State.declare, State.bind, State.functionPlaces, Stmt.functionPlaces]
  | giveBack keyword value =>
      refine (Adds.ok rfl).quietThen fun _ _ here => ?_
      cases here
      dsimp only
      split
      · exact .throw _
      · have ends : ∀ (type : Ty) (state : State), Adds [] state
            ((do
              modify fun state => state.addReturn type keyword
              return Ty.unit : Check Ty) state) := fun type state =>
          (Adds.ok (state.functions_addReturn type keyword)).quietThen fun _ _ _ => .ok rfl
        cases value with
        | none => exact ends .unit state
        | some value => exact (quiet.typeOf _ _ _).quietThen fun type middle _ => ends type middle

theorem checkAll_succ (all : AllAdd limit size fuel) (capped : Capped limit running)
    {place : Place} {step : Nat} {stmts : List Stmt}
    (sits : (⟨fuel + 1, frame, state, .statements place step stmts⟩ : Visit).Sits limit size
      running) :
    Adds (Stmt.functionPlacesFrom place step stmts) state
      (Check.checkAll (fuel + 1) frame place step stmts state) := by
  cases stmts with
  | nil => exact .ok rfl
  | cons stmt stmts =>
      have first := (all.checkStmt capped (Visit.Calls.first.sits capped sits)).reporting
      exact first.bind fun _ _ checked =>
        all.checkAll capped ((Visit.Calls.others checked).sits capped sits)

theorem checkBlock_succ (all : AllAdd limit size fuel) (capped : Capped limit running)
    {place : Place} {body : Block}
    (sits : (⟨fuel + 1, frame, state, .block place body⟩ : Visit).Sits limit size running) :
    Adds (body.functionPlaces place) state
      (Check.checkBlock (fuel + 1) frame place body state) := by
  obtain ⟨brace, statements, tail⟩ := body
  refine (Adds.ok rfl).quietThen fun _ _ nests => ?_
  cases nests
  refine (all.checkAll capped (Visit.Calls.blockStatements.sits capped sits)).thenQuiet
    fun _ middle checked => ?_
  cases tail with
  | none => exact .ok rfl
  | some tail =>
      have bounded := ((Visit.Calls.blockTail checked).sits capped sits).bounded
      refine ((bounded.quiet capped fuel).typeOf _ _ _).reporting.quietThen fun found _ _ => ?_
      cases found with
      | none => exact .throw _
      | some type => exact .ok rfl

end AllAdd

theorem allAdd (limit size fuel : Nat) : AllAdd limit size fuel := by
  induction fuel with
  | zero => constructor <;> intros <;> intro _ leaves <;> cases leaves
  | succ fuel all =>
      exact
        { checkStmt := fun capped => all.checkStmt_succ capped
          checkAll := fun capped => all.checkAll_succ capped
          checkBlock := fun capped => all.checkBlock_succ capped }

/-- The places of the functions that have been made at a visit, and of those that the task
declares. -/
def Visit.functionPlaces (visit : Visit) : List Place :=
  visit.state.functionPlaces ++ visit.task.functionPlaces

theorem StepChecked.adds {place : Place} {token : Token} {step : Option Expr} {after : State}
    (checked : StepChecked fuel frame place token step state after) (capped : Capped limit running)
    (bounded : state.Bounded limit size running) :
    after.functionPlaces.Sublist (state.functionPlaces ++ []) := by
  cases checked with
  | absent => exact List.sublist_append_left _ _
  | written equation => exact ((bounded.quiet capped fuel).checkBound _ _ _ _).of_eq_ok equation

/-- A part of a task declares only what the task declares. -/
theorem Visit.Calls.functionPlaces {visit called : Visit} (calls : visit.Calls called)
    (capped : Capped limit running) (sits : visit.Sits limit size running) :
    called.functionPlaces.Sublist visit.functionPlaces := by
  have onward : ∀ {middle state : State} {early : List Place} (late : List Place),
      middle.functionPlaces.Sublist (state.functionPlaces ++ early) →
      (middle.functionPlaces ++ late).Sublist (state.functionPlaces ++ (early ++ late)) := by
    intro middle state early late adds
    rw [← List.append_assoc]
    exact adds.append_right late
  have bounded := sits.bounded
  have ends := fun fuel => allEnd limit size fuel
  have all := fun fuel => allAdd limit size fuel
  have quiet := fun fuel => bounded.quiet capped fuel
  cases calls with
  | assigned | inner | items | operand | left | logicalLeft | callee | item | value | initializer
  | ifCondition | elseCondition | whileCondition | forStart | returned =>
      exact List.Sublist.append_left (List.nil_sublist _) _
  | right typed | logicalRight typed | arguments typed | otherItems typed =>
      exact onward [] (((quiet _).typeOf _ _ _).of_eq_ok typed)
  | block | blockStatements => exact List.Sublist.refl _
  | first => exact List.Sublist.append_left (List.sublist_append_left _ _) _
  | ifConsequent tested | whileBody tested =>
      exact onward _ (((quiet _).checkCondition _ _ _ _).of_eq_ok tested)
  | elseConsequent tested =>
      refine (onward _ (((quiet _).checkCondition _ _ _ _).of_eq_ok tested)).trans ?_
      exact List.Sublist.append_left (List.sublist_append_left _ _) _
  | alternative tested checked =>
      have first := ((quiet _).checkCondition _ _ _ _).of_eq_ok tested
      have consequent := ((all _).checkBlock capped
        ((Visit.Calls.elseConsequent tested).sits capped sits)).of_eq_ok checked
      exact onward _ (consequent.trans (onward _ first))
  | forStep start _ =>
      refine (onward [] (((quiet _).checkBound _ _ _ _).of_eq_ok start)).trans ?_
      exact List.Sublist.append_left (List.nil_sublist _) _
  | forStop start checked =>
      have first := ((quiet _).checkBound _ _ _ _).of_eq_ok start
      obtain ⟨bounded, _⟩ := ((ends _).checkBound capped _ _ _ _ _ bounded).of_ok start
      have second := (checked.adds capped bounded).trans (onward [] first)
      exact (onward [] second).trans (List.Sublist.append_left (List.nil_sublist _) _)
  | @forBody _ _ _ _ after last _ _ _ _ start checked stop =>
      have first := ((quiet _).checkBound _ _ _ _).of_eq_ok start
      obtain ⟨bounded, _⟩ := ((ends _).checkBound capped _ _ _ _ _ bounded).of_ok start
      have second := (checked.adds capped bounded).trans (onward [] first)
      obtain ⟨bounded, _⟩ := checked.bounded capped bounded
      have third := ((bounded.quiet capped _).checkBound _ _ _ _).of_eq_ok stop
      exact onward _ (third.trans (onward [] second))
  | @blockTail _ _ _ middle _ _ _ _ checked =>
      have statements := ((all _).checkAll capped
        (Visit.Calls.blockStatements.sits capped sits)).of_eq_ok checked
      change (middle.functionPlaces ++ []).Sublist _
      rw [List.append_nil]
      exact statements
  | others checked =>
      have first := ((all _).checkStmt capped (Visit.Calls.first.sits capped sits)).reporting
      exact onward _ (first.of_eq_ok checked)

/-- The body of a function of a flat program declares nothing. -/
theorem BodyVisit.functionPlaces {identifier : Nat} {arguments : List Ty} {inside : Visit}
    (inBody : BodyVisit fuel state identifier arguments inside) (capped : Capped limit running)
    (bounded : state.Bounded limit size running)
    (stands : Capped state.functions.size state.running) :
    inside.functionPlaces.Sublist state.functionPlaces := by
  obtain ⟨deeper, fits⟩ := inBody.fits capped bounded
  have sits : inside.Sits limit size (identifier :: running) := ⟨fits, inBody.stands stands⟩
  have none : ∀ {function : DeclaredFunction}, state.Opens identifier arguments function →
      Stmt.functionPlacesFrom function.place 0 function.body.statements = [] := by
    intro function opens
    obtain ⟨plain, _⟩ := bounded.bodies identifier function opens.found
    have empty := function.body.functionPlaces_of_isPlain function.place plain
    generalize function.body = body at empty ⊢
    cases body
    exact empty
  cases inBody with
  | statements opens =>
      rw [Visit.functionPlaces, Task.functionPlaces, none opens, List.append_nil]
      exact List.Sublist.refl _
  | @tail function middle tail opens checked written =>
      have start : (⟨fuel, state.next, state.begun function identifier arguments,
          .statements function.place 0 function.body.statements⟩ : Visit).Sits limit size
            (identifier :: running) :=
        ⟨((BodyVisit.statements opens).fits capped bounded).2,
          (BodyVisit.statements opens).stands stands⟩
      have adds := ((allAdd limit size fuel).checkAll deeper start).of_eq_ok checked
      rw [none opens, List.append_nil] at adds
      rw [Visit.functionPlaces, Task.functionPlaces, List.append_nil]
      exact adds

end Sits

section Program

variable {natives : Bindings Signature} {bound : Nat} {program : Program}

theorem Reaches.sits {visit : Visit} (flat : Stmt.areFlat program = true)
    (reaches : Reaches natives bound program visit) :
    ∃ running, Capped (Stmt.functionCounts program) running ∧
      visit.Sits (Stmt.functionCounts program) (sizeOf program) running := by
  obtain ⟨running, capped, fits⟩ := reaches.fits flat
  exact ⟨running, capped, fits, reaches.stands⟩

/-- The functions that are made by the check of statements of a flat program stand at places
where the statements declare some. -/
theorem adds_checkStatements {limit size fuel : Nat} {frame : FrameId} {place : Place}
    {step : Nat} {last : Ty} {stmts : List Stmt} {state : State}
    (sits : (⟨fuel + 1, frame, state, .statements place step stmts⟩ : Visit).Sits limit size []) :
    Adds (Stmt.functionPlacesFrom place step stmts) state
      (checkStatements fuel frame place step last stmts state) := by
  induction stmts generalizing step last state with
  | nil => exact .ok rfl
  | cons stmt stmts inductionHypothesis =>
      have capped : Capped limit [] := .nil limit
      have first := (allAdd limit size fuel).checkStmt capped (Visit.Calls.first.sits capped sits)
      refine first.reporting.bind fun _ _ checked => ?_
      have others := (Visit.Calls.others checked).sits capped sits
      exact inductionHypothesis ⟨⟨others.bounded, others.flat, others.few⟩, others.stands⟩

/-- The check of a flat program, before its first statement. -/
theorem sits_start (flat : Stmt.areFlat program = true) {before after : List Stmt}
    (split : program = before ++ after) :
    (⟨bound + 1, 0, State.start natives, .statements (.root 0) 0 before⟩ : Visit).Sits
      (Stmt.functionCounts program) (sizeOf program) [] := by
  subst split
  rw [Stmt.areFlat_append, Bool.and_eq_true_iff] at flat
  have few : Stmt.functionCounts before ≤ Stmt.functionCounts (before ++ after) := by
    rw [Stmt.functionCounts_append]
    exact Nat.le_add_right _ _
  exact
    { bounded := bounded_start _ _ natives
      flat := ⟨flat.1, Stmt.sizeOf_le_append before after⟩
      few := (Nat.zero_add _).trans_le few
      stands := stands_start natives }

theorem Uncalled.functionPlaces {fuel identifier : Nat} {state : State}
    (flat : Stmt.areFlat program = true)
    (uncalled : Uncalled natives bound program fuel identifier state) :
    state.functionPlaces.Sublist (Stmt.functionPlacesFrom (.root 0) 0 program) := by
  induction uncalled with
  | start checked =>
      exact (adds_checkStatements (sits_start flat (List.append_nil program).symm)).of_eq_ok checked
  | reached _ _ _ inductionHypothesis => exact inductionHypothesis
  | checked uncalled _ _ checked inductionHypothesis =>
      have quiet := (uncalled.bounded flat).quiet (.nil _)
      have adds := ((quiet _).instantiate _ _ _ _).reporting.of_eq_ok checked
      rw [List.append_nil] at adds
      exact adds.trans inductionHypothesis

/-- The functions that the check of a flat program makes have different places, and those that
are still to be declared have other ones. -/
theorem Reaches.functionPlaces {visit : Visit} (flat : Stmt.areFlat program = true)
    (reaches : Reaches natives bound program visit) :
    visit.functionPlaces.Sublist (Stmt.functionPlacesFrom (.root 0) 0 program) := by
  induction reaches with
  | @top before after stmt type state split equation =>
      have adds := (adds_checkStatements (sits_start flat split)).of_eq_ok equation
      subst split
      rw [Stmt.functionPlacesFrom_append, Stmt.functionPlacesFrom, Nat.zero_add]
      refine List.Sublist.append adds ?_
      exact List.sublist_append_left _ _
  | part reaches calls inductionHypothesis =>
      obtain ⟨running, capped, sits⟩ := reaches.sits flat
      exact (calls.functionPlaces capped sits).trans inductionHypothesis
  | call reaches callee arguments _ inside inductionHypothesis =>
      obtain ⟨running, capped, sits⟩ := reaches.sits flat
      have quiet := sits.bounded.quiet capped
      have first := ((quiet _).typeOf _ _ _).of_eq_ok callee
      obtain ⟨bounded, _⟩ := ((allEnd _ _ _).typeOf capped _ _ _ _ sits.bounded).of_ok callee
      have second := ((bounded.quiet capped _).typesOf _ _ _ _).of_eq_ok arguments
      obtain ⟨bounded, _⟩ := ((allEnd _ _ _).typesOf capped _ _ _ _ _ bounded).of_ok arguments
      have stands := (((allKeep _).typeOf _ _ _ _).effect callee).stands sits.stands
      have stands := (((allKeep _).typesOf _ _ _ _ _).effect arguments).stands stands
      rw [List.append_nil] at first second
      have inBody := inside.functionPlaces capped bounded stands.capped
      exact (inBody.trans (second.trans first)).trans
        ((List.sublist_append_left _ _).trans inductionHypothesis)
  | uncalled uncalled _ _ inside =>
      have inBody := inside.functionPlaces (.nil _) (uncalled.bounded flat) uncalled.stands.capped
      exact inBody.trans (uncalled.functionPlaces flat)

end Program

/-- How many bodies that stand at a place are in progress, of whichever functions. -/
def State.nestingAt (state : State) (place : Place) : Nat :=
  state.activations.countP fun activation =>
    state.functions[activation.function]?.map (·.place) = some place

/-- Functions with bodies at different places share the bound on the bodies in progress with
no other function. -/
theorem State.nestingAt_le {state : State} (different : state.functionPlaces.Nodup)
    (few : ∀ identifier, state.running.count identifier ≤ nestingLimit) (place : Place) :
    state.nestingAt place ≤ nestingLimit := by
  by_cases member : place ∈ state.functionPlaces
  · obtain ⟨identifier, found⟩ := List.mem_iff_getElem?.1 member
    have only : ∀ other, state.functions[other]?.map (·.place) = some place →
        other = identifier := by
      intro other same
      rw [← state.getElem?_functionPlaces, ← found] at same
      have present : identifier < state.functionPlaces.length :=
        (List.getElem?_eq_some_iff.1 found).1
      exact ((List.getElem?_inj present different).1 same.symm).symm
    calc state.nestingAt place
        ≤ state.activations.countP fun activation => activation.function = identifier := by
          refine List.countP_mono_left fun activation _ same => ?_
          exact decide_eq_true (only activation.function (of_decide_eq_true same))
      _ = state.running.count identifier := by
          rw [State.running, List.count, List.countP_map]
          rfl
      _ ≤ nestingLimit := few identifier
  · have none : state.nestingAt place = 0 := by
      refine List.countP_eq_zero.2 fun activation _ same => member ?_
      have found := of_decide_eq_true same
      rw [← state.getElem?_functionPlaces] at found
      exact List.mem_of_getElem? found
    rw [none]
    exact Nat.zero_le _

/-- If no function is declared in the body of another one, the bound on the bodies in progress
is one for each declaration, so the nesting of bodies is bounded, and the check ends. -/
theorem nesting_of_flat_is_bounded {program : Program} (flat : Stmt.areFlat program = true)
    (natives : Bindings Signature) :
    (∀ bound, ∀ visit ∈ visits natives bound program,
      (∀ place, visit.state.nestingAt place ≤ nestingLimit) ∧
      (∀ identifier, visit.state.running.count identifier ≤ nestingLimit) ∧
      visit.state.functions.size ≤ Stmt.functionCounts program ∧
      visit.state.running.length ≤ nestingLimit * Stmt.functionCounts program) ∧
    ∃ bound, (({} : State).check bound natives program).1 ≠ .exhausted ∧
      ∀ fuel ≥ bound, ({} : State).check fuel natives program =
        ({} : State).check bound natives program := by
  constructor
  · intro bound visit member
    have reaches := reaches_of_mem_visits member
    obtain ⟨running, _, fits⟩ := reaches.fits flat
    obtain ⟨few, nesting⟩ := reaches.nesting_le
    have declared := (List.sublist_append_left _ _).trans (reaches.functionPlaces flat)
    have different := declared.nodup (Stmt.nodup_functionPlacesFrom _ _ program)
    exact ⟨visit.state.nestingAt_le different few, few, fits.bounded.functions,
      Nat.le_trans nesting (Nat.mul_le_mul_left _ fits.bounded.functions)⟩
  · exact State.check_flat flat natives

/-- The program `fun f(n) { f((n, "a")) } f("a");`, in which every call of the function has
an argument of a new type. -/
def recursion : Program :=
  let word (lexeme : String) (column : Nat) : Token :=
    { kind := .identifier, lexeme := lexeme, position := ⟨0, column⟩ }
  let sign (symbol : Symbol) (column : Nat) : Token :=
    { kind := .symbol symbol, lexeme := symbol.spelling, position := ⟨0, column⟩ }
  let text (column : Nat) : Expr :=
    .literal (.text "a")
      { kind := .text, lexeme := "\"a\"", position := ⟨0, column⟩, payload := some (.text "a") }
  [.function (word "f" 4) [word "n" 6] (.mk (sign .leftBrace 9) []
      (some (.call (.reference (word "f" 11)) (sign .rightParen 21)
        [.tuple [.reference (word "n" 14), text 17]]))),
    .expression (.call (.reference (word "f" 25)) (sign .rightParen 30) [text 27])]

/-- As many bodies of the function are in progress as may be, and no more. -/
theorem nesting_of_flat_is_bounded_recursion :
    (∃ visit ∈ visits [] 120 recursion,
      visit.state.nestingAt (((Place.root 0).child 0).child 0) = nestingLimit ∧
      visit.state.nestingAt (((Place.root 0).child 0).child 0) ≤ nestingLimit ∧
      visit.state.running.length ≤ nestingLimit * 1) ∧
    ∃ bound, (({} : State).check bound [] recursion).1 ≠ .exhausted := by
  have flat : Stmt.areFlat recursion = true := rfl
  obtain ⟨nesting, bound, ended, _⟩ := nesting_of_flat_is_bounded flat []
  have full : (visits [] 120 recursion).any (fun visit =>
      visit.state.nestingAt (((Place.root 0).child 0).child 0) = nestingLimit) = true := by
    decide +kernel
  obtain ⟨visit, member, attained⟩ := List.any_eq_true.1 full
  obtain ⟨few, _, _, short⟩ := nesting 120 visit member
  exact ⟨⟨visit, member, of_decide_eq_true attained, few _, short⟩, bound, ended⟩

end Typing

end CheckedScript
