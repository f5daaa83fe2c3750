import CheckedScript.Proofs.Reader.Sentences
import CheckedScript.Proofs.Walks.Agreement
import CheckedScript.Proofs.Walks.CheckTurns
import CheckedScript.Proofs.Walks.Libraries
import CheckedScript.Proofs.Walks.Turns

/-!
# Recorded types are the types of the values

Every part of a program without functions that a run turns to has been turned to
by the check, and the frames of both agree there.  That is kept up by every step
of the walk of a run: a step goes on from what the parts before have left behind,
which agrees with the check again.
-/

namespace CheckedScript

open Typing Evaluation Eval

section Matches

variable (library : List Native) (natives : Bindings Signature) (bound : Nat) (program : Program)
  (final : State)

/-- What a run turns to has been checked, and the frames agree there. -/
def Evaluation.Visit.Matches (visit : Evaluation.Visit) : Prop :=
  match visit.task with
  | .expression place expr => ∃ other type before after,
      ExprChecked natives bound program final other place expr type before after ∧
        Agrees library visit.machine visit.frame before other
  | .expressions place step exprs => ∃ other types before after,
      ExprsChecked natives bound program final other place step exprs types before after ∧
        Agrees library visit.machine visit.frame before other
  | .call callee arguments => ∃ calleeType argumentTypes result,
      Belongs library callee calleeType ∧ BelongAll library arguments argumentTypes ∧
        CallTyped calleeType argumentTypes result
  | .statement place stmt => ∃ other type before after,
      StmtChecked natives bound program final other place stmt type before after ∧
        stmt.isShaped = true ∧ Agrees library visit.machine visit.frame before other
  | .statements place step stmts => ∃ other before after,
      StmtsChecked natives bound program final other place step stmts before after ∧
        Stmt.areShaped stmts = true ∧ Agrees library visit.machine visit.frame before other
  | .body place body => ∃ other type before after,
      BlockChecked natives bound program final other place body type before after ∧
        body.isShaped = true ∧
        Agrees library visit.machine visit.frame (before.nested other) before.next
  | .block place body => ∃ other type before after,
      BlockChecked natives bound program final other place body type before after ∧
        body.isShaped = true ∧ Agrees library visit.machine visit.frame before other
  | .whileLoop place _ condition body => ∃ other found type before middle after,
      ExprChecked natives bound program final other (place.child 0) condition found before
        middle ∧
      BlockChecked natives bound program final other (place.child 1) body type middle after ∧
        body.isShaped = true ∧ Agrees library visit.machine visit.frame before other
  | .forLoop place name _ _ body => ∃ other type state after,
      BlockChecked natives bound program final state.next (place.child 3) body type
        (state.turn other name) after ∧
      state.WellFormed ∧ other < state.scopes.frames.size ∧
        body.isShaped = true ∧ Agrees library visit.machine visit.frame state other

end Matches

section Steps

variable {library : List Native} {natives : Bindings Signature} {bound : Nat} {program : Program}
  {final : State} (keepTypes : Native.KeepTypes library)

include keepTypes

/-- From an expression a run turns to its parts. -/
theorem matches_of_expression {fuel : Nat} {frame : FrameId} {machine : Machine} {place : Place}
    {expr : Expr} {called : Evaluation.Visit}
    (matched : Evaluation.Visit.Matches library natives bound program final
      ⟨fuel, frame, machine, .expression place expr⟩)
    (calls : Evaluation.Visit.Calls library
      ⟨fuel, frame, machine, .expression place expr⟩ called) :
    called.Matches library natives bound program final := by
  obtain ⟨other, type, before, after, checked, agrees⟩ := matched
  have settle := allSettle keepTypes natives bound program final
  cases calls with
  | assigned =>
      obtain ⟨found, middle, checkedValue, _⟩ := checked.assign
      exact ⟨other, found, before, middle, checkedValue, agrees⟩
  | inner =>
      obtain ⟨last, checkedInner⟩ := checked.group
      exact ⟨other, type, before, last, checkedInner, agrees⟩
  | items =>
      obtain ⟨types, last, _, checkedItems⟩ := checked.tuple
      exact ⟨other, types, before, last, checkedItems, agrees⟩
  | operand =>
      obtain ⟨found, last, checkedOperand, _⟩ := checked.unary
      exact ⟨other, found, before, last, checkedOperand, agrees⟩
  | left =>
      obtain ⟨leftType, _, middle, _, checkedLeft, _⟩ := checked.binary
      exact ⟨other, leftType, before, middle, checkedLeft, agrees⟩
  | right evaluated =>
      obtain ⟨_, rightType, middle, last, checkedLeft, checkedRight, _⟩ := checked.binary
      have settled := (settle _).evaluate checkedLeft agrees evaluated
      exact ⟨other, rightType, middle, last, checkedRight,
        settled.agrees.transfer checkedLeft.sameView⟩
  | logicalLeft =>
      obtain ⟨leftType, _, middle, _, checkedLeft, _⟩ := checked.logical
      exact ⟨other, leftType, before, middle, checkedLeft, agrees⟩
  | logicalRight evaluated =>
      obtain ⟨_, rightType, middle, last, checkedLeft, checkedRight, _⟩ := checked.logical
      have settled := (settle _).evaluate checkedLeft agrees evaluated
      exact ⟨other, rightType, middle, last, checkedRight,
        settled.agrees.transfer checkedLeft.sameView⟩
  | callee =>
      obtain ⟨calleeType, _, middle, _, checkedCallee, _⟩ := checked.call
      exact ⟨other, calleeType, before, middle, checkedCallee, agrees⟩
  | arguments evaluated =>
      obtain ⟨_, argumentTypes, middle, last, checkedCallee, checkedArguments, _⟩ := checked.call
      have settled := (settle _).evaluate checkedCallee agrees evaluated
      exact ⟨other, argumentTypes, middle, last, checkedArguments,
        settled.agrees.transfer checkedCallee.sameView⟩
  | call evaluated evaluatedAll =>
      obtain ⟨calleeType, argumentTypes, middle, last, checkedCallee, checkedArguments, typed⟩ :=
        checked.call
      have settled := (settle _).evaluate checkedCallee agrees evaluated
      obtain ⟨belong, _⟩ := (settle _).evaluateAll checkedArguments
        (settled.agrees.transfer checkedCallee.sameView) evaluatedAll
      exact ⟨calleeType, argumentTypes, type, settled.belongs, belong, typed⟩

theorem matches_of_expressions {fuel : Nat} {frame : FrameId} {machine : Machine} {place : Place}
    {step : Nat} {exprs : List Expr} {called : Evaluation.Visit}
    (matched : Evaluation.Visit.Matches library natives bound program final
      ⟨fuel, frame, machine, .expressions place step exprs⟩)
    (calls : Evaluation.Visit.Calls library
      ⟨fuel, frame, machine, .expressions place step exprs⟩ called) :
    called.Matches library natives bound program final := by
  obtain ⟨other, types, before, after, checked, agrees⟩ := matched
  cases calls with
  | item =>
      obtain ⟨first, _, middle, _, _, checkedFirst, _⟩ := checked.cons
      exact ⟨other, first, before, middle, checkedFirst, agrees⟩
  | otherItems evaluated =>
      obtain ⟨_, others, middle, last, _, checkedFirst, checkedOthers⟩ := checked.cons
      have settled :=
        (allSettle keepTypes natives bound program final _).evaluate checkedFirst agrees evaluated
      exact ⟨other, others, middle, last, checkedOthers,
        settled.agrees.transfer checkedFirst.sameView⟩

/-- From a statement a run turns to its parts. -/
theorem matches_of_statement {fuel : Nat} {frame : FrameId} {machine : Machine} {place : Place}
    {stmt : Stmt} {called : Evaluation.Visit}
    (matched : Evaluation.Visit.Matches library natives bound program final
      ⟨fuel, frame, machine, .statement place stmt⟩)
    (calls : Evaluation.Visit.Calls library
      ⟨fuel, frame, machine, .statement place stmt⟩ called) :
    called.Matches library natives bound program final := by
  obtain ⟨other, type, before, after, checked, shaped, agrees⟩ := matched
  have settle := allSettle keepTypes natives bound program final
  cases calls with
  | value => exact ⟨other, type, before, after, checked.expression, agrees⟩
  | initializer =>
      obtain ⟨_, found, _, middle, checkedValue, _⟩ := checked.letValue
      exact ⟨other, found, before, middle, checkedValue, agrees⟩
  | block => exact ⟨other, type, before, after, checked.block, shaped, agrees⟩
  | ifCondition =>
      obtain ⟨_, found, _, middle, checkedCondition, _⟩ := checked.ifThen
      exact ⟨other, found, before, middle, checkedCondition, agrees⟩
  | ifConsequent evaluated =>
      obtain ⟨_, _, value, middle, checkedCondition, _, checkedBody⟩ := checked.ifThen
      have settled := (settle _).evaluate checkedCondition agrees evaluated
      exact ⟨other, value, middle, after, checkedBody, shaped,
        settled.agrees.transfer checkedCondition.sameView⟩
  | elseCondition =>
      obtain ⟨_, found, _, _, middle, _, checkedCondition, _⟩ := checked.ifElse
      exact ⟨other, found, before, middle, checkedCondition, agrees⟩
  | elseConsequent evaluated =>
      simp only [Stmt.isShaped, Bool.and_eq_true] at shaped
      obtain ⟨_, _, value, _, middle, last, checkedCondition, _, checkedBody, _⟩ := checked.ifElse
      have settled := (settle _).evaluate checkedCondition agrees evaluated
      exact ⟨other, value, middle, last, checkedBody, shaped.1.1,
        settled.agrees.transfer checkedCondition.sameView⟩
  | alternative evaluated =>
      simp only [Stmt.isShaped, Bool.and_eq_true] at shaped
      obtain ⟨_, _, _, value, middle, last, checkedCondition, _, checkedBody, checkedOther⟩ :=
        checked.ifElse
      have settled := (settle _).evaluate checkedCondition agrees evaluated
      exact ⟨other, value, last, after, checkedOther, shaped.1.2,
        (settled.agrees.transfer checkedCondition.sameView).transfer checkedBody.sameView⟩
  | whileLoop =>
      obtain ⟨_, found, value, middle, checkedCondition, _, checkedBody⟩ := checked.whileLoop
      exact ⟨other, found, value, before, middle, after, checkedCondition, checkedBody, shaped,
        agrees⟩
  | forStart =>
      obtain ⟨_, first, _, _, _, ⟨found, checkedStart, _⟩, _⟩ := checked.forLoop
      exact ⟨other, found, before, first, checkedStart, agrees⟩
  | forStep startValue written =>
      obtain ⟨_, first, second, _, _, ⟨_, checkedStart, _⟩, checkedStep, _⟩ := checked.forLoop
      rw [written] at checkedStep
      have settled := (settle _).evaluate checkedStart agrees startValue
      cases checkedStep with
      | written checkedStep =>
          obtain ⟨found, checkedStep, _⟩ := checkedStep
          exact ⟨other, found, first, second, checkedStep,
            settled.agrees.transfer checkedStart.sameView⟩
  | forStop startValue stepValue =>
      obtain ⟨_, first, second, third, _, ⟨_, checkedStart, _⟩, checkedStep,
        ⟨found, checkedStop, _⟩, _⟩ := checked.forLoop
      have settled := (settle _).evaluate checkedStart agrees startValue
      obtain ⟨_, agreesStep⟩ := (settle _).stepValue checkedStep
        (settled.agrees.transfer checkedStart.sameView) stepValue
      exact ⟨other, found, second, third, checkedStop, agreesStep⟩
  | forLoop startValue stepValue stopValue ranged =>
      obtain ⟨_, _, _, third, value, checkedStart, checkedStep, checkedStop, checkedBody⟩ :=
        checked.forLoop
      obtain ⟨_, agreesThird⟩ := (settle _).bounds checkedStart checkedStep checkedStop agrees
        startValue stepValue stopValue
      obtain ⟨_, checkedStop, _⟩ := checkedStop
      obtain ⟨wellFormed, present⟩ := checkedStop.leaves
      exact ⟨other, value, third, after, checkedBody, wellFormed, present, shaped, agreesThird⟩
  | returned =>
      obtain ⟨found, last, checkedValue⟩ := checked.giveBack
      exact ⟨other, found, before, last, checkedValue, agrees⟩

/-- One step of the walk of a run keeps up with the check. -/
theorem Evaluation.Visit.Matches.call {visit called : Evaluation.Visit}
    (matched : visit.Matches library natives bound program final)
    (calls : visit.Calls library called) : called.Matches library natives bound program final := by
  have settle := allSettle keepTypes natives bound program final
  obtain ⟨fuel, frame, machine, task⟩ := visit
  cases task with
  | expression place expr => exact matches_of_expression keepTypes matched calls
  | expressions place step exprs => exact matches_of_expressions keepTypes matched calls
  | call callee arguments => cases calls
  | statement place stmt => exact matches_of_statement keepTypes matched calls
  | statements place step stmts =>
      obtain ⟨other, before, after, checked, shaped, agrees⟩ := matched
      cases calls with
      | first =>
          obtain ⟨type, middle, checkedFirst, _⟩ := checked.cons
          exact ⟨other, type, before, middle, checkedFirst, (Bool.and_eq_true_iff.1 shaped).1,
            agrees⟩
      | others executed =>
          obtain ⟨shapedFirst, shapedRest⟩ := Bool.and_eq_true_iff.1 shaped
          obtain ⟨_, middle, checkedFirst, checkedRest⟩ := checked.cons
          have settled := (settle _).execute checkedFirst shapedFirst agrees executed
          exact ⟨other, middle, after, checkedRest, shapedRest, settled.agrees⟩
  | body place body =>
      obtain ⟨other, type, before, after, checked, shaped, agrees⟩ := matched
      cases calls with
      | bodyStatements =>
          obtain ⟨middle, checkedStatements, _⟩ := checked.parts
          exact ⟨before.next, before.nested other, middle, checkedStatements, shaped, agrees⟩
      | bodyTail executed =>
          obtain ⟨middle, checkedStatements, checkedTail⟩ := checked.parts
          obtain ⟨_, agreesMiddle⟩ :=
            (settle _).executeAll checkedStatements shaped agrees executed
          exact ⟨before.next, type, middle, after, checkedTail, agreesMiddle⟩
  | block place body =>
      obtain ⟨other, type, before, after, checked, shaped, agrees⟩ := matched
      cases calls with
      | body =>
          exact ⟨other, type, before, after, checked, shaped,
            agrees.nested checked.within.wellFormed checked.within.present⟩
  | whileLoop place keyword condition body =>
      obtain ⟨other, found, type, before, middle, after, checkedCondition, checkedBody, shaped,
        agrees⟩ := matched
      cases calls with
      | whileCondition => exact ⟨other, found, before, middle, checkedCondition, agrees⟩
      | whileBody evaluated =>
          have settled := (settle _).evaluate checkedCondition agrees evaluated
          exact ⟨other, type, middle, after, checkedBody, shaped,
            settled.agrees.transfer checkedCondition.sameView⟩
      | whileAgain evaluated executed =>
          obtain ⟨_, agreesLater⟩ :=
            (settle _).guarded checkedCondition checkedBody shaped agrees evaluated executed
          exact ⟨other, found, type, before, middle, after, checkedCondition, checkedBody, shaped,
            agreesLater⟩
  | forLoop place name range index body =>
      obtain ⟨other, type, state, after, checked, wellFormed, present, shaped, agrees⟩ := matched
      cases calls with
      | forBody item =>
          exact ⟨state.next, type, state.turn other name, after, checked, shaped,
            agrees.turn wellFormed present name _⟩
      | forAgain item executed =>
          obtain ⟨_, agreesLater⟩ :=
            (settle _).turn checked wellFormed present shaped agrees executed
          exact ⟨other, type, state, after, checked, wellFormed, present, shaped, agreesLater⟩

end Steps

section Top

variable (natives : Bindings Signature) (bound : Nat) (program : Program) (final : State)

/-- A check that ends in a given state without diagnostics has come to the
statements that are left of the program. -/
structure Reached (type : Ty) (done left : List Stmt) (last : Ty) (state : State) : Prop where
  split : program = done ++ left
  plain : Stmt.arePlain left = true
  checked : Check.checkStatements bound 0 (Place.root 0) 0 .unit done (State.start natives) =
    .ok last state
  remaining : Check.checkStatements bound 0 (Place.root 0) done.length last left state =
    .ok type final
  clean : final.diagnostics = []
  functions : state.functions = #[]
  wellFormed : state.WellFormed
  present : 0 < state.scopes.frames.size

end Top

section TopSteps

variable {natives : Bindings Signature} {bound : Nat} {program : Program} {final : State}
  {type last : Ty} {done left : List Stmt} {state : State}

/-- The next statement of the program has been checked. -/
theorem Reached.step {stmt : Stmt}
    (reached : Reached natives bound program final type done (stmt :: left) last state) :
    ∃ found next,
      StmtChecked natives bound program final 0 ((Place.root 0).child done.length) stmt found
        state next ∧
      Reached natives bound program final type (done ++ [stmt]) left found next := by
  obtain ⟨plainFirst, plainRest⟩ := Bool.and_eq_true_iff.1 reached.plain
  have remaining := reached.remaining
  rw [Check.checkStatements] at remaining
  obtain ⟨result, next, reported, rest⟩ := bind_eq_ok remaining
  have keeps := (Check.allKeep bound).checkStmt 0 ((Place.root 0).child done.length) stmt state
    reached.present
  have presentNext := Nat.lt_of_lt_of_le reached.present
    (keeps.reporting.effect reported).grown.size
  have restEffect := Check.checkStatements_effect presentNext rest
  have clean : next.diagnostics = [] :=
    List.prefix_nil.1 (reached.clean ▸ restEffect.diagnostics)
  obtain ⟨found, rfl, checked⟩ := Check.reporting_eq_ok keeps reported clean
  have effect := keeps.effect checked
  have noFirst : ¬ (Footprint.statement 0 ((Place.root 0).child done.length) stmt).declares := by
    simp [Footprint.statement, plainFirst]
  have noRest : ¬ (Footprint.statements 0 (Place.root 0) (done.length + 1) left).declares := by
    simp [Footprint.statements, plainRest]
  have functions := (effect.notes reached.functions noFirst).1
  refine ⟨found, next, ⟨⟨bound, .top reached.split reached.checked, checked⟩, ?_, plainFirst⟩, ?_⟩
  · refine ⟨clean, reached.functions, reached.wellFormed, reached.present, fun place below => ?_⟩
    refine (restEffect.notes functions noRest).2 place ?_
    rintro ⟨child, above, besides⟩
    have same := below.child_inj besides
    omega
  · exact
      { split := by rw [reached.split, List.append_assoc, List.singleton_append]
        plain := plainRest
        checked := by
          rw [← Nat.zero_add done.length] at reported
          exact checkStatements_append reached.checked reported
        remaining := by
          rw [List.length_append, List.length_singleton]
          exact rest
        clean := reached.clean
        functions := functions
        wellFormed := effect.wellFormed reached.wellFormed
        present := presentNext }

/-- A run of statements of the program keeps up with the check. -/
theorem Reached.run {library : List Native} (keepTypes : Native.KeepTypes library)
    {stmts : List Stmt} {fuel : Nat} {value given : Value} {machine later : Machine}
    (reached : Reached natives bound program final type done (stmts ++ left) last state)
    (shaped : Stmt.areShaped stmts = true) (belongs : Belongs library value last)
    (agrees : Agrees library machine Machine.root state 0)
    (equation : executeProgram library fuel Machine.root value stmts machine = .ok given later) :
    ∃ found next, Reached natives bound program final type (done ++ stmts) left found next ∧
      Belongs library given found ∧ Agrees library later Machine.root next 0 := by
  induction stmts generalizing done last state value machine with
  | nil =>
      obtain ⟨rfl, rfl⟩ := pure_eq_ok equation
      rw [List.append_nil]
      exact ⟨last, state, reached, belongs, agrees⟩
  | cons stmt stmts inductionHypothesis =>
      obtain ⟨shapedFirst, shapedRest⟩ := Bool.and_eq_true_iff.1 shaped
      obtain ⟨found, next, checked, reachedNext⟩ := reached.step
      rw [executeProgram] at equation
      obtain ⟨first, middle, executed, rest⟩ := bind_eq_ok equation
      have settled := (allSettle keepTypes natives bound program final fuel).execute checked shapedFirst
        agrees executed
      obtain ⟨finalType, finalState, reachedLater, results⟩ :=
        inductionHypothesis reachedNext shapedRest settled.belongs settled.agrees rest
      rw [List.append_assoc, List.singleton_append] at reachedLater
      exact ⟨finalType, finalState, reachedLater, results⟩

end TopSteps

section Start

theorem ordered_root {α : Type} : (Scopes.root : Scopes α).Ordered := by
  intro frame
  have alone : (Scopes.root : Scopes α).ancestors frame = [] := by
    cases frame <;> rfl
  rw [Scopes.path, alone]
  exact List.pairwise_singleton _ _

theorem wellFormed_start (natives : Bindings Signature) : (State.start natives).WellFormed where
  ordered := ordered_root.defineAll _ _
  closures _ _ found := by cases found

/-- At the start the native functions are bound on both sides. -/
theorem Agrees.start (write : Writing) (readings : Nat → Float) :
    Agrees [.printTo write, .clockReading readings]
      (Machine.start [.printTo write, .clockReading readings]) Machine.root
      (State.start (Native.signatures Native.defaults)) 0 := by
  let library := [Native.printTo write, Native.clockReading readings]
  have empty : Scopes.Alike (Belongs library) (Scopes.root : Scopes Value) 0
      (Scopes.root : Scopes Ty) 0 :=
    List.Forall₂.cons List.Forall₂.nil List.Forall₂.nil
  have first : Scopes.Alike (Belongs library)
      (Scopes.root.define 0 "print" (Native.printTo write).value) 0
      (Scopes.root.define 0 "print" Native.print.signature.type) 0 :=
    empty.define ordered_root ordered_root Nat.zero_lt_one Nat.zero_lt_one "print"
      ⟨Native.printTo write, rfl, rfl, rfl⟩
  exact
    { ordered := ordered_root.defineAll _ _
      present := Nat.zero_lt_one
      alike := first.define (ordered_root.define _ _ _) (ordered_root.define _ _ _)
        Nat.zero_lt_one Nat.zero_lt_one "clock" ⟨Native.clockReading readings, rfl, rfl, rfl⟩ }

/-- Nothing is left to check when a program declares no function. -/
theorem checkUncalled_eq_ok {fuel : Nat} {before after : State} (plain : before.functions = #[])
    (equation : Check.checkUncalled fuel 0 before = .ok () after) : before = after := by
  cases fuel with
  | zero => cases equation
  | succ fuel =>
      rw [Check.checkUncalled] at equation
      obtain ⟨_, _, got, rest⟩ := bind_eq_ok equation
      cases got
      rw [plain] at rest
      exact (pure_eq_ok rest).2

/-- A program that is accepted has been checked to its end. -/
theorem Reached.start {natives : Bindings Signature} {bound : Nat} {program : Program}
    {final : State} {type : Ty} (plain : Stmt.arePlain program = true)
    (accepted : ({} : State).check bound natives program = (.accepted type, final)) :
    Reached natives bound program final type [] program .unit (State.start natives) := by
  unfold State.check at accepted
  split at accepted
  · next found after equation =>
      split at accepted
      · next clean =>
          cases accepted
          obtain ⟨_, _, got, rest⟩ := bind_eq_ok equation
          cases got
          obtain ⟨_, _, sets, rest⟩ := bind_eq_ok rest
          cases sets
          obtain ⟨_, middle, checked, rest⟩ := bind_eq_ok rest
          obtain ⟨_, _, uncalled, rest⟩ := bind_eq_ok rest
          obtain ⟨rfl, rfl⟩ := pure_eq_ok rest
          have present : 0 < (State.start natives).scopes.frames.size := by
            simp [State.start, Scopes.root, Scopes.addRoot, Scopes.add]
          have checked : Check.checkStatements bound 0 (Place.root 0) 0 .unit program
              (State.start natives) = .ok _ middle := checked
          have effect := Check.checkStatements_effect present checked
          have functions := (effect.notes rfl (by simp [Footprint.statements, plain])).1
          have same := checkUncalled_eq_ok functions uncalled
          subst same
          exact
            { split := rfl
              plain := plain
              checked := rfl
              remaining := checked
              clean := List.isEmpty_iff.1 clean
              functions := rfl
              wellFormed := wellFormed_start natives
              present := present }
      · cases accepted
  · cases accepted
  · cases accepted

end Start

/-- What a run turns to, held against the trace and the final state of a check: the
check has turned to the same node of the tree, there the frames of the run and of the
check agree, and so they do afterwards.  The value of an expression belongs to the
type that the check has noted for its place. -/
def Evaluation.Visit.Recorded (library : List Native) (bound : Nat) (program : Program)
    (final : State) (visit : Evaluation.Visit) : Prop :=
  match visit.task with
  | .expression place expr => ∃ fuel other before type after,
      ⟨fuel, other, before, .expression place expr⟩ ∈
        Typing.visits (Native.signatures Native.defaults) bound program ∧
      Check.typeOf fuel other place expr before = .ok type after ∧
      final.types.get? place = some (expr, type) ∧
      Scopes.Alike (Belongs library) visit.machine.scopes visit.frame before.scopes other ∧
      ∀ value later,
        evaluate library visit.fuel visit.frame expr visit.machine = .ok value later →
        Belongs library value type ∧
          Scopes.Alike (Belongs library) later.scopes visit.frame after.scopes other
  | .statement place stmt => ∃ fuel other before type after,
      ⟨fuel, other, before, .statement place stmt⟩ ∈
        Typing.visits (Native.signatures Native.defaults) bound program ∧
      Check.checkStmt fuel other place stmt before = .ok type after ∧
      Scopes.Alike (Belongs library) visit.machine.scopes visit.frame before.scopes other ∧
      ∀ value later,
        execute library visit.fuel visit.frame stmt visit.machine = .ok value later →
        Belongs library value type ∧
          Scopes.Alike (Belongs library) later.scopes visit.frame after.scopes other
  | _ => True

theorem Evaluation.Visit.Matches.recorded {library : List Native}
    (keepTypes : Native.KeepTypes library) {bound : Nat} {program : Program} {final : State}
    {visit : Evaluation.Visit}
    (matched : visit.Matches library (Native.signatures Native.defaults) bound program final) :
    visit.Recorded library bound program final := by
  have settle := allSettle keepTypes (Native.signatures Native.defaults) bound program final
  obtain ⟨fuel, frame, machine, task⟩ := visit
  cases task with
  | expression place expr =>
      obtain ⟨other, type, before, after, checked, agrees⟩ := matched
      have noted := checked.infer.1
      obtain ⟨checkFuel, visited, typed⟩ := checked.visited
      refine ⟨checkFuel, other, before, type, after, visited.mem_visits, typed, noted,
        agrees.alike, ?_⟩
      intro value later evaluated
      have settled := (settle fuel).evaluate checked agrees evaluated
      exact ⟨settled.belongs, (settled.agrees.transfer checked.sameView).alike⟩
  | statement place stmt =>
      obtain ⟨other, type, before, after, checked, shaped, agrees⟩ := matched
      obtain ⟨checkFuel, visited, typed⟩ := checked.visited
      refine ⟨checkFuel, other, before, type, after, visited.mem_visits, typed, agrees.alike, ?_⟩
      intro value later executed
      have settled := (settle fuel).execute checked shaped agrees executed
      exact ⟨settled.belongs, settled.agrees.alike⟩
  | expressions _ _ _ | call _ _ | statements _ _ _ | body _ _ | block _ _ | whileLoop _ _ _ _
  | forLoop _ _ _ _ _ => trivial

/-- What is passed to a native function whose parameter is to be displayed holds no native
function. -/
theorem anyNative_of_displayable {library : List Native} {native : Native} {key : String}
    {signature : Signature} {arguments : List Value} {calleeType type : Ty}
    {argumentTypes : List Ty} (found : Native.find? library key = some native)
    (shows : native.signature.parameters = [.displayable])
    (belongs : Belongs library (.native key signature) calleeType)
    (belong : BelongAll library arguments argumentTypes)
    (typed : CallTyped calleeType argumentTypes type) : Value.anyNative arguments = false := by
  rcases typed with rfl | ⟨name, parameters, returned, rfl, typed⟩
  · cases belongs
  obtain ⟨other, foundOther, rfl, shape⟩ := belongs
  obtain rfl := Option.some.inj (found.symm.trans foundOther)
  rw [Signature.type, Ty.native.injEq, shows] at shape
  obtain ⟨_, rfl, _⟩ := shape
  unfold nativeCallType at typed
  split at typed
  · cases typed
  · next length =>
      obtain ⟨found, rfl⟩ := List.length_eq_one_iff.1 (not_not.1 length).symm
      split at typed
      · cases typed
      · next accepted =>
          have accepts : (if found.isDisplayable then none else some (Ty.displayable, found)) =
            none := accepted
          refine InhabitAll.anyNative_eq_false belong ?_
          simpa [Ty.areDisplayable] using accepts

/-- A program without functions calls native functions only, so nothing leads a run into the
body of a function. -/
theorem Evaluation.Visit.Matches.leads {library : List Native}
    (keepTypes : Native.KeepTypes library) {natives : Bindings Signature} {bound : Nat}
    {program : Program} {final : State} {home : Closure → Place} {visit called : Evaluation.Visit}
    (matched : visit.Matches library natives bound program final)
    (leads : visit.Leads library home called) :
    called.Matches library natives bound program final := by
  rcases leads with calls | enters
  · exact matched.call keepTypes calls
  · cases enters with
    | body =>
        obtain ⟨calleeType, argumentTypes, result, belongs, _, typed⟩ := matched
        rcases typed with rfl | ⟨name, parameters, returned, rfl, _⟩
        · cases belongs
        · cases belongs

/-- Whatever a run of an accepted program without functions turns to matches a visit of the
check. -/
theorem Evaluation.visits_match {write : Writing} {readings : Nat → Float}
    {home : Closure → Place} {bound fuel : Nat} {program : Program} {final : State} {type : Ty}
    {visit : Evaluation.Visit}
    (reached : Reached (Native.signatures Native.defaults) bound program final type [] program .unit
      (State.start (Native.signatures Native.defaults)))
    (shaped : Stmt.areShaped program = true)
    (member : visit ∈ visits [.printTo write, .clockReading readings] home fuel program) :
    visit.Matches [.printTo write, .clockReading readings] (Native.signatures Native.defaults)
      bound program final := by
  have keepTypes := Native.keepTypes_library write readings
  obtain ⟨before, stmt, after, value, machine, split, executed, path⟩ := mem_visits_iff.1 member
  clear member
  induction path with
  | refl =>
      subst split
      rw [Stmt.areShaped_append, Bool.and_eq_true] at shaped
      obtain ⟨last, state, reachedHere, _, agrees⟩ :=
        reached.run keepTypes shaped.1 .unit (.start write readings) executed
      obtain ⟨found, next, checked, _⟩ := reachedHere.step
      exact ⟨0, found, state, next, checked, (Bool.and_eq_true_iff.1 shaped.2).1, agrees⟩
  | tail _ leads inductionHypothesis => exact inductionHypothesis.leads keepTypes leads

/-- A native function that writes what another one refuses to be shown is not told apart from it
by visits that match those of the check. -/
theorem Evaluation.Visit.Matches.indifferent {write : Writing} {readings : Nat → Float}
    {bound : Nat} {program : Program} {final : State} {visit : Evaluation.Visit}
    (matched : visit.Matches [.printTo write, .clockReading readings]
      (Native.signatures Native.defaults) bound program final)
    {run : List Value → Console → NativeResult × Console}
    (alike : ∀ arguments console, Value.anyNative arguments = false →
      run arguments console = (Native.printTo write).run arguments console) :
    visit.Indifferent [.printTo write, .clockReading readings]
      [{ Native.printTo write with run := run }, .clockReading readings] := by
  intro key signature arguments isCall paren
  obtain ⟨fuel, frame, machine, task⟩ := visit
  obtain rfl : task = .call (.native key signature) arguments := isCall
  obtain ⟨calleeType, argumentTypes, result, belongs, belong, typed⟩ := matched
  unfold callKey
  by_cases isPrint : key = "print"
  · subst isPrint
    have bare := @anyNative_of_displayable _ (Native.printTo write) _ _ _ _ _ _ rfl rfl belongs belong
      typed
    have same : run arguments = (Native.printTo write).run arguments :=
      funext fun console => alike arguments console bare
    funext machine
    change callNative { Native.printTo write with run := run } arguments paren machine =
      callNative (Native.printTo write) arguments paren machine
    dsimp only [callNative]
    rw [same]
  · have other : ¬ ("print" == key) = true := fun same => isPrint (beq_iff_eq.1 same).symm
    have skips : ∀ native : Native, native.key = "print" →
        Native.find? [native, .clockReading readings] key =
          Native.find? [.clockReading readings] key := by
      intro native same
      rw [Native.find?, List.find?_cons_of_neg (by rwa [same])]
      rfl
    rw [skips _ rfl, skips _ rfl]

/-- Recorded types are the types of the values, in every run of a program without
functions that can be read and is accepted.  Nor is `print` ever given a value that holds a
native function: it might do anything with such values, and the run would be the same. -/
theorem Program.recorded_types_are_types_of_values {tokens : List Token} {program : Program}
    {bound : Nat} {type : Ty} {final : State} (read : Program.read tokens = .ok program)
    (plain : Stmt.arePlain program = true)
    (accepted : ({} : State).check bound (Native.signatures Native.defaults) program =
      (.accepted type, final))
    (write : Writing) (readings : Nat → Float) (fuel : Nat) :
    let natives : List Native := [.printTo write, .clockReading readings]
    (∀ value machine,
      (Machine.start natives).run natives fuel program = (.value value, machine) →
        Belongs natives value type) ∧
    (∀ home, ∀ visit ∈ Evaluation.visits natives home fuel program,
      visit.Recorded natives bound program final) ∧
    ∀ run : List Value → Console → NativeResult × Console,
      (∀ arguments console, Value.anyNative arguments = false →
        run arguments console = (Native.printTo write).run arguments console) →
      let others : List Native :=
        [{ Native.printTo write with run := run }, .clockReading readings]
      (Machine.start others).run others fuel program =
        (Machine.start natives).run natives fuel program := by
  intro natives
  have keepTypes := Native.keepTypes_library write readings
  have reached := Reached.start plain accepted
  have shaped := Program.areShaped_of_read read
  refine ⟨fun value machine ran => ?_, fun home visit member =>
    (Evaluation.visits_match reached shaped member).recorded keepTypes, fun run alike => ?_⟩
  · have executed : executeProgram natives fuel Machine.root .unit program
        (Machine.start natives) = .ok value machine := by
      unfold Machine.run at ran
      dsimp only at ran
      split at ran <;> cases ran
      assumption
    have reached : Reached (Native.signatures Native.defaults) bound program final type []
        (program ++ []) .unit (State.start (Native.signatures Native.defaults)) := by
      rwa [List.append_nil]
    obtain ⟨last, _, finished, belongs, _⟩ :=
      reached.run keepTypes shaped .unit (.start write readings) executed
    rw [← (pure_eq_ok finished.remaining).1]
    exact belongs
  · intro others
    have same : executeProgram others fuel Machine.root .unit program (Machine.start others) =
        executeProgram natives fuel Machine.root .unit program (Machine.start natives) :=
      @Evaluation.executeProgram_congr natives others (fun _ => Place.root 0) fuel program
        fun visit member => (Evaluation.visits_match reached shaped member).indifferent alike
    have ready (library : List Native) :
        { Machine.start library with
          console := { (Machine.start library).console with output := "" } } =
            Machine.start library := rfl
    unfold Machine.run
    simp only [ready, same]

/-- In the loop of `let x = true; while x \x7b let y = x; print(y); x = false; \x7d` the
values are those of the recorded types. -/
theorem Program.recorded_types_loop :
    let token (kind : Kind) (lexeme : String) : Token := ⟨kind, lexeme, .origin, none⟩
    let tokens := [
      token (.keyword .letWord) "let", token .identifier "x", token (.symbol .equal) "=",
      token (.keyword .trueWord) "true", token (.symbol .semicolon) ";",
      token (.keyword .whileWord) "while", token .identifier "x", token (.symbol .leftBrace) "\x7b",
      token (.keyword .letWord) "let", token .identifier "y", token (.symbol .equal) "=",
      token .identifier "x", token (.symbol .semicolon) ";",
      token .identifier "print", token (.symbol .leftParen) "(", token .identifier "y",
      token (.symbol .rightParen) ")", token (.symbol .semicolon) ";",
      token .identifier "x", token (.symbol .equal) "=",
      token (.keyword .falseWord) "false", token (.symbol .semicolon) ";",
      token (.symbol .rightBrace) "\x7d"]
    let readings : Nat → Float := fun _ => 0
    let natives : List Native := [.printTo Console.take, .clockReading readings]
    let home : Closure → Place := fun _ => Place.root 0
    -- A native function that prints all but native functions.
    let wary (arguments : List Value) (console : Console) : NativeResult × Console :=
      if Value.anyNative arguments then (.aborted "native", console)
      else (Native.printTo Console.take).run arguments console
    let others : List Native :=
      [{ Native.printTo Console.take with run := wary }, .clockReading readings]
    let isY (visit : Evaluation.Visit) : Bool :=
      match visit.task with
      | .expression _ (.reference name) => name.lexeme == "y"
      | _ => false
    ∃ program final value machine visit, Program.read tokens = .ok program ∧
      ({} : State).check 20 (Native.signatures Native.defaults) program = (.accepted .unit, final) ∧
      (Machine.start natives).run natives 20 program = (.value value, machine) ∧
      Belongs natives value .unit ∧
      visit ∈ Evaluation.visits natives home 20 program ∧ isY visit = true ∧
      visit.Recorded natives 20 program final ∧
      (Machine.start others).run others 20 program = (.value value, machine) := by
  intro token tokens readings natives home wary others isY
  let ends (result : RunResult) : Bool :=
    match result with
    | .value _ => true
    | _ => false
  have read : ∃ program, Program.read tokens = .ok program ∧ Stmt.arePlain program = true ∧
      (({} : State).check 20 (Native.signatures Native.defaults) program).1 = .accepted .unit ∧
      ends ((Machine.start natives).run natives 20 program).1 = true ∧
      (Evaluation.visits natives home 20 program).any isY = true :=
    ⟨(Program.read tokens).toOption.getD [], rfl, rfl, rfl, by decide +kernel, by decide +kernel⟩
  obtain ⟨program, read, plain, type, ended, seen⟩ := read
  obtain ⟨value, machine, ran⟩ : ∃ value machine,
      (Machine.start natives).run natives 20 program = (.value value, machine) := by
    generalize (Machine.start natives).run natives 20 program = outcome at ended ⊢
    obtain ⟨result, machine⟩ := outcome
    cases result with
    | value value => exact ⟨value, machine, rfl⟩
    | rejected | faulted | aborted | exhausted => cases ended
  obtain ⟨visit, member, reads⟩ := List.any_eq_true.1 seen
  have accepted : ({} : State).check 20 (Native.signatures Native.defaults) program =
      (.accepted .unit, (({} : State).check 20 (Native.signatures Native.defaults) program).2) :=
    Prod.ext type rfl
  obtain ⟨values, recorded, prints⟩ :=
    recorded_types_are_types_of_values read plain accepted Console.take readings 20
  have same := prints wary fun arguments console bare => by simp [wary, bare]
  exact ⟨program, _, value, machine, visit, read, accepted, ran, values value machine ran, member,
    reads, recorded home visit member, same.trans ran⟩

end CheckedScript
