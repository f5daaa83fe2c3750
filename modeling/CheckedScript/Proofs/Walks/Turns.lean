import CheckedScript.Proofs.Walks.RunDepths
import CheckedScript.Proofs.Walks.RunTraces
import Mathlib.Logic.Relation

/-!
# What a run turns to

The visits that the evaluator notes are those that `Visit.Calls` leads to, together with the
bodies of the functions that are called.  So the walks `Visited` and `Reaches` follow the
evaluator: what they come to is what a run visits.
-/

namespace CheckedScript

open Typing (Place)

namespace Evaluation

open Eval

/-- The body of a function is turned to when it is called. -/
inductive Visit.Enters (home : Closure → Place) : Visit → Visit → Prop
  | body {fuel : Nat} {caller : FrameId} {machine : Machine} {closure : Closure}
      {arguments : List Value} :
      closure.parameters.length = arguments.length →
      Enters home ⟨fuel + 1, caller, machine, .call (.function closure) arguments⟩
        ⟨fuel, machine.next, machine.entered closure arguments,
          .body (home closure) closure.body⟩

/-- The tasks that a task leads to directly, also in the body of a function. -/
def Visit.Leads (natives : List Native) (home : Closure → Place) (visit called : Visit) : Prop :=
  visit.Calls natives called ∨ visit.Enters home called

/-- What is turned to in the course of a task. -/
def Visit.TurnsTo (natives : List Native) (home : Closure → Place) (later : Visit) :
    Visit → Prop
  | ⟨fuel, frame, machine, .expression place expr⟩ =>
      later ∈ (Trace.evaluate natives home fuel place frame expr).visits machine
  | ⟨fuel, frame, machine, .expressions place step exprs⟩ =>
      later ∈ (Trace.evaluateAll natives home fuel place step frame exprs).visits machine
  | ⟨fuel, frame, machine, .call callee arguments⟩ => ∃ paren,
      later ∈ (Trace.call natives home fuel frame callee arguments paren).visits machine
  | ⟨fuel, frame, machine, .statement place stmt⟩ =>
      later ∈ (Trace.execute natives home fuel place frame stmt).visits machine
  | ⟨fuel, frame, machine, .statements place step stmts⟩ =>
      later ∈ (Trace.executeAll natives home fuel place step frame stmts).visits machine
  | ⟨fuel, frame, machine, .body place body⟩ =>
      later ∈ (Trace.executeBody natives home fuel place frame body).visits machine
  | ⟨fuel, frame, machine, .block place body⟩ =>
      later ∈ (Trace.executeBlock natives home fuel place frame body).visits machine
  | ⟨fuel, frame, machine, .whileLoop place keyword condition body⟩ =>
      later ∈ (Trace.repeatWhile natives home fuel place frame keyword condition body).visits
        machine
  | ⟨fuel, frame, machine, .forLoop place name range index body⟩ =>
      later ∈ (Trace.repeatFor natives home fuel place frame name range index body).visits machine

section Steps

variable {natives : List Native} {home : Closure → Place} {fuel : Nat} {frame : FrameId}
  {machine : Machine} {place : Place} {later : Visit}

open Traced Trace

/-- A visit comes to another one, which is the visit itself or lies behind one of the steps
that the visit leads to. -/
def Visit.AccountsFor (natives : List Native) (home : Closure → Place) (visit later : Visit) :
    Prop :=
  later = visit ∨ ∃ called, visit.Leads natives home called ∧ later.TurnsTo natives home called

theorem Visit.Calls.accounts {visit called later : Visit} (calls : visit.Calls natives called)
    (turns : later.TurnsTo natives home called) : visit.AccountsFor natives home later :=
  .inr ⟨called, .inl calls, turns⟩

/-- From an expression a run turns to its parts, and to the function that is called. -/
theorem accounts_expression (place : Place) (expr : Expr) :
    Within (Visit.AccountsFor natives home ⟨fuel + 1, frame, machine, .expression place expr⟩)
      (Trace.evaluate natives home (fuel + 1) place frame expr) machine := by
  have run := forgets natives home fuel
  cases expr with
  | literal => exact .noted (.inl rfl) (.pure _)
  | reference => exact .noted (.inl rfl) (.lift _)
  | assign name value =>
      refine .noted (.inl rfl) (.bind (fun _ => Visit.Calls.assigned.accounts) fun _ _ _ => ?_)
      exact .lift_bind fun _ _ _ => .pure _
  | group inner => exact .noted (.inl rfl) fun _ => Visit.Calls.inner.accounts
  | tuple items =>
      exact .noted (.inl rfl) (.bind (fun _ => Visit.Calls.items.accounts) fun _ _ _ => .pure _)
  | unary operator token operand =>
      exact .noted (.inl rfl) (.bind (fun _ => Visit.Calls.operand.accounts) fun _ _ _ => .lift _)
  | logical operator token left right =>
      refine .noted (.inl rfl)
        (.bind (fun _ => Visit.Calls.logicalLeft.accounts) fun value middle evaluated => ?_)
      rw [run.evaluate] at evaluated
      refine .lift_bind fun first after tested => ?_
      obtain ⟨rfl, rfl⟩ := orStop_truth_eq_ok tested
      -- The right operand is turned to unless the left one decides.
      cases operator <;> cases first
      case conjunction.false | disjunction.true => exact .pure _
      case conjunction.true | disjunction.false =>
          refine .bind (fun _ => (Visit.Calls.logicalRight evaluated).accounts) fun _ _ _ => ?_
          exact .lift_bind fun _ _ _ => .pure _
  | binary operator token left right =>
      refine .noted (.inl rfl) (.bind (fun _ => Visit.Calls.left.accounts) fun _ _ evaluated => ?_)
      rw [run.evaluate] at evaluated
      exact .bind (fun _ => (Visit.Calls.right evaluated).accounts) fun _ _ _ => .lift _
  | call callee paren arguments =>
      refine .noted (.inl rfl)
        (.bind (fun _ => Visit.Calls.callee.accounts) fun _ _ evaluated => ?_)
      rw [run.evaluate] at evaluated
      refine .bind (fun _ => (Visit.Calls.arguments evaluated).accounts) fun _ _ evaluatedAll => ?_
      rw [run.evaluateAll] at evaluatedAll
      exact fun _ part => (Visit.Calls.call evaluated evaluatedAll).accounts ⟨paren, part⟩

theorem accounts_expressions (place : Place) (step : Nat) (exprs : List Expr) :
    Within
      (Visit.AccountsFor natives home ⟨fuel + 1, frame, machine, .expressions place step exprs⟩)
      (Trace.evaluateAll natives home (fuel + 1) place step frame exprs) machine := by
  cases exprs with
  | nil => exact .noted (.inl rfl) (.pure _)
  | cons expr exprs =>
      refine .noted (.inl rfl) (.bind (fun _ => Visit.Calls.item.accounts) fun _ _ evaluated => ?_)
      rw [(forgets natives home fuel).evaluate] at evaluated
      exact .bind (fun _ => (Visit.Calls.otherItems evaluated).accounts) fun _ _ _ => .pure _

/-- The body of a function is turned to in the frame of the call. -/
theorem accounts_call (callee : Value) (arguments : List Value) (paren : Token) :
    Within (Visit.AccountsFor natives home ⟨fuel + 1, frame, machine, .call callee arguments⟩)
      (Trace.call natives home (fuel + 1) frame callee arguments paren) machine := by
  cases callee with
  | native key signature =>
      refine .noted (.inl rfl) (.lift_bind fun _ _ _ => ?_)
      split
      · exact .lift _
      · exact .lift _
  | function closure =>
      refine .noted (.inl rfl) (.lift_bind fun _ after required => ?_)
      obtain ⟨enough, rfl⟩ := requireArity_eq_ok required
      refine .lift_bind fun inner nested nests => ?_
      cases nests
      refine .lift_bind fun _ entered defines => ?_
      cases defines
      exact fun later part => .inr ⟨_, .inr (.body enough), part⟩
  | _ => exact .noted (.inl rfl) (.lift _)

theorem accounts_loop {name : Token} {bounds : Bounds} {body : Block} {middle after : Machine}
    {start : Value} {step : Option Value}
    (startValue : Eval.evaluate natives fuel frame bounds.start machine = .ok start middle)
    (stepValue : StepValue natives fuel frame bounds.step middle step after) :
    Within
      (Visit.AccountsFor natives home
        ⟨fuel + 1, frame, machine, .statement place (.forLoop name bounds body)⟩)
      (do
        let stop ← Trace.evaluate natives home fuel (place.child 2) frame bounds.stop
        let range ← lift (orStop (loopRange bounds.token start stop step))
        Trace.repeatFor natives home fuel place frame name.lexeme range 0 body) after := by
  refine .bind (fun _ => (Visit.Calls.forStop startValue stepValue).accounts)
    fun stop last stopValue => ?_
  rw [(forgets natives home fuel).evaluate] at stopValue
  refine .lift_bind fun range _ ranged => ?_
  obtain ⟨valid, rfl⟩ := orStop_eq_ok ranged
  exact fun _ => (Visit.Calls.forLoop startValue stepValue stopValue valid).accounts

/-- From a statement a run turns to its parts. -/
theorem accounts_statement (place : Place) (stmt : Stmt) :
    Within (Visit.AccountsFor natives home ⟨fuel + 1, frame, machine, .statement place stmt⟩)
      (Trace.execute natives home (fuel + 1) place frame stmt) machine := by
  have run := forgets natives home fuel
  cases stmt with
  | expression value => exact .noted (.inl rfl) fun _ => Visit.Calls.value.accounts
  | letValue name declared initializer =>
      refine .noted (.inl rfl) (.bind (fun _ => Visit.Calls.initializer.accounts) fun _ _ _ => ?_)
      exact .lift_bind fun _ _ _ => .pure _
  | block body => exact .noted (.inl rfl) fun _ => Visit.Calls.block.accounts
  | ifThen keyword condition consequent =>
      refine .noted (.inl rfl)
        (.bind (fun _ => Visit.Calls.ifCondition.accounts) fun _ _ evaluated => ?_)
      rw [run.evaluate] at evaluated
      refine .lift_bind fun holds after tested => ?_
      obtain ⟨rfl, rfl⟩ := orStop_truth_eq_ok tested
      cases holds with
      | true =>
          exact .bind (fun _ => (Visit.Calls.ifConsequent evaluated).accounts) fun _ _ _ => .pure _
      | false => exact .pure _
  | ifElse keyword condition consequent alternative =>
      refine .noted (.inl rfl)
        (.bind (fun _ => Visit.Calls.elseCondition.accounts) fun _ _ evaluated => ?_)
      rw [run.evaluate] at evaluated
      refine .lift_bind fun holds after tested => ?_
      obtain ⟨rfl, rfl⟩ := orStop_truth_eq_ok tested
      cases holds with
      | true =>
          exact .bind (fun _ => (Visit.Calls.elseConsequent evaluated).accounts)
            fun _ _ _ => .pure _
      | false =>
          exact .bind (fun _ => (Visit.Calls.alternative evaluated).accounts) fun _ _ _ => .pure _
  | whileLoop keyword condition body =>
      exact .noted (.inl rfl) fun _ => Visit.Calls.whileLoop.accounts
  | forLoop name bounds body =>
      refine .noted (.inl rfl)
        (.bind (fun _ => Visit.Calls.forStart.accounts) fun start middle startValue => ?_)
      rw [run.evaluate] at startValue
      obtain ⟨token, first, last, step⟩ := bounds
      cases step with
      | none =>
          refine .bind (.pure _) fun _ _ given => ?_
          cases given
          exact accounts_loop startValue .absent
      | some step =>
          refine .bind (.map _ fun _ => (Visit.Calls.forStep startValue rfl).accounts)
            fun _ after mapped => ?_
          rw [Traced.run_map, run.evaluate] at mapped
          obtain ⟨given, rfl, stepValue⟩ := map_eq_ok mapped
          exact accounts_loop startValue (.written stepValue)
  | function name parameters body =>
      exact .noted (.inl rfl) (.lift_bind fun _ _ _ => .lift_bind fun _ _ _ => .pure _)
  | giveBack keyword value =>
      cases value with
      | none => exact .noted (.inl rfl) (.lift _)
      | some value =>
          exact .noted (.inl rfl)
            (.bind (fun _ => Visit.Calls.returned.accounts) fun _ _ _ => .lift _)

theorem accounts_statements (place : Place) (step : Nat) (stmts : List Stmt) :
    Within
      (Visit.AccountsFor natives home ⟨fuel + 1, frame, machine, .statements place step stmts⟩)
      (Trace.executeAll natives home (fuel + 1) place step frame stmts) machine := by
  cases stmts with
  | nil => exact .noted (.inl rfl) (.pure _)
  | cons stmt stmts =>
      refine .noted (.inl rfl) (.bind (fun _ => Visit.Calls.first.accounts) fun _ _ executed => ?_)
      rw [(forgets natives home fuel).execute] at executed
      exact fun _ => (Visit.Calls.others executed).accounts

theorem accounts_body (place : Place) (body : Block) :
    Within (Visit.AccountsFor natives home ⟨fuel + 1, frame, machine, .body place body⟩)
      (Trace.executeBody natives home (fuel + 1) place frame body) machine := by
  obtain ⟨brace, statements, tail⟩ := body
  cases tail with
  | none =>
      exact .noted (.inl rfl)
        (.bind (fun _ => Visit.Calls.bodyStatements.accounts) fun _ _ _ => .pure _)
  | some tail =>
      refine .noted (.inl rfl)
        (.bind (fun _ => Visit.Calls.bodyStatements.accounts) fun _ _ executed => ?_)
      rw [(forgets natives home fuel).executeAll] at executed
      exact fun _ => (Visit.Calls.bodyTail executed).accounts

theorem accounts_block (place : Place) (body : Block) :
    Within (Visit.AccountsFor natives home ⟨fuel + 1, frame, machine, .block place body⟩)
      (Trace.executeBlock natives home (fuel + 1) place frame body) machine := by
  refine .noted (.inl rfl) (.lift_bind fun inner nested nests => ?_)
  cases nests
  exact fun _ => Visit.Calls.body.accounts

theorem accounts_whileLoop (place : Place) (keyword : Token) (condition : Expr) (body : Block) :
    Within
      (Visit.AccountsFor natives home
        ⟨fuel + 1, frame, machine, .whileLoop place keyword condition body⟩)
      (Trace.repeatWhile natives home (fuel + 1) place frame keyword condition body) machine := by
  have run := forgets natives home fuel
  refine .noted (.inl rfl)
    (.bind (fun _ => Visit.Calls.whileCondition.accounts) fun _ _ evaluated => ?_)
  rw [run.evaluate] at evaluated
  refine .lift_bind fun holds after tested => ?_
  obtain ⟨rfl, rfl⟩ := orStop_truth_eq_ok tested
  cases holds with
  | true =>
      refine .bind (fun _ => (Visit.Calls.whileBody evaluated).accounts) fun _ _ executed => ?_
      rw [run.executeBlock] at executed
      exact fun _ => (Visit.Calls.whileAgain evaluated executed).accounts
  | false => exact .pure _

theorem accounts_forLoop (place : Place) (name : String) (range : NumberRange Float) (index : Nat)
    (body : Block) :
    Within
      (Visit.AccountsFor natives home
        ⟨fuel + 1, frame, machine, .forLoop place name range index body⟩)
      (Trace.repeatFor natives home (fuel + 1) place frame name range index body) machine := by
  refine .noted (.inl rfl) ?_
  cases shape : range.item? index with
  | none => exact .pure _
  | some item =>
      refine .lift_bind fun inner nested nests => ?_
      cases nests
      refine .lift_bind fun _ turned defines => ?_
      cases defines
      refine .bind (fun _ => (Visit.Calls.forBody shape).accounts) fun _ _ executed => ?_
      rw [(forgets natives home fuel).executeBlock] at executed
      exact fun _ => (Visit.Calls.forAgain shape executed).accounts

theorem Visit.TurnsTo.accounts {visit : Visit} (turns : later.TurnsTo natives home visit) :
    visit.AccountsFor natives home later := by
  obtain ⟨fuel, frame, machine, task⟩ := visit
  cases fuel with
  | zero =>
      refine .inl ?_
      cases task with
      | call callee arguments =>
          obtain ⟨paren, turns⟩ := turns
          exact List.mem_singleton.1 turns
      | _ => exact List.mem_singleton.1 turns
  | succ fuel =>
      cases task with
      | expression place expr => exact accounts_expression place expr later turns
      | expressions place step exprs => exact accounts_expressions place step exprs later turns
      | call callee arguments =>
          obtain ⟨paren, turns⟩ := turns
          exact accounts_call callee arguments paren later turns
      | statement place stmt => exact accounts_statement place stmt later turns
      | statements place step stmts => exact accounts_statements place step stmts later turns
      | body place body => exact accounts_body place body later turns
      | block place body => exact accounts_block place body later turns
      | whileLoop place keyword condition body =>
          exact accounts_whileLoop place keyword condition body later turns
      | forLoop place name range index body =>
          exact accounts_forLoop place name range index body later turns

/-- The parenthesis of a call is only charged with failures. -/
theorem visits_call (fuel : Nat) (callee : Value) (arguments : List Value) (paren other : Token) :
    (Trace.call natives home fuel frame callee arguments paren).visits machine =
      (Trace.call natives home fuel frame callee arguments other).visits machine := by
  cases fuel with
  | zero => rfl
  | succ fuel =>
      cases callee with
      | native key signature =>
          rw [Trace.call, Trace.call, visits_enter, visits_enter]
          cases Native.find? natives key <;> rfl
      | _ => rfl

/-- What lies behind a step of a visit lies behind the visit. -/
theorem Visit.Calls.turnsTo {visit called : Visit} (calls : visit.Calls natives called)
    (turns : later.TurnsTo natives home called) : later.TurnsTo natives home visit := by
  have run := fun fuel => forgets natives home fuel
  cases calls with
  | assigned | inner | items | operand | left | logicalLeft | callee =>
      simp_all [Visit.TurnsTo, Trace.evaluate, mem_visits_bind]
  | right evaluated | arguments evaluated =>
      simp_all [Visit.TurnsTo, Trace.evaluate, mem_visits_bind, (run _).evaluate]
  | @logicalRight _ _ _ _ _ operator _ _ _ evaluated =>
      cases operator <;>
        simp_all [Visit.TurnsTo, Trace.evaluate, mem_visits_bind, (run _).evaluate, truth, orStop,
          pure_apply]
  | @call _ _ _ _ _ _ _ paren _ _ _ evaluated evaluatedAll =>
      obtain ⟨other, turns⟩ := turns
      rw [visits_call _ _ _ other paren] at turns
      simp_all [Visit.TurnsTo, Trace.evaluate, mem_visits_bind, (run _).evaluate,
        (run _).evaluateAll]
  | item | otherItems evaluated =>
      simp_all [Visit.TurnsTo, Trace.evaluateAll, mem_visits_bind, (run _).evaluate]
  | value | initializer | block | ifCondition | elseCondition | whileLoop | forStart | returned =>
      simp_all [Visit.TurnsTo, Trace.execute, mem_visits_bind]
  | ifConsequent evaluated | elseConsequent evaluated | alternative evaluated =>
      simp_all [Visit.TurnsTo, Trace.execute, mem_visits_bind, (run _).evaluate, truth, orStop,
        pure_apply]
  | whileCondition | whileBody evaluated | whileAgain evaluated executed =>
      simp_all [Visit.TurnsTo, Trace.repeatWhile, mem_visits_bind, (run _).evaluate,
        (run _).executeBlock, truth, orStop, pure_apply]
  | @forStep _ _ _ _ _ _ bounds _ _ _ startValue written =>
      obtain ⟨token, start, stop, step⟩ := bounds
      cases written
      simp_all [Visit.TurnsTo, Trace.execute, mem_visits_bind, (run _).evaluate]
  | @forStop _ _ _ _ _ _ _ bounds _ _ _ startValue stepValue =>
      obtain ⟨token, start, stop, step⟩ := bounds
      cases stepValue with
      | absent =>
          simp_all [Visit.TurnsTo, Trace.execute, mem_visits_bind, (run _).evaluate, pure_apply]
      | written stepValue =>
          simp_all [Visit.TurnsTo, Trace.execute, mem_visits_bind, (run _).evaluate, map_apply]
  | @forLoop _ _ _ _ _ _ _ _ bounds _ _ _ _ _ startValue stepValue stopValue ranged =>
      obtain ⟨token, start, stop, step⟩ := bounds
      cases stepValue with
      | absent =>
          simp_all [Visit.TurnsTo, Trace.execute, mem_visits_bind, (run _).evaluate, orStop,
            pure_apply]
      | written stepValue =>
          simp_all [Visit.TurnsTo, Trace.execute, mem_visits_bind, (run _).evaluate, orStop,
            map_apply, pure_apply]
  | first | others executed =>
      simp_all [Visit.TurnsTo, Trace.executeAll, mem_visits_bind, (run _).execute]
  | body => exact List.mem_cons_of_mem _ turns
  | bodyStatements | bodyTail executed =>
      simp_all [Visit.TurnsTo, Trace.executeBody, mem_visits_bind, (run _).executeAll]
  | forBody item =>
      refine List.mem_cons_of_mem _ ?_
      rw [item]
      exact mem_visits_bind.2 (.inr ⟨_, _, rfl, mem_visits_bind.2
        (.inr ⟨_, _, rfl, mem_visits_bind.2 (.inl turns)⟩)⟩)
  | forAgain item executed =>
      rw [← (run _).executeBlock] at executed
      refine List.mem_cons_of_mem _ ?_
      rw [item]
      exact mem_visits_bind.2 (.inr ⟨_, _, rfl, mem_visits_bind.2
        (.inr ⟨_, _, rfl, mem_visits_bind.2 (.inr ⟨_, _, executed, turns⟩)⟩)⟩)

theorem Visit.Enters.turnsTo {visit called : Visit} (enters : visit.Enters home called)
    (turns : later.TurnsTo natives home called) : later.TurnsTo natives home visit := by
  cases enters with
  | @body fuel caller machine closure arguments enough =>
      have required : requireArity closure.name closure.parameters.length arguments.length machine =
          .ok () machine := by
        rw [requireArity, if_pos enough]
        rfl
      refine ⟨⟨.identifier, "", .origin, none⟩, List.mem_cons_of_mem _ ?_⟩
      exact mem_visits_bind.2 (.inr ⟨_, _, required, turns⟩)

theorem Visit.turnsTo_self (visit : Visit) : visit.TurnsTo natives home visit := by
  obtain ⟨fuel, frame, machine, task⟩ := visit
  cases task with
  | call callee arguments =>
      refine ⟨⟨.identifier, "", .origin, none⟩, ?_⟩
      cases fuel with
      | zero => exact List.mem_cons_self
      | succ fuel => cases callee <;> exact List.mem_cons_self
  | expression place expr => cases fuel <;> cases expr <;> exact List.mem_cons_self
  | expressions place step exprs => cases fuel <;> cases exprs <;> exact List.mem_cons_self
  | statement place stmt => cases fuel <;> cases stmt <;> exact List.mem_cons_self
  | statements place step stmts => cases fuel <;> cases stmts <;> exact List.mem_cons_self
  | body place body => cases fuel <;> cases body <;> exact List.mem_cons_self
  | block | whileLoop | forLoop => cases fuel <;> exact List.mem_cons_self

theorem Visit.Leads.turnsTo {visit called : Visit} (leads : visit.Leads natives home called)
    (turns : later.TurnsTo natives home called) : later.TurnsTo natives home visit :=
  leads.elim (·.turnsTo turns) (·.turnsTo turns)

theorem Visit.Leads.fuel_eq {visit called : Visit} (leads : visit.Leads natives home called) :
    visit.fuel = called.fuel + 1 := by
  rcases leads with calls | enters
  · exact calls.fuel_eq
  · cases enters
    rfl

/-- In the course of a task exactly those visits are made to which its steps lead. -/
theorem Visit.turnsTo_iff {visit : Visit} :
    later.TurnsTo natives home visit ↔
      Relation.ReflTransGen (Visit.Leads natives home) visit later := by
  constructor
  · intro turns
    induction fuel : visit.fuel generalizing visit with
    | zero =>
        rcases turns.accounts with rfl | ⟨called, leads, _⟩
        · exact .refl
        · exact absurd (leads.fuel_eq.symm.trans fuel) (Nat.succ_ne_zero _)
    | succ bound inductionHypothesis =>
        rcases turns.accounts with rfl | ⟨called, leads, turns⟩
        · exact .refl
        · have lower : called.fuel = bound := Nat.succ.inj (leads.fuel_eq.symm.trans fuel)
          exact .head leads (inductionHypothesis turns lower)
  · intro path
    induction path using Relation.ReflTransGen.head_induction_on with
    | refl => exact later.turnsTo_self
    | head leads _ turns => exact leads.turnsTo turns

end Steps

theorem mem_visits_executeProgram {natives : List Native} {home : Closure → Place} {bound : Nat}
    {frame : FrameId} {step : Nat} {last : Value} {program : List Stmt} {machine : Machine}
    {visit : Visit} :
    visit ∈ (Trace.executeProgram natives home bound frame step last program).visits machine ↔
      ∃ before stmt after value middle, program = before ++ stmt :: after ∧
        executeProgram natives bound frame last before machine = .ok value middle ∧
        visit.TurnsTo natives home
          ⟨bound, frame, middle,
            .statement ((Place.root 0).child (step + before.length)) stmt⟩ := by
  have run := Trace.forgets natives home bound
  induction program generalizing step last machine with
  | nil => simp [Trace.executeProgram]
  | cons stmt stmts inductionHypothesis =>
      rw [Trace.executeProgram, Traced.mem_visits_bind, run.execute]
      simp only [inductionHypothesis]
      constructor
      · rintro (turns | ⟨value, middle, executed, before, other, after, found, later, rfl, rest,
          turns⟩)
        · exact ⟨[], stmt, stmts, last, machine, rfl, rfl, turns⟩
        · refine ⟨stmt :: before, other, after, found, later, rfl, ?_, ?_⟩
          · rw [executeProgram, bind_apply, executed]
            exact rest
          · rwa [List.length_cons, Nat.add_comm before.length, ← Nat.add_assoc]
      · rintro ⟨before, other, after, found, later, split, ran, turns⟩
        cases before with
        | nil =>
            obtain ⟨rfl, rfl⟩ := List.cons.inj split
            cases ran
            exact .inl turns
        | cons head before =>
            obtain ⟨rfl, rfl⟩ := List.cons.inj split
            rw [executeProgram] at ran
            obtain ⟨value, middle, executed, rest⟩ := bind_eq_ok ran
            rw [List.length_cons, Nat.add_comm before.length, ← Nat.add_assoc] at turns
            exact .inr ⟨value, middle, executed, before, other, after, found, later, rfl, rest,
              turns⟩

/-- A run of a program turns to its statements, one after the other, and to all that they lead
to. -/
theorem mem_visits_iff {natives : List Native} {home : Closure → Place} {bound : Nat}
    {program : Program} {visit : Visit} :
    visit ∈ visits natives home bound program ↔
      ∃ before stmt after value machine, program = before ++ stmt :: after ∧
        executeProgram natives bound Machine.root .unit before (Machine.start natives) =
          .ok value machine ∧
        Relation.ReflTransGen (Visit.Leads natives home)
          ⟨bound, Machine.root, machine, .statement ((Place.root 0).child before.length) stmt⟩
          visit := by
  rw [visits, mem_visits_executeProgram]
  simp only [Nat.zero_add, Visit.turnsTo_iff]

section Places

/-- A task at another place. -/
def Task.movedTo (place : Place) : Task → Task
  | .expression _ expr => .expression place expr
  | .expressions _ step exprs => .expressions place step exprs
  | .call callee arguments => .call callee arguments
  | .statement _ stmt => .statement place stmt
  | .statements _ step stmts => .statements place step stmts
  | .body _ inner => .body place inner
  | .block _ inner => .block place inner
  | .whileLoop _ keyword condition inner => .whileLoop place keyword condition inner
  | .forLoop _ name range index inner => .forLoop place name range index inner

def Visit.movedTo (place : Place) (visit : Visit) : Visit :=
  { visit with task := visit.task.movedTo place }

@[simp]
theorem Visit.movedTo_movedTo (first second : Place) (visit : Visit) :
    (visit.movedTo first).movedTo second = visit.movedTo second := by
  obtain ⟨fuel, frame, machine, task⟩ := visit
  cases task <;> rfl

theorem Visit.exists_movedTo_eq (visit : Visit) : ∃ place, visit.movedTo place = visit := by
  obtain ⟨fuel, frame, machine, task⟩ := visit
  cases task
  case call => exact ⟨Place.root 0, rfl⟩
  all_goals exact ⟨_, rfl⟩

/-- The same steps are made at every place. -/
theorem Visit.Calls.movedTo {natives : List Native} {visit called : Visit}
    (calls : visit.Calls natives called) (place : Place) :
    ∃ other, (visit.movedTo place).Calls natives (called.movedTo other) := by
  cases calls
  case call evaluated evaluatedAll => exact ⟨place, .call evaluated evaluatedAll⟩
  case forStop startValue stepValue => exact ⟨_, .forStop startValue stepValue⟩
  all_goals exact ⟨_, by constructor <;> assumption⟩

end Places

section Adequacy

variable {natives : List Native} {home : Closure → Place} {bound : Nat} {program : Program}

/-- What lies behind a visit of a run is visited as well. -/
theorem visits_of_leads {visit called : Visit} (member : visit ∈ visits natives home bound program)
    (leads : visit.Leads natives home called) : called ∈ visits natives home bound program := by
  obtain ⟨before, stmt, after, value, machine, split, executed, path⟩ := mem_visits_iff.1 member
  exact mem_visits_iff.2
    ⟨before, stmt, after, value, machine, split, executed, path.tail leads⟩

/-- A run visits what lies outside the bodies of functions. -/
theorem Visited.mem_visits {visit : Visit} (visited : Visited natives bound program visit) :
    visit ∈ visits natives home bound program := by
  induction visited with
  | top split executed =>
      exact mem_visits_iff.2 ⟨_, _, _, _, _, split, executed, .refl⟩
  | call _ calls member => exact visits_of_leads member (.inl calls)

/-- Up to the places, which values do not tell, a run visits what the walk into the bodies of
functions reaches, and nothing else. -/
theorem reaches_iff_visits (passOn : ∀ native ∈ natives, native.PassesOn) {visit : Visit} :
    (∃ place, Reaches natives bound program (visit.movedTo place)) ↔
      ∃ place, visit.movedTo place ∈ visits natives home bound program := by
  constructor
  · rintro ⟨place, reaches⟩
    suffices ∃ other, (visit.movedTo place).movedTo other ∈ visits natives home bound program by
      simpa using this
    generalize visit.movedTo place = visit at reaches ⊢
    induction reaches with
    | top split executed =>
        exact ⟨_, mem_visits_iff.2 ⟨_, _, _, _, _, split, executed, .refl⟩⟩
    | part _ calls inductionHypothesis =>
        obtain ⟨other, member⟩ := inductionHypothesis
        obtain ⟨next, moved⟩ := calls.movedTo other
        exact ⟨next, visits_of_leads member (.inl moved)⟩
    | enter _ _ _ length _ inductionHypothesis =>
        obtain ⟨other, member⟩ := inductionHypothesis
        refine ⟨_, visits_of_leads member (.inr (.body ?_))⟩
        simpa [Machine.closure] using length
  · rintro ⟨place, member⟩
    suffices ∃ other, Reaches natives bound program ((visit.movedTo place).movedTo other) by
      simpa using this
    obtain ⟨before, stmt, after, value, machine, split, executed, path⟩ := mem_visits_iff.1 member
    generalize visit.movedTo place = visit at path ⊢
    induction path with
    | refl => exact ⟨_, .top split executed⟩
    | tail _ leads inductionHypothesis =>
        obtain ⟨other, reaches⟩ := inductionHypothesis
        rcases leads with calls | enters
        · obtain ⟨next, moved⟩ := calls.movedTo other
          exact ⟨next, .part reaches moved⟩
        · cases enters with
          | body enough =>
              obtain ⟨place, _, _, _, _, inside⟩ := reaches.enters passOn enough
              exact ⟨_, inside⟩

end Adequacy

end Evaluation

end CheckedScript
