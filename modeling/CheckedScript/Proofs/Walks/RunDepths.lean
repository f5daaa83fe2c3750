import CheckedScript.Proofs.Walks.Entries
import Mathlib.Data.List.Induction

/-!
# The depths of the frames of a run

Along the walk of a run every frame is as deep as the place that is visited in it.  The
induction is on the bound: a task ends well if the tasks that it leads to do, and those are
visits of the run again.
-/

namespace CheckedScript

open Typing (Place)

namespace Evaluation

open Eval Scopes

variable {natives : List Native} {bound : Nat} {program : Program}

section Known

variable {machine later : Machine} {closure : Closure}

theorem Known.grown (known : Known natives bound program machine closure)
    (grown : machine.scopes.Grown later.scopes) : Known natives bound program later closure := by
  cases known with
  | made reaches stands old => exact .made reaches stands (old.trans grown)

/-- The frame of a closure is one deeper than the statement that made the closure. -/
theorem Known.depth (known : Known natives bound program machine closure) :
    ∃ place name parameters depth,
      program.nodeAt? place = some (.statement (.function name parameters closure.body), depth) ∧
        closure.name = name.lexeme ∧ closure.frame < machine.next ∧
        machine.scopes.depth closure.frame = depth + 1 := by
  cases known with
  | @made limit frame before place name parameters body reaches stands grown =>
      have new : before.next < (before.nested frame).scopes.frames.size := by
        simp [Machine.nested, Machine.next]
      refine ⟨place, name, parameters, before.scopes.depth frame, stands, rfl,
        Nat.lt_of_lt_of_le new grown.size, ?_⟩
      exact (grown.depth new).trans (depth_nest before.scopes frame)

theorem Machine.Knows.grown {value : Value} (knows : machine.Knows natives bound program value)
    (grown : machine.scopes.Grown later.scopes) : later.Knows natives bound program value :=
  Value.Holds.mono knows fun _ known => known.grown grown

theorem Machine.knows_plain {value : Value} (plain : value.closures = []) :
    machine.Knows natives bound program value :=
  Value.holds_of_closures_eq_nil plain

/-- More frames and the same bindings. -/
theorem Machine.Tame.grown {scopes : Scopes Value} {console : Console}
    (all : scopes.All (machine.Knows natives bound program))
    (grown : machine.scopes.Grown scopes) :
    Machine.Tame natives bound program ⟨scopes, console⟩ :=
  all.mono fun _ knows => Machine.Knows.grown knows grown

theorem Machine.Tame.nested (tame : machine.Tame natives bound program) (frame : FrameId) :
    (machine.nested frame).Tame natives bound program :=
  Machine.Tame.grown (All.nest tame frame) (.nest _ _)

theorem Machine.Tame.defineAll (tame : machine.Tame natives bound program) (frame : FrameId)
    {bindings : Bindings Value}
    (knows : ∀ binding ∈ bindings, machine.Knows natives bound program binding.2) :
    Machine.Tame natives bound program
      { machine with scopes := machine.scopes.defineAll frame bindings } :=
  Machine.Tame.grown (All.defineAll tame frame knows) (.defineAll _ _ _)

theorem Machine.grown_turn (machine : Machine) (frame : FrameId) (name : String) (item : Float) :
    machine.scopes.Grown (machine.turn frame name item).scopes :=
  (Grown.nest _ _).trans (.defineAll _ _ _)

theorem Machine.Tame.turn (tame : machine.Tame natives bound program) (frame : FrameId)
    (name : String) (item : Float) : (machine.turn frame name item).Tame natives bound program :=
  (tame.nested frame).defineAll machine.next
    (List.forall_mem_singleton.2 (Machine.knows_plain rfl))

end Known

section Steps

variable {α : Type} {machine : Machine} {frame : FrameId} {fits : α → Machine → Prop}

theorem stops_of_givesNothing {stop : Stop} (nothing : stop.GivesNothing) (machine : Machine) :
    (course natives bound program).stop stop machine := by
  cases stop with
  | returned value => exact nothing.elim
  | failed | faulted | aborted | exhausted => exact trivial

theorem ends_orStop {result : Except Stop α} (bare : Bare (fun _ => True) result)
    (tame : machine.Tame natives bound program) :
    (course natives bound program).Ends machine
      (fun value after => result = .ok value ∧ machine = after) (orStop result machine) := by
  cases result with
  | ok value => exact .pure tame ⟨rfl, rfl⟩
  | error stop => exact .throw tame (stops_of_givesNothing bare machine)

/-- The values of operators carry no closures at all. -/
theorem ends_plain {result : Except Stop Value} (bare : Bare (fun value => value.closures = []) result)
    (tame : machine.Tame natives bound program) :
    (course natives bound program).Ends machine
      (fun value after => after.Knows natives bound program value) (orStop result machine) := by
  cases result with
  | ok value => exact .pure tame (Machine.knows_plain bare)
  | error stop => exact .throw tame (stops_of_givesNothing bare machine)

theorem ends_lookup (name : String) (tame : machine.Tame natives bound program) :
    (course natives bound program).Ends machine
      (fun value after => after.Knows natives bound program value)
      (lookup frame name machine) := by
  refine Course.Ends.get ?_
  cases found : machine.scopes.get? frame name with
  | some value => exact .pure tame (All.get? tame found)
  | none => exact .throw tame trivial

theorem ends_define {bindings : Bindings Value} (tame : machine.Tame natives bound program)
    (knows : ∀ binding ∈ bindings, machine.Knows natives bound program binding.2) :
    (course natives bound program).Ends machine (fun _ _ => True)
      (define frame bindings machine) :=
  ⟨.defineAll _ _ _, tame.defineAll frame knows, trivial⟩

theorem ends_assign (name : String) {value : Value} (tame : machine.Tame natives bound program)
    (knows : machine.Knows natives bound program value) :
    (course natives bound program).Ends machine (fun _ _ => True)
      (assign frame name value machine) := by
  unfold assign
  dsimp only
  split
  · next owner _ =>
      have known : ∀ binding ∈ [(name, value)], machine.Knows natives bound program binding.2 :=
        List.forall_mem_singleton.2 knows
      exact ⟨.define _ _ _ _, tame.defineAll owner known, trivial⟩
  · exact ⟨.refl _, tame, trivial⟩

theorem ends_requireArity (name : String) (expected found : Nat)
    (tame : machine.Tame natives bound program) :
    (course natives bound program).Ends machine (fun _ after => expected = found ∧ machine = after)
      (requireArity name expected found machine) := by
  unfold requireArity
  split
  · next same => exact .pure tame ⟨same, rfl⟩
  · exact .throw tame trivial

theorem ends_callNative {native : Native} (passesOn : native.PassesOn) {arguments : List Value}
    (paren : Token) (tame : machine.Tame natives bound program)
    (knows : Value.HoldAll (Known natives bound program machine) arguments) :
    (course natives bound program).Ends machine
      (fun value after => after.Knows natives bound program value)
      (callNative native arguments paren machine) := by
  obtain ⟨scopes, console⟩ := machine
  unfold callNative
  cases ended : (native.run arguments console).1 with
  | value found =>
      simp only [ended]
      have carried := passesOn arguments console found ended
      have same : scopes.Grown scopes := .refl _
      exact ⟨same, Machine.Tame.grown tame same,
        fun closure member => (knows closure (carried member)).grown same⟩
  | failed reason =>
      simp only [ended]
      exact ⟨.refl _, Machine.Tame.grown tame (.refl _), trivial⟩
  | aborted reason =>
      simp only [ended]
      exact ⟨.refl _, Machine.Tame.grown tame (.refl _), trivial⟩

theorem ends_catchReturn {body : Eval Value}
    (ends : (course natives bound program).Ends machine
      (fun value after => after.Knows natives bound program value) (body machine)) :
    (course natives bound program).Ends machine
      (fun value after => after.Knows natives bound program value)
      (catchReturn body machine) := by
  unfold catchReturn
  cases equation : body machine with
  | ok value after =>
      rw [equation] at ends
      exact ends
  | error stop after =>
      rw [equation] at ends
      cases stop <;> exact ends

theorem truth_eq_ok {token : Token} {value : Value} {holds : Bool}
    (equation : truth token value = .ok holds) : value = .bool holds := by
  cases value with
  | bool value =>
      cases equation
      rfl
  | number | text | tuple | function | native | range => cases equation

/-- A condition that has been evaluated is a truth value. -/
theorem ends_truth (token : Token) (value : Value) (tame : machine.Tame natives bound program) :
    (course natives bound program).Ends machine
      (fun holds after => value = .bool holds ∧ machine = after)
      (orStop (truth token value) machine) :=
  (ends_orStop (bare_truth value) tame).mono fun _ _ ⟨equation, same⟩ =>
    ⟨truth_eq_ok equation, same⟩

end Steps

section Parts

variable {fuel : Nat} {frame : FrameId} {machine : Machine} {place : Place}

/-- Parts of a task end well. -/
abbrev PartsEnd (natives : List Native) (bound : Nat) (program : Program) (visit : Visit) : Prop :=
  ∀ called, visit.Calls natives called → called.EndsWell natives bound program

theorem endsWell_expression {expr : Expr} (tame : machine.Tame natives bound program)
    (parts : PartsEnd natives bound program ⟨fuel + 1, frame, machine, .expression place expr⟩) :
    Visit.EndsWell natives bound program ⟨fuel + 1, frame, machine, .expression place expr⟩ := by
  unfold Visit.EndsWell
  dsimp only
  cases expr with
  | literal value token => exact .pure tame (Machine.knows_plain (closures_constantValue value))
  | reference name => exact ends_lookup _ tame
  | assign name value =>
      have early := parts _ .assigned
      exact early.bind fun assigned after _ _ tame knows =>
        (ends_assign _ tame knows).bind fun _ _ _ grown tame _ => .pure tame (knows.grown grown)
  | group inner => exact parts _ .inner
  | tuple items =>
      have early := parts _ .items
      exact early.bind fun values after _ _ tame knows => .pure tame knows
  | unary operator token operand =>
      have early := parts _ .operand
      exact early.bind fun value _ _ _ tame _ => ends_plain (bare_applyUnary operator value) tame
  | binary operator token left right =>
      have early := parts _ .left
      refine early.bind fun first middle evaluated _ _ _ => ?_
      have late := parts _ (.right evaluated)
      exact late.bind fun second _ _ _ tame _ =>
        ends_plain (bare_applyBinary operator first second) tame
  | logical operator token left right =>
      have early := parts _ .logicalLeft
      refine early.bind fun value middle evaluated _ tame _ =>
        (ends_truth token value tame).bind fun holds _ _ _ tame ⟨isBool, same⟩ => ?_
      subst isBool same
      have goesOn (goes : holds = decide (operator = .conjunction)) :
          (course natives bound program).Ends middle
            (fun value after => after.Knows natives bound program value)
            ((do
              let second ← evaluate natives fuel frame right
              return .bool (← orStop (truth token second)) : Eval Value) middle) := by
        subst goes
        have late := parts _ (.logicalRight evaluated)
        exact late.bind fun second _ _ _ tame _ =>
          (ends_truth token second tame).bind fun _ _ _ _ tame _ =>
            .pure tame (Machine.knows_plain rfl)
      cases operator <;> cases holds
      · exact .pure tame (Machine.knows_plain rfl)
      · exact goesOn rfl
      · exact goesOn rfl
      · exact .pure tame (Machine.knows_plain rfl)
  | call callee paren arguments =>
      have early := parts _ .callee
      refine early.bind fun function middle evaluated _ _ _ => ?_
      have late := parts _ (.arguments evaluated)
      exact late.bind fun values after evaluatedAll _ _ _ =>
        parts _ (.call evaluated evaluatedAll) paren

theorem endsWell_expressions {step : Nat} {exprs : List Expr}
    (tame : machine.Tame natives bound program)
    (parts : PartsEnd natives bound program
      ⟨fuel + 1, frame, machine, .expressions place step exprs⟩) :
    Visit.EndsWell natives bound program
      ⟨fuel + 1, frame, machine, .expressions place step exprs⟩ := by
  unfold Visit.EndsWell
  dsimp only
  cases exprs with
  | nil => exact .pure tame Value.holdAll_nil
  | cons expr exprs =>
      have early := parts _ .item
      refine early.bind fun value middle evaluated _ _ knows => ?_
      have late := parts _ (.otherItems evaluated)
      exact late.bind fun values _ _ grown tame all =>
        .pure tame (Value.holdAll_cons.2 ⟨knows.grown grown, all⟩)

theorem endsWell_statement {stmt : Stmt} (tame : machine.Tame natives bound program)
    (stands : program.nodeAt? place = some (.statement stmt, machine.scopes.depth frame))
    (reaches : Reaches natives bound program ⟨fuel + 1, frame, machine, .statement place stmt⟩)
    (parts : PartsEnd natives bound program ⟨fuel + 1, frame, machine, .statement place stmt⟩) :
    Visit.EndsWell natives bound program ⟨fuel + 1, frame, machine, .statement place stmt⟩ := by
  have unit {machine : Machine} : machine.Knows natives bound program .unit :=
    Machine.knows_plain rfl
  unfold Visit.EndsWell
  dsimp only
  cases stmt with
  | expression value => exact parts _ .value
  | letValue name declared initializer =>
      have early := parts _ .initializer
      exact early.bind fun value _ _ _ tame knows =>
        (ends_define tame (List.forall_mem_singleton.2 knows)).bind fun _ _ _ _ tame _ =>
          .pure tame unit
  | block body => exact parts _ .block
  | ifThen keyword condition consequent =>
      have early := parts _ .ifCondition
      refine early.bind fun value middle evaluated _ tame _ =>
        (ends_truth keyword value tame).bind fun holds _ _ _ tame ⟨isBool, same⟩ => ?_
      subst isBool same
      cases holds with
      | true =>
          have late := parts _ (.ifConsequent evaluated)
          exact late.bind fun _ _ _ _ tame _ => .pure tame unit
      | false => exact .pure tame unit
  | ifElse keyword condition consequent alternative =>
      have early := parts _ .elseCondition
      refine early.bind fun value middle evaluated _ tame _ =>
        (ends_truth keyword value tame).bind fun holds _ _ _ tame ⟨isBool, same⟩ => ?_
      subst isBool same
      cases holds with
      | true =>
          have late := parts _ (.elseConsequent evaluated)
          exact late.bind fun _ _ _ _ tame _ => .pure tame unit
      | false =>
          have late := parts _ (.alternative evaluated)
          exact late.bind fun _ _ _ _ tame _ => .pure tame unit
  | whileLoop keyword condition body => exact parts _ .whileLoop
  | forLoop name bounds body =>
      obtain ⟨token, start, stop, step⟩ := bounds
      have early := parts _ .forStart
      refine early.bind fun first middle evaluated _ tame _ => ?_
      have turns {width : Option Value} {after : Machine}
          (stepped : StepValue natives fuel frame step middle width after) :
          (course natives bound program).Ends after
            (fun value after => after.Knows natives bound program value)
            ((do
              let last ← evaluate natives fuel frame stop
              let range ← orStop (loopRange token first last width)
              repeatFor natives fuel frame name.lexeme range 0 body : Eval Value) after) := by
        have late := parts _ (.forStop evaluated stepped)
        refine late.bind fun last final reached _ tame _ =>
          (ends_orStop (bare_loopRange first last width) tame).bind
            fun range _ _ _ _ ⟨valid, same⟩ => ?_
        subst same
        exact parts _ (.forLoop evaluated stepped reached valid)
      cases step with
      | none => exact turns .absent
      | some step =>
          have between := parts _ (.forStep evaluated rfl)
          have steps : (course natives bound program).Ends middle
              (fun width after => StepValue natives fuel frame (some step) middle width after)
              ((some <$> evaluate natives fuel frame step : Eval (Option Value)) middle) := by
            rw [← bind_pure_comp]
            exact between.bind fun _ _ evaluated _ tame _ => .pure tame (.written evaluated)
          exact steps.bind fun _ _ _ _ _ stepped => turns stepped
  | function name parameters body =>
      have nested := tame.nested frame
      have known : Known natives bound program (machine.nested frame)
          (machine.closure name parameters body) := .made reaches stands (.refl _)
      have knows : ∀ binding ∈ [(name.lexeme, .function (machine.closure name parameters body))],
          (machine.nested frame).Knows natives bound program binding.2 :=
        List.forall_mem_singleton.2 (Value.holds_function.2 known)
      exact ⟨(Grown.nest _ _).trans (.defineAll _ _ _), nested.defineAll frame knows, unit⟩
  | giveBack keyword value =>
      cases value with
      | none => exact .throw tame unit
      | some value =>
          have early := parts _ .returned
          exact early.bind fun _ _ _ _ tame knows => .throw tame knows

theorem endsWell_statements {step : Nat} {stmts : List Stmt}
    (tame : machine.Tame natives bound program)
    (parts : PartsEnd natives bound program
      ⟨fuel + 1, frame, machine, .statements place step stmts⟩) :
    Visit.EndsWell natives bound program
      ⟨fuel + 1, frame, machine, .statements place step stmts⟩ := by
  unfold Visit.EndsWell
  dsimp only
  cases stmts with
  | nil => exact .pure tame trivial
  | cons stmt stmts =>
      have early := parts _ .first
      exact early.bind fun _ _ executed _ _ _ => parts _ (.others executed)

theorem endsWell_body {body : Block}
    (parts : PartsEnd natives bound program ⟨fuel + 1, frame, machine, .body place body⟩) :
    Visit.EndsWell natives bound program ⟨fuel + 1, frame, machine, .body place body⟩ := by
  unfold Visit.EndsWell
  dsimp only
  obtain ⟨brace, statements, tail⟩ := body
  have early := parts _ .bodyStatements
  refine early.bind fun _ middle executed _ tame _ => ?_
  cases tail with
  | none => exact .pure tame (Machine.knows_plain rfl)
  | some tail => exact parts _ (.bodyTail executed)

theorem endsWell_block {body : Block}
    (parts : PartsEnd natives bound program ⟨fuel + 1, frame, machine, .block place body⟩) :
    Visit.EndsWell natives bound program ⟨fuel + 1, frame, machine, .block place body⟩ := by
  have inner := parts _ .body
  exact Course.Ends.since inner (Grown.nest _ _)

theorem endsWell_whileLoop {keyword : Token} {condition : Expr} {body : Block}
    (parts : PartsEnd natives bound program
      ⟨fuel + 1, frame, machine, .whileLoop place keyword condition body⟩) :
    Visit.EndsWell natives bound program
      ⟨fuel + 1, frame, machine, .whileLoop place keyword condition body⟩ := by
  unfold Visit.EndsWell
  dsimp only
  have early := parts _ .whileCondition
  refine early.bind fun value middle evaluated _ tame _ =>
    (ends_truth keyword value tame).bind fun holds _ _ _ tame ⟨isBool, same⟩ => ?_
  subst isBool same
  cases holds with
  | true =>
      have turn := parts _ (.whileBody evaluated)
      exact turn.bind fun _ _ executed _ _ _ => parts _ (.whileAgain evaluated executed)
  | false => exact .pure tame (Machine.knows_plain rfl)

theorem endsWell_forLoop {name : String} {range : NumberRange Float} {index : Nat} {body : Block}
    (tame : machine.Tame natives bound program)
    (parts : PartsEnd natives bound program
      ⟨fuel + 1, frame, machine, .forLoop place name range index body⟩) :
    Visit.EndsWell natives bound program
      ⟨fuel + 1, frame, machine, .forLoop place name range index body⟩ := by
  unfold Visit.EndsWell
  dsimp only
  unfold repeatFor
  cases found : range.item? index with
  | none => exact .pure tame (Machine.knows_plain rfl)
  | some item =>
      have turned := parts _ (.forBody found)
      exact (Course.Ends.bind turned fun _ _ executed _ _ _ =>
        parts _ (.forAgain found executed)).since (machine.grown_turn frame name item)

end Parts

section Calls

variable {fuel : Nat} {frame : FrameId} {machine : Machine}

/-- The body of a function is executed two frames deeper than the function statement. -/
theorem seated_entered {outer : FrameId} {before : Machine} {place : Place}
    {name : Token} {parameters : List Token} {body : Block} {arguments : List Value}
    (seated : Visit.Seated natives bound program
      ⟨fuel + 1, frame, machine,
        .call (.function (before.closure name parameters body)) arguments⟩)
    (stands : program.nodeAt? place =
      some (.statement (.function name parameters body), before.scopes.depth outer))
    (grown : (before.nested outer).scopes.Grown machine.scopes) :
    Visit.Seated natives bound program
      ⟨fuel, machine.next, machine.entered (before.closure name parameters body) arguments,
        .body (place.child 0) body⟩ := by
  have new : before.next < (before.nested outer).scopes.frames.size := by
    simp [Machine.nested, Machine.next]
  have closureDepth : machine.scopes.depth before.next = before.scopes.depth outer + 1 :=
    (grown.depth new).trans (depth_nest before.scopes outer)
  have bodyDepth : (machine.nested before.next).scopes.depth machine.next =
      before.scopes.depth outer + 2 :=
    (depth_nest machine.scopes before.next).trans (congrArg (· + 1) closureDepth)
  have next : machine.next < (machine.nested before.next).scopes.frames.size := by
    simp [Machine.nested, Machine.next]
  have known := (Value.holdAll_cons.1 seated.given).2
  exact
    { present := by simpa [Machine.entered, Machine.next, Machine.closure] using next
      stands := fun index part isPart => by
        have block : program.nodeAt? (place.child 0) =
            some (.block body, before.scopes.depth outer + 1) :=
          Program.nodeAt?_child stands rfl
        have inside := Program.nodeAt?_inside block isPart
        have same : (machine.entered (before.closure name parameters body) arguments).scopes.depth
            machine.next = before.scopes.depth outer + 2 :=
          ((Grown.defineAll _ _ _).depth next).trans bodyDepth
        rw [same]
        exact inside
      tame := (seated.tame.nested before.next).defineAll machine.next fun binding member =>
        (Value.HoldAll.zip known _ binding member).mono fun _ known => known.grown (.nest _ _)
      given := Value.holdAll_nil }

theorem endsWell_call (passOn : ∀ native ∈ natives, native.PassesOn) {callee : Value}
    {arguments : List Value}
    (reaches : Reaches natives bound program ⟨fuel + 1, frame, machine, .call callee arguments⟩)
    (seated : Visit.Seated natives bound program
      ⟨fuel + 1, frame, machine, .call callee arguments⟩)
    (run : ∀ visit : Visit, visit.fuel = fuel → Reaches natives bound program visit →
      visit.Seated natives bound program → visit.EndsWell natives bound program) :
    Visit.EndsWell natives bound program
      ⟨fuel + 1, frame, machine, .call callee arguments⟩ := by
  intro paren
  have tame := seated.tame
  obtain ⟨knows, known⟩ := Value.holdAll_cons.1 seated.given
  cases callee with
  | native key signature =>
      refine (ends_requireArity _ _ _ tame).bind fun _ _ _ _ tame ⟨_, same⟩ => ?_
      subst same
      cases found : Native.find? natives key with
      | some native =>
          exact ends_callNative (passOn native (List.mem_of_find?_eq_some found)) paren tame known
      | none => exact .throw tame trivial
  | function closure =>
      refine (ends_requireArity _ _ _ tame).bind fun _ _ _ _ tame ⟨arity, same⟩ => ?_
      subst same
      have entered : machine.scopes.Grown (machine.entered closure arguments).scopes :=
        (Grown.nest _ _).trans (.defineAll _ _ _)
      cases Value.holds_function.1 knows with
      | @made limit outer before place name parameters body origin stands grown =>
          have length : parameters.length = arguments.length := by
            rw [← arity]
            exact (List.length_map _).symm
          have inner := run _ rfl (.enter origin grown reaches length)
            (seated_entered seated stands grown)
          exact Course.Ends.since (ends_catchReturn inner) entered
  | number | text | bool | tuple | range => exact .throw tame trivial

theorem Visit.Calls.fuel_eq {visit called : Visit} (calls : visit.Calls natives called) :
    visit.fuel = called.fuel + 1 := by
  cases calls <;> rfl

/-- What is known of a machine that a task has come to on the way to one of its parts. -/
structure Visit.Follows (natives : List Native) (bound : Nat) (program : Program)
    (visit called : Visit) : Prop where
  grown : visit.machine.scopes.Grown called.machine.scopes
  tame : called.machine.Tame natives bound program
  given : Value.HoldAll (Known natives bound program called.machine) called.task.given

theorem Visit.Seated.next {visit called : Visit} (seated : visit.Seated natives bound program)
    (calls : visit.Calls natives called) (follows : visit.Follows natives bound program called) :
    called.Seated natives bound program := by
  rcases calls.standsAt seated.stands with ⟨same, stands⟩ | ⟨new, nested, stands⟩
  · exact
      { present := by
          rw [same]
          exact Nat.lt_of_lt_of_le seated.present follows.grown.size
        stands := by
          rw [same, follows.grown.depth seated.present]
          exact stands
        tame := follows.tame
        given := follows.given }
  · have next : visit.machine.next < (visit.machine.nested visit.frame).scopes.frames.size := by
      simp [Machine.nested, Machine.next]
    exact
      { present := by
          rw [new]
          exact Nat.lt_of_lt_of_le next nested.size
        stands := by
          rw [new, nested.depth next]
          have deeper := depth_nest visit.machine.scopes visit.frame
          exact deeper.symm ▸ stands
        tame := follows.tame
        given := follows.given }

/-- The step of a loop, if it is written, is evaluated between the bounds. -/
theorem StepValue.follows {step : Option Expr} {value : Option Value} {middle after : Machine}
    (stepped : StepValue natives fuel frame step middle value after)
    (tame : middle.Tame natives bound program)
    (ends : ∀ expr, step = some expr →
      (course natives bound program).Ends middle
        (fun value after => after.Knows natives bound program value)
        (evaluate natives fuel frame expr middle)) :
    middle.scopes.Grown after.scopes ∧ after.Tame natives bound program := by
  cases stepped with
  | absent => exact ⟨.refl _, tame⟩
  | written evaluated =>
      obtain ⟨grown, tame, _⟩ := (ends _ rfl).of_ok evaluated
      exact ⟨grown, tame⟩

/-- On the way to a part the parts before it are run, and those end well. -/
theorem Visit.Calls.follows {visit called : Visit}
    (run : ∀ visit : Visit, visit.fuel = fuel → Reaches natives bound program visit →
      visit.Seated natives bound program → visit.EndsWell natives bound program)
    (size : visit.fuel = fuel + 1) (reaches : Reaches natives bound program visit)
    (seated : visit.Seated natives bound program) (calls : visit.Calls natives called) :
    visit.Follows natives bound program called := by
  have ends {sibling : Visit} (calls : visit.Calls natives sibling)
      (follows : visit.Follows natives bound program sibling) :
      sibling.EndsWell natives bound program :=
    run sibling (Nat.succ.inj (calls.fuel_eq.symm.trans size)) (.part reaches calls)
      (seated.next calls follows)
  have tame := seated.tame
  -- A part that is run in the machine of the task itself.
  have early {sibling : Visit} (calls : visit.Calls natives sibling)
      (same : sibling.machine = visit.machine) (nothing : sibling.task.given = []) :
      sibling.EndsWell natives bound program := by
    refine ends calls ⟨?_, ?_, ?_⟩
    · rw [same]
      exact .refl _
    · rw [same]
      exact tame
    · rw [nothing]
      exact Value.holdAll_nil
  cases calls with
  | assigned | inner | items | operand | left | logicalLeft | callee | item | value | initializer
  | block | ifCondition | elseCondition | whileLoop | whileCondition | forStart | returned
  | bodyStatements | first => exact ⟨.refl _, tame, Value.holdAll_nil⟩
  | right evaluated =>
      obtain ⟨grown, tame, _⟩ := (early .left rfl rfl).of_ok evaluated
      exact ⟨grown, tame, Value.holdAll_nil⟩
  | logicalRight evaluated =>
      obtain ⟨grown, tame, _⟩ := (early .logicalLeft rfl rfl).of_ok evaluated
      exact ⟨grown, tame, Value.holdAll_nil⟩
  | arguments evaluated =>
      obtain ⟨grown, tame, _⟩ := (early .callee rfl rfl).of_ok evaluated
      exact ⟨grown, tame, Value.holdAll_nil⟩
  | call evaluated evaluatedAll =>
      obtain ⟨grown, tame, knows⟩ := (early .callee rfl rfl).of_ok evaluated
      obtain ⟨further, tame, known⟩ :=
        (ends (.arguments evaluated) ⟨grown, tame, Value.holdAll_nil⟩).of_ok evaluatedAll
      exact ⟨grown.trans further, tame, Value.holdAll_cons.2 ⟨knows.grown further, known⟩⟩
  | otherItems evaluated =>
      obtain ⟨grown, tame, _⟩ := (early .item rfl rfl).of_ok evaluated
      exact ⟨grown, tame, Value.holdAll_nil⟩
  | ifConsequent evaluated =>
      obtain ⟨grown, tame, _⟩ := (early .ifCondition rfl rfl).of_ok evaluated
      exact ⟨grown, tame, Value.holdAll_nil⟩
  | elseConsequent evaluated | alternative evaluated =>
      obtain ⟨grown, tame, _⟩ := (early .elseCondition rfl rfl).of_ok evaluated
      exact ⟨grown, tame, Value.holdAll_nil⟩
  | whileBody evaluated =>
      obtain ⟨grown, tame, _⟩ := (early .whileCondition rfl rfl).of_ok evaluated
      exact ⟨grown, tame, Value.holdAll_nil⟩
  | whileAgain evaluated executed =>
      obtain ⟨grown, tame, _⟩ := (early .whileCondition rfl rfl).of_ok evaluated
      obtain ⟨further, tame, _⟩ :=
        (ends (.whileBody evaluated) ⟨grown, tame, Value.holdAll_nil⟩).of_ok executed
      exact ⟨grown.trans further, tame, Value.holdAll_nil⟩
  | forStep evaluated _ =>
      obtain ⟨grown, tame, _⟩ := (early .forStart rfl rfl).of_ok evaluated
      exact ⟨grown, tame, Value.holdAll_nil⟩
  | forStop evaluated stepped =>
      obtain ⟨grown, tame, _⟩ := (early .forStart rfl rfl).of_ok evaluated
      obtain ⟨further, tame⟩ := stepped.follows tame fun _ shape =>
        ends (.forStep evaluated shape) ⟨grown, tame, Value.holdAll_nil⟩
      exact ⟨grown.trans further, tame, Value.holdAll_nil⟩
  | forLoop evaluated stepped reached _ =>
      obtain ⟨grown, tame, _⟩ := (early .forStart rfl rfl).of_ok evaluated
      obtain ⟨further, tame⟩ := stepped.follows tame fun _ shape =>
        ends (.forStep evaluated shape) ⟨grown, tame, Value.holdAll_nil⟩
      obtain ⟨last, tame, _⟩ :=
        (ends (.forStop evaluated stepped) ⟨grown.trans further, tame, Value.holdAll_nil⟩).of_ok
          reached
      exact ⟨(grown.trans further).trans last, tame, Value.holdAll_nil⟩
  | forBody found => exact ⟨Machine.grown_turn .., tame.turn _ _ _, Value.holdAll_nil⟩
  | forAgain found executed =>
      obtain ⟨further, tame, _⟩ :=
        (ends (.forBody found) ⟨Machine.grown_turn .., tame.turn _ _ _, Value.holdAll_nil⟩).of_ok
          executed
      exact ⟨(Machine.grown_turn ..).trans further, tame, Value.holdAll_nil⟩
  | body => exact ⟨.nest _ _, tame.nested _, Value.holdAll_nil⟩
  | bodyTail executed =>
      obtain ⟨grown, tame, _⟩ := (early .bodyStatements rfl rfl).of_ok executed
      exact ⟨grown, tame, Value.holdAll_nil⟩
  | others executed =>
      obtain ⟨grown, tame, _⟩ := (early .first rfl rfl).of_ok executed
      exact ⟨grown, tame, Value.holdAll_nil⟩

end Calls

section Run

theorem executeProgram_concat {fuel : Nat} {frame : FrameId} {last value : Value}
    {stmts : List Stmt} {stmt : Stmt} {machine after : Machine}
    (equation : executeProgram natives fuel frame last (stmts ++ [stmt]) machine =
      .ok value after) :
    ∃ before middle, executeProgram natives fuel frame last stmts machine = .ok before middle ∧
      execute natives fuel frame stmt middle = .ok value after := by
  induction stmts generalizing last machine with
  | nil =>
      obtain ⟨_, _, executed, rest⟩ := bind_eq_ok equation
      obtain ⟨rfl, rfl⟩ := pure_eq_ok rest
      exact ⟨last, machine, rfl, executed⟩
  | cons head stmts inductionHypothesis =>
      rw [List.cons_append, executeProgram] at equation
      obtain ⟨_, _, first, rest⟩ := bind_eq_ok equation
      obtain ⟨before, middle, executedBefore, executedStmt⟩ := inductionHypothesis rest
      refine ⟨before, middle, ?_, executedStmt⟩
      rw [executeProgram, bind_apply, first]
      exact executedBefore

/-- A new machine binds native functions in its root frame, and nothing else. -/
theorem tame_start : (Machine.start natives).Tame natives bound program := by
  refine All.defineAll ?_ _ ?_
  · intro frame member binding bound
    obtain rfl := Array.mem_singleton.1 member
    cases bound
  · intro binding member
    obtain ⟨native, _, rfl⟩ := List.mem_map.1 member
    exact Machine.knows_plain rfl

theorem seated_top {machine : Machine} {before after : List Stmt} {stmt : Stmt}
    (split : program = before ++ stmt :: after)
    (grown : (Machine.start natives).scopes.Grown machine.scopes)
    (tame : machine.Tame natives bound program) :
    Visit.Seated natives bound program
      ⟨bound, Machine.root, machine, .statement ((Place.root 0).child before.length) stmt⟩ := by
  have root : Machine.root < (Machine.start natives).scopes.frames.size := by
    simp [Machine.start, Machine.root, Scopes.root, Scopes.addRoot, Scopes.add]
  have shallow : (Machine.start natives).scopes.depth Machine.root = 0 := by
    rw [Scopes.depth, Machine.start, ancestors_defineAll]
    rfl
  exact
    { present := Nat.lt_of_lt_of_le root grown.size
      stands := by
        have found : program[before.length]? = some stmt := by
          simp [split]
        rw [grown.depth root, shallow]
        exact Program.nodeAt?_top found
      tame := tame
      given := Value.holdAll_nil }

variable (passOn : ∀ native ∈ natives, native.PassesOn)

include passOn

/-- Whatever a run visits in a frame as deep as its place ends well. -/
theorem endsWell (fuel : Nat) (visit : Visit) (size : visit.fuel = fuel)
    (reaches : Reaches natives bound program visit)
    (seated : visit.Seated natives bound program) : visit.EndsWell natives bound program := by
  induction fuel generalizing visit with
  | zero =>
      obtain ⟨_, frame, machine, task⟩ := visit
      subst size
      cases task with
      | call => exact fun _ => ⟨.refl _, seated.tame, trivial⟩
      | expression | expressions | statement | statements | body | block | whileLoop
      | forLoop => exact ⟨.refl _, seated.tame, trivial⟩
  | succ fuel run =>
      have parts : PartsEnd natives bound program visit := fun called calls =>
        run called (Nat.succ.inj (calls.fuel_eq.symm.trans size)) (.part reaches calls)
          (seated.next calls (calls.follows run size reaches seated))
      obtain ⟨_, frame, machine, task⟩ := visit
      subst size
      have tame := seated.tame
      cases task with
      | expression place expr => exact endsWell_expression tame parts
      | expressions place step exprs => exact endsWell_expressions tame parts
      | call callee arguments => exact endsWell_call passOn reaches seated run
      | statement place stmt => exact endsWell_statement tame seated.stands reaches parts
      | statements place step stmts => exact endsWell_statements tame parts
      | body place inner => exact endsWell_body parts
      | block place inner => exact endsWell_block parts
      | whileLoop place keyword condition inner => exact endsWell_whileLoop parts
      | forLoop place name range index inner => exact endsWell_forLoop tame parts

/-- The statements before another one leave behind what is known of runs. -/
theorem tame_of_executeProgram {before after : List Stmt} {value : Value} {machine : Machine}
    (split : program = before ++ after)
    (executed : executeProgram natives bound Machine.root .unit before (Machine.start natives) =
      .ok value machine) :
    (Machine.start natives).scopes.Grown machine.scopes ∧ machine.Tame natives bound program := by
  induction before using List.reverseRecOn generalizing after value machine with
  | nil =>
      obtain ⟨-, rfl⟩ := pure_eq_ok executed
      exact ⟨.refl _, tame_start⟩
  | append_singleton before stmt inductionHypothesis =>
      rw [List.append_assoc] at split
      obtain ⟨_, middle, executedBefore, executedStmt⟩ := executeProgram_concat executed
      obtain ⟨grown, tame⟩ := inductionHypothesis split executedBefore
      have ends := endsWell passOn bound _ rfl (.top split executedBefore)
        (seated_top split grown tame)
      obtain ⟨further, tame, _⟩ := Course.Ends.of_ok ends executedStmt
      exact ⟨grown.trans further, tame⟩

/-- Every visit of a run is in a frame as deep as its place. -/
theorem Reaches.seated {visit : Visit} (reaches : Reaches natives bound program visit) :
    visit.Seated natives bound program := by
  induction reaches with
  | top split executed =>
      obtain ⟨grown, tame⟩ := tame_of_executeProgram passOn split executed
      exact seated_top split grown tame
  | part reaches calls seated =>
      exact seated.next calls (calls.follows (endsWell passOn _) calls.fuel_eq reaches seated)
  | enter _ grown _ _ origin seated => exact seated_entered seated origin.stands grown

/-- What a run visits ends well. -/
theorem Reaches.endsWell {visit : Visit} (reaches : Reaches natives bound program visit) :
    visit.EndsWell natives bound program :=
  Evaluation.endsWell passOn _ visit rfl reaches (reaches.seated passOn)

/-- The body of every function that a run calls is visited, at the place of the function
statement that made the function. -/
theorem Reaches.enters {fuel : Nat} {caller : FrameId} {machine : Machine} {closure : Closure}
    {arguments : List Value}
    (reaches : Reaches natives bound program
      ⟨fuel + 1, caller, machine, .call (.function closure) arguments⟩)
    (length : closure.parameters.length = arguments.length) :
    ∃ place name parameters depth,
      program.nodeAt? place = some (.statement (.function name parameters closure.body), depth) ∧
        Reaches natives bound program
          ⟨fuel, machine.next, machine.entered closure arguments,
            .body (place.child 0) closure.body⟩ := by
  have known := (Value.holdAll_cons.1 (reaches.seated passOn).given).1
  cases Value.holds_function.1 known with
  | @made limit frame before place name parameters body origin stands grown =>
      have same : parameters.length = arguments.length := by
        rw [← length]
        exact (List.length_map _).symm
      exact ⟨place, name, parameters, _, stands, .enter origin grown reaches same⟩

end Run

end Evaluation

end CheckedScript
