import CheckedScript.Proofs.Typing.Inhabits
import CheckedScript.Proofs.Walks.Checked

/-!
# Runs that agree with checks

A program without functions is run and checked by two walks over the same tree.
The frames of the run and the frames of the check agree as long as they bind the
same names, to values on one side and to types of these values on the other.
Whatever part of the tree is evaluated to a value, the value belongs to the type
of the part, and the frames agree afterwards.
-/

namespace CheckedScript

open Typing Evaluation Eval

/-- The values of a type in a program without functions. -/
abbrev Belongs (library : List Native) (value : Value) (type : Ty) : Prop :=
  Inhabits library (fun _ _ _ => False) type value

/-- The values of several types. -/
abbrev BelongAll (library : List Native) (values : List Value) (types : List Ty) : Prop :=
  InhabitAll library (fun _ _ _ => False) types values

theorem noTuple (closure : Closure) (identifier : Nat) :
    ¬ (fun _ _ _ => False : Closure → String → Nat → Prop) closure "tuple" identifier :=
  not_false

/-- From a frame of a run and a frame of a check on, the same names are bound, and
the values belong to the types. -/
structure Agrees (library : List Native) (machine : Machine) (frame : FrameId) (state : State)
    (other : FrameId) : Prop where
  ordered : machine.scopes.Ordered
  present : frame < machine.scopes.frames.size
  alike : Scopes.Alike (Belongs library) machine.scopes frame state.scopes other

namespace Agrees

variable {library : List Native} {machine : Machine} {frame other : FrameId} {state later : State}

theorem transfer (agrees : Agrees library machine frame state other)
    (same : SameView other state later) : Agrees library machine frame later other :=
  { agrees with
    alike := agrees.alike.congr rfl (fun _ _ => rfl) same.path same.bindings }

theorem console (agrees : Agrees library machine frame state other) (console : Console) :
    Agrees library { machine with console := console } frame state other :=
  ⟨agrees.ordered, agrees.present, agrees.alike⟩

/-- The frames of a block. -/
theorem nested (agrees : Agrees library machine frame state other) (wellFormed : state.WellFormed)
    (present : other < state.scopes.frames.size) :
    Agrees library (machine.nested frame) machine.next (state.nested other) state.next :=
  { ordered := agrees.ordered.nest agrees.present
    present := by simp [Machine.nested, Machine.next]
    alike := agrees.alike.nest agrees.ordered wellFormed.ordered agrees.present present }

/-- The frames of a turn of a loop. -/
theorem turn (agrees : Agrees library machine frame state other) (wellFormed : state.WellFormed)
    (present : other < state.scopes.frames.size) (name : String) (item : Float) :
    Agrees library (machine.turn frame name item) machine.next (state.turn other name)
      state.next := by
  have nested := agrees.nested wellFormed present
  exact
    { ordered := nested.ordered.define _ _ _
      present := by simp [Machine.turn, Machine.nested, Machine.next]
      alike := nested.alike.define nested.ordered (wellFormed.ordered.nest present) nested.present
        (by simp [State.nested, State.next]) name trivial }

/-- A name is bound on both sides. -/
theorem bind (agrees : Agrees library machine frame state other) (wellFormed : state.WellFormed)
    (present : other < state.scopes.frames.size) (name : String) {value : Value} {type : Ty}
    (belongs : Belongs library value type) :
    Agrees library { machine with scopes := machine.scopes.define frame name value } frame
      (state.bind other name type) other where
  ordered := agrees.ordered.define _ _ _
  present := by simpa using agrees.present
  alike := agrees.alike.define agrees.ordered wellFormed.ordered agrees.present present name belongs

/-- A block is left for the frames around it. -/
theorem leave {before : Machine} {nested : FrameId}
    (agrees : Agrees library machine before.next state nested)
    (start : Agrees library before frame later other)
    (grown : (before.nested frame).scopes.Grown machine.scopes)
    (inside : state.scopes.ancestors nested = later.scopes.path other)
    (same : SameView other later state) : Agrees library machine frame later other := by
  have grownBefore : before.scopes.Grown machine.scopes := (Scopes.Grown.nest _ frame).trans grown
  have machineInside : machine.scopes.ancestors before.next = machine.scopes.path frame := by
    rw [grown.ancestors before.next (by simp [Machine.nested, Machine.next]),
      grownBefore.path start.present]
    exact Scopes.ancestors_nest before.scopes frame
  have around : Agrees library machine frame state other :=
    { ordered := agrees.ordered
      present := Nat.lt_of_lt_of_le start.present grownBefore.size
      alike := agrees.alike.outer machineInside (inside.trans same.path.symm) }
  exact around.transfer same.symm

end Agrees

/-- The frame of a block hangs on the frame around the block, which nobody has
touched. -/
theorem Typing.StmtsChecked.outside {natives : Bindings Signature} {bound : Nat}
    {program : Program} {final : State} {frame : FrameId} {place : Place} {before after : State}
    {stmts : List Stmt}
    (checked : StmtsChecked natives bound program final before.next place 0 stmts
      (before.nested frame) after)
    (wellFormed : before.WellFormed) (present : frame < before.scopes.frames.size) :
    after.scopes.ancestors before.next = before.scopes.path frame ∧
      SameView frame before after := by
  obtain ⟨⟨fuel, _, equation⟩, within, _⟩ := checked
  have effect := ((Check.allKeep fuel).checkAll before.next place 0 stmts (before.nested frame)
    within.present).effect equation
  have grown : before.scopes.Grown after.scopes := (Scopes.Grown.nest _ frame).trans effect.grown
  refine ⟨?_, grown.path present, fun candidate member => ?_⟩
  · rw [effect.grown.ancestors before.next within.present]
    exact Scopes.ancestors_nest before.scopes frame
  · have lower := wellFormed.ordered.mem_path_lt present member
    rw [effect.bindings candidate (Nat.lt_of_lt_of_le lower (Scopes.Grown.nest _ frame).size)
      fun inside => Nat.ne_of_lt lower inside]
    exact Scopes.bindings_nest_of_lt _ _ lower

/-- What a part of a run leaves behind that ends with a value. -/
structure Settles (library : List Native) (value : Value) (type : Ty) (machine after : Machine)
    (frame : FrameId) (state : State) (other : FrameId) : Prop where
  belongs : Belongs library value type
  grown : machine.scopes.Grown after.scopes
  agrees : Agrees library after frame state other

/-- The type that a native function of a given type gives back. -/
def CallTyped (callee : Ty) (arguments : List Ty) (result : Ty) : Prop :=
  callee = .unknown ∨ ∃ name parameters returned, callee = .native name parameters returned ∧
    nativeCallType name parameters returned arguments = .ok result

section Values

variable (library : List Native) (natives : Bindings Signature) (bound : Nat) (program : Program)
  (final : State)

/-- With a bound on the nesting, what is evaluated to a value agrees with its
check. -/
structure AllSettle (fuel : Nat) : Prop where
  evaluate : ∀ {frame other place expr type before after machine value later},
    ExprChecked natives bound program final other place expr type before after →
    Agrees library machine frame before other →
    evaluate library fuel frame expr machine = .ok value later →
    Settles library value type machine later frame before other
  evaluateAll : ∀ {frame other place step exprs types before after machine values later},
    ExprsChecked natives bound program final other place step exprs types before after →
    Agrees library machine frame before other →
    evaluateAll library fuel frame exprs machine = .ok values later →
    BelongAll library values types ∧ machine.scopes.Grown later.scopes ∧
      Agrees library later frame before other
  execute : ∀ {frame other place stmt type before after machine value later},
    StmtChecked natives bound program final other place stmt type before after →
    stmt.isShaped = true → Agrees library machine frame before other →
    execute library fuel frame stmt machine = .ok value later →
    Settles library value type machine later frame after other
  executeAll : ∀ {frame other place step stmts before after machine later},
    StmtsChecked natives bound program final other place step stmts before after →
    Stmt.areShaped stmts = true → Agrees library machine frame before other →
    executeAll library fuel frame stmts machine = .ok () later →
    machine.scopes.Grown later.scopes ∧ Agrees library later frame after other
  executeBody : ∀ {frame other place body type before after machine value later},
    BlockChecked natives bound program final other place body type before after →
    body.isShaped = true → Agrees library machine frame (before.nested other) before.next →
    executeBody library fuel frame body machine = .ok value later →
    ∃ last : State, last.scopes.ancestors before.next = before.scopes.path other ∧
      SameView other before last ∧ Settles library value type machine later frame last before.next
  executeBlock : ∀ {frame other place body type before after machine value later},
    BlockChecked natives bound program final other place body type before after →
    body.isShaped = true → Agrees library machine frame before other →
    executeBlock library fuel frame body machine = .ok value later →
    Settles library value type machine later frame before other
  repeatWhile : ∀ {frame other condition found body type before middle after machine value later
      keyword} {place : Place},
    ExprChecked natives bound program final other (place.child 0) condition found before middle →
    BlockChecked natives bound program final other (place.child 1) body type middle after →
    body.isShaped = true → Agrees library machine frame before other →
    repeatWhile library fuel frame keyword condition body machine = .ok value later →
    Settles library value .unit machine later frame before other
  repeatFor : ∀ {frame other name range index body type state after machine value later}
      {place : Place},
    BlockChecked natives bound program final state.next (place.child 3) body type
      (state.turn other name) after →
    state.WellFormed → other < state.scopes.frames.size →
    body.isShaped = true → Agrees library machine frame state other →
    repeatFor library fuel frame name range index body machine = .ok value later →
    Settles library value .unit machine later frame state other

end Values

namespace AllSettle

variable {library : List Native} {natives : Bindings Signature} {bound : Nat} {program : Program}
  {final : State} {fuel : Nat} {frame other : FrameId} {place : Place} {before after : State}
  {machine later : Machine} {type : Ty} {value : Value}

theorem lookup_eq_ok {name : String} (equation : lookup frame name machine = .ok value later) :
    machine.scopes.get? frame name = some value ∧ machine = later := by
  rw [lookup, get_bind_apply] at equation
  cases found : machine.scopes.get? frame name with
  | some found =>
      rw [found] at equation
      obtain ⟨rfl, same⟩ := pure_eq_ok equation
      exact ⟨rfl, same⟩
  | none =>
      rw [found] at equation
      cases equation

theorem assign_eq_ok {name : String}
    (equation : Eval.assign frame name value machine = .ok () later) :
    ∃ owner, machine.scopes.owner? frame name = some owner ∧
      later = { machine with scopes := machine.scopes.define owner name value } := by
  obtain ⟨scopes, console⟩ := machine
  unfold Eval.assign at equation
  dsimp only at equation ⊢
  cases found : scopes.owner? frame name with
  | some owner =>
      rw [found] at equation
      cases equation
      exact ⟨owner, rfl, rfl⟩
  | none =>
      rw [found] at equation
      cases equation

/-- What is called is a native function, and it gives back what its type says. -/
theorem call (keepTypes : Native.KeepTypes library) {callee : Value} {arguments : List Value}
    {calleeType : Ty} {argumentTypes : List Ty} {paren : Token}
    (belongs : Belongs library callee calleeType)
    (typed : CallTyped calleeType argumentTypes type)
    (equation : call library fuel callee arguments paren machine = .ok value later) :
    Belongs library value type ∧ later.scopes = machine.scopes := by
  cases fuel with
  | zero => cases equation
  | succ fuel =>
      rcases typed with rfl | ⟨name, parameters, returned, rfl, typed⟩
      · cases belongs.isDefinite noTuple
      obtain ⟨native, key, rfl, found, signature⟩ := Inhabits.native_iff.1 belongs
      rw [Eval.call] at equation
      obtain ⟨_, middle, required, rest⟩ := bind_eq_ok equation
      obtain ⟨_, rfl⟩ := requireArity_eq_ok required
      rw [found] at rest
      have result : native.signature.result = type := by
        rw [Signature.type, Ty.native.injEq] at signature
        rw [signature.2.2]
        unfold nativeCallType at typed
        split at typed
        · cases typed
        · split at typed
          · cases typed
          · exact Except.ok.inj typed
      have within := keepTypes (fun _ _ _ => False) _ _ found arguments machine.console
      dsimp only [callNative] at rest
      cases ran : (native.run arguments machine.console).1 with
      | value given =>
          rw [ran] at rest within
          cases rest
          exact ⟨result ▸ within, rfl⟩
      | failed message =>
          rw [ran] at rest
          cases rest
      | aborted code =>
          rw [ran] at rest
          cases rest

theorem evaluate_reference {name : Token}
    (checked : ExprChecked natives bound program final other place (.reference name) type
      before after)
    (agrees : Agrees library machine frame before other)
    (equation : lookup frame name.lexeme machine = .ok value later) :
    Settles library value type machine later frame before other := by
  obtain ⟨found, rfl⟩ := lookup_eq_ok equation
  refine ⟨?_, .refl _, agrees⟩
  rcases agrees.alike.get? name.lexeme with ⟨first, second, foundFirst, foundSecond, belongs⟩ |
    ⟨none, _⟩
  · rw [found, Option.some.injEq] at foundFirst
    rw [checked.reference, Option.some.injEq] at foundSecond
    rw [foundFirst, foundSecond]
    exact belongs
  · rw [found] at none
    cases none

/-- A declared type of a name is that of the value it has, so a compatible value
may take its place. -/
theorem evaluate_assign {name : Token} {expr : Expr}
    (settle : AllSettle library natives bound program final fuel)
    (checked : ExprChecked natives bound program final other place (.assign name expr) type
      before after)
    (agrees : Agrees library machine frame before other)
    (equation : Eval.evaluate library (fuel + 1) frame (.assign name expr) machine =
      .ok value later) :
    Settles library value type machine later frame before other := by
  rw [Eval.evaluate] at equation
  obtain ⟨assigned, middle, evaluated, rest⟩ := bind_eq_ok equation
  obtain ⟨_, last, assigns, rest⟩ := bind_eq_ok rest
  obtain ⟨rfl, rfl⟩ := pure_eq_ok rest
  obtain ⟨found, _, checkedValue, declared, compatible⟩ := checked.assign
  have settled := settle.evaluate checkedValue agrees evaluated
  obtain ⟨owner, owns, rfl⟩ := assign_eq_ok assigns
  have belongs : Belongs library assigned type := by
    rcases settled.agrees.alike.get? name.lexeme with ⟨_, _, _, foundType, old⟩ | ⟨_, none⟩
    · rw [declared, Option.some.injEq] at foundType
      subst foundType
      exact settled.belongs.of_compatible noTuple (old.isDefinite noTuple) compatible
    · rw [declared] at none
      cases none
  exact
    { belongs := belongs
      grown := settled.grown.trans (.define _ _ _ _)
      agrees :=
        { ordered := settled.agrees.ordered.define _ _ _
          present := by simpa using settled.agrees.present
          alike := settled.agrees.alike.assign settled.agrees.ordered settled.agrees.present owns
            declared belongs } }

/-- Two expressions, one after the other. -/
theorem operands {left right : Expr} {leftType rightType : Ty} {middleState last : State}
    {middle : Machine} {first second : Value} {inner outer : Place}
    (settle : AllSettle library natives bound program final fuel)
    (checkedLeft : ExprChecked natives bound program final other inner left leftType before
      middleState)
    (checkedRight : ExprChecked natives bound program final other outer right rightType
      middleState last)
    (agrees : Agrees library machine frame before other)
    (evaluatedLeft : Eval.evaluate library fuel frame left machine = .ok first middle)
    (evaluatedRight : Eval.evaluate library fuel frame right middle = .ok second later) :
    Belongs library first leftType ∧ Belongs library second rightType ∧
      machine.scopes.Grown later.scopes ∧ Agrees library later frame before other := by
  have same := checkedLeft.sameView
  have settledLeft := settle.evaluate checkedLeft agrees evaluatedLeft
  have settledRight :=
    settle.evaluate checkedRight (settledLeft.agrees.transfer same) evaluatedRight
  exact ⟨settledLeft.belongs, settledRight.belongs, settledLeft.grown.trans settledRight.grown,
    settledRight.agrees.transfer same.symm⟩

theorem evaluate_logical {operator : LogicalOperator} {token : Token} {left right : Expr}
    (settle : AllSettle library natives bound program final fuel)
    (checked : ExprChecked natives bound program final other place
      (.logical operator token left right) type before after)
    (agrees : Agrees library machine frame before other)
    (equation : Eval.evaluate library (fuel + 1) frame (.logical operator token left right)
      machine = .ok value later) :
    Settles library value type machine later frame before other := by
  obtain ⟨leftType, rightType, _, _, checkedLeft, checkedRight, _, _, rfl⟩ := checked.logical
  rw [Eval.evaluate] at equation
  obtain ⟨first, middle, evaluatedLeft, rest⟩ := bind_eq_ok equation
  obtain ⟨holds, _, tested, rest⟩ := bind_eq_ok rest
  obtain ⟨_, rfl⟩ := orStop_eq_ok tested
  have settledLeft := settle.evaluate checkedLeft agrees evaluatedLeft
  -- Either the left operand decides or the right operand does.
  have bothCases : (∃ truth, value = .bool truth ∧ middle = later) ∨
      (do
        let second ← Eval.evaluate library fuel frame right
        return .bool (← orStop (truth token second)) : Eval Value) middle = .ok value later := by
    cases operator <;> cases holds
    case conjunction.false | disjunction.true =>
        obtain ⟨rfl, rfl⟩ := pure_eq_ok rest
        exact .inl ⟨_, rfl, rfl⟩
    case conjunction.true | disjunction.false => exact .inr rest
  rcases bothCases with ⟨truth, rfl, rfl⟩ | rest
  · exact ⟨trivial, settledLeft.grown, settledLeft.agrees⟩
  · obtain ⟨second, last, evaluatedRight, rest⟩ := bind_eq_ok rest
    obtain ⟨_, _, tested, rest⟩ := bind_eq_ok rest
    obtain ⟨_, rfl⟩ := orStop_eq_ok tested
    obtain ⟨rfl, rfl⟩ := pure_eq_ok rest
    obtain ⟨_, _, grown, agreesLater⟩ :=
      settle.operands checkedLeft checkedRight agrees evaluatedLeft evaluatedRight
    exact ⟨trivial, grown, agreesLater⟩

theorem evaluate_call (keepTypes : Native.KeepTypes library) {callee : Expr} {paren : Token}
    {arguments : List Expr} (settle : AllSettle library natives bound program final fuel)
    (checked : ExprChecked natives bound program final other place (.call callee paren arguments)
      type before after)
    (agrees : Agrees library machine frame before other)
    (equation : Eval.evaluate library (fuel + 1) frame (.call callee paren arguments)
      machine = .ok value later) :
    Settles library value type machine later frame before other := by
  obtain ⟨calleeType, argumentTypes, _, _, checkedCallee, checkedArguments, typed⟩ := checked.call
  rw [Eval.evaluate] at equation
  obtain ⟨function, middle, evaluatedCallee, rest⟩ := bind_eq_ok equation
  obtain ⟨values, last, evaluatedArguments, called⟩ := bind_eq_ok rest
  have same := checkedCallee.sameView
  have settledCallee := settle.evaluate checkedCallee agrees evaluatedCallee
  obtain ⟨_, grown, agreesLast⟩ := settle.evaluateAll checkedArguments
    (settledCallee.agrees.transfer same) evaluatedArguments
  obtain ⟨belongs, scopes⟩ := call keepTypes settledCallee.belongs typed called
  have agreesLater := (agreesLast.transfer same.symm).console later.console
  rw [← scopes] at agreesLater
  refine ⟨belongs, ?_, agreesLater⟩
  rw [scopes]
  exact settledCallee.grown.trans grown

theorem evaluate_succ (keepTypes : Native.KeepTypes library) {expr : Expr}
    (settle : AllSettle library natives bound program final fuel)
    (checked : ExprChecked natives bound program final other place expr type before after)
    (agrees : Agrees library machine frame before other)
    (equation : Eval.evaluate library (fuel + 1) frame expr machine = .ok value later) :
    Settles library value type machine later frame before other := by
  cases expr with
  | literal constant token =>
      obtain ⟨rfl, rfl⟩ := pure_eq_ok equation
      rw [checked.literal]
      exact ⟨.constant constant, .refl _, agrees⟩
  | reference name => exact evaluate_reference checked agrees equation
  | assign name expr => exact settle.evaluate_assign checked agrees equation
  | group inner =>
      obtain ⟨_, checkedInner⟩ := checked.group
      exact settle.evaluate checkedInner agrees equation
  | tuple items =>
      obtain ⟨types, _, rfl, checkedItems⟩ := checked.tuple
      rw [Eval.evaluate] at equation
      obtain ⟨values, last, evaluated, rest⟩ := bind_eq_ok equation
      obtain ⟨rfl, rfl⟩ := pure_eq_ok rest
      obtain ⟨belong, grown, agreesLater⟩ := settle.evaluateAll checkedItems agrees evaluated
      exact ⟨belong, grown, agreesLater⟩
  | unary operator token operand =>
      obtain ⟨found, _, checkedOperand, typed⟩ := checked.unary
      rw [Eval.evaluate] at equation
      obtain ⟨operandValue, middle, evaluated, rest⟩ := bind_eq_ok equation
      obtain ⟨applied, rfl⟩ := orStop_eq_ok rest
      have settled := settle.evaluate checkedOperand agrees evaluated
      obtain ⟨outcome, appliedTo, belongs⟩ :=
        applyUnary_inhabits noTuple settled.belongs typed token
      rw [applied, Except.ok.injEq] at appliedTo
      exact ⟨appliedTo ▸ belongs, settled.grown, settled.agrees⟩
  | binary operator token left right =>
      obtain ⟨leftType, rightType, _, _, checkedLeft, checkedRight, typed⟩ := checked.binary
      rw [Eval.evaluate] at equation
      obtain ⟨first, middle, evaluatedLeft, rest⟩ := bind_eq_ok equation
      obtain ⟨second, last, evaluatedRight, rest⟩ := bind_eq_ok rest
      obtain ⟨applied, rfl⟩ := orStop_eq_ok rest
      obtain ⟨belongsFirst, belongsSecond, grown, agreesLater⟩ :=
        settle.operands checkedLeft checkedRight agrees evaluatedLeft evaluatedRight
      rcases applyBinary_inhabits noTuple belongsFirst belongsSecond typed token with
        ⟨outcome, appliedTo, belongs⟩ | failed
      · rw [applied, Except.ok.injEq] at appliedTo
        exact ⟨appliedTo ▸ belongs, grown, agreesLater⟩
      · rw [applied] at failed
        cases failed
  | logical operator token left right => exact settle.evaluate_logical checked agrees equation
  | call callee paren arguments => exact settle.evaluate_call keepTypes checked agrees equation

theorem evaluateAll_succ {exprs : List Expr} {step : Nat} {types : List Ty} {values : List Value}
    (settle : AllSettle library natives bound program final fuel)
    (checked : ExprsChecked natives bound program final other place step exprs types before after)
    (agrees : Agrees library machine frame before other)
    (equation : Eval.evaluateAll library (fuel + 1) frame exprs machine =
      .ok values later) :
    BelongAll library values types ∧ machine.scopes.Grown later.scopes ∧
      Agrees library later frame before other := by
  cases exprs with
  | nil =>
      obtain ⟨rfl, rfl⟩ := pure_eq_ok equation
      rw [checked.nil]
      exact ⟨trivial, .refl _, agrees⟩
  | cons expr exprs =>
      obtain ⟨first, others, _, _, rfl, checkedFirst, checkedOthers⟩ := checked.cons
      rw [Eval.evaluateAll] at equation
      obtain ⟨value, middle, evaluated, rest⟩ := bind_eq_ok equation
      obtain ⟨values, last, evaluatedOthers, rest⟩ := bind_eq_ok rest
      obtain ⟨rfl, rfl⟩ := pure_eq_ok rest
      have same := checkedFirst.sameView
      have settled := settle.evaluate checkedFirst agrees evaluated
      obtain ⟨belong, grown, agreesLater⟩ := settle.evaluateAll checkedOthers
        (settled.agrees.transfer same) evaluatedOthers
      exact ⟨⟨settled.belongs, belong⟩, settled.grown.trans grown,
        agreesLater.transfer same.symm⟩

theorem execute_letValue {name : Token} {declared : Option WrittenType} {initializer : Expr}
    (settle : AllSettle library natives bound program final fuel)
    (checked : StmtChecked natives bound program final other place
      (.letValue name declared initializer) type before after)
    (agrees : Agrees library machine frame before other)
    (equation : Eval.execute library (fuel + 1) frame (.letValue name declared initializer)
      machine = .ok value later) :
    Settles library value type machine later frame after other := by
  obtain ⟨rfl, found, binding, middleState, checkedValue, rfl, bindingType⟩ := checked.letValue
  rw [Eval.execute] at equation
  obtain ⟨initial, middle, evaluated, rest⟩ := bind_eq_ok equation
  obtain ⟨_, last, defines, rest⟩ := bind_eq_ok rest
  obtain ⟨rfl, rfl⟩ := pure_eq_ok rest
  cases defines
  have settled := settle.evaluate checkedValue agrees evaluated
  have belongs : Belongs library initial binding := by
    rcases bindingType with rfl | ⟨written, rfl, compatible⟩
    · exact settled.belongs
    · exact settled.belongs.of_compatible noTuple written.isDefinite_type compatible
  obtain ⟨wellFormed, present⟩ := checkedValue.leaves
  exact ⟨.unit, settled.grown.trans (.define _ _ _ _),
    (settled.agrees.transfer checkedValue.sameView).bind wellFormed present name.lexeme belongs⟩

/-- A condition and the block that is executed if it holds. -/
theorem guarded {condition : Expr} {body : Block} {found bodyType : Ty} {middleState : State}
    {middle : Machine} {test given : Value} {inner outer : Place}
    (settle : AllSettle library natives bound program final fuel)
    (checkedCondition : ExprChecked natives bound program final other inner condition found before
      middleState)
    (checkedBody : BlockChecked natives bound program final other outer body bodyType middleState
      after)
    (shaped : body.isShaped = true) (agrees : Agrees library machine frame before other)
    (evaluated : Eval.evaluate library fuel frame condition machine = .ok test middle)
    (executed : Eval.executeBlock library fuel frame body middle = .ok given later) :
    machine.scopes.Grown later.scopes ∧ Agrees library later frame before other := by
  have same := checkedCondition.sameView
  have settled := settle.evaluate checkedCondition agrees evaluated
  have settledBody :=
    settle.executeBlock checkedBody shaped (settled.agrees.transfer same) executed
  exact ⟨settled.grown.trans settledBody.grown, settledBody.agrees.transfer same.symm⟩

theorem execute_ifThen {keyword : Token} {condition : Expr} {consequent : Block}
    (settle : AllSettle library natives bound program final fuel)
    (checked : StmtChecked natives bound program final other place
      (.ifThen keyword condition consequent) type before after)
    (shaped : consequent.isShaped = true) (agrees : Agrees library machine frame before other)
    (equation : Eval.execute library (fuel + 1) frame (.ifThen keyword condition consequent)
      machine = .ok value later) :
    Settles library value type machine later frame after other := by
  obtain ⟨rfl, found, bodyType, _, checkedCondition, _, checkedBody⟩ := checked.ifThen
  rw [Eval.execute] at equation
  obtain ⟨test, middle, evaluated, rest⟩ := bind_eq_ok equation
  obtain ⟨holds, _, tested, rest⟩ := bind_eq_ok rest
  obtain ⟨_, rfl⟩ := orStop_eq_ok tested
  have same := checked.sameView rfl
  cases holds with
  | true =>
      obtain ⟨given, last, executed, rest⟩ := bind_eq_ok rest
      obtain ⟨rfl, rfl⟩ := pure_eq_ok rest
      obtain ⟨grown, agreesLater⟩ :=
        settle.guarded checkedCondition checkedBody shaped agrees evaluated executed
      exact ⟨.unit, grown, agreesLater.transfer same⟩
  | false =>
      obtain ⟨rfl, rfl⟩ := pure_eq_ok rest
      have settled := settle.evaluate checkedCondition agrees evaluated
      exact ⟨.unit, settled.grown, settled.agrees.transfer same⟩

theorem execute_ifElse {keyword : Token} {condition : Expr} {consequent : Block}
    {alternative : Stmt} (settle : AllSettle library natives bound program final fuel)
    (checked : StmtChecked natives bound program final other place
      (.ifElse keyword condition consequent alternative) type before after)
    (shaped : consequent.isShaped = true) (shapedOther : alternative.isShaped = true)
    (still : alternative.declares = false) (agrees : Agrees library machine frame before other)
    (equation : Eval.execute library (fuel + 1) frame
      (.ifElse keyword condition consequent alternative) machine = .ok value later) :
    Settles library value type machine later frame after other := by
  obtain ⟨rfl, found, bodyType, otherType, _, _, checkedCondition, _, checkedBody, checkedOther⟩ :=
    checked.ifElse
  rw [Eval.execute] at equation
  obtain ⟨test, middle, evaluated, rest⟩ := bind_eq_ok equation
  obtain ⟨holds, _, tested, rest⟩ := bind_eq_ok rest
  obtain ⟨_, rfl⟩ := orStop_eq_ok tested
  have same := checked.sameView still
  cases holds with
  | true =>
      obtain ⟨given, last, executed, rest⟩ := bind_eq_ok rest
      obtain ⟨rfl, rfl⟩ := pure_eq_ok rest
      obtain ⟨grown, agreesLater⟩ :=
        settle.guarded checkedCondition checkedBody shaped agrees evaluated executed
      exact ⟨.unit, grown, agreesLater.transfer same⟩
  | false =>
      obtain ⟨given, last, executed, rest⟩ := bind_eq_ok rest
      obtain ⟨rfl, rfl⟩ := pure_eq_ok rest
      have settled := settle.evaluate checkedCondition agrees evaluated
      have settledOther := settle.execute checkedOther shapedOther
        ((settled.agrees.transfer checkedCondition.sameView).transfer checkedBody.sameView) executed
      exact ⟨.unit, settled.grown.trans settledOther.grown, settledOther.agrees⟩

/-- The step of a loop, if it is written. -/
theorem stepValue {step : Option Expr} {given : Option Value}
    (settle : AllSettle library natives bound program final fuel)
    (checked : StepsChecked natives bound program final other place step before after)
    (agrees : Agrees library machine frame before other)
    (evaluated : StepValue library fuel frame step machine given later) :
    machine.scopes.Grown later.scopes ∧ Agrees library later frame after other := by
  cases checked with
  | absent =>
      cases evaluated
      exact ⟨.refl _, agrees⟩
  | written checked =>
      obtain ⟨found, checked, _⟩ := checked
      cases evaluated with
      | written evaluated =>
          have settled := settle.evaluate checked agrees evaluated
          exact ⟨settled.grown, settled.agrees.transfer checked.sameView⟩

/-- The bounds of a loop are evaluated one after the other. -/
theorem bounds {bounds : Bounds} {first second third : State} {middle last : Machine}
    {start stop : Value} {step : Option Value}
    (settle : AllSettle library natives bound program final fuel)
    (checkedStart : BoundChecked natives bound program final other (place.child 0) bounds.start
      before first)
    (checkedStep : StepsChecked natives bound program final other (place.child 1) bounds.step first
      second)
    (checkedStop : BoundChecked natives bound program final other (place.child 2) bounds.stop
      second third)
    (agrees : Agrees library machine frame before other)
    (startValue : Eval.evaluate library fuel frame bounds.start machine = .ok start middle)
    (stepValue : StepValue library fuel frame bounds.step middle step last)
    (stopValue : Eval.evaluate library fuel frame bounds.stop last = .ok stop later) :
    machine.scopes.Grown later.scopes ∧ Agrees library later frame third other := by
  obtain ⟨_, checkedStart, _⟩ := checkedStart
  obtain ⟨_, checkedStop, _⟩ := checkedStop
  have settledStart := settle.evaluate checkedStart agrees startValue
  obtain ⟨grown, agreesLast⟩ := settle.stepValue checkedStep
    (settledStart.agrees.transfer checkedStart.sameView) stepValue
  have settledStop := settle.evaluate checkedStop agreesLast stopValue
  exact ⟨(settledStart.grown.trans grown).trans settledStop.grown,
    settledStop.agrees.transfer checkedStop.sameView⟩

theorem execute_forLoop {name : Token} {bounds : Bounds} {body : Block}
    (settle : AllSettle library natives bound program final fuel)
    (checked : StmtChecked natives bound program final other place (.forLoop name bounds body)
      type before after)
    (shaped : body.isShaped = true) (agrees : Agrees library machine frame before other)
    (equation : Eval.execute library (fuel + 1) frame (.forLoop name bounds body) machine =
      .ok value later) :
    Settles library value type machine later frame after other := by
  have same := checked.sameView rfl
  obtain ⟨rfl, first, second, third, bodyType, checkedStart, checkedStep, checkedStop,
    checkedBody⟩ := checked.forLoop
  rw [Eval.execute] at equation
  obtain ⟨start, middle, startValue, rest⟩ := bind_eq_ok equation
  obtain ⟨step, last, stepValue, rest⟩ : ∃ step last,
      StepValue library fuel frame bounds.step middle step last ∧
      (do
        let stop ← Eval.evaluate library fuel frame bounds.stop
        let range ← orStop (loopRange bounds.token start stop step)
        Eval.repeatFor library fuel frame name.lexeme range 0 body : Eval Value) last =
        .ok value later := by
    cases written : bounds.step with
    | none =>
        rw [written] at rest
        exact ⟨none, middle, .absent, rest⟩
    | some step =>
        rw [written] at rest
        obtain ⟨given, last, mapped, rest⟩ := bind_eq_ok rest
        obtain ⟨value, rfl, evaluated⟩ := map_eq_ok mapped
        exact ⟨some value, last, .written evaluated, rest⟩
  obtain ⟨stop, finish, stopValue, rest⟩ := bind_eq_ok rest
  obtain ⟨range, _, ranged, rest⟩ := bind_eq_ok rest
  obtain ⟨_, rfl⟩ := orStop_eq_ok ranged
  obtain ⟨grown, agreesFinish⟩ :=
    settle.bounds checkedStart checkedStep checkedStop agrees startValue stepValue stopValue
  obtain ⟨_, checkedStart, _⟩ := checkedStart
  obtain ⟨_, checkedStop, _⟩ := checkedStop
  obtain ⟨wellFormed, present⟩ := checkedStop.leaves
  have toThird :=
    (checkedStart.sameView.trans checkedStep.sameView).trans checkedStop.sameView
  have settled := settle.repeatFor checkedBody wellFormed present shaped agreesFinish rest
  exact ⟨settled.belongs, grown.trans settled.grown,
    (settled.agrees.transfer toThird.symm).transfer same⟩

theorem execute_succ {stmt : Stmt} (settle : AllSettle library natives bound program final fuel)
    (checked : StmtChecked natives bound program final other place stmt type before after)
    (shaped : stmt.isShaped = true) (agrees : Agrees library machine frame before other)
    (equation : Eval.execute library (fuel + 1) frame stmt machine = .ok value later) :
    Settles library value type machine later frame after other := by
  cases stmt with
  | expression expr =>
      have settled := settle.evaluate checked.expression agrees equation
      exact { settled with agrees := settled.agrees.transfer checked.expression.sameView }
  | letValue name declared initializer => exact settle.execute_letValue checked agrees equation
  | block body =>
      have settled := settle.executeBlock checked.block shaped agrees equation
      exact { settled with agrees := settled.agrees.transfer checked.block.sameView }
  | ifThen keyword condition consequent =>
      exact settle.execute_ifThen checked shaped agrees equation
  | ifElse keyword condition consequent alternative =>
      simp only [Stmt.isShaped, Bool.and_eq_true, Bool.not_eq_true'] at shaped
      exact settle.execute_ifElse checked shaped.1.1 shaped.1.2 shaped.2 agrees equation
  | whileLoop keyword condition body =>
      have same := checked.sameView rfl
      obtain ⟨rfl, found, bodyType, _, checkedCondition, _, checkedBody⟩ := checked.whileLoop
      have settled := settle.repeatWhile checkedCondition checkedBody shaped agrees equation
      exact { settled with agrees := settled.agrees.transfer same }
  | forLoop name bounds body => exact settle.execute_forLoop checked shaped agrees equation
  | function name parameters body => cases checked.plain
  | giveBack keyword expr =>
      cases expr with
      | none => cases equation
      | some expr =>
          rw [Eval.execute] at equation
          obtain ⟨_, _, _, rest⟩ := bind_eq_ok equation
          cases rest

theorem executeAll_succ {stmts : List Stmt} {step : Nat}
    (settle : AllSettle library natives bound program final fuel)
    (checked : StmtsChecked natives bound program final other place step stmts before after)
    (shaped : Stmt.areShaped stmts = true) (agrees : Agrees library machine frame before other)
    (equation : Eval.executeAll library (fuel + 1) frame stmts machine = .ok () later) :
    machine.scopes.Grown later.scopes ∧ Agrees library later frame after other := by
  cases stmts with
  | nil =>
      obtain ⟨_, rfl⟩ := pure_eq_ok equation
      rw [← checked.nil]
      exact ⟨.refl _, agrees⟩
  | cons stmt stmts =>
      obtain ⟨shapedFirst, shapedRest⟩ := Bool.and_eq_true_iff.1 shaped
      obtain ⟨_, _, checkedFirst, checkedRest⟩ := checked.cons
      rw [Eval.executeAll] at equation
      obtain ⟨_, middle, executed, rest⟩ := bind_eq_ok equation
      have settled := settle.execute checkedFirst shapedFirst agrees executed
      obtain ⟨grown, agreesLater⟩ :=
        settle.executeAll checkedRest shapedRest settled.agrees rest
      exact ⟨settled.grown.trans grown, agreesLater⟩

/-- The statements of a body are executed in the frame of the body, and then its
tail. -/
theorem executeBody_succ {body : Block}
    (settle : AllSettle library natives bound program final fuel)
    (checked : BlockChecked natives bound program final other place body type before after)
    (shaped : body.isShaped = true)
    (agrees : Agrees library machine frame (before.nested other) before.next)
    (equation : Eval.executeBody library (fuel + 1) frame body machine =
      .ok value later) :
    ∃ last : State, last.scopes.ancestors before.next = before.scopes.path other ∧
      SameView other before last ∧
      Settles library value type machine later frame last before.next := by
  obtain ⟨brace, stmts, tail⟩ := body
  obtain ⟨last, checkedStatements, checkedTail⟩ := checked.parts
  obtain ⟨inside, same⟩ :=
    checkedStatements.outside checked.within.wellFormed checked.within.present
  refine ⟨last, inside, same, ?_⟩
  obtain ⟨_, middle, executed, rest⟩ := bind_eq_ok equation
  obtain ⟨grown, agreesMiddle⟩ := settle.executeAll checkedStatements shaped agrees executed
  cases tail with
  | none =>
      obtain ⟨rfl, rfl⟩ := pure_eq_ok rest
      obtain ⟨rfl, _⟩ := checkedTail
      exact ⟨.unit, grown, agreesMiddle⟩
  | some tail =>
      have settled := settle.evaluate checkedTail agreesMiddle rest
      exact { settled with grown := grown.trans settled.grown }

theorem executeBlock_succ {body : Block}
    (settle : AllSettle library natives bound program final fuel)
    (checked : BlockChecked natives bound program final other place body type before after)
    (shaped : body.isShaped = true) (agrees : Agrees library machine frame before other)
    (equation : Eval.executeBlock library (fuel + 1) frame body machine =
      .ok value later) :
    Settles library value type machine later frame before other := by
  rw [Eval.executeBlock] at equation
  obtain ⟨inner, nested, nests, rest⟩ := bind_eq_ok equation
  cases nests
  obtain ⟨last, inside, same, settled⟩ := settle.executeBody checked shaped
    (agrees.nested checked.within.wellFormed checked.within.present) rest
  exact ⟨settled.belongs, (Scopes.Grown.nest _ frame).trans settled.grown,
    settled.agrees.leave agrees settled.grown inside same⟩

theorem repeatWhile_succ {keyword : Token} {condition : Expr} {body : Block} {found bodyType : Ty}
    {middleState : State} (settle : AllSettle library natives bound program final fuel)
    (checkedCondition : ExprChecked natives bound program final other (place.child 0) condition
      found before middleState)
    (checkedBody : BlockChecked natives bound program final other (place.child 1) body bodyType
      middleState after)
    (shaped : body.isShaped = true) (agrees : Agrees library machine frame before other)
    (equation : Eval.repeatWhile library (fuel + 1) frame keyword condition body machine =
      .ok value later) :
    Settles library value .unit machine later frame before other := by
  rw [Eval.repeatWhile] at equation
  obtain ⟨test, middle, evaluated, rest⟩ := bind_eq_ok equation
  obtain ⟨holds, _, tested, rest⟩ := bind_eq_ok rest
  obtain ⟨_, rfl⟩ := orStop_eq_ok tested
  cases holds with
  | true =>
      obtain ⟨given, last, executed, rest⟩ := bind_eq_ok rest
      obtain ⟨grown, agreesLast⟩ :=
        settle.guarded checkedCondition checkedBody shaped agrees evaluated executed
      have settled := settle.repeatWhile checkedCondition checkedBody shaped agreesLast rest
      exact { settled with grown := grown.trans settled.grown }
  | false =>
      obtain ⟨rfl, rfl⟩ := pure_eq_ok rest
      have settled := settle.evaluate checkedCondition agrees evaluated
      exact { settled with belongs := .unit }

/-- One turn of a loop over numbers. -/
theorem turn {name : String} {body : Block} {bodyType : Ty} {given : Value} {item : Float}
    (settle : AllSettle library natives bound program final fuel)
    (checked : BlockChecked natives bound program final before.next (place.child 3) body bodyType
      (before.turn other name) after)
    (wellFormed : before.WellFormed) (present : other < before.scopes.frames.size)
    (shaped : body.isShaped = true) (agrees : Agrees library machine frame before other)
    (executed : Eval.executeBlock library fuel machine.next body
      (machine.turn frame name item) = .ok given later) :
    machine.scopes.Grown later.scopes ∧ Agrees library later frame before other := by
  have settled := settle.executeBlock checked shaped
    (agrees.turn wellFormed present name item) executed
  have grown : (machine.nested frame).scopes.Grown later.scopes :=
    (Scopes.Grown.define _ _ _ _).trans settled.grown
  have effect := effect_turn before name present
  refine ⟨(Scopes.Grown.nest _ frame).trans grown, settled.agrees.leave agrees grown ?_
    (.of_effect effect wellFormed present fun _ _ => not_false)⟩
  exact (Scopes.ancestors_defineAll _ _ _ _).trans (Scopes.ancestors_nest before.scopes other)

theorem repeatFor_succ {name : String} {range : NumberRange Float} {index : Nat} {body : Block}
    {bodyType : Ty} (settle : AllSettle library natives bound program final fuel)
    (checked : BlockChecked natives bound program final before.next (place.child 3) body bodyType
      (before.turn other name) after)
    (wellFormed : before.WellFormed) (present : other < before.scopes.frames.size)
    (shaped : body.isShaped = true) (agrees : Agrees library machine frame before other)
    (equation : Eval.repeatFor library (fuel + 1) frame name range index body machine =
      .ok value later) :
    Settles library value .unit machine later frame before other := by
  rw [Eval.repeatFor] at equation
  cases next : range.item? index with
  | none =>
      rw [next] at equation
      obtain ⟨rfl, rfl⟩ := pure_eq_ok equation
      exact ⟨.unit, .refl _, agrees⟩
  | some item =>
      rw [next] at equation
      obtain ⟨inner, nested, nests, rest⟩ := bind_eq_ok equation
      cases nests
      obtain ⟨_, _, defines, rest⟩ := bind_eq_ok rest
      cases defines
      obtain ⟨given, last, executed, rest⟩ := bind_eq_ok rest
      obtain ⟨grown, agreesLast⟩ := settle.turn checked wellFormed present shaped agrees executed
      have settled := settle.repeatFor checked wellFormed present shaped agreesLast rest
      exact { settled with grown := grown.trans settled.grown }

end AllSettle

/-- Whatever is evaluated to a value agrees with its check. -/
theorem allSettle {library : List Native} (keepTypes : Native.KeepTypes library)
    (natives : Bindings Signature) (bound : Nat) (program : Program) (final : State) (fuel : Nat) :
    AllSettle library natives bound program final fuel := by
  induction fuel with
  | zero =>
      exact
        { evaluate := fun _ _ equation => by cases equation
          evaluateAll := fun _ _ equation => by cases equation
          execute := fun _ _ _ equation => by cases equation
          executeAll := fun _ _ _ equation => by cases equation
          executeBody := fun _ _ _ equation => by cases equation
          executeBlock := fun _ _ _ equation => by cases equation
          repeatWhile := fun _ _ _ _ equation => by cases equation
          repeatFor := fun _ _ _ _ _ equation => by cases equation }
  | succ fuel settle =>
      exact
        { evaluate := settle.evaluate_succ keepTypes
          evaluateAll := settle.evaluateAll_succ
          execute := settle.execute_succ
          executeAll := settle.executeAll_succ
          executeBody := settle.executeBody_succ
          executeBlock := settle.executeBlock_succ
          repeatWhile := settle.repeatWhile_succ
          repeatFor := settle.repeatFor_succ }

end CheckedScript
