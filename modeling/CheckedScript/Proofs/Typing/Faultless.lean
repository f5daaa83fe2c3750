import CheckedScript.Proofs.Typing.Ending
import CheckedScript.Proofs.Typing.Founded
import CheckedScript.Proofs.Walks.Courses

/-!
# Checks do not fault

A check that begins with founded types meets founded types only, since functions are never
undone: whatever a part of a program has the type of can be called and shown from then on.
So the check stops for faults of the program only, and says so in its own terms.
-/

namespace CheckedScript

namespace Typing

/-- A reason to stop that is a fault of the program, or a bound that is too small. -/
def Stop.IsCharge : Stop → Prop
  | .failed diagnostic => diagnostic.IsOwnOf .checking
  | .reported | .exhausted => True
  | .faulted _ => False

/-- What checks do: no function is undone, and all types stay founded. -/
def charging : Course Stop State where
  later before after := before.functions.size ≤ after.functions.size
  state := State.Founded
  stop stop _ := stop.IsCharge
  refl _ := Nat.le_refl _
  trans := Nat.le_trans

/-- A check that begins in a state goes on or charges the program. -/
abbrev Goes {α : Type} (state : State) (result : EStateM.Result Stop State α) : Prop :=
  charging.Ends state (fun _ _ => True) result

/-- A check that begins in a state gives a founded type or charges the program. -/
abbrev Gives (state : State) (result : EStateM.Result Stop State Ty) : Prop :=
  charging.Ends state (fun type after => type.Founded after.functions.size) result

end Typing

namespace Check

open Typing
open Ty (Founded AreFounded)

variable {α : Type} {state : State}

section Steps

variable {fits : α → State → Prop}

theorem charges_fail {cause : Cause} {token : Token} (founded : state.Founded)
    (own : Diagnostic.IsOwnOf .checking { cause := cause, token := token }) :
    charging.Ends state fits (fail cause token state) :=
  .throw founded own

theorem size_report (state : State) (diagnostic : Diagnostic) :
    (state.report diagnostic).functions.size = state.functions.size :=
  congrArg Array.size (AllKeep.functions_reports [diagnostic] state).1

theorem goes_report {cause : Cause} {token : Token} (founded : state.Founded)
    (own : Diagnostic.IsOwnOf .checking { cause := cause, token := token }) :
    Goes state (report cause token state) :=
  ⟨Nat.le_of_eq (size_report _ _).symm, founded.report own, trivial⟩

/-- A function with an identifier that has been given out is declared. -/
theorem exists_declaration {functions : Array DeclaredFunction} {identifier : Nat}
    (declared : identifier < functions.size) (name : String) :
    ∃ function, declaration functions name identifier = .ok function :=
  ⟨functions[identifier], declaration_eq_ok.2 (Array.getElem?_eq_getElem declared)⟩

theorem ends_reporting {check : Check α} (ends : charging.Ends state fits (check state)) :
    charging.Ends state (fun found after => ∀ value ∈ found, fits value after)
      (reporting check state) :=
  Course.Ends.reporting (fun diagnostic after founded own =>
    ⟨Nat.le_of_eq (size_report after diagnostic).symm, State.Founded.report founded own⟩) ends

/-- With a declared type the name is bound to it even if the initializer fails. -/
theorem ends_onFailure {check : Check α} {frame : FrameId} {name : String} {type : Ty}
    (ends : charging.Ends state fits (check state)) (isType : type.Founded 0) :
    charging.Ends state fits (onFailure check (fun after => after.bind frame name type) state) :=
  Course.Ends.onFailure (fun _ _ founded charge =>
    ⟨Nat.le_refl _, State.Founded.bind founded frame name (isType.mono (Nat.zero_le _)), charge⟩)
    ends

theorem ends_lookup? (frame : FrameId) (name : String) (founded : state.Founded) :
    charging.Ends state
      (fun found after => state = after ∧ ∀ type ∈ found, type.Founded after.functions.size)
      (lookup? frame name state) :=
  ⟨Nat.le_refl _, founded, rfl, fun _ found => founded.bound.get? found⟩

/-- The result of an instance is remembered, and the returns that do not fit are reported. -/
theorem gives_finish (founded : state.Founded) {results : List (Ty × Token)} {result : Ty}
    (areResults : ∀ returned ∈ results, returned.1.Founded state.functions.size) (name : String)
    (identifier : Nat) (key : InstanceKey) (isResult : result.Founded state.functions.size) :
    Gives state (.ok result (((returnMismatches name result results).foldl State.report
      state).setInstance identifier key result)) := by
  have reported := founded.reports (isOwnOf_returnMismatches name isResult areResults)
  have same := congrArg Array.size
    (AllKeep.functions_reports (returnMismatches name result results) state).1
  have size : (((returnMismatches name result results).foldl State.report state).setInstance
      identifier key result).functions.size = state.functions.size := Array.size_modify.trans same
  have kept := reported.setInstance identifier key (same.symm ▸ isResult)
  exact ⟨Nat.le_of_eq size.symm, kept, isResult.mono (Nat.le_of_eq size.symm)⟩

end Steps

/-- Checks of parts of a program meet founded types only. -/
structure ChecksCharge (fuel : Nat) : Prop where
  typeOf : ∀ frame place expr (state : State), state.Founded →
    Gives state (typeOf fuel frame place expr state)
  typesOf : ∀ frame place step exprs (state : State), state.Founded →
    charging.Ends state (fun types after => AreFounded after.functions.size types)
      (typesOf fuel frame place step exprs state)
  infer : ∀ frame place expr (state : State), state.Founded →
    Gives state (infer fuel frame place expr state)
  callType : ∀ callee arguments paren (state : State), state.Founded →
    callee.Founded state.functions.size → AreFounded state.functions.size arguments →
    Gives state (callType fuel callee arguments paren state)
  instantiate : ∀ name identifier arguments anchor (state : State), state.Founded →
    identifier < state.functions.size → AreFounded state.functions.size arguments →
    Gives state (instantiate fuel name identifier arguments anchor state)
  checkBody : ∀ identifier arguments function frame (state : State), state.Founded →
    charging.Ends state
      (fun results after => ∀ returned ∈ results, returned.1.Founded after.functions.size)
      (checkBody fuel identifier arguments function frame state)
  checkStmt : ∀ frame place stmt (state : State), state.Founded →
    Gives state (checkStmt fuel frame place stmt state)
  checkLet : ∀ frame place name declared initializer (state : State), state.Founded →
    (∀ type ∈ declared, type.Founded 0) →
    Goes state (checkLet fuel frame place name declared initializer state)
  checkAll : ∀ frame place step stmts (state : State), state.Founded →
    Goes state (checkAll fuel frame place step stmts state)
  checkBlock : ∀ frame place body (state : State), state.Founded →
    Gives state (checkBlock fuel frame place body state)
  checkCondition : ∀ frame place keyword condition (state : State), state.Founded →
    Goes state (checkCondition fuel frame place keyword condition state)
  checkBound : ∀ frame place token bound (state : State), state.Founded →
    Goes state (checkBound fuel frame place token bound state)

namespace ChecksCharge

variable {fuel : Nat} {frame : FrameId} {place : Place}

theorem typeOf_succ (charge : ChecksCharge fuel) (expr : Expr) (founded : state.Founded) :
    Gives state (Check.typeOf (fuel + 1) frame place expr state) :=
  (charge.infer _ _ _ _ founded).bind fun type _ _ _ founded isType =>
    ⟨Nat.le_refl _, founded.note place expr type, isType⟩

theorem typesOf_succ (charge : ChecksCharge fuel) (step : Nat) (exprs : List Expr)
    (founded : state.Founded) :
    charging.Ends state (fun types after => AreFounded after.functions.size types)
      (Check.typesOf (fuel + 1) frame place step exprs state) := by
  cases exprs with
  | nil => exact .pure founded trivial
  | cons expr exprs =>
      exact (charge.typeOf _ _ _ _ founded).bind fun _ _ _ _ founded isType =>
        (charge.typesOf _ _ _ _ _ founded).bind fun _ _ _ more founded areTypes =>
          .pure founded ⟨isType.mono more, areTypes⟩

theorem infer_succ (charge : ChecksCharge fuel) (expr : Expr) (founded : state.Founded) :
    Gives state (Check.infer (fuel + 1) frame place expr state) := by
  cases expr with
  | literal value token => exact .pure founded (founded_constantType value)
  | reference name =>
      refine (ends_lookup? _ _ founded).bind fun found _ _ _ founded known => ?_
      cases found with
      | some type => exact .pure founded (known.2 type rfl)
      | none => exact charges_fail founded ⟨rfl, List.forall_mem_nil _⟩
  | assign name value =>
      refine (charge.typeOf _ _ _ _ founded).bind fun found _ _ _ founded isFound =>
        (ends_lookup? _ _ founded).bind fun declared _ _ more founded known => ?_
      cases declared with
      | none => exact charges_fail founded ⟨rfl, List.forall_mem_nil _⟩
      | some declared =>
          have isDeclared := known.2 declared rfl
          dsimp only
          split
          · exact .pure founded isDeclared
          · exact charges_fail founded ⟨rfl, shown_both isDeclared isFound⟩
  | group inner => exact charge.typeOf _ _ _ _ founded
  | tuple items =>
      exact (charge.typesOf _ _ _ _ _ founded).bind fun _ _ _ _ founded areTypes =>
        .pure founded areTypes
  | unary operator token operand =>
      refine (charge.typeOf _ _ _ _ founded).bind fun found _ _ _ founded isFound => ?_
      cases typed : unaryType? operator found with
      | some result => exact .pure founded (founded_of_unaryType? typed)
      | none => exact charges_fail founded ⟨rfl, shown isFound⟩
  | binary operator token left right =>
      refine (charge.typeOf _ _ _ _ founded).bind fun first _ _ _ founded isFirst =>
        (charge.typeOf _ _ _ _ founded).bind fun second _ _ _ founded isSecond => ?_
      cases typed : binaryType? operator first second with
      | some result => exact .pure founded (founded_of_binaryType? typed)
      | none => exact charges_fail founded ⟨rfl, shown_both isFirst isSecond⟩
  | logical operator token left right =>
      refine (charge.typeOf _ _ _ _ founded).bind fun first _ _ _ founded isFirst =>
        (charge.typeOf _ _ _ _ founded).bind fun second _ _ _ founded isSecond => ?_
      split
      · exact .pure founded trivial
      · exact charges_fail founded ⟨rfl, shown_both isFirst isSecond⟩
  | call callee paren arguments =>
      exact (charge.typeOf _ _ _ _ founded).bind fun _ _ _ _ founded isCallee =>
        (charge.typesOf _ _ _ _ _ founded).bind fun _ _ _ more founded areTypes =>
          charge.callType _ _ _ _ founded (isCallee.mono more) areTypes

/-- A function type is called by its declaration, and a native one by its signature. -/
theorem callType_succ (charge : ChecksCharge fuel) (callee : Ty) (arguments : List Ty)
    (paren : Token) (founded : state.Founded) (isCallee : callee.Founded state.functions.size)
    (areTypes : AreFounded state.functions.size arguments) :
    Gives state (Check.callType (fuel + 1) callee arguments paren state) := by
  cases callee with
  | native name parameters result =>
      have typed := founded_of_nativeCallType isCallee areTypes paren
      unfold Check.callType
      dsimp only
      cases equation : nativeCallType name parameters result arguments with
      | ok type =>
          rw [equation] at typed
          exact .pure founded typed
      | error cause =>
          rw [equation] at typed
          exact charges_fail founded typed
  | function name identifier =>
      obtain ⟨function, declared⟩ := exists_declaration isCallee name
      have counted : arity state.functions name identifier = .ok function.parameters.length := by
        rw [arity, declared]
        rfl
      refine Course.Ends.get ((Course.Ends.orFault founded (by simp [counted])).bind
        fun expected _ _ _ founded same => ?_)
      obtain ⟨_, rfl⟩ := same
      split
      · exact charge.instantiate _ _ _ _ _ founded isCallee areTypes
      · exact charges_fail founded ⟨rfl, List.forall_mem_nil _⟩
  | unknown => exact .pure founded trivial
  | bareNative => exact isCallee.elim
  | number | text | bool | tuple | displayable =>
      exact charges_fail founded ⟨rfl, shown isCallee⟩

theorem instantiate_succ (charge : ChecksCharge fuel) (name : String) (identifier : Nat)
    (arguments : List Ty) (anchor : Token) (founded : state.Founded)
    (present : identifier < state.functions.size)
    (areTypes : AreFounded state.functions.size arguments) :
    Gives state (Check.instantiate (fuel + 1) name identifier arguments anchor state) := by
  obtain ⟨function, declared⟩ := exists_declaration present name
  have listed := Array.mem_of_getElem? (declaration_eq_ok.1 declared)
  refine Course.Ends.get ((Course.Ends.orFault founded (by simp [declared])).bind
    fun found _ _ _ founded same => ?_)
  obtain ⟨same, rfl⟩ := same
  obtain rfl := Except.ok.inj (declared.symm.trans same)
  dsimp only
  cases known : function.instances.get? (arguments, state.generation) with
  | some result => exact .pure founded (founded.results function listed _ result known)
  | none =>
  dsimp only
  cases active : state.activations.find? fun activation =>
      activation.function = identifier && activation.arguments = arguments with
  | some activation =>
      have returns := founded.returns activation (List.mem_of_find?_eq_some active)
      obtain ⟨_, _, met⟩ := activation
      cases met with
      | cons first others => exact .pure founded (returns first List.mem_cons_self)
      | nil =>
          dsimp only
          split
          · exact .pure founded trivial
          · exact charges_fail founded ⟨rfl, List.forall_mem_nil _⟩
  | none =>
  dsimp only
  split
  · exact charges_fail founded ⟨rfl, List.forall_mem_nil _⟩
  -- The parameters are bound to the types of the arguments, which are founded.
  have entered : (AllKeep.entered state function arguments).Founded := by
    refine (founded.nested function.closure).define _ fun binding member => ?_
    exact Ty.areFounded_iff.1 areTypes _ (List.of_mem_zip member).2
  have checked := charge.checkBody identifier arguments function state.next _ entered
  have later : charging.later state (AllKeep.entered state function arguments) := Nat.le_refl _
  refine (checked.bind fun results after _ _ founded areResults => ?_).since later
  exact gives_finish founded areResults name identifier _
    (founded_chooseResult (List.forall_mem_map.2 areResults))

/-- Every return that was met is founded, and so is the type of the end of the body. -/
theorem checkBody_succ (charge : ChecksCharge fuel) (identifier : Nat) (arguments : List Ty)
    (function : DeclaredFunction) (founded : state.Founded) :
    charging.Ends state
      (fun results after => ∀ returned ∈ results, returned.1.Founded after.functions.size)
      (Check.checkBody (fuel + 1) identifier arguments function frame state) := by
  let begun : State :=
    { state with
      activations := { function := identifier, arguments := arguments, returns := [] } ::
        state.activations }
  have through : charging.Ends begun
      (fun found after => ∀ type ∈ found, type.Founded after.functions.size)
      (AllKeep.throughBody fuel function frame begun) := by
    have checked := charge.checkAll frame function.place 0 function.body.statements begun
      (founded.enter identifier arguments)
    refine checked.bind fun _ middle _ _ founded _ => ?_
    cases function.body.tail with
    | none => exact .pure founded (by simp [Ty.Founded, Ty.AreFounded, Ty.unit])
    | some tail => exact ends_reporting (charge.typeOf _ _ _ _ founded)
  rw [AllKeep.checkBody_apply]
  cases equation : AllKeep.throughBody fuel function frame begun with
  | error stop after =>
      rw [equation] at through
      exact through
  | ok fallThrough after =>
      rw [equation] at through
      obtain ⟨more, founded, isEnd⟩ := through
      have returns : ∀ returned ∈ (after.activations.head?.map (·.returns)).getD [],
          returned.1.Founded after.functions.size := by
        cases shape : after.activations with
        | nil => simp
        | cons activation activations =>
            exact founded.returns activation (shape ▸ List.mem_cons_self)
      refine ⟨more, founded.leave, ?_⟩
      cases fallThrough with
      | none => exact returns
      | some type =>
          dsimp only
          split
          · exact returns
          · exact List.forall_mem_append.2
              ⟨returns, List.forall_mem_singleton.2 (isEnd type rfl)⟩

theorem checkStmt_succ (charge : ChecksCharge fuel) (stmt : Stmt) (founded : state.Founded) :
    Gives state (Check.checkStmt (fuel + 1) frame place stmt state) := by
  cases stmt with
  | expression value => exact charge.typeOf _ _ _ _ founded
  | letValue name declared initializer =>
      refine (charge.checkLet _ _ _ _ _ _ founded fun type isType => ?_).bind
        fun _ _ _ _ founded _ => .pure founded trivial
      obtain ⟨written, _, rfl⟩ := Option.map_eq_some_iff.1 isType
      exact written.founded_type
  | block body => exact charge.checkBlock _ _ _ _ founded
  | ifThen keyword condition consequent =>
      exact (charge.checkCondition _ _ _ _ _ founded).bind fun _ _ _ _ founded _ =>
        (charge.checkBlock _ _ _ _ founded).bind fun _ _ _ _ founded _ => .pure founded trivial
  | ifElse keyword condition consequent alternative =>
      exact (charge.checkCondition _ _ _ _ _ founded).bind fun _ _ _ _ founded _ =>
        (charge.checkBlock _ _ _ _ founded).bind fun _ _ _ _ founded _ =>
          (charge.checkStmt _ _ _ _ founded).bind fun _ _ _ _ founded _ => .pure founded trivial
  | whileLoop keyword condition body =>
      exact (charge.checkCondition _ _ _ _ _ founded).bind fun _ _ _ _ founded _ =>
        (charge.checkBlock _ _ _ _ founded).bind fun _ _ _ _ founded _ => .pure founded trivial
  | forLoop name bounds body =>
      have turns (after : State) (founded : after.Founded) : Gives after ((do
          Check.checkBound fuel frame (place.child 2) bounds.token bounds.stop
          let inner ← nest frame
          define inner [(name.lexeme, .number)]
          let _ ← Check.checkBlock fuel inner (place.child 3) body
          return Ty.unit : Check Ty) after) := by
        refine (charge.checkBound _ _ _ _ _ founded).bind fun _ final _ _ founded _ => ?_
        have turned : (final.turn frame name.lexeme).Founded :=
          (founded.nested frame).define _ (List.forall_mem_singleton.2 trivial)
        have later : charging.later final (final.turn frame name.lexeme) := Nat.le_refl _
        have block := charge.checkBlock final.next (place.child 3) body _ turned
        exact (Course.Ends.bind block fun _ _ _ _ founded _ => .pure founded trivial).since later
      refine (charge.checkBound _ _ _ _ _ founded).bind fun _ middle _ _ founded _ => ?_
      cases bounds.step with
      | none => exact turns middle founded
      | some step =>
          exact (charge.checkBound _ _ _ _ _ founded).bind fun _ after _ _ founded _ =>
            turns after founded
  | function name parameters body =>
      refine ⟨?_, founded.declare frame (place.child 0) name parameters body, trivial⟩
      exact Nat.le_of_lt (Nat.lt_of_lt_of_eq (Nat.lt_succ_self _) (Array.size_push _).symm)
  | giveBack keyword value =>
      refine Course.Ends.get ?_
      dsimp only
      split
      · exact charges_fail founded ⟨rfl, List.forall_mem_nil _⟩
      · have returned (type : Ty) (after : State) (founded : after.Founded)
            (isType : type.Founded after.functions.size) : Gives after ((do
              modify fun state => state.addReturn type keyword
              return Ty.unit : Check Ty) after) := by
          have size : (after.addReturn type keyword).functions.size = after.functions.size := by
            unfold State.addReturn
            cases after.activations <;> rfl
          exact ⟨Nat.le_of_eq size.symm, founded.addReturn isType keyword, trivial⟩
        cases value with
        | none => exact returned .unit state founded trivial
        | some value =>
            exact (charge.typeOf _ _ _ _ founded).bind fun type after _ _ founded isType =>
              returned type after founded isType

theorem checkLet_succ (charge : ChecksCharge fuel) (name : Token) (declared : Option Ty)
    (initializer : Expr) (founded : state.Founded) (areTypes : ∀ type ∈ declared, type.Founded 0) :
    Goes state (Check.checkLet (fuel + 1) frame place name declared initializer state) := by
  cases declared with
  | none =>
      exact (charge.typeOf _ _ _ _ founded).bind fun found _ _ _ founded isFound =>
        ⟨Nat.le_refl _, founded.bind frame name.lexeme isFound, trivial⟩
  | some type =>
      have isType := areTypes type rfl
      refine (ends_onFailure (charge.typeOf _ _ _ _ founded) isType).bind
        fun found after _ _ founded isFound => ?_
      have bound := founded.bind frame name.lexeme (isType.mono (Nat.zero_le _))
      have later : charging.later after (after.bind frame name.lexeme type) := Nat.le_refl _
      refine Course.Ends.since ?_ later
      change Goes (after.bind frame name.lexeme type) ((if !type.compatible found then
        fail (.initializerMismatch type.describe found.describe) name else pure () : Check Unit) _)
      split
      · exact charges_fail bound ⟨rfl, shown_both isType isFound⟩
      · exact .pure bound trivial

theorem checkAll_succ (charge : ChecksCharge fuel) (step : Nat) (stmts : List Stmt)
    (founded : state.Founded) :
    Goes state (Check.checkAll (fuel + 1) frame place step stmts state) := by
  cases stmts with
  | nil => exact .pure founded trivial
  | cons stmt stmts =>
      exact (ends_reporting (charge.checkStmt _ _ _ _ founded)).bind fun _ _ _ _ founded _ =>
        charge.checkAll _ _ _ _ _ founded

theorem checkBlock_succ (charge : ChecksCharge fuel) (body : Block) (founded : state.Founded) :
    Gives state (Check.checkBlock (fuel + 1) frame place body state) := by
  obtain ⟨brace, statements, tail⟩ := body
  have checked := charge.checkAll state.next place 0 statements _ (founded.nested frame)
  have later : charging.later state (state.nested frame) := Nat.le_refl _
  refine (checked.bind fun _ middle _ _ founded _ => ?_).since later
  cases tail with
  | none => exact .pure founded trivial
  | some tail =>
      refine (ends_reporting (charge.typeOf _ _ _ _ founded)).bind
        fun found _ _ _ founded known => ?_
      cases found with
      | some type => exact .pure founded (known type rfl)
      | none => exact .throw founded trivial

theorem checkCondition_succ (charge : ChecksCharge fuel) (keyword : Token) (condition : Expr)
    (founded : state.Founded) :
    Goes state (Check.checkCondition (fuel + 1) frame place keyword condition state) := by
  refine (ends_reporting (charge.typeOf _ _ _ _ founded)).bind fun found _ _ _ founded known => ?_
  cases found with
  | none => exact .pure founded trivial
  | some found =>
      dsimp only
      split
      · exact goes_report founded ⟨rfl, shown (known found rfl)⟩
      · exact .pure founded trivial

theorem checkBound_succ (charge : ChecksCharge fuel) (token : Token) (bound : Expr)
    (founded : state.Founded) :
    Goes state (Check.checkBound (fuel + 1) frame place token bound state) := by
  refine (charge.typeOf _ _ _ _ founded).bind fun found _ _ _ founded isFound => ?_
  split
  · exact charges_fail founded ⟨rfl, shown isFound⟩
  · exact .pure founded trivial

end ChecksCharge

theorem checksCharge (fuel : Nat) : ChecksCharge fuel := by
  induction fuel with
  | zero => constructor <;> intros <;> exact .throw (by assumption) trivial
  | succ fuel charge =>
      exact
        { typeOf := fun _ _ expr _ => charge.typeOf_succ expr
          typesOf := fun _ _ step exprs _ => charge.typesOf_succ step exprs
          infer := fun _ _ expr _ => charge.infer_succ expr
          callType := fun callee arguments paren _ => charge.callType_succ callee arguments paren
          instantiate := fun name identifier arguments anchor _ =>
            charge.instantiate_succ name identifier arguments anchor
          checkBody := fun identifier arguments function _ _ =>
            charge.checkBody_succ identifier arguments function
          checkStmt := fun _ _ stmt _ => charge.checkStmt_succ stmt
          checkLet := fun _ _ name declared initializer _ =>
            charge.checkLet_succ name declared initializer
          checkAll := fun _ _ step stmts _ => charge.checkAll_succ step stmts
          checkBlock := fun _ _ body _ => charge.checkBlock_succ body
          checkCondition := fun _ _ keyword condition _ =>
            charge.checkCondition_succ keyword condition
          checkBound := fun _ _ token bound _ => charge.checkBound_succ token bound }

theorem gives_checkStatements (fuel : Nat) (frame : FrameId) (place : Place) (step : Nat)
    {last : Ty} (stmts : List Stmt) (founded : state.Founded)
    (isLast : last.Founded state.functions.size) :
    Gives state (checkStatements fuel frame place step last stmts state) := by
  induction stmts generalizing state step last with
  | nil => exact .pure founded isLast
  | cons stmt stmts inductionHypothesis =>
      refine (ends_reporting ((checksCharge fuel).checkStmt _ _ _ _ founded)).bind
        fun found _ _ _ founded known => inductionHypothesis _ founded ?_
      cases found with
      | none => exact trivial
      | some type => exact known type rfl

/-- The functions that no call has reached are checked for parameters of unknown type. -/
theorem goes_checkUncalled (fuel identifier : Nat) (founded : state.Founded) :
    Goes state (checkUncalled fuel identifier state) := by
  induction fuel generalizing identifier state with
  | zero => exact .throw founded trivial
  | succ fuel inductionHypothesis =>
      refine Course.Ends.get ?_
      cases found : state.functions[identifier]? with
      | none => exact .pure founded trivial
      | some function =>
          dsimp only
          split
          · have unknown : AreFounded state.functions.size
                (List.replicate function.parameters.length Ty.unknown) :=
              Ty.areFounded_iff.2 fun type member => List.eq_of_mem_replicate member ▸ trivial
            have present := (Array.getElem?_eq_some_iff.1 found).1
            exact (ends_reporting
              ((checksCharge fuel).instantiate _ _ _ _ _ founded present unknown)).bind
                fun _ _ _ _ founded _ => inductionHypothesis _ founded
          · exact inductionHypothesis _ founded

theorem gives_checkProgram (fuel : Nat) {natives : Bindings Signature} (program : Program)
    (founded : state.Founded) (fits : ∀ native ∈ natives, native.2.type.Founded 0) :
    Gives state (checkProgram fuel natives program state) := by
  have later : charging.later state (state.opened natives) := Nat.le_refl _
  have isUnit : Ty.unit.Founded (state.opened natives).functions.size := trivial
  have statements := gives_checkStatements fuel state.scopes.addRoot.1
    (Place.root state.programs) 0 program (founded.opened fits) isUnit
  refine Course.Ends.since ?_ later
  exact Course.Ends.bind statements fun type _ _ _ founded isType =>
    (goes_checkUncalled fuel 0 founded).bind fun _ _ _ more founded _ =>
      .pure founded (isType.mono more)

end Check

end CheckedScript
