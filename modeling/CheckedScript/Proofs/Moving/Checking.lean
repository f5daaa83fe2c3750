import CheckedScript.Proofs.Moving.States
import CheckedScript.Typing.Check

/-!
# Checking behind another check

A check that is put behind another one, with moved tokens, goes the way it goes
alone: it never looks at what the earlier check has left, compares identifiers,
generations and positions for equality only, and reports what it reports alone,
up to what has been reported before.
-/

namespace CheckedScript

open Typing

namespace Check

variable (relocation : Relocation)

section Primitives

variable {α β : Type} {value : α → β}

theorem moves_exhausted : relocation.motion.Moves value (throw .exhausted) (throw .exhausted) :=
  .throw rfl

theorem moves_fail (cause : Cause) (token : Token) :
    relocation.motion.Moves value (fail cause token) (fail cause (token.move relocation.moved)) :=
  .throw rfl

theorem moves_report (cause : Cause) (token : Token) :
    relocation.motion.Moves id (report cause token)
      (report cause (token.move relocation.moved)) := fun state tidy =>
  .modify (tidy.report _)
    (relocation.report_state state { cause := cause, token := token })

theorem moves_orFault {first : Except Fault α} {second : Except Fault β}
    (same : second = first.map value) :
    relocation.motion.Moves value (orFault first) (orFault second) := by
  subst same
  cases first with
  | ok found => exact .pure rfl
  | error fault => exact .throw rfl

theorem moves_reporting {first : Check α} {second : Check β}
    (moves : relocation.motion.Moves value first second) :
    relocation.motion.Moves (Option.map value) (reporting first) (reporting second) := by
  intro state tidy
  have carries := moves state tidy
  unfold Motion.Carries at carries ⊢
  unfold reporting
  match equation : first state with
  | .ok found after =>
      rw [equation] at carries
      rw [carries.1]
      exact ⟨rfl, carries.2⟩
  | .error (.failed diagnostic) after =>
      rw [equation] at carries
      rw [carries.1]
      exact ⟨congrArg (EStateM.Result.ok none) (relocation.report_state after diagnostic),
        State.Tidy.report carries.2 diagnostic⟩
  | .error .reported after =>
      rw [equation] at carries
      rw [carries.1]
      exact ⟨rfl, carries.2⟩
  | .error (.faulted fault) after =>
      rw [equation] at carries
      rw [carries.1]
      exact ⟨rfl, carries.2⟩
  | .error .exhausted after =>
      rw [equation] at carries
      rw [carries.1]
      exact ⟨rfl, carries.2⟩

theorem moves_onFailure {first : Check α} {second : Check β} {change changeMoved : State → State}
    (moves : relocation.motion.Moves value first second)
    (keeps : ∀ state : State, state.Tidy relocation.limit → (change state).Tidy relocation.limit)
    (same : ∀ state, changeMoved (relocation.state state) = relocation.state (change state)) :
    relocation.motion.Moves value (onFailure first change) (onFailure second changeMoved) := by
  intro state tidy
  have carries := moves state tidy
  unfold Motion.Carries at carries ⊢
  unfold onFailure
  match equation : first state with
  | .ok found after =>
      rw [equation] at carries
      rw [carries.1]
      exact ⟨rfl, carries.2⟩
  | .error (.failed diagnostic) after =>
      rw [equation] at carries
      rw [carries.1]
      exact ⟨congrArg (EStateM.Result.error _) (same after), keeps after carries.2⟩
  | .error .reported after =>
      rw [equation] at carries
      rw [carries.1]
      exact ⟨congrArg (EStateM.Result.error _) (same after), keeps after carries.2⟩
  | .error (.faulted fault) after =>
      rw [equation] at carries
      rw [carries.1]
      exact ⟨rfl, carries.2⟩
  | .error .exhausted after =>
      rw [equation] at carries
      rw [carries.1]
      exact ⟨rfl, carries.2⟩

theorem moves_nest (frame : FrameId) :
    relocation.motion.Moves relocation.frame (nest frame) (nest (relocation.frame frame)) := by
  intro state tidy
  have same := relocation.nest_state state frame
  refine ⟨?_, tidy.of_same rfl⟩
  unfold nest
  dsimp only [Relocation.motion]
  rw [same]
  rfl

theorem moves_define (frame : FrameId) (bindings : Bindings Ty) :
    relocation.motion.Moves id (define frame bindings)
      (define (relocation.frame frame) (Table.change id relocation.type bindings)) :=
  fun state tidy => .modify (tidy.of_same rfl) (by
    dsimp only [Relocation.motion]
    rw [relocation.defineAll_state state frame bindings]
    rfl)

theorem moves_bind (frame : FrameId) (name : String) (type : Ty) :
    relocation.motion.Moves id (bind frame name type)
      (bind (relocation.frame frame) name (relocation.type type)) :=
  fun state tidy => .modify (tidy.of_same rfl) (relocation.bind_state state frame name type)

theorem moves_lookup? (frame : FrameId) (name : String) :
    relocation.motion.Moves (Option.map relocation.type) (lookup? frame name)
      (lookup? (relocation.frame frame) name) :=
  fun state tidy => .get (.pure tidy (relocation.get?_state state frame name))

end Primitives

mutual

theorem alwaysReturns_move (moved : Position → Position) (stmt : Stmt) :
    alwaysReturns (stmt.move moved) = alwaysReturns stmt := by
  cases stmt with
  | block body => exact blockReturns_move moved body
  | ifElse keyword condition consequent alternative =>
      rw [Stmt.move, alwaysReturns, alwaysReturns, blockReturns_move moved consequent,
        alwaysReturns_move moved alternative]
  | expression _ | letValue _ _ _ | ifThen _ _ _ | whileLoop _ _ _ | forLoop _ _ _
  | function _ _ _ | giveBack _ _ => rfl

theorem blockReturns_move (moved : Position → Position) (body : Block) :
    blockReturns (body.move moved) = blockReturns body := by
  cases body with
  | mk brace statements tail => exact anyReturns_moveAll moved statements

theorem anyReturns_moveAll (moved : Position → Position) (stmts : List Stmt) :
    anyReturns (Stmt.moveAll moved stmts) = anyReturns stmts := by
  cases stmts with
  | nil => rfl
  | cons stmt stmts =>
      rw [Stmt.moveAll, anyReturns, anyReturns, alwaysReturns_move moved stmt,
        anyReturns_moveAll moved stmts]

end

/-- All parts of a check with a bound on their nesting. -/
structure ChecksMove (fuel : Nat) : Prop where
  typeOf : ∀ frame (place : Place) expr, place.Within relocation.limit →
    relocation.motion.Moves relocation.type (typeOf fuel frame place expr)
      (typeOf fuel (relocation.frame frame) (relocation.place place) (expr.move relocation.moved))
  typesOf : ∀ frame (place : Place) step exprs, place.Within relocation.limit →
    relocation.motion.Moves (List.map relocation.type) (typesOf fuel frame place step exprs)
      (typesOf fuel (relocation.frame frame) (relocation.place place) step
        (exprs.map (Expr.move relocation.moved)))
  infer : ∀ frame (place : Place) expr, place.Within relocation.limit →
    relocation.motion.Moves relocation.type (infer fuel frame place expr)
      (infer fuel (relocation.frame frame) (relocation.place place) (expr.move relocation.moved))
  callType : ∀ callee arguments paren,
    relocation.motion.Moves relocation.type (callType fuel callee arguments paren)
      (callType fuel (relocation.type callee) (arguments.map relocation.type)
        (paren.move relocation.moved))
  instantiate : ∀ name identifier arguments anchor,
    relocation.motion.Moves relocation.type (instantiate fuel name identifier arguments anchor)
      (instantiate fuel name (relocation.identifier identifier) (arguments.map relocation.type)
        (anchor.move relocation.moved))
  checkBody : ∀ identifier arguments (function : DeclaredFunction) frame, function.place.Within relocation.limit →
    relocation.motion.Moves (List.map relocation.returned)
      (checkBody fuel identifier arguments function frame)
      (checkBody fuel (relocation.identifier identifier) (arguments.map relocation.type)
        (relocation.function function) (relocation.frame frame))
  checkStmt : ∀ frame (place : Place) stmt, place.Within relocation.limit →
    relocation.motion.Moves relocation.type (checkStmt fuel frame place stmt)
      (checkStmt fuel (relocation.frame frame) (relocation.place place)
        (stmt.move relocation.moved))
  checkLet : ∀ frame (place : Place) name (declared : Option Ty) initializer, place.Within relocation.limit →
    relocation.motion.Moves id (checkLet fuel frame place name declared initializer)
      (checkLet fuel (relocation.frame frame) (relocation.place place)
        (name.move relocation.moved) (declared.map relocation.type)
        (initializer.move relocation.moved))
  checkAll : ∀ frame (place : Place) step stmts, place.Within relocation.limit →
    relocation.motion.Moves id (checkAll fuel frame place step stmts)
      (checkAll fuel (relocation.frame frame) (relocation.place place) step
        (stmts.map (Stmt.move relocation.moved)))
  checkBlock : ∀ frame (place : Place) body, place.Within relocation.limit →
    relocation.motion.Moves relocation.type (checkBlock fuel frame place body)
      (checkBlock fuel (relocation.frame frame) (relocation.place place)
        (body.move relocation.moved))
  checkCondition : ∀ frame (place : Place) keyword condition, place.Within relocation.limit →
    relocation.motion.Moves id (checkCondition fuel frame place keyword condition)
      (checkCondition fuel (relocation.frame frame) (relocation.place place)
        (keyword.move relocation.moved) (condition.move relocation.moved))
  checkBound : ∀ frame (place : Place) token bound, place.Within relocation.limit →
    relocation.motion.Moves id (checkBound fuel frame place token bound)
      (checkBound fuel (relocation.frame frame) (relocation.place place)
        (token.move relocation.moved) (bound.move relocation.moved))

namespace ChecksMove

variable {relocation} {fuel : Nat}

/-- What stands one step further down. -/
theorem child (all : ChecksMove relocation fuel) (frame : FrameId) {place : Place} (step : Nat)
    (expr : Expr) (within : place.Within relocation.limit) :
    relocation.motion.Moves relocation.type (Check.typeOf fuel frame (place.child step) expr)
      (Check.typeOf fuel (relocation.frame frame) ((relocation.place place).child step)
        (expr.move relocation.moved)) := by
  rw [Relocation.place, Place.raise_child _ within]
  exact all.typeOf frame (place.child step) expr (within.child step)

theorem typeOf_succ (all : ChecksMove relocation fuel) (frame : FrameId) (place : Place)
    (expr : Expr) (within : place.Within relocation.limit) :
    relocation.motion.Moves relocation.type (Check.typeOf (fuel + 1) frame place expr)
      (Check.typeOf (fuel + 1) (relocation.frame frame) (relocation.place place)
        (expr.move relocation.moved)) := by
  rw [Check.typeOf, Check.typeOf]
  refine (all.infer frame place expr within).bind fun type state tidy => ?_
  refine (Motion.Carries.modify (tidy.note within expr type)
    (relocation.note_state state within.rooted expr type)).bind fun _ _ _ tidy => .pure tidy rfl

theorem typesOf_succ (all : ChecksMove relocation fuel) (frame : FrameId) (place : Place)
    (step : Nat) (exprs : List Expr) (within : place.Within relocation.limit) :
    relocation.motion.Moves (List.map relocation.type)
      (Check.typesOf (fuel + 1) frame place step exprs)
      (Check.typesOf (fuel + 1) (relocation.frame frame) (relocation.place place) step
        (exprs.map (Expr.move relocation.moved))) := by
  cases exprs with
  | nil => exact .pure rfl
  | cons expr exprs =>
      rw [List.map_cons, Check.typesOf, Check.typesOf]
      refine (all.child frame step expr within).bind fun type => ?_
      exact (all.typesOf frame place (step + 1) exprs within).bind fun types => .pure rfl

theorem infer_succ (all : ChecksMove relocation fuel) (frame : FrameId) (place : Place)
    (expr : Expr) (within : place.Within relocation.limit) :
    relocation.motion.Moves relocation.type (Check.infer (fuel + 1) frame place expr)
      (Check.infer (fuel + 1) (relocation.frame frame) (relocation.place place)
        (expr.move relocation.moved)) := by
  have injective := relocation.identifier_injective
  have child := fun step part => all.child frame step part within
  cases expr with
  | literal value token =>
      rw [Expr.move, Check.infer, Check.infer]
      cases value <;> exact .pure rfl
  | reference name =>
      rw [Expr.move, Check.infer, Check.infer]
      refine (moves_lookup? relocation frame name.lexeme).bind fun found => ?_
      cases found with
      | some type => exact .pure rfl
      | none => exact moves_fail relocation _ name
  | assign name value =>
      rw [Expr.move, Check.infer, Check.infer]
      refine (child 0 value).bind fun found => ?_
      refine (moves_lookup? relocation frame name.lexeme).bind fun declared => ?_
      cases declared with
      | none => exact moves_fail relocation _ name
      | some declared =>
          simp only [Option.map_some, Relocation.compatible_type, Relocation.describe_type]
          split
          · exact .pure rfl
          · exact moves_fail relocation _ name
  | group inner =>
      rw [Expr.move, Check.infer, Check.infer]
      exact child 0 inner
  | tuple items =>
      rw [Expr.move, Check.infer, Check.infer, Expr.moveAll_eq_map]
      exact (all.typesOf frame place 0 items within).bind fun types =>
        .pure (by rw [Relocation.type, Ty.rename, Ty.renameAll_eq_map])
  | unary operator token operand =>
      rw [Expr.move, Check.infer, Check.infer]
      refine (child 0 operand).bind fun found => ?_
      simp only [Relocation.type, unaryType?_rename injective, Ty.describe_rename]
      cases unaryType? operator found with
      | some result => exact .pure rfl
      | none => exact moves_fail relocation _ token
  | binary operator token left right =>
      rw [Expr.move, Check.infer, Check.infer]
      refine (child 0 left).bind fun leftType => ?_
      refine (child 1 right).bind fun rightType => ?_
      simp only [Relocation.type, binaryType?_rename injective, Ty.describe_rename]
      cases binaryType? operator leftType rightType with
      | some result => exact .pure rfl
      | none => exact moves_fail relocation _ token
  | logical operator token left right =>
      rw [Expr.move, Check.infer, Check.infer]
      refine (child 0 left).bind fun leftType => ?_
      refine (child 1 right).bind fun rightType => ?_
      simp only [Relocation.bool_compatible_type, Relocation.describe_type]
      split
      · exact .pure rfl
      · exact moves_fail relocation _ token
  | call callee paren arguments =>
      rw [Expr.move, Check.infer, Check.infer, Expr.moveAll_eq_map]
      refine (child 0 callee).bind fun calleeType => ?_
      refine (all.typesOf frame place 1 arguments within).bind fun argumentTypes => ?_
      exact all.callType calleeType argumentTypes paren

theorem callType_succ (all : ChecksMove relocation fuel) (callee : Ty) (arguments : List Ty)
    (paren : Token) :
    relocation.motion.Moves relocation.type (Check.callType (fuel + 1) callee arguments paren)
      (Check.callType (fuel + 1) (relocation.type callee) (arguments.map relocation.type)
        (paren.move relocation.moved)) := by
  have injective := relocation.identifier_injective
  cases callee with
  | native name parameters result =>
      rw [Relocation.type, Ty.rename, Check.callType, Check.callType, Ty.renameAll_eq_map,
        nativeCallType_rename injective]
      cases nativeCallType name parameters result arguments with
      | ok type => exact .pure rfl
      | error cause => exact moves_fail relocation _ paren
  | function name identifier =>
      rw [Relocation.type, Ty.rename, Check.callType, Check.callType, List.length_map]
      intro state tidy
      refine .get ?_
      have found : relocation.motion.Moves id (orFault (arity state.functions name identifier))
          (orFault (arity (relocation.state state).functions name
            (relocation.identifier identifier))) :=
        moves_orFault relocation (by
          rw [relocation.arity_state]
          cases arity state.functions name identifier <;> rfl)
      refine (found state tidy).bind fun expected after _ tidy => ?_
      dsimp only [id_eq]
      split
      · exact all.instantiate name identifier arguments paren after tidy
      · exact moves_fail relocation _ paren after tidy
  | unknown => exact .pure rfl
  | bareNative => exact .throw rfl
  | tuple items =>
      change relocation.motion.Moves _ (fail (.notCallable (Ty.tuple items).describe) paren)
        (fail (.notCallable (relocation.type (.tuple items)).describe) _)
      rw [Relocation.type, Ty.describe_rename]
      exact moves_fail relocation _ paren
  | number | text | bool | displayable => exact moves_fail relocation _ paren

theorem find?_activations (state : State) (identifier : Nat) (arguments : List Ty) :
    ((relocation.state state).activations.find? fun activation =>
        activation.function = relocation.identifier identifier &&
          activation.arguments = arguments.map relocation.type) =
      (state.activations.find? fun activation =>
        activation.function = identifier && activation.arguments = arguments).map
          relocation.activation := by
  change (state.activations.map relocation.activation).find? _ = _
  rw [List.find?_map]
  congr 2
  funext activation
  simp [Relocation.activation, relocation.identifier_injective.eq_iff,
    (List.map_injective_iff.2 relocation.type_injective).eq_iff]

theorem countP_activations (state : State) (identifier : Nat) :
    ((relocation.state state).activations.countP fun activation =>
        activation.function = relocation.identifier identifier) =
      state.activations.countP fun activation => activation.function = identifier := by
  change (state.activations.map relocation.activation).countP _ = _
  rw [List.countP_map]
  congr 1
  funext activation
  simp [Relocation.activation, relocation.identifier_injective.eq_iff]

/-- The result of an instance is chosen and remembered. -/
theorem finish (name : String) (identifier : Nat) (arguments : List Ty) (generation : Nat)
    (results : List (Ty × Token)) :
    relocation.motion.Moves relocation.type
      (do
        let result := chooseResult (results.map (·.1))
        modify fun state =>
          ((returnMismatches name result results).foldl State.report state).setInstance identifier
            (arguments, generation) result
        return result)
      (do
        let result := chooseResult ((results.map relocation.returned).map (·.1))
        modify fun state =>
          ((returnMismatches name result (results.map relocation.returned)).foldl State.report
            state).setInstance (relocation.identifier identifier)
              (arguments.map relocation.type, generation + relocation.front.generation) result
        return result) := by
  intro state tidy
  have chosen : chooseResult ((results.map relocation.returned).map (·.1)) =
      relocation.type (chooseResult (results.map (·.1))) := by
    have types : (results.map relocation.returned).map (·.1) =
        (results.map (·.1)).map relocation.type := by
      simp [Relocation.returned]
    rw [types]
    exact chooseResult_rename _
  simp only [chosen, relocation.returnMismatches_state]
  refine (Motion.Carries.modify ?_ ?_).bind fun _ after _ tidy => .pure tidy rfl
  · exact (tidy.reports _).setInstance _ _ _
  · dsimp only [Relocation.motion]
    rw [relocation.reports_state]
    exact relocation.setInstance_state _ identifier (arguments, generation) _

theorem instantiate_succ (all : ChecksMove relocation fuel) (name : String) (identifier : Nat)
    (arguments : List Ty) (anchor : Token) :
    relocation.motion.Moves relocation.type
      (Check.instantiate (fuel + 1) name identifier arguments anchor)
      (Check.instantiate (fuel + 1) name (relocation.identifier identifier)
        (arguments.map relocation.type) (anchor.move relocation.moved)) := by
  rw [Check.instantiate, Check.instantiate]
  intro state tidy
  refine .get ?_
  have declared : relocation.motion.Moves relocation.function
      (orFault (declaration state.functions name identifier))
      (orFault (declaration (relocation.state state).functions name
        (relocation.identifier identifier))) :=
    moves_orFault relocation (relocation.declaration_state state name identifier)
  refine (declared state tidy).bind fun function after equation _ => ?_
  obtain ⟨isDeclared, rfl⟩ := orFault_eq_ok equation
  have within := tidy.functions identifier function (declaration_eq_ok.1 isDeclared)
  have instances : (relocation.function function).instances.get?
      (arguments.map relocation.type, (relocation.state state).generation) =
      (function.instances.get? (arguments, state.generation)).map relocation.type :=
    Table.get?_change relocation.key_injective relocation.type function.instances
      (arguments, state.generation)
  dsimp only [Relocation.motion]
  rw [instances, find?_activations, countP_activations]
  cases function.instances.get? (arguments, state.generation) with
  | some result => exact .pure tidy rfl
  | none =>
      cases state.activations.find? fun activation =>
          activation.function = identifier && activation.arguments = arguments with
      | some activation =>
          cases returns : activation.returns with
          | cons first others =>
              simp only [Option.map_some, Relocation.activation, returns, List.map_cons]
              exact .pure tidy rfl
          | nil =>
              simp only [Option.map_some, Relocation.activation, returns, List.map_nil,
                ← Ty.renameAll_eq_map, Relocation.type, Ty.anyUnknown_renameAll]
              split
              · exact .pure tidy rfl
              · exact moves_fail relocation _ anchor state tidy
      | none =>
          dsimp only [Option.map_none]
          split
          · exact moves_fail relocation _ anchor state tidy
          -- A new instance is checked in a frame that both make alike.
          refine (moves_nest relocation function.closure).bind (fun frame => ?_) state tidy
          have bindings : ((relocation.function function).parameters.map (·.lexeme)).zip
              (arguments.map relocation.type) =
              Table.change id relocation.type
                ((function.parameters.map (·.lexeme)).zip arguments) := by
            simp only [Relocation.function, List.map_map, Table.change, List.zip_map_right]
            rfl
          rw [bindings]
          refine (moves_define relocation frame _).bind fun _ => ?_
          exact (all.checkBody identifier arguments function frame within).bind fun results =>
            finish name identifier arguments state.generation results

/-- A body is entered. -/
theorem enter (identifier : Nat) (arguments : List Ty) :
    relocation.motion.Moves id
      (modify fun state =>
        { state with
          activations :=
            { function := identifier, arguments := arguments, returns := [] } ::
              state.activations } : Check Unit)
      (modify fun state =>
        { state with
          activations :=
            { function := relocation.identifier identifier
              arguments := arguments.map relocation.type, returns := [] } ::
              state.activations } : Check Unit) :=
  fun _ tidy => .modify (tidy.of_same rfl) rfl

/-- A body is left, and its returns are collected. -/
theorem leave (function : DeclaredFunction) (fallThrough : Option Ty) :
    relocation.motion.Moves (List.map relocation.returned)
      (do
        let state ← get
        let returns := (state.activations.head?.map (·.returns)).getD []
        set { state with activations := state.activations.tail }
        match fallThrough with
        | some type =>
            if blockReturns function.body then
              return returns
            else
              return returns ++ [(type, function.name)]
        | none => return returns : Check (List (Ty × Token)))
      (do
        let state ← get
        let returns := (state.activations.head?.map (·.returns)).getD []
        set { state with activations := state.activations.tail }
        match fallThrough.map relocation.type with
        | some type =>
            if blockReturns (function.body.move relocation.moved) then
              return returns
            else
              return returns ++ [(type, function.name.move relocation.moved)]
        | none => return returns : Check (List (Ty × Token))) := by
  intro state tidy
  refine .get ?_
  have returns : ((relocation.state state).activations.head?.map (·.returns)).getD [] =
      ((state.activations.head?.map (·.returns)).getD []).map relocation.returned := by
    change ((state.activations.map relocation.activation).head?.map (·.returns)).getD [] = _
    cases state.activations <;> rfl
  have left : ({ relocation.state state with
      activations := (relocation.state state).activations.tail } : State) =
      relocation.state { state with activations := state.activations.tail } := by
    simp [Relocation.state]
  dsimp only [Relocation.motion]
  rw [returns, left, blockReturns_move]
  have kept : ({ state with activations := state.activations.tail } : State).Tidy
      relocation.limit := tidy.of_same rfl
  refine (Motion.Carries.set kept rfl).bind fun _ after _ tidy => ?_
  cases fallThrough with
  | none => exact .pure tidy rfl
  | some type =>
      dsimp only [Option.map_some]
      split
      · exact .pure tidy rfl
      · exact .pure tidy (by rw [List.map_append]; rfl)

theorem checkBody_succ (all : ChecksMove relocation fuel) (identifier : Nat) (arguments : List Ty)
    (function : DeclaredFunction) (frame : FrameId) (within : function.place.Within relocation.limit) :
    relocation.motion.Moves (List.map relocation.returned)
      (Check.checkBody (fuel + 1) identifier arguments function frame)
      (Check.checkBody (fuel + 1) (relocation.identifier identifier)
        (arguments.map relocation.type) (relocation.function function)
        (relocation.frame frame)) := by
  rw [Check.checkBody, Check.checkBody]
  refine (enter identifier arguments).bind fun _ => ?_
  simp only [Relocation.function, Block.statements_move, Block.tail_move, List.length_map]
  refine (all.checkAll frame function.place 0 function.body.statements within).bind fun _ => ?_
  cases function.body.tail with
  | none => exact leave function (some .unit)
  | some tail =>
      exact (moves_reporting relocation (all.child frame _ tail within)).bind (leave function)

theorem checkLet_succ (all : ChecksMove relocation fuel) (frame : FrameId) (place : Place)
    (name : Token) (declared : Option Ty) (initializer : Expr) (within : place.Within relocation.limit) :
    relocation.motion.Moves id (Check.checkLet (fuel + 1) frame place name declared initializer)
      (Check.checkLet (fuel + 1) (relocation.frame frame) (relocation.place place)
        (name.move relocation.moved) (declared.map relocation.type)
        (initializer.move relocation.moved)) := by
  have child := all.child frame 0 initializer within
  cases declared with
  | none =>
      rw [Option.map_none, Check.checkLet, Check.checkLet]
      exact child.bind fun found => moves_bind relocation frame name.lexeme found
  | some type =>
      rw [Option.map_some, Check.checkLet, Check.checkLet]
      have bound : relocation.motion.Moves relocation.type
          (onFailure (Check.typeOf fuel frame (place.child 0) initializer) fun state =>
            state.bind frame name.lexeme type)
          (onFailure (Check.typeOf fuel (relocation.frame frame) ((relocation.place place).child 0)
            (initializer.move relocation.moved)) fun state =>
              state.bind (relocation.frame frame) name.lexeme (relocation.type type)) :=
        moves_onFailure relocation child (fun _ tidy => tidy.of_same rfl)
          fun state => relocation.bind_state state frame name.lexeme type
      refine bound.bind fun found => ?_
      refine (moves_bind relocation frame name.lexeme type).bind fun _ => ?_
      simp only [Relocation.compatible_type, Relocation.describe_type]
      split
      · exact moves_fail relocation _ name
      · exact .pure rfl

theorem checkAll_succ (all : ChecksMove relocation fuel) (frame : FrameId) (place : Place)
    (step : Nat) (stmts : List Stmt) (within : place.Within relocation.limit) :
    relocation.motion.Moves id (Check.checkAll (fuel + 1) frame place step stmts)
      (Check.checkAll (fuel + 1) (relocation.frame frame) (relocation.place place) step
        (stmts.map (Stmt.move relocation.moved))) := by
  cases stmts with
  | nil => exact .pure rfl
  | cons stmt stmts =>
      rw [List.map_cons, Check.checkAll, Check.checkAll, Relocation.place,
        Place.raise_child _ within]
      refine (moves_reporting relocation
        (all.checkStmt frame (place.child step) stmt (within.child step))).bind fun _ => ?_
      exact all.checkAll frame place (step + 1) stmts within

theorem checkBlock_succ (all : ChecksMove relocation fuel) (frame : FrameId) (place : Place)
    (body : Block) (within : place.Within relocation.limit) :
    relocation.motion.Moves relocation.type (Check.checkBlock (fuel + 1) frame place body)
      (Check.checkBlock (fuel + 1) (relocation.frame frame) (relocation.place place)
        (body.move relocation.moved)) := by
  obtain ⟨brace, statements, tail⟩ := body
  rw [Block.move, Stmt.moveAll_eq_map]
  cases tail with
  | none =>
      rw [Option.map_none, Check.checkBlock, Check.checkBlock]
      refine (moves_nest relocation frame).bind fun inner => ?_
      exact (all.checkAll inner place 0 statements within).bind fun _ => .pure rfl
  | some tail =>
      rw [Option.map_some, Check.checkBlock, Check.checkBlock, List.length_map]
      refine (moves_nest relocation frame).bind fun inner => ?_
      refine (all.checkAll inner place 0 statements within).bind fun _ => ?_
      refine (moves_reporting relocation
        (all.child inner statements.length tail within)).bind fun type => ?_
      cases type with
      | some type => exact .pure rfl
      | none => exact .throw rfl

theorem checkCondition_succ (all : ChecksMove relocation fuel) (frame : FrameId) (place : Place)
    (keyword : Token) (condition : Expr) (within : place.Within relocation.limit) :
    relocation.motion.Moves id (Check.checkCondition (fuel + 1) frame place keyword condition)
      (Check.checkCondition (fuel + 1) (relocation.frame frame) (relocation.place place)
        (keyword.move relocation.moved) (condition.move relocation.moved)) := by
  rw [Check.checkCondition, Check.checkCondition]
  refine (moves_reporting relocation (all.typeOf frame place condition within)).bind
    fun found => ?_
  cases found with
  | none => exact .pure rfl
  | some found =>
      simp only [Option.map_some, Relocation.bool_compatible_type, Relocation.describe_type]
      split
      · exact moves_report relocation _ keyword
      · exact .pure rfl

theorem checkBound_succ (all : ChecksMove relocation fuel) (frame : FrameId) (place : Place)
    (token : Token) (bound : Expr) (within : place.Within relocation.limit) :
    relocation.motion.Moves id (Check.checkBound (fuel + 1) frame place token bound)
      (Check.checkBound (fuel + 1) (relocation.frame frame) (relocation.place place)
        (token.move relocation.moved) (bound.move relocation.moved)) := by
  rw [Check.checkBound, Check.checkBound]
  refine (all.typeOf frame place bound within).bind fun found => ?_
  simp only [Relocation.number_compatible_type, Relocation.describe_type]
  split
  · exact moves_fail relocation _ token
  · exact .pure rfl


/-- Written types name no functions. -/
theorem type_written (declared : Option WrittenType) :
    (declared.map (·.type)).map relocation.type = declared.map (·.type) := by
  cases declared with
  | none => rfl
  | some written => exact congrArg some (relocation.type_of_isClosed written.isClosed_type)

theorem checkStmt_succ (all : ChecksMove relocation fuel) (frame : FrameId) (place : Place)
    (stmt : Stmt) (within : place.Within relocation.limit) :
    relocation.motion.Moves relocation.type (Check.checkStmt (fuel + 1) frame place stmt)
      (Check.checkStmt (fuel + 1) (relocation.frame frame) (relocation.place place)
        (stmt.move relocation.moved)) := by
  have below : ∀ step, (relocation.place place).child step = relocation.place (place.child step) :=
    Place.raise_child _ within
  have condition := fun keyword expr =>
    all.checkCondition frame (place.child 0) keyword expr (within.child 0)
  have bound := fun step token expr =>
    all.checkBound frame (place.child step) token expr (within.child step)
  have block := fun inner step body =>
    all.checkBlock inner (place.child step) body (within.child step)
  cases stmt with
  | expression value =>
      rw [Stmt.move, Check.checkStmt, Check.checkStmt]
      exact all.child frame 0 value within
  | letValue name declared initializer =>
      rw [Stmt.move, Check.checkStmt, Check.checkStmt]
      have bound := all.checkLet frame place name (declared.map (·.type)) initializer within
      rw [type_written] at bound
      exact bound.bind fun _ => .pure rfl
  | block body =>
      rw [Stmt.move, Check.checkStmt, Check.checkStmt]
      exact all.checkBlock frame place body within
  | ifThen keyword test consequent =>
      rw [Stmt.move, Check.checkStmt, Check.checkStmt, below, below]
      refine (condition keyword test).bind fun _ => ?_
      exact (block frame 1 consequent).bind fun _ => .pure rfl
  | ifElse keyword test consequent alternative =>
      rw [Stmt.move, Check.checkStmt, Check.checkStmt, below, below, below]
      refine (condition keyword test).bind fun _ => ?_
      refine (block frame 1 consequent).bind fun _ => ?_
      exact (all.checkStmt frame (place.child 2) alternative (within.child 2)).bind
        fun _ => .pure rfl
  | whileLoop keyword test body =>
      rw [Stmt.move, Check.checkStmt, Check.checkStmt, below, below]
      refine (condition keyword test).bind fun _ => ?_
      exact (block frame 1 body).bind fun _ => .pure rfl
  | forLoop name bounds body =>
      rw [Stmt.move, Check.checkStmt, Check.checkStmt, below, below, below, below]
      refine (bound 0 bounds.token bounds.start).bind fun _ => ?_
      have rest : relocation.motion.Moves relocation.type
          (do
            Check.checkBound fuel frame (place.child 2) bounds.token bounds.stop
            let inner ← nest frame
            define inner [(name.lexeme, .number)]
            let _ ← Check.checkBlock fuel inner (place.child 3) body
            return Ty.unit)
          (do
            Check.checkBound fuel (relocation.frame frame) (relocation.place (place.child 2))
              (bounds.token.move relocation.moved) (bounds.stop.move relocation.moved)
            let inner ← nest (relocation.frame frame)
            define inner [(name.lexeme, .number)]
            let _ ← Check.checkBlock fuel inner (relocation.place (place.child 3))
              (body.move relocation.moved)
            return Ty.unit) := by
        refine (bound 2 bounds.token bounds.stop).bind fun _ => ?_
        refine (moves_nest relocation frame).bind fun inner => ?_
        refine (moves_define relocation inner [(name.lexeme, .number)]).bind fun _ => ?_
        exact (block inner 3 body).bind fun _ => .pure rfl
      rw [Bounds.move]
      cases bounds.step with
      | none => exact rest
      | some step => exact (bound 1 bounds.token step).bind fun _ => rest
  | function name parameters body =>
      rw [Stmt.move, Check.checkStmt, Check.checkStmt, below]
      intro state tidy
      refine (Motion.Carries.modify (tidy.declare frame (within.child 0) name parameters
        body) (relocation.declare_state state frame name parameters body)).bind
          fun _ _ _ tidy => .pure tidy rfl
  | giveBack keyword value =>
      have added : ∀ type, relocation.motion.Moves relocation.type
          (do
            modify fun state => state.addReturn type keyword
            return Ty.unit : Check Ty)
          (do
            modify fun state => state.addReturn (relocation.type type)
              (keyword.move relocation.moved)
            return Ty.unit : Check Ty) := fun type state tidy =>
        (Motion.Carries.modify (tidy.addReturn type keyword)
          (relocation.addReturn_state state type keyword)).bind
            fun _ _ _ tidy => .pure tidy rfl
      rw [Stmt.move, Check.checkStmt, Check.checkStmt]
      intro state tidy
      refine .get ?_
      have empty : (relocation.motion.state state).activations.isEmpty =
          state.activations.isEmpty := by
        simp [Relocation.motion, Relocation.state]
      rw [empty]
      split
      · exact moves_fail relocation _ keyword state tidy
      · cases value with
        | none => exact added .unit state tidy
        | some value =>
            exact (all.child frame 0 value within).bind added state tidy

end ChecksMove

theorem checksMove (fuel : Nat) : ChecksMove relocation fuel := by
  induction fuel with
  | zero =>
      exact
        { typeOf := fun _ _ _ _ => moves_exhausted relocation
          typesOf := fun _ _ _ _ _ => moves_exhausted relocation
          infer := fun _ _ _ _ => moves_exhausted relocation
          callType := fun _ _ _ => moves_exhausted relocation
          instantiate := fun _ _ _ _ => moves_exhausted relocation
          checkBody := fun _ _ _ _ _ => moves_exhausted relocation
          checkStmt := fun _ _ _ _ => moves_exhausted relocation
          checkLet := fun _ _ _ _ _ _ => moves_exhausted relocation
          checkAll := fun _ _ _ _ _ => moves_exhausted relocation
          checkBlock := fun _ _ _ _ => moves_exhausted relocation
          checkCondition := fun _ _ _ _ _ => moves_exhausted relocation
          checkBound := fun _ _ _ _ _ => moves_exhausted relocation }
  | succ fuel all =>
      exact
        { typeOf := all.typeOf_succ
          typesOf := all.typesOf_succ
          infer := all.infer_succ
          callType := all.callType_succ
          instantiate := all.instantiate_succ
          checkBody := all.checkBody_succ
          checkStmt := all.checkStmt_succ
          checkLet := all.checkLet_succ
          checkAll := all.checkAll_succ
          checkBlock := all.checkBlock_succ
          checkCondition := all.checkCondition_succ
          checkBound := all.checkBound_succ }

theorem moves_checkStatements (fuel : Nat) (frame : FrameId) {place : Place}
    (within : place.Within relocation.limit) (step : Nat) (last : Ty) (stmts : List Stmt) :
    relocation.motion.Moves relocation.type (checkStatements fuel frame place step last stmts)
      (checkStatements fuel (relocation.frame frame) (relocation.place place) step
        (relocation.type last) (stmts.map (Stmt.move relocation.moved))) := by
  induction stmts generalizing step last with
  | nil => exact .pure rfl
  | cons stmt stmts inductionHypothesis =>
      rw [List.map_cons, checkStatements, checkStatements, Relocation.place,
        Place.raise_child _ within]
      refine (moves_reporting relocation ((checksMove relocation fuel).checkStmt frame
        (place.child step) stmt (within.child step))).bind fun type => ?_
      have next := inductionHypothesis (step + 1) (type.getD .unit)
      cases type <;> exact next

/-- Functions are numbered on behind those of the earlier check. -/
theorem moves_checkUncalled (fuel identifier : Nat) :
    relocation.motion.Moves id (checkUncalled fuel identifier)
      (checkUncalled fuel (relocation.identifier identifier)) := by
  induction fuel generalizing identifier with
  | zero => exact moves_exhausted relocation
  | succ fuel inductionHypothesis =>
      rw [checkUncalled, checkUncalled]
      intro state tidy
      refine .get ?_
      dsimp only [Relocation.motion]
      rw [relocation.getElem?_functions_state]
      have next : relocation.motion.Moves id (checkUncalled fuel (identifier + 1))
          (checkUncalled fuel (relocation.identifier identifier + 1)) := by
        have later := inductionHypothesis (identifier + 1)
        rwa [Relocation.identifier, Nat.add_right_comm] at later
      cases state.functions[identifier]? with
      | none => exact .pure tidy rfl
      | some function =>
          simp only [Option.map_some, Relocation.function, Table.isEmpty_change, List.length_map]
          split
          · have checked := moves_reporting relocation ((checksMove relocation fuel).instantiate
              function.name.lexeme identifier
              (List.replicate function.parameters.length Ty.unknown) function.name)
            rw [List.map_replicate] at checked
            exact (checked state tidy).bind fun _ after _ tidy => next after tidy
          · exact next state tidy

/-- Check the statements of a program in a new root frame. -/
def checkTop (fuel : Nat) (natives : Bindings Signature) (program : Program) : Check Ty := do
  let state ← get
  set (state.opened natives)
  checkStatements fuel state.scopes.frames.size (Place.root state.programs) 0 .unit program

theorem checkProgram_eq (fuel : Nat) (natives : Bindings Signature) (program : Program) :
    checkProgram fuel natives program = (do
      let type ← checkTop fuel natives program
      checkUncalled fuel 0
      return type) := by
  simp only [checkProgram, checkTop, bind_assoc]
  rfl

theorem moves_checkTop (fuel : Nat) {natives : Bindings Signature}
    (fixed : ∀ native ∈ natives, relocation.type native.2.type = native.2.type)
    (program : Program) {state : State} (tidy : (state.opened natives).Tidy relocation.limit) :
    relocation.motion.Carries relocation.type state (checkTop fuel natives program)
      (checkTop fuel natives (program.map (Stmt.move relocation.moved))) := by
  refine .get ?_
  have size : (relocation.state state).scopes.frames.size =
      relocation.frame state.scopes.frames.size := Scopes.size_frames_behind _ _ _
  have place : Place.root (relocation.state state).programs =
      relocation.place (Place.root state.programs) := rfl
  dsimp only [Relocation.motion]
  rw [relocation.opened_state state fixed, size, place]
  have later : state.programs < relocation.limit := tidy.programs ▸ Nat.lt_succ_self _
  refine (Motion.Carries.set tidy rfl).bind fun _ opened _ tidy => ?_
  exact moves_checkStatements relocation fuel _ (Place.within_root later) 0 .unit program opened tidy

end Check

end CheckedScript
