import CheckedScript.Proofs.Walks.Parts
import CheckedScript.Proofs.Walks.Traces

/-!
# The trace of a check

The checker is written once more here, as one that notes every part of the tree it turns to,
with the state it does so in.  Without the notes it is the checker.
-/

namespace CheckedScript

open Typing

namespace Check.Trace

/-- The steps of a check, with the visits on the way. -/
abbrev Steps := Traced Visit Stop State

/-- Turn to a task. -/
def enter {α : Type} (fuel : Nat) (frame : FrameId) (task : Task) (steps : Steps α) : Steps α :=
  steps.noted fun state => ⟨fuel, frame, state, task⟩

section Enter

variable {α : Type} (fuel : Nat) (frame : FrameId) (task : Task) (steps : Steps α)

@[simp]
theorem run_enter : (enter fuel frame task steps).run = steps.run :=
  rfl

@[simp]
theorem visits_enter (state : State) :
    (enter fuel frame task steps).visits state =
      ⟨fuel, frame, state, task⟩ :: steps.visits state :=
  rfl

end Enter

open Traced (lift through)

/-- The bound on the nesting leaves nothing for a task. -/
def exhausted {α : Type} (frame : FrameId) (task : Task) : Steps α :=
  enter 0 frame task (lift (throw .exhausted))

mutual

def typeOf : Nat → FrameId → Place → Expr → Steps Ty
  | 0, frame, place, expr => exhausted frame (.expression place expr)
  | fuel + 1, frame, place, expr =>
      enter (fuel + 1) frame (.expression place expr) do
        let type ← infer fuel frame place expr
        lift (modify fun state => state.note place expr type)
        return type
termination_by structural fuel => fuel

def typesOf : Nat → FrameId → Place → Nat → List Expr → Steps (List Ty)
  | 0, frame, place, step, exprs => exhausted frame (.expressions place step exprs)
  | fuel + 1, frame, place, step, exprs =>
      enter (fuel + 1) frame (.expressions place step exprs) do
        match exprs with
        | [] => return []
        | expr :: exprs =>
            let type ← typeOf fuel frame (place.child step) expr
            let types ← typesOf fuel frame place (step + 1) exprs
            return type :: types
termination_by structural fuel => fuel

def infer : Nat → FrameId → Place → Expr → Steps Ty
  | 0, _, _, _ => lift (throw .exhausted)
  | fuel + 1, frame, place, expr => do
      match expr with
      | .literal value _ => return constantType value
      | .reference name =>
          match ← lift (lookup? frame name.lexeme) with
          | some type => return type
          | none => lift (fail .undefinedName name)
      | .assign name value =>
          let found ← typeOf fuel frame (place.child 0) value
          match ← lift (lookup? frame name.lexeme) with
          | none => lift (fail .undefinedName name)
          | some declared =>
              if declared.compatible found then
                return declared
              else
                lift (fail (.assignmentMismatch declared.describe found.describe) name)
      | .group inner => typeOf fuel frame (place.child 0) inner
      | .tuple items => return .tuple (← typesOf fuel frame place 0 items)
      | .unary operator token operand =>
          let found ← typeOf fuel frame (place.child 0) operand
          match unaryType? operator found with
          | some result => return result
          | none => lift (fail (.operandMismatch found.describe) token)
      | .binary operator token left right =>
          let leftType ← typeOf fuel frame (place.child 0) left
          let rightType ← typeOf fuel frame (place.child 1) right
          match binaryType? operator leftType rightType with
          | some result => return result
          | none => lift (fail (.operandsMismatch leftType.describe rightType.describe) token)
      | .logical _ token left right =>
          let leftType ← typeOf fuel frame (place.child 0) left
          let rightType ← typeOf fuel frame (place.child 1) right
          if Ty.bool.compatible leftType && Ty.bool.compatible rightType then
            return .bool
          else
            lift (fail (.operandsMismatch leftType.describe rightType.describe) token)
      | .call callee paren arguments =>
          let calleeType ← typeOf fuel frame (place.child 0) callee
          let argumentTypes ← typesOf fuel frame place 1 arguments
          callType fuel calleeType argumentTypes paren
termination_by structural fuel => fuel

def callType : Nat → Ty → List Ty → Token → Steps Ty
  | 0, _, _, _ => lift (throw .exhausted)
  | fuel + 1, callee, arguments, paren => do
      match callee with
      | .native name parameters result =>
          match nativeCallType name parameters result arguments with
          | .ok type => return type
          | .error cause => lift (fail cause paren)
      | .function name identifier =>
          let expected ← lift (orFault (arity (← lift get).functions name identifier))
          if expected = arguments.length then
            instantiate fuel name identifier arguments paren
          else
            lift (fail (.wrongArity name (toString expected) (toString arguments.length)) paren)
      | .unknown => return .unknown
      | .bareNative => lift (throw (.faulted .missingSignature))
      | other => lift (fail (.notCallable other.describe) paren)
termination_by structural fuel => fuel

def instantiate : Nat → String → Nat → List Ty → Token → Steps Ty
  | 0, _, _, _, _ => lift (throw .exhausted)
  | fuel + 1, name, identifier, arguments, anchor => do
      let state ← lift get
      let function ← lift (orFault (declaration state.functions name identifier))
      let key : InstanceKey := (arguments, state.generation)
      match function.instances.get? key with
      | some result => return result
      | none =>
          match state.activations.find? fun activation =>
              activation.function = identifier && activation.arguments = arguments with
          | some activation =>
              match activation.returns with
              | (type, _) :: _ => return type
              | [] =>
                  if Ty.anyUnknown arguments then
                    return .unknown
                  else
                    lift (fail (.unresolvedRecursion name) anchor)
          | none =>
              let nesting := state.activations.countP fun activation =>
                activation.function = identifier
              if nestingLimit ≤ nesting then
                lift (fail (.unresolvedRecursion name) anchor)
              else
                let frame ← lift (nest function.closure)
                lift (define frame ((function.parameters.map (·.lexeme)).zip arguments))
                let results ← checkBody fuel identifier arguments function frame
                let result := chooseResult (results.map (·.1))
                lift (modify fun state =>
                  ((returnMismatches name result results).foldl State.report state).setInstance
                    identifier key result)
                return result
termination_by structural fuel => fuel

def checkBody : Nat → Nat → List Ty → DeclaredFunction → FrameId → Steps (List (Ty × Token))
  | 0, _, _, _, _ => lift (throw .exhausted)
  | fuel + 1, identifier, arguments, function, frame => do
      let activation : Activation :=
        { function := identifier, arguments := arguments, returns := [] }
      lift (modify fun state => { state with activations := activation :: state.activations })
      checkAll fuel frame function.place 0 function.body.statements
      let fallThrough ← show Steps (Option Ty) from
        match function.body.tail with
        | none => pure (some Ty.unit)
        | some tail =>
            through reporting
              (typeOf fuel frame (function.place.child function.body.statements.length) tail)
      let state ← lift get
      let returns := (state.activations.head?.map (·.returns)).getD []
      lift (set { state with activations := state.activations.tail })
      match fallThrough with
      | some type =>
          if blockReturns function.body then
            return returns
          else
            return returns ++ [(type, function.name)]
      | none => return returns
termination_by structural fuel => fuel

def checkStmt : Nat → FrameId → Place → Stmt → Steps Ty
  | 0, frame, place, stmt => exhausted frame (.statement place stmt)
  | fuel + 1, frame, place, stmt =>
      enter (fuel + 1) frame (.statement place stmt) do
        match stmt with
        | .expression value => typeOf fuel frame (place.child 0) value
        | .letValue name declared initializer =>
            checkLet fuel frame place name (declared.map (·.type)) initializer
            return .unit
        | .block body => checkBlock fuel frame place body
        | .ifThen keyword condition consequent =>
            checkCondition fuel frame (place.child 0) keyword condition
            let _ ← checkBlock fuel frame (place.child 1) consequent
            return .unit
        | .ifElse keyword condition consequent alternative =>
            checkCondition fuel frame (place.child 0) keyword condition
            let _ ← checkBlock fuel frame (place.child 1) consequent
            let _ ← checkStmt fuel frame (place.child 2) alternative
            return .unit
        | .whileLoop keyword condition body =>
            checkCondition fuel frame (place.child 0) keyword condition
            let _ ← checkBlock fuel frame (place.child 1) body
            return .unit
        | .forLoop name bounds body =>
            checkBound fuel frame (place.child 0) bounds.token bounds.start
            match bounds.step with
            | none => pure ()
            | some step => checkBound fuel frame (place.child 1) bounds.token step
            checkBound fuel frame (place.child 2) bounds.token bounds.stop
            let inner ← lift (nest frame)
            lift (define inner [(name.lexeme, .number)])
            let _ ← checkBlock fuel inner (place.child 3) body
            return .unit
        | .function name parameters body =>
            lift (modify fun state => state.declare frame (place.child 0) name parameters body)
            return .unit
        | .giveBack keyword value =>
            if (← lift get).activations.isEmpty then
              lift (fail .returnOutsideFunction keyword)
            else
              let type ←
                match value with
                | none => pure Ty.unit
                | some value => typeOf fuel frame (place.child 0) value
              lift (modify fun state => state.addReturn type keyword)
              return .unit
termination_by structural fuel => fuel

def checkLet : Nat → FrameId → Place → Token → Option Ty → Expr → Steps Unit
  | 0, _, _, _, _, _ => lift (throw .exhausted)
  | fuel + 1, frame, place, name, declared, initializer => do
      match declared with
      | none =>
          let found ← typeOf fuel frame (place.child 0) initializer
          lift (bind frame name.lexeme found)
      | some type =>
          let found ← through (onFailure · fun state => state.bind frame name.lexeme type)
            (typeOf fuel frame (place.child 0) initializer)
          lift (bind frame name.lexeme type)
          if !type.compatible found then
            lift (fail (.initializerMismatch type.describe found.describe) name)
termination_by structural fuel => fuel

def checkAll : Nat → FrameId → Place → Nat → List Stmt → Steps Unit
  | 0, frame, place, step, stmts => exhausted frame (.statements place step stmts)
  | fuel + 1, frame, place, step, stmts =>
      enter (fuel + 1) frame (.statements place step stmts) do
        match stmts with
        | [] => return ()
        | stmt :: stmts =>
            let _ ← through reporting (checkStmt fuel frame (place.child step) stmt)
            checkAll fuel frame place (step + 1) stmts
termination_by structural fuel => fuel

def checkBlock : Nat → FrameId → Place → Block → Steps Ty
  | 0, frame, place, body => exhausted frame (.block place body)
  | fuel + 1, frame, place, .mk brace statements tail =>
      enter (fuel + 1) frame (.block place (.mk brace statements tail)) do
        let inner ← lift (nest frame)
        checkAll fuel inner place 0 statements
        match tail with
        | none => return .unit
        | some tail =>
            match ← through reporting
                (typeOf fuel inner (place.child statements.length) tail) with
            | some type => return type
            | none => lift (throw .reported)
termination_by structural fuel => fuel

def checkCondition : Nat → FrameId → Place → Token → Expr → Steps Unit
  | 0, _, _, _, _ => lift (throw .exhausted)
  | fuel + 1, frame, place, keyword, condition => do
      match ← through reporting (typeOf fuel frame place condition) with
      | none => return ()
      | some found =>
          if !Ty.bool.compatible found then
            lift (report (.conditionNotBool found.describe) keyword)
termination_by structural fuel => fuel

def checkBound : Nat → FrameId → Place → Token → Expr → Steps Unit
  | 0, _, _, _, _ => lift (throw .exhausted)
  | fuel + 1, frame, place, token, bound => do
      let found ← typeOf fuel frame place bound
      if !Ty.number.compatible found then
        lift (fail (.boundNotNumber found.describe) token)
termination_by structural fuel => fuel

end

def checkStatements : Nat → FrameId → Place → Nat → Ty → List Stmt → Steps Ty
  | _, _, _, _, last, [] => return last
  | fuel, frame, place, step, _, stmt :: stmts => do
      let type ← through reporting (checkStmt fuel frame (place.child step) stmt)
      checkStatements fuel frame place (step + 1) (type.getD .unit) stmts

def checkUncalled : Nat → Nat → Steps Unit
  | 0, _ => lift (throw .exhausted)
  | fuel + 1, identifier => do
      match (← lift get).functions[identifier]? with
      | none => return ()
      | some function =>
          if function.instances.isEmpty then
            let arguments := List.replicate function.parameters.length Ty.unknown
            let _ ← through reporting
              (instantiate fuel function.name.lexeme identifier arguments function.name)
          checkUncalled fuel (identifier + 1)

def checkProgram (fuel : Nat) (natives : Bindings Signature) (program : Program) : Steps Ty := do
  let state ← lift get
  let (root, scopes) := state.scopes.addRoot
  let bindings := natives.map fun (name, signature) => (name, signature.type)
  lift (set { state with
    scopes := scopes.defineAll root bindings
    programs := state.programs + 1 })
  let type ← checkStatements fuel root (Place.root state.programs) 0 .unit program
  checkUncalled fuel 0
  return type

def checkEach (fuel : Nat) (natives : Bindings Signature) : List Program → Steps Unit
  | [] => return ()
  | program :: programs => do
      let _ ← checkProgram fuel natives program
      checkEach fuel natives programs

/-- Without the notes, the steps are those of the checker. -/
structure Forgets (fuel : Nat) : Prop where
  typeOf : ∀ frame place expr,
    (typeOf fuel frame place expr).run = Check.typeOf fuel frame place expr
  typesOf : ∀ frame place step exprs,
    (typesOf fuel frame place step exprs).run = Check.typesOf fuel frame place step exprs
  infer : ∀ frame place expr,
    (infer fuel frame place expr).run = Check.infer fuel frame place expr
  callType : ∀ callee arguments paren,
    (callType fuel callee arguments paren).run = Check.callType fuel callee arguments paren
  instantiate : ∀ name identifier arguments anchor,
    (instantiate fuel name identifier arguments anchor).run =
      Check.instantiate fuel name identifier arguments anchor
  checkBody : ∀ identifier arguments function frame,
    (checkBody fuel identifier arguments function frame).run =
      Check.checkBody fuel identifier arguments function frame
  checkStmt : ∀ frame place stmt,
    (checkStmt fuel frame place stmt).run = Check.checkStmt fuel frame place stmt
  checkLet : ∀ frame place name declared initializer,
    (checkLet fuel frame place name declared initializer).run =
      Check.checkLet fuel frame place name declared initializer
  checkAll : ∀ frame place step stmts,
    (checkAll fuel frame place step stmts).run = Check.checkAll fuel frame place step stmts
  checkBlock : ∀ frame place body,
    (checkBlock fuel frame place body).run = Check.checkBlock fuel frame place body
  checkCondition : ∀ frame place keyword condition,
    (checkCondition fuel frame place keyword condition).run =
      Check.checkCondition fuel frame place keyword condition
  checkBound : ∀ frame place token bound,
    (checkBound fuel frame place token bound).run = Check.checkBound fuel frame place token bound

namespace Forgets

variable {fuel : Nat}

theorem zero : Forgets 0 := by
  constructor <;> intros <;> rfl

theorem typeOf_succ (forgets : Forgets fuel) (frame : FrameId) (place : Place) (expr : Expr) :
    (Trace.typeOf (fuel + 1) frame place expr).run = Check.typeOf (fuel + 1) frame place expr := by
  simp [Trace.typeOf, Check.typeOf, forgets.infer]

theorem typesOf_succ (forgets : Forgets fuel) (frame : FrameId) (place : Place) (step : Nat)
    (exprs : List Expr) :
    (Trace.typesOf (fuel + 1) frame place step exprs).run =
      Check.typesOf (fuel + 1) frame place step exprs := by
  cases exprs <;> simp [Trace.typesOf, Check.typesOf, forgets.typeOf, forgets.typesOf]

theorem infer_succ (forgets : Forgets fuel) (frame : FrameId) (place : Place) (expr : Expr) :
    (Trace.infer (fuel + 1) frame place expr).run = Check.infer (fuel + 1) frame place expr := by
  cases expr with
  | literal => rfl
  | reference name =>
      simp only [Trace.infer, Check.infer, Traced.run_bind, Traced.run_lift]
      refine bind_congr fun found => ?_
      cases found <;> rfl
  | assign name value =>
      simp only [Trace.infer, Check.infer, Traced.run_bind, Traced.run_lift, forgets.typeOf]
      refine bind_congr fun found => bind_congr fun declared => ?_
      cases declared with
      | none => rfl
      | some declared => dsimp only; split <;> rfl
  | group inner => exact forgets.typeOf _ _ _
  | tuple items => simp [Trace.infer, Check.infer, forgets.typesOf]
  | unary operator token operand =>
      simp only [Trace.infer, Check.infer, Traced.run_bind, forgets.typeOf]
      refine bind_congr fun found => ?_
      cases unaryType? operator found <;> rfl
  | binary operator token left right =>
      simp only [Trace.infer, Check.infer, Traced.run_bind, forgets.typeOf]
      refine bind_congr fun leftType => bind_congr fun rightType => ?_
      cases binaryType? operator leftType rightType <;> rfl
  | logical operator token left right =>
      simp only [Trace.infer, Check.infer, Traced.run_bind, forgets.typeOf]
      refine bind_congr fun leftType => bind_congr fun rightType => ?_
      split <;> rfl
  | call callee paren arguments =>
      simp [Trace.infer, Check.infer, forgets.typeOf, forgets.typesOf, forgets.callType]

theorem callType_succ (forgets : Forgets fuel) (callee : Ty) (arguments : List Ty)
    (paren : Token) :
    (Trace.callType (fuel + 1) callee arguments paren).run =
      Check.callType (fuel + 1) callee arguments paren := by
  cases callee with
  | native name parameters result =>
      simp only [Trace.callType, Check.callType]
      cases nativeCallType name parameters result arguments <;> rfl
  | function name identifier =>
      simp only [Trace.callType, Check.callType, Traced.run_bind, Traced.run_lift]
      refine bind_congr fun state => bind_congr fun expected => ?_
      split
      · exact forgets.instantiate _ _ _ _
      · rfl
  | _ => rfl

theorem instantiate_succ (forgets : Forgets fuel) (name : String) (identifier : Nat)
    (arguments : List Ty) (anchor : Token) :
    (Trace.instantiate (fuel + 1) name identifier arguments anchor).run =
      Check.instantiate (fuel + 1) name identifier arguments anchor := by
  simp only [Trace.instantiate, Check.instantiate, Traced.run_bind, Traced.run_lift]
  refine bind_congr fun state => bind_congr fun function => ?_
  cases function.instances.get? (arguments, state.generation) with
  | some result => rfl
  | none =>
      cases state.activations.find? fun activation =>
          activation.function = identifier && activation.arguments = arguments with
      | some activation =>
          obtain ⟨_, _, returns⟩ := activation
          cases returns with
          | cons => rfl
          | nil => dsimp only; split <;> rfl
      | none =>
          dsimp only
          split
          · rfl
          · simp [forgets.checkBody]

theorem checkBody_succ (forgets : Forgets fuel) (identifier : Nat) (arguments : List Ty)
    (function : DeclaredFunction) (frame : FrameId) :
    (Trace.checkBody (fuel + 1) identifier arguments function frame).run =
      Check.checkBody (fuel + 1) identifier arguments function frame := by
  obtain ⟨name, parameters, ⟨brace, statements, tail⟩, place, closure, instances⟩ := function
  cases tail with
  | none =>
      simp only [Trace.checkBody, Check.checkBody, Block.tail, Block.statements, Traced.run_bind,
        Traced.run_lift, Traced.run_pure, pure_bind, forgets.checkAll]
      refine bind_congr fun _ => bind_congr fun _ => bind_congr fun state => bind_congr fun _ => ?_
      split <;> rfl
  | some tail =>
      simp only [Trace.checkBody, Check.checkBody, Block.tail, Block.statements, Traced.run_bind,
        Traced.run_lift, Traced.run_through, forgets.checkAll, forgets.typeOf]
      refine bind_congr fun _ => bind_congr fun _ => bind_congr fun result => ?_
      refine bind_congr fun state => bind_congr fun _ => ?_
      cases result with
      | none => rfl
      | some type => dsimp only; split <;> rfl

theorem checkStmt_succ (forgets : Forgets fuel) (frame : FrameId) (place : Place) (stmt : Stmt) :
    (Trace.checkStmt (fuel + 1) frame place stmt).run =
      Check.checkStmt (fuel + 1) frame place stmt := by
  cases stmt with
  | expression value => exact forgets.typeOf _ _ _
  | letValue name declared initializer => simp [Trace.checkStmt, Check.checkStmt, forgets.checkLet]
  | block body => exact forgets.checkBlock _ _ _
  | ifThen | ifElse | whileLoop =>
      simp [Trace.checkStmt, Check.checkStmt, forgets.checkCondition, forgets.checkBlock,
        forgets.checkStmt]
  | forLoop name bounds body =>
      obtain ⟨token, start, stop, step⟩ := bounds
      cases step <;>
        simp [Trace.checkStmt, Check.checkStmt, forgets.checkBound, forgets.checkBlock]
  | function => rfl
  | giveBack keyword value =>
      simp only [Trace.checkStmt, Check.checkStmt, run_enter, Traced.run_bind, Traced.run_lift]
      refine bind_congr fun state => ?_
      split
      · rfl
      · cases value <;> simp [forgets.typeOf]

theorem checkLet_succ (forgets : Forgets fuel) (frame : FrameId) (place : Place) (name : Token)
    (declared : Option Ty) (initializer : Expr) :
    (Trace.checkLet (fuel + 1) frame place name declared initializer).run =
      Check.checkLet (fuel + 1) frame place name declared initializer := by
  cases declared with
  | none => simp [Trace.checkLet, Check.checkLet, forgets.typeOf]
  | some type =>
      simp only [Trace.checkLet, Check.checkLet, Traced.run_bind, Traced.run_through,
        Traced.run_lift, forgets.typeOf]
      refine bind_congr fun found => bind_congr fun _ => ?_
      split <;> rfl

theorem checkBlock_succ (forgets : Forgets fuel) (frame : FrameId) (place : Place)
    (body : Block) :
    (Trace.checkBlock (fuel + 1) frame place body).run =
      Check.checkBlock (fuel + 1) frame place body := by
  obtain ⟨brace, statements, tail⟩ := body
  cases tail with
  | none => simp [Trace.checkBlock, Check.checkBlock, forgets.checkAll]
  | some tail =>
      simp only [Trace.checkBlock, Check.checkBlock, run_enter, Traced.run_bind,
        Traced.run_through, Traced.run_lift, forgets.checkAll, forgets.typeOf]
      refine bind_congr fun inner => bind_congr fun _ => bind_congr fun found => ?_
      cases found <;> rfl

theorem checkAll_succ (forgets : Forgets fuel) (frame : FrameId) (place : Place) (step : Nat)
    (stmts : List Stmt) :
    (Trace.checkAll (fuel + 1) frame place step stmts).run =
      Check.checkAll (fuel + 1) frame place step stmts := by
  cases stmts <;> simp [Trace.checkAll, Check.checkAll, forgets.checkStmt, forgets.checkAll]

theorem checkCondition_succ (forgets : Forgets fuel) (frame : FrameId) (place : Place)
    (keyword : Token) (condition : Expr) :
    (Trace.checkCondition (fuel + 1) frame place keyword condition).run =
      Check.checkCondition (fuel + 1) frame place keyword condition := by
  simp only [Trace.checkCondition, Check.checkCondition, Traced.run_bind, Traced.run_through,
    forgets.typeOf]
  refine bind_congr fun found => ?_
  cases found with
  | none => rfl
  | some found => dsimp only; split <;> rfl

theorem checkBound_succ (forgets : Forgets fuel) (frame : FrameId) (place : Place)
    (token : Token) (bound : Expr) :
    (Trace.checkBound (fuel + 1) frame place token bound).run =
      Check.checkBound (fuel + 1) frame place token bound := by
  simp only [Trace.checkBound, Check.checkBound, Traced.run_bind, forgets.typeOf]
  refine bind_congr fun found => ?_
  split <;> rfl

end Forgets

theorem forgets (fuel : Nat) : Forgets fuel := by
  induction fuel with
  | zero => exact .zero
  | succ fuel shorter =>
      exact
        { typeOf := shorter.typeOf_succ
          typesOf := shorter.typesOf_succ
          infer := shorter.infer_succ
          callType := shorter.callType_succ
          instantiate := shorter.instantiate_succ
          checkBody := shorter.checkBody_succ
          checkStmt := shorter.checkStmt_succ
          checkLet := shorter.checkLet_succ
          checkAll := shorter.checkAll_succ
          checkBlock := shorter.checkBlock_succ
          checkCondition := shorter.checkCondition_succ
          checkBound := shorter.checkBound_succ }

theorem run_checkStatements (fuel : Nat) (frame : FrameId) (place : Place) (step : Nat)
    (last : Ty) (stmts : List Stmt) :
    (checkStatements fuel frame place step last stmts).run =
      Check.checkStatements fuel frame place step last stmts := by
  induction stmts generalizing step last with
  | nil => rfl
  | cons stmt stmts inductionHypothesis =>
      simp [checkStatements, Check.checkStatements, (forgets fuel).checkStmt, inductionHypothesis]

theorem run_checkUncalled (fuel identifier : Nat) :
    (checkUncalled fuel identifier).run = Check.checkUncalled fuel identifier := by
  induction fuel generalizing identifier with
  | zero => rfl
  | succ fuel inductionHypothesis =>
      simp only [checkUncalled, Check.checkUncalled, Traced.run_bind, Traced.run_lift]
      refine bind_congr fun state => ?_
      cases state.functions[identifier]? with
      | none => rfl
      | some function =>
          dsimp only
          split <;> simp [(forgets fuel).instantiate, inductionHypothesis]

/-- The trace belongs to the check of the program. -/
theorem run_checkProgram (fuel : Nat) (natives : Bindings Signature) (program : Program) :
    (checkProgram fuel natives program).run = Check.checkProgram fuel natives program := by
  simp [checkProgram, Check.checkProgram, run_checkStatements, run_checkUncalled]

end Check.Trace

/-- The parts of a program that its check turns to, in order, with a bound on its nesting. -/
def Typing.visits (natives : Bindings Signature) (bound : Nat) (program : Program) :
    List Visit :=
  (Check.Trace.checkProgram bound natives program).visits {}

end CheckedScript
