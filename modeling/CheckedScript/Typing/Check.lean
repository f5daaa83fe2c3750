import CheckedScript.Typing.State

/-!
# Checking programs

Expressions are checked from the inside out, and the type of each is noted once
it is known.  A failure ends the statement it occurs in; the statements after it
are checked all the same.  A call of a declared function checks its body with
the parameters bound to the types of the arguments, in a frame inside the one
the function closes over.  Functions that no call has reached are checked at the
end, with parameters of unknown type.

The first argument of the mutually recursive functions bounds their nesting.
-/

namespace CheckedScript

open Typing

namespace Check

mutual

/-- The type of an expression, which is noted. -/
def typeOf : Nat → FrameId → Place → Expr → Check Ty
  | 0, _, _, _ => throw .exhausted
  | fuel + 1, frame, place, expr => do
      let type ← infer fuel frame place expr
      modify fun state => state.note place expr type
      return type
termination_by structural fuel => fuel

/-- The types of several expressions; the first one stands at the given step. -/
def typesOf : Nat → FrameId → Place → Nat → List Expr → Check (List Ty)
  | 0, _, _, _, _ => throw .exhausted
  | _ + 1, _, _, _, [] => return []
  | fuel + 1, frame, place, step, expr :: exprs => do
      let type ← typeOf fuel frame (place.child step) expr
      let types ← typesOf fuel frame place (step + 1) exprs
      return type :: types
termination_by structural fuel => fuel

/-- The type of an expression from the types of its parts. -/
def infer : Nat → FrameId → Place → Expr → Check Ty
  | 0, _, _, _ => throw .exhausted
  | fuel + 1, frame, place, expr => do
      match expr with
      | .literal value _ => return constantType value
      | .reference name =>
          match ← lookup? frame name.lexeme with
          | some type => return type
          | none => fail .undefinedName name
      | .assign name value =>
          let found ← typeOf fuel frame (place.child 0) value
          match ← lookup? frame name.lexeme with
          | none => fail .undefinedName name
          | some declared =>
              if declared.compatible found then
                return declared
              else
                fail (.assignmentMismatch declared.describe found.describe) name
      | .group inner => typeOf fuel frame (place.child 0) inner
      | .tuple items => return .tuple (← typesOf fuel frame place 0 items)
      | .unary operator token operand =>
          let found ← typeOf fuel frame (place.child 0) operand
          match unaryType? operator found with
          | some result => return result
          | none => fail (.operandMismatch found.describe) token
      | .binary operator token left right =>
          let leftType ← typeOf fuel frame (place.child 0) left
          let rightType ← typeOf fuel frame (place.child 1) right
          match binaryType? operator leftType rightType with
          | some result => return result
          | none => fail (.operandsMismatch leftType.describe rightType.describe) token
      | .logical _ token left right =>
          let leftType ← typeOf fuel frame (place.child 0) left
          let rightType ← typeOf fuel frame (place.child 1) right
          if Ty.bool.compatible leftType && Ty.bool.compatible rightType then
            return .bool
          else
            fail (.operandsMismatch leftType.describe rightType.describe) token
      | .call callee paren arguments =>
          let calleeType ← typeOf fuel frame (place.child 0) callee
          let argumentTypes ← typesOf fuel frame place 1 arguments
          callType fuel calleeType argumentTypes paren
termination_by structural fuel => fuel

/-- The type of a call. -/
def callType : Nat → Ty → List Ty → Token → Check Ty
  | 0, _, _, _ => throw .exhausted
  | fuel + 1, callee, arguments, paren => do
      match callee with
      | .native name parameters result =>
          match nativeCallType name parameters result arguments with
          | .ok type => return type
          | .error cause => fail cause paren
      | .function name identifier =>
          let expected ← orFault (arity (← get).functions name identifier)
          if expected = arguments.length then
            instantiate fuel name identifier arguments paren
          else
            fail (.wrongArity name (toString expected) (toString arguments.length)) paren
      | .unknown => return .unknown
      | .bareNative => throw (.faulted .missingSignature)
      | other => fail (.notCallable other.describe) paren
termination_by structural fuel => fuel

/-- The type a function gives back for given argument types.  A call met while
the same call is being checked has the type of the first return met so far. -/
def instantiate : Nat → String → Nat → List Ty → Token → Check Ty
  | 0, _, _, _, _ => throw .exhausted
  | fuel + 1, name, identifier, arguments, anchor => do
      let state ← get
      let function ← orFault (declaration state.functions name identifier)
      let key : InstanceKey := (arguments, state.generation)
      match function.instances.get? key with
      | some result => return result
      | none =>
          match state.activations.find? fun activation =>
              activation.function = identifier && activation.arguments = arguments with
          | some activation =>
              match activation.returns with
              | (type, _) :: _ => return type
              | [] =>
                  if Ty.anyUnknown arguments then
                    return .unknown
                  else
                    fail (.unresolvedRecursion name) anchor
          | none =>
              let nesting := state.activations.countP fun activation =>
                activation.function = identifier
              if nestingLimit ≤ nesting then
                fail (.unresolvedRecursion name) anchor
              else
                let frame ← nest function.closure
                define frame ((function.parameters.map (·.lexeme)).zip arguments)
                let results ← checkBody fuel identifier arguments function frame
                let result := chooseResult (results.map (·.1))
                modify fun state =>
                  ((returnMismatches name result results).foldl State.report state).setInstance
                    identifier key result
                return result
termination_by structural fuel => fuel

/-- Check the body of a function and collect its returns, the value at its end
included if the end can be reached and has a type. -/
def checkBody : Nat → Nat → List Ty → DeclaredFunction → FrameId → Check (List (Ty × Token))
  | 0, _, _, _, _ => throw .exhausted
  | fuel + 1, identifier, arguments, function, frame => do
      let activation : Activation :=
        { function := identifier, arguments := arguments, returns := [] }
      modify fun state => { state with activations := activation :: state.activations }
      checkAll fuel frame function.place 0 function.body.statements
      let fallThrough ←
        match function.body.tail with
        | none => pure (some Ty.unit)
        | some tail =>
            reporting
              (typeOf fuel frame (function.place.child function.body.statements.length) tail)
      let state ← get
      let returns := (state.activations.head?.map (·.returns)).getD []
      set { state with activations := state.activations.tail }
      match fallThrough with
      | some type =>
          if blockReturns function.body then
            return returns
          else
            return returns ++ [(type, function.name)]
      | none => return returns
termination_by structural fuel => fuel

/-- Check a statement and give the type of its value. -/
def checkStmt : Nat → FrameId → Place → Stmt → Check Ty
  | 0, _, _, _ => throw .exhausted
  | fuel + 1, frame, place, stmt => do
      match stmt with
      | .expression value => typeOf fuel frame (place.child 0) value
      | .letValue name declared initializer =>
          checkLet fuel frame place name (declared.map (·.type)) initializer
          return .unit
      | .block body => checkBlock fuel frame place body
      | .ifThen keyword condition consequent =>
          checkCondition fuel frame (place.child 0) keyword condition
          let _ ← checkBlock fuel frame (place.child 1) consequent
          return .unit
      | .ifElse keyword condition consequent alternative =>
          checkCondition fuel frame (place.child 0) keyword condition
          let _ ← checkBlock fuel frame (place.child 1) consequent
          let _ ← checkStmt fuel frame (place.child 2) alternative
          return .unit
      | .whileLoop keyword condition body =>
          checkCondition fuel frame (place.child 0) keyword condition
          let _ ← checkBlock fuel frame (place.child 1) body
          return .unit
      | .forLoop name bounds body =>
          checkBound fuel frame (place.child 0) bounds.token bounds.start
          match bounds.step with
          | none => pure ()
          | some step => checkBound fuel frame (place.child 1) bounds.token step
          checkBound fuel frame (place.child 2) bounds.token bounds.stop
          let inner ← nest frame
          define inner [(name.lexeme, .number)]
          let _ ← checkBlock fuel inner (place.child 3) body
          return .unit
      | .function name parameters body =>
          modify fun state => state.declare frame (place.child 0) name parameters body
          return .unit
      | .giveBack keyword value =>
          if (← get).activations.isEmpty then
            fail .returnOutsideFunction keyword
          else
            let type ←
              match value with
              | none => pure Ty.unit
              | some value => typeOf fuel frame (place.child 0) value
            modify fun state => state.addReturn type keyword
            return .unit
termination_by structural fuel => fuel

/-- Check a `let` statement.  With a declared type the name is bound even if the
initializer fails. -/
def checkLet : Nat → FrameId → Place → Token → Option Ty → Expr → Check Unit
  | 0, _, _, _, _, _ => throw .exhausted
  | fuel + 1, frame, place, name, declared, initializer => do
      match declared with
      | none =>
          let found ← typeOf fuel frame (place.child 0) initializer
          bind frame name.lexeme found
      | some type =>
          let found ← onFailure (typeOf fuel frame (place.child 0) initializer)
            fun state => state.bind frame name.lexeme type
          bind frame name.lexeme type
          if !type.compatible found then
            fail (.initializerMismatch type.describe found.describe) name
termination_by structural fuel => fuel

/-- Check statements one after the other, reporting the failures. -/
def checkAll : Nat → FrameId → Place → Nat → List Stmt → Check Unit
  | 0, _, _, _, _ => throw .exhausted
  | _ + 1, _, _, _, [] => return ()
  | fuel + 1, frame, place, step, stmt :: stmts => do
      let _ ← reporting (checkStmt fuel frame (place.child step) stmt)
      checkAll fuel frame place (step + 1) stmts
termination_by structural fuel => fuel

/-- Check a block in a frame of its own and give the type of its tail. -/
def checkBlock : Nat → FrameId → Place → Block → Check Ty
  | 0, _, _, _ => throw .exhausted
  | fuel + 1, frame, place, .mk _ statements tail => do
      let inner ← nest frame
      checkAll fuel inner place 0 statements
      match tail with
      | none => return .unit
      | some tail =>
          match ← reporting (typeOf fuel inner (place.child statements.length) tail) with
          | some type => return type
          | none => throw .reported
termination_by structural fuel => fuel

/-- Check a condition; its failures are reported and not passed on. -/
def checkCondition : Nat → FrameId → Place → Token → Expr → Check Unit
  | 0, _, _, _, _ => throw .exhausted
  | fuel + 1, frame, place, keyword, condition => do
      match ← reporting (typeOf fuel frame place condition) with
      | none => return ()
      | some found =>
          if !Ty.bool.compatible found then
            report (.conditionNotBool found.describe) keyword
termination_by structural fuel => fuel

/-- Check a bound of a loop. -/
def checkBound : Nat → FrameId → Place → Token → Expr → Check Unit
  | 0, _, _, _, _ => throw .exhausted
  | fuel + 1, frame, place, token, bound => do
      let found ← typeOf fuel frame place bound
      if !Ty.number.compatible found then
        fail (.boundNotNumber found.describe) token
termination_by structural fuel => fuel

end

/-- Check statements one after the other; the last one gives the type of the
program, which is unit if that statement fails. -/
def checkStatements : Nat → FrameId → Place → Nat → Ty → List Stmt → Check Ty
  | _, _, _, _, last, [] => return last
  | fuel, frame, place, step, _, stmt :: stmts => do
      let type ← reporting (checkStmt fuel frame (place.child step) stmt)
      checkStatements fuel frame place (step + 1) (type.getD .unit) stmts

/-- Check the functions that no call has reached, from a given one on.  More may
be declared on the way. -/
def checkUncalled : Nat → Nat → Check Unit
  | 0, _ => throw .exhausted
  | fuel + 1, identifier => do
      match (← get).functions[identifier]? with
      | none => return ()
      | some function =>
          if function.instances.isEmpty then
            let arguments := List.replicate function.parameters.length Ty.unknown
            let _ ← reporting
              (instantiate fuel function.name.lexeme identifier arguments function.name)
          checkUncalled fuel (identifier + 1)

/-- Check a program in a new root frame that binds the native functions. -/
def checkProgram (fuel : Nat) (natives : Bindings Signature) (program : Program) :
    Check Ty := do
  let state ← get
  let (root, scopes) := state.scopes.addRoot
  let bindings := natives.map fun (name, signature) => (name, signature.type)
  set { state with
    scopes := scopes.defineAll root bindings
    programs := state.programs + 1 }
  let type ← checkStatements fuel root (Place.root state.programs) 0 .unit program
  checkUncalled fuel 0
  return type

end Check

/-- How checking a program ends. -/
inductive CheckResult where
  /-- The type of the program's last statement. -/
  | accepted (type : Ty)
  | rejected (rejection : Rejection)
  | faulted (fault : Fault)
  /-- The bound on the number of steps was too small. -/
  | exhausted

/-- Check one program after others.  It is rejected if any of them had a fault. -/
def Typing.State.check (state : Typing.State) (fuel : Nat) (natives : Bindings Signature)
    (program : Program) : CheckResult × Typing.State :=
  match Check.checkProgram fuel natives program state with
  | .ok type after =>
      if after.diagnostics.isEmpty then
        (.accepted type, after)
      else
        (.rejected { phase := .checking, diagnostics := after.diagnostics }, after)
  | .error (.faulted fault) after => (.faulted fault, after)
  | .error _ after => (.exhausted, after)

end CheckedScript
