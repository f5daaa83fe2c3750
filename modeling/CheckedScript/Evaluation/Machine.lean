import CheckedScript.Diagnostic
import CheckedScript.Native

/-!
# The state of a run

A run keeps the scopes of values and the console.  It can stop before its end in
five ways, which are kept apart: a value is given back to the nearest call, the
program commits a fault of its own, a state arises that checking rules out, a
native function aborts the run, or the bound on the number of steps is used up.
Operators on values are functions of the values alone.
-/

namespace CheckedScript

namespace Evaluation

/-- Everything a run keeps. -/
structure Machine where
  scopes : Scopes Value
  console : Console := {}

/-- Why a run stops before its end. -/
inductive Stop where
  | returned (value : Value)
  | failed (diagnostic : Diagnostic)
  | faulted (fault : Fault)
  | aborted (reason : String)
  | exhausted

end Evaluation

/-- Computations of a run. -/
abbrev Eval := EStateM Evaluation.Stop Evaluation.Machine

namespace Evaluation

/-- The value of a constant. -/
def constantValue : Constant → Value
  | .number value => .number value
  | .text value => .text value
  | .bool value => .bool value

/-- A truth value, or a fault that names the token which asked for one. -/
def truth (token : Token) : Value → Except Stop Bool
  | .bool value => .ok value
  | other => .error (.faulted (.operand token.lexeme other.quoted))

/-- Two numbers, or a fault that names the token which asked for them. -/
def numbers (token : Token) : Value → Value → Except Stop (Float × Float)
  | .number left, .number right => .ok (left, right)
  | left, right => .error (.faulted (.operands token.lexeme left.quoted right.quoted))

/-- The value of a unary operation. -/
def applyUnary (operator : UnaryOperator) (token : Token) (operand : Value) :
    Except Stop Value :=
  match operator with
  | .invert => (truth token operand).map fun value => .bool !value
  | .negate =>
      match operand with
      | .number value => .ok (.number (-value))
      | other => .error (.faulted (.operand "-" other.quoted))

/-- The value of a binary operation on numbers. -/
def applyNumeric (operator : BinaryOperator) (token : Token) (left right : Float) :
    Except Stop Value :=
  match operator with
  | .add => .ok (.number (left + right))
  | .subtract => .ok (.number (left - right))
  | .multiply => .ok (.number (left * right))
  | .divide =>
      if right == 0 then
        .error (.failed { cause := .divisionByZero, token := token })
      else
        .ok (.number (left / right))
  | .greater => .ok (.bool (right < left))
  | .greaterEqual => .ok (.bool (right ≤ left))
  | .less => .ok (.bool (left < right))
  | .lessEqual => .ok (.bool (left ≤ right))
  | .equal => .ok (.bool (left == right))
  | .notEqual => .ok (.bool !(left == right))

/-- The value of a binary operation.  Any two values can be compared for
equality, and texts can be joined; all else needs numbers. -/
def applyBinary (operator : BinaryOperator) (token : Token) (left right : Value) :
    Except Stop Value :=
  match operator, left, right with
  | .equal, _, _ => .ok (.bool (left.equal right))
  | .notEqual, _, _ => .ok (.bool !(left.equal right))
  | .add, .text first, .text second => .ok (.text (first ++ second))
  | _, _, _ => do
      let (first, second) ← numbers token left right
      applyNumeric operator token first second

/-- The range of a loop, which has to be valid. -/
def loopRange (token : Token) (start stop : Value) (step : Option Value) :
    Except Stop (NumberRange Float) := do
  let (first, last) ← numbers token start stop
  let range ←
    match step with
    | none => pure (NumberRange.between first last)
    | some step => do
        let (_, width) ← numbers token start step
        pure { start := first, stop := last, step := width }
  if range.isValid then
    return range
  else
    throw (.failed
      { cause := .invalidRange (Decimal.plainText range.start)
          (Decimal.plainText range.stop) (Decimal.plainText range.step)
        token := token })

end Evaluation

namespace Eval

open Evaluation

variable {α : Type}

/-- Stop, if there is a reason to. -/
def orStop : Except Stop α → Eval α
  | .ok value => pure value
  | .error stop => throw stop

/-- Make a frame inside another one. -/
def nest (frame : FrameId) : Eval FrameId := fun ⟨scopes, console⟩ =>
  let (inner, grown) := scopes.nest frame
  .ok inner ⟨grown, console⟩

/-- Bind names in a frame, one after the other. -/
def define (frame : FrameId) (bindings : Bindings Value) : Eval Unit :=
  fun ⟨scopes, console⟩ => .ok () ⟨scopes.defineAll frame bindings, console⟩

/-- The value of a visible name. -/
def lookup (frame : FrameId) (name : String) : Eval Value := do
  match (← get).scopes.get? frame name with
  | some value => return value
  | none => throw (.faulted (.unbound name))

/-- Write to the nearest binding of a name. -/
def assign (frame : FrameId) (name : String) (value : Value) : Eval Unit :=
  fun ⟨scopes, console⟩ =>
    match scopes.owner? frame name with
    | some owner => .ok () ⟨scopes.define owner name value, console⟩
    | none => .error (.faulted (.unassignable name)) ⟨scopes, console⟩

/-- Run the body of a call: a value given back is the value of the call. -/
def catchReturn (body : Eval Value) : Eval Value := fun machine =>
  match body machine with
  | .error (.returned value) after => .ok value after
  | result => result

/-- Call a native function, whose failure is charged to a token. -/
def callNative (native : Native) (arguments : List Value) (paren : Token) : Eval Value :=
  fun ⟨scopes, console⟩ =>
    let (result, written) := native.run arguments console
    let after : Machine := ⟨scopes, written⟩
    match result with
    | .value value => .ok value after
    | .failed reason =>
        .error
          (.failed { cause := .nativeFailure native.signature.name reason, token := paren }) after
    | .aborted reason => .error (.aborted reason) after

/-- Stop unless a call has the right number of arguments. -/
def requireArity (name : String) (expected found : Nat) : Eval Unit :=
  if expected = found then pure () else throw (.faulted (.arity name expected found))

end Eval

end CheckedScript
