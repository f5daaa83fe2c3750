import CheckedScript.Diagnostic
import CheckedScript.Tree

/-!
# Typing rules without state

The types of constants and operators, the rule for calls of native functions,
and the analysis of which statements always give a value back.
-/

namespace CheckedScript

namespace Typing

/-- The type of a constant. -/
def constantType : Constant → Ty
  | .number _ => .number
  | .text _ => .text
  | .bool _ => .bool

/-- The operand types an operator is defined for, with the type of the result. -/
def operatorTable : BinaryOperator → List (Ty × Ty × Ty)
  | .add => [(.number, .number, .number), (.text, .text, .text)]
  | .subtract | .multiply | .divide => [(.number, .number, .number)]
  | .greater | .greaterEqual | .less | .lessEqual => [(.number, .number, .bool)]
  | .equal | .notEqual => []

/-- The results an operator may have for operands of given types. -/
def possibleResults (operator : BinaryOperator) (left right : Ty) : List Ty :=
  ((operatorTable operator).filter fun (expectedLeft, expectedRight, _) =>
    expectedLeft.compatible left && expectedRight.compatible right).map fun (_, _, result) =>
      result

/-- The type of a binary operation.  Equality asks for compatible operands; if
an unknown operand leaves several results possible, the result is unknown. -/
def binaryType? (operator : BinaryOperator) (left right : Ty) : Option Ty :=
  match operator with
  | .equal | .notEqual => if left.compatible right then some .bool else none
  | _ =>
      match possibleResults operator left right with
      | [] => none
      | [result] => some result
      | _ => some .unknown

/-- The type of a unary operation. -/
def unaryType? (operator : UnaryOperator) (operand : Ty) : Option Ty :=
  match operator with
  | .negate => if Ty.number.compatible operand then some .number else none
  | .invert => if Ty.bool.compatible operand then some .bool else none

/-- The first parameter that does not accept its argument, with the argument. -/
def firstRefused? : List Ty → List Ty → Option (Ty × Ty)
  | expected :: parameters, found :: arguments =>
      if expected.accepts found then firstRefused? parameters arguments
      else some (expected, found)
  | _, _ => none

/-- The type of a call of a native function. -/
def nativeCallType (name : String) (parameters : List Ty) (result : Ty)
    (arguments : List Ty) : Except Cause Ty :=
  if parameters.length ≠ arguments.length then
    .error (.wrongArity name (toString parameters.length) (toString arguments.length))
  else
    match firstRefused? parameters arguments with
    | some (expected, found) =>
        .error (.argumentMismatch name expected.describe found.describe)
    | none => .ok result

/-- The type a function gives back, chosen from the types of all its returns:
the first without unknown parts, or else the first. -/
def chooseResult (returns : List Ty) : Ty :=
  match returns.find? fun type => !type.hasUnknown with
  | some known => known
  | none => returns.headD .unit

/-- The returns whose type does not fit the type a function gives back. -/
def returnMismatches (name : String) (result : Ty) (returns : List (Ty × Token)) :
    List Diagnostic :=
  (returns.filter fun (found, _) => !result.compatible found).map fun (found, token) =>
    { cause := .returnMismatch name result.describe found.describe, token := token }

mutual

/-- Whether a statement never ends without giving a value back. -/
def alwaysReturns : Stmt → Bool
  | .giveBack _ _ => true
  | .block body => blockReturns body
  | .ifElse _ _ consequent alternative => blockReturns consequent && alwaysReturns alternative
  | _ => false

/-- Whether one of the statements of a block always returns. -/
def blockReturns : Block → Bool
  | .mk _ statements _ => anyReturns statements

/-- Whether one of several statements always returns. -/
def anyReturns : List Stmt → Bool
  | [] => false
  | statement :: statements => alwaysReturns statement || anyReturns statements

end

end Typing

end CheckedScript
