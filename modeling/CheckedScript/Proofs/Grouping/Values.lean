import CheckedScript.Evaluation.Machine
import CheckedScript.Proofs.Grouping.Trees
import CheckedScript.Proofs.Renaming.Scopes

/-!
# Values of regrouped programs

A function value holds the body of its function, groups included.  Nothing else in a value
comes from the program, and neither its text nor any operator looks at the body.
-/

namespace CheckedScript

/-- Closures that are the same but for the groups in their bodies. -/
structure Closure.Regrouped (closure other : Closure) : Prop where
  name : closure.name = other.name
  parameters : closure.parameters = other.parameters
  body : closure.body.Regrouped other.body
  frame : closure.frame = other.frame

namespace Value

/-- Values that are the same but for the groups in the bodies of functions. -/
inductive Regrouped : Value → Value → Prop
  | number (value : Float) : Regrouped (.number value) (.number value)
  | text (value : String) : Regrouped (.text value) (.text value)
  | bool (value : Bool) : Regrouped (.bool value) (.bool value)
  | tuple {items others : List Value} :
      List.Forall₂ Regrouped items others → Regrouped (.tuple items) (.tuple others)
  | function {closure other : Closure} :
      closure.Regrouped other → Regrouped (.function closure) (.function other)
  | native (key : String) (signature : Signature) :
      Regrouped (.native key signature) (.native key signature)
  | range (numbers : NumberRange Float) : Regrouped (.range numbers) (.range numbers)

namespace Regrouped

mutual

theorem refl (value : Value) : value.Regrouped value := by
  cases value with
  | number value => exact .number value
  | text value => exact .text value
  | bool value => exact .bool value
  | tuple items => exact .tuple (reflAll items)
  | function closure => exact .function ⟨rfl, rfl, rfl, rfl⟩
  | native key signature => exact .native key signature
  | range numbers => exact .range numbers

theorem reflAll (values : List Value) : List.Forall₂ Regrouped values values := by
  cases values with
  | nil => exact .nil
  | cons value values => exact .cons (refl value) (reflAll values)

end

mutual

/-- Regrouped values have the same text. -/
theorem display {value other : Value} (regrouped : value.Regrouped other) :
    value.display = other.display := by
  cases regrouped with
  | tuple items => rw [Value.display, Value.display, displayAll items]
  | function closure => rw [Value.display, Value.display, closure.name]
  | number | text | bool | native | range => rfl

theorem displayAll {values others : List Value}
    (regrouped : List.Forall₂ Regrouped values others) :
    Value.displayAll values = Value.displayAll others := by
  cases regrouped with
  | nil => rfl
  | cons value values =>
      rw [Value.displayAll, Value.displayAll, display value, displayAll values]

end

mutual

/-- Regrouped values look the same in the text of a fault. -/
theorem quoted {value other : Value} (regrouped : value.Regrouped other) :
    value.quoted = other.quoted := by
  cases regrouped with
  | tuple items => exact congrArg quotedTuple (quotedAll items)
  | function closure => exact congrArg (fun name => "Function(" ++ name ++ ")") closure.name
  | number | text | bool | native | range => rfl

theorem quotedAll {values others : List Value}
    (regrouped : List.Forall₂ Regrouped values others) :
    Value.quotedAll values = Value.quotedAll others := by
  cases regrouped with
  | nil => rfl
  | cons value values => exact congrArg₂ List.cons (quoted value) (quotedAll values)

end

mutual

/-- Equality does not look at the bodies of functions. -/
theorem equal {left first right second : Value} (lefts : left.Regrouped first)
    (rights : right.Regrouped second) : left.equal right = first.equal second := by
  cases lefts with
  | tuple items =>
      cases rights with
      | tuple others => exact equalAll items others
      | _ => rfl
  | function closure =>
      cases rights with
      | function other => exact congrArg₂ (· == ·) closure.frame other.frame
      | _ => rfl
  | _ => cases rights <;> rfl

theorem equalAll {lefts firsts rights seconds : List Value}
    (leftRegrouped : List.Forall₂ Regrouped lefts firsts)
    (rightRegrouped : List.Forall₂ Regrouped rights seconds) :
    Value.equalAll lefts rights = Value.equalAll firsts seconds := by
  cases leftRegrouped with
  | nil => cases rightRegrouped <;> rfl
  | cons left lefts =>
      cases rightRegrouped with
      | nil => rfl
      | cons right rights =>
          rw [Value.equalAll, Value.equalAll, equal left right, equalAll lefts rights]

end

end Regrouped

end Value

/-- Results of native functions that are the same but for the groups in the bodies of
functions. -/
inductive NativeResult.Regrouped : NativeResult → NativeResult → Prop
  | value {value other : Value} :
      value.Regrouped other → NativeResult.Regrouped (.value value) (.value other)
  | failed (reason : String) : NativeResult.Regrouped (.failed reason) (.failed reason)
  | aborted (reason : String) : NativeResult.Regrouped (.aborted reason) (.aborted reason)

/-- A native function that does not look at the bodies of functions. -/
def Native.IgnoresGroups (native : Native) : Prop :=
  ∀ values others console, List.Forall₂ Value.Regrouped values others →
    (native.run values console).1.Regrouped (native.run others console).1 ∧
      (native.run values console).2 = (native.run others console).2

namespace Evaluation

/-- Machines that are the same but for the groups in the bodies of functions. -/
structure Machine.Regrouped (machine other : Machine) : Prop where
  scopes : Scopes.Paired Eq Value.Regrouped machine.scopes other.scopes
  console : machine.console = other.console

/-- Why the runs of regrouped programs stop. -/
inductive Stop.Regrouped : Stop → Stop → Prop
  | returned {value other : Value} :
      value.Regrouped other → Stop.Regrouped (.returned value) (.returned other)
  | failed (diagnostic : Diagnostic) : Stop.Regrouped (.failed diagnostic) (.failed diagnostic)
  | faulted (fault : Fault) : Stop.Regrouped (.faulted fault) (.faulted fault)
  | aborted (reason : String) : Stop.Regrouped (.aborted reason) (.aborted reason)
  | exhausted : Stop.Regrouped .exhausted .exhausted

theorem Stop.Regrouped.refl (stop : Stop) : stop.Regrouped stop := by
  cases stop with
  | returned value => exact .returned (.refl value)
  | failed diagnostic => exact .failed diagnostic
  | faulted fault => exact .faulted fault
  | aborted reason => exact .aborted reason
  | exhausted => exact .exhausted

section Operators

variable {left first right second : Value} (token : Token) (lefts : left.Regrouped first)
include lefts

theorem truth_regrouped : truth token left = truth token first := by
  have faulted := congrArg (fun text : String =>
    (.error (.faulted (.operand token.lexeme text)) : Except Stop Bool)) lefts.quoted
  cases lefts with
  | bool => rfl
  | number | text | tuple | function | native | range => exact faulted

theorem applyUnary_regrouped (operator : UnaryOperator) :
    applyUnary operator token left = applyUnary operator token first := by
  cases operator with
  | invert =>
      exact congrArg (Except.map fun value => Value.bool !value) (truth_regrouped token lefts)
  | negate =>
      have faulted := congrArg (fun text : String =>
        (.error (.faulted (.operand "-" text)) : Except Stop Value)) lefts.quoted
      cases lefts with
      | number => rfl
      | text | bool | tuple | function | native | range => exact faulted

variable (rights : right.Regrouped second)
include rights

theorem numbers_regrouped : numbers token left right = numbers token first second := by
  have faulted := congrArg₂ (fun left right : String =>
    (.error (.faulted (.operands token.lexeme left right)) : Except Stop (Float × Float)))
    lefts.quoted rights.quoted
  cases lefts with
  | number value =>
      cases rights with
      | number => rfl
      | text | bool | tuple | function | native | range => exact faulted
  | text | bool | tuple | function | native | range => exact faulted

/-- No operator looks at the bodies of functions, and none gives a function. -/
theorem applyBinary_regrouped (operator : BinaryOperator) :
    applyBinary operator token left right = applyBinary operator token first second := by
  have numeric := congrArg (fun found => found >>= fun pair =>
    applyNumeric operator token pair.1 pair.2) (numbers_regrouped token lefts rights)
  cases operator with
  | equal => exact congrArg (fun same => Except.ok (Value.bool same)) (lefts.equal rights)
  | notEqual => exact congrArg (fun same => Except.ok (Value.bool !same)) (lefts.equal rights)
  | add =>
      cases lefts with
      | text value =>
          cases rights with
          | text another => rfl
          | number | bool | tuple | function | native | range => exact numeric
      | number | bool | tuple | function | native | range => exact numeric
  | subtract | multiply | divide | greater | greaterEqual | less | lessEqual => exact numeric

theorem loopRange_regrouped {step other : Option Value}
    (steps : Option.Rel Value.Regrouped step other) :
    loopRange token left right step = loopRange token first second other := by
  unfold loopRange
  rw [numbers_regrouped token lefts rights]
  cases steps with
  | none => rfl
  | some steps => simp only [numbers_regrouped token lefts steps]

end Operators

end Evaluation

end CheckedScript
