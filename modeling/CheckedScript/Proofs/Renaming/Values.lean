import CheckedScript.Evaluation.Machine
import CheckedScript.Proofs.Renaming.Computations
import CheckedScript.Proofs.Renaming.Scopes
import CheckedScript.Proofs.Renaming.Trees

/-!
# Values of renamed programs

The values of two programs that differ in names only differ in the names of functions, and
operators do not ask for these.  Whatever the one program has printed, the other one has
printed up to names of functions.
-/

namespace CheckedScript

/-- Closures that differ in names only. -/
structure Closure.Renamed (naming : Naming) (closure other : Closure) : Prop where
  name : naming.names closure.name other.name
  parameters : List.Forall₂ naming.names closure.parameters other.parameters
  body : closure.body.Renamed naming other.body
  frame : closure.frame = other.frame

namespace Value

/-- Values that differ in the names of functions only. -/
inductive Renamed (naming : Naming) : Value → Value → Prop
  | number (value : Float) : Renamed naming (.number value) (.number value)
  | text (value : String) : Renamed naming (.text value) (.text value)
  | bool (value : Bool) : Renamed naming (.bool value) (.bool value)
  | tuple {items others : List Value} :
      List.Forall₂ (Renamed naming) items others → Renamed naming (.tuple items) (.tuple others)
  | function {closure other : Closure} :
      closure.Renamed naming other → Renamed naming (.function closure) (.function other)
  | native (key : String) (signature : Signature) :
      Renamed naming (.native key signature) (.native key signature)
  | range (numbers : NumberRange Float) : Renamed naming (.range numbers) (.range numbers)

variable {naming : Naming}

theorem Renamed.unit : Renamed naming .unit .unit :=
  .tuple .nil

mutual

/-- Equality does not ask for names. -/
theorem Renamed.equal {left first right second : Value} (leftRenamed : left.Renamed naming first)
    (rightRenamed : right.Renamed naming second) : left.equal right = first.equal second := by
  cases leftRenamed with
  | tuple items =>
      cases rightRenamed with
      | tuple others => exact renamed_equalAll items others
      | _ => rfl
  | function closure =>
      cases rightRenamed with
      | function other => exact congrArg₂ (· == ·) closure.frame other.frame
      | _ => rfl
  | _ => cases rightRenamed <;> rfl

theorem renamed_equalAll {lefts firsts rights seconds : List Value}
    (leftRenamed : List.Forall₂ (Renamed naming) lefts firsts)
    (rightRenamed : List.Forall₂ (Renamed naming) rights seconds) :
    equalAll lefts rights = equalAll firsts seconds := by
  cases leftRenamed with
  | nil => cases rightRenamed <;> rfl
  | cons left lefts =>
      cases rightRenamed with
      | nil => rfl
      | cons right rights =>
          rw [equalAll, equalAll, left.equal right, renamed_equalAll lefts rights]

end

/-- What is written when values are printed one after the other. -/
def printed (values : List Value) : String :=
  String.join (values.map fun value => value.display ++ "\n")

theorem printed_append (values others : List Value) :
    printed (values ++ others) = printed values ++ printed others := by
  simp [printed]

end Value

/-- Consoles on which the same values are printed, up to names of functions. -/
structure Console.Renamed (naming : Naming) (console other : Console) : Prop where
  ticks : console.ticks = other.ticks
  output : ∃ values others, List.Forall₂ (Value.Renamed naming) values others ∧
    console.output = Value.printed values ∧ other.output = Value.printed others

/-- What a native function gives in two programs that differ in names only. -/
inductive NativeResult.Renamed (naming : Naming) : NativeResult → NativeResult → Prop
  | value {value other : Value} :
      value.Renamed naming other → NativeResult.Renamed naming (.value value) (.value other)
  | failed (reason : String) : NativeResult.Renamed naming (.failed reason) (.failed reason)
  | aborted (reason : String) : NativeResult.Renamed naming (.aborted reason) (.aborted reason)

/-- A native function that does not ask for names. -/
def Native.Indifferent (naming : Naming) (native : Native) : Prop :=
  ∀ values others console other, List.Forall₂ (Value.Renamed naming) values others →
    console.Renamed naming other →
    (native.run values console).1.Renamed naming (native.run others other).1 ∧
      (native.run values console).2.Renamed naming (native.run others other).2

namespace Evaluation

variable (naming : Naming)

/-- Machines of two programs that differ in names only. -/
structure Machine.Renamed (machine other : Machine) : Prop where
  scopes : Scopes.Paired naming.names (Value.Renamed naming) machine.scopes other.scopes
  console : machine.console.Renamed naming other.console

/-- Why the runs of two programs that differ in names only stop. -/
inductive Stop.Renamed : Stop → Stop → Prop
  | returned {value other : Value} :
      value.Renamed naming other → Stop.Renamed (.returned value) (.returned other)
  | failed {diagnostic other : Diagnostic} :
      diagnostic.spot = other.spot → Stop.Renamed (.failed diagnostic) (.failed other)
  | faulted {fault other : Fault} :
      fault.Alike other → Stop.Renamed (.faulted fault) (.faulted other)
  | aborted (reason : String) : Stop.Renamed (.aborted reason) (.aborted reason)
  | exhausted : Stop.Renamed .exhausted .exhausted

/-- What belongs together in the runs of two programs that differ in names only. -/
def pairing : Pairing Stop Machine where
  stop := Stop.Renamed naming
  state := Machine.Renamed naming

/-- What operators give in two programs that differ in names only. -/
inductive Outcome.Renamed {α β : Type} (value : α → β → Prop) :
    Except Stop α → Except Stop β → Prop
  | ok {found : α} {other : β} :
      value found other → Outcome.Renamed value (.ok found) (.ok other)
  | error {stop other : Stop} :
      Stop.Renamed naming stop other → Outcome.Renamed value (.error stop) (.error other)

variable {naming} {token other : Token}

theorem truth_renamed {value second : Value} (renamed : value.Renamed naming second) :
    Outcome.Renamed naming Eq (truth token value) (truth other second) := by
  cases renamed with
  | bool value => exact .ok rfl
  | number | text | tuple | function | native | range => exact .error (.faulted rfl)

theorem numbers_renamed {left right first second : Value}
    (leftRenamed : left.Renamed naming first) (rightRenamed : right.Renamed naming second) :
    Outcome.Renamed naming Eq (numbers token left right) (numbers other first second) := by
  cases leftRenamed <;> cases rightRenamed <;>
    first
    | exact .ok rfl
    | exact .error (.faulted rfl)

theorem constantValue_renamed (value : Constant) :
    (constantValue value).Renamed naming (constantValue value) := by
  cases value with
  | number value => exact .number value
  | text value => exact .text value
  | bool value => exact .bool value

theorem applyUnary_renamed (operator : UnaryOperator) {operand second : Value}
    (renamed : operand.Renamed naming second) :
    Outcome.Renamed naming (Value.Renamed naming) (applyUnary operator token operand)
      (applyUnary operator other second) := by
  cases operator <;> cases renamed <;>
    first
    | exact .ok (.bool _)
    | exact .ok (.number _)
    | exact .error (.faulted rfl)

variable (tokens : naming.tokens token other)
include tokens

theorem applyNumeric_renamed (operator : BinaryOperator) (left right : Float) :
    Outcome.Renamed naming (Value.Renamed naming) (applyNumeric operator token left right)
      (applyNumeric operator other left right) := by
  cases operator with
  | divide =>
      simp only [applyNumeric]
      split
      · exact .error (.failed (congrArg (Prod.mk _) (naming.position tokens)))
      · exact .ok (.number _)
  | add | subtract | multiply => exact .ok (.number _)
  | greater | greaterEqual | less | lessEqual | equal | notEqual => exact .ok (.bool _)

/-- Most operators need numbers. -/
theorem applyToNumbers_renamed (operator : BinaryOperator) {left right first second : Value}
    (leftRenamed : left.Renamed naming first) (rightRenamed : right.Renamed naming second) :
    Outcome.Renamed naming (Value.Renamed naming)
      (do
        let (one, two) ← numbers token left right
        applyNumeric operator token one two)
      (do
        let (one, two) ← numbers other first second
        applyNumeric operator other one two) := by
  have operands : Outcome.Renamed naming Eq (numbers token left right)
      (numbers other first second) := numbers_renamed leftRenamed rightRenamed
  generalize numbers token left right = found, numbers other first second = last at operands
  cases operands with
  | ok same =>
      subst same
      exact applyNumeric_renamed tokens operator _ _
  | error stop => exact .error stop

theorem applyBinary_renamed (operator : BinaryOperator) {left right first second : Value}
    (leftRenamed : left.Renamed naming first) (rightRenamed : right.Renamed naming second) :
    Outcome.Renamed naming (Value.Renamed naming) (applyBinary operator token left right)
      (applyBinary operator other first second) := by
  have numeric := applyToNumbers_renamed tokens operator leftRenamed rightRenamed
  cases operator with
  | equal =>
      exact .ok (leftRenamed.equal rightRenamed ▸ .bool _)
  | notEqual =>
      exact .ok (leftRenamed.equal rightRenamed ▸ .bool _)
  | add =>
      cases leftRenamed with
      | text value =>
          cases rightRenamed with
          | text another => exact .ok (.text _)
          | _ => exact numeric
      | _ => exact numeric
  | _ => exact numeric

theorem loopRange_renamed {start stop first last : Value} {step second : Option Value}
    (starts : start.Renamed naming first) (stops : stop.Renamed naming last)
    (steps : Option.Rel (Value.Renamed naming) step second) :
    Outcome.Renamed naming Eq (loopRange token start stop step)
      (loopRange other first last second) := by
  have valid (range : NumberRange Float) : Outcome.Renamed naming Eq
      (if range.isValid then
        (pure range : Except Stop (NumberRange Float))
      else
        throw (.failed
          { cause := .invalidRange (Decimal.plainText range.start)
              (Decimal.plainText range.stop) (Decimal.plainText range.step)
            token := token }))
      (if range.isValid then
        (pure range : Except Stop (NumberRange Float))
      else
        throw (.failed
          { cause := .invalidRange (Decimal.plainText range.start)
              (Decimal.plainText range.stop) (Decimal.plainText range.step)
            token := other })) := by
    split
    · exact .ok rfl
    · exact .error (.failed (congrArg (Prod.mk _) (naming.position tokens)))
  have ends : Outcome.Renamed naming Eq (numbers token start stop) (numbers other first last) :=
    numbers_renamed starts stops
  unfold loopRange
  generalize numbers token start stop = found, numbers other first last = further at ends ⊢
  cases ends with
  | error stop => exact .error stop
  | ok same =>
      subst same
      cases steps with
      | none => exact valid _
      | @some step second steps =>
          have widths : Outcome.Renamed naming Eq (numbers token start step)
              (numbers other first second) := numbers_renamed starts steps
          simp only [bind, Except.bind]
          generalize numbers token start step = width, numbers other first second = otherWidth
            at widths ⊢
          cases widths with
          | error stop => exact .error stop
          | ok same =>
              subst same
              exact valid _

end Evaluation

end CheckedScript
