import CheckedScript.Evaluation.Evaluate
import CheckedScript.Proofs.Anchors.Computations

/-!
# Closures in values

The closures that a value carries, be it a function or a tuple with functions somewhere
in it.  Operators make values without closures, so the closures of a run stem from function
statements, and are passed on from there.
-/

namespace CheckedScript

mutual

/-- The closures that a value carries. -/
def Value.closures : Value → List Closure
  | .tuple items => Value.closuresOfAll items
  | .function closure => [closure]
  | .number _ | .text _ | .bool _ | .native _ _ | .range _ => []

/-- The closures that several values carry. -/
def Value.closuresOfAll : List Value → List Closure
  | [] => []
  | item :: items => item.closures ++ Value.closuresOfAll items

end

/-- A native function whose result carries closures of its arguments only. -/
def Native.PassesOn (native : Native) : Prop :=
  ∀ arguments console value, (native.run arguments console).1 = .value value →
    value.closures ⊆ Value.closuresOfAll arguments

theorem Native.passesOn_defaults : ∀ native ∈ Native.defaults, native.PassesOn := by
  intro native member arguments console value ended
  rcases List.mem_cons.1 member with rfl | member
  · cases ended
    exact List.nil_subset _
  · obtain rfl := List.mem_singleton.1 member
    cases ended
    exact List.nil_subset _

/-- What is known of the closures of a value. -/
def Value.Holds (known : Closure → Prop) (value : Value) : Prop :=
  ∀ closure ∈ value.closures, known closure

/-- What is known of the closures of several values. -/
def Value.HoldAll (known : Closure → Prop) (values : List Value) : Prop :=
  ∀ closure ∈ Value.closuresOfAll values, known closure

namespace Value

variable {known wide : Closure → Prop} {value : Value} {values : List Value}

theorem Holds.mono (holds : value.Holds known) (implies : ∀ closure, known closure → wide closure) :
    value.Holds wide :=
  fun closure member => implies closure (holds closure member)

theorem holds_of_closures_eq_nil (plain : value.closures = []) : value.Holds known := by
  intro closure member
  rw [plain] at member
  cases member

theorem holds_function {closure : Closure} : (function closure).Holds known ↔ known closure :=
  List.forall_mem_singleton

theorem holdAll_nil : HoldAll known [] :=
  fun _ member => by cases member

theorem holdAll_cons : HoldAll known (value :: values) ↔ value.Holds known ∧ HoldAll known values :=
  List.forall_mem_append

theorem HoldAll.zip (hold : HoldAll known values) (names : List String) :
    ∀ binding ∈ names.zip values, binding.2.Holds known := by
  induction values generalizing names with
  | nil => simp
  | cons value values inductionHypothesis =>
      obtain ⟨first, others⟩ := holdAll_cons.1 hold
      cases names with
      | nil => simp
      | cons name names => exact List.forall_mem_cons.2 ⟨first, inductionHypothesis others names⟩

end Value

namespace Evaluation

/-- Nothing is given back. -/
def Stop.GivesNothing : Stop → Prop
  | .returned _ => False
  | .failed _ | .faulted _ | .aborted _ | .exhausted => True

/-- A result of the expected kind, or a reason to stop that gives nothing back. -/
def Bare {α : Type} (fits : α → Prop) : Except Stop α → Prop
  | .ok value => fits value
  | .error stop => stop.GivesNothing

variable {token : Token}

theorem closures_constantValue (value : Constant) : (constantValue value).closures = [] := by
  cases value <;> rfl

theorem bare_truth (value : Value) : Bare (fun _ => True) (truth token value) := by
  cases value <;> exact trivial

theorem bare_numbers (left right : Value) : Bare (fun _ => True) (numbers token left right) := by
  cases left <;> cases right <;> exact trivial

theorem bare_applyUnary (operator : UnaryOperator) (operand : Value) :
    Bare (fun value => value.closures = []) (applyUnary operator token operand) := by
  cases operator <;> cases operand <;> first | rfl | exact trivial

theorem bare_applyNumeric (operator : BinaryOperator) (left right : Float) :
    Bare (fun value => value.closures = []) (applyNumeric operator token left right) := by
  cases operator
  case divide =>
      unfold applyNumeric
      dsimp only
      split
      · exact trivial
      · rfl
  all_goals rfl

theorem bare_applyBinary (operator : BinaryOperator) (left right : Value) :
    Bare (fun value => value.closures = []) (applyBinary operator token left right) := by
  unfold applyBinary
  split
  · rfl
  · rfl
  · rfl
  · have known : Bare (fun _ => True) (numbers token left right) := bare_numbers left right
    cases found : numbers token left right with
    | ok operands => exact bare_applyNumeric operator operands.1 operands.2
    | error stop =>
        rw [found] at known
        exact known

theorem bare_bind {α β : Type} {first : Except Stop α} {next : α → Except Stop β}
    {fits : β → Prop} (early : Bare (fun _ => True) first) (late : ∀ value, Bare fits (next value)) :
    Bare fits (first >>= next) := by
  cases first with
  | ok value => exact late value
  | error stop => exact early

theorem bare_loopRange (start stop : Value) (step : Option Value) :
    Bare (fun _ => True) (loopRange token start stop step) := by
  refine bare_bind (bare_numbers start stop) fun bounds => ?_
  have valid (range : NumberRange Float) : Bare (fun _ => True)
      (if range.isValid then
        (pure range : Except Stop (NumberRange Float))
      else
        throw (.failed
          { cause := .invalidRange (Decimal.plainText range.start)
              (Decimal.plainText range.stop) (Decimal.plainText range.step)
            token := token })) := by
    split <;> exact trivial
  cases step with
  | none => exact valid _
  | some step => exact bare_bind (bare_numbers start step) fun _ => valid _

end Evaluation

end CheckedScript
