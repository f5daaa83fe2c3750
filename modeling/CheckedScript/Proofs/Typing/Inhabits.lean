import CheckedScript.Evaluation.Machine
import CheckedScript.Typing.Rules

/-!
# Values of types

When a value belongs to a type, and what operators do with values that belong to
the types the typing rules ask for.  Which function values belong to which
function type is left open here: that depends on the frames of a run.
-/

namespace CheckedScript

open Typing Evaluation

mutual

/-- The values of a type, given the native functions there are and the function
values of each function type. -/
def Inhabits (natives : List Native) (closures : Closure → String → Nat → Prop) :
    Ty → Value → Prop
  | .number, .number _ => True
  | .text, .text _ => True
  | .bool, .bool _ => True
  | .tuple types, .tuple items => InhabitAll natives closures types items
  | .function name identifier, .function closure => closures closure name identifier
  | .native name parameters result, .native key signature =>
      ∃ native, Native.find? natives key = some native ∧ native.signature = signature ∧
        signature.type = .native name parameters result
  | _, _ => False

/-- The values of several types, one by one. -/
def InhabitAll (natives : List Native) (closures : Closure → String → Nat → Prop) :
    List Ty → List Value → Prop
  | [], [] => True
  | type :: types, value :: values =>
      Inhabits natives closures type value ∧ InhabitAll natives closures types values
  | _, _ => False

end

namespace Inhabits

variable {natives : List Native} {closures : Closure → String → Nat → Prop} {value : Value}

theorem number_iff : Inhabits natives closures .number value ↔ ∃ number, value = .number number := by
  cases value <;> simp [Inhabits]

theorem text_iff : Inhabits natives closures .text value ↔ ∃ text, value = .text text := by
  cases value <;> simp [Inhabits]

theorem bool_iff : Inhabits natives closures .bool value ↔ ∃ truth, value = .bool truth := by
  cases value <;> simp [Inhabits]

theorem tuple_iff {types : List Ty} : Inhabits natives closures (.tuple types) value ↔
    ∃ items, value = .tuple items ∧ InhabitAll natives closures types items := by
  cases value <;> simp [Inhabits]

theorem function_iff {name : String} {identifier : Nat} :
    Inhabits natives closures (.function name identifier) value ↔
      ∃ closure, value = .function closure ∧ closures closure name identifier := by
  cases value <;> simp [Inhabits]

theorem native_iff {name : String} {parameters : List Ty} {result : Ty} :
    Inhabits natives closures (.native name parameters result) value ↔
      ∃ native key, value = .native key native.signature ∧ Native.find? natives key = some native ∧
        native.signature.type = .native name parameters result := by
  constructor
  · intro inhabits
    cases value with
    | native key signature =>
        obtain ⟨native, found, rfl, same⟩ := inhabits
        exact ⟨native, key, rfl, found, same⟩
    | number _ | text _ | bool _ | tuple _ | function _ | range _ => cases inhabits
  · rintro ⟨native, key, rfl, found, same⟩
    exact ⟨native, found, rfl, same⟩

theorem unit : Inhabits natives closures .unit .unit :=
  trivial

theorem constant (constant : Constant) :
    Inhabits natives closures (constantType constant) (constantValue constant) := by
  cases constant <;> trivial

end Inhabits

/-- A native function that comes to a value that fits, or fails. -/
def NativeResult.Within (fits : Value → Prop) : NativeResult → Prop
  | value given => fits given
  | failed _ => True
  | aborted _ => False

/-- Native functions that come to values of the types in their signatures, unless they
fail. -/
def Native.KeepTypes (natives : List Native) : Prop :=
  ∀ (closures : Closure → String → Nat → Prop) key native,
    Native.find? natives key = some native → ∀ arguments console,
      (native.run arguments console).1.Within (Inhabits natives closures native.signature.result)

/-- The native functions of every program keep their types, whatever the output refuses and
whatever the clock shows. -/
theorem Native.keepTypes_library (write : Writing) (readings : Nat → Float) :
    Native.KeepTypes [.printTo write, .clockReading readings] := by
  intro closures key native found arguments console
  rcases List.mem_cons.1 (List.mem_of_find?_eq_some found) with rfl | member
  · unfold Native.printTo
    dsimp only
    split <;> trivial
  · rw [List.mem_singleton.1 member]
    trivial

namespace Ty

mutual

/-- Whether a type may have values: it has no unknown part, and no function in it
counts as an empty tuple. -/
def isDefinite : Ty → Bool
  | unknown | displayable => false
  | tuple items => areDefinite items
  | function name _ => name ≠ "tuple"
  | _ => true

def areDefinite : List Ty → Bool
  | [] => true
  | item :: items => isDefinite item && areDefinite items

end

mutual

/-- Between definite types, compatibility is equality. -/
theorem eq_of_compatible {expected actual : Ty} (definite : expected.isDefinite = true)
    (actualDefinite : actual.isDefinite = true) (compatible : expected.compatible actual = true) :
    expected = actual := by
  cases expected with
  | unknown => cases definite
  | displayable => cases definite
  | tuple items =>
      cases actual with
      | tuple others =>
          exact congrArg Ty.tuple (eq_of_compatibleAll definite actualDefinite compatible)
      | function name identifier =>
          have other : name ≠ "tuple" := of_decide_eq_true actualDefinite
          simp [Ty.compatible, components?, other] at compatible
      | unknown => cases actualDefinite
      | number | text | bool | displayable | native _ _ _ | bareNative => cases compatible
  | function name identifier =>
      have other : name ≠ "tuple" := of_decide_eq_true definite
      cases actual with
      | unknown => cases actualDefinite
      | function _ _ | tuple _ | number | text | bool | displayable | native _ _ _ | bareNative =>
          rw [Ty.compatible, if_neg other] at compatible
          · exact (of_decide_eq_true compatible).symm
          · exact fun same => by cases same
  | number | text | bool | native _ _ _ | bareNative =>
      cases actual with
      | unknown => cases actualDefinite
      | function _ _ | tuple _ | number | text | bool | displayable | native _ _ _ | bareNative =>
          exact of_decide_eq_true compatible

theorem eq_of_compatibleAll {expected actual : List Ty} (definite : areDefinite expected = true)
    (actualDefinite : areDefinite actual = true)
    (compatible : compatibleAll expected actual = true) : expected = actual := by
  cases expected with
  | nil =>
      cases actual with
      | nil => rfl
      | cons _ _ => cases compatible
  | cons item items =>
      cases actual with
      | nil => cases compatible
      | cons other others =>
          have isDefinite := Bool.and_eq_true_iff.1 definite
          have areDefinite := Bool.and_eq_true_iff.1 actualDefinite
          have isCompatible := Bool.and_eq_true_iff.1 compatible
          rw [eq_of_compatible isDefinite.1 areDefinite.1 isCompatible.1,
            eq_of_compatibleAll isDefinite.2 areDefinite.2 isCompatible.2]

end

end Ty

mutual

theorem WrittenType.isDefinite_type (written : WrittenType) : written.type.isDefinite = true := by
  cases written with
  | number | text | bool => rfl
  | tuple items => exact WrittenType.areDefinite_types items

theorem WrittenType.areDefinite_types (written : List WrittenType) :
    Ty.areDefinite (WrittenType.types written) = true := by
  cases written with
  | nil => rfl
  | cons item items =>
      exact Bool.and_eq_true_iff.2
        ⟨WrittenType.isDefinite_type item, WrittenType.areDefinite_types items⟩

end

section Definite

variable {natives : List Native} {closures : Closure → String → Nat → Prop}

mutual

/-- A type with a value is definite. -/
theorem Inhabits.isDefinite {type : Ty} {value : Value}
    (noTuple : ∀ closure identifier, ¬ closures closure "tuple" identifier)
    (inhabits : Inhabits natives closures type value) : type.isDefinite = true := by
  cases type with
  | unknown => cases value <;> cases inhabits
  | displayable => cases value <;> cases inhabits
  | tuple types =>
      obtain ⟨items, rfl, all⟩ := Inhabits.tuple_iff.1 inhabits
      exact InhabitAll.areDefinite noTuple all
  | function name identifier =>
      obtain ⟨closure, rfl, holds⟩ := Inhabits.function_iff.1 inhabits
      refine decide_eq_true fun same => ?_
      subst same
      exact noTuple closure identifier holds
  | number | text | bool | native _ _ _ | bareNative => rfl

theorem InhabitAll.areDefinite {types : List Ty} {values : List Value}
    (noTuple : ∀ closure identifier, ¬ closures closure "tuple" identifier)
    (inhabit : InhabitAll natives closures types values) : Ty.areDefinite types = true := by
  cases types with
  | nil => rfl
  | cons type types =>
      cases values with
      | nil => cases inhabit
      | cons value values =>
          exact Bool.and_eq_true_iff.2
            ⟨Inhabits.isDefinite noTuple inhabit.1, InhabitAll.areDefinite noTuple inhabit.2⟩

end

variable {expected actual : Ty} {value : Value}

/-- A value of a type belongs to every definite type it is compatible with. -/
theorem Inhabits.of_compatible
    (noTuple : ∀ closure identifier, ¬ closures closure "tuple" identifier)
    (inhabits : Inhabits natives closures actual value) (definite : expected.isDefinite = true)
    (compatible : expected.compatible actual = true) :
    Inhabits natives closures expected value := by
  rw [Ty.eq_of_compatible definite (inhabits.isDefinite noTuple) compatible]
  exact inhabits

/-- A truth value is what a condition is. -/
theorem Inhabits.truth (noTuple : ∀ closure identifier, ¬ closures closure "tuple" identifier)
    (inhabits : Inhabits natives closures actual value)
    (compatible : Ty.bool.compatible actual = true) (token : Token) :
    ∃ holds, value = .bool holds ∧ truth token value = .ok holds := by
  obtain ⟨holds, rfl⟩ := Inhabits.bool_iff.1 (inhabits.of_compatible noTuple rfl compatible)
  exact ⟨holds, rfl, rfl⟩

theorem Inhabits.number (noTuple : ∀ closure identifier, ¬ closures closure "tuple" identifier)
    (inhabits : Inhabits natives closures actual value)
    (compatible : Ty.number.compatible actual = true) : ∃ number, value = .number number :=
  Inhabits.number_iff.1 (inhabits.of_compatible noTuple rfl compatible)

theorem applyUnary_inhabits
    (noTuple : ∀ closure identifier, ¬ closures closure "tuple" identifier)
    (inhabits : Inhabits natives closures actual value) {operator : UnaryOperator} {result : Ty}
    (typed : unaryType? operator actual = some result) (token : Token) :
    ∃ outcome, applyUnary operator token value = .ok outcome ∧
      Inhabits natives closures result outcome := by
  cases operator with
  | negate =>
      rw [unaryType?] at typed
      split at typed
      · next compatible =>
          cases typed
          obtain ⟨number, rfl⟩ := inhabits.number noTuple compatible
          exact ⟨_, rfl, trivial⟩
      · cases typed
  | invert =>
      rw [unaryType?] at typed
      split at typed
      · next compatible =>
          cases typed
          obtain ⟨holds, rfl, _⟩ := inhabits.truth noTuple compatible token
          exact ⟨_, rfl, trivial⟩
      · cases typed

theorem compatible_number {type : Ty} (definite : type.isDefinite = true) :
    Ty.number.compatible type = decide (type = .number) := by
  by_cases same : type = .number
  · rw [same]
    rfl
  · rw [decide_eq_false same, Bool.eq_false_iff]
    exact fun compatible => same (Ty.eq_of_compatible rfl definite compatible).symm

theorem compatible_text {type : Ty} (definite : type.isDefinite = true) :
    Ty.text.compatible type = decide (type = .text) := by
  by_cases same : type = .text
  · rw [same]
    rfl
  · rw [decide_eq_false same, Bool.eq_false_iff]
    exact fun compatible => same (Ty.eq_of_compatible rfl definite compatible).symm

/-- The operators that are defined for numbers only. -/
theorem possibleResults_numbers {operator : BinaryOperator} {left right result : Ty}
    (leftDefinite : left.isDefinite = true) (rightDefinite : right.isDefinite = true)
    (row : operatorTable operator = [(.number, .number, result)]) :
    possibleResults operator left right =
      if left = .number ∧ right = .number then [result] else [] := by
  rw [possibleResults, row]
  simp only [List.filter_cons, List.filter_nil, compatible_number leftDefinite,
    compatible_number rightDefinite, Bool.and_eq_true, decide_eq_true_eq]
  split <;> rfl

theorem possibleResults_add {left right : Ty} (leftDefinite : left.isDefinite = true)
    (rightDefinite : right.isDefinite = true) :
    possibleResults .add left right =
      if left = .number ∧ right = .number then [.number]
      else if left = .text ∧ right = .text then [.text] else [] := by
  rw [possibleResults, operatorTable]
  simp only [List.filter_cons, List.filter_nil, compatible_number leftDefinite,
    compatible_number rightDefinite, compatible_text leftDefinite, compatible_text rightDefinite,
    Bool.and_eq_true, decide_eq_true_eq]
  by_cases numbers : left = .number ∧ right = .number
  · simp [numbers]
  · simp only [numbers, if_false]
    split <;> rfl

/-- An operator on numbers is applied to numbers. -/
theorem binaryType?_numbers {operator : BinaryOperator} {left right type result : Ty}
    (leftDefinite : left.isDefinite = true) (rightDefinite : right.isDefinite = true)
    (row : operatorTable operator = [(.number, .number, type)])
    (typed : binaryType? operator left right = some result) :
    left = .number ∧ right = .number ∧ result = type := by
  have possible := possibleResults_numbers leftDefinite rightDefinite row
  by_cases numbers : left = .number ∧ right = .number
  · rw [if_pos numbers] at possible
    cases operator <;> cases row
    all_goals
      simp only [binaryType?, possible, Option.some.injEq] at typed
      exact ⟨numbers.1, numbers.2, typed.symm⟩
  · rw [if_neg numbers] at possible
    cases operator <;> cases row
    all_goals simp [binaryType?, possible] at typed

/-- Numbers or texts are added. -/
theorem binaryType?_add {left right result : Ty} (leftDefinite : left.isDefinite = true)
    (rightDefinite : right.isDefinite = true)
    (typed : binaryType? .add left right = some result) :
    (left = .number ∧ right = .number ∧ result = .number) ∨
      (left = .text ∧ right = .text ∧ result = .text) := by
  simp only [binaryType?, possibleResults_add leftDefinite rightDefinite] at typed
  by_cases numbers : left = .number ∧ right = .number
  · rw [if_pos numbers] at typed
    cases typed
    exact .inl ⟨numbers.1, numbers.2, rfl⟩
  · rw [if_neg numbers] at typed
    by_cases texts : left = .text ∧ right = .text
    · rw [if_pos texts] at typed
      cases typed
      exact .inr ⟨texts.1, texts.2, rfl⟩
    · rw [if_neg texts] at typed
      cases typed

/-- Operands of the types an operator asks for have a value, unless a number is
divided by zero. -/
theorem applyBinary_inhabits
    (noTuple : ∀ closure identifier, ¬ closures closure "tuple" identifier)
    {leftType rightType result : Ty} {left right : Value} {operator : BinaryOperator}
    (leftInhabits : Inhabits natives closures leftType left)
    (rightInhabits : Inhabits natives closures rightType right)
    (typed : binaryType? operator leftType rightType = some result) (token : Token) :
    (∃ outcome, applyBinary operator token left right = .ok outcome ∧
        Inhabits natives closures result outcome) ∨
      applyBinary operator token left right =
        .error (.failed { cause := .divisionByZero, token := token }) := by
  have leftDefinite := leftInhabits.isDefinite noTuple
  have rightDefinite := rightInhabits.isDefinite noTuple
  have numeric : ∀ type, operatorTable operator = [(.number, .number, type)] →
      ∃ first second, left = .number first ∧ right = .number second ∧ result = type := by
    intro type row
    obtain ⟨rfl, rfl, same⟩ := binaryType?_numbers leftDefinite rightDefinite row typed
    obtain ⟨first, rfl⟩ := Inhabits.number_iff.1 leftInhabits
    obtain ⟨second, rfl⟩ := Inhabits.number_iff.1 rightInhabits
    exact ⟨first, second, rfl, rfl, same⟩
  cases operator with
  | equal | notEqual =>
      rw [binaryType?] at typed
      split at typed
      · cases typed
        exact .inl ⟨_, rfl, trivial⟩
      · cases typed
  | add =>
      rcases binaryType?_add leftDefinite rightDefinite typed with
        ⟨rfl, rfl, rfl⟩ | ⟨rfl, rfl, rfl⟩
      · obtain ⟨first, rfl⟩ := Inhabits.number_iff.1 leftInhabits
        obtain ⟨second, rfl⟩ := Inhabits.number_iff.1 rightInhabits
        exact .inl ⟨_, rfl, trivial⟩
      · obtain ⟨first, rfl⟩ := Inhabits.text_iff.1 leftInhabits
        obtain ⟨second, rfl⟩ := Inhabits.text_iff.1 rightInhabits
        exact .inl ⟨_, rfl, trivial⟩
  | divide =>
      obtain ⟨first, second, rfl, rfl, rfl⟩ := numeric .number rfl
      have outcome : applyBinary .divide token (.number first) (.number second) =
          if second == 0 then .error (.failed { cause := .divisionByZero, token := token })
          else .ok (.number (first / second)) := rfl
      rw [outcome]
      split
      · exact .inr rfl
      · exact .inl ⟨_, rfl, trivial⟩
  | subtract | multiply =>
      obtain ⟨first, second, rfl, rfl, rfl⟩ := numeric .number rfl
      exact .inl ⟨_, rfl, trivial⟩
  | greater | greaterEqual | less | lessEqual =>
      obtain ⟨first, second, rfl, rfl, rfl⟩ := numeric .bool rfl
      exact .inl ⟨_, rfl, trivial⟩

end Definite

mutual

/-- Whether a native function occurs in a value. -/
def Value.hasNative : Value → Bool
  | .native _ _ => true
  | .tuple items => Value.anyNative items
  | _ => false

def Value.anyNative : List Value → Bool
  | [] => false
  | item :: items => item.hasNative || Value.anyNative items

end

section Displayable

variable {natives : List Native} {closures : Closure → String → Nat → Prop}

mutual

/-- Values of displayable types hold no native function. -/
theorem Inhabits.hasNative_eq_false {type : Ty} {value : Value}
    (inhabits : Inhabits natives closures type value) (displayable : type.isDisplayable = true) :
    value.hasNative = false := by
  cases value with
  | native key signature =>
      cases type with
      | native _ _ _ => cases displayable
      | number | text | bool | displayable | unknown | tuple _ | function _ _ | bareNative =>
          cases inhabits
  | tuple items =>
      cases type with
      | tuple types => exact InhabitAll.anyNative_eq_false inhabits displayable
      | number | text | bool | displayable | unknown | function _ _ | native _ _ _ | bareNative =>
          cases inhabits
  | number _ | text _ | bool _ | function _ | range _ => rfl

theorem InhabitAll.anyNative_eq_false {types : List Ty} {values : List Value}
    (inhabit : InhabitAll natives closures types values)
    (displayable : Ty.areDisplayable types = true) : Value.anyNative values = false := by
  cases values with
  | nil => rfl
  | cons value values =>
      cases types with
      | nil => cases inhabit
      | cons type types =>
          obtain ⟨first, others⟩ := Bool.and_eq_true_iff.1 displayable
          exact Bool.or_eq_false_iff.2 ⟨Inhabits.hasNative_eq_false inhabit.1 first,
            InhabitAll.anyNative_eq_false inhabit.2 others⟩

end

end Displayable

end CheckedScript
