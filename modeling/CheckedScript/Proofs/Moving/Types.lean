import CheckedScript.Typing.Rules
import Mathlib.Logic.Function.Basic

/-!
# Renamed function types

Identifiers tell function types apart and mean nothing else.  Types in which all
identifiers are renamed, different ones to different ones, are shown, compared and
combined like the types they come from.
-/

namespace CheckedScript

namespace Ty

variable (renamed : Nat → Nat)

mutual

/-- A type with renamed functions. -/
def rename : Ty → Ty
  | function name identifier => function name (renamed identifier)
  | tuple items => tuple (renameAll items)
  | native name parameters result => native name (renameAll parameters) (rename result)
  | number => number
  | text => text
  | bool => bool
  | displayable => displayable
  | unknown => unknown
  | bareNative => bareNative

/-- Several types with renamed functions. -/
def renameAll : List Ty → List Ty
  | [] => []
  | item :: items => rename item :: renameAll items

end

@[simp]
theorem renameAll_eq_map (items : List Ty) : renameAll renamed items = items.map (rename renamed) := by
  induction items with
  | nil => rfl
  | cons item items inductionHypothesis => rw [renameAll, inductionHypothesis, List.map_cons]

mutual

/-- Whether no declared function occurs in a type. -/
def isClosed : Ty → Bool
  | function _ _ => false
  | tuple items => areClosed items
  | native _ parameters result => areClosed parameters && isClosed result
  | _ => true

/-- Whether no declared function occurs in several types. -/
def areClosed : List Ty → Bool
  | [] => true
  | item :: items => isClosed item && areClosed items

end

mutual

theorem rename_of_isClosed {type : Ty} (closed : type.isClosed = true) :
    type.rename renamed = type := by
  cases type with
  | tuple items => rw [rename, renameAll_of_areClosed closed]
  | native name parameters result =>
      obtain ⟨first, second⟩ := Bool.and_eq_true_iff.1 closed
      rw [rename, renameAll_of_areClosed first, rename_of_isClosed second]
  | function name identifier => cases closed
  | number | text | bool | displayable | unknown | bareNative => rfl

theorem renameAll_of_areClosed {items : List Ty} (closed : areClosed items = true) :
    renameAll renamed items = items := by
  cases items with
  | nil => rfl
  | cons item items =>
      obtain ⟨first, second⟩ := Bool.and_eq_true_iff.1 closed
      rw [renameAll, rename_of_isClosed first, renameAll_of_areClosed second]

end

mutual

theorem rename_id (type : Ty) : type.rename id = type := by
  cases type with
  | tuple items => rw [rename, renameAll_id items]
  | native name parameters result => rw [rename, renameAll_id parameters, rename_id result]
  | function _ _ | number | text | bool | displayable | unknown | bareNative => rfl

theorem renameAll_id (items : List Ty) : renameAll id items = items := by
  cases items with
  | nil => rfl
  | cons item items => rw [renameAll, rename_id item, renameAll_id items]

end

mutual

@[simp]
theorem describe_rename (type : Ty) : (type.rename renamed).describe = type.describe := by
  cases type with
  | tuple items => rw [rename, describe, describe, describeAll_renameAll items]
  | native name parameters result =>
      rw [rename, describe, describe, describeAll_renameAll parameters, describe_rename result]
  | function _ _ | number | text | bool | displayable | unknown | bareNative => rfl

theorem describeAll_renameAll (items : List Ty) :
    describeAll (renameAll renamed items) = describeAll items := by
  cases items with
  | nil => rfl
  | cons item items =>
      rw [renameAll, describeAll, describeAll, describe_rename item, describeAll_renameAll items]

end

mutual

@[simp]
theorem hasUnknown_rename (type : Ty) : (type.rename renamed).hasUnknown = type.hasUnknown := by
  cases type with
  | tuple items => rw [rename, hasUnknown, hasUnknown, anyUnknown_renameAll items]
  | native _ _ _ | function _ _ | number | text | bool | displayable | unknown | bareNative => rfl

theorem anyUnknown_renameAll (items : List Ty) :
    anyUnknown (renameAll renamed items) = anyUnknown items := by
  cases items with
  | nil => rfl
  | cons item items =>
      rw [renameAll, anyUnknown, anyUnknown, hasUnknown_rename item, anyUnknown_renameAll items]

end

mutual

theorem isDisplayable_rename (type : Ty) :
    (type.rename renamed).isDisplayable = type.isDisplayable := by
  cases type with
  | tuple items => rw [rename, isDisplayable, isDisplayable, areDisplayable_renameAll items]
  | native _ _ _ | function _ _ | number | text | bool | displayable | unknown | bareNative => rfl

theorem areDisplayable_renameAll (items : List Ty) :
    areDisplayable (renameAll renamed items) = areDisplayable items := by
  cases items with
  | nil => rfl
  | cons item items =>
      rw [renameAll, areDisplayable, areDisplayable, isDisplayable_rename item,
        areDisplayable_renameAll items]

end

theorem components?_rename (type : Ty) :
    (type.rename renamed).components? = type.components?.map (renameAll renamed) := by
  cases type with
  | function name identifier =>
      rw [rename, components?, components?]
      split <;> rfl
  | tuple _ | native _ _ _ | number | text | bool | displayable | unknown | bareNative => rfl

variable {renamed}

mutual

theorem rename_inj (injective : renamed.Injective) (left right : Ty) :
    left.rename renamed = right.rename renamed ↔ left = right := by
  cases left <;> cases right <;> simp only [rename, reduceCtorEq, tuple.injEq, function.injEq,
    native.injEq, injective.eq_iff]
  case tuple.tuple items others => exact renameAll_inj injective items others
  case native.native name parameters result name' parameters' result' =>
      rw [renameAll_inj injective parameters parameters', rename_inj injective result result']

theorem renameAll_inj (injective : renamed.Injective) (lefts rights : List Ty) :
    renameAll renamed lefts = renameAll renamed rights ↔ lefts = rights := by
  cases lefts with
  | nil => cases rights <;> simp [renameAll]
  | cons left lefts =>
      cases rights with
      | nil => simp [renameAll]
      | cons right rights =>
          rw [renameAll, renameAll, List.cons.injEq, List.cons.injEq,
            rename_inj injective left right, renameAll_inj injective lefts rights]

end

theorem rename_injective (injective : renamed.Injective) : (rename renamed).Injective :=
  fun left right same => (rename_inj injective left right).1 same

mutual

/-- Renamed types are compatible if the types they come from are. -/
theorem compatible_rename (injective : renamed.Injective) (left right : Ty) :
    (left.rename renamed).compatible (right.rename renamed) = left.compatible right := by
  by_cases isUnknown : right = unknown
  · subst isUnknown
    cases left <;> simp [rename, compatible]
  have known : right.rename renamed ≠ unknown := fun same =>
    isUnknown ((rename_inj injective right unknown).1 same)
  cases left with
  | unknown => simp [rename, compatible]
  | tuple expected =>
      rw [rename, compatible.eq_3 _ _ known, compatible.eq_3 _ _ isUnknown, components?_rename]
      cases right.components? with
      | none => rfl
      | some items => exact compatibleAll_renameAll injective expected items
  | function name identifier =>
      rw [rename, compatible.eq_4 _ _ _ known, compatible.eq_4 _ _ _ isUnknown, components?_rename]
      split
      · cases right.components? with
        | none => rfl
        | some items => cases items <;> rfl
      · exact decide_eq_decide.2 (rename_inj injective right (function name identifier))
  | native _ _ _ | number | text | bool | displayable | bareNative =>
      rw [compatible.eq_5 _ _ (by simp [rename]) (by simp [rename]) (by simp [rename]) known,
        compatible.eq_5 _ _ (by simp) (by simp) (by simp) isUnknown]
      exact decide_eq_decide.2 (rename_inj injective _ right)

theorem compatibleAll_renameAll (injective : renamed.Injective) (lefts rights : List Ty) :
    compatibleAll (renameAll renamed lefts) (renameAll renamed rights) =
      compatibleAll lefts rights := by
  cases lefts with
  | nil => cases rights <;> rfl
  | cons left lefts =>
      cases rights with
      | nil => rfl
      | cons right rights =>
          rw [renameAll, renameAll, compatibleAll, compatibleAll,
            compatible_rename injective left right, compatibleAll_renameAll injective lefts rights]

end

theorem accepts_rename (injective : renamed.Injective) (expected actual : Ty) :
    (expected.rename renamed).accepts (actual.rename renamed) = expected.accepts actual := by
  have same : expected.rename renamed = displayable ↔ expected = displayable :=
    rename_inj injective expected displayable
  simp only [accepts, same, isDisplayable_rename, compatible_rename injective]

end Ty

namespace WrittenType

mutual

/-- A program writes no types of functions. -/
theorem isClosed_type (written : WrittenType) : written.type.isClosed = true := by
  cases written with
  | tuple items => exact areClosed_types items
  | number | text | bool => rfl

theorem areClosed_types (items : List WrittenType) : Ty.areClosed (types items) = true := by
  cases items with
  | nil => rfl
  | cons item items =>
      rw [types, Ty.areClosed, isClosed_type item, areClosed_types items]
      rfl

end

end WrittenType

namespace Typing

variable {renamed : Nat → Nat}

/-- No operator is about functions. -/
theorem operatorTable_isClosed (operator : BinaryOperator) :
    ∀ entry ∈ operatorTable operator,
      entry.1.isClosed = true ∧ entry.2.1.isClosed = true ∧ entry.2.2.isClosed = true := by
  cases operator <;> decide

theorem possibleResults_rename (injective : renamed.Injective) (operator : BinaryOperator)
    (left right : Ty) :
    possibleResults operator (left.rename renamed) (right.rename renamed) =
      possibleResults operator left right := by
  unfold possibleResults
  congr 1
  apply List.filter_congr
  rintro ⟨expectedLeft, expectedRight, result⟩ member
  obtain ⟨first, second, _⟩ := operatorTable_isClosed operator _ member
  have leftSame := Ty.compatible_rename injective expectedLeft left
  have rightSame := Ty.compatible_rename injective expectedRight right
  rw [Ty.rename_of_isClosed renamed first] at leftSame
  rw [Ty.rename_of_isClosed renamed second] at rightSame
  dsimp only
  rw [leftSame, rightSame]

theorem isClosed_of_mem_possibleResults {operator : BinaryOperator} {left right result : Ty}
    (member : result ∈ possibleResults operator left right) : result.isClosed = true := by
  obtain ⟨entry, inTable, rfl⟩ := List.mem_map.1 member
  exact (operatorTable_isClosed operator entry (List.mem_filter.1 inTable).1).2.2

/-- No result is possible, one, or several. -/
theorem possibleResults_shape (operator : BinaryOperator) (left right : Ty) :
    possibleResults operator left right = [] ∨
      (∃ result, result.isClosed = true ∧ possibleResults operator left right = [result]) ∨
      ∃ first second rest, possibleResults operator left right = first :: second :: rest := by
  cases known : possibleResults operator left right with
  | nil => exact .inl rfl
  | cons first rest =>
      cases rest with
      | nil =>
          have closed := isClosed_of_mem_possibleResults (known ▸ List.mem_singleton_self first)
          exact .inr (.inl ⟨first, closed, rfl⟩)
      | cons second rest => exact .inr (.inr ⟨first, second, rest, rfl⟩)

theorem binaryType?_rename (injective : renamed.Injective) (operator : BinaryOperator)
    (left right : Ty) :
    binaryType? operator (left.rename renamed) (right.rename renamed) =
      (binaryType? operator left right).map (Ty.rename renamed) := by
  cases operator with
  | equal | notEqual =>
      simp only [binaryType?, Ty.compatible_rename injective]
      split <;> rfl
  | _ =>
      simp only [binaryType?, possibleResults_rename injective]
      rcases possibleResults_shape _ left right with none | ⟨result, closed, one⟩ | ⟨_, _, _, many⟩
      · rw [none]
        rfl
      · rw [one, Option.map_some, Ty.rename_of_isClosed renamed closed]
      · rw [many]
        rfl

theorem unaryType?_rename (injective : renamed.Injective) (operator : UnaryOperator)
    (operand : Ty) :
    unaryType? operator (operand.rename renamed) =
      (unaryType? operator operand).map (Ty.rename renamed) := by
  have number : Ty.number.compatible (operand.rename renamed) = Ty.number.compatible operand :=
    Ty.compatible_rename injective .number operand
  have bool : Ty.bool.compatible (operand.rename renamed) = Ty.bool.compatible operand :=
    Ty.compatible_rename injective .bool operand
  cases operator <;> simp only [unaryType?, number, bool] <;> split <;> rfl

theorem firstRefused?_rename (injective : renamed.Injective) (parameters arguments : List Ty) :
    firstRefused? (parameters.map (Ty.rename renamed)) (arguments.map (Ty.rename renamed)) =
      (firstRefused? parameters arguments).map
        (Prod.map (Ty.rename renamed) (Ty.rename renamed)) := by
  induction parameters generalizing arguments with
  | nil => rfl
  | cons expected parameters inductionHypothesis =>
      cases arguments with
      | nil => rfl
      | cons found arguments =>
          simp only [List.map_cons, firstRefused?, Ty.accepts_rename injective]
          split
          · exact inductionHypothesis arguments
          · rfl

theorem nativeCallType_rename (injective : renamed.Injective) (name : String)
    (parameters : List Ty) (result : Ty) (arguments : List Ty) :
    nativeCallType name (parameters.map (Ty.rename renamed)) (result.rename renamed)
        (arguments.map (Ty.rename renamed)) =
      (nativeCallType name parameters result arguments).map (Ty.rename renamed) := by
  simp only [nativeCallType, List.length_map, firstRefused?_rename injective]
  split
  · rfl
  · cases firstRefused? parameters arguments with
    | none => rfl
    | some refused => simp [Except.map]

theorem chooseResult_rename (returns : List Ty) :
    chooseResult (returns.map (Ty.rename renamed)) = (chooseResult returns).rename renamed := by
  have known : (returns.map (Ty.rename renamed)).find? (fun type => !type.hasUnknown) =
      (returns.find? fun type => !type.hasUnknown).map (Ty.rename renamed) := by
    rw [List.find?_map]
    congr 2
    funext type
    simp
  unfold chooseResult
  rw [known]
  cases returns.find? fun type => !type.hasUnknown with
  | some type => rfl
  | none => cases returns <;> rfl

end Typing

end CheckedScript
