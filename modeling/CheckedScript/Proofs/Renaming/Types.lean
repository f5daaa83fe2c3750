import CheckedScript.Proofs.Renaming.Scopes
import CheckedScript.Proofs.Renaming.Trees
import CheckedScript.Typing.Rules

/-!
# Types of renamed functions

The names of functions occur in types.  Types that differ in these names only are compared
and combined alike.
-/

namespace CheckedScript

namespace Ty

/-- Types that differ in the names of functions only. -/
inductive Renamed (naming : Naming) : Ty → Ty → Prop
  | number : Renamed naming .number .number
  | text : Renamed naming .text .text
  | bool : Renamed naming .bool .bool
  | displayable : Renamed naming .displayable .displayable
  | unknown : Renamed naming .unknown .unknown
  | tuple {items others : List Ty} :
      List.Forall₂ (Renamed naming) items others → Renamed naming (.tuple items) (.tuple others)
  | function {name other : String} (identifier : Nat) :
      naming.names name other →
        Renamed naming (.function name identifier) (.function other identifier)
  | native {name other : String} {parameters others : List Ty} {result second : Ty} :
      naming.names name other → List.Forall₂ (Renamed naming) parameters others →
        Renamed naming result second →
        Renamed naming (.native name parameters result) (.native other others second)

/-- Lists of types that differ in the names of functions only. -/
abbrev AreRenamed (naming : Naming) : List Ty → List Ty → Prop :=
  List.Forall₂ (Renamed naming)

variable {naming : Naming}

theorem Renamed.unit : Renamed naming .unit .unit :=
  .tuple .nil

mutual

theorem Renamed.symm {type other : Ty} (renamed : type.Renamed naming other) :
    other.Renamed naming.symm type := by
  cases renamed with
  | number => exact .number
  | text => exact .text
  | bool => exact .bool
  | displayable => exact .displayable
  | unknown => exact .unknown
  | tuple items => exact .tuple (AreRenamed.symm items)
  | function identifier names => exact .function identifier names
  | native names parameters result =>
      exact .native names (AreRenamed.symm parameters) result.symm

theorem AreRenamed.symm {items others : List Ty} (renamed : AreRenamed naming items others) :
    AreRenamed naming.symm others items := by
  cases renamed with
  | nil => exact .nil
  | cons item items => exact .cons item.symm (AreRenamed.symm items)

end

mutual

theorem Renamed.eq {type other second : Ty} (first : type.Renamed naming other)
    (again : type.Renamed naming second) : other = second := by
  cases first with
  | number | text | bool | displayable | unknown =>
      cases again
      rfl
  | tuple items =>
      cases again with
      | tuple others => rw [AreRenamed.eq items others]
  | function identifier names =>
      cases again with
      | function _ other => rw [naming.unique.2 names other]
  | native names parameters result =>
      cases again with
      | native other others second =>
          rw [naming.unique.2 names other, AreRenamed.eq parameters others, result.eq second]

theorem AreRenamed.eq {items others seconds : List Ty} (first : AreRenamed naming items others)
    (again : AreRenamed naming items seconds) : others = seconds := by
  cases first with
  | nil =>
      cases again
      rfl
  | cons item items =>
      cases again with
      | cons other others => rw [item.eq other, AreRenamed.eq items others]

end

theorem renamed_unique (naming : Naming) : Relator.BiUnique (Renamed naming) :=
  ⟨fun _ _ _ first second => first.symm.eq second.symm, fun _ _ _ first second => first.eq second⟩

mutual

theorem Renamed.hasUnknown {type other : Ty} (renamed : type.Renamed naming other) :
    type.hasUnknown = other.hasUnknown := by
  cases renamed with
  | tuple items => exact AreRenamed.anyUnknown items
  | number | text | bool | displayable | unknown | function | native => rfl

theorem AreRenamed.anyUnknown {items others : List Ty}
    (renamed : AreRenamed naming items others) :
    Ty.anyUnknown items = Ty.anyUnknown others := by
  cases renamed with
  | nil => rfl
  | cons item items =>
      rw [Ty.anyUnknown, Ty.anyUnknown, item.hasUnknown, AreRenamed.anyUnknown items]

end

mutual

theorem Renamed.isDisplayable {type other : Ty} (renamed : type.Renamed naming other) :
    type.isDisplayable = other.isDisplayable := by
  cases renamed with
  | tuple items => exact AreRenamed.areDisplayable items
  | function identifier names => exact decide_eq_decide.2 (naming.tuple names)
  | number | text | bool | displayable | unknown | native => rfl

theorem AreRenamed.areDisplayable {items others : List Ty}
    (renamed : AreRenamed naming items others) :
    Ty.areDisplayable items = Ty.areDisplayable others := by
  cases renamed with
  | nil => rfl
  | cons item items =>
      rw [Ty.areDisplayable, Ty.areDisplayable, item.isDisplayable,
        AreRenamed.areDisplayable items]

end

theorem Renamed.components? {type other : Ty} (renamed : type.Renamed naming other) :
    Option.Rel (AreRenamed naming) type.components? other.components? := by
  cases renamed with
  | tuple items => exact .some items
  | @function name other identifier names =>
      rw [Ty.components?, Ty.components?]
      by_cases isTuple : name = "tuple"
      · rw [if_pos isTuple, if_pos ((naming.tuple names).1 isTuple)]
        exact .some .nil
      · rw [if_neg isTuple, if_neg (isTuple ∘ (naming.tuple names).2)]
        exact .none
  | number | text | bool | displayable | unknown | native => exact .none

/-- Equality of types is seen from the other side. -/
theorem Renamed.eq_iff {left first right second : Ty} (leftRenamed : left.Renamed naming first)
    (rightRenamed : right.Renamed naming second) : left = right ↔ first = second :=
  Relator.rel_eq (renamed_unique naming) leftRenamed rightRenamed

theorem AreRenamed.eq_iff {left first right second : List Ty}
    (leftRenamed : AreRenamed naming left first) (rightRenamed : AreRenamed naming right second) :
    left = right ↔ first = second :=
  Relator.rel_eq (renamed_unique naming).forall₂ leftRenamed rightRenamed

mutual

theorem Renamed.compatible {left first right second : Ty} (leftRenamed : left.Renamed naming first)
    (rightRenamed : right.Renamed naming second) :
    left.compatible right = first.compatible second := by
  by_cases isUnknown : right = .unknown
  · subst isUnknown
    cases rightRenamed
    cases leftRenamed <;> simp only [Ty.compatible]
  have known : second ≠ .unknown := isUnknown ∘ (rightRenamed.eq_iff .unknown).2
  have components := rightRenamed.components?
  have same := leftRenamed.eq_iff rightRenamed
  cases leftRenamed with
  | unknown => simp only [Ty.compatible]
  | tuple items =>
      rw [compatible.eq_3 _ _ isUnknown, compatible.eq_3 _ _ known]
      generalize right.components? = found, second.components? = other at components
      cases components with
      | none => rfl
      | some others => exact AreRenamed.compatibleAll items others
  | function identifier names =>
      rw [compatible.eq_4 _ _ _ isUnknown, compatible.eq_4 _ _ _ known]
      simp only [naming.tuple names]
      split
      · generalize right.components? = found, second.components? = other at components
        cases components with
        | none => rfl
        | some others => cases others <;> rfl
      · exact decide_eq_decide.2 (by rw [eq_comm, same, eq_comm])
  | number | text | bool | displayable | native =>
      rw [compatible.eq_5 _ _ (by simp) (by simp) (by simp) isUnknown,
        compatible.eq_5 _ _ (by simp) (by simp) (by simp) known]
      exact decide_eq_decide.2 same

theorem AreRenamed.compatibleAll {lefts firsts rights seconds : List Ty}
    (leftRenamed : AreRenamed naming lefts firsts)
    (rightRenamed : AreRenamed naming rights seconds) :
    Ty.compatibleAll lefts rights = Ty.compatibleAll firsts seconds := by
  cases leftRenamed with
  | nil => cases rightRenamed <;> rfl
  | cons left lefts =>
      cases rightRenamed with
      | nil => rfl
      | cons right rights =>
          rw [Ty.compatibleAll, Ty.compatibleAll, left.compatible right,
            AreRenamed.compatibleAll lefts rights]

end

theorem Renamed.accepts {expected first actual second : Ty}
    (expectedRenamed : expected.Renamed naming first)
    (actualRenamed : actual.Renamed naming second) :
    expected.accepts actual = first.accepts second := by
  have same := expectedRenamed.eq_iff (.displayable)
  simp only [Ty.accepts, same, actualRenamed.isDisplayable,
    expectedRenamed.compatible actualRenamed]

end Ty

namespace WrittenType

variable {naming : Naming}

mutual

/-- A program writes no types of functions. -/
theorem type_renamed (written : WrittenType) : written.type.Renamed naming written.type := by
  cases written with
  | number => exact .number
  | text => exact .text
  | bool => exact .bool
  | tuple items => exact .tuple (types_renamed items)

theorem types_renamed (items : List WrittenType) :
    Ty.AreRenamed naming (types items) (types items) := by
  cases items with
  | nil => exact .nil
  | cons item items => exact .cons item.type_renamed (types_renamed items)

end

end WrittenType

namespace Typing

variable {naming : Naming} {left first right second : Ty}

/-- No operator is about functions. -/
theorem operatorTable_renamed (naming : Naming) (operator : BinaryOperator) :
    ∀ entry ∈ operatorTable operator, entry.1.Renamed naming entry.1 ∧
      entry.2.1.Renamed naming entry.2.1 ∧ entry.2.2.Renamed naming entry.2.2 := by
  cases operator <;>
    simp [operatorTable, Ty.Renamed.number, Ty.Renamed.text, Ty.Renamed.bool]

theorem possibleResults_renamed (operator : BinaryOperator)
    (leftRenamed : left.Renamed naming first) (rightRenamed : right.Renamed naming second) :
    possibleResults operator left right = possibleResults operator first second := by
  unfold possibleResults
  congr 1
  apply List.filter_congr
  intro entry member
  obtain ⟨closedLeft, closedRight, _⟩ := operatorTable_renamed naming operator _ member
  dsimp only
  rw [closedLeft.compatible leftRenamed, closedRight.compatible rightRenamed]

theorem binaryType?_renamed (operator : BinaryOperator)
    (leftRenamed : left.Renamed naming first) (rightRenamed : right.Renamed naming second) :
    Option.Rel (Ty.Renamed naming) (binaryType? operator left right)
      (binaryType? operator first second) := by
  cases operator with
  | equal | notEqual =>
      simp only [binaryType?, leftRenamed.compatible rightRenamed]
      split
      · exact .some .bool
      · exact .none
  | _ =>
      simp only [binaryType?, possibleResults_renamed _ leftRenamed rightRenamed]
      split
      · exact .none
      · next result single =>
          have member := single ▸ List.mem_singleton_self result
          obtain ⟨entry, inTable, rfl⟩ := List.mem_map.1 member
          exact .some (operatorTable_renamed naming _ entry (List.mem_filter.1 inTable).1).2.2
      · exact .some .unknown

theorem unaryType?_renamed (operator : UnaryOperator) (renamed : left.Renamed naming first) :
    Option.Rel (Ty.Renamed naming) (unaryType? operator left) (unaryType? operator first) := by
  have number : Ty.number.compatible left = Ty.number.compatible first :=
    Ty.Renamed.number.compatible renamed
  have bool : Ty.bool.compatible left = Ty.bool.compatible first :=
    Ty.Renamed.bool.compatible renamed
  cases operator <;> simp only [unaryType?, number, bool] <;> split
  · exact .some .number
  · exact .none
  · exact .some .bool
  · exact .none

theorem chooseResult_renamed {returns others : List Ty}
    (renamed : Ty.AreRenamed naming returns others) :
    (chooseResult returns).Renamed naming (chooseResult others) := by
  have known : Option.Rel (Ty.Renamed naming) (returns.find? fun type => !type.hasUnknown)
      (others.find? fun type => !type.hasUnknown) :=
    rel_find? (fun _ _ item => by rw [item.hasUnknown]) renamed
  unfold chooseResult
  generalize returns.find? _ = found, others.find? _ = other at known
  cases known with
  | some result => exact result
  | none =>
      cases renamed with
      | nil => exact .unit
      | cons item _ => exact item

end Typing

end CheckedScript
