import CheckedScript.Proofs.Anchors.Running
import CheckedScript.Proofs.Charges
import CheckedScript.Proofs.Moving.States

/-!
# Types that can be shown and called

A check faults in two places only: where it calls or shows a native function whose
signature is missing, and where it looks up the declaration of a function that has not been
declared.  Founded types give it no reason to.  All types that a check starts from are
founded, the rules without state lead from founded types to founded ones, and what is
founded stays so as more functions are declared.
-/

namespace CheckedScript

namespace Ty

mutual

/-- A type all of whose native functions have signatures, and all of whose declared
functions are among the first ones. -/
def Founded (declared : Nat) : Ty → Prop
  | tuple items => AreFounded declared items
  | function _ identifier => identifier < declared
  | native _ parameters result => AreFounded declared parameters ∧ Founded declared result
  | bareNative => False
  | number | text | bool | displayable | unknown => True

/-- Several founded types. -/
def AreFounded (declared : Nat) : List Ty → Prop
  | [] => True
  | item :: items => Founded declared item ∧ AreFounded declared items

end

variable {declared later : Nat} {type : Ty} {types : List Ty}

mutual

/-- A type stays founded as more functions are declared. -/
theorem Founded.mono {type : Ty} (founded : type.Founded declared) (more : declared ≤ later) :
    type.Founded later := by
  cases type with
  | tuple items => exact AreFounded.mono founded more
  | function name identifier => exact Nat.lt_of_lt_of_le founded more
  | native name parameters result =>
      exact ⟨AreFounded.mono founded.1 more, Founded.mono founded.2 more⟩
  | bareNative => exact founded
  | number | text | bool | displayable | unknown => trivial

theorem AreFounded.mono {types : List Ty} (founded : AreFounded declared types)
    (more : declared ≤ later) : AreFounded later types := by
  cases types with
  | nil => trivial
  | cons type types => exact ⟨Founded.mono founded.1 more, AreFounded.mono founded.2 more⟩

end

mutual

theorem Founded.isComplete {type : Ty} (founded : type.Founded declared) :
    type.isComplete = true := by
  cases type with
  | tuple items => exact AreFounded.areComplete founded
  | native name parameters result =>
      exact Bool.and_eq_true_iff.2
        ⟨AreFounded.areComplete founded.1, Founded.isComplete founded.2⟩
  | bareNative => exact founded.elim
  | function | number | text | bool | displayable | unknown => rfl

theorem AreFounded.areComplete {types : List Ty} (founded : AreFounded declared types) :
    areComplete types = true := by
  cases types with
  | nil => rfl
  | cons type types =>
      exact Bool.and_eq_true_iff.2
        ⟨Founded.isComplete founded.1, AreFounded.areComplete founded.2⟩

end

theorem Founded.describe? (founded : type.Founded declared) :
    type.describe? = .ok type.describe := by
  rw [Ty.describe?, if_pos founded.isComplete]

theorem areFounded_iff : AreFounded declared types ↔ ∀ type ∈ types, type.Founded declared := by
  induction types with
  | nil => simp [AreFounded]
  | cons type types inductionHypothesis => simp [AreFounded, inductionHypothesis]

end Ty

mutual

/-- Whatever a program can write as a type is founded. -/
theorem WrittenType.founded_type (written : WrittenType) : written.type.Founded 0 := by
  cases written with
  | tuple items => exact WrittenType.areFounded_types items
  | number | text | bool => trivial

theorem WrittenType.areFounded_types (written : List WrittenType) :
    Ty.AreFounded 0 (WrittenType.types written) := by
  cases written with
  | nil => trivial
  | cons item items => exact ⟨item.founded_type, WrittenType.areFounded_types items⟩

end

namespace Typing

open Ty (Founded AreFounded)

section Rules

variable {declared : Nat} {left right type found : Ty} {types : List Ty}

/-- A text of a founded type. -/
theorem shown (founded : type.Founded declared) :
    ∀ text ∈ [type.describe], ∃ shown : Ty, shown.describe? = .ok text :=
  List.forall_mem_singleton.2 ⟨type, founded.describe?⟩

/-- The texts of two founded types. -/
theorem shown_both {other : Nat} (first : left.Founded declared) (second : right.Founded other) :
    ∀ text ∈ [left.describe, right.describe], ∃ shown : Ty, shown.describe? = .ok text :=
  List.forall_mem_cons.2 ⟨⟨left, first.describe?⟩, shown second⟩

theorem founded_constantType (value : Constant) : (constantType value).Founded declared := by
  cases value <;> trivial

/-- The results of operators are no functions. -/
theorem founded_of_possibleResults {operator : BinaryOperator}
    (possible : type ∈ possibleResults operator left right) : type.Founded declared := by
  obtain ⟨⟨_, _, result⟩, kept, rfl⟩ := List.mem_map.1 possible
  have listed := (List.mem_filter.1 kept).1
  cases operator <;> simp only [operatorTable, List.mem_cons, List.not_mem_nil, or_false,
    Prod.mk.injEq] at listed
  case add => rcases listed with ⟨_, _, rfl⟩ | ⟨_, _, rfl⟩ <;> trivial
  all_goals
    obtain ⟨_, _, rfl⟩ := listed
    trivial

/-- Equality gives a truth value; all other operators have their results from the table. -/
theorem founded_of_binaryType? {operator : BinaryOperator}
    (typed : binaryType? operator left right = some type) : type.Founded declared := by
  unfold binaryType? at typed
  split at typed
  case h_3 =>
    split at typed
    · cases typed
    · next result only =>
        cases typed
        have possible : type ∈ possibleResults operator left right := by
          rw [only]
          exact List.mem_singleton_self _
        exact founded_of_possibleResults possible
    · cases typed
      trivial
  all_goals
    split at typed <;> cases typed
    trivial

theorem founded_of_unaryType? {operator : UnaryOperator}
    (typed : unaryType? operator found = some type) : type.Founded declared := by
  cases operator <;> simp only [unaryType?, Option.ite_none_right_eq_some, Option.some.injEq] at typed
  all_goals
    obtain ⟨_, rfl⟩ := typed
    trivial

/-- A parameter that refuses its argument is a parameter, and so is its argument. -/
theorem mem_of_firstRefused? {parameters arguments : List Ty}
    (refused : firstRefused? parameters arguments = some (type, found)) :
    type ∈ parameters ∧ found ∈ arguments := by
  induction parameters generalizing arguments with
  | nil => cases refused
  | cons parameter parameters inductionHypothesis =>
      cases arguments with
      | nil => cases refused
      | cons argument arguments =>
          rw [firstRefused?] at refused
          split at refused
          · obtain ⟨first, second⟩ := inductionHypothesis refused
            exact ⟨List.mem_cons_of_mem _ first, List.mem_cons_of_mem _ second⟩
          · cases refused
            exact ⟨List.mem_cons_self, List.mem_cons_self⟩

/-- A call of a native function has a founded type, or is refused with a fault of the check. -/
theorem founded_of_nativeCallType {name : String} {parameters arguments : List Ty} {result : Ty}
    (callee : (Ty.native name parameters result).Founded declared)
    (areFounded : AreFounded declared arguments) (token : Token) :
    match nativeCallType name parameters result arguments with
    | .ok type => type.Founded declared
    | .error cause => Diagnostic.IsOwnOf .checking { cause := cause, token := token } := by
  unfold nativeCallType
  by_cases same : parameters.length = arguments.length
  · rw [if_neg (by simpa using same)]
    cases refused : firstRefused? parameters arguments with
    | none => exact callee.2
    | some pair =>
        obtain ⟨expected, found⟩ := mem_of_firstRefused? refused
        exact ⟨rfl, shown_both (Ty.areFounded_iff.1 callee.1 _ expected)
          (Ty.areFounded_iff.1 areFounded _ found)⟩
  · rw [if_pos same]
    exact ⟨rfl, List.forall_mem_nil _⟩

theorem founded_chooseResult (founded : ∀ type ∈ types, type.Founded declared) :
    (chooseResult types).Founded declared := by
  unfold chooseResult
  split
  · next known found => exact founded known (List.mem_of_find?_eq_some found)
  · cases types with
    | nil => trivial
    | cons type types => exact founded type List.mem_cons_self

theorem isOwnOf_returnMismatches (name : String) {returns : List (Ty × Token)}
    (founded : type.Founded declared)
    (areFounded : ∀ returned ∈ returns, returned.1.Founded declared) :
    ∀ diagnostic ∈ returnMismatches name type returns, diagnostic.IsOwnOf .checking := by
  intro diagnostic member
  obtain ⟨returned, kept, rfl⟩ := List.mem_map.1 member
  exact ⟨rfl, shown_both founded (areFounded returned (List.mem_filter.1 kept).1)⟩

end Rules

/-- A state all of whose types are founded and all of whose diagnostics are faults of the
check. -/
structure State.Founded (state : State) : Prop where
  bound : state.scopes.All (Ty.Founded state.functions.size)
  results : ∀ function ∈ state.functions, ∀ key result,
    function.instances.get? key = some result → result.Founded state.functions.size
  returns : ∀ activation ∈ state.activations, ∀ returned ∈ activation.returns,
    returned.1.Founded state.functions.size
  diagnostics : ∀ diagnostic ∈ state.diagnostics, diagnostic.IsOwnOf .checking

namespace State.Founded

variable {state : State} {type : Ty}

theorem report (founded : state.Founded) {diagnostic : Diagnostic}
    (own : diagnostic.IsOwnOf .checking) : (state.report diagnostic).Founded := by
  unfold State.report
  split
  · exact founded
  · exact ⟨founded.bound, founded.results, founded.returns,
      List.forall_mem_append.2 ⟨founded.diagnostics, List.forall_mem_singleton.2 own⟩⟩

theorem reports {diagnostics : List Diagnostic} (founded : state.Founded)
    (own : ∀ diagnostic ∈ diagnostics, diagnostic.IsOwnOf .checking) :
    (diagnostics.foldl State.report state).Founded := by
  induction diagnostics generalizing state with
  | nil => exact founded
  | cons diagnostic diagnostics inductionHypothesis =>
      obtain ⟨first, others⟩ := List.forall_mem_cons.1 own
      exact inductionHypothesis (founded.report first) others

theorem note (founded : state.Founded) (place : Place) (expr : Expr) (type : Ty) :
    (state.note place expr type).Founded :=
  ⟨founded.bound, founded.results, founded.returns, founded.diagnostics⟩

theorem bind (founded : state.Founded) (frame : FrameId) (name : String)
    (fits : type.Founded state.functions.size) : (state.bind frame name type).Founded :=
  ⟨founded.bound.define frame name fits, founded.results, founded.returns, founded.diagnostics⟩

theorem nested (founded : state.Founded) (frame : FrameId) :
    State.Founded { state with scopes := (state.scopes.nest frame).2 } :=
  ⟨founded.bound.nest frame, founded.results, founded.returns, founded.diagnostics⟩

theorem define (founded : state.Founded) (frame : FrameId) {bindings : Bindings Ty}
    (fits : ∀ binding ∈ bindings, binding.2.Founded state.functions.size) :
    State.Founded { state with scopes := state.scopes.defineAll frame bindings } :=
  ⟨founded.bound.defineAll frame fits, founded.results, founded.returns, founded.diagnostics⟩

theorem enter (founded : state.Founded) (identifier : Nat) (arguments : List Ty) :
    State.Founded { state with
      activations := { function := identifier, arguments := arguments, returns := [] } ::
        state.activations } :=
  ⟨founded.bound, founded.results, List.forall_mem_cons.2 ⟨by simp, founded.returns⟩,
    founded.diagnostics⟩

theorem leave (founded : state.Founded) :
    State.Founded { state with activations := state.activations.tail } :=
  ⟨founded.bound, founded.results,
    fun activation member => founded.returns activation (List.mem_of_mem_tail member),
    founded.diagnostics⟩

theorem addReturn (founded : state.Founded) (fits : type.Founded state.functions.size)
    (keyword : Token) : (state.addReturn type keyword).Founded := by
  have returns := founded.returns
  unfold State.addReturn
  cases shape : state.activations with
  | nil => exact founded
  | cons activation activations =>
      rw [shape] at returns
      obtain ⟨first, others⟩ := List.forall_mem_cons.1 returns
      refine ⟨founded.bound, founded.results, List.forall_mem_cons.2 ⟨?_, others⟩,
        founded.diagnostics⟩
      exact List.forall_mem_append.2 ⟨first, List.forall_mem_singleton.2 fits⟩

theorem setInstance (founded : state.Founded) (identifier : Nat) (key : InstanceKey)
    (fits : type.Founded state.functions.size) :
    (state.setInstance identifier key type).Founded := by
  have size : (state.setInstance identifier key type).functions.size = state.functions.size :=
    Array.size_modify
  refine ⟨size ▸ founded.bound, ?_, size ▸ founded.returns, founded.diagnostics⟩
  rw [size]
  intro function member other result known
  obtain ⟨index, found⟩ := Array.mem_iff_getElem?.1 member
  rw [State.setInstance, Array.getElem?_modify] at found
  split at found
  · cases shape : state.functions[index]? with
    | none => simp [shape] at found
    | some before =>
        simp only [shape, Option.map_some, Option.some.injEq] at found
        subst found
        rw [Table.get?_set] at known
        split at known
        · cases known
          exact fits
        · exact founded.results before (Array.mem_of_getElem? shape) other result known
  · exact founded.results function (Array.mem_of_getElem? found) other result known

/-- A declared function has an identifier of its own, and no results yet. -/
theorem declare (founded : state.Founded) (frame : FrameId) (place : Place) (name : Token)
    (parameters : List Token) (body : Block) :
    (state.declare frame place name parameters body).Founded := by
  have size : (state.declare frame place name parameters body).functions.size =
      state.functions.size + 1 := Array.size_push _
  have more := Nat.le_succ state.functions.size
  have bound : (state.scopes.nest frame).2.All (Ty.Founded (state.functions.size + 1)) :=
    (founded.bound.nest frame).mono fun _ known => known.mono more
  refine ⟨?_, ?_, ?_, founded.diagnostics⟩
  · rw [size]
    exact bound.define frame name.lexeme (Nat.lt_succ_self _)
  · rw [size]
    intro function member key result known
    rcases Array.mem_push.1 member with before | rfl
    · exact (founded.results function before key result known).mono more
    · cases known
  · rw [size]
    intro activation member returned isReturn
    exact (founded.returns activation member returned isReturn).mono more

theorem opened (founded : state.Founded) {natives : Bindings Signature}
    (fits : ∀ native ∈ natives, native.2.type.Founded 0) : (state.opened natives).Founded := by
  refine ⟨(founded.bound.add []).defineAll _ fun binding member => ?_, founded.results,
    founded.returns, founded.diagnostics⟩
  obtain ⟨native, listed, rfl⟩ := List.mem_map.1 member
  exact (fits native listed).mono (Nat.zero_le _)

end State.Founded

end Typing

end CheckedScript
