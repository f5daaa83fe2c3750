import CheckedScript.Proofs.Typing.Inhabits
import CheckedScript.Proofs.Walks.Compliance
import CheckedScript.Proofs.Walks.Knowledge

/-!
# Definite types stay definite

As long as a checker goes over statements that declare no function, and into the bodies of
functions that declare none either, all types that it keeps are definite: none of them is
unknown, and none of them is a function that counts as the empty tuple.
-/

namespace CheckedScript

namespace Ty

mutual

/-- Whether a type is definite, and the results of the native functions in it are, too. -/
def isProper : Ty → Bool
  | unknown | displayable => false
  | tuple items => areProper items
  | function name _ => name ≠ "tuple"
  | native _ _ result => isProper result
  | _ => true

/-- Whether all types are proper. -/
def areProper : List Ty → Bool
  | [] => true
  | item :: items => isProper item && areProper items

end

theorem areProper_iff {types : List Ty} :
    areProper types = true ↔ ∀ type ∈ types, type.isProper = true := by
  induction types with
  | nil => simp [areProper]
  | cons type types inductionHypothesis => simp [areProper, inductionHypothesis]

mutual

theorem isDefinite_of_isProper {type : Ty} (proper : type.isProper = true) :
    type.isDefinite = true := by
  cases type with
  | unknown | displayable => cases proper
  | tuple items => exact areDefinite_of_areProper proper
  | function name identifier => exact proper
  | number | text | bool | native _ _ _ | bareNative => rfl

theorem areDefinite_of_areProper {types : List Ty} (proper : areProper types = true) :
    areDefinite types = true := by
  cases types with
  | nil => rfl
  | cons type types =>
      obtain ⟨first, others⟩ := Bool.and_eq_true_iff.1 proper
      exact Bool.and_eq_true_iff.2
        ⟨isDefinite_of_isProper first, areDefinite_of_areProper others⟩

end

mutual

theorem hasUnknown_of_isProper {type : Ty} (proper : type.isProper = true) :
    type.hasUnknown = false := by
  cases type with
  | unknown => cases proper
  | tuple items => exact anyUnknown_of_areProper proper
  | number | text | bool | displayable | function _ _ | native _ _ _ | bareNative => rfl

theorem anyUnknown_of_areProper {types : List Ty} (proper : areProper types = true) :
    anyUnknown types = false := by
  cases types with
  | nil => rfl
  | cons type types =>
      obtain ⟨first, others⟩ := Bool.and_eq_true_iff.1 proper
      exact Bool.or_eq_false_iff.2
        ⟨hasUnknown_of_isProper first, anyUnknown_of_areProper others⟩

end

end Ty

mutual

theorem WrittenType.isProper_type (written : WrittenType) : written.type.isProper = true := by
  cases written with
  | tuple items => exact WrittenType.areProper_types items
  | number | text | bool => rfl

theorem WrittenType.areProper_types (written : List WrittenType) :
    Ty.areProper (WrittenType.types written) = true := by
  cases written with
  | nil => rfl
  | cons item items =>
      exact Bool.and_eq_true_iff.2 ⟨item.isProper_type, WrittenType.areProper_types items⟩

end

namespace Typing

open Check

section Rules

variable {left right type : Ty}

theorem isProper_of_unaryType? {operator : UnaryOperator} {found : Ty}
    (typed : unaryType? operator found = some type) : type.isProper = true := by
  cases operator <;>
    simp only [unaryType?, Option.ite_none_right_eq_some, Option.some.injEq] at typed
  all_goals
    obtain ⟨_, rfl⟩ := typed
    rfl

theorem isProper_of_binaryType? {operator : BinaryOperator} (definite : left.isDefinite = true)
    (definiteRight : right.isDefinite = true)
    (typed : binaryType? operator left right = some type) : type.isProper = true := by
  have numeric : ∀ result, operatorTable operator = [(.number, .number, result)] →
      result.isProper = true → type.isProper = true := by
    intro result row proper
    obtain ⟨_, _, rfl⟩ := binaryType?_numbers definite definiteRight row typed
    exact proper
  cases operator with
  | equal | notEqual =>
      rw [binaryType?] at typed
      split at typed <;> cases typed
      rfl
  | add =>
      rcases binaryType?_add definite definiteRight typed with ⟨_, _, rfl⟩ | ⟨_, _, rfl⟩ <;> rfl
  | subtract | multiply | divide | greater | greaterEqual | less | lessEqual =>
      exact numeric _ rfl rfl

end Rules

/-- All types of names, returns and instances are proper.  The bodies of functions declare no
functions, and the frames that functions close over are below a given one. -/
structure State.Proper (base : FrameId) (state : State) : Prop where
  bound : state.scopes.All (·.isProper = true)
  returns : ∀ activation ∈ state.activations, ∀ entry ∈ activation.returns,
    entry.1.isProper = true
  instances : ∀ function ∈ state.functions, ∀ entry ∈ function.instances,
    entry.2.isProper = true
  bodies : ∀ function ∈ state.functions,
    function.body.isPlain = true ∧ function.body.isShaped = true ∧ function.closure < base

namespace State.Proper

variable {base : FrameId} {state after : State} {type : Ty}

/-- The same types are kept. -/
theorem congr (proper : state.Proper base) (scopes : after.scopes = state.scopes)
    (activations : after.activations = state.activations)
    (functions : after.functions = state.functions) : after.Proper base where
  bound := scopes ▸ proper.bound
  returns := activations ▸ proper.returns
  instances := functions ▸ proper.instances
  bodies := functions ▸ proper.bodies

theorem report (proper : state.Proper base) (diagnostic : Diagnostic) :
    (state.report diagnostic).Proper base := by
  unfold State.report
  split
  · exact proper
  · exact proper.congr rfl rfl rfl

theorem bind (proper : state.Proper base) (frame : FrameId) (name : String)
    (isProper : type.isProper = true) : (state.bind frame name type).Proper base :=
  { proper with bound := proper.bound.define frame name isProper }

theorem addReturn (proper : state.Proper base) (keyword : Token) (isProper : type.isProper = true) :
    (state.addReturn type keyword).Proper base := by
  have returns := proper.returns
  unfold State.addReturn
  cases shape : state.activations with
  | nil => exact proper
  | cons activation activations =>
      rw [shape] at returns
      obtain ⟨first, others⟩ := List.forall_mem_cons.1 returns
      exact
        { proper with
          returns := List.forall_mem_cons.2
            ⟨List.forall_mem_append.2 ⟨first, List.forall_mem_singleton.2 isProper⟩, others⟩ }

theorem nested (proper : state.Proper base) (frame : FrameId) : (state.nested frame).Proper base :=
  { proper with bound := proper.bound.nest frame }

theorem turn (proper : state.Proper base) (frame : FrameId) (name : String) :
    (state.turn frame name).Proper base :=
  { proper with
    bound := (proper.bound.nest frame).defineAll _ (List.forall_mem_singleton.2 rfl) }

theorem entered (proper : state.Proper base) (function : DeclaredFunction) {arguments : List Ty}
    (areProper : ∀ type ∈ arguments, type.isProper = true) :
    (AllKeep.entered state function arguments).Proper base :=
  { proper with
    bound := (proper.bound.nest function.closure).defineAll _ fun _ member =>
      areProper _ (List.of_mem_zip member).2 }

theorem begun (proper : state.Proper base) (function : DeclaredFunction) (identifier : Nat)
    {arguments : List Ty} (areProper : ∀ type ∈ arguments, type.isProper = true) :
    (state.begun function identifier arguments).Proper base :=
  { proper.entered function areProper with
    returns := List.forall_mem_cons.2 ⟨List.forall_mem_nil _, proper.returns⟩ }

theorem leave (proper : state.Proper base) :
    State.Proper base { state with activations := state.activations.tail } :=
  { proper with
    returns := fun activation member => proper.returns activation (List.mem_of_mem_tail member) }

theorem setInstance (proper : state.Proper base) (identifier : Nat) (key : InstanceKey)
    (isProper : type.isProper = true) : (state.setInstance identifier key type).Proper base := by
  have former : ∀ function ∈ (state.setInstance identifier key type).functions,
      ∃ before ∈ state.functions, function.body = before.body ∧ function.closure = before.closure ∧
        (function.instances = before.instances ∨
          function.instances = before.instances.set key type) := by
    intro function member
    obtain ⟨index, found⟩ := Array.mem_iff_getElem?.1 member
    rw [State.setInstance, Array.getElem?_modify] at found
    split at found
    · obtain ⟨before, wasFound, rfl⟩ := Option.map_eq_some_iff.1 found
      exact ⟨before, Array.mem_of_getElem? wasFound, rfl, rfl, .inr rfl⟩
    · exact ⟨function, Array.mem_of_getElem? found, rfl, rfl, .inl rfl⟩
  refine
    { proper with
      instances := fun function member entry isEntry => ?_
      bodies := fun function member => ?_ }
  · obtain ⟨before, wasMember, _, _, same | changed⟩ := former function member
    · exact proper.instances before wasMember entry (same ▸ isEntry)
    · rw [changed] at isEntry
      rcases Table.eq_or_mem_of_mem_set isEntry with old | rfl
      · exact proper.instances before wasMember entry old
      · exact isProper
  · obtain ⟨before, wasMember, same, sameClosure, _⟩ := former function member
    rw [same, sameClosure]
    exact proper.bodies before wasMember

end State.Proper

/-- No function is declared in a task. -/
def Task.IsPlain : Task → Prop
  | expression _ _ | expressions _ _ _ => True
  | statement _ stmt => stmt.isPlain = true
  | statements _ _ stmts => Stmt.arePlain stmts = true
  | block _ body => body.isPlain = true

/-- The parts of the work of a checker in which no function is declared, as long as this holds
of the bodies of functions. -/
def Part.IsPlain : Part → Prop
  | visit inner => inner.task.IsPlain
  | call _ _ _ _ _ _ => True
  | top _ _ _ _ _ _ _ | uncalled _ _ _ | programs _ _ _ _ => False

theorem Visit.Calls.isPlain {visit called : Visit} (calls : visit.Calls called)
    (plain : visit.task.IsPlain) : called.task.IsPlain := by
  cases calls with
  | assigned | inner | items | operand | left | right _ | logicalLeft | logicalRight _ | callee
  | arguments _ | item | otherItems _ | value | initializer | ifCondition | elseCondition
  | whileCondition | forStart | forStep _ _ | forStop _ _ | returned | blockTail _ => trivial
  | block | ifConsequent _ | whileBody _ | forBody _ _ _ | blockStatements => exact plain
  | elseConsequent _ | first => exact (Bool.and_eq_true_iff.1 plain).1
  | alternative _ _ | others _ => exact (Bool.and_eq_true_iff.1 plain).2

theorem Part.Calls.isPlain {part called : Part} (calls : part.Calls called)
    (plain : part.IsPlain) {base : FrameId} (proper : part.state.Proper base) : called.IsPlain := by
  cases calls with
  | walk calls _ => exact calls.isPlain plain
  | request _ _ _ => trivial
  | body inside =>
      cases inside with
      | @statements function opens =>
          have member := Array.mem_of_getElem? opens.found
          obtain ⟨plain, _⟩ := proper.bodies function member
          cases shape : function.body with
          | mk brace statements tail =>
              rw [shape] at plain
              exact plain
      | tail _ _ _ => trivial
  | first | others _ | unreached _ _ | reached _ _ | otherUncalled _ _ _ | statements
  | uncalled _ | otherPrograms _ => exact plain.elim

/-- All types that are kept are proper at all times, and no function is declared. -/
def properness (base : FrameId) : Course Stop State where
  later before after := after.functions.size = before.functions.size
  state := State.Proper base
  stop _ _ := True
  refl _ := rfl
  trans early late := late.trans early

/-- Where no function is declared, every step of a checker leads from proper types to proper
types. -/
theorem discipline_properness (base : FrameId) :
    Discipline Part.IsPlain (properness base) (·.isProper = true) where
  closed plain proper _ calls := calls.isPlain plain proper
  stops _ _ := trivial
  constant value := by cases value <;> rfl
  written := WrittenType.isProper_type
  bool := rfl
  unit := rfl
  tuple proper := Ty.areProper_iff.2 proper
  unary _ typed := isProper_of_unaryType? typed
  binary proper properRight typed :=
    isProper_of_binaryType? (Ty.isDefinite_of_isProper proper)
      (Ty.isDefinite_of_isProper properRight) typed
  native proper := proper
  unresolved proper open_ := by
    rw [Ty.anyUnknown_of_areProper (Ty.areProper_iff.2 proper)] at open_
    cases open_
  visible proper found := proper.bound.get? found
  cached proper found := by
    obtain ⟨function, declared, isResult⟩ := Option.bind_eq_some_iff.1 found
    exact proper.instances function (Array.mem_of_getElem? declared) _
      (Table.mem_of_get? isResult)
  returned proper member isEntry := proper.returns _ member _ isEntry
  report diagnostic proper :=
    ⟨by unfold State.report; split <;> rfl, proper.report diagnostic⟩
  note _ _ proper _ := ⟨rfl, proper.congr rfl rfl rfl⟩
  bind name _ _ _ proper isProper := ⟨rfl, proper.bind _ name isProper⟩
  declare plain _ := nomatch (show false = true from plain)
  addReturn keyword proper isProper :=
    ⟨by unfold State.addReturn; split <;> rfl, proper.addReturn keyword isProper⟩
  nested _ proper := ⟨rfl, proper.nested _⟩
  turn _ _ proper := ⟨rfl, proper.turn _ _⟩
  enter _ _ proper areProper :=
    ⟨⟨rfl, proper.entered _ areProper⟩, rfl, proper.begun _ _ areProper⟩
  leave _ _ _ _ _ proper := ⟨rfl, proper.leave⟩
  remember _ _ _ _ proper _ isProper _ _ _ :=
    ⟨Array.size_modify, proper.setInstance _ _ isProper⟩

end Typing

end CheckedScript
