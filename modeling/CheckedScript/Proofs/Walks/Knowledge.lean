import CheckedScript.Proofs.Anchors.Running
import CheckedScript.Proofs.Walks.Compliance
import CheckedScript.Run

/-!
# Unknown types stay out of calls

The unknown type stands for a parameter that no call has given a type.  As long as a checker
goes over the statements of a program, and into the bodies of the functions that they call,
all types that it keeps are known at every depth: operators and native functions lead from
known types to known types, no program can write the unknown type, and a call that is not
resolved is refused unless one of its arguments is unknown.
-/

namespace CheckedScript

/-- An entry of a table in which a key has been given a value. -/
theorem Table.eq_or_mem_of_mem_set {κ α : Type} [DecidableEq κ] {table : Table κ α} {key : κ}
    {value : α} {entry : κ × α} (member : entry ∈ table.set key value) :
    entry ∈ table ∨ entry = (key, value) := by
  induction table with
  | nil => exact .inr (List.mem_singleton.1 member)
  | cons first rest inductionHypothesis =>
      obtain ⟨present, old⟩ := first
      rw [Table.set] at member
      split at member
      · next same =>
          rcases List.mem_cons.1 member with rfl | later
          · exact .inr (same ▸ rfl)
          · exact .inl (List.mem_cons_of_mem _ later)
      · rcases List.mem_cons.1 member with rfl | later
        · exact .inl List.mem_cons_self
        · exact (inductionHypothesis later).imp_left (List.mem_cons_of_mem _)

namespace Ty

mutual

/-- Whether the unknown type occurs nowhere in a type, nor in the signatures in it. -/
def isKnown : Ty → Bool
  | unknown => false
  | tuple items => areKnown items
  | native _ parameters result => areKnown parameters && isKnown result
  | _ => true

/-- Whether the unknown type occurs nowhere in several types. -/
def areKnown : List Ty → Bool
  | [] => true
  | item :: items => isKnown item && areKnown items

end

theorem areKnown_iff {types : List Ty} :
    areKnown types = true ↔ ∀ type ∈ types, type.isKnown = true := by
  induction types with
  | nil => simp [areKnown]
  | cons type types inductionHypothesis => simp [areKnown, inductionHypothesis]

mutual

/-- A known type has no unknown part. -/
theorem hasUnknown_of_isKnown {type : Ty} (known : type.isKnown = true) :
    type.hasUnknown = false := by
  cases type with
  | unknown => cases known
  | tuple items => exact anyUnknown_of_areKnown known
  | number | text | bool | displayable | function _ _ | native _ _ _ | bareNative => rfl

theorem anyUnknown_of_areKnown {types : List Ty} (known : areKnown types = true) :
    anyUnknown types = false := by
  cases types with
  | nil => rfl
  | cons type types =>
      obtain ⟨first, others⟩ := Bool.and_eq_true_iff.1 known
      exact Bool.or_eq_false_iff.2
        ⟨hasUnknown_of_isKnown first, anyUnknown_of_areKnown others⟩

end

/-- A known type is compatible with a number or with a text, but not with both. -/
theorem not_compatible_both {type : Ty} (known : type.isKnown = true)
    (number : Ty.number.compatible type = true) : Ty.text.compatible type = false := by
  cases type with
  | unknown => cases known
  | number => rfl
  | text | bool | displayable | tuple _ | function _ _ | native _ _ _ | bareNative =>
      simp [compatible] at number

end Ty

mutual

/-- A program writes known types only. -/
theorem WrittenType.isKnown_type (written : WrittenType) : written.type.isKnown = true := by
  cases written with
  | tuple items => exact WrittenType.areKnown_types items
  | number | text | bool => rfl

theorem WrittenType.areKnown_types (written : List WrittenType) :
    Ty.areKnown (WrittenType.types written) = true := by
  cases written with
  | nil => rfl
  | cons item items =>
      exact Bool.and_eq_true_iff.2 ⟨item.isKnown_type, WrittenType.areKnown_types items⟩

end

namespace Typing

open Check

section Rules

variable {left right type : Ty}

/-- The result of an operator is known if it is the only one. -/
theorem isKnown_of_possibleResults {operator : BinaryOperator}
    (possible : type ∈ possibleResults operator left right) : type.isKnown = true := by
  obtain ⟨⟨_, _, result⟩, kept, rfl⟩ := List.mem_map.1 possible
  have listed := (List.mem_filter.1 kept).1
  cases operator <;> simp only [operatorTable, List.mem_cons, List.not_mem_nil, or_false,
    Prod.mk.injEq] at listed
  case add => rcases listed with ⟨_, _, rfl⟩ | ⟨_, _, rfl⟩ <;> rfl
  all_goals
    obtain ⟨_, _, rfl⟩ := listed
    rfl

/-- A known operand leaves at most one result possible. -/
theorem length_possibleResults_le (operator : BinaryOperator) (known : left.isKnown = true) :
    (possibleResults operator left right).length ≤ 1 := by
  have single : ∀ entries : List (Ty × Ty × Ty), entries.length ≤ 1 →
      ((entries.filter fun entry =>
        entry.1.compatible left && entry.2.1.compatible right).map (·.2.2)).length ≤ 1 := by
    intro entries short
    rw [List.length_map]
    exact Nat.le_trans (List.length_filter_le _ _) short
  cases operator with
  | add =>
      rw [possibleResults, List.length_map, operatorTable, ← List.countP_eq_length_filter]
      by_cases number : Ty.number.compatible left = true
      · simp [List.countP_cons, Ty.not_compatible_both known number]
        split <;> omega
      · simp [List.countP_cons, number]
        split <;> omega
  | subtract | multiply | divide | greater | greaterEqual | less | lessEqual | equal | notEqual =>
      exact single _ (by simp [operatorTable])

theorem isKnown_of_binaryType? {operator : BinaryOperator} (known : left.isKnown = true)
    (typed : binaryType? operator left right = some type) : type.isKnown = true := by
  unfold binaryType? at typed
  split at typed
  case h_3 =>
    have few : (possibleResults operator left right).length ≤ 1 :=
      length_possibleResults_le operator known
    split at typed
    · cases typed
    · next result only =>
        cases typed
        exact isKnown_of_possibleResults (by rw [only]; exact List.mem_singleton_self _)
    · next others many =>
        -- There cannot be two results.
        cases results : possibleResults operator left right with
        | nil => exact absurd results ‹_›
        | cons first rest =>
            cases rest with
            | nil => exact absurd results (many first)
            | cons second rest =>
                rw [results] at few
                simp at few
  all_goals
    split at typed <;> cases typed
    rfl

theorem isKnown_of_unaryType? {operator : UnaryOperator} {found : Ty}
    (typed : unaryType? operator found = some type) : type.isKnown = true := by
  cases operator <;>
    simp only [unaryType?, Option.ite_none_right_eq_some, Option.some.injEq] at typed
  all_goals
    obtain ⟨_, rfl⟩ := typed
    rfl

end Rules

/-- All types that a state keeps are known: those of names, of expressions, of arguments and
returns in progress, and those of instances with their arguments. -/
structure State.Known (state : State) : Prop where
  bound : state.scopes.All (·.isKnown = true)
  noted : ∀ note ∈ state.types, note.2.2.isKnown = true
  arguments : ∀ activation ∈ state.activations, ∀ type ∈ activation.arguments, type.isKnown = true
  returns : ∀ activation ∈ state.activations, ∀ entry ∈ activation.returns,
    entry.1.isKnown = true
  instances : ∀ function ∈ state.functions, ∀ entry ∈ function.instances,
    (∀ type ∈ entry.1.1, type.isKnown = true) ∧ entry.2.isKnown = true

namespace State.Known

variable {state after : State} {type : Ty}

/-- The same types are kept. -/
theorem congr (known : state.Known) (scopes : after.scopes = state.scopes)
    (types : after.types = state.types) (activations : after.activations = state.activations)
    (functions : after.functions = state.functions) : after.Known where
  bound := scopes ▸ known.bound
  noted := types ▸ known.noted
  arguments := activations ▸ known.arguments
  returns := activations ▸ known.returns
  instances := functions ▸ known.instances

theorem report (known : state.Known) (diagnostic : Diagnostic) :
    (state.report diagnostic).Known := by
  unfold State.report
  split
  · exact known
  · exact known.congr rfl rfl rfl rfl

theorem note (known : state.Known) (place : Place) (expr : Expr) (isKnown : type.isKnown = true) :
    (state.note place expr type).Known :=
  { known with
    noted := fun note member => by
      rcases Table.eq_or_mem_of_mem_set member with old | rfl
      · exact known.noted note old
      · exact isKnown }

theorem bind (known : state.Known) (frame : FrameId) (name : String)
    (isKnown : type.isKnown = true) : (state.bind frame name type).Known :=
  { known with bound := known.bound.define frame name isKnown }

/-- A declared function has a type of its own, and no instances yet. -/
theorem declare (known : state.Known) (frame : FrameId) (place : Place) (name : Token)
    (parameters : List Token) (body : Block) :
    (state.declare frame place name parameters body).Known :=
  { known with
    bound := (known.bound.nest frame).define _ _ rfl
    instances := fun function member => by
      rcases Array.mem_push.1 member with old | rfl
      · exact known.instances function old
      · exact List.forall_mem_nil _ }

theorem addReturn (known : state.Known) (keyword : Token) (isKnown : type.isKnown = true) :
    (state.addReturn type keyword).Known := by
  have arguments := known.arguments
  have returns := known.returns
  unfold State.addReturn
  cases shape : state.activations with
  | nil => exact known
  | cons activation activations =>
      rw [shape] at arguments returns
      obtain ⟨first, others⟩ := List.forall_mem_cons.1 returns
      exact
        { known with
          arguments := List.forall_mem_cons.2 (List.forall_mem_cons.1 arguments)
          returns := List.forall_mem_cons.2
            ⟨List.forall_mem_append.2 ⟨first, List.forall_mem_singleton.2 isKnown⟩, others⟩ }

theorem nested (known : state.Known) (frame : FrameId) : (state.nested frame).Known :=
  { known with bound := known.bound.nest frame }

theorem turn (known : state.Known) (frame : FrameId) (name : String) :
    (state.turn frame name).Known :=
  { known with
    bound := (known.bound.nest frame).defineAll _ (List.forall_mem_singleton.2 rfl) }

theorem entered (known : state.Known) (function : DeclaredFunction) {arguments : List Ty}
    (areKnown : ∀ type ∈ arguments, type.isKnown = true) :
    (AllKeep.entered state function arguments).Known :=
  { known with
    bound := (known.bound.nest function.closure).defineAll _ fun _ member =>
      areKnown _ (List.of_mem_zip member).2 }

theorem begun (known : state.Known) (function : DeclaredFunction) (identifier : Nat)
    {arguments : List Ty} (areKnown : ∀ type ∈ arguments, type.isKnown = true) :
    (state.begun function identifier arguments).Known :=
  { known.entered function areKnown with
    arguments := List.forall_mem_cons.2 ⟨areKnown, known.arguments⟩
    returns := List.forall_mem_cons.2 ⟨List.forall_mem_nil _, known.returns⟩ }

theorem leave (known : state.Known) :
    State.Known { state with activations := state.activations.tail } :=
  { known with
    arguments := fun activation member => known.arguments activation (List.mem_of_mem_tail member)
    returns := fun activation member => known.returns activation (List.mem_of_mem_tail member) }

theorem setInstance (known : state.Known) (identifier : Nat) {key : InstanceKey}
    (areKnown : ∀ type ∈ key.1, type.isKnown = true) (isKnown : type.isKnown = true) :
    (state.setInstance identifier key type).Known :=
  { known with
    instances := fun function member => by
      obtain ⟨index, found⟩ := Array.mem_iff_getElem?.1 member
      rw [State.setInstance, Array.getElem?_modify] at found
      split at found
      · cases shape : state.functions[index]? with
        | none => simp [shape] at found
        | some before =>
            simp only [shape, Option.map_some, Option.some.injEq] at found
            subst found
            intro entry isEntry
            rcases Table.eq_or_mem_of_mem_set isEntry with old | rfl
            · exact known.instances before (Array.mem_of_getElem? shape) entry old
            · exact ⟨areKnown, isKnown⟩
      · exact known.instances function (Array.mem_of_getElem? found) }

end State.Known

/-- All that is kept is known at all times. -/
def knowledge : Course Stop State where
  later _ _ := True
  state := State.Known
  stop _ _ := True
  refl _ := trivial
  trans _ _ := trivial

/-- Every step of a checker leads from known types to known types. -/
theorem discipline_knowledge : Discipline (fun _ => True) knowledge (·.isKnown = true) where
  closed _ _ _ _ := trivial
  stops _ _ := trivial
  constant value := by cases value <;> rfl
  written := WrittenType.isKnown_type
  bool := rfl
  unit := rfl
  tuple known := Ty.areKnown_iff.2 known
  unary _ typed := isKnown_of_unaryType? typed
  binary known _ typed := isKnown_of_binaryType? known typed
  native known := (Bool.and_eq_true_iff.1 known).2
  unresolved known open_ := by
    rw [Ty.anyUnknown_of_areKnown (Ty.areKnown_iff.2 known)] at open_
    cases open_
  visible known found := known.bound.get? found
  cached known found := by
    obtain ⟨function, declared, isResult⟩ := Option.bind_eq_some_iff.1 found
    exact (known.instances function (Array.mem_of_getElem? declared) _
      (Table.mem_of_get? isResult)).2
  returned known member isEntry := known.returns _ member _ isEntry
  report diagnostic known := ⟨trivial, known.report diagnostic⟩
  note _ _ known isKnown := ⟨trivial, known.note _ _ isKnown⟩
  bind name _ _ _ known isKnown := ⟨trivial, known.bind _ name isKnown⟩
  declare _ known := ⟨trivial, known.declare _ _ _ _ _⟩
  addReturn keyword known isKnown := ⟨trivial, known.addReturn keyword isKnown⟩
  nested _ known := ⟨trivial, known.nested _⟩
  turn _ _ known := ⟨trivial, known.turn _ _⟩
  enter _ _ known areKnown :=
    ⟨⟨trivial, known.entered _ areKnown⟩, trivial, known.begun _ _ areKnown⟩
  leave _ _ _ _ _ known := ⟨trivial, known.leave⟩
  remember _ _ _ _ known areKnown isKnown _ _ _ :=
    ⟨trivial, known.setInstance _ areKnown isKnown⟩

/-- The part of the work of a new checker in which it goes over the statements of a program,
before it turns to the functions that no call has reached. -/
def Part.statementsOf (bound : Nat) (natives : Bindings Signature) (program : Program) : Part :=
  .top bound ({} : State).next (({} : State).opened natives) (.root 0) 0 .unit program

section Statements

variable {bound : Nat} {natives : Bindings Signature} {program : Program}

theorem State.known_opened (known : ∀ native ∈ natives, native.2.type.isKnown = true) :
    (({} : State).opened natives).Known where
  bound := by
    have root : (({} : State).scopes.addRoot.2).All fun type => type.isKnown = true :=
      Scopes.All.add (fun _ member => absurd member (Array.not_mem_empty _)) _
    refine root.defineAll _ fun binding member => ?_
    obtain ⟨native, isNative, rfl⟩ := List.mem_map.1 member
    exact known native isNative
  noted := List.forall_mem_nil _
  arguments := List.forall_mem_nil _
  returns := List.forall_mem_nil _
  instances _ member := absurd member (Array.not_mem_empty _)

/-- While the statements of a program are checked, all types are known. -/
theorem Part.Passes.known (known : ∀ native ∈ natives, native.2.type.isKnown = true)
    {state : State} (passes : (Part.statementsOf bound natives program).Passes state) :
    state.Known :=
  ((discipline_knowledge.top trivial (State.known_opened known)).since state passes).2

/-- A part of the check of the statements of a program. -/
def Part.IsEarly : Part → Prop
  | visit _ | call _ _ _ _ _ _ | top _ _ _ _ _ _ _ => True
  | uncalled _ _ _ | programs _ _ _ _ => False

theorem Part.Calls.isEarly {part called : Part} (calls : part.Calls called)
    (early : part.IsEarly) : called.IsEarly := by
  cases calls with
  | walk | request | body | first | others => trivial
  | unreached | reached | otherUncalled | statements | uncalled | otherPrograms => exact early.elim

theorem Part.Reaches.isEarly {part : Part}
    (reaches : (Part.statementsOf bound natives program).Reaches part) : part.IsEarly := by
  induction reaches with
  | refl => trivial
  | tail _ calls inductionHypothesis => exact calls.isEarly inductionHypothesis

/-- While the statements of a program are checked, functions are called with known types. -/
theorem Part.Reaches.known_arguments
    (known : ∀ native ∈ natives, native.2.type.isKnown = true) {fuel : Nat} {state : State}
    {name : String} {identifier : Nat} {arguments : List Ty} {anchor : Token}
    (reaches : (Part.statementsOf bound natives program).Reaches
      (.call fuel state name identifier arguments anchor)) :
    ∀ type ∈ arguments, type.isKnown = true := by
  rcases Relation.ReflTransGen.cases_tail reaches with same | ⟨part, earlier, calls⟩
  · cases same
  · cases calls with
    | request callee arguments _ =>
        have items := earlier.tail (.walk (.arguments callee) rfl)
        have begun := Part.Passes.known known ⟨_, items, .inl rfl⟩
        exact (((discipline_knowledge.checksTell _).typesOf trivial begun).ends.of_ok
          arguments).2.2
    | unreached => exact (Part.Reaches.isEarly earlier).elim

end Statements

end Typing

end CheckedScript
