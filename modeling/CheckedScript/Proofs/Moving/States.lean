import CheckedScript.Proofs.Moving.Computations
import CheckedScript.Proofs.Moving.Scopes
import CheckedScript.Proofs.Moving.Trees
import CheckedScript.Proofs.Moving.Types
import CheckedScript.Typing.State
import Mathlib.Data.List.Basic
import Mathlib.Data.Prod.Basic

/-!
# Moved states of a check

A relocation puts a check behind another one that has come to rest: frames,
functions, generations and programs are numbered on from where the earlier check
has stopped, its notes stand behind the earlier notes, and a diagnostic is left out
if the earlier check has reported one with the same key.  At the same time all
tokens may be moved.
-/

namespace CheckedScript

namespace Typing

namespace Place

/-- The steps to a node, with another number of the program. -/
def raiseLast (offset : Nat) : List Nat → List Nat
  | [] => []
  | [program] => [program + offset]
  | step :: next :: steps => step :: raiseLast offset (next :: steps)

theorem raiseLast_cons (offset step : Nat) {steps : List Nat} (rooted : steps ≠ []) :
    raiseLast offset (step :: steps) = step :: raiseLast offset steps := by
  cases steps with
  | nil => exact absurd rfl rooted
  | cons next steps => rfl

theorem raiseLast_injective (offset : Nat) : (raiseLast offset).Injective := by
  intro first
  induction first with
  | nil =>
      intro second same
      match second with
      | [] => rfl
      | [_] | _ :: _ :: _ => cases same
  | cons step steps inductionHypothesis =>
      intro second same
      match steps, second with
      | [], [] => cases same
      | [], [program] => simpa [raiseLast] using same
      | [], _ :: other :: others =>
          simp only [raiseLast, List.cons.injEq] at same
          cases others <;> simp [raiseLast] at same
      | next :: steps, [] => cases same
      | next :: steps, [program] =>
          simp only [raiseLast, List.cons.injEq] at same
          cases steps <;> simp [raiseLast] at same
      | next :: steps, program :: other :: others =>
          simp only [raiseLast, List.cons.injEq] at same
          rw [same.1, inductionHypothesis same.2]

/-- The place in a program with another number. -/
def raise (offset : Nat) (place : Place) : Place where
  depth := place.depth
  steps := raiseLast offset place.steps

theorem raise_injective (offset : Nat) : (raise offset).Injective := by
  rintro ⟨depth, steps⟩ ⟨otherDepth, otherSteps⟩ same
  simp only [raise, mk.injEq] at same
  rw [same.1, raiseLast_injective offset same.2]

/-- A place within some program. -/
def Rooted (place : Place) : Prop :=
  place.steps ≠ []

/-- A place within one of the first programs. -/
def Within (limit : Nat) (place : Place) : Prop :=
  ∃ program, place.steps.getLast? = some program ∧ program < limit

theorem within_root {limit program : Nat} (lower : program < limit) : (root program).Within limit :=
  ⟨program, rfl, lower⟩

variable {limit : Nat} {place : Place}

theorem Within.rooted (within : place.Within limit) : place.Rooted := by
  obtain ⟨program, last, _⟩ := within
  rintro none
  rw [none] at last
  cases last

theorem Within.succ (within : place.Within limit) : place.Within (limit + 1) := by
  obtain ⟨program, last, lower⟩ := within
  exact ⟨program, last, Nat.lt_succ_of_lt lower⟩

theorem Within.child (within : place.Within limit) (step : Nat) :
    (place.child step).Within limit := by
  obtain ⟨program, last, lower⟩ := within
  exact ⟨program, by simp [Place.child, List.getLast?_cons, last], lower⟩

theorem raise_child (offset : Nat) (within : place.Within limit) (step : Nat) :
    (place.raise offset).child step = (place.child step).raise offset := by
  simp only [raise, Place.child, raiseLast_cons offset step within.rooted]

end Place

/-- How a check is put behind another one that has come to rest. -/
structure Relocation where
  /-- Where tokens are moved to. -/
  moved : Position → Position
  injective : moved.Injective
  /-- The state in which the earlier check has come to rest. -/
  front : State
  /-- The earlier check has left no notes on later programs. -/
  unnoted : ∀ place : Place, place.Rooted → front.types.get? (place.raise front.programs) = none
  /-- The number of programs up to which the later check goes. -/
  limit : Nat

namespace Relocation

/-- Tokens are moved, and there is no earlier check. -/
def ofMove {moved : Position → Position} (injective : moved.Injective) (limit : Nat) :
    Relocation where
  moved := moved
  injective := injective
  front := {}
  unnoted _ _ := rfl
  limit := limit

variable (relocation : Relocation)

/-- Where a frame is moved to. -/
def frame (frame : FrameId) : FrameId :=
  frame + relocation.front.scopes.frames.size

/-- What a function is renamed to. -/
def identifier (identifier : Nat) : Nat :=
  identifier + relocation.front.functions.size

/-- A type with renamed functions. -/
def type : Ty → Ty :=
  Ty.rename relocation.identifier

/-- A place in a later program. -/
def place : Place → Place :=
  Place.raise relocation.front.programs

/-- Types and the generation in which they were met. -/
def key : InstanceKey → InstanceKey :=
  Prod.map (List.map relocation.type) (· + relocation.front.generation)

def function (function : DeclaredFunction) : DeclaredFunction where
  name := function.name.move relocation.moved
  parameters := function.parameters.map (Token.move relocation.moved)
  body := function.body.move relocation.moved
  place := relocation.place function.place
  closure := relocation.frame function.closure
  instances := Table.change relocation.key relocation.type function.instances

def returned : Ty × Token → Ty × Token :=
  Prod.map relocation.type (Token.move relocation.moved)

def activation (activation : Activation) : Activation where
  function := relocation.identifier activation.function
  arguments := activation.arguments.map relocation.type
  returns := activation.returns.map relocation.returned

/-- The earlier check has reported a diagnostic with the same key. -/
def isKnown (diagnostic : Diagnostic) : Bool :=
  relocation.front.diagnostics.any fun known => known.key = diagnostic.key

def diagnostics (diagnostics : List Diagnostic) : List Diagnostic :=
  relocation.front.diagnostics ++
    (diagnostics.map (Diagnostic.move relocation.moved)).filter (!relocation.isKnown ·)

/-- A state of the check, put behind the earlier one. -/
def state (state : State) : State where
  scopes := Scopes.behind relocation.front.scopes relocation.type state.scopes
  diagnostics := relocation.diagnostics state.diagnostics
  types := relocation.front.types ++
    Table.change relocation.place (Prod.map (Expr.move relocation.moved) relocation.type)
      state.types
  functions := relocation.front.functions ++ state.functions.map relocation.function
  activations := state.activations.map relocation.activation
  generation := state.generation + relocation.front.generation
  programs := state.programs + relocation.front.programs

theorem identifier_injective : relocation.identifier.Injective :=
  fun _ _ same => Nat.add_right_cancel same

theorem type_injective : relocation.type.Injective :=
  Ty.rename_injective relocation.identifier_injective

@[simp]
theorem describe_type (type : Ty) : (relocation.type type).describe = type.describe :=
  Ty.describe_rename _ type

theorem compatible_type (left right : Ty) :
    (relocation.type left).compatible (relocation.type right) = left.compatible right :=
  Ty.compatible_rename relocation.identifier_injective left right

theorem type_of_isClosed {type : Ty} (closed : type.isClosed = true) :
    relocation.type type = type :=
  Ty.rename_of_isClosed _ closed

theorem bool_compatible_type (type : Ty) :
    Ty.bool.compatible (relocation.type type) = Ty.bool.compatible type :=
  relocation.compatible_type .bool type

theorem number_compatible_type (type : Ty) :
    Ty.number.compatible (relocation.type type) = Ty.number.compatible type :=
  relocation.compatible_type .number type

theorem key_injective : relocation.key.Injective :=
  (List.map_injective_iff.2 relocation.type_injective).prodMap
    fun _ _ same => Nat.add_right_cancel same

/-- A diagnostic is there if the earlier check has reported it, or the later one. -/
theorem any_diagnostics (diagnostics : List Diagnostic) (diagnostic : Diagnostic) :
    ((relocation.diagnostics diagnostics).any fun known =>
        known.key = (diagnostic.move relocation.moved).key) =
      (relocation.isKnown (diagnostic.move relocation.moved) ||
        diagnostics.any fun known => known.key = diagnostic.key) := by
  rw [Relocation.diagnostics, List.any_append]
  change (relocation.isKnown (diagnostic.move relocation.moved) || _) = _
  cases isKnown : relocation.isKnown (diagnostic.move relocation.moved) with
  | true => rfl
  | false =>
      rw [Bool.false_or, Bool.false_or, List.any_filter, List.any_map]
      congr 1
      funext known
      have keys := Diagnostic.key_move_inj relocation.injective known diagnostic
      by_cases same : known.key = diagnostic.key
      · have isNew : relocation.isKnown (known.move relocation.moved) = false := by
          rw [← isKnown, Relocation.isKnown, Relocation.isKnown, keys.2 same]
        simp [same, keys, isNew]
      · simp [same, keys]

theorem report_state (state : State) (diagnostic : Diagnostic) :
    (relocation.state state).report (diagnostic.move relocation.moved) =
      relocation.state (state.report diagnostic) := by
  have found := relocation.any_diagnostics state.diagnostics diagnostic
  change (if (relocation.diagnostics state.diagnostics).any _ = true then _ else _) = _
  rw [found, State.report]
  cases reported : state.diagnostics.any fun known => known.key = diagnostic.key with
  | true => simp
  | false =>
      cases isKnown : relocation.isKnown (diagnostic.move relocation.moved) with
      | true => simp [Relocation.state, Relocation.diagnostics, isKnown]
      | false => simp [Relocation.state, Relocation.diagnostics, isKnown]

theorem reports_state (state : State) (diagnostics : List Diagnostic) :
    (diagnostics.map (Diagnostic.move relocation.moved)).foldl State.report
        (relocation.state state) =
      relocation.state (diagnostics.foldl State.report state) := by
  induction diagnostics generalizing state with
  | nil => rfl
  | cons diagnostic diagnostics inductionHypothesis =>
      rw [List.map_cons, List.foldl_cons, report_state, inductionHypothesis, List.foldl_cons]

theorem get?_state (state : State) (frame : FrameId) (name : String) :
    (relocation.state state).scopes.get? (relocation.frame frame) name =
      (state.scopes.get? frame name).map relocation.type :=
  Scopes.get?_behind _ _ _ frame name

theorem bind_state (state : State) (frame : FrameId) (name : String) (type : Ty) :
    (relocation.state state).bind (relocation.frame frame) name (relocation.type type) =
      relocation.state (state.bind frame name type) := by
  have defined :=
    Scopes.define_behind relocation.front.scopes relocation.type state.scopes frame name type
  unfold State.bind
  rw [get?_state, Option.isSome_map]
  simp only [Relocation.state, Relocation.frame, defined]
  congr 1
  split <;> omega

theorem nest_state (state : State) (frame : FrameId) :
    (relocation.state state).scopes.nest (relocation.frame frame) =
      (relocation.frame (state.scopes.nest frame).1,
        (relocation.state { state with scopes := (state.scopes.nest frame).2 }).scopes) :=
  Scopes.nest_behind _ _ _ frame

theorem defineAll_state (state : State) (frame : FrameId) (bindings : Bindings Ty) :
    (relocation.state state).scopes.defineAll (relocation.frame frame)
        (Table.change id relocation.type bindings) =
      (relocation.state { state with scopes := state.scopes.defineAll frame bindings }).scopes :=
  Scopes.defineAll_behind _ _ _ frame bindings

theorem note_state (state : State) {place : Place} (rooted : place.Rooted) (expr : Expr)
    (type : Ty) :
    (relocation.state state).note (relocation.place place) (expr.move relocation.moved)
        (relocation.type type) =
      relocation.state (state.note place expr type) := by
  have behind := Table.set_append (relocation.unnoted place rooted)
    (Table.change relocation.place (Prod.map (Expr.move relocation.moved) relocation.type)
      state.types) (expr.move relocation.moved, relocation.type type)
  have changed := Table.set_change (Place.raise_injective relocation.front.programs)
    (Prod.map (Expr.move relocation.moved) relocation.type) state.types place (expr, type)
  unfold State.note Relocation.state
  congr 1
  exact behind.trans (congrArg (relocation.front.types ++ ·) changed)

theorem size_functions_state (state : State) :
    (relocation.state state).functions.size = relocation.identifier state.functions.size := by
  simp [Relocation.state, Relocation.identifier, Nat.add_comm]

theorem getElem?_functions_state (state : State) (identifier : Nat) :
    (relocation.state state).functions[relocation.identifier identifier]? =
      state.functions[identifier]?.map relocation.function := by
  change (relocation.front.functions ++ state.functions.map relocation.function)[_]? = _
  rw [Relocation.identifier, Array.getElem?_append_right (Nat.le_add_left _ _),
    Nat.add_sub_cancel, Array.getElem?_map]

theorem declare_state (state : State) (frame : FrameId) {place : Place} (name : Token)
    (parameters : List Token) (body : Block) :
    (relocation.state state).declare (relocation.frame frame) (relocation.place place)
        (name.move relocation.moved) (parameters.map (Token.move relocation.moved))
        (body.move relocation.moved) =
      relocation.state (state.declare frame place name parameters body) := by
  unfold State.declare
  dsimp only
  rw [← bind_state, nest_state, size_functions_state]
  congr 1
  simp [Relocation.state, Relocation.function]

theorem addReturn_state (state : State) (type : Ty) (keyword : Token) :
    (relocation.state state).addReturn (relocation.type type) (keyword.move relocation.moved) =
      relocation.state (state.addReturn type keyword) := by
  unfold State.addReturn
  cases shape : state.activations with
  | nil => simp [Relocation.state, shape]
  | cons activation activations =>
      simp [Relocation.state, shape, Relocation.activation, Relocation.returned]

theorem setInstance_state (state : State) (identifier : Nat) (key : InstanceKey) (result : Ty) :
    (relocation.state state).setInstance (relocation.identifier identifier) (relocation.key key)
        (relocation.type result) =
      relocation.state (state.setInstance identifier key result) := by
  unfold State.setInstance Relocation.state
  congr 1
  rw [Relocation.identifier, Scopes.modify_append_right]
  congr 1
  apply Array.ext_getElem?
  intro other
  rw [Array.getElem?_modify, Array.getElem?_map, Array.getElem?_map, Array.getElem?_modify]
  split
  · cases state.functions[other]? with
    | none => rfl
    | some found =>
        simp only [Option.map_some, Relocation.function,
          Table.set_change relocation.key_injective]
  · rfl

theorem declaration_state (state : State) (name : String) (identifier : Nat) :
    declaration (relocation.state state).functions name (relocation.identifier identifier) =
      (declaration state.functions name identifier).map relocation.function := by
  unfold declaration
  rw [getElem?_functions_state]
  cases state.functions[identifier]? <;> rfl

theorem arity_state (state : State) (name : String) (identifier : Nat) :
    arity (relocation.state state).functions name (relocation.identifier identifier) =
      arity state.functions name identifier := by
  unfold arity
  rw [declaration_state]
  cases declaration state.functions name identifier with
  | error fault => rfl
  | ok found => simp [Except.map, Relocation.function]

theorem returnMismatches_state (name : String) (result : Ty) (returns : List (Ty × Token)) :
    returnMismatches name (relocation.type result) (returns.map relocation.returned) =
      (returnMismatches name result returns).map (Diagnostic.move relocation.moved) := by
  simp only [returnMismatches, List.filter_map, List.map_map]
  congr 1
  · funext entry
    simp [Relocation.returned, Diagnostic.move]
  · congr 1
    funext entry
    simp [Relocation.returned, relocation.compatible_type]

end Relocation

namespace State

/-- The state in which the statements of a program are checked: the native functions
are bound in a new root frame. -/
def opened (state : State) (natives : Bindings Signature) : State :=
  { state with
    scopes := state.scopes.addRoot.2.defineAll state.scopes.addRoot.1
      (natives.map fun native => (native.1, native.2.type))
    programs := state.programs + 1 }

/-- All declarations and notes are about the programs so far, and no two diagnostics
have the same key. -/
structure Tidy (limit : Nat) (state : State) : Prop where
  functions : ∀ (identifier : Nat) (function : DeclaredFunction),
    state.functions[identifier]? = some function → function.place.Within limit
  types : ∀ (place : Place) (note : Expr × Ty),
    state.types.get? place = some note → place.Within limit
  apart : (state.diagnostics.map Diagnostic.key).Nodup
  programs : state.programs = limit

namespace Tidy

variable {limit : Nat} {state other : State}

theorem of_same (tidy : state.Tidy limit)
    (same : (other.functions, other.types, other.diagnostics, other.programs) =
      (state.functions, state.types, state.diagnostics, state.programs)) : other.Tidy limit := by
  simp only [Prod.mk.injEq] at same
  obtain ⟨functions, types, diagnostics, programs⟩ := same
  exact ⟨functions ▸ tidy.functions, types ▸ tidy.types, diagnostics ▸ tidy.apart,
    programs ▸ tidy.programs⟩

/-- Nothing has been checked. -/
theorem new : ({} : State).Tidy 0 where
  functions _ _ found := by simp at found
  types _ _ found := by cases found
  apart := .nil
  programs := rfl

/-- The next program is about to be checked. -/
theorem opened (tidy : state.Tidy limit) (natives : Bindings Signature) :
    (state.opened natives).Tidy (limit + 1) where
  functions identifier function found := (tidy.functions identifier function found).succ
  types place note found := (tidy.types place note found).succ
  apart := tidy.apart
  programs := congrArg (· + 1) tidy.programs

theorem report (tidy : state.Tidy limit) (diagnostic : Diagnostic) :
    (state.report diagnostic).Tidy limit := by
  unfold State.report
  split
  · exact tidy
  · next isNew =>
      refine { tidy with apart := ?_ }
      rw [List.map_append, List.nodup_append]
      refine ⟨tidy.apart, by simp, fun key member other isNewKey same => isNew ?_⟩
      obtain ⟨known, isKnown, rfl⟩ := List.mem_map.1 member
      obtain rfl := List.mem_singleton.1 isNewKey
      exact List.any_eq_true.2 ⟨known, isKnown, decide_eq_true same⟩

theorem reports (tidy : state.Tidy limit) (diagnostics : List Diagnostic) :
    (diagnostics.foldl State.report state).Tidy limit := by
  induction diagnostics generalizing state with
  | nil => exact tidy
  | cons diagnostic diagnostics inductionHypothesis =>
      exact inductionHypothesis (tidy.report diagnostic)

theorem addReturn (tidy : state.Tidy limit) (type : Ty) (keyword : Token) :
    (state.addReturn type keyword).Tidy limit := by
  unfold State.addReturn
  split
  · exact tidy
  · exact tidy.of_same rfl

theorem note (tidy : state.Tidy limit) {place : Place} (within : place.Within limit)
    (expr : Expr) (type : Ty) : (state.note place expr type).Tidy limit := by
  refine { tidy with types := fun noted note found => ?_ }
  change (state.types.set place (expr, type)).get? noted = some note at found
  rw [Table.get?_set] at found
  split at found
  · next same => exact same ▸ within
  · exact tidy.types noted note found

theorem declare (tidy : state.Tidy limit) (frame : FrameId) {place : Place}
    (within : place.Within limit) (name : Token) (parameters : List Token) (body : Block) :
    (state.declare frame place name parameters body).Tidy limit := by
  refine { tidy with functions := fun identifier function found => ?_ }
  change (state.functions.push _)[identifier]? = some function at found
  rw [Array.getElem?_push] at found
  split at found
  · cases found
    exact within
  · exact tidy.functions identifier function found

theorem setInstance (tidy : state.Tidy limit) (identifier : Nat) (key : InstanceKey)
    (result : Ty) : (state.setInstance identifier key result).Tidy limit := by
  refine { tidy with functions := fun other function found => ?_ }
  change (state.functions.modify identifier _)[other]? = some function at found
  rw [Array.getElem?_modify] at found
  split at found
  · obtain ⟨former, isFormer, rfl⟩ := Option.map_eq_some_iff.1 found
    exact tidy.functions other former isFormer
  · exact tidy.functions other function found

end Tidy

end State

/-- A reason to stop with moved tokens. -/
def Stop.move (moved : Position → Position) : Stop → Stop
  | failed diagnostic => failed (diagnostic.move moved)
  | reported => reported
  | faulted fault => faulted fault
  | exhausted => exhausted

/-- Native functions whose signatures mention no function of a program are bound
alike. -/
theorem Relocation.opened_state (relocation : Relocation) (state : State)
    {natives : Bindings Signature}
    (fixed : ∀ native ∈ natives, relocation.type native.2.type = native.2.type) :
    (relocation.state state).opened natives = relocation.state (state.opened natives) := by
  have bindings : natives.map (fun native => (native.1, native.2.type)) =
      Table.change id relocation.type (natives.map fun native => (native.1, native.2.type)) := by
    rw [Table.change, List.map_map]
    refine List.map_congr_left fun native member => ?_
    exact congrArg (Prod.mk native.1) (fixed native member).symm
  have root : (relocation.state state).scopes.addRoot =
      (relocation.frame state.scopes.addRoot.1,
        (relocation.state { state with scopes := state.scopes.addRoot.2 }).scopes) :=
    Scopes.addRoot_behind _ _ _
  unfold State.opened
  rw [root, bindings, relocation.defineAll_state, ← bindings]
  simp [Relocation.state, Nat.add_right_comm]

/-- Everything is put behind the earlier check. -/
def Relocation.motion (relocation : Relocation) : Motion Stop State where
  stop := Stop.move relocation.moved
  state := relocation.state
  admits := State.Tidy relocation.limit

end Typing

end CheckedScript
