import CheckedScript.Proofs.Computation
import CheckedScript.Proofs.Frames
import CheckedScript.Typing.Check

/-!
# What a check changes

`Effect` says everything a part of a check may do to the state: frames, declared
functions and diagnostics are only added, results of instances are kept, and of
the frames and notes that were there before only those in a given footprint
change.  A failure that counts as reported has left a diagnostic behind, so a
check whose final state holds no diagnostic never failed anywhere.
-/

namespace CheckedScript

namespace Typing

namespace Place

/-- The node at a place lies in the subtree at another one. -/
def Under (place top : Place) : Prop :=
  ∃ steps, place.steps = steps ++ top.steps ∧ place.depth = steps.length + top.depth

theorem Under.refl (place : Place) : place.Under place :=
  ⟨[], rfl, by simp⟩

theorem Under.trans {place middle top : Place} (below : place.Under middle)
    (above : middle.Under top) : place.Under top := by
  obtain ⟨steps, stepsEq, depthEq⟩ := below
  obtain ⟨others, othersEq, othersDepth⟩ := above
  refine ⟨steps ++ others, ?_, ?_⟩
  · rw [stepsEq, othersEq, List.append_assoc]
  · rw [depthEq, othersDepth, List.length_append, Nat.add_assoc]

theorem Under.child (place : Place) (step : Nat) : (place.child step).Under place :=
  ⟨[step], rfl, Nat.add_comm _ _⟩

theorem Under.of_child {place top : Place} {step : Nat} (below : place.Under (top.child step)) :
    place.Under top :=
  below.trans (.child top step)

/-- Subtrees at different children have no node in common. -/
theorem Under.child_inj {place top : Place} {step other : Nat} (below : place.Under (top.child step))
    (besides : place.Under (top.child other)) : step = other := by
  obtain ⟨steps, stepsEq, depthEq⟩ := below
  obtain ⟨others, othersEq, othersDepth⟩ := besides
  have lengths : steps.length = others.length := by
    simp only [Place.child] at depthEq othersDepth
    omega
  have tails := (List.append_inj (stepsEq.symm.trans othersEq) lengths).2
  exact (List.cons.inj tails).1

/-- No node lies below itself. -/
theorem Under.irrefl_child {top : Place} {step : Nat} : ¬ top.Under (top.child step) := by
  rintro ⟨steps, _, depthEq⟩
  simp only [Place.child] at depthEq
  omega

end Place

namespace State

/-- The result of an instance of a function, if it has been checked. -/
def instance? (state : State) (function : Nat) (key : InstanceKey) : Option Ty :=
  state.functions[function]?.bind fun found => found.instances.get? key

/-- Frames are newer than their ancestors, and functions close over frames that
exist. -/
structure WellFormed (state : State) : Prop where
  ordered : state.scopes.Ordered
  closures : ∀ (function : Nat) (declared : DeclaredFunction),
    state.functions[function]? = some declared → declared.closure < state.scopes.frames.size

/-- Whether a body is being checked for given argument types. -/
def Active (state : State) (function : Nat) (arguments : List Ty) : Prop :=
  ∃ activation ∈ state.activations,
    activation.function = function ∧ activation.arguments = arguments

end State

/-- What a part of a check may write to: existing frames that may get bindings,
places whose types may be noted, and whether functions may be declared. -/
structure Footprint where
  frames : FrameId → Prop
  places : Place → Prop
  declares : Prop

/-- The bodies in progress are the same ones, and the innermost may have met
further returns. -/
def Appended (before after : List Activation) : Prop :=
  match before, after with
  | [], [] => True
  | first :: rest, other :: others =>
      first.function = other.function ∧ first.arguments = other.arguments ∧
        first.returns <+: other.returns ∧ rest = others
  | _, _ => False

theorem Appended.refl (activations : List Activation) : Appended activations activations := by
  cases activations with
  | nil => trivial
  | cons first rest => exact ⟨rfl, rfl, List.prefix_refl _, rfl⟩

theorem Appended.trans {first second third : List Activation} (early : Appended first second)
    (late : Appended second third) : Appended first third := by
  match first, second, third, early, late with
  | [], [], [], _, _ => trivial
  | _ :: _, _ :: _, _ :: _, ⟨function, arguments, returns, rest⟩, ⟨function', arguments', returns',
      rest'⟩ =>
      exact ⟨function.trans function', arguments.trans arguments', returns.trans returns',
        rest.trans rest'⟩
  | [], _ :: _, _, early, _ => exact early.elim
  | _ :: _, [], _, early, _ => exact early.elim
  | _, [], _ :: _, _, late => exact late.elim
  | _, _ :: _, [], _, late => exact late.elim

/-- The same bodies are in progress. -/
theorem Appended.any_iff {before after : List Activation} (appended : Appended before after)
    (function : Nat) (arguments : List Ty) :
    (∃ activation ∈ after, activation.function = function ∧ activation.arguments = arguments) ↔
      ∃ activation ∈ before, activation.function = function ∧
        activation.arguments = arguments := by
  match before, after, appended with
  | [], [], _ => rfl
  | first :: rest, other :: others, ⟨sameFunction, sameArguments, _, sameRest⟩ =>
      subst sameRest
      simp only [List.mem_cons, exists_eq_or_imp, sameFunction, sameArguments]

/-- A declared function is the same one, up to the results of its instances. -/
def SameDeclaration (before after : DeclaredFunction) : Prop :=
  after.name = before.name ∧ after.parameters = before.parameters ∧ after.body = before.body ∧
    after.place = before.place ∧ after.closure = before.closure

/-- What a part of a check does to the state. -/
structure Effect (footprint : Footprint) (before after : State) : Prop where
  grown : before.scopes.Grown after.scopes
  bindings : ∀ frame < before.scopes.frames.size, ¬ footprint.frames frame →
    after.scopes.bindings frame = before.scopes.bindings frame
  diagnostics : before.diagnostics <+: after.diagnostics
  declarations : ∀ (function : Nat) (declared : DeclaredFunction),
    before.functions[function]? = some declared →
    ∃ later, after.functions[function]? = some later ∧ SameDeclaration declared later
  instances : ∀ function key result, before.instance? function key = some result →
    after.instance? function key = some result
  /-- The instances in progress get their results only at their own end. -/
  protects : ∀ function key result, before.Active function key.1 →
    after.instance? function key = some result → before.instance? function key = some result
  generation : before.generation ≤ after.generation
  activations : Appended before.activations after.activations
  wellFormed : before.WellFormed → after.WellFormed
  /-- As long as there is no function, only the walk over the tree leaves notes. -/
  notes : before.functions = #[] → ¬ footprint.declares → after.functions = #[] ∧
    ∀ place, ¬ footprint.places place → after.types.get? place = before.types.get? place

/-- A body that was entered is left again. -/
theorem Effect.leave {footprint : Footprint} {before after : State} {activation : Activation}
    (effect : Effect footprint { before with activations := activation :: before.activations }
      after) :
    Effect footprint before { after with activations := after.activations.tail } :=
  { effect with
    protects := fun function key result active found => by
      obtain ⟨other, member, same⟩ := active
      exact effect.protects function key result ⟨other, List.mem_cons_of_mem _ member, same⟩ found
    activations := by
      have appended := effect.activations
      match equation : after.activations with
      | [] =>
          rw [equation] at appended
          exact appended.elim
      | other :: others =>
          rw [equation] at appended
          rw [List.tail_cons, ← appended.2.2.2]
          exact .refl _
    wellFormed := fun isWellFormed => by
      have later := effect.wellFormed ⟨isWellFormed.ordered, isWellFormed.closures⟩
      exact ⟨later.ordered, later.closures⟩ }

/-- A footprint covers another one for the frames that exist in a state. -/
structure Footprint.Covers (wide narrow : Footprint) (state : State) : Prop where
  frames : ∀ frame < state.scopes.frames.size, narrow.frames frame → wide.frames frame
  places : ∀ place, narrow.places place → wide.places place
  declares : narrow.declares → wide.declares

namespace Effect

variable {footprint wide : Footprint} {before middle after : State}

theorem refl (footprint : Footprint) (state : State) : Effect footprint state state where
  grown := .refl _
  bindings _ _ _ := rfl
  diagnostics := List.prefix_refl _
  declarations _ declared found := ⟨declared, found, rfl, rfl, rfl, rfl, rfl⟩
  instances _ _ _ found := found
  protects _ _ _ _ found := found
  generation := Nat.le_refl _
  activations := .refl _
  wellFormed isWellFormed := isWellFormed
  notes empty _ := ⟨empty, fun _ _ => rfl⟩

theorem trans (early : Effect footprint before middle) (late : Effect footprint middle after) :
    Effect footprint before after where
  grown := early.grown.trans late.grown
  bindings frame present outside :=
    (late.bindings frame (Nat.lt_of_lt_of_le present early.grown.size) outside).trans
      (early.bindings frame present outside)
  diagnostics := early.diagnostics.trans late.diagnostics
  declarations function declared found := by
    obtain ⟨next, foundNext, name, parameters, body, place, closure⟩ :=
      early.declarations function declared found
    obtain ⟨last, foundLast, name', parameters', body', place', closure'⟩ :=
      late.declarations function next foundNext
    exact ⟨last, foundLast, name'.trans name, parameters'.trans parameters, body'.trans body,
      place'.trans place, closure'.trans closure⟩
  instances function key result found :=
    late.instances function key result (early.instances function key result found)
  protects function key result active found := by
    have activeThen : middle.Active function key.1 := (early.activations.any_iff _ _).2 active
    exact early.protects function key result active
      (late.protects function key result activeThen found)
  generation := Nat.le_trans early.generation late.generation
  activations := early.activations.trans late.activations
  wellFormed isWellFormed := late.wellFormed (early.wellFormed isWellFormed)
  notes empty none := by
    obtain ⟨stillEmpty, kept⟩ := early.notes empty none
    obtain ⟨lastEmpty, keptThen⟩ := late.notes stillEmpty none
    exact ⟨lastEmpty, fun place outside => (keptThen place outside).trans (kept place outside)⟩

theorem widen (effect : Effect footprint before after) (covers : wide.Covers footprint before) :
    Effect wide before after :=
  { effect with
    bindings := fun frame present outside =>
      effect.bindings frame present fun inside => outside (covers.frames frame present inside)
    notes := fun empty none => by
      obtain ⟨stillEmpty, kept⟩ := effect.notes empty fun declares => none (covers.declares declares)
      exact ⟨stillEmpty, fun place outside =>
        kept place fun inside => outside (covers.places place inside)⟩ }

/-- A diagnostic is added. -/
theorem report (footprint : Footprint) (state : State) (diagnostic : Diagnostic) :
    Effect footprint state (state.report diagnostic) := by
  unfold State.report
  split
  · exact refl footprint state
  · exact
      { refl footprint state with
        diagnostics := List.prefix_append _ _
        wellFormed := fun isWellFormed => ⟨isWellFormed.ordered, isWellFormed.closures⟩ }

theorem note (state : State) {place : Place} (expr : Expr) (type : Ty)
    (inside : footprint.places place) : Effect footprint state (state.note place expr type) :=
  { refl footprint state with
    wellFormed := fun isWellFormed => ⟨isWellFormed.ordered, isWellFormed.closures⟩
    notes := fun empty _ => ⟨empty, fun other outside => by
      have different : place ≠ other := fun same => outside (same ▸ inside)
      simp [State.note, different]⟩ }

theorem bind (state : State) {frame : FrameId} (name : String) (type : Ty)
    (present : frame < state.scopes.frames.size) (inside : footprint.frames frame) :
    Effect footprint state (state.bind frame name type) :=
  { refl footprint state with
    grown := .define _ _ _ _
    bindings := fun other _ outside => by
      have different : frame ≠ other := fun same => outside (same ▸ inside)
      exact (Scopes.bindings_define _ present other name type).trans (if_neg different)
    generation := by
      change state.generation ≤ if _ then _ else _
      split
      · exact Nat.le_succ _
      · exact Nat.le_refl _
    wellFormed := fun isWellFormed =>
      { ordered := isWellFormed.ordered.define frame name type
        closures := fun function declared found => by
          have lower := isWellFormed.closures function declared found
          simpa [State.bind] using lower } }

theorem nest (footprint : Footprint) (state : State) {frame : FrameId}
    (present : state.WellFormed → frame < state.scopes.frames.size) :
    Effect footprint state { state with scopes := (state.scopes.nest frame).2 } :=
  { refl footprint state with
    grown := .nest _ _
    bindings := fun _ present _ => Scopes.bindings_nest_of_lt _ _ present
    wellFormed := fun isWellFormed =>
      { ordered := isWellFormed.ordered.nest (present isWellFormed)
        closures := fun function declared found => by
          have lower := isWellFormed.closures function declared found
          simp only [Scopes.size_frames_nest]
          exact Nat.lt_succ_of_lt lower } }

theorem defineAll (state : State) {frame : FrameId} (bindings : Bindings Ty)
    (present : frame < state.scopes.frames.size) (inside : footprint.frames frame) :
    Effect footprint state { state with scopes := state.scopes.defineAll frame bindings } :=
  { refl footprint state with
    grown := .defineAll _ _ _
    bindings := fun other _ outside => by
      have different : frame ≠ other := fun same => outside (same ▸ inside)
      exact Scopes.bindings_defineAll_of_ne _ present different bindings
    wellFormed := fun isWellFormed =>
      { ordered := isWellFormed.ordered.defineAll frame bindings
        closures := fun function declared found => by
          have lower := isWellFormed.closures function declared found
          simpa using lower } }

theorem addReturn (footprint : Footprint) (state : State) (type : Ty) (keyword : Token) :
    Effect footprint state (state.addReturn type keyword) := by
  unfold State.addReturn
  split
  · exact refl footprint state
  · next activation activations shape =>
      exact
        { refl footprint state with
          activations := by
            rw [shape]
            exact ⟨rfl, rfl, List.prefix_append _ _, rfl⟩
          wellFormed := fun isWellFormed => ⟨isWellFormed.ordered, isWellFormed.closures⟩ }

/-- A function is declared. -/
theorem declare (state : State) {frame : FrameId} (place : Place) (name : Token)
    (parameters : List Token) (body : Block) (present : frame < state.scopes.frames.size)
    (inside : footprint.frames frame) (declares : footprint.declares) :
    Effect footprint state (state.declare frame place name parameters body) := by
  let pushed : State :=
    { state with
      scopes := (state.scopes.nest frame).2
      functions := state.functions.push
        { name := name, parameters := parameters, body := body, place := place
          closure := (state.scopes.nest frame).1, instances := [] } }
  have lookup : ∀ (function : Nat) (found : DeclaredFunction),
      state.functions[function]? = some found → pushed.functions[function]? = some found := by
    intro function found isFound
    have lower := (Array.getElem?_eq_some_iff.1 isFound).1
    rw [Array.getElem?_push, if_neg (Nat.ne_of_lt lower)]
    exact isFound
  have first : Effect footprint state pushed :=
    { nest footprint state fun _ => present with
      wellFormed := fun isWellFormed =>
        { ordered := isWellFormed.ordered.nest present
          closures := fun function declared found => by
            simp only [pushed, Scopes.size_frames_nest]
            rw [Array.getElem?_push] at found
            split at found
            · obtain rfl := Option.some.inj found
              exact Nat.lt_succ_self _
            · exact Nat.lt_succ_of_lt (isWellFormed.closures function declared found) }
      declarations := fun function declared found =>
        ⟨declared, lookup function declared found, rfl, rfl, rfl, rfl, rfl⟩
      instances := fun function key result found => by
        obtain ⟨declared, isFound, isResult⟩ := Option.bind_eq_some_iff.1 found
        exact Option.bind_eq_some_iff.2 ⟨declared, lookup function declared isFound, isResult⟩
      protects := fun function key result _ found => by
        obtain ⟨declared, isFound, isResult⟩ := Option.bind_eq_some_iff.1 found
        rw [Array.getElem?_push] at isFound
        split at isFound
        · cases isFound
          cases isResult
        · exact Option.bind_eq_some_iff.2 ⟨declared, isFound, isResult⟩
      notes := fun _ none => absurd declares none }
  have presentThen : frame < pushed.scopes.frames.size :=
    Nat.lt_of_lt_of_le present first.grown.size
  exact first.trans (bind pushed name.lexeme _ presentThen inside)

theorem instance?_setInstance (state : State) (function other : Nat) (key wanted : InstanceKey)
    (result : Ty) {declared : DeclaredFunction}
    (found : state.functions[function]? = some declared) :
    (state.setInstance function key result).instance? other wanted =
      if function = other ∧ key = wanted then some result else state.instance? other wanted := by
  unfold State.instance? State.setInstance
  rw [Array.getElem?_modify]
  by_cases same : function = other
  · subst same
    rw [if_pos rfl, found]
    by_cases sameKey : key = wanted <;> simp [sameKey]
  · simp [same]

/-- The first result of an instance that is not in progress. -/
theorem setInstance (footprint : Footprint) (state : State) {function : Nat} {key : InstanceKey}
    (result : Ty) {declared : DeclaredFunction}
    (found : state.functions[function]? = some declared)
    (new : state.instance? function key = none) (idle : ¬ state.Active function key.1) :
    Effect footprint state (state.setInstance function key result) :=
  { refl footprint state with
    declarations := fun other former isFound => by
      unfold State.setInstance
      rw [Array.getElem?_modify]
      split
      · exact ⟨{ former with instances := former.instances.set key result },
          by rw [isFound]; rfl, rfl, rfl, rfl, rfl, rfl⟩
      · exact ⟨former, isFound, rfl, rfl, rfl, rfl, rfl⟩
    instances := fun other wanted former isFormer => by
      rw [instance?_setInstance state function other key wanted result found]
      split
      · next same =>
          obtain ⟨rfl, rfl⟩ := same
          rw [new] at isFormer
          cases isFormer
      · exact isFormer
    protects := fun other wanted former active isFormer => by
      rw [instance?_setInstance state function other key wanted result found] at isFormer
      split at isFormer
      · next same =>
          obtain ⟨rfl, rfl⟩ := same
          exact absurd active idle
      · exact isFormer
    wellFormed := fun isWellFormed =>
      { ordered := isWellFormed.ordered
        closures := fun other former isFound => by
          unfold State.setInstance at isFound
          rw [Array.getElem?_modify] at isFound
          split at isFound
          · obtain ⟨old, wasFound, rfl⟩ := Option.map_eq_some_iff.1 isFound
            exact isWellFormed.closures other old wasFound
          · exact isWellFormed.closures other former isFound }
    notes := fun empty _ => by
      rw [empty] at found
      cases found }

/-- Where functions exist, notes may be left anywhere, and frames that are new may
be written to. -/
theorem hidden {declared : DeclaredFunction} {function : Nat}
    (effect : Effect footprint before after)
    (found : before.functions[function]? = some declared)
    (frames : ∀ frame < before.scopes.frames.size, footprint.frames frame → wide.frames frame) :
    Effect wide before after :=
  { effect with
    bindings := fun frame present outside =>
      effect.bindings frame present fun inside => outside (frames frame present inside)
    notes := fun empty _ => by
      rw [empty] at found
      cases found }

end Effect

end Typing

namespace Check

open Typing

variable {α β : Type}

/-- The effect on a state, whether a check succeeds or fails.  A failure that is not
passed on as a diagnostic has been reported. -/
def EndsWith (footprint : Footprint) (state : State) : EStateM.Result Stop State α → Prop
  | .ok _ after => Effect footprint state after
  | .error (.failed _) after => Effect footprint state after
  | .error .reported after => Effect footprint state after ∧ after.diagnostics ≠ []
  | .error (.faulted _) _ => True
  | .error .exhausted _ => True

/-- A check that starts in a given state stays within a footprint. -/
def Keeps (footprint : Footprint) (state : State) (check : Check α) : Prop :=
  EndsWith footprint state (check state)

namespace Keeps

variable {footprint wide : Footprint} {state middle : State}

theorem pure (footprint : Footprint) (state : State) (value : α) :
    Keeps footprint state (Pure.pure value : Check α) :=
  Effect.refl footprint state

theorem fail (footprint : Footprint) (state : State) (cause : Cause) (token : Token) :
    Keeps footprint state (Check.fail cause token : Check α) :=
  Effect.refl footprint state

theorem after {result : EStateM.Result Stop State α} (early : Effect footprint state middle)
    (late : EndsWith footprint middle result) : EndsWith footprint state result := by
  match result, late with
  | .ok _ _, late => exact early.trans late
  | .error (.failed _) _, late => exact early.trans late
  | .error .reported _, late => exact ⟨early.trans late.1, late.2⟩
  | .error (.faulted _) _, _ => trivial
  | .error .exhausted _, _ => trivial

/-- Effects may be looked at in another way. -/
theorem imp {check : Check α} (keeps : Keeps footprint state check)
    (implies : ∀ after, Effect footprint state after → Effect wide state after) :
    Keeps wide state check := by
  unfold Keeps at keeps ⊢
  match check state, keeps with
  | .ok _ after, keeps => exact implies after keeps
  | .error (.failed _) after, keeps => exact implies after keeps
  | .error .reported after, keeps => exact ⟨implies after keeps.1, keeps.2⟩
  | .error (.faulted _) _, _ => trivial
  | .error .exhausted _, _ => trivial

theorem widen {check : Check α} (keeps : Keeps footprint state check)
    (covers : wide.Covers footprint state) : Keeps wide state check :=
  keeps.imp fun _ effect => effect.widen covers

/-- One check after another. -/
theorem bind {first : Check α} {next : α → Check β} (early : Keeps footprint state first)
    (late : ∀ value after, first state = .ok value after → Effect footprint state after →
      Keeps footprint after (next value)) :
    Keeps footprint state (first >>= next) := by
  unfold Keeps at early ⊢
  rw [bind_apply]
  match equation : first state with
  | .ok value after =>
      rw [equation] at early
      exact Keeps.after early (late value after equation early)
  | .error (.failed _) _ =>
      rw [equation] at early
      exact early
  | .error .reported _ =>
      rw [equation] at early
      exact early
  | .error (.faulted _) _ => trivial
  | .error .exhausted _ => trivial

theorem modify {change : State → State} (effect : Effect footprint state (change state)) :
    Keeps footprint state (modifyThe State change : Check PUnit) :=
  effect

theorem get {next : State → Check β} (keeps : Keeps footprint state (next state)) :
    Keeps footprint state ((MonadState.get : Check State) >>= next) :=
  keeps

theorem lookup? {next : Option Ty → Check β} {frame : FrameId} {name : String}
    (keeps : Keeps footprint state (next (state.scopes.get? frame name))) :
    Keeps footprint state (Check.lookup? frame name >>= next) :=
  keeps

theorem orFault (footprint : Footprint) (state : State) (result : Except Fault α) :
    Keeps footprint state (Check.orFault result) := by
  cases result with
  | ok value => exact Keeps.pure footprint state value
  | error fault => trivial

theorem diagnostics_report_ne_nil (state : State) (diagnostic : Diagnostic) :
    (state.report diagnostic).diagnostics ≠ [] := by
  unfold State.report
  split
  · next known =>
      intro none
      simp [none] at known
  · simp

theorem reporting {check : Check α} (keeps : Keeps footprint state check) :
    Keeps footprint state (Check.reporting check) := by
  unfold Keeps Check.reporting at *
  match equation : check state with
  | .ok _ _ =>
      rw [equation] at keeps
      exact keeps
  | .error (.failed diagnostic) after =>
      rw [equation] at keeps
      exact Effect.trans keeps (.report footprint after diagnostic)
  | .error .reported _ =>
      rw [equation] at keeps
      exact keeps.1
  | .error (.faulted _) _ => trivial
  | .error .exhausted _ => trivial

/-- A check that gives nothing has left a diagnostic. -/
theorem reporting_none {check : Check α} {after : State} (keeps : Keeps footprint state check)
    (equation : Check.reporting check state = .ok none after) : after.diagnostics ≠ [] := by
  unfold Keeps Check.reporting at *
  match result : check state with
  | .ok _ _ =>
      rw [result] at equation
      cases equation
  | .error (.failed diagnostic) _ =>
      rw [result] at equation
      cases equation
      exact diagnostics_report_ne_nil _ diagnostic
  | .error .reported _ =>
      rw [result] at equation keeps
      cases equation
      exact keeps.2
  | .error (.faulted _) _ =>
      rw [result] at equation
      cases equation
  | .error .exhausted _ =>
      rw [result] at equation
      cases equation

theorem onFailure {check : Check α} {change : State → State}
    (keeps : Keeps footprint state check)
    (effect : ∀ after, Effect footprint state after → Effect footprint after (change after)) :
    Keeps footprint state (Check.onFailure check change) := by
  unfold Keeps Check.onFailure at *
  match equation : check state with
  | .ok _ _ =>
      rw [equation] at keeps
      exact keeps
  | .error (.failed _) after =>
      rw [equation] at keeps
      exact Effect.trans keeps (effect after keeps)
  | .error .reported after =>
      rw [equation] at keeps
      have changed := effect after keeps.1
      refine ⟨keeps.1.trans changed, fun none => keeps.2 ?_⟩
      exact List.prefix_nil.1 (none ▸ changed.diagnostics)
  | .error (.faulted _) _ => trivial
  | .error .exhausted _ => trivial

/-- A check of a new frame inside another one. -/
theorem nest {frame : FrameId} {next : FrameId → Check β}
    (present : state.WellFormed → frame < state.scopes.frames.size)
    (keeps : Keeps footprint { state with scopes := (state.scopes.nest frame).2 }
      (next state.scopes.frames.size)) :
    Keeps footprint state (Check.nest frame >>= next) :=
  Keeps.after (Effect.nest footprint state present) keeps

end Keeps

theorem Keeps.effect {footprint : Footprint} {state after : State} {check : Check α} {value : α}
    (keeps : Keeps footprint state check) (equation : check state = .ok value after) :
    Effect footprint state after := by
  unfold Keeps at keeps
  rwa [equation] at keeps

/-- A check under `reporting` that leaves no diagnostic has succeeded. -/
theorem reporting_eq_ok {footprint : Footprint} {check : Check α} {state after : State}
    {result : Option α} (keeps : Keeps footprint state check)
    (equation : reporting check state = .ok result after) (clean : after.diagnostics = []) :
    ∃ value, result = some value ∧ check state = .ok value after := by
  cases result with
  | none => exact absurd clean (keeps.reporting_none equation)
  | some value =>
      refine ⟨value, rfl, ?_⟩
      unfold reporting at equation
      split at equation <;> cases equation
      assumption

end Check

end CheckedScript
