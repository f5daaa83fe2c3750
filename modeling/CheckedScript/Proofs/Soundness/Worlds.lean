import CheckedScript.Proofs.Soundness.Definiteness
import CheckedScript.Proofs.Soundness.Judgements

/-!
# What a checker knows of functions

The world of a state tells what functions are made of and what they see.  A call has a type
there if the result of an instance is remembered, or if the body of the function is being
checked for the types of the arguments and a return has been met.  The first return that is
met decides on the type of a recursive call, and it is what the instance comes to be
remembered with.

Instances that are older than a given generation do not count.  A state is ready if all
others are borne out: in every world that knows what the state knows, the body of the
function is well typed and gives back values of the type that is remembered.
-/

namespace CheckedScript

namespace Typing

open Check

/-- A world knows no less of functions than another one. -/
structure World.Within (narrow wide : World) : Prop where
  code : ∀ {identifier found}, narrow.code identifier = some found →
    wide.code identifier = some found
  view : ∀ identifier, (narrow.view identifier).Within (wide.view identifier)
  result : ∀ {identifier arguments type}, narrow.result identifier arguments type →
    wide.result identifier arguments type

namespace World.Within

theorem refl (world : World) : world.Within world where
  code known := known
  view _ := .refl _
  result known := known

theorem trans {first second third : World} (early : first.Within second)
    (late : second.Within third) : first.Within third where
  code known := late.code (early.code known)
  view identifier := (early.view identifier).trans (late.view identifier)
  result known := late.result (early.result known)

end World.Within

namespace State

/-- What is visible from a frame. -/
def view (state : State) (frame : FrameId) : View :=
  state.scopes.get? frame

/-- The returns of the innermost body that is being checked. -/
def met (state : State) : List (Ty × Token) :=
  (state.activations.head?.map (·.returns)).getD []

/-- A call has a type, by an instance that is not too old or by the first return that has been
met. -/
def Answers (state : State) (since identifier : Nat) (arguments : List Ty) (type : Ty) : Prop :=
  (∃ generation, since ≤ generation ∧
    state.instance? identifier (arguments, generation) = some type) ∨
  ∃ activation ∈ state.activations, activation.function = identifier ∧
    activation.arguments = arguments ∧ activation.returns.head?.map (·.1) = some type

/-- What is known of functions in a state. -/
def world (state : State) (since : Nat) : World where
  code identifier := state.functions[identifier]?.map fun function =>
    (function.parameters.map (·.lexeme), function.body)
  view identifier name := state.functions[identifier]?.bind fun function =>
    state.view function.closure name
  result := state.Answers since

/-- The type of a call is borne out by the body of the function. -/
def Justifies (state : State) (since identifier : Nat) (arguments : List Ty) (type : Ty) : Prop :=
  ∃ parameters body, (state.world since).code identifier = some (parameters, body) ∧
    parameters.length = arguments.length ∧
    ∀ world : World, (state.world since).Within world →
      world.AcceptsBody type
        (View.bindAll (world.view identifier) (parameters.zip arguments)) body

/-- All types are proper, no instance is newer than the state, and the types that calls have
are borne out. -/
structure Ready (since : Nat) (base : FrameId) (state : State) : Prop where
  wellFormed : state.WellFormed
  proper : state.Proper base
  present : base ≤ state.next
  begun : since ≤ state.generation
  dated : ∀ {identifier arguments generation type},
    state.instance? identifier (arguments, generation) = some type → generation ≤ state.generation
  justified : ∀ {identifier arguments generation type}, since ≤ generation →
    state.instance? identifier (arguments, generation) = some type →
    state.Justifies since identifier arguments type

/-- If a state has been reached without a diagnostic, it is ready, and in every world that
knows what it knows something holds. -/
def Yields (since : Nat) (base : FrameId) (state : State) (holds : World → Prop) : Prop :=
  state.diagnostics = [] → state.Ready since base ∧
    ∀ world : World, (state.world since).Within world → holds world

end State

section Effects

variable {since : Nat} {base : FrameId} {footprint : Footprint} {before after : State}

/-- Where nothing is written to, nothing else comes into sight. -/
theorem Effect.view (effect : Effect footprint before after) (wellFormed : before.WellFormed)
    {frame : FrameId} (present : frame < before.next)
    (spares : ∀ candidate ∈ before.scopes.path frame, ¬ footprint.frames candidate) :
    after.view frame = before.view frame :=
  funext fun name => Scopes.get?_congr (effect.grown.path present)
    (fun candidate member => effect.bindings candidate
      (wellFormed.ordered.mem_path_lt present member) (spares candidate member)) name

theorem Appended.head {first last : List Activation} (appended : Appended first last)
    {activation : Activation} (member : activation ∈ first) {type : Ty}
    (met : activation.returns.head?.map (·.1) = some type) :
    ∃ later ∈ last, later.function = activation.function ∧
      later.arguments = activation.arguments ∧ later.returns.head?.map (·.1) = some type := by
  match first, last, appended with
  | before :: rest, after :: others, ⟨sameFunction, sameArguments, grown, sameRest⟩ =>
      rcases List.mem_cons.1 member with rfl | member
      · refine ⟨after, List.mem_cons_self, sameFunction.symm, sameArguments.symm, ?_⟩
        obtain ⟨further, grown⟩ := grown
        cases shape : activation.returns with
        | nil =>
            rw [shape] at met
            cases met
        | cons entry entries =>
            rw [shape] at met grown
            rw [← grown]
            exact met
      · exact ⟨activation, List.mem_cons_of_mem _ (sameRest ▸ member), rfl, rfl, met⟩

theorem Effect.answers (effect : Effect footprint before after) {identifier : Nat}
    {arguments : List Ty} {type : Ty} (answers : before.Answers since identifier arguments type) :
    after.Answers since identifier arguments type := by
  rcases answers with ⟨generation, recent, known⟩ | ⟨activation, member, rfl, rfl, met⟩
  · exact .inl ⟨generation, recent, effect.instances identifier _ type known⟩
  · exact .inr (effect.activations.head member met)

theorem State.Proper.lt_base (proper : before.Proper base) (wellFormed : before.WellFormed)
    {identifier : Nat} {function : DeclaredFunction}
    (found : before.functions[identifier]? = some function) {candidate : FrameId}
    (member : candidate ∈ before.scopes.path function.closure) : candidate < base := by
  have lower := (proper.bodies function (Array.mem_of_getElem? found)).2.2
  rcases List.mem_cons.1 member with rfl | member
  · exact lower
  · exact Nat.lt_trans (wellFormed.ordered.lt_of_mem member) lower

/-- A check that writes to new frames only loses nothing that was known of functions. -/
theorem Effect.world (effect : Effect footprint before after) (since : Nat)
    (wellFormed : before.WellFormed) (proper : before.Proper base)
    (apart : ∀ frame, footprint.frames frame → base ≤ frame) :
    (before.world since).Within (after.world since) where
  code {identifier found} known := by
    obtain ⟨function, isFunction, rfl⟩ := Option.map_eq_some_iff.1 known
    obtain ⟨later, isLater, _, parameters, body, _⟩ :=
      effect.declarations identifier function isFunction
    exact Option.map_eq_some_iff.2 ⟨later, isLater, by rw [parameters, body]⟩
  view identifier name type known := by
    obtain ⟨function, isFunction, visible⟩ := Option.bind_eq_some_iff.1 known
    obtain ⟨later, isLater, _, _, _, _, closure⟩ :=
      effect.declarations identifier function isFunction
    refine Option.bind_eq_some_iff.2 ⟨later, isLater, ?_⟩
    rw [closure, effect.view wellFormed (wellFormed.closures identifier function isFunction)]
    · exact visible
    · intro candidate member written
      exact Nat.not_le.2 (proper.lt_base wellFormed isFunction member) (apart candidate written)
  result := effect.answers

theorem Effect.met (effect : Effect footprint before after) : before.met <+: after.met := by
  have appended := effect.activations
  unfold State.met
  match before.activations, after.activations, appended with
  | [], [], _ => exact List.prefix_refl _
  | _ :: _, _ :: _, ⟨_, _, grown, _⟩ => exact grown

theorem Effect.clean (effect : Effect footprint before after) (clean : after.diagnostics = []) :
    before.diagnostics = [] :=
  List.prefix_nil.1 (clean ▸ effect.diagnostics)

end Effects

namespace State

variable {since : Nat} {base : FrameId} {footprint : Footprint} {before middle after : State}

theorem Justifies.onward {identifier : Nat} {arguments : List Ty} {type : Ty}
    (justifies : before.Justifies since identifier arguments type)
    (within : (before.world since).Within (after.world since)) :
    after.Justifies since identifier arguments type := by
  obtain ⟨parameters, body, code, length, accepts⟩ := justifies
  exact ⟨parameters, body, within.code code, length,
    fun world wide => accepts world (within.trans wide)⟩

namespace Ready

/-- A step that leaves the functions alone. -/
theorem onward (ready : before.Ready since base) (effect : Effect footprint before after)
    (apart : ∀ frame, footprint.frames frame → base ≤ frame)
    (functions : after.functions = before.functions) (proper : after.Proper base) :
    after.Ready since base where
  wellFormed := effect.wellFormed ready.wellFormed
  proper := proper
  present := Nat.le_trans ready.present effect.grown.size
  begun := Nat.le_trans ready.begun effect.generation
  dated {identifier arguments generation type} known := by
    rw [instance?, functions] at known
    exact Nat.le_trans (ready.dated known) effect.generation
  justified {identifier arguments generation type} recent known := by
    rw [instance?, functions] at known
    exact (ready.justified recent known).onward
      (effect.world since ready.wellFormed ready.proper apart)

/-- The frames that are open to declarations are not among those that functions close over. -/
theorem spares (ready : before.Ready since base) {frame : FrameId} (present : frame < before.next)
    (quiet : ∀ candidate, ¬ footprint.frames candidate)
    (effect : Effect footprint before after) : after.view frame = before.view frame :=
  effect.view ready.wellFormed present fun candidate _ => quiet candidate

theorem isProper (ready : before.Ready since base) {identifier : Nat} {key : InstanceKey}
    {type : Ty} (known : before.instance? identifier key = some type) : type.isProper = true := by
  obtain ⟨function, declared, isResult⟩ := Option.bind_eq_some_iff.1 known
  exact ready.proper.instances function (Array.mem_of_getElem? declared) _
    (Table.mem_of_get? isResult)

/-- Outside of all bodies every type of a call is borne out. -/
theorem closed (ready : before.Ready since base) (idle : before.activations = []) :
    (before.world since).Closed where
  definite known := by
    rcases known with ⟨_, _, known⟩ | ⟨_, member, _⟩
    · exact Ty.isDefinite_of_isProper (ready.isProper known)
    · rw [idle] at member
      cases member
  body known := by
    rcases known with ⟨_, recent, known⟩ | ⟨_, member, _⟩
    · obtain ⟨parameters, body, code, length, accepts⟩ := ready.justified recent known
      exact ⟨parameters, body, code, length, accepts _ (.refl _)⟩
    · rw [idle] at member
      cases member

theorem yields (ready : before.Ready since base) {holds : World → Prop}
    (known : ∀ world : World, (before.world since).Within world → holds world) :
    before.Yields since base holds :=
  fun _ => ⟨ready, known⟩

end Ready

namespace Yields

variable {holds also both : World → Prop}

theorem mono (yields : after.Yields since base holds)
    (implies : ∀ world, holds world → also world) :
    after.Yields since base also := fun clean =>
  ⟨(yields clean).1, fun world within => implies world ((yields clean).2 world within)⟩

/-- What holds after one check holds after the next one as well. -/
theorem bind (early : middle.Yields since base holds) (effect : Effect footprint middle after)
    (apart : ∀ frame, footprint.frames frame → base ≤ frame)
    (late : middle.Ready since base → after.Yields since base also)
    (implies : ∀ world, holds world → also world → both world) :
    after.Yields since base both := by
  intro clean
  obtain ⟨ready, first⟩ := early (effect.clean clean)
  obtain ⟨last, second⟩ := late ready clean
  have onward := effect.world since ready.wellFormed ready.proper apart
  exact ⟨last, fun world within =>
    implies world (first world (onward.trans within)) (second world within)⟩

/-- A last step that finds out nothing more. -/
theorem step (early : middle.Yields since base holds) (effect : Effect footprint middle after)
    (apart : ∀ frame, footprint.frames frame → base ≤ frame)
    (functions : after.functions = middle.functions)
    (proper : middle.Ready since base → after.Proper base) : after.Yields since base holds :=
  early.bind effect apart
    (fun ready => (ready.onward effect apart functions (proper ready)).yields
      fun _ _ => trivial) fun _ holds (_ : True) => holds

end Yields

end State

end Typing

end CheckedScript
