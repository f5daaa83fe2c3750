import CheckedScript.Proofs.Computation
import CheckedScript.Proofs.Recovery.Trees
import CheckedScript.Proofs.Renaming.Scopes
import CheckedScript.Typing.State

/-!
# Checks of programs with other conditions

The states of two checks are alike if they agree on all but the notes on expressions and
the diagnostics that are charged to hidden positions.  A diagnostic in sight is left out by
one check if and only if it is left out by the other one, since only a diagnostic at the
same position can have the same key.

The second check is given more room than the first one, since its conditions may be nested
more deeply.  So nothing is said of it where the first check has used up its bound.
-/

namespace CheckedScript

namespace Diagnostic

/-- The diagnostics that are charged to positions in sight. -/
def visible (hidden : Position → Bool) (diagnostics : List Diagnostic) : List Diagnostic :=
  diagnostics.filter fun diagnostic => !hidden diagnostic.token.position

variable {hidden : Position → Bool}

/-- Diagnostics with the key of one in sight are in sight. -/
theorem any_key_visible {diagnostic : Diagnostic}
    (inSight : hidden diagnostic.token.position = false) (diagnostics : List Diagnostic) :
    ((visible hidden diagnostics).any fun known => known.key = diagnostic.key) =
      diagnostics.any fun known => known.key = diagnostic.key := by
  rw [visible, List.any_filter]
  congr 1
  funext known
  by_cases same : known.key = diagnostic.key
  · have position : known.token.position = diagnostic.token.position :=
      congrArg Diagnostic.Key.position same
    simp [same, position, inSight]
  · simp [same]

end Diagnostic

namespace Typing

open Diagnostic

section Relations

variable (hidden : Position → Bool) (room : Nat)

/-- A declared function in both programs; the body in the second one is not too large. -/
structure DeclaredFunction.Alike (function other : DeclaredFunction) : Prop where
  name : function.name = other.name
  parameters : function.parameters = other.parameters
  body : function.body.Alike hidden other.body
  place : function.place = other.place
  closure : function.closure = other.closure
  instances : function.instances = other.instances
  small : 2 * sizeOf other.body ≤ room

/-- States of two checks that differ in notes and in hidden diagnostics only. -/
structure State.Alike (state other : State) : Prop where
  scopes : state.scopes = other.scopes
  diagnostics : visible hidden state.diagnostics = visible hidden other.diagnostics
  functions : PairedArrays (DeclaredFunction.Alike hidden room) state.functions other.functions
  activations : state.activations = other.activations
  generation : state.generation = other.generation
  programs : state.programs = other.programs

/-- A check may have noted expressions and reported diagnostics at hidden positions in
between. -/
inductive State.Veiled (state : State) : State → Prop
  | mk (types : Table Place (Expr × Ty)) {diagnostics : List Diagnostic} :
      visible hidden state.diagnostics = visible hidden diagnostics →
        Veiled state { state with types := types, diagnostics := diagnostics }

/-- A check may have noted expressions in between. -/
inductive State.Noted (state : State) : State → Prop
  | mk (types : Table Place (Expr × Ty)) : Noted state { state with types := types }

end Relations

variable {hidden : Position → Bool} {room : Nat}

namespace State

theorem report_eq (state : State) (diagnostic : Diagnostic) :
    state.report diagnostic =
      { state with diagnostics := (state.report diagnostic).diagnostics } := by
  unfold State.report
  split <;> rfl

theorem visible_report_of_hidden (state : State) {diagnostic : Diagnostic}
    (outOfSight : hidden diagnostic.token.position = true) :
    visible hidden (state.report diagnostic).diagnostics = visible hidden state.diagnostics := by
  unfold State.report
  split
  · rfl
  · simp [visible, outOfSight]

theorem visible_report (state : State) {diagnostic : Diagnostic}
    (inSight : hidden diagnostic.token.position = false) :
    visible hidden (state.report diagnostic).diagnostics =
      if (visible hidden state.diagnostics).any fun known => known.key = diagnostic.key then
        visible hidden state.diagnostics
      else visible hidden state.diagnostics ++ [diagnostic] := by
  rw [any_key_visible inSight]
  unfold State.report
  split
  · rfl
  · simp [visible, inSight]

namespace Noted

theorem refl (state : State) : state.Noted state :=
  .mk state.types

theorem trans {first second third : State} (early : first.Noted second)
    (late : second.Noted third) : first.Noted third := by
  obtain ⟨_⟩ := early
  obtain ⟨types⟩ := late
  exact .mk types

theorem note (state : State) (place : Place) (expr : Expr) (type : Ty) :
    state.Noted (state.note place expr type) :=
  .mk (state.types.set place (expr, type))

theorem veiled {state after : State} (noted : state.Noted after) : state.Veiled hidden after := by
  obtain ⟨types⟩ := noted
  exact .mk types rfl

theorem bind {state after : State} (noted : state.Noted after) (frame : FrameId) (name : String)
    (type : Ty) : (state.bind frame name type).Noted (after.bind frame name type) := by
  obtain ⟨types⟩ := noted
  exact .mk types

end Noted

namespace Veiled

theorem trans {first second third : State} (early : first.Veiled hidden second)
    (late : second.Veiled hidden third) : first.Veiled hidden third := by
  obtain ⟨_, before⟩ := early
  obtain ⟨types, after⟩ := late
  exact .mk types (before.trans after)

theorem report (state : State) {diagnostic : Diagnostic}
    (outOfSight : hidden diagnostic.token.position = true) :
    state.Veiled hidden (state.report diagnostic) := by
  rw [report_eq]
  exact .mk state.types (visible_report_of_hidden state outOfSight).symm

end Veiled

namespace Alike

variable {state other : State} (alike : state.Alike hidden room other)
include alike

/-- What happens out of sight in either check makes no difference. -/
theorem veiled {after later : State} (first : state.Veiled hidden after)
    (second : other.Veiled hidden later) : after.Alike hidden room later := by
  obtain ⟨_, diagnostics⟩ := first
  obtain ⟨_, diagnosticsOther⟩ := second
  exact { alike with
    diagnostics := diagnostics.symm.trans (alike.diagnostics.trans diagnosticsOther) }

theorem report (diagnostic : Diagnostic) :
    (state.report diagnostic).Alike hidden room (other.report diagnostic) := by
  rw [report_eq state, report_eq other]
  refine { alike with diagnostics := ?_ }
  cases shown : hidden diagnostic.token.position with
  | true =>
      exact (visible_report_of_hidden state shown).trans
        (alike.diagnostics.trans (visible_report_of_hidden other shown).symm)
  | false =>
      dsimp only
      rw [visible_report state shown, visible_report other shown, alike.diagnostics]

theorem reports (diagnostics : List Diagnostic) :
    (diagnostics.foldl State.report state).Alike hidden room
      (diagnostics.foldl State.report other) := by
  induction diagnostics generalizing state other with
  | nil => exact alike
  | cons first _ inductionHypothesis => exact inductionHypothesis (alike.report first)

theorem bind (frame : FrameId) (name : String) (type : Ty) :
    (state.bind frame name type).Alike hidden room (other.bind frame name type) := by
  unfold State.bind
  rw [alike.scopes, alike.generation]
  exact { alike with scopes := rfl, generation := rfl }

theorem note (place : Place) (expr : Expr) (type : Ty) :
    (state.note place expr type).Alike hidden room (other.note place expr type) :=
  { alike with }

theorem declare (frame : FrameId) (place : Place) (name : Token) (parameters : List Token)
    {body second : Block} (bodies : body.Alike hidden second) (small : 2 * sizeOf second ≤ room) :
    (state.declare frame place name parameters body).Alike hidden room
      (other.declare frame place name parameters second) := by
  unfold State.declare
  dsimp only
  rw [alike.functions.size, alike.scopes]
  refine State.Alike.bind ?_ frame name.lexeme _
  exact { alike with
    scopes := rfl
    functions := alike.functions.push
      { name := rfl
        parameters := rfl
        body := bodies
        place := rfl
        closure := rfl
        instances := rfl
        small := small } }

theorem addReturn (type : Ty) (keyword : Token) :
    (state.addReturn type keyword).Alike hidden room (other.addReturn type keyword) := by
  unfold State.addReturn
  rw [alike.activations]
  split
  · exact alike
  · exact { alike with activations := rfl }

theorem setInstance (identifier : Nat) (key : InstanceKey) (result : Ty) :
    (state.setInstance identifier key result).Alike hidden room
      (other.setInstance identifier key result) := by
  refine { alike with functions := ?_ }
  unfold State.setInstance
  dsimp only
  refine alike.functions.modify (fun _ _ function => ?_) identifier
  exact { function with instances := by rw [function.instances] }

end Alike

end State

section Results

variable {α β : Type}

/-- Two checks come to the same end, out of sight apart, unless the first one has used up its
bound. -/
inductive EndsAlike (hidden : Position → Bool) (room : Nat) :
    EStateM.Result Stop State α → EStateM.Result Stop State α → Prop
  | ok {value : α} {after later : State} :
      after.Alike hidden room later → EndsAlike hidden room (.ok value after) (.ok value later)
  | error {stop : Stop} {after later : State} :
      after.Alike hidden room later → EndsAlike hidden room (.error stop after) (.error stop later)
  | exhausted {after : State} {result : EStateM.Result Stop State α} :
      EndsAlike hidden room (.error .exhausted after) result

/-- Checks that come to the same end, from whatever alike states they begin in. -/
def Agree (hidden : Position → Bool) (room : Nat) (first second : Check α) : Prop :=
  ∀ state other : State, state.Alike hidden room other →
    EndsAlike hidden room (first state) (second other)

namespace Agree

variable {first second : Check α}

theorem pure (value : α) : Agree hidden room (Pure.pure value) (Pure.pure value) :=
  fun _ _ alike => .ok alike

theorem throw (stop : Stop) :
    Agree hidden room (MonadExcept.throw stop : Check α) (MonadExcept.throw stop) :=
  fun _ _ alike => .error alike

theorem exhausted : Agree hidden room (MonadExcept.throw .exhausted) second :=
  fun _ _ _ => .exhausted

theorem bind {next further : α → Check β} (early : Agree hidden room first second)
    (late : ∀ value, Agree hidden room (next value) (further value)) :
    Agree hidden room (first >>= next) (second >>= further) := by
  intro state other alike
  have ends := early state other alike
  rw [bind_apply, bind_apply]
  generalize first state = one, second other = two at ends
  cases ends with
  | ok after => exact late _ _ _ after
  | error after => exact .error after
  | exhausted => exact .exhausted

theorem get {next further : State → Check α}
    (late : ∀ state other : State, state.Alike hidden room other →
      Agree hidden room (next state) (further other)) :
    Agree hidden room (MonadState.get >>= next) (MonadState.get >>= further) :=
  fun state other alike => late state other alike state other alike

theorem modify {change further : State → State}
    (keeps : ∀ state other : State, state.Alike hidden room other →
      (change state).Alike hidden room (further other)) :
    Agree hidden room (modifyThe State change) (modifyThe State further) :=
  fun state other alike => .ok (keeps state other alike)

theorem set {after later : State} (alike : after.Alike hidden room later) :
    Agree hidden room (MonadState.set after : Check PUnit) (MonadState.set later) :=
  fun _ _ _ => .ok alike

theorem reporting (agree : Agree hidden room first second) :
    Agree hidden room (Check.reporting first) (Check.reporting second) := by
  intro state other alike
  have ends := agree state other alike
  unfold Check.reporting
  generalize first state = one, second other = two at ends
  cases ends with
  | ok after => exact .ok after
  | @error stop _ _ after =>
      cases stop with
      | failed diagnostic => exact .ok (after.report diagnostic)
      | reported => exact .ok after
      | faulted => exact .error after
      | exhausted => exact .exhausted
  | exhausted => exact .exhausted

theorem onFailure (agree : Agree hidden room first second) {change : State → State}
    (keeps : ∀ state other : State, state.Alike hidden room other →
      (change state).Alike hidden room (change other)) :
    Agree hidden room (Check.onFailure first change) (Check.onFailure second change) := by
  intro state other alike
  have ends := agree state other alike
  unfold Check.onFailure
  generalize first state = one, second other = two at ends
  cases ends with
  | ok after => exact .ok after
  | @error stop _ _ after =>
      cases stop with
      | failed | reported => exact .error (keeps _ _ after)
      | faulted => exact .error after
      | exhausted => exact .exhausted
  | exhausted => exact .exhausted

theorem fail (cause : Cause) (token : Token) :
    Agree hidden room (Check.fail cause token : Check α) (Check.fail cause token) :=
  .throw _

theorem report (cause : Cause) (token : Token) :
    Agree hidden room (Check.report cause token) (Check.report cause token) :=
  .modify fun _ _ alike => alike.report _

theorem orFault (result : Except Fault α) :
    Agree hidden room (Check.orFault result) (Check.orFault result) := by
  cases result with
  | ok value => exact .pure value
  | error fault => exact .throw _

theorem nest (frame : FrameId) : Agree hidden room (Check.nest frame) (Check.nest frame) := by
  intro state other alike
  unfold Check.nest
  rw [alike.scopes]
  exact .ok { alike with scopes := rfl }

theorem define (frame : FrameId) (bindings : Bindings Ty) :
    Agree hidden room (Check.define frame bindings) (Check.define frame bindings) :=
  .modify fun _ _ alike => { alike with scopes := by rw [alike.scopes] }

theorem lookup? (frame : FrameId) (name : String) :
    Agree hidden room (Check.lookup? frame name) (Check.lookup? frame name) :=
  .get fun _ _ alike => by
    rw [alike.scopes]
    exact .pure _

end Agree

end Results

end Typing

end CheckedScript
