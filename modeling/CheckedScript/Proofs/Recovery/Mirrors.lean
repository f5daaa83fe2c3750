import CheckedScript.Proofs.Recovery.Initializers
import CheckedScript.Proofs.Recovery.States

/-!
# Checks of programs with another initializer

Two checks go side by side over programs that differ in exchanged initializers.  The second one
mirrors the first one: it stands in the same scopes, it has the same bodies in progress, and it
has reported what the first one has reported in sight and nothing else.  Whatever either check
is charged with outside of the exchanged statements is in sight, so the two stop for the same
reasons.

The initializers may be nested to different depths, so one of the two checks is given more room
than the other one.  Nothing is said of the two where the one with less room has used it up.
-/

namespace CheckedScript

namespace Typing

open Diagnostic

/-- Which of two checks has less room. -/
inductive Side where
  | first
  | second

theorem Side.eq_first {side : Side} (other : side ≠ .second) : side = .first := by
  cases side with
  | first => rfl
  | second => exact absurd rfl other

theorem Side.eq_second {side : Side} (other : side ≠ .first) : side = .second := by
  cases side with
  | first => exact absurd rfl other
  | second => rfl

/-- Two checks side by side: the statement they differ in, the positions that are hidden, and the
check that has less room. -/
structure Mirror where
  exchange : Exchange
  hidden : Position → Bool
  side : Side

namespace Mirror

section Relations

variable (mirror : Mirror)

/-- A declared function in both programs. -/
structure Functions (function other : DeclaredFunction) : Prop where
  name : function.name = other.name
  shown : mirror.hidden other.name.position = false
  parameters : function.parameters = other.parameters
  body : function.body.Revised mirror.exchange mirror.hidden other.body
  place : function.place = other.place
  closure : function.closure = other.closure
  instances : function.instances = other.instances

/-- Returns that are charged to tokens in sight. -/
def Returns (returns : List (Ty × Token)) : Prop :=
  ∀ entry ∈ returns, mirror.hidden entry.2.position = false

/-- The second state is what is in sight of the first one. -/
structure States (state other : State) : Prop where
  scopes : state.scopes = other.scopes
  diagnostics : visible mirror.hidden state.diagnostics = other.diagnostics
  functions : PairedArrays mirror.Functions state.functions other.functions
  activations : state.activations = other.activations
  returns : ∀ activation ∈ other.activations, mirror.Returns activation.returns
  generation : state.generation = other.generation
  programs : state.programs = other.programs

/-- Reasons to stop that are in sight. -/
inductive Stops : Stop → Prop
  | failed {diagnostic : Diagnostic} :
      mirror.hidden diagnostic.token.position = false → Stops (.failed diagnostic)
  | reported : Stops .reported
  | faulted {fault : Fault} : Stops (.faulted fault)
  | exhausted : Stops .exhausted

/-- The second check comes to the same end as the first one, unless the one with less room has
used it up. -/
inductive Ends {α : Type} (fits : α → Prop) :
    EStateM.Result Stop State α → EStateM.Result Stop State α → Prop
  | ok {value : α} {after later : State} :
      fits value → mirror.States after later → Ends fits (.ok value after) (.ok value later)
  | error {stop : Stop} {after later : State} :
      mirror.Stops stop → mirror.States after later →
        Ends fits (.error stop after) (.error stop later)
  | first {after : State} {result : EStateM.Result Stop State α} :
      mirror.side = .first → Ends fits (.error .exhausted after) result
  | second {later : State} {result : EStateM.Result Stop State α} :
      mirror.side = .second → Ends fits result (.error .exhausted later)

end Relations

variable {mirror : Mirror}

namespace States

variable {state other : State} (states : mirror.States state other)
include states

/-- Notes make no difference, nor does what the first check reports out of sight. -/
theorem veiled {after later : State} (first : state.Veiled mirror.hidden after)
    (second : other.Noted later) : mirror.States after later := by
  obtain ⟨_, diagnostics⟩ := first
  obtain ⟨_⟩ := second
  exact { states with diagnostics := diagnostics.symm.trans states.diagnostics }

theorem report {diagnostic : Diagnostic}
    (inSight : mirror.hidden diagnostic.token.position = false) :
    mirror.States (state.report diagnostic) (other.report diagnostic) := by
  rw [State.report_eq state, State.report_eq other]
  refine { states with diagnostics := ?_ }
  dsimp only
  rw [State.visible_report state inSight, states.diagnostics, State.report]
  split <;> rfl

theorem reports {diagnostics : List Diagnostic}
    (inSight : ∀ diagnostic ∈ diagnostics, mirror.hidden diagnostic.token.position = false) :
    mirror.States (diagnostics.foldl State.report state)
      (diagnostics.foldl State.report other) := by
  induction diagnostics generalizing state other with
  | nil => exact states
  | cons first _ inductionHypothesis =>
      obtain ⟨shown, others⟩ := List.forall_mem_cons.1 inSight
      exact inductionHypothesis (states.report shown) others

theorem bind (frame : FrameId) (name : String) (type : Ty) :
    mirror.States (state.bind frame name type) (other.bind frame name type) := by
  unfold State.bind
  rw [states.scopes, states.generation]
  exact { states with scopes := rfl, generation := rfl }

theorem note (place : Place) (expr : Expr) (type : Ty) :
    mirror.States (state.note place expr type) (other.note place expr type) :=
  { states with }

theorem declare (frame : FrameId) (place : Place) {name : Token} (parameters : List Token)
    {body second : Block} (shown : mirror.hidden name.position = false)
    (revised : body.Revised mirror.exchange mirror.hidden second) :
    mirror.States (state.declare frame place name parameters body)
      (other.declare frame place name parameters second) := by
  unfold State.declare
  dsimp only
  rw [states.functions.size, states.scopes]
  refine States.bind ?_ frame name.lexeme _
  exact { states with
    scopes := rfl
    functions := states.functions.push
      { name := rfl
        shown := shown
        parameters := rfl
        body := revised
        place := rfl
        closure := rfl
        instances := rfl } }

theorem addReturn (type : Ty) {keyword : Token} (shown : mirror.hidden keyword.position = false) :
    mirror.States (state.addReturn type keyword) (other.addReturn type keyword) := by
  have returns := states.returns
  unfold State.addReturn
  rw [states.activations]
  cases shape : other.activations with
  | nil => exact states
  | cons activation activations =>
      rw [shape] at returns
      obtain ⟨innermost, outer⟩ := List.forall_mem_cons.1 returns
      refine { states with activations := rfl, returns := List.forall_mem_cons.2 ⟨?_, outer⟩ }
      exact List.forall_mem_append.2 ⟨innermost, List.forall_mem_singleton.2 shown⟩

theorem setInstance (identifier : Nat) (key : InstanceKey) (result : Ty) :
    mirror.States (state.setInstance identifier key result)
      (other.setInstance identifier key result) := by
  refine { states with functions := ?_ }
  unfold State.setInstance
  dsimp only
  refine states.functions.modify (fun _ _ function => ?_) identifier
  exact { function with instances := by rw [function.instances] }

/-- The declaration behind a function type. -/
theorem declared {identifier : Nat} {second : DeclaredFunction}
    (found : other.functions[identifier]? = some second) :
    ∃ function, state.functions[identifier]? = some function ∧
      mirror.Functions function second := by
  have item := states.functions.item identifier
  rw [found] at item
  generalize state.functions[identifier]? = first at item
  cases item with
  | some function => exact ⟨_, rfl, function⟩

theorem undeclared {identifier : Nat} (missing : other.functions[identifier]? = none) :
    state.functions[identifier]? = none := by
  have item := states.functions.item identifier
  rw [missing] at item
  generalize state.functions[identifier]? = first at item
  cases item
  rfl

end States

namespace Ends

variable {α β : Type} {fits : α → Prop} {wide : β → Prop} {state other : State}

theorem pure {value : α} (holds : fits value) (states : mirror.States state other) :
    mirror.Ends fits ((Pure.pure value : Check α) state) ((Pure.pure value : Check α) other) :=
  .ok holds states

theorem throw {stop : Stop} (stops : mirror.Stops stop) (states : mirror.States state other) :
    mirror.Ends fits ((MonadExcept.throw stop : Check α) state)
      ((MonadExcept.throw stop : Check α) other) :=
  .error stops states

theorem fail (cause : Cause) {token : Token} (shown : mirror.hidden token.position = false)
    (states : mirror.States state other) :
    mirror.Ends fits ((Check.fail cause token : Check α) state)
      ((Check.fail cause token : Check α) other) :=
  .throw (.failed shown) states

/-- What the second check has come to in between is known to what it goes on with. -/
theorem bind {first second : Check α} {next further : α → Check β}
    (early : mirror.Ends fits (first state) (second other))
    (late : ∀ value after later, second other = .ok value later → fits value →
      mirror.States after later → mirror.Ends wide (next value after) (further value later)) :
    mirror.Ends wide ((first >>= next) state) ((second >>= further) other) := by
  rw [bind_apply, bind_apply]
  generalize first state = one at early
  generalize equation : second other = two at early ⊢
  cases early with
  | ok holds states => exact late _ _ _ equation holds states
  | error stops states => exact .error stops states
  | first less => exact .first less
  | second less => exact .second less

/-- A value that is there for both checks. -/
theorem orFault {first second : α} {next further : α → Check β}
    (ends : mirror.Ends wide (next first state) (further second other)) :
    mirror.Ends wide ((Check.orFault (.ok first) >>= next) state)
      ((Check.orFault (.ok second) >>= further) other) :=
  ends

theorem reporting {check second : Check α} (ends : mirror.Ends fits (check state) (second other)) :
    mirror.Ends (fun _ => True) (Check.reporting check state) (Check.reporting second other) := by
  unfold Check.reporting
  generalize check state = one, second other = two at ends
  cases ends with
  | ok _ states => exact .ok trivial states
  | error stops states =>
      cases stops with
      | failed shown => exact .ok trivial (states.report shown)
      | reported => exact .ok trivial states
      | faulted => exact .error .faulted states
      | exhausted => exact .error .exhausted states
  | first less => exact .first less
  | second less => exact .second less

theorem onFailure {check second : Check α} {change : State → State}
    (keeps : ∀ {state other}, mirror.States state other →
      mirror.States (change state) (change other))
    (ends : mirror.Ends fits (check state) (second other)) :
    mirror.Ends fits (Check.onFailure check change state)
      (Check.onFailure second change other) := by
  unfold Check.onFailure
  generalize check state = one, second other = two at ends
  cases ends with
  | ok holds states => exact .ok holds states
  | error stops states =>
      cases stops with
      | failed shown => exact .error (.failed shown) (keeps states)
      | reported => exact .error .reported (keeps states)
      | faulted => exact .error .faulted states
      | exhausted => exact .error .exhausted states
  | first less => exact .first less
  | second less => exact .second less

/-- A name that is looked up is seen by both checks. -/
theorem lookup? {next further : Option Ty → Check α} {frame : FrameId} {name : String}
    (states : mirror.States state other)
    (ends : mirror.Ends fits (next (other.scopes.get? frame name) state)
      (further (other.scopes.get? frame name) other)) :
    mirror.Ends fits ((Check.lookup? frame name >>= next) state)
      ((Check.lookup? frame name >>= further) other) := by
  change mirror.Ends fits (next (state.scopes.get? frame name) state) _
  rw [states.scopes]
  exact ends

end Ends

end Mirror

end Typing

end CheckedScript
