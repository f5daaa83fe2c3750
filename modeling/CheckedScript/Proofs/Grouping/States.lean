import CheckedScript.Proofs.Grouping.Computations
import CheckedScript.Proofs.Grouping.Trees
import CheckedScript.Proofs.Renaming.Scopes
import CheckedScript.Typing.State

/-!
# States of checks of regrouped programs

The checks of two regrouped programs bind names to the same types and report the same
diagnostics.  They note the types of different expressions at different places, and the bodies
of the functions they declare are regrouped, but no type and no diagnostic depends on either.
-/

namespace CheckedScript

namespace Typing

/-- Declared functions that are the same but for groups and places. -/
structure DeclaredFunction.Regrouped (function other : DeclaredFunction) : Prop where
  name : function.name = other.name
  parameters : function.parameters = other.parameters
  body : function.body.Regrouped other.body
  closure : function.closure = other.closure
  instances : function.instances = other.instances

/-- States of the checks of two regrouped programs. -/
structure State.Regrouped (state other : State) : Prop where
  scopes : state.scopes = other.scopes
  diagnostics : state.diagnostics = other.diagnostics
  functions : PairedArrays DeclaredFunction.Regrouped state.functions other.functions
  activations : state.activations = other.activations
  generation : state.generation = other.generation

namespace State.Regrouped

variable {state other : State} (regrouped : state.Regrouped other)
include regrouped

theorem report (diagnostic : Diagnostic) :
    (state.report diagnostic).Regrouped (other.report diagnostic) := by
  unfold State.report
  rw [regrouped.diagnostics]
  split
  · exact regrouped
  · exact { regrouped with diagnostics := rfl }

theorem reports (diagnostics : List Diagnostic) :
    (diagnostics.foldl State.report state).Regrouped (diagnostics.foldl State.report other) := by
  induction diagnostics generalizing state other with
  | nil => exact regrouped
  | cons first _ inductionHypothesis => exact inductionHypothesis (regrouped.report first)

theorem bind (frame : FrameId) (name : String) (type : Ty) :
    (state.bind frame name type).Regrouped (other.bind frame name type) := by
  unfold State.bind
  rw [regrouped.scopes, regrouped.generation]
  exact { regrouped with scopes := rfl, generation := rfl }

theorem declare (frame : FrameId) (place otherPlace : Place) (name : Token)
    (parameters : List Token) {body second : Block} (bodies : body.Regrouped second) :
    (state.declare frame place name parameters body).Regrouped
      (other.declare frame otherPlace name parameters second) := by
  unfold State.declare
  dsimp only
  rw [regrouped.functions.size, regrouped.scopes]
  refine State.Regrouped.bind ?_ frame name.lexeme _
  exact { regrouped with
    scopes := rfl
    functions := regrouped.functions.push
      { name := rfl, parameters := rfl, body := bodies, closure := rfl, instances := rfl } }

theorem addReturn (type : Ty) (keyword : Token) :
    (state.addReturn type keyword).Regrouped (other.addReturn type keyword) := by
  unfold State.addReturn
  rw [regrouped.activations]
  split
  · exact regrouped
  · exact { regrouped with activations := rfl }

theorem setInstance (identifier : Nat) (key : InstanceKey) (result : Ty) :
    (state.setInstance identifier key result).Regrouped
      (other.setInstance identifier key result) := by
  refine { regrouped with functions := ?_ }
  unfold State.setInstance
  dsimp only
  refine regrouped.functions.modify (fun _ _ function => ?_) identifier
  exact { function with instances := by rw [function.instances] }

end State.Regrouped

end Typing

namespace Check

open Typing

variable {α β γ : Type}

/-- What belongs together in the checks of two regrouped programs. -/
def pursuit : Pursuit Stop State where
  stop := Eq
  state := State.Regrouped
  exhausted := .exhausted
  kept _ _ := True
  start _ := trivial

/-- With enough room, the second check comes to the end to which the first one comes. -/
def KeepsUp (first : Check α) (second : Nat → Check α) : Prop :=
  pursuit.Leads Eq first second

theorem keeps_always (check : Check α) : pursuit.Keeps check := by
  intro after state _
  cases check state <;> exact ⟨trivial, trivial⟩

theorem paired_declaration {functions others : Array DeclaredFunction}
    (paired : PairedArrays DeclaredFunction.Regrouped functions others) (name : String)
    (identifier : Nat) :
    pursuit.Pairs DeclaredFunction.Regrouped (orFault (declaration functions name identifier))
      (orFault (declaration others name identifier)) := by
  have here := paired.item identifier
  unfold declaration
  generalize functions[identifier]? = found, others[identifier]? = other at here
  cases here with
  | none => exact .throw rfl
  | some function => exact .pure function

theorem arity_regrouped {functions others : Array DeclaredFunction}
    (paired : PairedArrays DeclaredFunction.Regrouped functions others) (name : String)
    (identifier : Nat) : arity functions name identifier = arity others name identifier := by
  have here := paired.item identifier
  unfold arity declaration
  generalize functions[identifier]? = found, others[identifier]? = other at here
  cases here with
  | none => rfl
  | some function =>
      exact congrArg (fun parameters => Except.ok parameters.length) function.parameters

namespace KeepsUp

variable {first : Check α} {second : Nat → Check α}

theorem pure (value : α) : KeepsUp (Pure.pure value) fun _ => Pure.pure value :=
  .of_pairs (.pure rfl)

theorem throw (stop : Stop) :
    KeepsUp (MonadExcept.throw stop : Check α) fun _ => MonadExcept.throw stop :=
  .of_pairs (.throw rfl)

theorem exhausted : KeepsUp (MonadExcept.throw .exhausted) second :=
  Pursuit.Leads.exhausted fun room => keeps_always (second room)

theorem succ (keeps : KeepsUp first fun room => second (room + 1)) : KeepsUp first second :=
  Pursuit.Leads.succ keeps

theorem bind {next : α → Check β} {further : Nat → α → Check β} (early : KeepsUp first second)
    (late : ∀ value, KeepsUp (next value) fun room => further room value) :
    KeepsUp (first >>= next) fun room => second room >>= further room := by
  refine Pursuit.Leads.bind early ?_ fun _ _ => keeps_always _
  rintro value _ rfl
  exact late value

theorem after {δ : Type} {value : γ → δ → Prop} {first : Check γ} {second : Check δ}
    {next : γ → Check β} {further : Nat → δ → Check β} (early : pursuit.Pairs value first second)
    (late : ∀ found other, value found other →
      KeepsUp (next found) fun room => further room other) :
    KeepsUp (first >>= next) fun room => second >>= further room :=
  Pursuit.Leads.after early late

theorem get {next : State → Check β} {further : Nat → State → Check β}
    (late : ∀ state other : State, state.Regrouped other →
      KeepsUp (next state) fun room => further room other) :
    KeepsUp (MonadState.get >>= next) fun room => MonadState.get >>= further room :=
  Pursuit.Leads.get late

theorem modify {change further : State → State}
    (keeps : ∀ state other : State, state.Regrouped other →
      (change state).Regrouped (further other)) :
    KeepsUp (modifyThe State change) fun _ => modifyThe State further :=
  fun state other regrouped => .settled 0 (.ok rfl (keeps state other regrouped)) fun _ _ => rfl

theorem set {after later : State} (regrouped : after.Regrouped later) :
    KeepsUp (MonadState.set after : Check PUnit) fun _ => MonadState.set later :=
  fun _ _ _ => .settled 0 (.ok rfl regrouped) fun _ _ => rfl

theorem fail (cause : Cause) (token : Token) :
    KeepsUp (Check.fail cause token : Check α) fun _ => Check.fail cause token :=
  .throw _

theorem report (cause : Cause) (token : Token) :
    KeepsUp (Check.report cause token) fun _ => Check.report cause token :=
  .modify fun _ _ regrouped => regrouped.report _

theorem orFault (result : Except Fault α) :
    KeepsUp (Check.orFault result) fun _ => Check.orFault result := by
  cases result with
  | ok value => exact .pure value
  | error fault => exact .throw _

theorem nest (frame : FrameId) : KeepsUp (Check.nest frame) fun _ => Check.nest frame := by
  refine .of_pairs fun state other regrouped => ?_
  unfold Check.nest
  rw [regrouped.scopes]
  exact .ok rfl { regrouped with scopes := rfl }

theorem define (frame : FrameId) (bindings : Bindings Ty) :
    KeepsUp (Check.define frame bindings) fun _ => Check.define frame bindings :=
  .modify fun _ _ regrouped => { regrouped with scopes := by rw [regrouped.scopes] }

theorem bindName (frame : FrameId) (name : String) (type : Ty) :
    KeepsUp (Check.bind frame name type) fun _ => Check.bind frame name type :=
  .modify fun _ _ regrouped => regrouped.bind frame name type

theorem lookup? (frame : FrameId) (name : String) :
    KeepsUp (Check.lookup? frame name) fun _ => Check.lookup? frame name :=
  .get fun _ _ regrouped => by
    rw [regrouped.scopes]
    exact .pure _

/-- The first check may note a type. -/
theorem noting {first : Check Ty} {second : Nat → Check Ty} (keeps : KeepsUp first second)
    (place : Place) (expr : Expr) :
    KeepsUp
      (do
        let type ← first
        modifyThe State fun state => state.note place expr type
        return type) second := by
  intro state other regrouped
  rw [bind_apply]
  cases keeps state other regrouped with
  | settled bound ends same =>
      generalize first state = one at ends ⊢
      cases ends with
      | ok value after => exact .settled bound (.ok value { after with }) same
      | error stop after => exact .settled bound (.error stop after) same
  | exhausted bound equation keeps =>
      rw [equation]
      exact .exhausted bound rfl keeps

/-- The second check may note a type. -/
theorem noted {first : Check Ty} {second : Nat → Check Ty} (keeps : KeepsUp first second)
    (place : Place) (expr : Expr) :
    KeepsUp first fun room => do
      let type ← second room
      modifyThe State fun state => state.note place expr type
      return type := by
  have goesOn : pursuit.Leads Eq (first >>= fun type => Pure.pure type) fun room => do
      let type ← second room
      modifyThe State fun state => state.note place expr type
      return type := by
    refine Pursuit.Leads.bind keeps ?_ fun _ _ => keeps_always _
    rintro type _ rfl
    intro state other regrouped
    have after : State.Regrouped state (other.note place expr type) := { regrouped with }
    exact .settled 0 (.ok rfl after) fun _ _ => rfl
  rwa [bind_pure] at goesOn

theorem reporting (keeps : KeepsUp first second) :
    KeepsUp (Check.reporting first) fun room => Check.reporting (second room) := by
  refine Pursuit.Leads.changed keeps ?_ ?_ ?_ fun _ => keeps_always _ _ _ trivial
  · intro room state other ends
    unfold Check.reporting
    generalize first state = one, second room other = two at ends ⊢
    cases ends with
    | ok value after => exact .ok (congrArg some value) after
    | @error stop other after later same regrouped =>
        obtain rfl : stop = other := same
        cases stop with
        | failed diagnostic => exact .ok rfl (regrouped.report diagnostic)
        | reported => exact .ok rfl regrouped
        | faulted | exhausted => exact .error rfl regrouped
  · intro state after equation
    unfold Check.reporting
    rw [equation]
    rfl
  · intro room more state same
    unfold Check.reporting
    rw [same]

theorem onFailure (keeps : KeepsUp first second) {change : State → State}
    (changes : ∀ state other : State, state.Regrouped other →
      (change state).Regrouped (change other)) :
    KeepsUp (Check.onFailure first change) fun room => Check.onFailure (second room) change := by
  refine Pursuit.Leads.changed keeps ?_ ?_ ?_ fun _ => keeps_always _ _ _ trivial
  · intro room state other ends
    unfold Check.onFailure
    generalize first state = one, second room other = two at ends ⊢
    cases ends with
    | ok value after => exact .ok value after
    | @error stop other after later same regrouped =>
        obtain rfl : stop = other := same
        cases stop with
        | failed | reported => exact .error rfl (changes _ _ regrouped)
        | faulted | exhausted => exact .error rfl regrouped
  · intro state after equation
    unfold Check.onFailure
    rw [equation]
    rfl
  · intro room more state same
    unfold Check.onFailure
    rw [same]

/-- A body is entered: its activation is the innermost one. -/
theorem entering (activation : Activation) :
    KeepsUp
      (modifyThe State fun state =>
        { state with activations := activation :: state.activations })
      fun _ => modifyThe State fun state =>
        { state with activations := activation :: state.activations } :=
  .modify fun _ _ regrouped => { regrouped with activations := by rw [regrouped.activations] }

/-- A body is left: its activation goes, and what it has collected is given on. -/
theorem leaving {finish further : List (Ty × Token) → Check α}
    (finishes : ∀ returns, KeepsUp (finish returns) fun _ => further returns) :
    KeepsUp
      (do
        let state ← MonadState.get
        let returns := (state.activations.head?.map (·.returns)).getD []
        MonadState.set { state with activations := state.activations.tail }
        finish returns)
      (fun _ => do
        let state ← MonadState.get
        let returns := (state.activations.head?.map (·.returns)).getD []
        MonadState.set { state with activations := state.activations.tail }
        further returns) := by
  refine .get fun state other regrouped => ?_
  have after : State.Regrouped { state with activations := state.activations.tail }
      { other with activations := other.activations.tail } :=
    { regrouped with activations := by rw [regrouped.activations] }
  rw [regrouped.activations] at after ⊢
  exact (KeepsUp.set after).bind fun _ => finishes _

end KeepsUp

end Check

end CheckedScript
