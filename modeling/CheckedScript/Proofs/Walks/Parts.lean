import CheckedScript.Proofs.Sessions
import CheckedScript.Proofs.Walks.Bodies

/-!
# The parts of the work of a checker

A checker goes over programs, over the statements of a program, over the functions that
no call has reached, into calls and into the bodies of functions, and over the trees of
statements and expressions.  `Part.Calls` says which part of this work leads to which
others; the states that a checker passes through are those in which a part begins and
those in which a part comes to its end.
-/

namespace CheckedScript

open Typing

namespace Check

/-- Check programs one after the other. -/
def checkEach (fuel : Nat) (natives : Bindings Signature) : List Program → Check Unit
  | [] => return ()
  | program :: programs => do
      let _ ← checkProgram fuel natives program
      checkEach fuel natives programs

end Check

namespace Typing

open Check

/-- The state in which a check comes to its end, with a value or with a failure. -/
inductive Leaves {α : Type} : EStateM.Result Stop State α → State → Prop
  | value {value : α} {after : State} : Leaves (.ok value after) after
  | failed {diagnostic : Diagnostic} {after : State} :
      Leaves (.error (.failed diagnostic) after) after
  | reported {after : State} : Leaves (.error .reported after) after

/-- A part of the work of a checker, and the state in which it begins. -/
inductive Part where
  | visit (visit : Visit)
  /-- A call of a declared function for given argument types. -/
  | call (fuel : Nat) (state : State) (name : String) (identifier : Nat) (arguments : List Ty)
      (anchor : Token)
  /-- Statements of a program. -/
  | top (fuel : Nat) (frame : FrameId) (state : State) (place : Place) (step : Nat) (last : Ty)
      (stmts : List Stmt)
  /-- The functions that no call has reached, from a given one on. -/
  | uncalled (fuel : Nat) (state : State) (identifier : Nat)
  | programs (fuel : Nat) (state : State) (natives : Bindings Signature) (programs : List Program)

namespace Part

/-- The state in which a part begins. -/
def state : Part → State
  | visit inner => inner.state
  | call _ state _ _ _ _ | top _ _ state _ _ _ _ | uncalled _ state _ | programs _ state _ _ =>
      state

/-- The part comes to its end in a state. -/
def Ends : Part → State → Prop
  | visit ⟨fuel, frame, state, .expression place expr⟩ =>
      Leaves (typeOf fuel frame place expr state)
  | visit ⟨fuel, frame, state, .expressions place step exprs⟩ =>
      Leaves (typesOf fuel frame place step exprs state)
  | visit ⟨fuel, frame, state, .statement place stmt⟩ =>
      Leaves (checkStmt fuel frame place stmt state)
  | visit ⟨fuel, frame, state, .statements place step stmts⟩ =>
      Leaves (checkAll fuel frame place step stmts state)
  | visit ⟨fuel, frame, state, .block place body⟩ => Leaves (checkBlock fuel frame place body state)
  | call fuel state name identifier arguments anchor =>
      Leaves (instantiate fuel name identifier arguments anchor state)
  | top fuel frame state place step last stmts =>
      Leaves (checkStatements fuel frame place step last stmts state)
  | uncalled fuel state identifier => Leaves (checkUncalled fuel identifier state)
  | programs fuel state natives list => Leaves (checkEach fuel natives list state)

/-- The parts that a part leads to directly. -/
inductive Calls : Part → Part → Prop
  | walk {visit called : Visit} :
      visit.Calls called → visit.refused = false → Calls (.visit visit) (.visit called)
  | request {fuel : Nat} {frame : FrameId} {state middle after : State} {place : Place}
      {callee : Expr} {paren : Token} {arguments : List Expr} {name : String} {identifier : Nat}
      {types : List Ty} :
      typeOf (fuel + 1) frame (place.child 0) callee state =
        .ok (.function name identifier) middle →
      typesOf (fuel + 1) frame place 1 arguments middle = .ok types after →
      arity after.functions name identifier = .ok types.length →
      Calls (.visit ⟨fuel + 3, frame, state, .expression place (.call callee paren arguments)⟩)
        (.call fuel after name identifier types paren)
  | body {fuel : Nat} {state : State} {name : String} {identifier : Nat} {arguments : List Ty}
      {anchor : Token} {visit : Visit} :
      BodyVisit fuel state identifier arguments visit →
      Calls (.call (fuel + 2) state name identifier arguments anchor) (.visit visit)
  | first {fuel : Nat} {frame : FrameId} {state : State} {place : Place} {step : Nat} {last : Ty}
      {stmt : Stmt} {stmts : List Stmt} :
      Calls (.top fuel frame state place step last (stmt :: stmts))
        (.visit ⟨fuel, frame, state, .statement (place.child step) stmt⟩)
  | others {fuel : Nat} {frame : FrameId} {state after : State} {place : Place} {step : Nat}
      {last : Ty} {stmt : Stmt} {stmts : List Stmt} {type : Option Ty} :
      reporting (checkStmt fuel frame (place.child step) stmt) state = .ok type after →
      Calls (.top fuel frame state place step last (stmt :: stmts))
        (.top fuel frame after place (step + 1) (type.getD .unit) stmts)
  | unreached {fuel : Nat} {state : State} {identifier : Nat} {function : DeclaredFunction} :
      state.functions[identifier]? = some function → function.instances.isEmpty = true →
      Calls (.uncalled (fuel + 1) state identifier)
        (.call fuel state function.name.lexeme identifier
          (List.replicate function.parameters.length .unknown) function.name)
  | reached {fuel : Nat} {state : State} {identifier : Nat} {function : DeclaredFunction} :
      state.functions[identifier]? = some function → function.instances.isEmpty = false →
      Calls (.uncalled (fuel + 1) state identifier) (.uncalled fuel state (identifier + 1))
  | otherUncalled {fuel : Nat} {state after : State} {identifier : Nat}
      {function : DeclaredFunction} {result : Option Ty} :
      state.functions[identifier]? = some function → function.instances.isEmpty = true →
      reporting (instantiate fuel function.name.lexeme identifier
        (List.replicate function.parameters.length .unknown) function.name) state =
          .ok result after →
      Calls (.uncalled (fuel + 1) state identifier) (.uncalled fuel after (identifier + 1))
  | statements {fuel : Nat} {state : State} {natives : Bindings Signature} {program : Program}
      {programs : List Program} :
      Calls (.programs fuel state natives (program :: programs))
        (.top fuel state.next (state.opened natives) (.root state.programs) 0 .unit program)
  | uncalled {fuel : Nat} {state middle : State} {natives : Bindings Signature}
      {program : Program} {programs : List Program} {type : Ty} :
      checkStatements fuel state.next (.root state.programs) 0 .unit program
        (state.opened natives) = .ok type middle →
      Calls (.programs fuel state natives (program :: programs)) (.uncalled fuel middle 0)
  | otherPrograms {fuel : Nat} {state after : State} {natives : Bindings Signature}
      {program : Program} {programs : List Program} {type : Ty} :
      checkProgram fuel natives program state = .ok type after →
      Calls (.programs fuel state natives (program :: programs))
        (.programs fuel after natives programs)

/-- A part of a part, at any depth, or the part itself. -/
abbrev Reaches : Part → Part → Prop :=
  Relation.ReflTransGen Calls

/-- A state in which a part begins or comes to its end. -/
def Meets (part : Part) (state : State) : Prop :=
  state = part.state ∨ part.Ends state

/-- A state in which a part of the part begins or comes to its end. -/
def Passes (part : Part) (state : State) : Prop :=
  ∃ inner, part.Reaches inner ∧ inner.Meets state

/-- A state that a part passes through on its way from its beginning to its end. -/
def PassesInside (part : Part) (state : State) : Prop :=
  ∃ inner, part.Calls inner ∧ inner.Passes state

theorem passes_iff {part : Part} {state : State} :
    part.Passes state ↔ part.Meets state ∨ part.PassesInside state := by
  constructor
  · rintro ⟨inner, reaches, meets⟩
    rcases Relation.ReflTransGen.cases_head reaches with rfl | ⟨next, calls, further⟩
    · exact .inl meets
    · exact .inr ⟨next, calls, inner, further, meets⟩
  · rintro (meets | ⟨next, calls, inner, further, meets⟩)
    · exact ⟨part, .refl, meets⟩
    · exact ⟨inner, .head calls further, meets⟩

/-- The bodies in progress are not too many, and the frame of the part exists. -/
def Stands : Part → Prop
  | visit inner => inner.state.Stands inner.frame
  | top _ frame state _ _ _ _ => state.Stands frame
  | call _ state _ _ _ _ | uncalled _ state _ | programs _ state _ _ =>
      Capped state.functions.size state.running

end Part

theorem Effect.capped {footprint : Footprint} {before after : State}
    (effect : Effect footprint before after)
    (capped : Capped before.functions.size before.running) :
    Capped after.functions.size after.running := by
  have running : after.running = before.running := effect.activations.functions_eq
  rw [running]
  exact capped.mono effect.size_functions_le

/-- The native functions are bound in a new root frame. -/
theorem State.stands_opened {state : State} (capped : Capped state.functions.size state.running)
    (natives : Bindings Signature) : (state.opened natives).Stands state.next where
  present := by
    simp [State.opened, Scopes.addRoot, Scopes.add, State.next]
  capped := capped

/-- Where a part stands, the parts that it leads to stand as well. -/
theorem Part.Calls.stands {part called : Part} (calls : part.Calls called) (stands : part.Stands) :
    called.Stands := by
  cases calls with
  | walk calls _ => exact calls.stands stands
  | request callee arguments _ =>
      have middle := (((allKeep _).typeOf _ _ _ _).effect callee).stands stands
      exact ((((allKeep _).typesOf _ _ _ _ _).effect arguments).stands middle).capped
  | body inside => exact inside.stands stands
  | first => exact stands
  | others equation =>
      exact (((allKeep _).checkStmt _ _ _ _ stands.present).reporting.effect equation).stands stands
  | unreached | reached => exact stands
  | otherUncalled _ _ equation =>
      exact (((allKeep _).instantiate _ _ _ _ _).reporting.effect equation).capped stands
  | statements => exact State.stands_opened stands _
  | uncalled equation =>
      have effect := checkStatements_effect (State.stands_opened stands _).present equation
      exact (effect.stands (State.stands_opened stands _)).capped
  | otherPrograms equation =>
      obtain ⟨middle, statements, uncalled⟩ := checkProgram_eq_ok equation
      have effect := checkStatements_effect (State.stands_opened stands _).present statements
      exact (checkUncalled_effect uncalled).capped
        (effect.stands (State.stands_opened stands _)).capped

theorem Part.Reaches.stands {part inner : Part} (reaches : part.Reaches inner)
    (stands : part.Stands) : inner.Stands := by
  induction reaches with
  | refl => exact stands
  | tail _ calls inductionHypothesis => exact calls.stands inductionHypothesis

end Typing

end CheckedScript
