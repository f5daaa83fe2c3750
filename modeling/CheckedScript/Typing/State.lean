import CheckedScript.Scope
import CheckedScript.Typing.Rules

/-!
# The state of checking

Checking walks over a program with scopes of types.  It collects diagnostics,
the type of every expression, and the declared functions.  A function is checked
anew for every list of argument types; an instance remembers what came of it,
and holds as long as no binding has since hidden or replaced a visible name,
which the generation counts.  The bodies being checked form a stack.

An expression is known by its place, the way to it from the root of its program.
-/

namespace CheckedScript

namespace Typing

/-- The steps from the root of a program to one of its nodes, the last step
first, together with their number. -/
structure Place where
  depth : Nat
  steps : List Nat
  deriving DecidableEq, Repr

namespace Place

/-- The place of the program with a given number. -/
def root (program : Nat) : Place where
  depth := 1
  steps := [program]

/-- The place one step further down. -/
def child (place : Place) (step : Nat) : Place where
  depth := place.depth + 1
  steps := step :: place.steps

end Place

/-- Argument types, and the generation in which they were met. -/
abbrev InstanceKey := List Ty × Nat

/-- A declared function: its declaration with the place of its body, the frame
it closes over, and the results of its instances. -/
structure DeclaredFunction where
  name : Token
  parameters : List Token
  body : Block
  place : Place
  closure : FrameId
  instances : Table InstanceKey Ty

/-- A body being checked for given argument types, with the returns met so far. -/
structure Activation where
  function : Nat
  arguments : List Ty
  returns : List (Ty × Token)

/-- Everything checking keeps. -/
structure State where
  scopes : Scopes Ty := {}
  diagnostics : List Diagnostic := []
  types : Table Place (Expr × Ty) := []
  functions : Array DeclaredFunction := #[]
  activations : List Activation := []
  generation : Nat := 0
  /-- The number of programs checked before. -/
  programs : Nat := 0

/-- Why a check does not go on. -/
inductive Stop where
  /-- A fault of the program that has yet to be reported. -/
  | failed (diagnostic : Diagnostic)
  /-- A fault of the program that has been reported. -/
  | reported
  | faulted (fault : Fault)
  /-- The bound on the number of steps was too small. -/
  | exhausted

/-- How many bodies of one function may be in progress at a time. -/
def nestingLimit : Nat := 16

namespace State

/-- Add a diagnostic, unless one with the same key is there. -/
def report (state : State) (diagnostic : Diagnostic) : State :=
  if state.diagnostics.any fun known => known.key = diagnostic.key then
    state
  else
    { state with diagnostics := state.diagnostics ++ [diagnostic] }

/-- Bind a name in a frame.  Hiding or replacing a visible name starts a new
generation. -/
def bind (state : State) (frame : FrameId) (name : String) (type : Ty) : State :=
  { state with
    generation :=
      if (state.scopes.get? frame name).isSome then state.generation + 1 else state.generation
    scopes := state.scopes.define frame name type }

/-- Note the type of the expression at a place. -/
def note (state : State) (place : Place) (expr : Expr) (type : Ty) : State :=
  { state with types := state.types.set place (expr, type) }

/-- Declare a function in a frame: it closes over a new frame inside that one. -/
def declare (state : State) (frame : FrameId) (place : Place) (name : Token)
    (parameters : List Token) (body : Block) : State :=
  let (closure, scopes) := state.scopes.nest frame
  let function : DeclaredFunction :=
    { name := name, parameters := parameters, body := body, place := place
      closure := closure, instances := [] }
  let type := Ty.function name.lexeme state.functions.size
  { state with
    scopes := scopes
    functions := state.functions.push function }.bind frame name.lexeme type

/-- Add a return to the innermost body being checked. -/
def addReturn (state : State) (type : Ty) (keyword : Token) : State :=
  match state.activations with
  | [] => state
  | activation :: activations =>
      { state with
        activations :=
          { activation with returns := activation.returns ++ [(type, keyword)] } :: activations }

/-- Remember the result of an instance. -/
def setInstance (state : State) (function : Nat) (key : InstanceKey) (result : Ty) : State :=
  { state with
    functions := state.functions.modify function fun found =>
      { found with instances := found.instances.set key result } }

end State

/-- The declaration behind a function type. -/
def declaration (functions : Array DeclaredFunction) (name : String) (identifier : Nat) :
    Except Fault DeclaredFunction :=
  match functions[identifier]? with
  | some found => .ok found
  | none => .error (.missingDeclaration name)

theorem declaration_eq_ok {functions : Array DeclaredFunction} {name : String} {identifier : Nat}
    {declared : DeclaredFunction} :
    declaration functions name identifier = .ok declared ↔
      functions[identifier]? = some declared := by
  unfold declaration
  cases functions[identifier]? <;> simp

/-- The number of parameters behind a function type. -/
def arity (functions : Array DeclaredFunction) (name : String) (identifier : Nat) :
    Except Fault Nat :=
  (declaration functions name identifier).map fun found => found.parameters.length

end Typing

/-- Computations that check. -/
abbrev Check := EStateM Typing.Stop Typing.State

namespace Check

open Typing

variable {α : Type}

/-- Fail with a cause charged to a token. -/
def fail (cause : Cause) (token : Token) : Check α :=
  throw (.failed { cause := cause, token := token })

/-- Report a cause charged to a token and go on. -/
def report (cause : Cause) (token : Token) : Check Unit :=
  modify fun state => state.report { cause := cause, token := token }

/-- Stop with a fault, if there is one. -/
def orFault : Except Fault α → Check α
  | .ok value => pure value
  | .error fault => throw (.faulted fault)

theorem orFault_eq_ok {result : Except Fault α} {value : α} {state after : State}
    (equation : orFault result state = .ok value after) : result = .ok value ∧ state = after := by
  cases result with
  | ok found =>
      cases equation
      exact ⟨rfl, rfl⟩
  | error fault => cases equation

/-- Run a check.  If it fails, report the diagnostic and give nothing. -/
def reporting (check : Check α) : Check (Option α) := fun state =>
  match check state with
  | .ok value after => .ok (some value) after
  | .error (.failed diagnostic) after => .ok none (after.report diagnostic)
  | .error .reported after => .ok none after
  | .error (.faulted fault) after => .error (.faulted fault) after
  | .error .exhausted after => .error .exhausted after

/-- Run a check.  If it fails, change the state before the failure goes on. -/
def onFailure (check : Check α) (change : State → State) : Check α := fun state =>
  match check state with
  | .error (.failed diagnostic) after => .error (.failed diagnostic) (change after)
  | .error .reported after => .error .reported (change after)
  | result => result

/-- Make a frame inside another one. -/
def nest (frame : FrameId) : Check FrameId := fun state =>
  let (inner, scopes) := state.scopes.nest frame
  .ok inner { state with scopes := scopes }

/-- Bind names in a frame that nobody has seen yet. -/
def define (frame : FrameId) (bindings : Bindings Ty) : Check Unit :=
  modify fun state => { state with scopes := state.scopes.defineAll frame bindings }

/-- Bind a name in a frame. -/
def bind (frame : FrameId) (name : String) (type : Ty) : Check Unit :=
  modify fun state => state.bind frame name type

/-- The type of a visible name. -/
def lookup? (frame : FrameId) (name : String) : Check (Option Ty) := do
  return (← get).scopes.get? frame name

end Check

end CheckedScript
