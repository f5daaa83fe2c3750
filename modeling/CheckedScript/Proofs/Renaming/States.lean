import CheckedScript.Proofs.Renaming.Computations
import CheckedScript.Proofs.Renaming.Messages
import CheckedScript.Typing.State

/-!
# States of checks of renamed programs

The checks of two programs that differ in names only bind corresponding names to
corresponding types, declare corresponding functions and report corresponding diagnostics.
A diagnostic that is left out by one check, since one with the same key is there, is left
out by the other one.
-/

namespace CheckedScript

namespace Typing

variable (naming : Naming)

/-- Argument types of one instance, in two programs. -/
structure InstanceKey.Renamed (key other : InstanceKey) : Prop where
  arguments : Ty.AreRenamed naming key.1 other.1
  generation : key.2 = other.2

/-- A declared function, in two programs. -/
structure DeclaredFunction.Renamed (function other : DeclaredFunction) : Prop where
  name : function.name.NameRenamed naming other.name
  parameters : List.Forall₂ (Token.NameRenamed naming) function.parameters other.parameters
  body : function.body.Renamed naming other.body
  place : function.place = other.place
  closure : function.closure = other.closure
  instances : Table.Paired (InstanceKey.Renamed naming) (Ty.Renamed naming) function.instances
    other.instances

/-- A body being checked, in two programs. -/
structure Activation.Renamed (activation other : Activation) : Prop where
  function : activation.function = other.function
  arguments : Ty.AreRenamed naming activation.arguments other.arguments
  returns : List.Forall₂ (ReturnRenamed naming) activation.returns other.returns

/-- States of the checks of two programs that differ in names only. -/
structure State.Renamed (state other : State) : Prop where
  scopes : Scopes.Paired naming.names (Ty.Renamed naming) state.scopes other.scopes
  diagnostics : List.Forall₂ (Diagnostic.Renamed naming) state.diagnostics other.diagnostics
  functions : PairedArrays (DeclaredFunction.Renamed naming) state.functions other.functions
  activations : List.Forall₂ (Activation.Renamed naming) state.activations other.activations
  generation : state.generation = other.generation
  programs : state.programs = other.programs

/-- Why the checks of two programs that differ in names only do not go on. -/
inductive Stop.Renamed : Stop → Stop → Prop
  | failed {diagnostic other : Diagnostic} :
      diagnostic.Renamed naming other → Stop.Renamed (.failed diagnostic) (.failed other)
  | reported : Stop.Renamed .reported .reported
  | faulted {fault other : Fault} :
      fault.Alike other → Stop.Renamed (.faulted fault) (.faulted other)
  | exhausted : Stop.Renamed .exhausted .exhausted

/-- What belongs together in the checks of two programs that differ in names only. -/
def pairing : Pairing Stop State where
  stop := Stop.Renamed naming
  state := State.Renamed naming

theorem instanceKey_unique : Relator.BiUnique (InstanceKey.Renamed naming) := by
  have arguments := (Ty.renamed_unique naming).forall₂
  constructor
  · intro key other third first second
    exact Prod.ext (arguments.1 first.arguments second.arguments)
      (first.generation.trans second.generation.symm)
  · intro key other third first second
    exact Prod.ext (arguments.2 first.arguments second.arguments)
      (first.generation.symm.trans second.generation)

variable {naming}

namespace State.Renamed

variable {state other : State} (renamed : state.Renamed naming other)
include renamed

theorem report {diagnostic second : Diagnostic} (charged : diagnostic.Renamed naming second) :
    (state.report diagnostic).Renamed naming (other.report second) := by
  have known : (state.diagnostics.any fun known => known.key = diagnostic.key) =
      other.diagnostics.any fun known => known.key = second.key := by
    have diagnostics := renamed.diagnostics
    generalize state.diagnostics = reported, other.diagnostics = others at diagnostics
    induction diagnostics with
    | nil => rfl
    | cons here _ inductionHypothesis =>
        rw [List.any_cons, List.any_cons, inductionHypothesis,
          decide_eq_decide.2 (here.key_eq_iff charged)]
  unfold State.report
  rw [known]
  split
  · exact renamed
  · exact { renamed with
      diagnostics := List.rel_append renamed.diagnostics (.cons charged .nil) }

theorem reports {diagnostics others : List Diagnostic}
    (charged : List.Forall₂ (Diagnostic.Renamed naming) diagnostics others) :
    (diagnostics.foldl State.report state).Renamed naming (others.foldl State.report other) := by
  induction charged generalizing state other with
  | nil => exact renamed
  | cons first _ inductionHypothesis => exact inductionHypothesis (renamed.report first)

theorem bind (frame : FrameId) {name second : String} (names : naming.names name second)
    {type further : Ty} (types : type.Renamed naming further) :
    (state.bind frame name type).Renamed naming (other.bind frame second further) := by
  have found := renamed.scopes.get? naming.unique names frame
  refine { renamed with
    scopes := renamed.scopes.define naming.unique names frame types
    generation := ?_ }
  unfold State.bind
  dsimp only
  rw [renamed.generation]
  generalize state.scopes.get? frame name = first, other.scopes.get? frame second = last at found
  cases found <;> rfl

theorem note (place : Place) (expr further : Expr) (type last : Ty) :
    (state.note place expr type).Renamed naming (other.note place further last) :=
  { renamed with }

theorem nest (frame : FrameId) :
    State.Renamed naming { state with scopes := (state.scopes.nest frame).2 }
      { other with scopes := (other.scopes.nest frame).2 } :=
  { renamed with scopes := renamed.scopes.nest frame }

theorem declare (frame : FrameId) (place : Place) {name second : Token}
    {parameters others : List Token} {body further : Block}
    (names : name.NameRenamed naming second)
    (areNames : List.Forall₂ (Token.NameRenamed naming) parameters others)
    (bodies : body.Renamed naming further) :
    (state.declare frame place name parameters body).Renamed naming
      (other.declare frame place second others further) := by
  unfold State.declare
  dsimp only
  rw [renamed.functions.size]
  refine State.Renamed.bind ?_ frame names.names (.function _ names.names)
  exact { renamed.nest frame with
    functions := renamed.functions.push
      { name := names
        parameters := areNames
        body := bodies
        place := rfl
        closure := renamed.scopes.fst_nest frame
        instances := .nil } }

theorem addReturn {type second : Ty} {keyword further : Token}
    (types : type.Renamed naming second) (tokens : naming.tokens keyword further) :
    (state.addReturn type keyword).Renamed naming (other.addReturn second further) := by
  have activations := renamed.activations
  unfold State.addReturn
  generalize state.activations = running, other.activations = others at activations
  cases activations with
  | nil => exact renamed
  | cons activation rest =>
      exact { renamed with
        activations := .cons
          { activation with
            returns := List.rel_append activation.returns (.cons ⟨types, tokens⟩ .nil) } rest }

theorem setInstance (identifier : Nat) {key second : InstanceKey}
    (keys : key.Renamed naming second) {result further : Ty}
    (results : result.Renamed naming further) :
    (state.setInstance identifier key result).Renamed naming
      (other.setInstance identifier second further) := by
  refine { renamed with functions := ?_ }
  unfold State.setInstance
  dsimp only
  refine renamed.functions.modify (fun _ _ function => ?_) identifier
  exact { function with
    instances := function.instances.set (instanceKey_unique naming) keys results }

end State.Renamed

section Activations

variable {running others : List Activation}
  (renamed : List.Forall₂ (Activation.Renamed naming) running others)
include renamed

/-- The same body is in progress for corresponding arguments in both checks. -/
theorem find?_activations (identifier : Nat) {arguments seconds : List Ty}
    (argumentsRenamed : Ty.AreRenamed naming arguments seconds) :
    Option.Rel (Activation.Renamed naming)
      (running.find? fun activation =>
        activation.function = identifier && activation.arguments = arguments)
      (others.find? fun activation =>
        activation.function = identifier && activation.arguments = seconds) := by
  refine rel_find? (fun _ _ activation => ?_) renamed
  simp only [activation.function, activation.arguments.eq_iff argumentsRenamed]

theorem countP_activations (identifier : Nat) :
    (running.countP fun activation => activation.function = identifier) =
      others.countP fun activation => activation.function = identifier := by
  induction renamed with
  | nil => rfl
  | cons activation _ inductionHypothesis =>
      rw [List.countP_cons, List.countP_cons, inductionHypothesis, activation.function]

/-- The returns of the innermost body in both checks. -/
theorem returns_activations :
    List.Forall₂ (ReturnRenamed naming) ((running.head?.map (·.returns)).getD [])
      ((others.head?.map (·.returns)).getD []) := by
  cases renamed with
  | nil => exact .nil
  | cons activation _ => exact activation.returns

end Activations

end Typing

end CheckedScript
