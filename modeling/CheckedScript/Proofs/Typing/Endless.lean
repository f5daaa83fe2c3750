import CheckedScript.Proofs.Sessions
import CheckedScript.Proofs.Walks.Recorded
import Mathlib

/-!
# A check without end

The bodies in progress are counted for each function that has been made, and every
check of a body makes the functions anew that are declared in it.  So a function that
hands one of its own functions to itself is never stopped: in the program below each
`g` calls the `g` that `f` makes for it.
-/

namespace CheckedScript

namespace Check

open Typing

variable {α β : Type}

/-- A check uses up its bound. -/
def Exhausts (check : Check α) (state : State) : Prop :=
  ∃ after, check state = .error .exhausted after

namespace Exhausts

variable {check : Check α} {next : α → Check β} {state : State}

theorem bind (exhausts : Exhausts check state) : Exhausts (check >>= next) state := by
  obtain ⟨after, used⟩ := exhausts
  refine ⟨after, ?_⟩
  rw [bind_apply, used]

theorem bind_of_ok {value : α} {middle : State} (first : check state = .ok value middle)
    (exhausts : Exhausts (next value) middle) : Exhausts (check >>= next) state := by
  obtain ⟨after, used⟩ := exhausts
  refine ⟨after, ?_⟩
  rw [bind_apply, first]
  exact used

theorem reporting (exhausts : Exhausts check state) :
    Exhausts (Check.reporting check) state := by
  obtain ⟨after, used⟩ := exhausts
  refine ⟨after, ?_⟩
  rw [Check.reporting, used]

/-- A smaller bound is used up as well. -/
theorem of_extends {larger : Check α} (extended : Extends check larger)
    (exhausts : Exhausts larger state) : Exhausts check state := by
  rcases extended state with used | same
  · exact used
  · obtain ⟨after, used⟩ := exhausts
    exact ⟨after, same.symm.trans used⟩

end Exhausts

end Check

namespace Typing

open Check

namespace Endless

def word (lexeme : String) (column : Nat) : Token where
  kind := .identifier
  lexeme := lexeme
  position := ⟨0, column⟩

def sign (symbol : Symbol) (column : Nat) : Token where
  kind := .symbol symbol
  lexeme := symbol.spelling
  position := ⟨0, column⟩

/-- The call `f(g)`. -/
def making : Expr :=
  .call (.reference (word "f" 21)) (sign .rightParen 24) [.reference (word "g" 23)]

/-- The body of `g`, which calls what `f(g)` gives back. -/
def innerBody : Block :=
  .mk (sign .leftBrace 19) [] (some (.call making (sign .rightParen 26) []))

/-- The body of `f`, which declares `g` and gives it back. -/
def outerBody : Block :=
  .mk (sign .leftBrace 9) [.function (word "g" 15) [] innerBody] (some (.reference (word "g" 30)))

def program : Program :=
  [.function (word "f" 4) [word "h" 6] outerBody]

/-- The type of the one function `f`. -/
def maker : Ty :=
  .function "f" 0

/-- The type of a function `g`. -/
def made (number : Nat) : Ty :=
  .function "g" number

/-- There are the function `f` and a number of functions `g`, and no body of `f` is in
progress. -/
structure Stage (number : Nat) (state : State) (outer : DeclaredFunction) : Prop where
  wellFormed : state.WellFormed
  size : state.functions.size = number + 1
  found : state.functions[0]? = some outer
  parameters : outer.parameters = [word "h" 6]
  body : outer.body = outerBody
  visible : state.scopes.get? outer.closure "f" = some maker
  unknown : ∀ later ≥ number, ∀ generation,
    outer.instances.get? ([made later], generation) = none
  active : ∀ activation ∈ state.activations,
    0 < activation.function ∧ activation.function ≤ number

/-- The newest `g` has not been called yet. -/
structure Newest (number : Nat) (state : State) (inner : DeclaredFunction) : Prop where
  positive : 0 < number
  found : state.functions[number]? = some inner
  parameters : inner.parameters = []
  body : inner.body = innerBody
  makerVisible : state.scopes.get? inner.closure "f" = some maker
  madeVisible : state.scopes.get? inner.closure "g" = some (made number)
  unknown : inner.instances = []
  idle : ∀ activation ∈ state.activations, activation.function ≠ number

theorem Stage.note {number : Nat} {state : State} {outer : DeclaredFunction}
    (stage : Stage number state outer) (place : Place) (expr : Expr) (type : Ty) :
    Stage number (state.note place expr type) outer :=
  { stage with
    wellFormed := ⟨stage.wellFormed.ordered, stage.wellFormed.closures⟩ }

/-- Where a function closes over, its own name means it, and every other name means
what it means where the function is declared. -/
theorem get?_declare {state : State} (ordered : state.scopes.Ordered) {frame : FrameId}
    (present : frame < state.scopes.frames.size) (place : Place) (name : Token)
    (parameters : List Token) (body : Block) (wanted : String) :
    (state.declare frame place name parameters body).scopes.get? state.scopes.frames.size wanted =
      if name.lexeme = wanted then some (.function name.lexeme state.functions.size)
      else state.scopes.get? frame wanted := by
  let nested := (state.scopes.nest frame).2
  let type := Ty.function name.lexeme state.functions.size
  have presentNested : frame < nested.frames.size := by
    simp only [nested, Scopes.size_frames_nest]
    exact Nat.lt_succ_of_lt present
  have empty : (nested.define frame name.lexeme type).bindings state.scopes.frames.size = [] := by
    rw [Scopes.bindings_define nested presentNested, if_neg (Nat.ne_of_lt present)]
    exact Scopes.bindings_nest state.scopes frame
  have inside : (nested.define frame name.lexeme type).ancestors state.scopes.frames.size =
      (nested.define frame name.lexeme type).path frame := by
    rw [Scopes.ancestors_define, Scopes.path_define,
      (Scopes.Grown.nest state.scopes frame).path present]
    exact Scopes.ancestors_nest state.scopes frame
  change (nested.define frame name.lexeme type).get? _ wanted = _
  rw [Scopes.get?_inside empty inside]
  by_cases own : name.lexeme = wanted
  · rw [if_pos own, ← own, Scopes.get?_define_self nested presentNested]
  · rw [if_neg own, Scopes.get?_define_of_ne nested presentNested frame own,
      Scopes.get?_nest_of_lt ordered frame present]

theorem typeOf_reference (fuel : Nat) (frame : FrameId) (place : Place) {name : Token} {type : Ty}
    {state : State} (found : state.scopes.get? frame name.lexeme = some type) :
    typeOf (fuel + 2) frame place (.reference name) state =
      .ok type (state.note place (.reference name) type) := by
  rw [typeOf, bind_apply, infer, lookup?_bind_apply, found]
  rfl

/-- The state after `f` has been checked for an argument: another `g` is there. -/
def remade (state : State) (outer : DeclaredFunction) (argument : Ty) (number : Nat) : State :=
  (((AllKeep.entered state outer [argument]).declare state.scopes.frames.size
        ((outer.place.child 0).child 0) (word "g" 15) [] innerBody).note
      (outer.place.child 1) (.reference (word "g" 30)) (made (number + 1))).setInstance 0
    ([argument], state.generation) (made (number + 1))

/-- The body of `f` declares a new `g` and gives it back. -/
theorem throughBody_outer (fuel : Nat) {outer : DeclaredFunction} (body : outer.body = outerBody)
    {frame : FrameId} {number : Nat} (state : State) (size : state.functions.size = number + 1)
    (present : frame < state.scopes.frames.size) :
    AllKeep.throughBody (fuel + 3) outer frame state =
      .ok (some (made (number + 1)))
        ((state.declare frame ((outer.place.child 0).child 0) (word "g" 15) [] innerBody).note
          (outer.place.child 1) (.reference (word "g" 30)) (made (number + 1))) := by
  have declared : checkAll (fuel + 3) frame outer.place 0 outerBody.statements state =
      .ok () (state.declare frame ((outer.place.child 0).child 0) (word "g" 15) [] innerBody) :=
    rfl
  have named : (state.declare frame ((outer.place.child 0).child 0) (word "g" 15) []
      innerBody).scopes.get? frame "g" = some (made (number + 1)) := by
    change ((state.scopes.nest frame).2.define frame "g" (.function "g" state.functions.size)).get?
      frame "g" = _
    rw [Scopes.get?_define_self _ (by simpa using Nat.lt_succ_of_lt present), size]
    rfl
  rw [AllKeep.throughBody, body, bind_apply, declared]
  change reporting (typeOf (fuel + 3) frame _ (.reference (word "g" 30))) _ = _
  rw [reporting, typeOf_reference (fuel + 1) frame _ named]
  rfl

/-- A new instance of a function no body of which is in progress is checked. -/
theorem instantiate_idle {fuel identifier : Nat} {state : State} {function : DeclaredFunction}
    {arguments : List Ty} (name : String) (anchor : Token)
    (found : state.functions[identifier]? = some function)
    (unknown : function.instances.get? (arguments, state.generation) = none)
    (idle : ∀ activation ∈ state.activations, activation.function ≠ identifier) :
    instantiate (fuel + 1) name identifier arguments anchor state =
      (do
        let results ← checkBody fuel identifier arguments function state.scopes.frames.size
        let result := chooseResult (results.map Prod.fst)
        modify fun after =>
          ((returnMismatches name result results).foldl State.report after).setInstance identifier
            (arguments, state.generation) result
        return result) (AllKeep.entered state function arguments) := by
  have none : (state.activations.find? fun activation =>
      activation.function = identifier && activation.arguments = arguments) = none := by
    rw [List.find?_eq_none]
    intro activation member
    simp [idle activation member]
  have few : (state.activations.countP fun activation => activation.function = identifier) <
      nestingLimit := by
    rw [List.countP_eq_zero.2 fun activation member => by simp [idle activation member]]
    decide
  rw [instantiate_new name anchor found unknown none few, bind_apply]
  cases checkBody fuel identifier arguments function state.scopes.frames.size
    (AllKeep.entered state function arguments) <;> rfl

/-- A new call of `f` gives back a new `g`. -/
theorem Stage.instantiate {number : Nat} {state : State} {outer : DeclaredFunction}
    (stage : Stage number state outer) (fuel : Nat) (name : String) (anchor : Token)
    {argument : Ty} (unknown : outer.instances.get? ([argument], state.generation) = none) :
    instantiate (fuel + 5) name 0 [argument] anchor state =
      .ok (made (number + 1)) (remade state outer argument number) := by
  have idle : ∀ activation ∈ state.activations, activation.function ≠ 0 := by
    intro activation member
    exact Nat.ne_of_gt (stage.active activation member).1
  have checked : checkBody (fuel + 4) 0 [argument] outer state.scopes.frames.size
      (AllKeep.entered state outer [argument]) =
      .ok [(made (number + 1), outer.name)]
        (((AllKeep.entered state outer [argument]).declare state.scopes.frames.size
          ((outer.place.child 0).child 0) (word "g" 15) [] innerBody).note
            (outer.place.child 1) (.reference (word "g" 30)) (made (number + 1))) := by
    have present : state.scopes.frames.size <
        (AllKeep.entered state outer [argument]).scopes.frames.size := by
      simp [AllKeep.entered]
    have ends : blockReturns outer.body = false := by
      rw [stage.body]
      rfl
    have through := throughBody_outer fuel stage.body
      { AllKeep.entered state outer [argument] with
        activations := { function := 0, arguments := [argument], returns := [] } ::
          (AllKeep.entered state outer [argument]).activations } stage.size present
    rw [AllKeep.checkBody_apply, through]
    dsimp only
    rw [ends]
    rfl
  have returned : chooseResult [made (number + 1)] = made (number + 1) := rfl
  have fits : returnMismatches name (made (number + 1)) [(made (number + 1), outer.name)] = [] := by
    simp [returnMismatches, made, Ty.compatible]
  rw [instantiate_idle name anchor stage.found unknown idle, bind_apply, checked]
  dsimp only [List.map]
  rw [returned, fits]
  rfl

/-- A call of a declared function with as many arguments as it has parameters. -/
theorem callType_function (fuel : Nat) {name : String} {identifier : Nat} {arguments : List Ty}
    (paren : Token) {state : State} {function : DeclaredFunction}
    (found : state.functions[identifier]? = some function)
    (arity : function.parameters.length = arguments.length) :
    callType (fuel + 1) (.function name identifier) arguments paren state =
      instantiate fuel name identifier arguments paren state := by
  have expected : Typing.arity state.functions name identifier = .ok arguments.length := by
    rw [Typing.arity, declaration_eq_ok.2 found, ← arity]
    rfl
  rw [callType, get_bind_apply, expected]
  change (if arguments.length = arguments.length then _ else _ : Check Ty) state = _
  rw [if_pos rfl]

/-- The new `g` is the last function, and what `f` gives back is remembered. -/
theorem functions_remade (state : State) (outer : DeclaredFunction) (argument : Ty) (number : Nat) :
    (remade state outer argument number).functions =
      (state.functions.push
        { name := word "g" 15, parameters := [], body := innerBody
          place := (outer.place.child 0).child 0, closure := state.scopes.frames.size + 1
          instances := [] }).modify 0 fun found =>
        { found with
          instances := found.instances.set ([argument], state.generation) (made (number + 1)) } := by
  simp [remade, State.setInstance, State.note, State.declare, State.bind, AllKeep.entered]

/-- In the new `g`, the names `f` and `g` mean the function `f` and this `g`. -/
theorem Stage.visible_remade {number : Nat} {state : State} {outer : DeclaredFunction}
    (stage : Stage number state outer) (argument : Ty) :
    (remade state outer argument number).scopes.get? (state.scopes.frames.size + 1) "f" =
        some maker ∧
      (remade state outer argument number).scopes.get? (state.scopes.frames.size + 1) "g" =
        some (made (number + 1)) := by
  let frame := state.scopes.frames.size
  have closure := stage.wellFormed.closures 0 outer stage.found
  have ordered := ((AllKeep.effect_entered state stage.found [argument]).wellFormed
    stage.wellFormed).ordered
  have size : (AllKeep.entered state outer [argument]).scopes.frames.size = frame + 1 := by
    simp [AllKeep.entered, frame]
  have present : frame < (AllKeep.entered state outer [argument]).scopes.frames.size := by
    omega
  have meaning : ∀ name, (remade state outer argument number).scopes.get? (frame + 1) name =
      if "g" = name then some (.function "g" (number + 1))
      else (AllKeep.entered state outer [argument]).scopes.get? frame name := by
    intro name
    rw [← size, ← stage.size]
    exact get?_declare ordered present _ _ _ _ name
  constructor
  · rw [meaning, if_neg (by decide), AllKeep.entered, stage.parameters]
    change (Scopes.define _ frame "h" argument).get? frame "f" = _
    rw [Scopes.get?_define_of_ne _ (by simp [frame]) frame (by decide)]
    exact (Scopes.get?_nest stage.wellFormed.ordered closure "f").trans stage.visible
  · rw [meaning, if_pos rfl]
    rfl

/-- After a new call of `f`, the `g` it gives back is the newest. -/
theorem Stage.remade {number : Nat} {state : State} {outer : DeclaredFunction}
    (stage : Stage number state outer) {argument : Ty}
    (unknown : outer.instances.get? ([argument], state.generation) = none)
    (old : ∀ later > number, argument ≠ made later) :
    ∃ outer' inner, Stage (number + 1) (remade state outer argument number) outer' ∧
      Newest (number + 1) (remade state outer argument number) inner := by
  let outer' : DeclaredFunction :=
    { outer with
      instances := outer.instances.set ([argument], state.generation) (made (number + 1)) }
  let inner : DeclaredFunction :=
    { name := word "g" 15, parameters := [], body := innerBody
      place := (outer.place.child 0).child 0, closure := state.scopes.frames.size + 1
      instances := [] }
  have effect := ((allKeep 5).instantiate "f" 0 [argument] outer.name state).effect
    (stage.instantiate 0 "f" outer.name unknown)
  have present := stage.wellFormed.closures 0 outer stage.found
  have view : SameView outer.closure state (Endless.remade state outer argument number) :=
    .of_effect effect stage.wellFormed present fun _ _ => not_false
  have names := stage.visible_remade argument
  have foundOuter : (Endless.remade state outer argument number).functions[0]? = some outer' := by
    rw [functions_remade, Array.getElem?_modify, if_pos rfl, Array.getElem?_push,
      if_neg (by rw [stage.size]; omega), stage.found]
    rfl
  have foundInner : (Endless.remade state outer argument number).functions[number + 1]? =
      some inner := by
    rw [functions_remade, Array.getElem?_modify, if_neg (by omega), Array.getElem?_push,
      if_pos stage.size.symm]
  have size : (Endless.remade state outer argument number).functions.size = number + 1 + 1 := by
    rw [functions_remade, Array.size_modify, Array.size_push, stage.size]
  have unknown' : ∀ later ≥ number + 1, ∀ generation,
      outer'.instances.get? ([made later], generation) = none := by
    intro later above generation
    have different : ([argument], state.generation) ≠ ([made later], generation) := by
      intro same
      exact old later above (List.cons.inj (Prod.mk.inj same).1).1
    rw [Table.get?_set, if_neg different]
    exact stage.unknown later (by omega) generation
  have active : ∀ activation ∈ state.activations,
      0 < activation.function ∧ activation.function ≤ number :=
    stage.active
  refine ⟨outer', inner, ?_, ?_⟩
  · exact
      { wellFormed := effect.wellFormed stage.wellFormed
        size := size
        found := foundOuter
        parameters := stage.parameters
        body := stage.body
        visible := (view.get? "f").trans stage.visible
        unknown := unknown'
        active := fun activation member =>
          ⟨(active activation member).1, Nat.le_succ_of_le (active activation member).2⟩ }
  · exact
      { positive := Nat.succ_pos number
        found := foundInner
        parameters := rfl
        body := rfl
        makerVisible := names.1
        madeVisible := names.2
        unknown := rfl
        idle := fun activation member =>
          Nat.ne_of_lt (Nat.lt_succ_of_le (active activation member).2) }

/-- The state in which `f` is called for a function `g`. -/
def met (state : State) (place : Place) (number : Nat) : State :=
  (state.note (place.child 0) (.reference (word "f" 21)) maker).note (place.child 1)
    (.reference (word "g" 23)) (made number)

theorem Stage.met {number : Nat} {state : State} {outer : DeclaredFunction}
    (stage : Stage number state outer) (place : Place) :
    Stage number (met state place number) outer :=
  (stage.note _ _ _).note _ _ _

/-- The call `f(g)` gives back a new `g`. -/
theorem Stage.typeOf_making {number : Nat} {state : State} {outer : DeclaredFunction}
    (stage : Stage number state outer) (fuel : Nat) {frame : FrameId} (place : Place)
    (makerVisible : state.scopes.get? frame "f" = some maker)
    (madeVisible : state.scopes.get? frame "g" = some (made number)) :
    typeOf (fuel + 8) frame place making state = .ok (made (number + 1))
      ((Endless.remade (Endless.met state place number) outer (made number) number).note place
        making (made (number + 1))) := by
  let named := state.note (place.child 0) (.reference (word "f" 21)) maker
  have callee : typeOf (fuel + 6) frame (place.child 0) (.reference (word "f" 21)) state =
      .ok maker named :=
    typeOf_reference (fuel + 4) frame _ makerVisible
  have argument : typeOf (fuel + 5) frame (place.child 1) (.reference (word "g" 23)) named =
      .ok (made number) (Endless.met state place number) :=
    typeOf_reference (fuel + 3) frame _ madeVisible
  have arguments : typesOf (fuel + 6) frame place 1 [.reference (word "g" 23)] named =
      .ok [made number] (Endless.met state place number) := by
    rw [typesOf, bind_apply, argument]
    rfl
  have arity : outer.parameters.length = [made number].length := by
    rw [stage.parameters]
    rfl
  have called : callType (fuel + 6) maker [made number] (sign .rightParen 24)
      (Endless.met state place number) =
      .ok (made (number + 1))
        (Endless.remade (Endless.met state place number) outer (made number) number) := by
    rw [maker, callType_function (fuel + 5) _ (stage.met place).found arity]
    exact (stage.met place).instantiate fuel "f" _ (stage.unknown number (Nat.le_refl number) _)
  rw [typeOf, making, bind_apply, infer, bind_apply, callee]
  dsimp only
  rw [bind_apply, arguments]
  dsimp only
  rw [called]
  rfl

/-- The state in which the body of the newest `g` is checked. -/
def calling (state : State) (inner : DeclaredFunction) (number : Nat) : State :=
  { AllKeep.entered state inner [] with
    activations := { function := number, arguments := [], returns := [] } :: state.activations }

theorem scopes_calling {number : Nat} {state : State} {inner : DeclaredFunction}
    (newest : Newest number state inner) :
    (calling state inner number).scopes = (state.scopes.nest inner.closure).2 := by
  simp [calling, AllKeep.entered, newest.parameters, Scopes.defineAll]

theorem Stage.calling {number : Nat} {state : State} {outer inner : DeclaredFunction}
    (stage : Stage number state outer) (newest : Newest number state inner) :
    Stage number (calling state inner number) outer := by
  have present := stage.wellFormed.closures 0 outer stage.found
  have entered := (AllKeep.effect_entered state newest.found []).wellFormed stage.wellFormed
  exact
    { stage with
      wellFormed := ⟨entered.ordered, entered.closures⟩
      visible := by
        rw [scopes_calling newest,
          Scopes.get?_nest_of_lt stage.wellFormed.ordered _ present, stage.visible]
      active := by
        intro activation member
        rcases List.mem_cons.1 member with rfl | member
        · exact ⟨newest.positive, Nat.le_refl number⟩
        · exact stage.active activation member }

/-- The body of the newest `g` makes another `g`. -/
theorem Stage.next {number : Nat} {state : State} {outer inner : DeclaredFunction}
    (stage : Stage number state outer) (newest : Newest number state inner) (place : Place) :
    ∃ after outer' inner', Stage (number + 1) after outer' ∧ Newest (number + 1) after inner' ∧
      ∀ fuel, typeOf (fuel + 8) state.scopes.frames.size place making
        (Endless.calling state inner number) = .ok (made (number + 1)) after := by
  have present := stage.wellFormed.closures number inner newest.found
  have shown : ∀ name, (Endless.calling state inner number).scopes.get? state.scopes.frames.size
      name = state.scopes.get? inner.closure name := by
    intro name
    rw [scopes_calling newest, Scopes.get?_nest stage.wellFormed.ordered present]
  have called := stage.calling newest
  have different : ∀ later > number, made number ≠ made later := by
    intro later above same
    exact Nat.ne_of_lt above (Ty.function.inj same).2
  obtain ⟨outer', inner', stage', newest'⟩ := (called.met place).remade
    (stage.unknown number (Nat.le_refl number) _) different
  refine ⟨_, outer', inner', stage'.note place making (made (number + 1)), ?_, ?_⟩
  · exact { newest' with }
  · intro fuel
    exact called.typeOf_making fuel place ((shown "f").trans newest.makerVisible)
      ((shown "g").trans newest.madeVisible)

/-- If the call of the function that `f(g)` gives back uses up its bound, then so does
the body of `g`. -/
theorem exhausts_throughBody {fuel : Nat} {inner : DeclaredFunction} {frame : FrameId}
    {state after : State} {result : Ty} (body : inner.body = innerBody)
    (typed : ∀ fuel, typeOf (fuel + 8) frame ((inner.place.child 0).child 0) making state =
      .ok result after)
    (called : Exhausts (callType (fuel + 1) result [] (sign .rightParen 26)) after) :
    Exhausts (AllKeep.throughBody (fuel + 3) inner frame) state := by
  have extended : Extends (typeOf (fuel + 1) frame ((inner.place.child 0).child 0) making)
      (typeOf (fuel + 8) frame ((inner.place.child 0).child 0) making) :=
    Extends.of_le (fun fuel => (allExtend fuel).typeOf frame _ making) (by omega)
  have inferred : Exhausts (infer (fuel + 2) frame (inner.place.child 0)
      (.call making (sign .rightParen 26) [])) state := by
    rw [infer]
    rcases extended state with used | same
    · exact Exhausts.bind used
    · exact Exhausts.bind_of_ok (same.symm.trans (typed fuel)) (Exhausts.bind_of_ok rfl called)
  rw [AllKeep.throughBody, body]
  refine Exhausts.bind_of_ok rfl (Exhausts.reporting ?_)
  rw [typeOf]
  exact inferred.bind

/-- However large the bound is, checking the newest `g` uses it up. -/
theorem Stage.exhausts {number : Nat} {state : State} {outer inner : DeclaredFunction}
    (stage : Stage number state outer) (newest : Newest number state inner) (name : String)
    (anchor : Token) (turns : Nat) :
    Exhausts (Check.instantiate (5 * turns) name number [] anchor) state := by
  induction turns generalizing number state outer inner name anchor with
  | zero => exact ⟨state, rfl⟩
  | succ turns inductionHypothesis =>
      obtain ⟨after, outer', inner', stage', newest', typed⟩ := stage.next newest
        ((inner.place.child 0).child 0)
      have arity : inner'.parameters.length = ([] : List Ty).length := by
        rw [newest'.parameters]
        rfl
      have called : Exhausts (callType (5 * turns + 1) (made (number + 1)) []
          (sign .rightParen 26)) after := by
        unfold Exhausts
        rw [made, callType_function (5 * turns) _ newest'.found arity]
        exact inductionHypothesis stage' newest' "g" _
      have through := exhausts_throughBody newest.body typed called
      have unknown : inner.instances.get? ([], state.generation) = none := by
        rw [newest.unknown]
        rfl
      have entered : Exhausts (checkBody (5 * turns + 4) number [] inner state.scopes.frames.size)
          (AllKeep.entered state inner []) := by
        obtain ⟨last, used⟩ := through
        refine ⟨last, ?_⟩
        have used : AllKeep.throughBody (5 * turns + 3) inner state.scopes.frames.size
            { AllKeep.entered state inner [] with
              activations := { function := number, arguments := [], returns := [] } ::
                (AllKeep.entered state inner []).activations } = .error .exhausted last :=
          used
        rw [AllKeep.checkBody_apply, used]
      have fuel : 5 * (turns + 1) = 5 * turns + 4 + 1 := by
        omega
      unfold Exhausts
      rw [fuel, instantiate_idle name anchor newest.found unknown newest.idle]
      exact entered.bind

/-- The state in which only `f` is declared. -/
def started (natives : Bindings Signature) : State :=
  (({} : State).opened natives).declare 0 (((Place.root 0).child 0).child 0) (word "f" 4)
    [word "h" 6] outerBody

theorem checkTop_program (fuel : Nat) (natives : Bindings Signature) :
    checkTop (fuel + 1) natives program {} = .ok .unit (started natives) :=
  rfl

theorem stage_started (natives : Bindings Signature) :
    ∃ outer, Stage 0 (started natives) outer ∧ outer.instances = [] := by
  let opened := ({} : State).opened natives
  let outer : DeclaredFunction :=
    { name := word "f" 4, parameters := [word "h" 6], body := outerBody
      place := ((Place.root 0).child 0).child 0, closure := opened.scopes.frames.size
      instances := [] }
  have wellFormed : opened.WellFormed := wellFormed_start natives
  have present : 0 < opened.scopes.frames.size := by
    simp [opened, State.opened, Scopes.addRoot, Scopes.add]
  have visible : (started natives).scopes.get? opened.scopes.frames.size "f" = some maker :=
    (get?_declare wellFormed.ordered present _ _ _ _ "f").trans (if_pos rfl)
  have declared : Effect (.body 0) opened (started natives) :=
    .declare opened _ _ _ _ present rfl trivial
  refine ⟨outer, ?_, rfl⟩
  exact
    { wellFormed := declared.wellFormed wellFormed
      size := rfl
      found := rfl
      parameters := rfl
      body := rfl
      visible := visible
      unknown := fun _ _ _ => rfl
      active := fun _ member => absurd member List.not_mem_nil }

/-- However large the bound is, checking the functions no call has reached uses it up. -/
theorem exhausts_checkUncalled (fuel : Nat) (natives : Bindings Signature) :
    Exhausts (checkUncalled (fuel + 7) 0) (started natives) := by
  obtain ⟨outer, stage, noInstances⟩ := stage_started natives
  have unknown : outer.instances.get? ([.unknown], (started natives).generation) = none := by
    rw [noInstances]
    rfl
  obtain ⟨outer', inner, stage', newest⟩ := stage.remade unknown (fun _ _ => nofun)
  have last : Exhausts (checkUncalled (fuel + 6) 1)
      (remade (started natives) outer .unknown 0) := by
    have extended : Extends (instantiate (fuel + 5) inner.name.lexeme 1 [] inner.name)
        (instantiate (5 * (fuel + 1)) inner.name.lexeme 1 [] inner.name) :=
      Extends.of_le (fun fuel => (allExtend fuel).instantiate _ _ _ _) (by omega)
    have checked := (stage'.exhausts newest inner.name.lexeme inner.name (fuel + 1)).of_extends
      extended
    unfold Exhausts
    rw [checkUncalled, get_bind_apply, newest.found]
    dsimp only
    rw [newest.unknown, newest.parameters]
    exact checked.reporting.bind
  have checked : reporting (instantiate (fuel + 6) outer.name.lexeme 0 [.unknown] outer.name)
      (started natives) = .ok (some (made 1)) (remade (started natives) outer .unknown 0) := by
    rw [reporting, stage.instantiate (fuel + 1) _ _ unknown]
  unfold Exhausts
  rw [checkUncalled, get_bind_apply, stage.found]
  dsimp only
  rw [noInstances, stage.parameters]
  exact Exhausts.bind_of_ok checked last

/-- However large the bound is, the check of the program uses it up. -/
theorem check_program (fuel : Nat) (natives : Bindings Signature) :
    (({} : State).check fuel natives program).1 = .exhausted := by
  have first : Exhausts (checkUncalled fuel 0) (started natives) :=
    (exhausts_checkUncalled fuel natives).of_extends
      (Extends.of_le (fun fuel => extends_checkUncalled fuel 0) (by omega))
  have exhausts : Exhausts (checkProgram fuel natives program) {} := by
    rw [checkProgram_eq]
    cases fuel with
    | zero => exact Exhausts.bind ⟨_, rfl⟩
    | succ fuel => exact Exhausts.bind_of_ok (checkTop_program fuel natives) first.bind
  obtain ⟨after, used⟩ := exhausts
  rw [State.check, used]

theorem ofSource_program :
    Program.ofSource "fun f(h) \x7b fun g() \x7b f(g)() \x7d g \x7d" = .ok program := by
  cbv

end Endless

/-- There is a program whose check comes to no end under any bound. -/
theorem check_without_end :
    ¬ ∀ source program, Program.ofSource source = .ok program →
      ∃ fuel, (({} : State).check fuel (Native.signatures Native.defaults) program).1 ≠
        .exhausted := by
  intro ends
  obtain ⟨fuel, ended⟩ := ends _ _ Endless.ofSource_program
  exact ended (Endless.check_program fuel _)

end Typing

end CheckedScript
