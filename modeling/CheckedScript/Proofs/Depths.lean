import CheckedScript.Proofs.Walks.CheckDepths
import CheckedScript.Proofs.Walks.RunDepths

/-!
# The scopes of checks and runs have the shape of the tree

Whatever a run executes and whatever a check visits, the frame it does so in is as deep as
the place in the tree.  So a name is looked for through as many frames by a check as it is
by a run, however many calls and turns of loops are in progress, and a function, too, closes
over frames of the same depth in both.
-/

namespace CheckedScript

namespace Evaluation

open Eval

/-- A closure that is within reach when a run turns to a visit: it is bound somewhere, or the
visit is the call of a function and it is passed there. -/
def Visit.Meets (visit : Visit) (closure : Closure) : Prop :=
  (∃ stored ∈ visit.machine.scopes.frames, ∃ binding ∈ stored.bindings,
    closure ∈ binding.2.closures) ∨
  closure ∈ Value.closuresOfAll visit.task.given

/-- In all that a run visits, frames are as deep as places. -/
structure KeepsDepths (natives : List Native) (bound : Nat) (program : Program) : Prop where
  expression : ∀ fuel frame machine place expr,
    Reaches natives bound program ⟨fuel, frame, machine, .expression place expr⟩ →
    program.nodeAt? place = some (.expression expr, machine.scopes.depth frame)
  statement : ∀ fuel frame machine place stmt,
    Reaches natives bound program ⟨fuel, frame, machine, .statement place stmt⟩ →
    program.nodeAt? place = some (.statement stmt, machine.scopes.depth frame)
  /-- The function that a function statement makes closes over a frame one deeper. -/
  made : ∀ fuel frame machine place name parameters body,
    Reaches natives bound program
      ⟨fuel + 1, frame, machine, .statement place (.function name parameters body)⟩ →
    ∃ depth after,
      program.nodeAt? place = some (.statement (.function name parameters body), depth) ∧
      execute natives (fuel + 1) frame (.function name parameters body) machine =
        .ok .unit after ∧
      after.scopes.get? frame name.lexeme =
        some (.function (machine.closure name parameters body)) ∧
      after.scopes.depth (machine.closure name parameters body).frame = depth + 1
  /-- It does so for as long as there is a way to call it. -/
  closures : ∀ visit closure, Reaches natives bound program visit → visit.Meets closure →
    ∃ place name parameters depth,
      program.nodeAt? place = some (.statement (.function name parameters closure.body), depth) ∧
      visit.machine.scopes.depth closure.frame = depth + 1
  /-- No body that is executed is left out. -/
  bodies : ∀ fuel caller machine closure arguments,
    Reaches natives bound program
      ⟨fuel + 1, caller, machine, .call (.function closure) arguments⟩ →
    closure.parameters.length = arguments.length →
    ∃ place name parameters depth,
      program.nodeAt? place = some (.statement (.function name parameters closure.body), depth) ∧
      Reaches natives bound program
        ⟨fuel, machine.next, machine.entered closure arguments,
          .body (place.child 0) closure.body⟩

theorem keepsDepths {natives : List Native} (passOn : ∀ native ∈ natives, native.PassesOn)
    (bound : Nat) (program : Program) : KeepsDepths natives bound program where
  expression _ _ _ _ _ reaches := (reaches.seated passOn).stands
  statement _ _ _ _ _ reaches := (reaches.seated passOn).stands
  made fuel frame machine place name parameters body reaches := by
    have seated := reaches.seated passOn
    have present : frame < (machine.nested frame).scopes.frames.size :=
      Nat.lt_of_lt_of_le seated.present (Scopes.Grown.nest _ _).size
    have new : machine.next < (machine.nested frame).scopes.frames.size := by
      simp [Machine.nested, Machine.next]
    have further := Scopes.Grown.define (machine.nested frame).scopes frame name.lexeme
      (.function (machine.closure name parameters body))
    exact ⟨machine.scopes.depth frame, _, seated.stands, rfl,
      Scopes.get?_define_self _ present _ _,
      (further.depth new).trans (Scopes.depth_nest machine.scopes frame)⟩
  closures visit closure reaches meets := by
    have seated := reaches.seated passOn
    have known : Known natives bound program visit.machine closure := by
      rcases meets with ⟨stored, isStored, binding, isBound, carried⟩ | given
      · exact seated.tame stored isStored binding isBound closure carried
      · exact seated.given closure given
    obtain ⟨place, name, parameters, depth, found, _, _, closes⟩ := known.depth
    exact ⟨place, name, parameters, depth, found, closes⟩
  bodies _ _ _ _ _ reaches length := reaches.enters passOn length

end Evaluation

namespace Typing

open Check

/-- In all that a check visits, frames are as deep as places. -/
structure KeepsDepths (natives : Bindings Signature) (bound : Nat) (program : Program) : Prop where
  expression : ∀ fuel frame state place expr,
    Reaches natives bound program ⟨fuel, frame, state, .expression place expr⟩ →
    program.nodeAt? place = some (.expression expr, state.scopes.depth frame)
  statement : ∀ fuel frame state place stmt,
    Reaches natives bound program ⟨fuel, frame, state, .statement place stmt⟩ →
    program.nodeAt? place = some (.statement stmt, state.scopes.depth frame)
  /-- The function that a function statement declares closes over a frame one deeper. -/
  made : ∀ fuel frame state place name parameters body,
    Reaches natives bound program
      ⟨fuel + 1, frame, state, .statement place (.function name parameters body)⟩ →
    ∃ depth after function,
      program.nodeAt? place = some (.statement (.function name parameters body), depth) ∧
      checkStmt (fuel + 1) frame place (.function name parameters body) state = .ok .unit after ∧
      after.scopes.get? frame name.lexeme =
        some (.function name.lexeme state.functions.size) ∧
      after.functions[state.functions.size]? = some function ∧
      after.scopes.depth function.closure = depth + 1
  /-- It does so for as long as the check goes on. -/
  functions : ∀ (visit : Visit) (identifier : Nat) (function : DeclaredFunction),
    Reaches natives bound program visit →
    visit.state.functions[identifier]? = some function →
    ∃ place depth,
      program.nodeAt? place =
        some (.statement (.function function.name function.parameters function.body), depth) ∧
      visit.state.scopes.depth function.closure = depth + 1

theorem keepsDepths (natives : Bindings Signature) (bound : Nat) (program : Program) :
    KeepsDepths natives bound program where
  expression _ _ _ _ _ reaches := reaches.seats.stands
  statement _ _ _ _ _ reaches := reaches.seats.stands
  made fuel frame state place name parameters body reaches := by
    have seats := reaches.seats
    have present : frame < (state.nested frame).scopes.frames.size :=
      Nat.lt_of_lt_of_le seats.present (Scopes.Grown.nest _ _).size
    have further := Scopes.Grown.define (state.nested frame).scopes frame name.lexeme
      (.function name.lexeme state.functions.size)
    refine ⟨state.scopes.depth frame, _, _, seats.stands, rfl,
      Scopes.get?_define_self _ present _ _, Array.getElem?_push_size, ?_⟩
    exact (further.depth (state.next_nested frame)).trans
      (Scopes.depth_nest state.scopes frame)
  functions visit identifier function reaches found := by
    obtain ⟨place, depth, _, stands, _, closes⟩ := reaches.seats.placed identifier function found
    exact ⟨place, depth, stands, closes⟩

end Typing

/-- The frames of a run and the frames of a check are as deep as the places of a program. -/
theorem Program.frames_are_as_deep_as_places {natives : List Native}
    (passOn : ∀ native ∈ natives, native.PassesOn) (signatures : Bindings Signature)
    (bound : Nat) (program : Program) :
    Evaluation.KeepsDepths natives bound program ∧
      Typing.KeepsDepths signatures bound program :=
  ⟨Evaluation.keepsDepths passOn bound program, Typing.keepsDepths signatures bound program⟩

/-- In `fun same(x) \x7b \x7b x \x7d \x7d same(true);` the inner `x` stands three frames deep: one
for the function to close over, one for its call and one for the inner block.  A run evaluates
it that deep. -/
theorem Program.frames_are_as_deep_as_places_call :
    let token (lexeme : String) : Token := ⟨.identifier, lexeme, .origin, none⟩
    let inner : Block := .mk (token "\x7b") [] (some (.reference (token "x")))
    let declaration : Stmt :=
      .function (token "same") [token "x"] (.mk (token "\x7b") [.block inner] none)
    let call : Stmt :=
      .expression (.call (.reference (token "same")) (token ")")
        [.literal (.bool true) (token "true")])
    let program : Program := [declaration, call]
    let place : Typing.Place := (((((Typing.Place.root 0).child 0).child 0).child 0).child 0)
    ∃ frame machine,
      Evaluation.Reaches Native.defaults 9 program
        ⟨1, frame, machine, .expression place (.reference (token "x"))⟩ ∧
      machine.scopes.depth frame = 3 := by
  intro token inner declaration call program place
  let new : Evaluation.Machine := .start Native.defaults
  let closure := new.closure (token "same") [token "x"] (.mk (token "\x7b") [.block inner] none)
  let machine : Evaluation.Machine :=
    { new with scopes := (new.nested 0).scopes.define 0 "same" (.function closure) }
  have declared : Evaluation.Reaches Native.defaults 9 program
      ⟨9, 0, new, .statement ((Typing.Place.root 0).child 0) declaration⟩ :=
    @Evaluation.Reaches.top _ _ _ [] [call] declaration .unit _ rfl rfl
  have executed : Evaluation.Reaches Native.defaults 9 program
      ⟨9, 0, machine, .statement ((Typing.Place.root 0).child 1) call⟩ :=
    @Evaluation.Reaches.top _ _ _ [declaration] [] call .unit _ rfl rfl
  have called : Evaluation.Reaches Native.defaults 9 program
      ⟨7, 0, machine, .call (.function closure) [.bool true]⟩ :=
    .part (.part executed .value) (.call rfl rfl)
  have entered := Evaluation.Reaches.enter declared (.define _ _ _ _) called rfl
  have inside := Evaluation.Reaches.part (.part (.part (.part entered .bodyStatements) .first)
    .block) .body
  have read := Evaluation.Reaches.part inside (.bodyTail rfl)
  have deep :=
    (frames_are_as_deep_as_places Native.passesOn_defaults [] 9 program).1.expression _ _ _ _ _
      read
  have stands : program.nodeAt? place = some (.expression (.reference (token "x")), 3) := rfl
  exact ⟨_, _, read, ((Prod.mk.inj (Option.some.inj (stands.symm.trans deep))).2).symm⟩

end CheckedScript
