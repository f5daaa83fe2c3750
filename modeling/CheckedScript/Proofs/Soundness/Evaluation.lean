import CheckedScript.Proofs.Charges
import CheckedScript.Proofs.Running.Endings
import CheckedScript.Proofs.Soundness.Stores
import CheckedScript.Proofs.Walks.Visits

/-!
# Well-typed parts of programs run safely

In a setting that is sound, a well-typed expression that is evaluated has a value of its type,
commits a fault that only running can find, or runs out of steps.  It never arises that a
value is of the wrong kind, that a name is unbound, or that the number of arguments is wrong.
Statements and bodies run safely as well, and what they give back is of the type that calls
have.

The induction is on the bound on the nesting.  A call goes on with the body of its function,
of which the judgement is a part of what is known of functions, and not a part of the
judgement of the call.
-/

namespace CheckedScript

open Typing Evaluation

namespace Eval

/-- Runs leave frames where they are, and declare names in open frames only. -/
theorem runsKeepScopes (isOpen : FrameId → Prop) (start : Scopes Value) (natives : List Native) :
    ∀ fuel, RunsUphold (fun machine => start.Kept isOpen machine.scopes) isOpen natives fuel :=
  runsUphold
    { nest := fun frame machine kept => ⟨kept.spared.fresh _ (Nat.le_refl _), kept.nest frame⟩
      define := fun _ bindings opened _ kept => ⟨trivial, kept.defineAll opened bindings⟩
      assign := fun frame name value machine kept => by
        unfold assign
        dsimp only
        split
        · next owner owns => exact ⟨trivial, kept.define (.inr (Scopes.has_owner? owns).1) value⟩
        · exact ⟨trivial, kept⟩
      callNative := fun native _ arguments paren machine kept => by
        unfold callNative
        cases ended : (native.run arguments machine.console).1 with
        | value | failed | aborted =>
            simp only [ended]
            exact ⟨trivial, kept⟩ }

theorem Upholds.of_eq_ok {α : Type} {holds : Machine → Prop} {computation : Eval α}
    (upholds : Upholds holds computation) {machine after : Machine} {value : α}
    (known : holds machine) (equation : computation machine = .ok value after) : holds after := by
  have ended := upholds machine known
  rw [equation] at ended
  exact ended.2

section Results

variable {α β : Type} {good wide : α → Machine → Prop} {returned other : Value → Machine → Prop}

/-- How a part of a run may end: with a value, with a value that is given back, with a fault
that only running can find, or out of steps. -/
def Safe (good : α → Machine → Prop) (returned : Value → Machine → Prop) :
    EStateM.Result Evaluation.Stop Machine α → Prop
  | .ok value after => good value after
  | .error (.returned value) after => returned value after
  | .error (.failed diagnostic) _ => diagnostic.cause.phase = .running
  | .error .exhausted _ => True
  | .error (.faulted _) _ | .error (.aborted _) _ => False

namespace Safe

theorem mono {result : EStateM.Result Evaluation.Stop Machine α} (safe : Safe good returned result)
    (implies : ∀ value after, result = .ok value after → good value after → wide value after)
    (also : ∀ value after, returned value after → other value after) :
    Safe wide other result := by
  cases result with
  | ok value after => exact implies value after rfl safe
  | error stop after =>
      cases stop with
      | returned value => exact also value after safe
      | failed | exhausted | faulted | aborted => exact safe

theorem bind {first : Eval α} {next : α → Eval β} {machine : Machine}
    {reached : β → Machine → Prop} (early : Safe good returned (first machine))
    (late : ∀ value after, first machine = .ok value after → good value after →
      Safe reached returned (next value after)) :
    Safe reached returned ((first >>= next) machine) := by
  rw [bind_apply]
  cases equation : first machine with
  | ok value after =>
      rw [equation] at early
      exact late value after equation early
  | error stop after =>
      rw [equation] at early
      cases stop <;> exact early

/-- An expression gives nothing back, whatever the statement around it may give back. -/
theorem quiet {result : EStateM.Result Evaluation.Stop Machine α}
    (safe : Safe good (fun _ _ => False) result) : Safe good returned result :=
  safe.mono (fun _ _ _ holds => holds) fun _ _ none => none.elim

theorem catchReturn {body : Eval Value} {good : Value → Machine → Prop} {machine : Machine}
    (safe : Safe good good (body machine)) :
    Safe good (fun _ _ => False) (catchReturn body machine) := by
  unfold Eval.catchReturn
  cases equation : body machine with
  | ok value after =>
      rw [equation] at safe
      exact safe
  | error stop after =>
      rw [equation] at safe
      cases stop <;> exact safe

/-- A step that needs no state. -/
theorem orStop {result : Except Evaluation.Stop α} {machine : Machine}
    (safe : (∃ value, result = .ok value ∧ good value machine) ∨
      ∃ diagnostic, result = .error (.failed diagnostic) ∧ diagnostic.cause.phase = .running) :
    Safe good returned (orStop result machine) := by
  rcases safe with ⟨value, rfl, holds⟩ | ⟨diagnostic, rfl, found⟩
  · exact holds
  · exact found

end Safe

end Results

section Steps

variable {machine : Machine} {frame : FrameId}

theorem lookup_of_get? {name : String} {value : Value}
    (found : machine.scopes.get? frame name = some value) :
    lookup frame name machine = .ok value machine := by
  rw [lookup, get_bind_apply, found]
  rfl

theorem assign_of_owner? {name : String} {owner : FrameId}
    (owns : machine.scopes.owner? frame name = some owner) (value : Value) :
    assign frame name value machine =
      .ok () { machine with scopes := machine.scopes.define owner name value } := by
  obtain ⟨scopes, console⟩ := machine
  unfold assign
  dsimp only
  rw [show scopes.owner? frame name = some owner from owns]

end Steps

end Eval

namespace Setting

variable (setting : Setting)

/-- Scopes fit a store up to what has been declared in one frame. -/
def Leaves (store : Store) (frame : FrameId) (scopes : Scopes Value) : Prop :=
  ∃ other : Store, (∀ candidate, candidate ≠ frame → other candidate = store candidate) ∧
    setting.Fits other scopes

/-- Scopes fit a store up to what has been declared in one frame, and from there a view is
seen. -/
def Shows (store : Store) (frame : FrameId) (view : View) (scopes : Scopes Value) : Prop :=
  ∃ other : Store, (∀ candidate, candidate ≠ frame → other candidate = store candidate) ∧
    setting.Fits other scopes ∧ other.Sees scopes view frame

/-- A value is of a type, and the scopes fit a store. -/
abbrev Gives (type : Ty) (store : Store) (value : Value) (after : Machine) : Prop :=
  setting.Belongs type value ∧ setting.Fits store after.scopes

/-- A value of a type is given back from within a frame. -/
abbrev GivesBack (type : Ty) (store : Store) (frame : FrameId) (value : Value)
    (after : Machine) : Prop :=
  setting.Belongs type value ∧ setting.Leaves store frame after.scopes

variable {setting} {store other : Store} {frame : FrameId} {scopes : Scopes Value} {view : View}

theorem Fits.leaves (fits : setting.Fits store scopes) : setting.Leaves store frame scopes :=
  ⟨store, fun _ _ => rfl, fits⟩

theorem Fits.shows (fits : setting.Fits store scopes) (sees : store.Sees scopes view frame) :
    setting.Shows store frame view scopes :=
  ⟨store, fun _ _ => rfl, fits, sees⟩

theorem Leaves.since (leaves : setting.Leaves other frame scopes)
    (apart : ∀ candidate, candidate ≠ frame → other candidate = store candidate) :
    setting.Leaves store frame scopes := by
  obtain ⟨last, further, fits⟩ := leaves
  exact ⟨last, fun candidate different => (further candidate different).trans
    (apart candidate different), fits⟩

theorem Shows.since (shows : setting.Shows other frame view scopes)
    (apart : ∀ candidate, candidate ≠ frame → other candidate = store candidate) :
    setting.Shows store frame view scopes := by
  obtain ⟨last, further, fits, sees⟩ := shows
  exact ⟨last, fun candidate different => (further candidate different).trans
    (apart candidate different), fits, sees⟩

/-- What has been declared in a frame that was new is forgotten. -/
theorem Leaves.forget {start : Scopes Value}
    (leaves : setting.Leaves store start.frames.size scopes) (sound : setting.Sound)
    (fits : setting.Fits other start)
    (apart : ∀ candidate, candidate ≠ start.frames.size → store candidate = other candidate) :
    setting.Fits other scopes := by
  obtain ⟨last, further, fitsLast⟩ := leaves
  refine fitsLast.restrict sound fits.present (fun candidate lower => ?_)
    fun candidate name type stored => fits.lt_size stored
  have different : candidate ≠ start.frames.size := Nat.ne_of_lt lower
  exact (further candidate different).trans (apart candidate different)

end Setting

namespace Eval

/-- With a bound on the nesting, what is well typed runs safely. -/
structure AllSafe (setting : Setting) (fuel : Nat) : Prop where
  evaluate : ∀ {view expr type store machine frame}, setting.world.Types view expr type →
    setting.Fits store machine.scopes → store.Sees machine.scopes view frame →
    Safe (setting.Gives type store) (fun _ _ => False)
      (evaluate setting.natives fuel frame expr machine)
  evaluateAll : ∀ {view exprs types store machine frame},
    setting.world.TypesAll view exprs types →
    setting.Fits store machine.scopes → store.Sees machine.scopes view frame →
    Safe (fun values after => setting.BelongAll types values ∧ setting.Fits store after.scopes)
      (fun _ _ => False) (evaluateAll setting.natives fuel frame exprs machine)
  call : ∀ {calleeType types type callee values store machine paren},
    setting.world.Answers calleeType types type → setting.Belongs calleeType callee →
    setting.BelongAll types values → setting.Fits store machine.scopes →
    Safe (setting.Gives type store) (fun _ _ => False)
      (call setting.natives fuel callee values paren machine)
  execute : ∀ {result view stmt later store machine frame},
    setting.world.Accepts result view stmt later → result.isDefinite = true →
    setting.Fits store machine.scopes → store.Sees machine.scopes view frame →
    (stmt.declares = true → setting.base ≤ frame) →
    Safe (fun _ after => setting.Shows store frame later after.scopes)
      (setting.GivesBack result store frame) (execute setting.natives fuel frame stmt machine)
  executeAll : ∀ {result view stmts later store machine frame},
    setting.world.AcceptsAll result view stmts later → result.isDefinite = true →
    setting.Fits store machine.scopes → store.Sees machine.scopes view frame →
    setting.base ≤ frame →
    Safe (fun _ after => setting.Shows store frame later after.scopes)
      (setting.GivesBack result store frame)
      (executeAll setting.natives fuel frame stmts machine)
  executeBody : ∀ {result view brace stmts tail inner type store machine frame},
    setting.world.AcceptsAll result view stmts inner →
    setting.world.TypesTail inner tail type → result.isDefinite = true →
    setting.Fits store machine.scopes → store.Sees machine.scopes view frame →
    setting.base ≤ frame →
    Safe (setting.GivesBack type store frame) (setting.GivesBack result store frame)
      (executeBody setting.natives fuel frame (.mk brace stmts tail) machine)
  executeBlock : ∀ {result view body store machine frame},
    setting.world.AcceptsBlock result view body → result.isDefinite = true →
    setting.Fits store machine.scopes → store.Sees machine.scopes view frame →
    Safe (fun _ after => setting.Fits store after.scopes) (setting.Gives result store)
      (executeBlock setting.natives fuel frame body machine)
  repeatWhile : ∀ {result view keyword condition body store machine frame},
    setting.world.TypesCondition view condition → setting.world.AcceptsBlock result view body →
    result.isDefinite = true →
    setting.Fits store machine.scopes → store.Sees machine.scopes view frame →
    Safe (fun _ after => setting.Fits store after.scopes ∧ store.Sees after.scopes view frame)
      (setting.Gives result store)
      (repeatWhile setting.natives fuel frame keyword condition body machine)
  repeatFor : ∀ {result view name range index body store machine frame},
    setting.world.AcceptsBlock result (view.bind name .number) body → result.isDefinite = true →
    setting.Fits store machine.scopes → store.Sees machine.scopes view frame →
    Safe (fun _ after => setting.Fits store after.scopes ∧ store.Sees after.scopes view frame)
      (setting.Gives result store)
      (repeatFor setting.natives fuel frame name range index body machine)

namespace AllSafe

variable {setting : Setting} {fuel : Nat} {store : Store} {machine : Machine} {frame : FrameId}
  {view : View} {type result : Ty}

/-- What is seen before an expression is evaluated is seen afterwards. -/
theorem sees_evaluate {expr : Expr} {value : Value} {after : Machine}
    (sees : store.Sees machine.scopes view frame) (ordered : machine.scopes.Ordered)
    (equation : Eval.evaluate setting.natives fuel frame expr machine = .ok value after) :
    store.Sees after.scopes view frame :=
  sees.onward ordered
    (((runsKeepScopes _ machine.scopes setting.natives fuel).evaluate frame expr).of_eq_ok
      (.refl machine.scopes) equation)

theorem sees_executeBlock {body : Block} {value : Value} {start : Scopes Value}
    {inner : FrameId} {after : Machine} (sees : store.Sees start view frame)
    (ordered : start.Ordered)
    (kept : start.Kept (fun candidate => start.frames.size ≤ candidate) machine.scopes)
    (equation : Eval.executeBlock setting.natives fuel inner body machine = .ok value after) :
    store.Sees after.scopes view frame :=
  sees.onward ordered
    (((runsKeepScopes _ start setting.natives fuel).executeBlock inner body).of_eq_ok kept equation)

/-- The operand of an operator. -/
theorem operand {β : Type} {expr : Expr} {next : Value → Eval β}
    {good : β → Machine → Prop} {returned : Value → Machine → Prop}
    (all : AllSafe setting fuel) (typed : setting.world.Types view expr type)
    (fits : setting.Fits store machine.scopes) (sees : store.Sees machine.scopes view frame)
    (late : ∀ value after, setting.Belongs type value → setting.Fits store after.scopes →
      store.Sees after.scopes view frame → Safe good returned (next value after)) :
    Safe good returned ((Eval.evaluate setting.natives fuel frame expr >>= next) machine) :=
  Safe.bind (all.evaluate typed fits sees).quiet fun value after equation gives =>
    late value after gives.1 gives.2 (sees_evaluate sees fits.ordered equation)

/-- A condition is a truth value. -/
theorem condition {β : Type} {expr : Expr} {token : Token} {next : Bool → Eval β}
    {good : β → Machine → Prop} {returned : Value → Machine → Prop}
    (all : AllSafe setting fuel) (sound : setting.Sound)
    (typed : setting.world.TypesCondition view expr)
    (fits : setting.Fits store machine.scopes) (sees : store.Sees machine.scopes view frame)
    (late : ∀ holds after, setting.Fits store after.scopes →
      store.Sees after.scopes view frame → Safe good returned (next holds after)) :
    Safe good returned
      ((Eval.evaluate setting.natives fuel frame expr >>= fun value =>
        Eval.orStop (truth token value) >>= next) machine) := by
  obtain ⟨found, typed, compatible⟩ := typed
  refine all.operand typed fits sees fun value after belongs fits sees => ?_
  obtain ⟨holds, rfl, isTruth⟩ := belongs.truth sound.named compatible token
  rw [isTruth]
  exact late holds after fits sees

theorem evaluate_succ (all : AllSafe setting fuel) (sound : setting.Sound) {expr : Expr}
    (typed : setting.world.Types view expr type) (fits : setting.Fits store machine.scopes)
    (sees : store.Sees machine.scopes view frame) :
    Safe (setting.Gives type store) (fun _ _ => False)
      (Eval.evaluate setting.natives (fuel + 1) frame expr machine) := by
  cases typed with
  | literal => exact ⟨.constant _, fits⟩
  | reference known =>
      obtain ⟨value, found, belongs⟩ := fits.get? sees known
      rw [Eval.evaluate, lookup_of_get? found]
      exact ⟨belongs, fits⟩
  | @assign name _ _ _ typed known compatible =>
      rw [Eval.evaluate]
      refine all.operand typed fits sees fun assigned after belongs fits sees => ?_
      obtain ⟨owner, owns, stored⟩ := sees.2 name.lexeme type known
      obtain ⟨_, _, former⟩ := fits.typed owner name.lexeme type stored
      have fitting : setting.Belongs type assigned :=
        belongs.of_compatible sound.named (former.isDefinite sound.named) compatible
      rw [bind_apply, assign_of_owner? owns]
      exact ⟨fitting, fits.assign stored fitting⟩
  | group typed => exact all.evaluate typed fits sees
  | tuple typed =>
      rw [Eval.evaluate]
      exact (all.evaluateAll typed fits sees).bind fun _ _ _ gives => gives
  | unary typed accepted =>
      rw [Eval.evaluate]
      refine all.operand typed fits sees fun value after belongs fits _ => Safe.orStop (.inl ?_)
      obtain ⟨outcome, applied, fitting⟩ :=
        applyUnary_inhabits sound.named belongs accepted _
      exact ⟨outcome, applied, fitting, fits⟩
  | @binary _ token _ _ _ _ _ typedLeft typedRight accepted =>
      rw [Eval.evaluate]
      refine all.operand typedLeft fits sees fun first after belongsFirst fits sees => ?_
      refine all.operand typedRight fits sees fun second last belongsSecond fits _ =>
        Safe.orStop ?_
      rcases applyBinary_inhabits sound.named belongsFirst belongsSecond accepted token with
        ⟨outcome, applied, fitting⟩ | failed
      · exact .inl ⟨outcome, applied, fitting, fits⟩
      · exact .inr ⟨_, failed, rfl⟩
  | @logical operator token left right _ _ typedLeft typedRight isTruth isOtherTruth =>
      have goesOn : ∀ after : Machine, setting.Fits store after.scopes →
          store.Sees after.scopes view frame →
          Safe (setting.Gives .bool store) (fun _ _ => False)
            ((do
              let second ← Eval.evaluate setting.natives fuel frame right
              return Value.bool (← Eval.orStop (truth token second)) : Eval Value) after) :=
        fun after fits sees =>
          all.condition sound ⟨_, typedRight, isOtherTruth⟩ fits sees
            fun holds last fits _ => ⟨trivial, fits⟩
      rw [Eval.evaluate]
      refine all.condition sound ⟨_, typedLeft, isTruth⟩ fits sees fun holds after fits sees => ?_
      cases operator <;> cases holds
      · exact ⟨trivial, fits⟩
      · exact goesOn after fits sees
      · exact goesOn after fits sees
      · exact ⟨trivial, fits⟩
  | call typedCallee typedArguments answers =>
      rw [Eval.evaluate]
      refine all.operand typedCallee fits sees fun callee after belongs fits sees => ?_
      exact (all.evaluateAll typedArguments fits sees).bind fun values last _ given =>
        all.call answers belongs given.1 given.2

theorem evaluateAll_succ (all : AllSafe setting fuel) {exprs : List Expr} {types : List Ty}
    (typed : setting.world.TypesAll view exprs types)
    (fits : setting.Fits store machine.scopes) (sees : store.Sees machine.scopes view frame) :
    Safe (fun values after => setting.BelongAll types values ∧ setting.Fits store after.scopes)
      (fun _ _ => False) (Eval.evaluateAll setting.natives (fuel + 1) frame exprs machine) := by
  cases typed with
  | nil => exact ⟨trivial, fits⟩
  | cons typed typedOthers =>
      rw [Eval.evaluateAll]
      refine all.operand typed fits sees fun value after belongs fits sees => ?_
      exact (all.evaluateAll typedOthers fits sees).bind fun values last _ given =>
        ⟨⟨belongs, given.1⟩, given.2⟩

theorem length_of_belongAll {types : List Ty} {values : List Value}
    (belong : setting.BelongAll types values) : values.length = types.length := by
  induction types generalizing values with
  | nil =>
      cases values with
      | nil => rfl
      | cons _ _ => exact belong.elim
  | cons type types inductionHypothesis =>
      cases values with
      | nil => exact belong.elim
      | cons value values => exact congrArg (· + 1) (inductionHypothesis belong.2)

theorem requireArity_of_eq {name : String} {expected found : Nat} (same : expected = found) :
    requireArity name expected found machine = .ok () machine := by
  rw [requireArity, if_pos same]
  rfl

/-- A native function gives back what its signature says, or fails. -/
theorem call_native {key : String} {signature : Signature} {name : String}
    {parameters types : List Ty} {returned : Ty} {values : List Value} {paren : Token}
    (sound : setting.Sound)
    (typed : nativeCallType name parameters returned types = .ok type)
    (belongs : setting.Belongs (.native name parameters returned) (.native key signature))
    (belong : setting.BelongAll types values) (fits : setting.Fits store machine.scopes) :
    Safe (setting.Gives type store) (fun _ _ => False)
      (Eval.call setting.natives (fuel + 1) (.native key signature) values paren machine) := by
  obtain ⟨native, found, rfl, same⟩ := belongs
  rw [Signature.type, Ty.native.injEq] at same
  obtain ⟨-, rfl, rfl⟩ := same
  unfold nativeCallType at typed
  split at typed
  · cases typed
  · next length =>
      have isResult : native.signature.result = type := by
        split at typed
        · cases typed
        · exact Except.ok.inj typed
      have arity : native.signature.parameters.length = values.length := by
        rw [length_of_belongAll belong]
        exact not_not.1 length
      have within := sound.natives key native found values machine.console
      rw [Eval.call, bind_apply, requireArity_of_eq arity]
      simp only [found, callNative]
      cases ended : (native.run values machine.console).1 with
      | value value =>
          rw [ended] at within
          exact ⟨isResult ▸ within, fits⟩
      | failed reason => exact rfl
      | aborted reason =>
          rw [ended] at within
          exact within.elim

/-- A call of a declared function is borne out by the body of the function, which is executed
in a new frame. -/
theorem call_function {closure : Closure} {name : String} {identifier : Nat} {types : List Ty}
    {values : List Value} {paren : Token} (all : AllSafe setting fuel) (sound : setting.Sound)
    (typed : setting.world.result identifier types type)
    (closes : setting.closures closure name identifier)
    (belong : setting.BelongAll types values) (fits : setting.Fits store machine.scopes) :
    Safe (setting.Gives type store) (fun _ _ => False)
      (Eval.call setting.natives (fuel + 1) (.function closure) values paren machine) := by
  obtain ⟨parameters, body, isCode, length, accepts⟩ := sound.closed.body typed
  have definite := sound.closed.definite typed
  have code := sound.code closure name identifier closes
  rw [code, Option.some.injEq, Prod.mk.injEq] at isCode
  obtain ⟨rfl, isBody⟩ := isCode
  have arity : closure.parameters.length = values.length := by
    rw [length, length_of_belongAll belong]
  have sees := fits.sees closure name identifier closes
  -- The frame of the call, in which its arguments are bound.
  obtain ⟨fitsBound, seesBound⟩ := (fits.nest sees.1).defineAll sound fits.present
    (sees.nest fits.ordered) belong closure.parameters
  rw [Eval.call, bind_apply, requireArity_of_eq arity]
  change Safe _ _ (catchReturn (Eval.executeBody setting.natives fuel machine.next closure.body)
    { machine with
      scopes := (machine.nested closure.frame).scopes.defineAll machine.next
        (closure.parameters.zip values) })
  rw [isBody]
  cases accepts with
  | mk acceptsAll typesTail ends =>
      have forgets : ∀ scopes : Scopes Value,
          setting.Leaves (store.bindAll machine.next (closure.parameters.zip types)) machine.next
            scopes → setting.Fits store scopes := fun scopes leaves =>
        leaves.forget sound fits fun candidate different => Store.bindAll_of_ne different.symm _
      refine Safe.catchReturn (Safe.mono
        (all.executeBody acceptsAll typesTail definite fitsBound seesBound fits.present)
        (fun value after equation given => ?_) fun value after given =>
          ⟨given.1, forgets _ given.2⟩)
      rcases ends with never | compatible
      · exact absurd equation ((noneEnd setting.natives fuel).executeBody never)
      · exact ⟨given.1.of_compatible sound.named definite compatible, forgets _ given.2⟩

theorem call_succ (all : AllSafe setting fuel) (sound : setting.Sound) {calleeType : Ty}
    {types : List Ty} {callee : Value} {values : List Value} {paren : Token}
    (answers : setting.world.Answers calleeType types type)
    (belongs : setting.Belongs calleeType callee) (belong : setting.BelongAll types values)
    (fits : setting.Fits store machine.scopes) :
    Safe (setting.Gives type store) (fun _ _ => False)
      (Eval.call setting.natives (fuel + 1) callee values paren machine) := by
  cases answers with
  | native typed =>
      obtain ⟨native, key, rfl, _⟩ := Inhabits.native_iff.1 belongs
      exact call_native sound typed belongs belong fits
  | function typed =>
      obtain ⟨closure, rfl, closes⟩ := Inhabits.function_iff.1 belongs
      exact all.call_function sound typed closes belong fits

/-- A block with something to be done afterwards. -/
theorem guarded {β : Type} {body : Block} {next : Value → Eval β}
    {good : β → Machine → Prop} {returned : Value → Machine → Prop}
    (all : AllSafe setting fuel) (accepts : setting.world.AcceptsBlock result view body)
    (definite : result.isDefinite = true) (fits : setting.Fits store machine.scopes)
    (sees : store.Sees machine.scopes view frame)
    (back : ∀ value after, setting.Gives result store value after → returned value after)
    (late : ∀ value after, setting.Fits store after.scopes →
      store.Sees after.scopes view frame → Safe good returned (next value after)) :
    Safe good returned ((Eval.executeBlock setting.natives fuel frame body >>= next) machine) :=
  ((all.executeBlock accepts definite fits sees).mono (fun _ _ _ fits => fits) back).bind
    fun value after equation kept => late value after kept
      (sees_executeBlock sees fits.ordered (.refl machine.scopes) equation)

/-- What is given back from a block is given back from the statement around it. -/
theorem givesBack (value : Value) (after : Machine)
    (gives : setting.Gives result store value after) :
    setting.GivesBack result store frame value after :=
  ⟨gives.1, gives.2.leaves⟩

/-- The initializer of a declaration is of the type of the name. -/
theorem belongs_declared {found bound : Ty} {value : Value} (sound : setting.Sound)
    (belongs : setting.Belongs found value)
    (binding : bound = found ∨ ∃ written : WrittenType, bound = written.type ∧
      bound.compatible found = true) : setting.Belongs bound value := by
  rcases binding with rfl | ⟨written, rfl, compatible⟩
  · exact belongs
  · exact belongs.of_compatible sound.named written.isDefinite_type compatible

theorem execute_letValue {name : Token} {declared : Option WrittenType} {initializer : Expr}
    {found bound : Ty} (all : AllSafe setting fuel) (sound : setting.Sound)
    (typed : setting.world.Types view initializer found)
    (binding : bound = found ∨ ∃ written : WrittenType, bound = written.type ∧
      bound.compatible found = true)
    (fits : setting.Fits store machine.scopes) (sees : store.Sees machine.scopes view frame)
    (opened : setting.base ≤ frame) :
    Safe (fun _ after => setting.Shows store frame (view.bind name.lexeme bound) after.scopes)
      (setting.GivesBack result store frame)
      (Eval.execute setting.natives (fuel + 1) frame (.letValue name declared initializer)
        machine) := by
  rw [Eval.execute]
  refine all.operand typed fits sees fun value after belongs fits sees => ?_
  have fitting := belongs_declared sound belongs binding
  exact ⟨store.bind frame name.lexeme bound,
    fun candidate different => Store.bind_of_ne different.symm _ _,
    fits.define sound opened sees.1 fitting name.lexeme, sees.define name.lexeme bound value⟩

/-- The bounds of a loop are numbers, which may make a range that is not valid. -/
theorem loopRange_safe {token : Token} {start stop : Value} {step : Option Value}
    (isStart : ∃ number, start = .number number) (isStop : ∃ number, stop = .number number)
    (isStep : ∀ value ∈ step, ∃ number, value = .number number) :
    (∃ range, loopRange token start stop step = .ok range) ∨
      ∃ diagnostic, loopRange token start stop step = .error (.failed diagnostic) ∧
        diagnostic.cause.phase = .running := by
  obtain ⟨first, rfl⟩ := isStart
  obtain ⟨last, rfl⟩ := isStop
  have decided : ∀ range : NumberRange Float, loopRange token (.number first) (.number last) step =
      (if range.isValid then .ok range else .error (.failed
        { cause := .invalidRange (Decimal.plainText range.start)
            (Decimal.plainText range.stop) (Decimal.plainText range.step)
          token := token })) →
      (∃ range, loopRange token (.number first) (.number last) step = .ok range) ∨
        ∃ diagnostic, loopRange token (.number first) (.number last) step =
          .error (.failed diagnostic) ∧ diagnostic.cause.phase = .running := by
    intro range equation
    rw [equation]
    split
    · exact .inl ⟨range, rfl⟩
    · exact .inr ⟨_, rfl, rfl⟩
  cases step with
  | none => exact decided (.between first last) rfl
  | some step =>
      obtain ⟨width, rfl⟩ := isStep step rfl
      exact decided { start := first, stop := last, step := width } rfl

/-- The bound of a loop is a number. -/
theorem bound {β : Type} {expr : Expr} {next : Value → Eval β}
    {good : β → Machine → Prop} {returned : Value → Machine → Prop}
    (all : AllSafe setting fuel) (sound : setting.Sound)
    (typed : setting.world.TypesBound view expr)
    (fits : setting.Fits store machine.scopes) (sees : store.Sees machine.scopes view frame)
    (late : ∀ value after, (∃ number, value = .number number) →
      setting.Fits store after.scopes → store.Sees after.scopes view frame →
      Safe good returned (next value after)) :
    Safe good returned ((Eval.evaluate setting.natives fuel frame expr >>= next) machine) := by
  obtain ⟨found, typed, compatible⟩ := typed
  exact all.operand typed fits sees fun value after belongs fits sees =>
    late value after (belongs.number sound.named compatible) fits sees

theorem execute_forLoop {name : Token} {bounds : Bounds} {body : Block}
    (all : AllSafe setting fuel) (sound : setting.Sound)
    (typedStart : setting.world.TypesBound view bounds.start)
    (typedStep : ∀ step ∈ bounds.step, setting.world.TypesBound view step)
    (typedStop : setting.world.TypesBound view bounds.stop)
    (accepts : setting.world.AcceptsBlock result (view.bind name.lexeme .number) body)
    (definite : result.isDefinite = true) (fits : setting.Fits store machine.scopes)
    (sees : store.Sees machine.scopes view frame) :
    Safe (fun _ after => setting.Shows store frame view after.scopes)
      (setting.GivesBack result store frame)
      (Eval.execute setting.natives (fuel + 1) frame (.forLoop name bounds body) machine) := by
  rw [Eval.execute]
  refine all.bound sound typedStart fits sees fun start after isStart fits sees => ?_
  -- From the end of the step on, written or not.
  have further : ∀ (step : Option Value) (after : Machine),
      (∀ value ∈ step, ∃ number, value = .number number) → setting.Fits store after.scopes →
      store.Sees after.scopes view frame →
      Safe (fun _ after => setting.Shows store frame view after.scopes)
        (setting.GivesBack result store frame)
        ((do
          let stop ← Eval.evaluate setting.natives fuel frame bounds.stop
          let range ← Eval.orStop (loopRange bounds.token start stop step)
          Eval.repeatFor setting.natives fuel frame name.lexeme range 0 body : Eval Value)
            after) := by
    intro step after isStep fits sees
    refine all.bound sound typedStop fits sees fun stop after isStop fits sees => ?_
    have makes : Safe (fun _ last => last = after) (setting.GivesBack result store frame)
        (Eval.orStop (loopRange bounds.token start stop step) after) := by
      refine Safe.orStop ?_
      rcases loopRange_safe isStart isStop isStep with ⟨range, made⟩ | ⟨diagnostic, failed, phase⟩
      · exact .inl ⟨range, made, rfl⟩
      · exact .inr ⟨diagnostic, failed, phase⟩
    refine makes.bind fun range last _ same => ?_
    subst same
    exact (all.repeatFor accepts definite fits sees).mono
      (fun _ _ _ given => given.1.shows given.2) givesBack
  cases written : bounds.step with
  | none => exact further none after (by simp) fits sees
  | some step =>
      dsimp only
      rw [bind_map_left]
      refine all.bound sound (typedStep step written) fits sees
        fun width after isWidth fits sees => ?_
      exact further (some width) after (fun value same => by cases same; exact isWidth) fits sees

theorem execute_succ (all : AllSafe setting fuel) (sound : setting.Sound) {stmt : Stmt}
    {later : View} (accepts : setting.world.Accepts result view stmt later)
    (definite : result.isDefinite = true) (fits : setting.Fits store machine.scopes)
    (sees : store.Sees machine.scopes view frame)
    (opened : stmt.declares = true → setting.base ≤ frame) :
    Safe (fun _ after => setting.Shows store frame later after.scopes)
      (setting.GivesBack result store frame)
      (Eval.execute setting.natives (fuel + 1) frame stmt machine) := by
  cases accepts with
  | expression typed =>
      exact (all.evaluate typed fits sees).quiet.mono
        (fun value after equation gives =>
          gives.2.shows (sees_evaluate sees fits.ordered equation))
        fun _ _ back => back
  | letValue typed binding => exact all.execute_letValue sound typed binding fits sees (opened rfl)
  | block accepts =>
      exact (all.executeBlock accepts definite fits sees).mono
        (fun value after equation kept => kept.shows
          (sees_executeBlock sees fits.ordered (.refl machine.scopes) equation)) givesBack
  | ifThen typed accepts =>
      rw [Eval.execute]
      refine all.condition sound typed fits sees fun holds after fits sees => ?_
      cases holds with
      | false => exact fits.shows sees
      | true =>
          exact all.guarded accepts definite fits sees givesBack
            fun value last fits sees => fits.shows sees
  | ifElse typed accepts acceptsOther =>
      rw [Eval.execute]
      refine all.condition sound typed fits sees fun holds after fits sees => ?_
      cases holds with
      | false =>
          exact (all.execute acceptsOther definite fits sees opened).bind
            fun value last _ shows => shows
      | true =>
          exact all.guarded accepts definite fits sees givesBack
            fun value last fits sees => fits.shows sees
  | whileLoop typed accepts =>
      exact (all.repeatWhile typed accepts definite fits sees).mono
        (fun value after equation given => given.1.shows given.2) givesBack
  | forLoop typedStart typedStep typedStop accepts =>
      exact all.execute_forLoop sound typedStart typedStep typedStop accepts definite fits sees
  | unit compatible =>
      exact ⟨Inhabits.unit.of_compatible sound.named definite compatible, fits.leaves⟩
  | giveBack typed compatible =>
      rw [Eval.execute]
      exact all.operand typed fits sees fun value after belongs fits sees =>
        ⟨belongs.of_compatible sound.named definite compatible, fits.leaves⟩

theorem executeAll_succ (all : AllSafe setting fuel) {stmts : List Stmt} {later : View}
    (accepts : setting.world.AcceptsAll result view stmts later)
    (definite : result.isDefinite = true) (fits : setting.Fits store machine.scopes)
    (sees : store.Sees machine.scopes view frame) (opened : setting.base ≤ frame) :
    Safe (fun _ after => setting.Shows store frame later after.scopes)
      (setting.GivesBack result store frame)
      (Eval.executeAll setting.natives (fuel + 1) frame stmts machine) := by
  cases accepts with
  | nil => exact fits.shows sees
  | cons accepts acceptsOthers =>
      rw [Eval.executeAll]
      refine (all.execute accepts definite fits sees fun _ => opened).bind
        fun value after _ shows => ?_
      obtain ⟨other, apart, fits, sees⟩ := shows
      exact (all.executeAll acceptsOthers definite fits sees opened).mono
        (fun _ _ _ shows => shows.since apart) fun _ _ back => ⟨back.1, back.2.since apart⟩

theorem executeBody_succ {brace : Token} {stmts : List Stmt} {tail : Option Expr} {inner : View}
    (all : AllSafe setting fuel) (accepts : setting.world.AcceptsAll result view stmts inner)
    (typed : setting.world.TypesTail inner tail type) (definite : result.isDefinite = true)
    (fits : setting.Fits store machine.scopes) (sees : store.Sees machine.scopes view frame)
    (opened : setting.base ≤ frame) :
    Safe (setting.GivesBack type store frame) (setting.GivesBack result store frame)
      (Eval.executeBody setting.natives (fuel + 1) frame (.mk brace stmts tail) machine) := by
  unfold Eval.executeBody
  refine (all.executeAll accepts definite fits sees opened).bind fun _ after _ shows => ?_
  obtain ⟨other, apart, fits, sees⟩ := shows
  cases typed with
  | none => exact ⟨Inhabits.unit, other, apart, fits⟩
  | some typed =>
      exact (all.evaluate typed fits sees).quiet.mono
        (fun _ _ _ gives => ⟨gives.1, other, apart, gives.2⟩) fun _ _ back => back

/-- A block is executed in a new frame, which nobody knows afterwards. -/
theorem executeBlock_succ {body : Block} (all : AllSafe setting fuel) (sound : setting.Sound)
    (accepts : setting.world.AcceptsBlock result view body) (definite : result.isDefinite = true)
    (fits : setting.Fits store machine.scopes) (sees : store.Sees machine.scopes view frame) :
    Safe (fun _ after => setting.Fits store after.scopes) (setting.Gives result store)
      (Eval.executeBlock setting.natives (fuel + 1) frame body machine) := by
  cases accepts with
  | mk acceptsAll typesTail =>
      rw [Eval.executeBlock]
      change Safe _ _ (Eval.executeBody setting.natives fuel machine.next _ (machine.nested frame))
      exact Safe.mono (all.executeBody acceptsAll typesTail definite (fits.nest sees.1)
        (sees.nest fits.ordered) fits.present)
        (fun _ _ _ given => given.2.forget sound fits fun _ _ => rfl)
        fun _ _ back => ⟨back.1, back.2.forget sound fits fun _ _ => rfl⟩

theorem repeatWhile_succ {keyword : Token} {condition : Expr} {body : Block}
    (all : AllSafe setting fuel) (sound : setting.Sound)
    (typed : setting.world.TypesCondition view condition)
    (accepts : setting.world.AcceptsBlock result view body) (definite : result.isDefinite = true)
    (fits : setting.Fits store machine.scopes) (sees : store.Sees machine.scopes view frame) :
    Safe (fun _ after => setting.Fits store after.scopes ∧ store.Sees after.scopes view frame)
      (setting.Gives result store)
      (Eval.repeatWhile setting.natives (fuel + 1) frame keyword condition body machine) := by
  rw [Eval.repeatWhile]
  refine all.condition sound typed fits sees fun holds after fits sees => ?_
  cases holds with
  | false => exact ⟨fits, sees⟩
  | true =>
      exact all.guarded accepts definite fits sees (fun _ _ gives => gives)
        fun value last fits sees => all.repeatWhile typed accepts definite fits sees

/-- Every turn of a loop over numbers has a new frame for its variable. -/
theorem repeatFor_succ {name : String} {range : NumberRange Float} {index : Nat} {body : Block}
    (all : AllSafe setting fuel) (sound : setting.Sound)
    (accepts : setting.world.AcceptsBlock result (view.bind name .number) body)
    (definite : result.isDefinite = true)
    (fits : setting.Fits store machine.scopes) (sees : store.Sees machine.scopes view frame) :
    Safe (fun _ after => setting.Fits store after.scopes ∧ store.Sees after.scopes view frame)
      (setting.Gives result store)
      (Eval.repeatFor setting.natives (fuel + 1) frame name range index body machine) := by
  rw [Eval.repeatFor]
  cases range.item? index with
  | none => exact ⟨fits, sees⟩
  | some item =>
      have nested := fits.nest sees.1
      have inside := sees.nest fits.ordered
      have isNumber : setting.Belongs .number (.number item) := trivial
      have turned := nested.define sound fits.present inside.1 isNumber name
      have forgets : ∀ scopes : Scopes Value,
          setting.Fits (store.bind machine.next name .number) scopes → setting.Fits store scopes :=
        fun scopes later => (show setting.Leaves _ machine.next scopes from later.leaves).forget
          sound fits fun candidate different => Store.bind_of_ne different.symm _ _
      change Safe _ _ ((do
        let _ ← Eval.executeBlock setting.natives fuel machine.next body
        Eval.repeatFor setting.natives fuel frame name range (index + 1) body : Eval Value)
          { machine with
            scopes := (machine.nested frame).scopes.define machine.next name (.number item) })
      refine Safe.bind (Safe.mono
        (all.executeBlock accepts definite turned (inside.define name .number _))
        (fun _ _ _ kept => kept) fun _ _ gives => ⟨gives.1, forgets _ gives.2⟩)
        fun value after equation kept => ?_
      refine all.repeatFor accepts definite (forgets _ kept)
        (sees_executeBlock sees fits.ordered ?_ equation)
      exact ((Scopes.Kept.refl machine.scopes).nest frame).define (.inl (Nat.le_refl _)) _

theorem zero (setting : Setting) : AllSafe setting 0 := by
  constructor <;> intros <;> trivial

end AllSafe

/-- In a sound setting, whatever is well typed runs safely. -/
theorem allSafe {setting : Setting} (sound : setting.Sound) (fuel : Nat) :
    AllSafe setting fuel := by
  induction fuel with
  | zero => exact .zero setting
  | succ fuel all =>
      exact
        { evaluate := all.evaluate_succ sound
          evaluateAll := all.evaluateAll_succ
          call := all.call_succ sound
          execute := all.execute_succ sound
          executeAll := all.executeAll_succ
          executeBody := all.executeBody_succ
          executeBlock := all.executeBlock_succ sound
          repeatWhile := all.repeatWhile_succ sound
          repeatFor := all.repeatFor_succ sound }

end Eval

end CheckedScript
