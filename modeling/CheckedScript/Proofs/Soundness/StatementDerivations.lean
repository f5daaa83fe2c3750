import CheckedScript.Proofs.Soundness.Derivations

/-!
# Statements that a checker accepts are well typed

What a statement declares is seen by the statements after it, and whatever a statement gives
back is among the returns that have been met at its end.  If all of these fit the type of a
call, the statement is accepted in the body of the function.

The end of a body or of a block comes after the statements in it, and it has a type as well.
-/

namespace CheckedScript

open Typing

namespace Scopes

variable (scopes : Scopes Ty) {frame : FrameId}

theorem get?_define (present : frame < scopes.frames.size) (name : String) (type : Ty) :
    (scopes.define frame name type).get? frame = View.bind (scopes.get? frame) name type := by
  funext other
  unfold View.bind
  split
  · next same => exact same ▸ get?_define_self scopes present name type
  · next different => exact get?_define_of_ne scopes present frame different type

theorem get?_defineAll (present : frame < scopes.frames.size) (bindings : Bindings Ty) :
    (scopes.defineAll frame bindings).get? frame =
      View.bindAll (scopes.get? frame) bindings := by
  induction bindings generalizing scopes with
  | nil => rfl
  | cons binding bindings inductionHypothesis =>
      have bound := inductionHypothesis (scopes.define frame binding.1 binding.2)
        (by simpa using present)
      rwa [get?_define scopes present] at bound

end Scopes

namespace Typing

namespace State

variable {state : State} {frame : FrameId}

/-- A new frame shows what the frame around it shows. -/
theorem view_nested (ordered : state.scopes.Ordered) (present : frame < state.next) :
    (state.nested frame).view state.next = state.view frame :=
  funext (Scopes.get?_nest ordered present)

theorem view_bind (present : frame < state.next) (name : String) (type : Ty) :
    (state.bind frame name type).view frame = (state.view frame).bind name type :=
  Scopes.get?_define state.scopes present name type

theorem view_turn (ordered : state.scopes.Ordered) (present : frame < state.next) (name : String) :
    (state.turn frame name).view state.next = (state.view frame).bind name .number := by
  rw [← view_nested ordered present]
  exact Scopes.get?_define (state.nested frame).scopes (by simp [nested, next]) name .number

/-- In the frame of a call the parameters are of the types of the arguments. -/
theorem view_begun (ordered : state.scopes.Ordered) (function : DeclaredFunction)
    (present : function.closure < state.next) (identifier : Nat) (arguments : List Ty) :
    (state.begun function identifier arguments).view state.next =
      (state.view function.closure).bindAll
        ((function.parameters.map (·.lexeme)).zip arguments) := by
  rw [← view_nested ordered present]
  exact Scopes.get?_defineAll (state.nested function.closure).scopes (by simp [nested]) _

theorem met_addReturn (type : Ty) (keyword : Token) (busy : state.activations ≠ []) :
    (state.addReturn type keyword).met = state.met ++ [(type, keyword)] := by
  unfold addReturn met
  cases shape : state.activations with
  | nil => exact absurd shape busy
  | cons activation activations => rfl

end State

/-- Bodies in progress stay in progress. -/
theorem Effect.busy {footprint : Footprint} {before after : State}
    (effect : Effect footprint before after) (busy : before.activations ≠ []) :
    after.activations ≠ [] := by
  intro idle
  have appended := effect.activations
  rw [idle] at appended
  cases shape : before.activations with
  | nil => exact busy shape
  | cons activation activations =>
      rw [shape] at appended
      exact appended

theorem StepChecked.effect {fuel : Nat} {frame : FrameId} {place : Place} {token : Token}
    {step : Option Expr} {before after : State}
    (checked : StepChecked fuel frame place token step before after) :
    Effect (.subtree place) before after := by
  cases checked with
  | absent => exact .refl _ _
  | written checked => exact ((Check.allKeep fuel).checkBound _ _ _ _ _).effect checked

/-- A statement that may not declare anything leaves the view as it is. -/
theorem World.Accepts.view_eq {world : World} {result : Ty} {view later : View} {stmt : Stmt}
    (accepts : world.Accepts result view stmt later) (shaped : stmt.declares = false) :
    later = view := by
  cases accepts with
  | letValue => cases shaped
  | expression | block | ifThen | ifElse | whileLoop | forLoop | unit | giveBack => rfl

end Typing

namespace Check

variable {since fuel : Nat} {base frame : FrameId} {place : Place} {before middle after : State}

theorem Admits.of_prefix {result : Ty} {returns others : List (Ty × Token)}
    (admits : Admits result others) (grown : returns <+: others) : Admits result returns :=
  fun entry member => admits entry (grown.subset member)

/-- The end of a block is checked after its statements. -/
inductive TailChecked (fuel : Nat) (frame : FrameId) (place : Place) :
    Option Expr → State → Ty → State → Prop
  | absent {state : State} : TailChecked fuel frame place none state .unit state
  | present {tail : Expr} {type : Ty} {state after : State} :
      Check.typeOf fuel frame place tail state = .ok type after →
      TailChecked fuel frame place (some tail) state type after

theorem TailChecked.effect {tail : Option Expr} {type : Ty}
    (checked : TailChecked fuel frame place tail before type after) :
    Effect (.subtree place) before after := by
  cases checked with
  | absent => exact .refl _ _
  | present typed => exact AllDerive.effect_typeOf typed

namespace AllDerive

theorem checkCondition_succ (all : AllDerive since base fuel) {keyword : Token}
    {condition : Expr}
    (equation : Check.checkCondition (fuel + 1) frame place keyword condition before =
      .ok () after)
    (ready : before.Ready since base) (present : frame < before.next) :
    after.Yields since base fun world => ∀ view, (before.view frame).Within view →
      world.TypesCondition view condition := by
  intro clean
  obtain ⟨_, found, same, typed, compatible⟩ := checkCondition_eq_ok equation clean
  cases same
  exact (all.typeOf typed ready present).mono
    (fun world types view within => ⟨found, types view within, compatible⟩) clean

theorem checkBound_succ (all : AllDerive since base fuel) {token : Token} {bound : Expr}
    (equation : Check.checkBound (fuel + 1) frame place token bound before = .ok () after)
    (ready : before.Ready since base) (present : frame < before.next) :
    after.Yields since base fun world => ∀ view, (before.view frame).Within view →
      world.TypesBound view bound := by
  obtain ⟨_, found, same, typed, compatible⟩ := checkBound_eq_ok equation
  cases same
  exact (all.typeOf typed ready present).mono fun world types view within =>
    ⟨found, types view within, compatible⟩

/-- The type of a name that is declared is written, or it is the type of the initializer. -/
theorem isProper_declared {found type : Ty} (isProper : found.isProper = true)
    (binding : type = found ∨ ∃ written : WrittenType, type = written.type ∧
      type.compatible found = true) : type.isProper = true := by
  rcases binding with rfl | ⟨written, rfl, _⟩
  · exact isProper
  · exact written.isProper_type

theorem checkLet_succ (all : AllDerive since base fuel) {name : Token}
    {declared : Option WrittenType} {initializer : Expr}
    (equation : Check.checkLet (fuel + 1) frame place name (declared.map (·.type)) initializer
      before = .ok () after)
    (ready : before.Ready since base) (present : frame < before.next) (opened : base ≤ frame) :
    after.Yields since base fun world => ∀ result view, (before.view frame).Within view →
      ∃ later, (after.view frame).Within later ∧
        world.Accepts result view (.letValue name declared initializer) later := by
  obtain ⟨_, found, type, middle, same, typed, rfl, binding⟩ := checkLet_eq_ok equation
  cases same
  have effect := effect_typeOf typed
  have presentThen := Nat.lt_of_lt_of_le present effect.grown.size
  have sameView := ready.spares present (fun _ none => none) effect
  obtain ⟨proper, isProper⟩ := proper_typeOf typed ready
  refine ((all.typeOf typed ready present).step
    (show Effect (.body frame) middle _ from .bind middle name.lexeme type presentThen rfl)
    (fun candidate same => (show candidate = frame from same) ▸ opened) rfl
    fun _ => proper.bind frame name.lexeme (isProper_declared isProper binding)).mono
    fun world types result view within => ?_
  rw [State.view_bind presentThen, sameView]
  exact ⟨_, within.bind name.lexeme type, .letValue (types view within) binding⟩

theorem tail (all : AllDerive since base fuel) {tail : Option Expr} {type : Ty}
    (checked : TailChecked fuel frame place tail before type after)
    (ready : before.Ready since base) (present : frame < before.next) :
    after.Yields since base fun world => ∀ view, (before.view frame).Within view →
      world.TypesTail view tail type := by
  cases checked with
  | absent => exact ready.yields fun _ _ _ _ => .none
  | present typed =>
      exact (all.typeOf typed ready present).mono fun world types view within =>
        .some (types view within)

/-- What stands in the braces of a block or of a body. -/
theorem content (all : AllDerive since base fuel) {step : Nat} {stmts : List Stmt}
    {tail : Option Expr} {type : Ty} {tailPlace : Place}
    (statements : Check.checkAll fuel frame place step stmts before = .ok () middle)
    (checked : TailChecked fuel frame tailPlace tail middle type after)
    (ready : before.Ready since base) (present : frame < before.next)
    (plain : Stmt.arePlain stmts = true) (shaped : Stmt.areShaped stmts = true)
    (opened : base ≤ frame) :
    after.Yields since base fun world => ∀ result, Admits result after.met →
      ∀ view, (before.view frame).Within view →
        ∃ inner, world.AcceptsAll result view stmts inner ∧ world.TypesTail inner tail type := by
  have effect := ((allKeep fuel).checkAll _ _ _ _ _ present).effect statements
  have presentThen := Nat.lt_of_lt_of_le present effect.grown.size
  refine (all.checkAll statements ready present plain shaped opened).bind checked.effect
    (fun _ none => none.elim) (fun ready => all.tail checked ready presentThen)
    fun world accepts typed result admits view within => ?_
  obtain ⟨inner, narrow, acceptsAll⟩ :=
    accepts result (admits.of_prefix checked.effect.met) view within
  exact ⟨inner, acceptsAll, typed inner narrow⟩

theorem checkAll_succ (all : AllDerive since base fuel) {step : Nat} {stmts : List Stmt}
    (equation : Check.checkAll (fuel + 1) frame place step stmts before = .ok () after)
    (ready : before.Ready since base) (present : frame < before.next)
    (plain : Stmt.arePlain stmts = true) (shaped : Stmt.areShaped stmts = true)
    (opened : base ≤ frame) :
    after.Yields since base fun world => ∀ result, Admits result after.met →
      ∀ view, (before.view frame).Within view →
        ∃ later, (after.view frame).Within later ∧ world.AcceptsAll result view stmts later := by
  cases stmts with
  | nil =>
      obtain ⟨_, rfl⟩ := pure_eq_ok equation
      exact ready.yields fun _ _ _ _ view within => ⟨view, within, .nil⟩
  | cons stmt stmts =>
      rw [Check.checkAll] at equation
      obtain ⟨reported, middle, checked, others⟩ := bind_eq_ok equation
      obtain ⟨plainFirst, plainOthers⟩ := Bool.and_eq_true_iff.1 plain
      obtain ⟨shapedFirst, shapedOthers⟩ := Bool.and_eq_true_iff.1 shaped
      intro clean
      have keeps := (allKeep fuel).checkStmt frame (place.child step) stmt before present
      have presentThen : frame < middle.next :=
        Nat.lt_of_lt_of_le present (keeps.reporting.effect checked).grown.size
      have effect := ((allKeep fuel).checkAll _ _ _ _ _ presentThen).effect others
      obtain ⟨type, rfl, first⟩ := reporting_eq_ok keeps checked (effect.clean clean)
      refine (all.checkStmt first ready present plainFirst shapedFirst fun _ => opened).bind
        effect (fun candidate same => (show candidate = frame from same) ▸ opened)
        (fun ready => all.checkAll others ready presentThen plainOthers shapedOthers opened)
        (fun world accepts acceptsOthers result admits view within => ?_) clean
      obtain ⟨inner, narrow, acceptsFirst⟩ :=
        accepts result (admits.of_prefix effect.met) view within
      obtain ⟨later, narrowThen, acceptsAll⟩ := acceptsOthers result admits inner narrow
      exact ⟨later, narrowThen, .cons acceptsFirst acceptsAll⟩

theorem ready_nested (ready : before.Ready since base) (present : frame < before.next) :
    (before.nested frame).Ready since base :=
  ready.onward (effect_nested before present) (fun _ none => none.elim) rfl
    (ready.proper.nested frame)

theorem checkBlock_succ (all : AllDerive since base fuel) {body : Block} {type : Ty}
    (equation : Check.checkBlock (fuel + 1) frame place body before = .ok type after)
    (ready : before.Ready since base) (present : frame < before.next)
    (plain : body.isPlain = true) (shaped : body.isShaped = true) :
    after.Yields since base fun world => ∀ result, Admits result after.met →
      ∀ view, (before.view frame).Within view → world.AcceptsBlock result view body := by
  obtain ⟨brace, statements, tail⟩ := body
  rw [Check.checkBlock] at equation
  obtain ⟨inner, nested, nests, rest⟩ := bind_eq_ok equation
  cases nests
  obtain ⟨_, middle, checked, rest⟩ := bind_eq_ok rest
  intro clean
  have ends : TailChecked fuel before.next (place.child statements.length) tail middle type
      after := by
    cases tail with
    | none =>
        obtain ⟨rfl, rfl⟩ := pure_eq_ok rest
        exact .absent
    | some tail =>
        obtain ⟨reported, last, reports, rest⟩ := bind_eq_ok rest
        cases reported with
        | none => cases rest
        | some found =>
            obtain ⟨rfl, rfl⟩ := pure_eq_ok rest
            obtain ⟨_, same, typed⟩ :=
              reporting_eq_ok ((allKeep fuel).typeOf _ _ _ _) reports clean
            cases same
            exact .present typed
  refine (all.content checked ends (ready_nested ready present) (by simp [State.next]) plain
    shaped ready.present).mono (fun world accepts result admits view within => ?_) clean
  obtain ⟨last, acceptsAll, typed⟩ := accepts result admits view
    (State.view_nested ready.wellFormed.ordered present ▸ within)
  exact .mk acceptsAll typed

/-- A condition and the block that it guards. -/
theorem guarded (all : AllDerive since base fuel) {keyword : Token} {condition : Expr}
    {body : Block} {type : Ty} {conditionPlace bodyPlace : Place}
    (tested : Check.checkCondition fuel frame conditionPlace keyword condition before =
      .ok () middle)
    (checked : Check.checkBlock fuel frame bodyPlace body middle = .ok type after)
    (ready : before.Ready since base) (present : frame < before.next)
    (plain : body.isPlain = true) (shaped : body.isShaped = true) :
    after.Yields since base fun world => ∀ result, Admits result after.met →
      ∀ view, (before.view frame).Within view →
        world.TypesCondition view condition ∧ world.AcceptsBlock result view body := by
  have effect := ((allKeep fuel).checkCondition _ _ _ _ _).effect tested
  have presentThen := Nat.lt_of_lt_of_le present effect.grown.size
  have same := ready.spares present (fun _ none => none) effect
  exact (all.checkCondition tested ready present).bind
    (((allKeep fuel).checkBlock _ _ _ _ presentThen).effect checked) (fun _ none => none.elim)
    (fun ready => all.checkBlock checked ready presentThen plain shaped)
    fun world typed accepts result admits view within =>
      ⟨typed view within, accepts result admits view (same.symm ▸ within)⟩

theorem step (all : AllDerive since base fuel) {token : Token} {step : Option Expr}
    (checked : StepChecked fuel frame place token step before after)
    (ready : before.Ready since base) (present : frame < before.next) :
    after.Yields since base fun world => ∀ view, (before.view frame).Within view →
      ∀ bound ∈ step, world.TypesBound view bound := by
  cases checked with
  | absent => exact ready.yields fun _ _ _ _ _ none => by cases none
  | written checked =>
      refine (all.checkBound checked ready present).mono
        fun world typed view within bound same => ?_
      cases same
      exact typed view within

/-- The bounds of a loop, and then its body in the frame of its variable. -/
theorem forLoop (all : AllDerive since base fuel) {name : Token} {bounds : Bounds} {body : Block}
    {type : Ty}
    (equation : Check.checkStmt (fuel + 1) frame place (.forLoop name bounds body) before =
      .ok type after)
    (ready : before.Ready since base) (present : frame < before.next)
    (plain : body.isPlain = true) (shaped : body.isShaped = true) :
    after.Yields since base fun world => ∀ result, Admits result after.met →
      ∀ view, (before.view frame).Within view →
        world.Accepts result view (.forLoop name bounds body) view := by
  obtain ⟨first, second, third, value, started, stepped, stopped, checked⟩ :=
    forLoop_eq_ok equation
  have effectStart := ((allKeep fuel).checkBound _ _ _ _ _).effect started
  have effectStop := ((allKeep fuel).checkBound _ _ _ _ _).effect stopped
  have wellFormedFirst := effectStart.wellFormed ready.wellFormed
  have wellFormedSecond := stepped.effect.wellFormed wellFormedFirst
  have wellFormedThird := effectStop.wellFormed wellFormedSecond
  have presentFirst := Nat.lt_of_lt_of_le present effectStart.grown.size
  have presentSecond := Nat.lt_of_lt_of_le presentFirst stepped.effect.grown.size
  have presentThird := Nat.lt_of_lt_of_le presentSecond effectStop.grown.size
  have presentInner : third.next < (third.turn frame name.lexeme).next := by
    simp [State.turn, State.nested, State.next]
  have sameFirst := effectStart.view ready.wellFormed present fun _ _ none => none
  have sameSecond := (stepped.effect.view wellFormedFirst presentFirst
    fun _ _ none => none).trans sameFirst
  have sameThird := (effectStop.view wellFormedSecond presentSecond
    fun _ _ none => none).trans sameSecond
  refine ((((all.checkBound started ready present).bind stepped.effect (fun _ none => none.elim)
    (fun ready => all.step stepped ready presentFirst)
    fun world start step => (⟨start, step⟩ : _ ∧ _)).bind effectStop (fun _ none => none.elim)
    (fun ready => all.checkBound stopped ready presentSecond)
    fun world bounds stop => (⟨bounds, stop⟩ : _ ∧ _)).step
    (effect_turn third name.lexeme presentThird) (fun _ none => none.elim) rfl
    fun ready => ready.proper.turn frame name.lexeme).bind
    (((allKeep fuel).checkBlock _ _ _ _ presentInner).effect checked) (fun _ none => none.elim)
    (fun ready => all.checkBlock checked ready presentInner plain shaped)
    fun world typed accepts result admits view within => ?_
  obtain ⟨⟨typedStart, typedStep⟩, typedStop⟩ := typed
  refine .forLoop (typedStart view within) (typedStep view (sameFirst.symm ▸ within))
    (typedStop view (sameSecond.symm ▸ within)) (accepts result admits _ ?_)
  rw [State.view_turn wellFormedThird.ordered presentThird, sameThird]
  exact within.bind name.lexeme .number

/-- A return is met in the body of a function. -/
theorem returned {holds : World → Prop} {type : Ty} (early : before.Yields since base holds)
    (keyword : Token) (busy : before.activations ≠ []) (isProper : type.isProper = true) :
    (before.addReturn type keyword).Yields since base fun world => holds world ∧
      ∀ result, Admits result (before.addReturn type keyword).met →
        result.compatible type = true := by
  have functions : (before.addReturn type keyword).functions = before.functions := by
    unfold State.addReturn
    split <;> rfl
  refine (early.step (.addReturn .nothing before type keyword) (fun _ none => none.elim) functions
    fun ready => ready.proper.addReturn keyword isProper).mono fun world holds =>
      ⟨holds, fun result admits => admits (type, keyword) ?_⟩
  rw [State.met_addReturn type keyword busy]
  exact List.mem_append_right _ (List.mem_singleton_self _)

/-- Statements that may not declare anything. -/
theorem checkStmt_quiet (all : AllDerive since base fuel) {stmt : Stmt} {type : Ty}
    (equation : Check.checkStmt (fuel + 1) frame place stmt before = .ok type after)
    (ready : before.Ready since base) (present : frame < before.next)
    (plain : stmt.isPlain = true) (shaped : stmt.isShaped = true)
    (quiet : stmt.declares = false) :
    after.Yields since base fun world => ∀ result, Admits result after.met →
      ∀ view, (before.view frame).Within view → world.Accepts result view stmt view := by
  cases stmt with
  | letValue | function => cases quiet
  | expression value =>
      exact (all.typeOf equation ready present).mono fun world types result _ view within =>
        .expression (types view within)
  | block body =>
      exact (all.checkBlock equation ready present plain shaped).mono
        fun world accepts result admits view within => .block (accepts result admits view within)
  | ifThen keyword condition consequent =>
      rw [Check.checkStmt] at equation
      obtain ⟨_, middle, tested, rest⟩ := bind_eq_ok equation
      obtain ⟨_, last, checked, rest⟩ := bind_eq_ok rest
      obtain ⟨_, rfl⟩ := pure_eq_ok rest
      exact (all.guarded tested checked ready present plain shaped).mono
        fun world accepts result admits view within =>
          .ifThen (accepts result admits view within).1 (accepts result admits view within).2
  | whileLoop keyword condition body =>
      rw [Check.checkStmt] at equation
      obtain ⟨_, middle, tested, rest⟩ := bind_eq_ok equation
      obtain ⟨_, last, checked, rest⟩ := bind_eq_ok rest
      obtain ⟨_, rfl⟩ := pure_eq_ok rest
      exact (all.guarded tested checked ready present plain shaped).mono
        fun world accepts result admits view within =>
          .whileLoop (accepts result admits view within).1 (accepts result admits view within).2
  | ifElse keyword condition consequent alternative =>
      rw [Check.checkStmt] at equation
      obtain ⟨_, middle, tested, rest⟩ := bind_eq_ok equation
      obtain ⟨_, last, checked, rest⟩ := bind_eq_ok rest
      obtain ⟨_, final, otherwise, rest⟩ := bind_eq_ok rest
      obtain ⟨_, rfl⟩ := pure_eq_ok rest
      obtain ⟨plainBlock, plainOther⟩ := Bool.and_eq_true_iff.1 plain
      obtain ⟨shapedBoth, _⟩ := Bool.and_eq_true_iff.1 shaped
      obtain ⟨shapedBlock, shapedOther⟩ := Bool.and_eq_true_iff.1 shapedBoth
      have effectTest := ((allKeep fuel).checkCondition _ _ _ _ _).effect tested
      have presentMiddle := Nat.lt_of_lt_of_le present effectTest.grown.size
      have effectBlock := ((allKeep fuel).checkBlock _ _ _ _ presentMiddle).effect checked
      have presentLast := Nat.lt_of_lt_of_le presentMiddle effectBlock.grown.size
      have effectOther := ((allKeep fuel).checkStmt _ _ _ _ presentLast).effect otherwise
      have same : last.view frame = before.view frame :=
        (effectBlock.view (effectTest.wellFormed ready.wellFormed) presentMiddle
          fun _ _ none => none).trans
          (effectTest.view ready.wellFormed present fun _ _ none => none)
      refine (all.guarded tested checked ready present plainBlock shapedBlock).bind effectOther
        (fun _ inside => absurd inside.2 (Bool.eq_false_iff.1 quiet))
        (fun ready => all.checkStmt otherwise ready presentLast plainOther shapedOther
          fun declares => absurd declares (Bool.eq_false_iff.1 quiet))
        fun world accepts acceptsOther result admits view within => ?_
      obtain ⟨typed, acceptsBlock⟩ :=
        accepts result (admits.of_prefix effectOther.met) view within
      obtain ⟨later, _, acceptsLast⟩ := acceptsOther result admits view (same.symm ▸ within)
      obtain rfl := acceptsLast.view_eq quiet
      exact .ifElse typed acceptsBlock acceptsLast
  | forLoop name bounds body => exact all.forLoop equation ready present plain shaped
  | giveBack keyword value =>
      rw [Check.checkStmt, get_bind_apply] at equation
      split at equation
      · cases equation
      · next busy =>
          rw [List.isEmpty_iff] at busy
          cases value with
          | none =>
              cases equation
              have nothing : before.Yields since base fun _ => True :=
                ready.yields fun _ _ => trivial
              exact (returned nothing keyword busy rfl).mono
                fun world fits result admits view within =>
                  .unit (fits.2 result admits)
          | some value =>
              obtain ⟨found, middle, typed, rest⟩ := bind_eq_ok equation
              cases rest
              exact (returned (all.typeOf typed ready present) keyword
                ((effect_typeOf typed).busy busy) (proper_typeOf typed ready).2).mono
                fun world fits result admits view within =>
                  .giveBack (fits.1 view within) (fits.2 result admits)

theorem checkStmt_succ (all : AllDerive since base fuel) {stmt : Stmt} {type : Ty}
    (equation : Check.checkStmt (fuel + 1) frame place stmt before = .ok type after)
    (ready : before.Ready since base) (present : frame < before.next)
    (plain : stmt.isPlain = true) (shaped : stmt.isShaped = true)
    (opened : stmt.declares = true → base ≤ frame) :
    after.Yields since base fun world => ∀ result, Admits result after.met →
      ∀ view, (before.view frame).Within view →
        ∃ later, (after.view frame).Within later ∧ world.Accepts result view stmt later := by
  cases declares : stmt.declares with
  | false =>
      have effect := ((allKeep _).checkStmt _ _ _ _ present).effect equation
      have same := effect.view ready.wellFormed present fun _ _ inside =>
        absurd inside.2 (Bool.eq_false_iff.1 declares)
      exact (all.checkStmt_quiet equation ready present plain shaped declares).mono
        fun world accepts result admits view within =>
          ⟨view, same.symm ▸ within, accepts result admits view within⟩
  | true =>
      cases stmt with
      | expression | block | ifThen | whileLoop | forLoop | giveBack => cases declares
      | function => cases plain
      | ifElse keyword condition consequent alternative =>
          have never := (Bool.and_eq_true_iff.1 shaped).2
          rw [show alternative.declares = true from declares] at never
          cases never
      | letValue name declared initializer =>
          rw [Check.checkStmt] at equation
          obtain ⟨_, middle, checked, rest⟩ := bind_eq_ok equation
          obtain ⟨_, rfl⟩ := pure_eq_ok rest
          exact (all.checkLet checked ready present (opened rfl)).mono
            fun world accepts result _ view within => accepts result view within

/-- What stands at the end of a body can be reached, or a return stands before it. -/
theorem admits_collected {function : DeclaredFunction} {result type : Ty} {last : State}
    (admits : Admits result (last.collected function (some type))) :
    blockReturns function.body = true ∨ result.compatible type = true := by
  unfold State.collected at admits
  dsimp only at admits
  split at admits
  · next always => exact .inl always
  · exact .inr (admits (type, function.name) (List.mem_append_right _ (List.mem_singleton_self _)))

theorem checkBody_succ (all : AllDerive since base fuel) {identifier : Nat} {arguments : List Ty}
    {function : DeclaredFunction} {results : List (Ty × Token)}
    (equation : Check.checkBody (fuel + 1) identifier arguments function before.next
      (AllKeep.entered before function arguments) = .ok results after)
    (ready : before.Ready since base) (opens : before.Opens identifier arguments function)
    (areProper : ∀ argument ∈ arguments, argument.isProper = true) :
    ∃ last, after = { last with activations := last.activations.tail } ∧
      Effect (.body before.next) (before.begun function identifier arguments) last ∧
      last.met <+: results ∧
      last.Yields since base fun world => ∀ result, Admits result results →
        world.AcceptsBody result (View.bindAll (world.view identifier)
          ((function.parameters.map (·.lexeme)).zip arguments)) function.body := by
  have present : before.next < (before.begun function identifier arguments).next := by
    simp [State.begun, AllKeep.entered, State.next]
  rw [checkBody_entered] at equation
  cases through : AllKeep.throughBody fuel function before.next
      (before.begun function identifier arguments) with
  | error stop last =>
      rw [through] at equation
      cases equation
  | ok fallThrough last =>
      rw [through] at equation
      cases equation
      have effect := (AllKeep.throughBody_keeps (allKeep fuel) function before.next _
        present).effect through
      refine ⟨last, rfl, effect, last.prefix_collected function fallThrough, fun clean => ?_⟩
      obtain ⟨_, middle, checked, rest⟩ := bind_eq_ok through
      obtain ⟨type, rfl, ends⟩ : ∃ type, fallThrough = some type ∧
          TailChecked fuel before.next
            (function.place.child function.body.statements.length) function.body.tail middle type
            last := by
        cases isTail : function.body.tail with
        | none =>
            rw [isTail] at rest
            obtain ⟨rfl, rfl⟩ := pure_eq_ok rest
            exact ⟨.unit, rfl, .absent⟩
        | some tail =>
            rw [isTail] at rest
            obtain ⟨type, rfl, typed⟩ :=
              reporting_eq_ok ((allKeep fuel).typeOf _ _ _ _) rest clean
            exact ⟨type, rfl, .present typed⟩
      obtain ⟨plain, shaped, _⟩ := ready.proper.bodies function (Array.mem_of_getElem? opens.found)
      have begun := ready_begun ready opens.found areProper
      have knows := (world_begun before since function identifier arguments ready opens.found).trans
        (effect.world since begun.wellFormed begun.proper
          fun frame same => (show frame = before.next from same) ▸ ready.present)
      have closes : (before.world since).view identifier = before.view function.closure :=
        funext fun name => by
          change before.functions[identifier]?.bind _ = _
          rw [opens.found, Option.bind_some]
      have sees := State.view_begun ready.wellFormed.ordered function
        (ready.wellFormed.closures identifier function opens.found) identifier arguments
      cases shape : function.body with
      | mk brace statements tail =>
          rw [shape] at plain shaped checked ends
          obtain ⟨readyLast, accepts⟩ :=
            all.content checked ends begun present plain shaped ready.present clean
          refine ⟨readyLast, fun world within result admits => ?_⟩
          have narrow := ((knows.trans within).view identifier).bindAll
            ((function.parameters.map (·.lexeme)).zip arguments)
          rw [closes, ← sees] at narrow
          obtain ⟨inner, acceptsAll, typed⟩ := accepts world within result
            (admits.of_prefix (last.prefix_collected function (some type))) _ narrow
          have fits := admits_collected admits
          rw [shape] at fits
          exact .mk acceptsAll typed fits

end AllDerive

/-- Whatever a checker accepts is well typed. -/
theorem allDerive (since : Nat) (base : FrameId) (fuel : Nat) : AllDerive since base fuel := by
  induction fuel with
  | zero => exact .zero since base
  | succ fuel all =>
      exact
        { typeOf := all.typeOf_succ
          typesOf := all.typesOf_succ
          infer := all.infer_succ
          callType := all.callType_succ
          instantiate := all.instantiate_succ
          checkBody := all.checkBody_succ
          checkStmt := all.checkStmt_succ
          checkLet := all.checkLet_succ
          checkAll := all.checkAll_succ
          checkBlock := all.checkBlock_succ
          checkCondition := all.checkCondition_succ
          checkBound := all.checkBound_succ }

end Check

end CheckedScript
