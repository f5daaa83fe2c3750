import CheckedScript.Proofs.Soundness.Worlds
import CheckedScript.Proofs.Walks.Coverage
import CheckedScript.Proofs.Walks.Recursion

/-!
# What a checker accepts is well typed

A check that leaves no diagnostic derives a judgement: the types that it comes up with are the
types of the judgements, in every world that knows what the checker knows at the end.  A call
may have a type before the body of its function has been checked to its end.  Then the
judgement of the body comes later, but still within the statement that the check began with.
-/

namespace CheckedScript

open Typing

namespace Check

variable {since fuel : Nat} {base frame : FrameId} {place : Place} {before after : State}

/-- The returns of a body fit a type. -/
def Admits (result : Ty) (returns : List (Ty × Token)) : Prop :=
  ∀ entry ∈ returns, result.compatible entry.1 = true

/-- With a bound on the nesting, checks derive judgements. -/
structure AllDerive (since : Nat) (base : FrameId) (fuel : Nat) : Prop where
  typeOf : ∀ {frame place expr type before after},
    Check.typeOf fuel frame place expr before = .ok type after → before.Ready since base →
    frame < before.next →
    after.Yields since base fun world => ∀ view, (before.view frame).Within view →
      world.Types view expr type
  typesOf : ∀ {frame place step exprs types before after},
    Check.typesOf fuel frame place step exprs before = .ok types after →
    before.Ready since base → frame < before.next →
    after.Yields since base fun world => ∀ view, (before.view frame).Within view →
      world.TypesAll view exprs types
  infer : ∀ {frame place expr type before after},
    Check.infer fuel frame place expr before = .ok type after → before.Ready since base →
    frame < before.next →
    after.Yields since base fun world => ∀ view, (before.view frame).Within view →
      world.Types view expr type
  callType : ∀ {callee arguments paren type before after},
    Check.callType fuel callee arguments paren before = .ok type after →
    before.Ready since base → callee.isProper = true →
    (∀ argument ∈ arguments, argument.isProper = true) →
    after.Yields since base fun world => world.Answers callee arguments type
  instantiate : ∀ {name identifier arguments anchor type before after},
    Check.instantiate fuel name identifier arguments anchor before = .ok type after →
    before.Ready since base → (∀ argument ∈ arguments, argument.isProper = true) →
    arity before.functions name identifier = .ok arguments.length →
    after.Yields since base fun world => world.result identifier arguments type
  checkBody : ∀ {identifier arguments function results before after},
    Check.checkBody fuel identifier arguments function before.next
      (AllKeep.entered before function arguments) = .ok results after →
    before.Ready since base → before.Opens identifier arguments function →
    (∀ argument ∈ arguments, argument.isProper = true) →
    ∃ last, after = { last with activations := last.activations.tail } ∧
      Effect (.body before.next) (before.begun function identifier arguments) last ∧
      last.met <+: results ∧
      last.Yields since base fun world => ∀ result, Admits result results →
        world.AcceptsBody result (View.bindAll (world.view identifier)
          ((function.parameters.map (·.lexeme)).zip arguments)) function.body
  checkStmt : ∀ {frame place stmt type before after},
    Check.checkStmt fuel frame place stmt before = .ok type after → before.Ready since base →
    frame < before.next → stmt.isPlain = true → stmt.isShaped = true →
    (stmt.declares = true → base ≤ frame) →
    after.Yields since base fun world => ∀ result, Admits result after.met →
      ∀ view, (before.view frame).Within view →
        ∃ later, (after.view frame).Within later ∧ world.Accepts result view stmt later
  checkLet : ∀ {frame place name declared initializer before after},
    Check.checkLet fuel frame place name (declared.map (·.type)) initializer before =
      .ok () after → before.Ready since base → frame < before.next → base ≤ frame →
    after.Yields since base fun world => ∀ result view, (before.view frame).Within view →
      ∃ later, (after.view frame).Within later ∧
        world.Accepts result view (.letValue name declared initializer) later
  checkAll : ∀ {frame place step stmts before after},
    Check.checkAll fuel frame place step stmts before = .ok () after →
    before.Ready since base → frame < before.next → Stmt.arePlain stmts = true →
    Stmt.areShaped stmts = true → base ≤ frame →
    after.Yields since base fun world => ∀ result, Admits result after.met →
      ∀ view, (before.view frame).Within view →
        ∃ later, (after.view frame).Within later ∧ world.AcceptsAll result view stmts later
  checkBlock : ∀ {frame place body type before after},
    Check.checkBlock fuel frame place body before = .ok type after → before.Ready since base →
    frame < before.next → body.isPlain = true → body.isShaped = true →
    after.Yields since base fun world => ∀ result, Admits result after.met →
      ∀ view, (before.view frame).Within view → world.AcceptsBlock result view body
  checkCondition : ∀ {frame place keyword condition before after},
    Check.checkCondition fuel frame place keyword condition before = .ok () after →
    before.Ready since base → frame < before.next →
    after.Yields since base fun world => ∀ view, (before.view frame).Within view →
      world.TypesCondition view condition
  checkBound : ∀ {frame place token bound before after},
    Check.checkBound fuel frame place token bound before = .ok () after →
    before.Ready since base → frame < before.next →
    after.Yields since base fun world => ∀ view, (before.view frame).Within view →
      world.TypesBound view bound

namespace AllDerive

theorem zero (since : Nat) (base : FrameId) : AllDerive since base 0 where
  typeOf equation := nomatch equation
  typesOf equation := nomatch equation
  infer equation := nomatch equation
  callType equation := nomatch equation
  instantiate equation := nomatch equation
  checkBody equation := nomatch equation
  checkStmt equation := nomatch equation
  checkLet equation := nomatch equation
  checkAll equation := nomatch equation
  checkBlock equation := nomatch equation
  checkCondition equation := nomatch equation
  checkBound equation := nomatch equation

section Effects

/-- An expression writes to no frame that is there. -/
theorem effect_typeOf {expr : Expr} {type : Ty}
    (equation : Check.typeOf fuel frame place expr before = .ok type after) :
    Effect (.subtree place) before after :=
  ((allKeep fuel).typeOf frame place expr before).effect equation

theorem proper_typeOf {expr : Expr} {type : Ty}
    (equation : Check.typeOf fuel frame place expr before = .ok type after)
    (ready : before.Ready since base) : after.Proper base ∧ type.isProper = true :=
  ((((discipline_properness base).checksTell fuel).typeOf trivial ready.proper).ends.of_ok
    equation).2

end Effects

theorem typeOf_succ (all : AllDerive since base fuel) {expr : Expr} {type : Ty}
    (equation : Check.typeOf (fuel + 1) frame place expr before = .ok type after)
    (ready : before.Ready since base) (present : frame < before.next) :
    after.Yields since base fun world => ∀ view, (before.view frame).Within view →
      world.Types view expr type := by
  rw [Check.typeOf] at equation
  obtain ⟨found, middle, inferred, rest⟩ := bind_eq_ok equation
  cases rest
  exact (all.infer inferred ready present).step
    (show Effect (.subtree place) middle _ from .note middle expr type (.refl place))
    (fun _ none => none.elim) rfl fun ready => ready.proper.congr rfl rfl rfl

theorem typesOf_succ (all : AllDerive since base fuel) {step : Nat} {exprs : List Expr}
    {types : List Ty}
    (equation : Check.typesOf (fuel + 1) frame place step exprs before = .ok types after)
    (ready : before.Ready since base) (present : frame < before.next) :
    after.Yields since base fun world => ∀ view, (before.view frame).Within view →
      world.TypesAll view exprs types := by
  cases exprs with
  | nil =>
      obtain ⟨rfl, rfl⟩ := pure_eq_ok equation
      exact ready.yields fun _ _ _ _ => .nil
  | cons expr exprs =>
      rw [Check.typesOf] at equation
      obtain ⟨type, middle, typed, rest⟩ := bind_eq_ok equation
      obtain ⟨others, last, typedOthers, rest⟩ := bind_eq_ok rest
      obtain ⟨rfl, rfl⟩ := pure_eq_ok rest
      have effect := effect_typeOf typed
      have presentThen := Nat.lt_of_lt_of_le present effect.grown.size
      have same := ready.spares present (fun _ none => none) effect
      exact (all.typeOf typed ready present).bind
        (((allKeep fuel).typesOf _ _ _ _ _).effect typedOthers) (fun _ none => none.elim)
        (fun ready => all.typesOf typedOthers ready presentThen)
        fun world first others view within =>
          .cons (first view within) (others view (same.symm ▸ within))

/-- Two operands, one after the other. -/
theorem operands (all : AllDerive since base fuel) {left right : Expr} {leftType rightType : Ty}
    {leftPlace rightPlace : Place} {middle : State}
    (typedLeft : Check.typeOf fuel frame leftPlace left before = .ok leftType middle)
    (typedRight : Check.typeOf fuel frame rightPlace right middle = .ok rightType after)
    (ready : before.Ready since base) (present : frame < before.next) :
    after.Yields since base fun world => ∀ view, (before.view frame).Within view →
      world.Types view left leftType ∧ world.Types view right rightType := by
  have effect := effect_typeOf typedLeft
  have presentThen := Nat.lt_of_lt_of_le present effect.grown.size
  have same := ready.spares present (fun _ none => none) effect
  exact (all.typeOf typedLeft ready present).bind (effect_typeOf typedRight)
    (fun _ none => none.elim) (fun ready => all.typeOf typedRight ready presentThen)
    fun world first second view within => ⟨first view within, second view (same.symm ▸ within)⟩

/-- The type of a call is found out when the types of the callee and the arguments are known. -/
theorem infer_call (all : AllDerive since base fuel) {callee : Expr} {paren : Token}
    {arguments : List Expr} {type : Ty}
    (equation : Check.infer (fuel + 1) frame place (.call callee paren arguments) before =
      .ok type after)
    (ready : before.Ready since base) (present : frame < before.next) :
    after.Yields since base fun world => ∀ view, (before.view frame).Within view →
      world.Types view (.call callee paren arguments) type := by
  rw [Check.infer] at equation
  obtain ⟨calleeType, middle, typed, rest⟩ := bind_eq_ok equation
  obtain ⟨types, last, typedArguments, called⟩ := bind_eq_ok rest
  have effect := effect_typeOf typed
  have effectArguments := ((allKeep fuel).typesOf _ _ _ _ _).effect typedArguments
  have presentThen := Nat.lt_of_lt_of_le present effect.grown.size
  have same := ready.spares present (fun _ none => none) effect
  obtain ⟨proper, isProper⟩ := proper_typeOf typed ready
  have areProper : ∀ argument ∈ types, argument.isProper = true :=
    ((((discipline_properness base).checksTell fuel).typesOf trivial proper).ends.of_ok
      typedArguments).2.2
  refine ((all.typeOf typed ready present).bind effectArguments (fun _ none => none.elim)
    (fun ready => all.typesOf typedArguments ready presentThen)
    fun world first others => (⟨first, others⟩ : _ ∧ _)).bind
    (((allKeep fuel).callType _ _ _ _).effect called) (fun _ none => none.elim)
    (fun ready => all.callType called ready isProper areProper)
    fun world parts answers view within => ?_
  exact .call (parts.1 view within) (parts.2 view (same.symm ▸ within)) answers

theorem infer_succ (all : AllDerive since base fuel) {expr : Expr} {type : Ty}
    (equation : Check.infer (fuel + 1) frame place expr before = .ok type after)
    (ready : before.Ready since base) (present : frame < before.next) :
    after.Yields since base fun world => ∀ view, (before.view frame).Within view →
      world.Types view expr type := by
  cases expr with
  | literal value token =>
      obtain ⟨rfl, rfl⟩ := pure_eq_ok equation
      exact ready.yields fun _ _ _ _ => .literal
  | reference name =>
      rw [Check.infer] at equation
      obtain ⟨found, _, looked, rest⟩ := bind_eq_ok equation
      cases looked
      cases visible : before.scopes.get? frame name.lexeme with
      | none =>
          rw [visible] at rest
          cases rest
      | some found =>
          rw [visible] at rest
          obtain ⟨rfl, rfl⟩ := pure_eq_ok rest
          exact ready.yields fun _ _ _ within => .reference (within _ _ visible)
  | assign name value =>
      rw [Check.infer] at equation
      obtain ⟨found, middle, typed, rest⟩ := bind_eq_ok equation
      obtain ⟨declared, _, looked, rest⟩ := bind_eq_ok rest
      cases looked
      have same := ready.spares present (fun _ none => none) (effect_typeOf typed)
      cases visible : middle.scopes.get? frame name.lexeme with
      | none =>
          rw [visible] at rest
          cases rest
      | some declared =>
          rw [visible] at rest
          dsimp only at rest
          split at rest
          · next compatible =>
              obtain ⟨rfl, rfl⟩ := pure_eq_ok rest
              exact (all.typeOf typed ready present).mono fun world types view within =>
                .assign (types view within) (within _ _ (same ▸ visible)) compatible
          · cases rest
  | group inner =>
      exact (all.typeOf equation ready present).mono fun world types view within =>
        .group (types view within)
  | tuple items =>
      rw [Check.infer] at equation
      obtain ⟨types, middle, typed, rest⟩ := bind_eq_ok equation
      obtain ⟨rfl, rfl⟩ := pure_eq_ok rest
      exact (all.typesOf typed ready present).mono fun world types view within =>
        .tuple (types view within)
  | unary operator token operand =>
      rw [Check.infer] at equation
      obtain ⟨found, middle, typed, rest⟩ := bind_eq_ok equation
      cases result : unaryType? operator found with
      | none =>
          rw [result] at rest
          cases rest
      | some type =>
          rw [result] at rest
          obtain ⟨rfl, rfl⟩ := pure_eq_ok rest
          exact (all.typeOf typed ready present).mono fun world types view within =>
            .unary (types view within) result
  | binary operator token left right =>
      rw [Check.infer] at equation
      obtain ⟨leftType, middle, typedLeft, rest⟩ := bind_eq_ok equation
      obtain ⟨rightType, last, typedRight, rest⟩ := bind_eq_ok rest
      cases result : binaryType? operator leftType rightType with
      | none =>
          rw [result] at rest
          cases rest
      | some type =>
          rw [result] at rest
          obtain ⟨rfl, rfl⟩ := pure_eq_ok rest
          exact (all.operands typedLeft typedRight ready present).mono
            fun world types view within =>
              .binary (types view within).1 (types view within).2 result
  | logical operator token left right =>
      rw [Check.infer] at equation
      obtain ⟨leftType, middle, typedLeft, rest⟩ := bind_eq_ok equation
      obtain ⟨rightType, last, typedRight, rest⟩ := bind_eq_ok rest
      split at rest
      · next truths =>
          obtain ⟨rfl, rfl⟩ := pure_eq_ok rest
          obtain ⟨isTruth, isOtherTruth⟩ := Bool.and_eq_true_iff.1 truths
          exact (all.operands typedLeft typedRight ready present).mono
            fun world types view within =>
              .logical (types view within).1 (types view within).2 isTruth isOtherTruth
      · cases rest
  | call callee paren arguments => exact all.infer_call equation ready present

theorem callType_succ (all : AllDerive since base fuel) {callee type : Ty} {arguments : List Ty}
    {paren : Token}
    (equation : Check.callType (fuel + 1) callee arguments paren before = .ok type after)
    (ready : before.Ready since base) (isProper : callee.isProper = true)
    (areProper : ∀ argument ∈ arguments, argument.isProper = true) :
    after.Yields since base fun world => world.Answers callee arguments type := by
  cases callee with
  | native name parameters result =>
      rw [Check.callType] at equation
      cases called : nativeCallType name parameters result arguments with
      | error cause =>
          rw [called] at equation
          cases equation
      | ok found =>
          rw [called] at equation
          obtain ⟨rfl, rfl⟩ := pure_eq_ok equation
          exact ready.yields fun _ _ => .native called
  | function name identifier =>
      rw [Check.callType, get_bind_apply] at equation
      cases isArity : arity before.functions name identifier with
      | error fault =>
          rw [isArity] at equation
          cases equation
      | ok expected =>
          rw [isArity] at equation
          obtain ⟨_, _, same, rest⟩ := bind_eq_ok equation
          obtain ⟨rfl, rfl⟩ := pure_eq_ok same
          split at rest
          · next fits =>
              subst fits
              exact (all.instantiate rest ready areProper isArity).mono fun _ => .function
          · cases rest
  | unknown => cases isProper
  | bareNative | number | text | bool | displayable | tuple _ => cases equation

/-- A call that has a type without a body being checked for it. -/
theorem answers_of_instantiate {name : String} {identifier : Nat} {arguments : List Ty}
    {anchor : Token} {type : Ty}
    (equation : Check.instantiate (fuel + 1) name identifier arguments anchor before =
      .ok type after)
    (ready : before.Ready since base)
    (areProper : ∀ argument ∈ arguments, argument.isProper = true)
    (closed : ¬ ∃ function, before.Opens identifier arguments function) :
    before = after ∧ before.Answers since identifier arguments type := by
  rw [Check.instantiate, get_bind_apply] at equation
  obtain ⟨function, _, isDeclared, rest⟩ := bind_eq_ok equation
  cases declared : declaration before.functions name identifier with
  | error fault =>
      rw [declared] at isDeclared
      cases isDeclared
  | ok same =>
      rw [declared] at isDeclared
      cases isDeclared
      have found := declaration_eq_ok.1 declared
      dsimp only at rest
      cases cached : function.instances.get? (arguments, before.generation) with
      | some result =>
          rw [cached] at rest
          obtain ⟨rfl, rfl⟩ := pure_eq_ok rest
          exact ⟨rfl, .inl ⟨_, ready.begun, Option.bind_eq_some_iff.2 ⟨function, found, cached⟩⟩⟩
      | none =>
          rw [cached] at rest
          dsimp only at rest
          cases active : before.activations.find? fun activation =>
              activation.function = identifier && activation.arguments = arguments with
          | some activation =>
              rw [active] at rest
              have member := List.mem_of_find?_eq_some active
              have isCall := List.find?_some active
              simp only [Bool.and_eq_true, decide_eq_true_eq] at isCall
              dsimp only at rest
              cases shape : activation.returns with
              | nil =>
                  rw [shape] at rest
                  dsimp only at rest
                  rw [Ty.anyUnknown_of_areProper (Ty.areProper_iff.2 areProper)] at rest
                  cases rest
              | cons entry entries =>
                  rw [shape] at rest
                  obtain ⟨rfl, rfl⟩ := pure_eq_ok rest
                  exact ⟨rfl, .inr ⟨activation, member, isCall.1, isCall.2, by rw [shape]; rfl⟩⟩
          | none =>
              rw [active] at rest
              dsimp only at rest
              split at rest
              · cases rest
              · next few =>
                  exact absurd ⟨function, found, cached, active, Nat.lt_of_not_le few⟩ closed

/-- If the body of a function leaves no diagnostic, all its returns fit. -/
theorem admits_of_clean {name : String} {result : Ty} {results : List (Ty × Token)}
    (clean : ((returnMismatches name result results).foldl State.report before).diagnostics = []) :
    returnMismatches name result results = [] ∧ Admits result results := by
  have none : returnMismatches name result results = [] := by
    cases shape : returnMismatches name result results with
    | nil => rfl
    | cons diagnostic diagnostics =>
        rw [shape, List.foldl_cons] at clean
        have effect := AllKeep.effect_reports .nothing diagnostics (before.report diagnostic)
        exact absurd (effect.clean clean) (Keeps.diagnostics_report_ne_nil before diagnostic)
  refine ⟨none, fun entry member => ?_⟩
  unfold returnMismatches at none
  rw [List.map_eq_nil_iff, List.filter_eq_nil_iff] at none
  simpa using none entry member

/-- The body that is checked knows no less than the caller. -/
theorem world_begun (before : State) (since : Nat) (function : DeclaredFunction)
    (identifier : Nat) (arguments : List Ty) (ready : before.Ready since base)
    (found : before.functions[identifier]? = some function) :
    (before.world since).Within
      ((before.begun function identifier arguments).world since) := by
  have effect := AllKeep.effect_entered before found arguments
  have entered := effect.world since ready.wellFormed ready.proper
    fun frame same => (show frame = before.next from same) ▸ ready.present
  refine ⟨entered.code, entered.view, fun answers => ?_⟩
  rcases entered.result answers with remembered | ⟨activation, member, met⟩
  · exact .inl remembered
  · exact .inr ⟨activation, List.mem_cons_of_mem _ member, met⟩

theorem ready_begun {function : DeclaredFunction} {identifier : Nat} {arguments : List Ty}
    (ready : before.Ready since base) (found : before.functions[identifier]? = some function)
    (areProper : ∀ argument ∈ arguments, argument.isProper = true) :
    (before.begun function identifier arguments).Ready since base := by
  have effect := AllKeep.effect_entered before found arguments
  have wellFormed := effect.wellFormed ready.wellFormed
  exact
    { wellFormed := ⟨wellFormed.ordered, wellFormed.closures⟩
      proper := ready.proper.begun function identifier areProper
      present := Nat.le_trans ready.present effect.grown.size
      begun := ready.begun
      dated := fun known => ready.dated known
      justified := fun recent known => (ready.justified recent known).onward
        (world_begun before since function identifier arguments ready found) }

section Remembered

variable {function : DeclaredFunction} {identifier : Nat} {arguments : List Ty} {last : State}

/-- The state in which the result of a body is remembered that has been checked to its end. -/
def remembered (last : State) (identifier generation : Nat) (arguments : List Ty) (result : Ty) :
    State :=
  State.setInstance { last with activations := last.activations.tail } identifier
    (arguments, generation) result

theorem tail_activations
    (effect : Effect (.body before.next) (before.begun function identifier arguments) last) :
    ∃ returns, last.activations =
      { function := identifier, arguments := arguments, returns := returns } ::
        before.activations := by
  have appended := effect.activations
  match shape : last.activations, appended with
  | ⟨_, _, returns⟩ :: _, ⟨rfl, rfl, _, rfl⟩ => exact ⟨returns, rfl⟩

theorem instance?_remembered {declared : DeclaredFunction}
    (found : last.functions[identifier]? = some declared) (other generation : Nat)
    (key : InstanceKey) (result : Ty) :
    (remembered last identifier generation arguments result).instance? other key =
      if identifier = other ∧ (arguments, generation) = key then some result
      else last.instance? other key :=
  Effect.instance?_setInstance { last with activations := last.activations.tail } _ _ _ _ _ found

/-- What was a promise as long as the body was being checked is kept by the instance. -/
theorem world_remembered {results : List (Ty × Token)} (ready : last.Ready since base)
    (recent : since ≤ before.generation) (opens : before.Opens identifier arguments function)
    (effect : Effect (.body before.next) (before.begun function identifier arguments) last)
    (first : last.met <+: results)
    (new : last.instance? identifier (arguments, before.generation) = none) :
    (last.world since).Within
      ((remembered last identifier before.generation arguments
        (chooseResult (results.map (·.1)))).world since) := by
  obtain ⟨declared, found, _⟩ := effect.declarations identifier function opens.found
  obtain ⟨returns, shape⟩ := tail_activations effect
  have idle : ¬ State.Active { last with activations := last.activations.tail } identifier
      arguments := by
    rintro ⟨activation, member, active⟩
    rw [shape] at member
    exact AllKeep.not_active_of_find? opens.idle ⟨activation, member, active⟩
  have remembers : Effect .nothing { last with activations := last.activations.tail }
      (remembered last identifier before.generation arguments
        (chooseResult (results.map (·.1)))) :=
    .setInstance _ _ _ found new idle
  have left := remembers.world since
    ⟨ready.wellFormed.ordered, ready.wellFormed.closures⟩ ready.proper.leave
    fun _ none => none.elim
  refine ⟨left.code, left.view, fun answers => ?_⟩
  rcases answers with known | ⟨activation, member, rfl, rfl, met⟩
  · exact left.result (.inl known)
  · rw [shape] at member
    rcases List.mem_cons.1 member with rfl | member
    · refine .inl ⟨before.generation, recent, ?_⟩
      rw [instance?_remembered found, if_pos ⟨rfl, rfl⟩]
      obtain ⟨further, grown⟩ := first
      rw [State.met, shape] at grown
      dsimp only [List.head?_cons, Option.map_some, Option.getD_some] at grown met
      cases returns with
      | nil => cases met
      | cons entry entries =>
          cases met
          have isProper : entry.1.isProper = true :=
            ready.proper.returns _ (shape ▸ List.mem_cons_self) entry List.mem_cons_self
          rw [← grown, List.cons_append, List.map_cons, chooseResult,
            List.find?_cons_of_pos (by rw [Ty.hasUnknown_of_isProper isProper]; rfl)]
    · exact left.result (.inr ⟨activation, by rw [shape]; exact member, rfl, rfl, met⟩)

end Remembered

theorem instantiate_succ (all : AllDerive since base fuel) {name : String} {identifier : Nat}
    {arguments : List Ty} {anchor : Token} {type : Ty}
    (equation : Check.instantiate (fuel + 1) name identifier arguments anchor before =
      .ok type after)
    (ready : before.Ready since base)
    (areProper : ∀ argument ∈ arguments, argument.isProper = true)
    (isArity : arity before.functions name identifier = .ok arguments.length) :
    after.Yields since base fun world => world.result identifier arguments type := by
  by_cases opens : ∃ function, before.Opens identifier arguments function
  swap
  · obtain ⟨rfl, answers⟩ := answers_of_instantiate equation ready areProper opens
    exact ready.yields fun world within => within.result answers
  obtain ⟨function, opens⟩ := opens
  intro clean
  have whole := ((allKeep _).instantiate _ _ _ _ _).effect equation
  have proper := ((((discipline_properness base).checksTell _).instantiate trivial ready.proper
    areProper).ends.of_ok equation).2.1
  rw [instantiate_new name anchor opens.found opens.unknown opens.idle opens.few] at equation
  cases checked : Check.checkBody fuel identifier arguments function before.scopes.frames.size
      (AllKeep.entered before function arguments) with
  | error stop last =>
      rw [checked] at equation
      cases equation
  | ok results middle =>
      rw [checked] at equation
      cases equation
      have protects := ((allKeep fuel).checkBody identifier arguments function
        before.scopes.frames.size (AllKeep.entered before function arguments)
        (by simp [AllKeep.entered])).2 results middle checked
      obtain ⟨last, rfl, effect, first, yields⟩ := all.checkBody checked ready opens areProper
      obtain ⟨none, admits⟩ := admits_of_clean clean
      simp only [none, List.foldl_nil] at clean whole proper ⊢
      obtain ⟨readyLast, accepts⟩ := yields clean
      obtain ⟨declared, found, _, parameters, body, _⟩ :=
        effect.declarations identifier function opens.found
      have new : last.instance? identifier (arguments, before.generation) = Option.none := by
        cases known : last.instance? identifier (arguments, before.generation) with
        | none => rfl
        | some result =>
            have former := protects before.generation result known
            change before.instance? identifier (arguments, before.generation) = some result
              at former
            rw [State.instance?, opens.found, Option.bind_some, opens.unknown] at former
            cases former
      have onward := world_remembered readyLast ready.begun opens effect first new
      have length : function.parameters.length = arguments.length := by
        rw [arity, declaration_eq_ok.2 opens.found] at isArity
        exact Except.ok.inj isArity
      refine ⟨?_, fun world within => within.result (.inl ⟨_, ready.begun, ?_⟩)⟩
      · refine
          { wellFormed := whole.wellFormed ready.wellFormed
            proper := proper
            present := Nat.le_trans ready.present whole.grown.size
            begun := Nat.le_trans ready.begun whole.generation
            dated := fun {other types generation result} known => ?_
            justified := fun {other types generation result} recent known => ?_ }
        · rw [← remembered, instance?_remembered found] at known
          split at known
          · next same =>
              cases same.2
              exact whole.generation
          · exact readyLast.dated known
        rw [← remembered, instance?_remembered found] at known
        split at known
        · next same =>
            obtain ⟨rfl, same⟩ := same
            cases same
            cases known
            exact ⟨_, _, onward.code (Option.map_eq_some_iff.2 ⟨declared, found, rfl⟩),
              by rw [List.length_map, parameters, length],
              fun world within => by
                rw [parameters, body]
                exact accepts world (onward.trans within) _ admits⟩
        · exact (readyLast.justified recent known).onward onward
      · rw [← remembered, instance?_remembered found, if_pos ⟨rfl, rfl⟩]

end AllDerive

end Check

end CheckedScript
