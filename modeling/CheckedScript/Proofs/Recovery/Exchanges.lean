import CheckedScript.Proofs.Recovery.Mirroring

/-!
# Checks mirror each other in statements

An annotated `let` statement binds its name to the written type, whatever becomes of its
initializer: a failure of the initializer goes on once the name is bound, and a type that does
not fit is found to be wrong afterwards.  So two checks that differ in the initializer bind the
same, and one check is ahead of the other by hidden diagnostics at most.  The statements around
it are checked alike.
-/

namespace CheckedScript

open Typing Check

/-- The check of an annotated `let` statement, by what becomes of its initializer. -/
theorem checkStmt_annotated (fuel : Nat) (frame : FrameId) (place : Place) (name : Token)
    (written : WrittenType) (initializer : Expr) (state : State) :
    checkStmt (fuel + 2) frame place (.letValue name (some written) initializer) state =
      match typeOf fuel frame (place.child 0) initializer state with
      | .ok found after =>
          if written.type.compatible found then
            .ok .unit (after.bind frame name.lexeme written.type)
          else
            .error
              (.failed
                { cause := .initializerMismatch written.type.describe found.describe
                  token := name })
              (after.bind frame name.lexeme written.type)
      | .error (.failed diagnostic) after =>
          .error (.failed diagnostic) (after.bind frame name.lexeme written.type)
      | .error .reported after => .error .reported (after.bind frame name.lexeme written.type)
      | .error stop after => .error stop after := by
  rw [checkStmt, Option.map_some, checkLet, bind_apply, bind_apply, onFailure]
  cases typeOf fuel frame (place.child 0) initializer state with
  | ok found after =>
      have bound : ∀ next : Check Unit, (Check.bind frame name.lexeme written.type >>= fun _ => next)
          after = next (after.bind frame name.lexeme written.type) := fun _ => rfl
      dsimp only
      rw [bound]
      cases written.type.compatible found <;> rfl
  | error stop after => cases stop <;> rfl

section Outcomes

variable {hidden : Position → Bool} {enough : Prop} {fuel : Nat} {frame : FrameId} {place : Place}
  {name : Token} {written : WrittenType} {initializer : Expr}

/-- The name is bound, and what is reported is out of sight. -/
theorem reporting_annotated (outOfSight : hidden name.position = true)
    (confined : initializer.Confined hidden) (large : enough → 2 * sizeOf initializer + 2 ≤ fuel)
    (state : State) :
    (∃ found after,
      reporting (checkStmt fuel frame place (.letValue name (some written) initializer)) state =
        .ok found after ∧ found.getD .unit = .unit ∧
      (state.bind frame name.lexeme written.type).Veiled hidden after) ∨
    ¬ enough ∧ ∃ after,
      reporting (checkStmt fuel frame place (.letValue name (some written) initializer)) state =
        .error .exhausted after := by
  obtain _ | _ | fuel := fuel
  · exact .inr ⟨fun holds => by have := large holds; omega, _, rfl⟩
  · exact .inr ⟨fun holds => by have := large holds; omega, _, rfl⟩
  have ends : (confinement hidden enough).Ends state (fun _ _ => True)
      (typeOf fuel frame (place.child 0) initializer state) :=
    confined.confines (fun holds => by have := large holds; omega) state
  rw [reporting, checkStmt_annotated]
  cases equation : typeOf fuel frame (place.child 0) initializer state with
  | ok found after =>
      rw [equation] at ends
      have bound : (state.bind frame name.lexeme written.type).Veiled hidden
          (after.bind frame name.lexeme written.type) := (ends.1.bind _ _ _).veiled
      refine .inl ?_
      dsimp only
      cases written.type.compatible found with
      | true => exact ⟨some .unit, _, rfl, rfl, bound⟩
      | false =>
          refine ⟨none, _, rfl, rfl, bound.trans ?_⟩
          exact .report _ outOfSight
  | error stop after =>
      rw [equation] at ends
      obtain ⟨noted, _, stops⟩ := ends
      have bound : (state.bind frame name.lexeme written.type).Veiled hidden
          (after.bind frame name.lexeme written.type) := (noted.bind _ _ _).veiled
      cases stops with
      | failed charged => exact .inl ⟨_, _, rfl, rfl, bound.trans (.report _ charged)⟩
      | exhausted few => exact .inr ⟨few, after, rfl⟩

/-- The name is bound and nothing is reported, if the initializer is of the written type. -/
theorem reporting_admitted (callFree : initializer.CallFree)
    (large : enough → 2 * sizeOf initializer + 2 ≤ fuel) {state : State}
    (admits : ∀ {rest}, fuel = rest + 2 →
      Admits written.type (typeOf rest frame (place.child 0) initializer state)) :
    (∃ after,
      reporting (checkStmt fuel frame place (.letValue name (some written) initializer)) state =
        .ok (some .unit) after ∧
      (state.bind frame name.lexeme written.type).Noted after) ∨
    ¬ enough ∧ ∃ after,
      reporting (checkStmt fuel frame place (.letValue name (some written) initializer)) state =
        .error .exhausted after := by
  obtain _ | _ | fuel := fuel
  · exact .inr ⟨fun holds => by have := large holds; omega, _, rfl⟩
  · exact .inr ⟨fun holds => by have := large holds; omega, _, rfl⟩
  -- Every position is hidden here: what is left are the notes.
  have confined : initializer.Confined fun _ => true := callFree.confined fun _ _ => rfl
  have ends : (confinement (fun _ => true) enough).Ends state (fun _ _ => True)
      (typeOf fuel frame (place.child 0) initializer state) :=
    confined.confines (fun holds => by have := large holds; omega) state
  have admits := admits rfl
  rw [reporting, checkStmt_annotated]
  cases equation : typeOf fuel frame (place.child 0) initializer state with
  | ok found after =>
      rw [equation] at ends admits
      have compatible : written.type.compatible found = true := admits
      refine .inl ⟨_, ?_, ends.1.bind frame name.lexeme written.type⟩
      dsimp only
      rw [if_pos compatible]
  | error stop after =>
      rw [equation] at ends admits
      obtain ⟨_, _, stops⟩ := ends
      cases stops with
      | failed => exact admits.elim
      | exhausted few => exact .inr ⟨few, after, rfl⟩

end Outcomes

namespace Typing.Mirror

/-- The bound that leaves more room is enough for both initializers. -/
theorem Enough.initializers {mirror : Mirror} {fuel larger : Nat}
    (enough : Enough mirror.exchange.room mirror.side fuel larger) :
    (mirror.side = .second → 2 * sizeOf mirror.exchange.old + 2 ≤ fuel) ∧
      (mirror.side = .first → 2 * sizeOf mirror.exchange.new + 2 ≤ larger) := by
  generalize mirror.side = side at enough
  unfold Enough Exchange.room at enough
  cases side with
  | first => exact ⟨fun same => (by cases same), fun _ => (by dsimp only at enough; omega)⟩
  | second => exact ⟨fun _ => (by dsimp only at enough; omega), fun same => (by cases same)⟩

section Bounds

variable {room fuel larger : Nat} {side : Side}

theorem Enough.pred (enough : Enough room side (fuel + 1) (larger + 1)) :
    Enough room side fuel larger := by
  unfold Enough at *
  cases side <;> dsimp only at * <;> omega

end Bounds

section Spent

variable {mirror : Mirror} {fuel larger : Nat}

theorem Enough.first_of_zero (enough : Enough mirror.exchange.room mirror.side 0 larger) :
    mirror.side = .first := by
  refine Side.eq_first fun same => ?_
  have := enough.initializers.1 same
  omega

theorem Enough.second_of_zero (enough : Enough mirror.exchange.room mirror.side fuel 0) :
    mirror.side = .second := by
  refine Side.eq_second fun same => ?_
  have := enough.initializers.2 same
  omega

end Spent

namespace ChecksMirror

variable {mirror : Mirror} {within : Part → Prop} {fuel larger : Nat} {frame : FrameId}
  {place : Place} {state other : State}

/-- Behind the exchanged statement the two checks go on alike. -/
theorem exchanged {α : Type} {fits : α → Prop} (last : ChecksMirror mirror within fuel larger)
    (faithful : mirror.Faithful within)
    (reaches : within (.visit ⟨larger, frame, other, .statement place mirror.exchange.after⟩))
    (states : mirror.States state other) (next further : Ty → Check α)
    (late : ∀ after later,
      reporting (Check.checkStmt larger frame place mirror.exchange.after) other =
        .ok (some .unit) later →
      mirror.States after later → mirror.Ends fits (next .unit after) (further .unit later)) :
    mirror.Ends fits
      ((do
        let type ← reporting (Check.checkStmt fuel frame place mirror.exchange.before)
        next (type.getD .unit) : Check α) state)
      ((do
        let type ← reporting (Check.checkStmt larger frame place mirror.exchange.after)
        further (type.getD .unit) : Check α) other) := by
  obtain ⟨largeOld, largeNew⟩ := last.enough.initializers
  rw [bind_apply, bind_apply]
  rcases reporting_annotated faithful.name faithful.old largeOld state with
    ⟨found, after, ended, isUnit, veiled⟩ | ⟨few, after, ended⟩
  · rcases reporting_admitted faithful.new largeNew
        (fun same => faithful.typed (same ▸ reaches)) with
      ⟨later, endedToo, noted⟩ | ⟨few, later, endedToo⟩
    · have bound := states.bind frame mirror.exchange.name.lexeme mirror.exchange.written.type
      rw [Exchange.before, Exchange.after, ended, endedToo]
      dsimp only
      rw [isUnit]
      exact late after later endedToo (bound.veiled veiled noted)
    · rw [Exchange.after, endedToo]
      exact .second (Side.eq_second few)
  · rw [Exchange.before, ended]
    exact .first (Side.eq_first few)

theorem checkLet_succ (last : ChecksMirror mirror within fuel larger)
    (faithful : mirror.Faithful within) {name : Token} {declared : Option WrittenType}
    {initializer : Expr} (clear : Clear mirror.hidden (name :: initializer.tokens))
    (reaches : within (.visit ⟨larger + 2, frame, other,
      .statement place (.letValue name declared initializer)⟩))
    (states : mirror.States state other) :
    mirror.Ends (fun _ => True)
      (Check.checkLet (fuel + 1) frame place name (declared.map (·.type)) initializer state)
      (Check.checkLet (larger + 1) frame place name (declared.map (·.type)) initializer other) := by
  have typed := last.typeOf clear.tail (faithful.closed reaches (.walk .initializer rfl)) states
  cases declared with
  | none =>
      rw [Option.map_none, Check.checkLet, Check.checkLet]
      exact typed.bind fun found _ _ _ _ states => .ok trivial (states.bind frame name.lexeme found)
  | some written =>
      rw [Option.map_some, Check.checkLet, Check.checkLet]
      have binding := typed.onFailure fun {_ _} states =>
        states.bind frame name.lexeme written.type
      refine binding.bind fun found after later _ _ states => ?_
      have bound := states.bind frame name.lexeme written.type
      change mirror.Ends _
        ((if _ then _ else _ : Check Unit) (after.bind frame name.lexeme written.type))
        ((if _ then _ else _ : Check Unit) (later.bind frame name.lexeme written.type))
      split
      · exact .fail _ clear.head bound
      · exact .pure trivial bound

theorem checkAll_succ (last : ChecksMirror mirror within fuel larger)
    (faithful : mirror.Faithful within) {step : Nat} {stmts seconds : List Stmt}
    (revised : Program.Revised mirror.exchange mirror.hidden stmts seconds)
    (reaches : within (.visit ⟨larger + 1, frame, other, .statements place step seconds⟩))
    (states : mirror.States state other) :
    mirror.Ends (fun _ => True) (Check.checkAll (fuel + 1) frame place step stmts state)
      (Check.checkAll (larger + 1) frame place step seconds other) := by
  have onward := faithful.closed reaches
  cases revised with
  | nil => exact .pure trivial states
  | @exchanged stmts seconds others =>
      rw [Check.checkAll, Check.checkAll]
      exact last.exchanged faithful (onward (.walk .first rfl)) states
        (fun _ => Check.checkAll fuel frame place (step + 1) stmts)
        (fun _ => Check.checkAll larger frame place (step + 1) seconds)
        fun _ _ equation states => last.checkAll others (onward (.walk (.others equation) rfl)) states
  | cons first others =>
      rw [Check.checkAll, Check.checkAll]
      exact (last.checkStmt first (onward (.walk .first rfl)) states).reporting.bind
        fun _ _ _ equation _ states =>
          last.checkAll others (onward (.walk (.others equation) rfl)) states

theorem checkBlock_succ (last : ChecksMirror mirror within fuel larger)
    (faithful : mirror.Faithful within) {body second : Block}
    (revised : body.Revised mirror.exchange mirror.hidden second)
    (reaches : within (.visit ⟨larger + 1, frame, other, .block place second⟩))
    (states : mirror.States state other) :
    mirror.Ends (fun _ => True) (Check.checkBlock (fuel + 1) frame place body state)
      (Check.checkBlock (larger + 1) frame place second other) := by
  have onward := faithful.closed reaches
  have nested : mirror.States (state.nested frame) (other.nested frame) :=
    { states with scopes := congrArg (fun scopes => (scopes.nest frame).2) states.scopes }
  have inner : state.next = other.next := congrArg (·.frames.size) states.scopes
  cases revised with
  | @mk brace statements others tail statements shown =>
      rw [Check.checkBlock, Check.checkBlock]
      change mirror.Ends _
        ((Check.checkAll fuel state.next place 0 _ >>= _ : Check Ty) (state.nested frame))
        ((Check.checkAll larger other.next place 0 _ >>= _ : Check Ty) (other.nested frame))
      rw [inner, statements.length_eq]
      refine (last.checkAll statements (onward (.walk .blockStatements rfl)) nested).bind
        fun _ _ _ equation _ states => ?_
      cases tail with
      | none => exact .pure trivial states
      | some expr =>
          change mirror.Ends _
            ((reporting (Check.typeOf fuel state.next _ expr) >>= _ : Check Ty) _) _
          rw [inner]
          refine (last.typeOf shown
            (onward (.walk (.blockTail equation) rfl)) states).reporting.bind
              fun found _ _ _ _ states => ?_
          cases found with
          | none => exact .throw .reported states
          | some type => exact .pure trivial states

theorem checkCondition_succ (last : ChecksMirror mirror within fuel larger) {keyword : Token}
    {condition : Expr} (clear : Clear mirror.hidden (keyword :: condition.tokens))
    (reaches : ∀ {rest}, larger + 1 = rest + 1 →
      within (.visit ⟨rest, frame, other, .expression place condition⟩))
    (states : mirror.States state other) :
    mirror.Ends (fun _ => True)
      (Check.checkCondition (fuel + 1) frame place keyword condition state)
      (Check.checkCondition (larger + 1) frame place keyword condition other) := by
  rw [Check.checkCondition, Check.checkCondition]
  refine (last.typeOf clear.tail (reaches rfl) states).reporting.bind fun found _ _ _ _ states => ?_
  cases found with
  | none => exact .pure trivial states
  | some type =>
      dsimp only
      split
      · exact .ok trivial (states.report clear.head)
      · exact .pure trivial states

theorem checkBound_succ (last : ChecksMirror mirror within fuel larger) {token : Token}
    {bound : Expr} (clear : Clear mirror.hidden (token :: bound.tokens))
    (reaches : ∀ {rest}, larger + 1 = rest + 1 →
      within (.visit ⟨rest, frame, other, .expression place bound⟩))
    (states : mirror.States state other) :
    mirror.Ends (fun _ => True) (Check.checkBound (fuel + 1) frame place token bound state)
      (Check.checkBound (larger + 1) frame place token bound other) := by
  rw [Check.checkBound, Check.checkBound]
  refine (last.typeOf clear.tail (reaches rfl) states).bind fun found _ _ _ _ states => ?_
  split
  · exact .fail _ clear.head states
  · exact .pure trivial states

/-- A loop over numbers, from its last bound on. -/
theorem loop (last : ChecksMirror mirror within fuel larger) {name : Token} {bounds : Bounds}
    {body second : Block} {front middle after : State}
    (clear : Clear mirror.hidden (bounds.token :: bounds.stop.tokens))
    (revised : body.Revised mirror.exchange mirror.hidden second)
    (onward : ∀ ⦃called⦄, (Part.visit ⟨larger + 1, frame, front,
      .statement place (.forLoop name bounds second)⟩).Calls called → within called)
    (start : Check.checkBound larger frame (place.child 0) bounds.token bounds.start front =
      .ok () middle)
    (step : StepChecked larger frame (place.child 1) bounds.token bounds.step middle after)
    (states : mirror.States state after) :
    mirror.Ends (fun _ => True)
      ((do
        Check.checkBound fuel frame (place.child 2) bounds.token bounds.stop
        let inner ← nest frame
        define inner [(name.lexeme, .number)]
        let _ ← Check.checkBlock fuel inner (place.child 3) body
        return Ty.unit : Check Ty) state)
      ((do
        Check.checkBound larger frame (place.child 2) bounds.token bounds.stop
        let inner ← nest frame
        define inner [(name.lexeme, .number)]
        let _ ← Check.checkBlock larger inner (place.child 3) second
        return Ty.unit : Check Ty) after) := by
  have stop : mirror.Ends (fun _ => True)
      (Check.checkBound fuel frame (place.child 2) bounds.token bounds.stop state)
      (Check.checkBound larger frame (place.child 2) bounds.token bounds.stop after) :=
    last.checkBound clear (by rintro rest rfl; exact onward (.walk (.forStop start step) rfl))
      states
  refine stop.bind fun _ first final equation _ states => ?_
  have turned : mirror.States (first.turn frame name.lexeme) (final.turn frame name.lexeme) := by
    unfold State.turn State.nested State.next
    rw [states.scopes]
    exact { states with scopes := rfl }
  have inner : first.next = final.next := congrArg (·.frames.size) states.scopes
  change mirror.Ends _
    ((Check.checkBlock fuel first.next (place.child 3) body >>= _ : Check Ty)
      (first.turn frame name.lexeme))
    ((Check.checkBlock larger final.next (place.child 3) second >>= _ : Check Ty)
      (final.turn frame name.lexeme))
  rw [inner]
  exact (last.checkBlock revised (onward (.walk (.forBody start step equation) rfl)) turned).bind
    fun _ _ _ _ _ states => .pure trivial states

theorem forLoop_succ (last : ChecksMirror mirror within fuel larger)
    (faithful : mirror.Faithful within) {name : Token} {bounds : Bounds} {body second : Block}
    (clear : Clear mirror.hidden bounds.tokens)
    (revised : body.Revised mirror.exchange mirror.hidden second)
    (reaches : within (.visit ⟨larger + 1, frame, other,
      .statement place (.forLoop name bounds second)⟩))
    (states : mirror.States state other) :
    mirror.Ends (fun _ => True)
      (Check.checkStmt (fuel + 1) frame place (.forLoop name bounds body) state)
      (Check.checkStmt (larger + 1) frame place (.forLoop name bounds second) other) := by
  have onward := faithful.closed reaches
  obtain ⟨token, start, stop, step⟩ := bounds
  obtain ⟨clearStart, clearRest⟩ := clear.append
  obtain ⟨clearStep, clearStop⟩ := clearRest.tail.append
  have around {tokens : List Token} (inner : Clear mirror.hidden tokens) :
      Clear mirror.hidden (token :: tokens) := List.forall_mem_cons.2 ⟨clearRest.head, inner⟩
  rw [Check.checkStmt, Check.checkStmt]
  refine (last.checkBound (around clearStart)
    (by rintro rest rfl; exact onward (.walk .forStart rfl)) states).bind
      fun _ _ middle equation _ states => ?_
  cases step with
  | none => exact last.loop (around clearStop) revised onward equation .absent states
  | some step =>
      exact (last.checkBound (around clearStep)
        (by rintro rest rfl; exact onward (.walk (.forStep equation rfl) rfl)) states).bind
          fun _ _ _ equationStep _ states =>
            last.loop (around clearStop) revised onward equation (.written equationStep) states

theorem checkStmt_succ (last : ChecksMirror mirror within fuel larger)
    (faithful : mirror.Faithful within) {stmt second : Stmt}
    (revised : stmt.Revised mirror.exchange mirror.hidden second)
    (reaches : within (.visit ⟨larger + 1, frame, other, .statement place second⟩))
    (states : mirror.States state other) :
    mirror.Ends (fun _ => True) (Check.checkStmt (fuel + 1) frame place stmt state)
      (Check.checkStmt (larger + 1) frame place second other) := by
  have onward := faithful.closed reaches
  cases revised with
  | expression clear =>
      rw [Check.checkStmt, Check.checkStmt]
      exact last.typeOf clear (onward (.walk .value rfl)) states
  | letValue declared clear =>
      rw [Check.checkStmt, Check.checkStmt]
      exact (last.checkLet clear reaches states).bind fun _ _ _ _ _ states => .pure trivial states
  | block body =>
      rw [Check.checkStmt, Check.checkStmt]
      exact last.checkBlock body (onward (.walk .block rfl)) states
  | ifThen clear consequent =>
      rw [Check.checkStmt, Check.checkStmt]
      refine (last.checkCondition clear
        (by rintro rest rfl; exact onward (.walk .ifCondition rfl)) states).bind
          fun _ _ _ equation _ states => ?_
      exact (last.checkBlock consequent (onward (.walk (.ifConsequent equation) rfl)) states).bind
        fun _ _ _ _ _ states => .pure trivial states
  | ifElse clear consequent alternative =>
      rw [Check.checkStmt, Check.checkStmt]
      refine (last.checkCondition clear
        (by rintro rest rfl; exact onward (.walk .elseCondition rfl)) states).bind
          fun _ _ _ equation _ states => ?_
      refine (last.checkBlock consequent (onward (.walk (.elseConsequent equation) rfl)) states).bind
        fun _ _ _ equationBlock _ states => ?_
      exact (last.checkStmt alternative
        (onward (.walk (.alternative equation equationBlock) rfl)) states).bind
          fun _ _ _ _ _ states => .pure trivial states
  | whileLoop clear body =>
      rw [Check.checkStmt, Check.checkStmt]
      refine (last.checkCondition clear
        (by rintro rest rfl; exact onward (.walk .whileCondition rfl)) states).bind
          fun _ _ _ equation _ states => ?_
      exact (last.checkBlock body (onward (.walk (.whileBody equation) rfl)) states).bind
        fun _ _ _ _ _ states => .pure trivial states
  | forLoop name clear body => exact last.forLoop_succ faithful clear body reaches states
  | function parameters shown body =>
      rw [Check.checkStmt, Check.checkStmt]
      exact .ok trivial (states.declare frame _ parameters shown body)
  | @giveBack keyword value clear =>
      rw [Check.checkStmt, Check.checkStmt, get_bind_apply, get_bind_apply, states.activations]
      cases idle : other.activations.isEmpty with
      | true => exact .fail _ clear.head states
      | false =>
          dsimp only
          rw [if_neg Bool.false_ne_true, if_neg Bool.false_ne_true]
          cases value with
          | none => exact .ok trivial (states.addReturn .unit clear.head)
          | some value =>
              exact (last.typeOf clear.tail (onward (.walk .returned idle)) states).bind
                fun type _ _ _ _ states => .ok trivial (states.addReturn type clear.head)

end ChecksMirror

section Programs

variable {mirror : Mirror} {within : Part → Prop} {fuel larger : Nat} {frame : FrameId}
  {place : Place} {state other : State}

theorem checksMirror (faithful : mirror.Faithful within)
    (enough : Enough mirror.exchange.room mirror.side fuel larger) :
    ChecksMirror mirror within fuel larger := by
  induction fuel generalizing larger with
  | zero =>
      have less := enough.first_of_zero
      constructor
      case enough => exact enough
      all_goals
        intros
        exact .first less
  | succ fuel inductionHypothesis =>
      cases larger with
      | zero =>
          have less := enough.second_of_zero
          constructor
          case enough => exact enough
          all_goals
            intros
            exact .second less
      | succ larger =>
          have last := inductionHypothesis enough.pred
          exact
            { enough := enough
              typeOf := last.typeOf_succ
              typesOf := last.typesOf_succ faithful
              infer := last.infer_succ faithful
              callType := last.callType_succ
              instantiate := last.instantiate_succ
              checkBody := last.checkBody_succ faithful
              checkStmt := last.checkStmt_succ faithful
              checkLet := last.checkLet_succ faithful
              checkAll := last.checkAll_succ faithful
              checkBlock := last.checkBlock_succ faithful
              checkCondition := last.checkCondition_succ
              checkBound := last.checkBound_succ }

theorem ends_checkStatements (faithful : mirror.Faithful within)
    (enough : Enough mirror.exchange.room mirror.side fuel larger) {step : Nat} {type : Ty}
    {stmts seconds : List Stmt}
    (revised : Program.Revised mirror.exchange mirror.hidden stmts seconds)
    (reaches : within (.top larger frame other place step type seconds))
    (states : mirror.States state other) :
    mirror.Ends (fun _ => True) (checkStatements fuel frame place step type stmts state)
      (checkStatements larger frame place step type seconds other) := by
  have last := checksMirror faithful enough
  induction seconds generalizing step type stmts state other with
  | nil =>
      cases revised
      exact .pure trivial states
  | cons second seconds inductionHypothesis =>
      have onward := faithful.closed reaches
      cases revised with
      | @exchanged stmts _ others =>
          rw [checkStatements, checkStatements]
          exact last.exchanged faithful (onward .first) states
            (fun type => checkStatements fuel frame place (step + 1) type stmts)
            (fun type => checkStatements larger frame place (step + 1) type seconds)
            fun _ _ equation states => inductionHypothesis others (onward (.others equation)) states
      | cons first others =>
          rw [checkStatements, checkStatements]
          exact (last.checkStmt first (onward .first) states).reporting.bind
            fun _ _ _ equation _ states =>
              inductionHypothesis others (onward (.others equation)) states

theorem ends_checkUncalled (faithful : mirror.Faithful within)
    (enough : Enough mirror.exchange.room mirror.side fuel larger) {identifier : Nat}
    (reaches : within (.uncalled larger other identifier)) (states : mirror.States state other) :
    mirror.Ends (fun _ => True) (checkUncalled fuel identifier state)
      (checkUncalled larger identifier other) := by
  induction fuel generalizing larger identifier state other with
  | zero => exact .first enough.first_of_zero
  | succ fuel inductionHypothesis =>
      cases larger with
      | zero => exact .second enough.second_of_zero
      | succ larger =>
          have onward := faithful.closed reaches
          rw [checkUncalled, checkUncalled, get_bind_apply, get_bind_apply]
          cases found : other.functions[identifier]? with
          | none =>
              rw [states.undeclared found]
              exact .pure trivial states
          | some second =>
              obtain ⟨function, foundFirst, functions⟩ := states.declared found
              rw [foundFirst]
              dsimp only
              rw [functions.instances, functions.name, functions.parameters]
              cases new : second.instances.isEmpty with
              | false =>
                  rw [if_neg Bool.false_ne_true, if_neg Bool.false_ne_true]
                  exact inductionHypothesis enough.pred (onward (.reached found new)) states
              | true =>
                  rw [if_pos rfl, if_pos rfl]
                  exact ((checksMirror faithful enough.pred).instantiate functions.shown
                    (onward (.unreached found new)) states).reporting.bind
                      fun _ _ _ equation _ states =>
                        inductionHypothesis enough.pred
                          (onward (.otherUncalled found new equation)) states

/-- The check of a program mirrors that of the program with the other initializer. -/
theorem ends_checkProgram (faithful : mirror.Faithful within)
    (enough : Enough mirror.exchange.room mirror.side fuel larger) {natives : Bindings Signature}
    {program second : Program} (revised : program.Revised mirror.exchange mirror.hidden second)
    (reaches : within (.programs larger other natives [second]))
    (states : mirror.States state other) :
    mirror.Ends (fun _ => True) (checkProgram fuel natives program state)
      (checkProgram larger natives second other) := by
  have onward := faithful.closed reaches
  have opened : mirror.States (state.opened natives) (other.opened natives) := by
    unfold State.opened
    rw [states.scopes, states.programs]
    exact { states with scopes := rfl, programs := rfl }
  have root : state.next = other.next := congrArg (·.frames.size) states.scopes
  have top : mirror.Ends (fun _ => True) (checkTop fuel natives program state)
      (checkTop larger natives second other) := by
    change mirror.Ends _
      (checkStatements fuel state.next (.root state.programs) 0 .unit program _)
      (checkStatements larger other.next (.root other.programs) 0 .unit second _)
    rw [root, states.programs]
    exact ends_checkStatements faithful enough revised (onward .statements) opened
  rw [checkProgram_eq, checkProgram_eq]
  exact top.bind fun type _ _ equation _ states =>
    (ends_checkUncalled faithful enough (onward (.uncalled equation)) states).bind
      fun _ _ _ _ _ states => .pure trivial states

end Programs

end Typing.Mirror

end CheckedScript
