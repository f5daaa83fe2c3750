import CheckedScript.Proofs.Walks.CheckTraces

/-!
# What a check turns to

The visits that the checker notes are those that the parts of its work come to.  So the bodies
of functions that the walk over the parts goes into are those that the checker checks.
-/

namespace CheckedScript

namespace Typing

open Check

/-- What is turned to in the course of a part of the work. -/
def Part.TurnsTo (later : Visit) : Part → Prop
  | .visit ⟨fuel, frame, state, .expression place expr⟩ =>
      later ∈ (Trace.typeOf fuel frame place expr).visits state
  | .visit ⟨fuel, frame, state, .expressions place step exprs⟩ =>
      later ∈ (Trace.typesOf fuel frame place step exprs).visits state
  | .visit ⟨fuel, frame, state, .statement place stmt⟩ =>
      later ∈ (Trace.checkStmt fuel frame place stmt).visits state
  | .visit ⟨fuel, frame, state, .statements place step stmts⟩ =>
      later ∈ (Trace.checkAll fuel frame place step stmts).visits state
  | .visit ⟨fuel, frame, state, .block place body⟩ =>
      later ∈ (Trace.checkBlock fuel frame place body).visits state
  | .call fuel state name identifier arguments anchor =>
      later ∈ (Trace.instantiate fuel name identifier arguments anchor).visits state
  | .top fuel frame state place step last stmts =>
      later ∈ (Trace.checkStatements fuel frame place step last stmts).visits state
  | .uncalled fuel state identifier => later ∈ (Trace.checkUncalled fuel identifier).visits state
  | .programs fuel state natives list =>
      later ∈ (Trace.checkEach fuel natives list).visits state

/-- A part comes to a visit, which is the part itself or lies behind one of the parts that it
leads to. -/
def Part.AccountsFor (part : Part) (later : Visit) : Prop :=
  part = .visit later ∨ ∃ called : Part, part.Calls called ∧ called.TurnsTo later

theorem Visit.Calls.accounts {visit called later : Visit} (calls : visit.Calls called)
    (taken : visit.refused = false) (turns : (Part.visit called).TurnsTo later) :
    (Part.visit visit).AccountsFor later :=
  .inr ⟨.visit called, .walk calls taken, turns⟩

section Steps

variable {fuel : Nat} {frame : FrameId} {place : Place} {state : State} {later : Visit}

open Check.Trace

theorem within_checkCondition {property : Visit → Prop} {keyword : Token} {condition : Expr}
    (early : ∀ bound, fuel = bound + 1 →
      Traced.Within property (Trace.typeOf bound frame place condition) state) :
    Traced.Within property (Trace.checkCondition fuel frame place keyword condition) state := by
  cases fuel with
  | zero => exact .lift _
  | succ fuel =>
      refine .bind (early fuel rfl) fun result _ _ => ?_
      cases result with
      | none => exact .pure _
      | some found =>
          dsimp only
          split
          · exact .lift _
          · exact .pure _

theorem within_checkBound {property : Visit → Prop} {token : Token} {bound : Expr}
    (early : ∀ less, fuel = less + 1 →
      Traced.Within property (Trace.typeOf less frame place bound) state) :
    Traced.Within property (Trace.checkBound fuel frame place token bound) state := by
  cases fuel with
  | zero => exact .lift _
  | succ fuel =>
      refine .bind (early fuel rfl) fun _ _ _ => ?_
      split
      · exact .lift _
      · exact .pure _

theorem within_checkLet {property : Visit → Prop} {name : Token} {declared : Option Ty}
    {initializer : Expr}
    (early : ∀ bound, fuel = bound + 1 →
      Traced.Within property (Trace.typeOf bound frame (place.child 0) initializer) state) :
    Traced.Within property (Trace.checkLet fuel frame place name declared initializer) state := by
  cases fuel with
  | zero => exact .lift _
  | succ fuel =>
      cases declared with
      | none => exact .bind (early fuel rfl) fun _ _ _ => .lift _
      | some type =>
          refine .bind (early fuel rfl) fun _ _ _ => .lift_bind fun _ _ _ => ?_
          split
          · exact .lift _
          · exact .pure _

/-- The check of a body turns to its statements, and then to the tail. -/
theorem within_checkBody {identifier : Nat} {arguments : List Ty} {function : DeclaredFunction}
    (opens : state.Opens identifier arguments function) :
    Traced.Within
      (fun later => ∃ bound inside, fuel = bound + 1 ∧
        BodyVisit bound state identifier arguments inside ∧
          (Part.visit inside).TurnsTo later)
      (Trace.checkBody fuel identifier arguments function state.next)
      (AllKeep.entered state function arguments) := by
  cases fuel with
  | zero => exact .lift _
  | succ fuel =>
      refine .lift_bind fun _ _ begins => ?_
      cases begins
      refine .bind (fun _ turns => ⟨fuel, _, rfl, .statements opens, turns⟩)
        fun _ middle checked => ?_
      rw [(forgets fuel).checkAll] at checked
      refine .bind ?_ fun fallThrough _ _ => .lift_bind fun _ _ _ => .lift_bind fun _ _ _ => ?_
      · split
        next => exact .pure _
        next tail written =>
          exact fun _ turns => ⟨fuel, _, rfl, .tail opens checked written, turns⟩
      · split
        · split
          · exact .pure _
          · exact .pure _
        · exact .pure _

/-- A body is checked unless the call is known, in progress, or too deep. -/
theorem accounts_call (name : String) (identifier : Nat) (arguments : List Ty) (anchor : Token) :
    Traced.Within (Part.AccountsFor (.call fuel state name identifier arguments anchor))
      (Trace.instantiate fuel name identifier arguments anchor) state := by
  cases fuel with
  | zero => exact .lift _
  | succ fuel =>
      refine .lift_bind fun _ _ here => ?_
      cases here
      refine .lift_bind fun function after declared => ?_
      obtain ⟨found, rfl⟩ := orFault_eq_ok declared
      dsimp only
      split
      next => exact .pure _
      next unknown =>
        split
        · split
          · exact .pure _
          · split
            · exact .pure _
            · exact .lift _
        next idle =>
          split
          next => exact .lift _
          next few =>
            have opens : state.Opens identifier arguments function :=
              { found := declaration_eq_ok.1 found
                unknown := unknown
                idle := idle
                few := Nat.lt_of_not_le few }
            refine .lift_bind fun _ _ nests => ?_
            cases nests
            refine .lift_bind fun _ _ defines => ?_
            cases defines
            refine .bind (fun later turns => ?_) fun _ _ _ => .lift_bind fun _ _ _ => .pure _
            obtain ⟨bound, inside, rfl, inBody, turns⟩ := within_checkBody opens later turns
            exact .inr ⟨.visit inside, .body inBody, turns⟩

/-- A call that turns to something is one of a declared function with all its arguments. -/
theorem within_callType (callee : Ty) (arguments : List Ty) (paren : Token) :
    Traced.Within
      (fun later => ∃ bound name identifier, fuel = bound + 1 ∧
        callee = .function name identifier ∧
        arity state.functions name identifier = .ok arguments.length ∧
        (Part.call bound state name identifier arguments paren).TurnsTo later)
      (Trace.callType fuel callee arguments paren) state := by
  cases fuel with
  | zero => exact .lift _
  | succ fuel =>
      cases callee with
      | native name parameters result =>
          simp only [Trace.callType]
          split
          · exact .pure _
          · exact .lift _
      | function name identifier =>
          refine .lift_bind fun _ _ here => ?_
          cases here
          refine .lift_bind fun expected after looked => ?_
          obtain ⟨known, rfl⟩ := orFault_eq_ok looked
          split
          next enough =>
            subst enough
            exact fun later turns => ⟨fuel, name, identifier, rfl, rfl, known, turns⟩
          next => exact .lift _
      | unknown => exact .pure _
      | _ => exact .lift _

/-- From an expression a check turns to its parts, and to the body of the function that is
called. -/
theorem accounts_expression (place : Place) (expr : Expr) :
    Traced.Within (Part.AccountsFor (.visit ⟨fuel + 1, frame, state, .expression place expr⟩))
      (Trace.typeOf (fuel + 1) frame place expr) state := by
  refine .noted (.inl rfl) (.bind ?_ fun _ _ _ => .lift_bind fun _ _ _ => .pure _)
  cases fuel with
  | zero => exact .lift _
  | succ fuel =>
      have check := forgets fuel
      cases expr with
      | literal => exact .pure _
      | reference name =>
          refine .lift_bind fun found _ _ => ?_
          cases found with
          | none => exact .lift _
          | some type => exact .pure _
      | assign name value =>
          refine .bind (fun _ => Visit.Calls.assigned.accounts rfl) fun found _ _ =>
            .lift_bind fun declared _ _ => ?_
          cases declared with
          | none => exact .lift _
          | some declared =>
              dsimp only
              split
              · exact .pure _
              · exact .lift _
      | group inner => exact fun _ => Visit.Calls.inner.accounts rfl
      | tuple items => exact .bind (fun _ => Visit.Calls.items.accounts rfl) fun _ _ _ => .pure _
      | unary operator token operand =>
          refine .bind (fun _ => Visit.Calls.operand.accounts rfl) fun found _ _ => ?_
          split
          · exact .pure _
          · exact .lift _
      | binary operator token left right =>
          refine .bind (fun _ => Visit.Calls.left.accounts rfl) fun leftType _ typed => ?_
          rw [check.typeOf] at typed
          refine .bind (fun _ => (Visit.Calls.right typed).accounts rfl) fun rightType _ _ => ?_
          split
          · exact .pure _
          · exact .lift _
      | logical operator token left right =>
          refine .bind (fun _ => Visit.Calls.logicalLeft.accounts rfl) fun leftType _ typed => ?_
          rw [check.typeOf] at typed
          refine .bind (fun _ => (Visit.Calls.logicalRight typed).accounts rfl) fun rightType _ _ => ?_
          split
          · exact .pure _
          · exact .lift _
      | call callee paren arguments =>
          refine .bind (fun _ => Visit.Calls.callee.accounts rfl) fun calleeType _ typed => ?_
          rw [check.typeOf] at typed
          refine .bind (fun _ => (Visit.Calls.arguments typed).accounts rfl) fun types after all => ?_
          rw [check.typesOf] at all
          intro later turns
          obtain ⟨bound, name, identifier, rfl, rfl, known, turns⟩ :=
            within_callType calleeType types paren later turns
          exact .inr ⟨.call bound after name identifier types paren,
            .request typed all known, turns⟩

theorem accounts_expressions (place : Place) (step : Nat) (exprs : List Expr) :
    Traced.Within (Part.AccountsFor (.visit ⟨fuel + 1, frame, state, .expressions place step exprs⟩))
      (Trace.typesOf (fuel + 1) frame place step exprs) state := by
  cases exprs with
  | nil => exact .noted (.inl rfl) (.pure _)
  | cons expr exprs =>
      refine .noted (.inl rfl) (.bind (fun _ => Visit.Calls.item.accounts rfl) fun _ _ typed => ?_)
      rw [(forgets fuel).typeOf] at typed
      exact .bind (fun _ => (Visit.Calls.otherItems typed).accounts rfl) fun _ _ _ => .pure _

theorem accounts_loop {name : Token} {bounds : Bounds} {body : Block} {middle after : State}
    (start : Check.checkBound fuel frame (place.child 0) bounds.token bounds.start state =
      .ok () middle)
    (step : StepChecked fuel frame (place.child 1) bounds.token bounds.step middle after) :
    Traced.Within
      (Part.AccountsFor
        (.visit ⟨fuel + 1, frame, state, .statement place (.forLoop name bounds body)⟩))
      (do
        Trace.checkBound fuel frame (place.child 2) bounds.token bounds.stop
        let inner ← Traced.lift (nest frame)
        Traced.lift (define inner [(name.lexeme, .number)])
        let _ ← Trace.checkBlock fuel inner (place.child 3) body
        return Ty.unit) after := by
  refine .bind (within_checkBound ?_) fun _ last stop => ?_
  · rintro bound rfl
    exact fun _ => (Visit.Calls.forStop start step).accounts rfl
  rw [(forgets fuel).checkBound] at stop
  refine .lift_bind fun _ _ nests => ?_
  cases nests
  refine .lift_bind fun _ _ defines => ?_
  cases defines
  exact .bind (fun _ => (Visit.Calls.forBody start step stop).accounts rfl) fun _ _ _ => .pure _

/-- From a loop a check turns to the bounds as they are written, and then to the body. -/
theorem accounts_forLoop (name : Token) (bounds : Bounds) (body : Block) :
    Traced.Within
      (Part.AccountsFor
        (.visit ⟨fuel + 1, frame, state, .statement place (.forLoop name bounds body)⟩))
      (Trace.checkStmt (fuel + 1) frame place (.forLoop name bounds body)) state := by
  refine .noted (.inl rfl) (.bind (within_checkBound ?_) fun _ middle start => ?_)
  · rintro bound rfl
    exact fun _ => Visit.Calls.forStart.accounts rfl
  rw [(forgets fuel).checkBound] at start
  obtain ⟨token, first, last, step⟩ := bounds
  cases step with
  | none => exact accounts_loop start .absent
  | some step =>
      refine .bind (within_checkBound ?_) fun _ _ checked => ?_
      · rintro bound rfl
        exact fun _ => (Visit.Calls.forStep start rfl).accounts rfl
      rw [(forgets fuel).checkBound] at checked
      exact accounts_loop start (.written checked)

/-- From a statement a check turns to its parts. -/
theorem accounts_statement (place : Place) (stmt : Stmt) :
    Traced.Within (Part.AccountsFor (.visit ⟨fuel + 1, frame, state, .statement place stmt⟩))
      (Trace.checkStmt (fuel + 1) frame place stmt) state := by
  have check := forgets fuel
  cases stmt with
  | expression value => exact .noted (.inl rfl) fun _ => Visit.Calls.value.accounts rfl
  | letValue name declared initializer =>
      refine .noted (.inl rfl) (.bind (within_checkLet ?_) fun _ _ _ => .pure _)
      rintro bound rfl
      exact fun _ => Visit.Calls.initializer.accounts rfl
  | block body => exact .noted (.inl rfl) fun _ => Visit.Calls.block.accounts rfl
  | ifThen keyword condition consequent =>
      refine .noted (.inl rfl) (.bind (within_checkCondition ?_) fun _ _ tested => ?_)
      · rintro bound rfl
        exact fun _ => Visit.Calls.ifCondition.accounts rfl
      rw [check.checkCondition] at tested
      exact .bind (fun _ => (Visit.Calls.ifConsequent tested).accounts rfl) fun _ _ _ => .pure _
  | ifElse keyword condition consequent alternative =>
      refine .noted (.inl rfl) (.bind (within_checkCondition ?_) fun _ _ tested => ?_)
      · rintro bound rfl
        exact fun _ => Visit.Calls.elseCondition.accounts rfl
      rw [check.checkCondition] at tested
      refine .bind (fun _ => (Visit.Calls.elseConsequent tested).accounts rfl) fun _ _ checked => ?_
      rw [check.checkBlock] at checked
      exact .bind (fun _ => (Visit.Calls.alternative tested checked).accounts rfl)
        fun _ _ _ => .pure _
  | whileLoop keyword condition body =>
      refine .noted (.inl rfl) (.bind (within_checkCondition ?_) fun _ _ tested => ?_)
      · rintro bound rfl
        exact fun _ => Visit.Calls.whileCondition.accounts rfl
      rw [check.checkCondition] at tested
      exact .bind (fun _ => (Visit.Calls.whileBody tested).accounts rfl) fun _ _ _ => .pure _
  | forLoop name bounds body => exact accounts_forLoop name bounds body
  | function name parameters body =>
      exact .noted (.inl rfl) (.lift_bind fun _ _ _ => .pure _)
  | giveBack keyword value =>
      refine .noted (.inl rfl) (.lift_bind fun _ _ here => ?_)
      cases here
      split
      next => exact .lift _
      next inside =>
        cases value with
        | none => exact .bind (.pure _) fun _ _ _ => .lift_bind fun _ _ _ => .pure _
        | some value =>
            have taken : state.activations.isEmpty = false := Bool.not_eq_true _ ▸ inside
            exact .bind (fun _ => Visit.Calls.returned.accounts taken) fun _ _ _ =>
              .lift_bind fun _ _ _ => .pure _

theorem accounts_statements (place : Place) (step : Nat) (stmts : List Stmt) :
    Traced.Within (Part.AccountsFor (.visit ⟨fuel + 1, frame, state, .statements place step stmts⟩))
      (Trace.checkAll (fuel + 1) frame place step stmts) state := by
  cases stmts with
  | nil => exact .noted (.inl rfl) (.pure _)
  | cons stmt stmts =>
      refine .noted (.inl rfl) (.bind (fun _ => Visit.Calls.first.accounts rfl) fun _ _ checked => ?_)
      rw [Traced.run_through, (forgets fuel).checkStmt] at checked
      exact fun _ => (Visit.Calls.others checked).accounts rfl

theorem accounts_block (place : Place) (body : Block) :
    Traced.Within (Part.AccountsFor (.visit ⟨fuel + 1, frame, state, .block place body⟩))
      (Trace.checkBlock (fuel + 1) frame place body) state := by
  obtain ⟨brace, statements, tail⟩ := body
  refine .noted (.inl rfl) (.lift_bind fun _ _ nests => ?_)
  cases nests
  refine .bind (fun _ => Visit.Calls.blockStatements.accounts rfl) fun _ _ checked => ?_
  rw [(forgets fuel).checkAll] at checked
  cases tail with
  | none => exact .pure _
  | some tail =>
      refine .bind (fun _ => (Visit.Calls.blockTail checked).accounts rfl) fun found _ _ => ?_
      cases found with
      | none => exact .lift _
      | some type => exact .pure _

theorem accounts_top (frame : FrameId) (place : Place) (step : Nat) (last : Ty)
    (stmts : List Stmt) :
    Traced.Within (Part.AccountsFor (.top fuel frame state place step last stmts))
      (Trace.checkStatements fuel frame place step last stmts) state := by
  cases stmts with
  | nil => exact .pure _
  | cons stmt stmts =>
      refine .bind (fun _ turns => .inr ⟨_, .first, turns⟩) fun _ _ checked => ?_
      rw [Traced.run_through, (forgets fuel).checkStmt] at checked
      exact fun _ turns => .inr ⟨_, .others checked, turns⟩

theorem accounts_uncalled (identifier : Nat) :
    Traced.Within (Part.AccountsFor (.uncalled fuel state identifier))
      (Trace.checkUncalled fuel identifier) state := by
  cases fuel with
  | zero => exact .lift _
  | succ fuel =>
      refine .lift_bind fun _ _ here => ?_
      cases here
      split
      next => exact .pure _
      next function found =>
        split
        next unreached =>
          refine .bind (fun _ turns => .inr ⟨_, .unreached found unreached, turns⟩)
            fun _ _ checked => ?_
          rw [Traced.run_through, (forgets fuel).instantiate] at checked
          exact fun _ turns => .inr ⟨_, .otherUncalled found unreached checked, turns⟩
        next reached =>
          exact fun _ turns => .inr ⟨_, .reached found (Bool.not_eq_true _ ▸ reached), turns⟩

theorem accounts_programs (natives : Bindings Signature) (programs : List Program) :
    Traced.Within (Part.AccountsFor (.programs fuel state natives programs))
      (Trace.checkEach fuel natives programs) state := by
  cases programs with
  | nil => exact .pure _
  | cons program programs =>
      refine .bind ?_ fun _ _ checked => ?_
      · refine .lift_bind fun _ _ here => ?_
        cases here
        refine .lift_bind fun _ _ opens => ?_
        cases opens
        refine .bind (fun _ turns => .inr ⟨_, .statements, turns⟩) fun type middle checked => ?_
        rw [run_checkStatements] at checked
        exact .bind (fun _ turns => .inr ⟨_, .uncalled checked, turns⟩) fun _ _ _ => .pure _
      · rw [run_checkProgram] at checked
        exact fun _ turns => .inr ⟨_, .otherPrograms checked, turns⟩

/-- All that is turned to in the course of a part is the part itself, or lies behind one of
the parts that it leads to. -/
theorem Part.TurnsTo.accounts {part : Part} (turns : part.TurnsTo later) :
    part.AccountsFor later := by
  cases part with
  | visit visit =>
      obtain ⟨fuel, frame, state, task⟩ := visit
      cases fuel with
      | zero =>
          refine .inl (congrArg Part.visit ?_)
          cases task <;> exact (List.mem_singleton.1 turns).symm
      | succ fuel =>
          cases task with
          | expression place expr => exact accounts_expression place expr later turns
          | expressions place step exprs => exact accounts_expressions place step exprs later turns
          | statement place stmt => exact accounts_statement place stmt later turns
          | statements place step stmts => exact accounts_statements place step stmts later turns
          | block place body => exact accounts_block place body later turns
  | call _ _ name identifier arguments anchor =>
      exact accounts_call name identifier arguments anchor later turns
  | top _ frame _ place step last stmts =>
      exact accounts_top frame place step last stmts later turns
  | uncalled _ _ identifier => exact accounts_uncalled identifier later turns
  | programs _ _ natives list => exact accounts_programs natives list later turns

theorem Part.turnsTo_self (visit : Visit) : (Part.visit visit).TurnsTo visit := by
  obtain ⟨fuel, frame, state, task⟩ := visit
  cases task with
  | block place body => cases fuel <;> cases body <;> exact List.mem_cons_self
  | _ => cases fuel <;> exact List.mem_cons_self

open Traced (mem_visits_bind)

/-- What lies behind a step of a visit lies behind the visit. -/
theorem Visit.Calls.turnsTo {visit called : Visit} (calls : visit.Calls called)
    (taken : visit.refused = false) (turns : (Part.visit called).TurnsTo later) :
    (Part.visit visit).TurnsTo later := by
  have check := fun fuel => forgets fuel
  cases calls with
  | assigned | inner | items | operand | left | logicalLeft | callee =>
      simp_all [Part.TurnsTo, Trace.typeOf, Trace.infer, mem_visits_bind]
  | right typed | logicalRight typed | arguments typed =>
      simp_all [Part.TurnsTo, Trace.typeOf, Trace.infer, mem_visits_bind, (check _).typeOf]
  | item | otherItems typed =>
      simp_all [Part.TurnsTo, Trace.typesOf, mem_visits_bind, (check _).typeOf]
  | value | block => simp_all [Part.TurnsTo, Trace.checkStmt]
  | @initializer _ _ _ _ _ declared =>
      cases declared <;>
        simp_all [Part.TurnsTo, Trace.checkStmt, Trace.checkLet, mem_visits_bind]
  | ifCondition | elseCondition | whileCondition =>
      simp_all [Part.TurnsTo, Trace.checkStmt, Trace.checkCondition, mem_visits_bind]
  | forStart => simp_all [Part.TurnsTo, Trace.checkStmt, Trace.checkBound, mem_visits_bind]
  | ifConsequent tested | elseConsequent tested | whileBody tested | alternative tested checked =>
      simp_all [Part.TurnsTo, Trace.checkStmt, mem_visits_bind, (check _).checkCondition,
        (check _).checkBlock]
  | @forStep _ _ _ _ _ _ bounds _ _ start written =>
      obtain ⟨token, first, last, step⟩ := bounds
      cases written
      simp_all [Part.TurnsTo, Trace.checkStmt, mem_visits_bind, (check _).checkBound]
      simp_all [Trace.checkBound, mem_visits_bind]
  | @forStop _ _ _ _ _ _ _ bounds _ start checked =>
      obtain ⟨token, first, last, step⟩ := bounds
      cases checked <;>
        simp_all [Part.TurnsTo, Trace.checkStmt, mem_visits_bind, (check _).checkBound] <;>
        simp_all [Trace.checkBound, mem_visits_bind]
  | @forBody fuel frame _ _ _ final place name bounds body start checked stop =>
      obtain ⟨token, first, last, step⟩ := bounds
      have inBody : later ∈ (do
          let inner ← Traced.lift (nest frame)
          Traced.lift (define inner [(name.lexeme, .number)])
          let _ ← Trace.checkBlock fuel inner (place.child 3) body
          return Ty.unit : Steps Ty).visits final :=
        mem_visits_bind.2 (.inr ⟨_, _, rfl, mem_visits_bind.2 (.inr ⟨_, _, rfl,
          mem_visits_bind.2 (.inl turns)⟩)⟩)
      cases checked <;>
        simp_all [Part.TurnsTo, Trace.checkStmt, mem_visits_bind, (check _).checkBound]
  | @returned _ _ state _ keyword expr =>
      have inside : ¬ state.activations.isEmpty = true := Bool.eq_false_iff.1 taken
      refine List.mem_cons_of_mem _ (mem_visits_bind.2 (.inr ⟨_, _, rfl, ?_⟩))
      rw [if_neg inside]
      exact mem_visits_bind.2 (.inl turns)
  | blockStatements =>
      exact List.mem_cons_of_mem _ (mem_visits_bind.2 (.inr ⟨_, _, rfl,
        mem_visits_bind.2 (.inl turns)⟩))
  | blockTail checked =>
      rw [← (check _).checkAll] at checked
      exact List.mem_cons_of_mem _ (mem_visits_bind.2 (.inr ⟨_, _, rfl,
        mem_visits_bind.2 (.inr ⟨_, _, checked, mem_visits_bind.2 (.inl turns)⟩)⟩))
  | first | others checked =>
      simp_all [Part.TurnsTo, Trace.checkAll, mem_visits_bind, (check _).checkStmt]

/-- What lies behind a visit in the body of a function lies behind the call of the function. -/
theorem BodyVisit.turnsTo {identifier : Nat} {arguments : List Ty} {inside : Visit}
    (inBody : BodyVisit fuel state identifier arguments inside)
    (turns : (Part.visit inside).TurnsTo later) (name : String) (anchor : Token) :
    (Part.call (fuel + 2) state name identifier arguments anchor).TurnsTo later := by
  suffices ∃ function, state.Opens identifier arguments function ∧
      later ∈ (Trace.checkBody (fuel + 1) identifier arguments function state.next).visits
        (AllKeep.entered state function arguments) by
    obtain ⟨function, opens, turns⟩ := this
    have declared : orFault (declaration state.functions name identifier) state =
        .ok function state := by
      rw [declaration_eq_ok.2 opens.found]
      rfl
    refine mem_visits_bind.2 (.inr ⟨_, _, rfl, mem_visits_bind.2 (.inr ⟨_, _, declared, ?_⟩)⟩)
    dsimp only
    rw [opens.unknown, opens.idle]
    dsimp only
    rw [if_neg (Nat.not_le_of_lt opens.few)]
    exact mem_visits_bind.2 (.inr ⟨_, _, rfl, mem_visits_bind.2 (.inr ⟨_, _, rfl,
      mem_visits_bind.2 (.inl turns)⟩)⟩)
  have check := forgets fuel
  cases inBody with
  | @statements function opens =>
      exact ⟨function, opens, mem_visits_bind.2 (.inr ⟨_, _, rfl, mem_visits_bind.2 (.inl turns)⟩)⟩
  | @tail function middle tail opens checked written =>
      rw [← check.checkAll] at checked
      refine ⟨function, opens, mem_visits_bind.2 (.inr ⟨_, _, rfl, mem_visits_bind.2
        (.inr ⟨_, _, checked, mem_visits_bind.2 (.inl ?_)⟩)⟩)⟩
      rw [written]
      exact turns

/-- What lies behind a part that a part leads to lies behind the part. -/
theorem Part.Calls.turnsTo {part called : Part} (calls : part.Calls called)
    (turns : called.TurnsTo later) : part.TurnsTo later := by
  cases calls with
  | walk calls taken => exact calls.turnsTo taken turns
  | @request fuel frame state middle after place callee paren arguments name identifier types typed
      all known =>
      rw [← (forgets (fuel + 1)).typeOf] at typed
      rw [← (forgets (fuel + 1)).typesOf] at all
      have looked : orFault (arity after.functions name identifier) after =
          .ok types.length after := by
        rw [known]
        rfl
      have called : later ∈ (Trace.callType (fuel + 1) (.function name identifier) types
          paren).visits after := by
        refine mem_visits_bind.2 (.inr ⟨_, _, rfl, mem_visits_bind.2 (.inr ⟨_, _, looked, ?_⟩)⟩)
        rw [if_pos rfl]
        exact turns
      exact List.mem_cons_of_mem _ (mem_visits_bind.2 (.inl (mem_visits_bind.2
        (.inr ⟨_, _, typed, mem_visits_bind.2 (.inr ⟨_, _, all, called⟩)⟩))))
  | body inBody => exact inBody.turnsTo turns _ _
  | first => exact mem_visits_bind.2 (.inl turns)
  | others checked =>
      rw [← (forgets _).checkStmt] at checked
      exact mem_visits_bind.2 (.inr ⟨_, _, checked, turns⟩)
  | unreached found unreached =>
      refine mem_visits_bind.2 (.inr ⟨_, _, rfl, ?_⟩)
      rw [found]
      dsimp only
      rw [unreached, if_pos rfl]
      exact mem_visits_bind.2 (.inl turns)
  | reached found reached =>
      refine mem_visits_bind.2 (.inr ⟨_, _, rfl, ?_⟩)
      rw [found]
      dsimp only
      rw [reached, if_neg Bool.false_ne_true]
      exact turns
  | otherUncalled found unreached checked =>
      rw [← (forgets _).instantiate] at checked
      refine mem_visits_bind.2 (.inr ⟨_, _, rfl, ?_⟩)
      rw [found]
      dsimp only
      rw [unreached, if_pos rfl]
      exact mem_visits_bind.2 (.inr ⟨_, _, checked, turns⟩)
  | statements =>
      exact mem_visits_bind.2 (.inl (mem_visits_bind.2 (.inr ⟨_, _, rfl, mem_visits_bind.2
        (.inr ⟨_, _, rfl, mem_visits_bind.2 (.inl turns)⟩)⟩)))
  | uncalled checked =>
      rw [← run_checkStatements] at checked
      exact mem_visits_bind.2 (.inl (mem_visits_bind.2 (.inr ⟨_, _, rfl, mem_visits_bind.2
        (.inr ⟨_, _, rfl, mem_visits_bind.2 (.inr ⟨_, _, checked, mem_visits_bind.2
          (.inl turns)⟩)⟩)⟩)))
  | otherPrograms checked =>
      rw [← run_checkProgram] at checked
      exact mem_visits_bind.2 (.inr ⟨_, _, checked, turns⟩)

/-- What grows smaller from a part to those that it leads to. -/
def Part.rank : Part → Nat
  | visit inner => inner.fuel
  | call fuel _ _ _ _ _ => fuel
  | top fuel _ _ _ _ _ stmts => fuel + stmts.length + 1
  | uncalled fuel _ _ => fuel + 1
  | programs fuel _ _ list => fuel + (list.map fun program => program.length + 1).sum + 1

theorem Part.Calls.rank_lt {part called : Part} (calls : part.Calls called) :
    called.rank < part.rank := by
  cases calls with
  | walk calls _ => cases calls <;> simp [Part.rank]
  | body inBody => cases inBody <;> simp [Part.rank]
  | _ => simp only [Part.rank, List.map_cons, List.sum_cons, List.length_cons]; omega

/-- In the course of a part exactly those visits are made that it reaches. -/
theorem Part.turnsTo_iff {part : Part} : part.TurnsTo later ↔ part.Reaches (.visit later) := by
  constructor
  · intro turns
    induction bound : part.rank using Nat.strongRecOn generalizing part with
    | ind bound inductionHypothesis =>
        rcases turns.accounts with rfl | ⟨called, calls, turns⟩
        · exact .refl
        · exact .head calls (inductionHypothesis _ (bound ▸ calls.rank_lt) turns rfl)
  · intro path
    induction path using Relation.ReflTransGen.head_induction_on with
    | refl => exact Part.turnsTo_self later
    | head calls _ turns => exact calls.turnsTo turns

end Steps

section Program

variable {natives : Bindings Signature} {bound : Nat} {program : Program} {visit : Visit}

/-- The check of a program makes exactly those visits that it reaches. -/
theorem mem_visits_iff :
    visit ∈ visits natives bound program ↔
      (Part.programs bound {} natives [program]).Reaches (.visit visit) := by
  rw [← Part.turnsTo_iff]
  constructor
  · exact fun member => Traced.mem_visits_bind.2 (.inl member)
  · intro turns
    rcases Traced.mem_visits_bind.1 turns with member | ⟨_, _, _, member⟩
    · exact member
    · cases member

/-- Behind some statements of a program lie those after them. -/
theorem Part.reaches_top {fuel : Nat} {frame : FrameId} {place : Place} {step : Nat}
    {last type : Ty} {done rest : List Stmt} {before after : State}
    (checked : checkStatements fuel frame place step last done before = .ok type after) :
    (Part.top fuel frame before place step last (done ++ rest)).Reaches
      (.top fuel frame after place (step + done.length) type rest) := by
  induction done generalizing step last before with
  | nil =>
      obtain ⟨rfl, rfl⟩ := pure_eq_ok checked
      exact .refl
  | cons stmt done inductionHypothesis =>
      rw [checkStatements] at checked
      obtain ⟨found, middle, reported, checked⟩ := bind_eq_ok checked
      have onward := inductionHypothesis checked
      rw [Nat.add_assoc, Nat.add_comm 1] at onward
      exact .head (.others reported) onward

/-- A check visits what lies outside the bodies of functions. -/
theorem Visited.mem_visits (visited : Visited natives bound program visit) :
    visit ∈ visits natives bound program := by
  induction visited with
  | @top before after stmt type state split checked =>
      subst split
      have onward : (Part.top bound 0 (State.start natives) (.root 0) 0 .unit
          (before ++ stmt :: after)).Reaches (.top bound 0 state (.root 0) before.length type
            (stmt :: after)) := by
        simpa using Part.reaches_top checked
      exact mem_visits_iff.2 ((onward.head .statements).tail .first)
  | call _ calls taken inductionHypothesis =>
      exact mem_visits_iff.2 ((mem_visits_iff.1 inductionHypothesis).tail (.walk calls taken))

/-- What is known of the parts that the check of a program reaches. -/
def Part.IsOf (natives : Bindings Signature) (bound : Nat) (program : Program) : Part → Prop
  | .visit inner => Typing.Reaches natives bound program inner
  | .call fuel state _ identifier arguments _ => ∀ less inside, fuel = less + 2 →
      BodyVisit less state identifier arguments inside →
        Typing.Reaches natives bound program inside
  | .top fuel frame state place step last stmts =>
      fuel = bound ∧ frame = 0 ∧ place = .root 0 ∧ ∃ before, step = before.length ∧
        program = before ++ stmts ∧
        checkStatements bound 0 (.root 0) 0 .unit before (State.start natives) = .ok last state
  | .uncalled fuel state identifier => Uncalled natives bound program fuel identifier state
  | .programs fuel state others list => list = [] ∨
      fuel = bound ∧ state = {} ∧ others = natives ∧ list = [program]

theorem Part.Calls.isOf {part called : Part} (calls : part.Calls called)
    (known : part.IsOf natives bound program) : called.IsOf natives bound program := by
  cases calls with
  | walk calls _ => exact Reaches.part known calls
  | request typed all enough =>
      rintro less inside rfl inBody
      exact .call known typed all enough inBody
  | body inBody => exact known _ _ rfl inBody
  | first =>
      obtain ⟨rfl, rfl, rfl, before, rfl, split, checked⟩ := known
      exact Reaches.top split checked
  | @others _ _ _ _ _ _ _ stmt stmts _ result =>
      obtain ⟨rfl, rfl, rfl, before, rfl, rfl, checked⟩ := known
      refine ⟨rfl, rfl, rfl, before ++ [stmt], by simp, by simp, ?_⟩
      exact checkStatements_append checked (by rwa [Nat.zero_add])
  | unreached found unreached =>
      rintro less inside rfl inBody
      exact .uncalled known found unreached inBody
  | reached found reached => exact Uncalled.reached known found reached
  | otherUncalled found unreached checked => exact Uncalled.checked known found unreached checked
  | statements =>
      rcases known with none | ⟨rfl, rfl, rfl, same⟩
      · cases none
      · cases same
        exact ⟨rfl, rfl, rfl, [], rfl, rfl, rfl⟩
  | uncalled checked =>
      rcases known with none | ⟨rfl, rfl, rfl, same⟩
      · cases none
      · cases same
        exact Uncalled.start checked
  | otherPrograms =>
      rcases known with none | ⟨rfl, rfl, rfl, same⟩
      · cases none
      · cases same
        exact Or.inl rfl

/-- The walk into the bodies of functions comes to all that the check of a program visits. -/
theorem reaches_of_mem_visits (member : visit ∈ visits natives bound program) :
    Reaches natives bound program visit := by
  have path := mem_visits_iff.1 member
  suffices ∀ part, (Part.programs bound {} natives [program]).Reaches part →
      part.IsOf natives bound program from
    this _ path
  intro part path
  induction path with
  | refl => exact Or.inr ⟨rfl, rfl, rfl, rfl⟩
  | tail _ calls inductionHypothesis => exact calls.isOf inductionHypothesis

end Program

end Typing

end CheckedScript
