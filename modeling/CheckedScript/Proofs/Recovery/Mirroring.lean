import CheckedScript.Proofs.Recovery.Conditions
import CheckedScript.Proofs.Recovery.Mirrors
import CheckedScript.Proofs.Walks.Disciplines

/-!
# Checks mirror each other in calls and bodies

The two checks of programs that differ in exchanged initializers are followed through
expressions, calls and the bodies of functions.  What is known of the new initializers is known
of the parts that the second check gets to, so these are kept track of.
-/

namespace CheckedScript

open Typing Check

/-- A check whose type is one that a given type admits. -/
def Typing.Admits (type : Ty) : EStateM.Result Stop State Ty → Prop
  | .ok found _ => type.compatible found = true
  | .error .exhausted _ => True
  | .error _ _ => False

/-- How much more room the initializers of an exchange may take. -/
noncomputable def Exchange.room (exchange : Exchange) : Nat :=
  2 * (sizeOf exchange.old + sizeOf exchange.new) + 2

namespace Typing.Mirror

/-- The bounds of two checks, of which one leaves more room than the other one. -/
def Enough (room : Nat) : Side → Nat → Nat → Prop
  | .first, fuel, larger => room + fuel ≤ larger
  | .second, larger, fuel => room + fuel ≤ larger

/-- What is known of the exchange, and of the parts that the second check gets to. -/
structure Faithful (mirror : Mirror) (within : Part → Prop) : Prop where
  closed : ∀ {part}, within part → ∀ ⦃called⦄, part.Calls called → within called
  name : mirror.hidden mirror.exchange.name.position = true
  old : mirror.exchange.old.Confined mirror.hidden
  new : mirror.exchange.new.CallFree
  typed : ∀ {fuel frame state place},
    within (.visit ⟨fuel + 2, frame, state, .statement place mirror.exchange.after⟩) →
    Admits mirror.exchange.written.type
      (typeOf fuel frame (place.child 0) mirror.exchange.new state)

/-- All parts of the work of the second checker mirror those of the first one. -/
structure ChecksMirror (mirror : Mirror) (within : Part → Prop) (fuel larger : Nat) : Prop where
  enough : Enough mirror.exchange.room mirror.side fuel larger
  typeOf : ∀ {frame place expr state other}, Clear mirror.hidden expr.tokens →
    within (.visit ⟨larger, frame, other, .expression place expr⟩) → mirror.States state other →
    mirror.Ends (fun _ => True) (typeOf fuel frame place expr state)
      (typeOf larger frame place expr other)
  typesOf : ∀ {frame place step exprs state other},
    Clear mirror.hidden (Expr.allTokens exprs) →
    within (.visit ⟨larger, frame, other, .expressions place step exprs⟩) →
    mirror.States state other →
    mirror.Ends (fun _ => True) (typesOf fuel frame place step exprs state)
      (typesOf larger frame place step exprs other)
  infer : ∀ {frame place expr state other}, Clear mirror.hidden expr.tokens →
    within (.visit ⟨larger + 1, frame, other, .expression place expr⟩) →
    mirror.States state other →
    mirror.Ends (fun _ => True) (infer fuel frame place expr state)
      (infer larger frame place expr other)
  callType : ∀ {callee arguments paren state other}, mirror.hidden paren.position = false →
    (∀ {rest name identifier}, larger = rest + 1 → callee = .function name identifier →
      arity other.functions name identifier = .ok arguments.length →
      within (.call rest other name identifier arguments paren)) →
    mirror.States state other →
    mirror.Ends (fun _ => True) (callType fuel callee arguments paren state)
      (callType larger callee arguments paren other)
  instantiate : ∀ {name identifier arguments anchor state other},
    mirror.hidden anchor.position = false →
    within (.call larger other name identifier arguments anchor) → mirror.States state other →
    mirror.Ends (fun _ => True) (instantiate fuel name identifier arguments anchor state)
      (instantiate larger name identifier arguments anchor other)
  checkBody : ∀ {name identifier arguments anchor function second state other},
    within (.call (larger + 1) other name identifier arguments anchor) →
    other.Opens identifier arguments second → mirror.Functions function second →
    mirror.States state other →
    mirror.Ends mirror.Returns
      (checkBody fuel identifier arguments function state.next
        (AllKeep.entered state function arguments))
      (checkBody larger identifier arguments second other.next
        (AllKeep.entered other second arguments))
  checkStmt : ∀ {frame place stmt second state other},
    stmt.Revised mirror.exchange mirror.hidden second →
    within (.visit ⟨larger, frame, other, .statement place second⟩) →
    mirror.States state other →
    mirror.Ends (fun _ => True) (checkStmt fuel frame place stmt state)
      (checkStmt larger frame place second other)
  checkLet : ∀ {frame place name declared initializer state other},
    Clear mirror.hidden (name :: initializer.tokens) →
    within (.visit ⟨larger + 1, frame, other,
      .statement place (.letValue name declared initializer)⟩) →
    mirror.States state other →
    mirror.Ends (fun _ => True)
      (checkLet fuel frame place name (declared.map (·.type)) initializer state)
      (checkLet larger frame place name (declared.map (·.type)) initializer other)
  checkAll : ∀ {frame place step stmts seconds state other},
    Program.Revised mirror.exchange mirror.hidden stmts seconds →
    within (.visit ⟨larger, frame, other, .statements place step seconds⟩) →
    mirror.States state other →
    mirror.Ends (fun _ => True) (checkAll fuel frame place step stmts state)
      (checkAll larger frame place step seconds other)
  checkBlock : ∀ {frame place body second state other},
    body.Revised mirror.exchange mirror.hidden second →
    within (.visit ⟨larger, frame, other, .block place second⟩) → mirror.States state other →
    mirror.Ends (fun _ => True) (checkBlock fuel frame place body state)
      (checkBlock larger frame place second other)
  checkCondition : ∀ {frame place keyword condition state other},
    Clear mirror.hidden (keyword :: condition.tokens) →
    (∀ {rest}, larger = rest + 1 →
      within (.visit ⟨rest, frame, other, .expression place condition⟩)) →
    mirror.States state other →
    mirror.Ends (fun _ => True) (checkCondition fuel frame place keyword condition state)
      (checkCondition larger frame place keyword condition other)
  checkBound : ∀ {frame place token bound state other},
    Clear mirror.hidden (token :: bound.tokens) →
    (∀ {rest}, larger = rest + 1 →
      within (.visit ⟨rest, frame, other, .expression place bound⟩)) →
    mirror.States state other →
    mirror.Ends (fun _ => True) (checkBound fuel frame place token bound state)
      (checkBound larger frame place token bound other)

namespace ChecksMirror

variable {mirror : Mirror} {within : Part → Prop} {fuel larger : Nat} {frame : FrameId}
  {place : Place} {state other : State}

theorem typeOf_succ (last : ChecksMirror mirror within fuel larger) {expr : Expr}
    (clear : Clear mirror.hidden expr.tokens)
    (reaches : within (.visit ⟨larger + 1, frame, other, .expression place expr⟩))
    (states : mirror.States state other) :
    mirror.Ends (fun _ => True) (Check.typeOf (fuel + 1) frame place expr state)
      (Check.typeOf (larger + 1) frame place expr other) := by
  rw [Check.typeOf, Check.typeOf]
  exact (last.infer clear reaches states).bind fun type _ _ _ _ states =>
    .ok trivial (states.note place expr type)

theorem typesOf_succ (last : ChecksMirror mirror within fuel larger)
    (faithful : mirror.Faithful within) {step : Nat} {exprs : List Expr}
    (clear : Clear mirror.hidden (Expr.allTokens exprs))
    (reaches : within (.visit ⟨larger + 1, frame, other, .expressions place step exprs⟩))
    (states : mirror.States state other) :
    mirror.Ends (fun _ => True) (Check.typesOf (fuel + 1) frame place step exprs state)
      (Check.typesOf (larger + 1) frame place step exprs other) := by
  have onward := faithful.closed reaches
  cases exprs with
  | nil => exact .pure trivial states
  | cons expr exprs =>
      obtain ⟨first, others⟩ := clear.append
      rw [Check.typesOf, Check.typesOf]
      refine (last.typeOf first (onward (.walk .item rfl)) states).bind
        fun type _ _ equation _ states => ?_
      exact (last.typesOf others (onward (.walk (.otherItems equation) rfl)) states).bind
        fun types _ _ _ _ states => .pure trivial states

/-- An operator between two operands. -/
theorem operands (last : ChecksMirror mirror within fuel larger)
    (faithful : mirror.Faithful within) {expr left right : Expr} {token : Token}
    (clear : Clear mirror.hidden (left.tokens ++ token :: right.tokens))
    (reaches : within (.visit ⟨larger + 2, frame, other, .expression place expr⟩))
    (callsLeft : (Part.visit ⟨larger + 2, frame, other, .expression place expr⟩).Calls
      (.visit ⟨larger, frame, other, .expression (place.child 0) left⟩))
    (callsRight : ∀ {type middle},
      Check.typeOf larger frame (place.child 0) left other = .ok type middle →
      (Part.visit ⟨larger + 2, frame, other, .expression place expr⟩).Calls
        (.visit ⟨larger, frame, middle, .expression (place.child 1) right⟩))
    (states : mirror.States state other) {next : Ty → Ty → Check Ty}
    (ends : ∀ leftType rightType {state other}, mirror.States state other →
      mirror.Ends (fun _ => True) (next leftType rightType state)
        (next leftType rightType other)) :
    mirror.Ends (fun _ => True)
      ((do
        let leftType ← Check.typeOf fuel frame (place.child 0) left
        let rightType ← Check.typeOf fuel frame (place.child 1) right
        next leftType rightType : Check Ty) state)
      ((do
        let leftType ← Check.typeOf larger frame (place.child 0) left
        let rightType ← Check.typeOf larger frame (place.child 1) right
        next leftType rightType : Check Ty) other) := by
  obtain ⟨first, rest⟩ := clear.append
  have onward := faithful.closed reaches
  refine (last.typeOf first (onward callsLeft) states).bind fun leftType _ _ equation _ states => ?_
  exact (last.typeOf rest.tail (onward (callsRight equation)) states).bind
    fun rightType _ _ _ _ states => ends leftType rightType states

theorem infer_succ (last : ChecksMirror mirror within fuel larger)
    (faithful : mirror.Faithful within) {expr : Expr}
    (clear : Clear mirror.hidden expr.tokens)
    (reaches : within (.visit ⟨larger + 2, frame, other, .expression place expr⟩))
    (states : mirror.States state other) :
    mirror.Ends (fun _ => True) (Check.infer (fuel + 1) frame place expr state)
      (Check.infer (larger + 1) frame place expr other) := by
  have onward := faithful.closed reaches
  cases expr with
  | literal value token => exact .pure trivial states
  | reference name =>
      rw [Check.infer, Check.infer]
      refine .lookup? states ?_
      cases other.scopes.get? frame name.lexeme with
      | some type => exact .pure trivial states
      | none => exact .fail _ clear.head states
  | assign name value =>
      rw [Check.infer, Check.infer]
      refine (last.typeOf clear.tail (onward (.walk .assigned rfl)) states).bind
        fun found _ later _ _ states => .lookup? states ?_
      cases later.scopes.get? frame name.lexeme with
      | none => exact .fail _ clear.head states
      | some declared =>
          dsimp only
          split
          · exact .pure trivial states
          · exact .fail _ clear.head states
  | group inner =>
      rw [Check.infer, Check.infer]
      exact last.typeOf clear (onward (.walk .inner rfl)) states
  | tuple items =>
      rw [Check.infer, Check.infer]
      exact (last.typesOf clear (onward (.walk .items rfl)) states).bind
        fun types _ _ _ _ states => .pure trivial states
  | unary operator token operand =>
      rw [Check.infer, Check.infer]
      refine (last.typeOf clear.tail (onward (.walk .operand rfl)) states).bind
        fun found _ _ _ _ states => ?_
      cases unaryType? operator found with
      | some result => exact .pure trivial states
      | none => exact .fail _ clear.head states
  | binary operator token left right =>
      rw [Check.infer, Check.infer]
      refine last.operands faithful clear reaches (.walk .left rfl)
        (fun equation => .walk (.right equation) rfl) states
        fun leftType rightType {_ _} states => ?_
      cases binaryType? operator leftType rightType with
      | some result => exact .pure trivial states
      | none => exact .fail _ clear.append.2.head states
  | logical operator token left right =>
      rw [Check.infer, Check.infer]
      refine last.operands faithful clear reaches (.walk .logicalLeft rfl)
        (fun equation => .walk (.logicalRight equation) rfl) states
        fun leftType rightType {_ _} states => ?_
      split
      · exact .pure trivial states
      · exact .fail _ clear.append.2.head states
  | call callee paren arguments =>
      obtain ⟨parts, closing⟩ := clear.append
      obtain ⟨first, others⟩ := parts.append
      rw [Check.infer, Check.infer]
      refine (last.typeOf first (onward (.walk .callee rfl)) states).bind
        fun calleeType _ _ equation _ states => ?_
      refine (last.typesOf others (onward (.walk (.arguments equation) rfl)) states).bind
        fun types _ _ equationOthers _ states => ?_
      refine last.callType closing.head (fun {rest name identifier} same isFunction isArity => ?_)
        states
      subst same isFunction
      exact onward (.request equation equationOthers isArity)

theorem arity_eq (states : mirror.States state other) (name : String) (identifier : Nat) :
    arity state.functions name identifier = arity other.functions name identifier := by
  unfold arity declaration
  cases found : other.functions[identifier]? with
  | none => rw [states.undeclared found]
  | some second =>
      obtain ⟨function, foundFirst, functions⟩ := states.declared found
      rw [foundFirst]
      dsimp only [Except.map]
      rw [functions.parameters]

theorem callType_succ (last : ChecksMirror mirror within fuel larger) {callee : Ty}
    {arguments : List Ty} {paren : Token} (shown : mirror.hidden paren.position = false)
    (reaches : ∀ {rest name identifier}, larger + 1 = rest + 1 →
      callee = .function name identifier →
      arity other.functions name identifier = .ok arguments.length →
      within (.call rest other name identifier arguments paren))
    (states : mirror.States state other) :
    mirror.Ends (fun _ => True) (Check.callType (fuel + 1) callee arguments paren state)
      (Check.callType (larger + 1) callee arguments paren other) := by
  cases callee with
  | function name identifier =>
      rw [Check.callType, Check.callType, get_bind_apply, get_bind_apply, arity_eq states]
      cases isArity : arity other.functions name identifier with
      | error fault => exact .error .faulted states
      | ok expected =>
          refine .orFault ?_
          split
          · next same => exact last.instantiate shown (reaches rfl rfl (same ▸ isArity)) states
          · exact .fail _ shown states
  | native name parameters result =>
      rw [Check.callType, Check.callType]
      cases nativeCallType name parameters result arguments with
      | ok type => exact .pure trivial states
      | error cause => exact .fail _ shown states
  | unknown => exact .pure trivial states
  | bareNative => exact .throw .faulted states
  | number | text | bool | displayable | tuple => exact .fail _ shown states

/-- A call that no body is checked for is answered alike. -/
theorem answered {name : String} {identifier : Nat} {arguments : List Ty} {anchor : Token}
    (shown : mirror.hidden anchor.position = false)
    (closed : ¬ ∃ function, other.Opens identifier arguments function)
    (states : mirror.States state other) :
    mirror.Ends (fun _ => True) (Check.instantiate (fuel + 1) name identifier arguments anchor state)
      (Check.instantiate (larger + 1) name identifier arguments anchor other) := by
  rw [Check.instantiate, Check.instantiate, get_bind_apply, get_bind_apply]
  cases found : other.functions[identifier]? with
  | none =>
      unfold declaration
      rw [found, states.undeclared found]
      exact .error .faulted states
  | some second =>
      obtain ⟨function, foundFirst, functions⟩ := states.declared found
      rw [declaration_eq_ok.2 found, declaration_eq_ok.2 foundFirst]
      refine .orFault ?_
      dsimp only
      rw [functions.instances, states.generation, states.activations]
      cases cached : second.instances.get? (arguments, other.generation) with
      | some result => exact .pure trivial states
      | none =>
          cases active : other.activations.find? fun activation =>
            activation.function = identifier && activation.arguments = arguments with
          | some activation =>
              dsimp only
              cases activation.returns with
              | cons => exact .pure trivial states
              | nil =>
                  dsimp only
                  split
                  · exact .pure trivial states
                  · exact .fail _ shown states
          | none =>
              dsimp only
              split
              · exact .fail _ shown states
              · next few =>
                  exact absurd ⟨second, found, cached, active, Nat.lt_of_not_le few⟩ closed

theorem shown_returnMismatches {name : String} {result : Ty} {returns : List (Ty × Token)}
    (shown : mirror.Returns returns) :
    ∀ diagnostic ∈ returnMismatches name result returns,
      mirror.hidden diagnostic.token.position = false := by
  intro diagnostic member
  obtain ⟨entry, isEntry, rfl⟩ := List.mem_map.1 member
  exact shown entry (List.mem_of_mem_filter isEntry)

theorem instantiate_succ (last : ChecksMirror mirror within fuel larger) {name : String}
    {identifier : Nat} {arguments : List Ty} {anchor : Token}
    (shown : mirror.hidden anchor.position = false)
    (reaches : within (.call (larger + 1) other name identifier arguments anchor))
    (states : mirror.States state other) :
    mirror.Ends (fun _ => True) (Check.instantiate (fuel + 1) name identifier arguments anchor state)
      (Check.instantiate (larger + 1) name identifier arguments anchor other) := by
  by_cases opens : ∃ function, other.Opens identifier arguments function
  · obtain ⟨second, opens⟩ := opens
    obtain ⟨function, found, functions⟩ := states.declared opens.found
    have ends := last.checkBody reaches opens functions states
    rw [instantiate_new name anchor opens.found opens.unknown opens.idle opens.few,
      instantiate_new name anchor found (functions.instances ▸ states.generation ▸ opens.unknown)
        (states.activations ▸ opens.idle) (states.activations ▸ opens.few)]
    rw [State.next, State.next] at ends
    generalize Check.checkBody fuel identifier arguments function state.scopes.frames.size _ = one,
      Check.checkBody larger identifier arguments second other.scopes.frames.size _ = two at ends
    rw [states.generation]
    cases ends with
    | ok returns after =>
        exact .ok trivial ((after.reports (shown_returnMismatches returns)).setInstance _ _ _)
    | error stops after => exact .error stops after
    | first less => exact .first less
    | second less => exact .second less
  · exact answered shown opens states

/-- The state in which the body of a function is checked. -/
theorem begun {identifier : Nat} {arguments : List Ty} {function second : DeclaredFunction}
    (functions : mirror.Functions function second) (states : mirror.States state other) :
    mirror.States (state.begun function identifier arguments)
      (other.begun second identifier arguments) := by
  unfold State.begun AllKeep.entered
  rw [functions.closure, functions.parameters, states.scopes, states.activations]
  exact { states with
    scopes := rfl
    activations := rfl
    returns := List.forall_mem_cons.2 ⟨by simp [Returns], states.returns⟩ }

/-- What the check of a body comes to between its beginning and its end. -/
theorem throughBody (last : ChecksMirror mirror within fuel larger)
    (faithful : mirror.Faithful within) {name : String} {identifier : Nat} {arguments : List Ty}
    {anchor : Token} {function second : DeclaredFunction}
    (reaches : within (.call (larger + 2) other name identifier arguments anchor))
    (opens : other.Opens identifier arguments second)
    (functions : mirror.Functions function second) (states : mirror.States state other) :
    mirror.Ends (fun _ => True)
      (AllKeep.throughBody fuel function state.next (state.begun function identifier arguments))
      (AllKeep.throughBody larger second other.next
        (other.begun second identifier arguments)) := by
  have onward := faithful.closed reaches
  have statements := functions.body.statements
  obtain ⟨tails, shown⟩ := functions.body.tail
  unfold AllKeep.throughBody
  rw [State.next, states.scopes, functions.place, tails, statements.length_eq]
  refine (last.checkAll statements (onward (.body (.statements opens))) (begun functions states)).bind
    fun _ _ _ equation _ states => ?_
  cases shape : second.body.tail with
  | none => exact .pure trivial states
  | some tail =>
      rw [shape] at shown
      exact (last.typeOf shown (onward (.body (.tail opens equation shape))) states).reporting

theorem collected_eq {function second : DeclaredFunction}
    (functions : mirror.Functions function second) (states : mirror.States state other)
    (fallThrough : Option Ty) :
    state.collected function fallThrough = other.collected second fallThrough := by
  unfold State.collected
  rw [states.activations, blockReturns_revised functions.body, functions.name]

theorem shown_collected {function second : DeclaredFunction}
    (functions : mirror.Functions function second) (states : mirror.States state other)
    (fallThrough : Option Ty) : mirror.Returns (other.collected second fallThrough) := by
  have met : mirror.Returns ((other.activations.head?.map (·.returns)).getD []) := by
    have returns := states.returns
    cases shape : other.activations with
    | nil => simp [Returns]
    | cons activation activations =>
        rw [shape] at returns
        exact returns activation List.mem_cons_self
  unfold State.collected
  cases fallThrough with
  | none => exact met
  | some type =>
      dsimp only
      split
      · exact met
      · exact List.forall_mem_append.2 ⟨met, List.forall_mem_singleton.2 functions.shown⟩

theorem checkBody_succ (last : ChecksMirror mirror within fuel larger)
    (faithful : mirror.Faithful within) {name : String} {identifier : Nat} {arguments : List Ty}
    {anchor : Token} {function second : DeclaredFunction}
    (reaches : within (.call (larger + 2) other name identifier arguments anchor))
    (opens : other.Opens identifier arguments second)
    (functions : mirror.Functions function second) (states : mirror.States state other) :
    mirror.Ends mirror.Returns
      (Check.checkBody (fuel + 1) identifier arguments function state.next
        (AllKeep.entered state function arguments))
      (Check.checkBody (larger + 1) identifier arguments second other.next
        (AllKeep.entered other second arguments)) := by
  have ends := last.throughBody faithful reaches opens functions states
  rw [checkBody_entered, checkBody_entered]
  generalize AllKeep.throughBody fuel function state.next _ = one,
    AllKeep.throughBody larger second other.next _ = two at ends
  cases ends with
  | ok _ states =>
      have returns := shown_collected functions states
      dsimp only
      rw [collected_eq functions states]
      refine .ok (returns _) { states with activations := ?_, returns := ?_ }
      · exact congrArg List.tail states.activations
      · exact fun activation member => states.returns activation (List.mem_of_mem_tail member)
  | error stops after => exact .error stops after
  | first less => exact .first less
  | second less => exact .second less

end ChecksMirror

end Typing.Mirror

end CheckedScript
