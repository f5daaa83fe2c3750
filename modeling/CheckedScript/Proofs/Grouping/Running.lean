import CheckedScript.Proofs.Grouping.Computations
import CheckedScript.Proofs.Grouping.Values
import CheckedScript.Proofs.Running.Consoles

/-!
# Runs of regrouped programs

Every pair of parentheses costs a run one step of nesting.  So the run of a regrouped program
goes the same way if it has enough room, and until then it has printed at least as much as a
run with less room.
-/

namespace CheckedScript

namespace Eval

open Evaluation

variable {natives : List Native} {fuel : Nat} {α β : Type}

/-- What belongs together in the runs of two regrouped programs.  The second run keeps what the
first one has printed when that one lacks room. -/
def pursuit : Pursuit Stop Machine where
  stop := Stop.Regrouped
  state := Machine.Regrouped
  exhausted := .exhausted
  kept first other := first.console.Continues other.console
  start regrouped := regrouped.console ▸ .refl _

section Steps

theorem keeps_of_watched {computation : Eval α}
    (watched : ∀ console : Console, Watched console.Continues computation) :
    pursuit.Keeps computation :=
  fun after => watched after.console

theorem eq_unique : Relator.BiUnique (Eq : String → String → Prop) :=
  ⟨fun _ _ _ first second => first.trans second.symm,
    fun _ _ _ first second => first.symm.trans second⟩

/-- Operators give the same in both runs. -/
theorem pairs_same {value : α → α → Prop} (refl : ∀ found, value found found)
    {result other : Except Stop α} (same : result = other) :
    pursuit.Pairs value (orStop result) (orStop other) := by
  subst same
  cases result with
  | ok found => exact .pure (refl found)
  | error stop => exact .throw (.refl stop)

theorem paired_nest (frame : FrameId) : pursuit.Pairs Eq (nest frame) (nest frame) :=
  fun _ _ regrouped =>
    .ok (regrouped.scopes.fst_nest frame)
      { regrouped with scopes := regrouped.scopes.nest frame }

theorem paired_define (frame : FrameId) {bindings others : Bindings Value}
    (paired : Table.Paired Eq Value.Regrouped bindings others) :
    pursuit.Pairs (fun _ _ => True) (define frame bindings) (define frame others) :=
  fun _ _ regrouped =>
    .ok trivial { regrouped with scopes := regrouped.scopes.defineAll eq_unique frame paired }

theorem paired_declare (frame : FrameId) (name : String) {value other : Value}
    (values : value.Regrouped other) :
    pursuit.Pairs Value.Regrouped (do define frame [(name, value)]; return .unit)
      (do define frame [(name, other)]; return .unit) := by
  have bindings : Table.Paired Eq Value.Regrouped [(name, value)] [(name, other)] :=
    .cons ⟨rfl, values⟩ .nil
  exact (paired_define frame bindings).bind fun _ _ _ => .pure (.refl _)

theorem paired_lookup (frame : FrameId) (name : String) :
    pursuit.Pairs Value.Regrouped (lookup frame name) (lookup frame name) := by
  refine .get fun machine second regrouped => ?_
  have found : Option.Rel Value.Regrouped (machine.scopes.get? frame name)
      (second.scopes.get? frame name) := regrouped.scopes.get? eq_unique rfl frame
  generalize machine.scopes.get? frame name = first, second.scopes.get? frame name = last
    at found ⊢
  cases found with
  | none => exact .throw (.faulted _)
  | some value => exact .pure value

theorem paired_assign (frame : FrameId) (name : String) {value other : Value}
    (values : value.Regrouped other) :
    pursuit.Pairs (fun _ _ => True) (assign frame name value) (assign frame name other) := by
  intro machine second regrouped
  unfold assign
  dsimp only
  rw [regrouped.scopes.owner? eq_unique rfl frame]
  split
  · exact .ok trivial
      { regrouped with scopes := regrouped.scopes.define eq_unique rfl _ values }
  · exact .error (.faulted _) regrouped

theorem paired_requireArity (name : String) (expected found : Nat) :
    pursuit.Pairs (fun _ _ => True) (requireArity name expected found)
      (requireArity name expected found) := by
  unfold requireArity
  split
  · exact .pure trivial
  · exact .throw (.faulted _)

theorem paired_callNative {native : Native} (ignores : native.IgnoresGroups)
    {arguments others : List Value} (values : List.Forall₂ Value.Regrouped arguments others)
    (paren : Token) :
    pursuit.Pairs Value.Regrouped (callNative native arguments paren)
      (callNative native others paren) := by
  rintro ⟨scopes, console⟩ ⟨otherScopes, otherConsole⟩ regrouped
  obtain rfl : console = otherConsole := regrouped.console
  obtain ⟨results, consoles⟩ := ignores _ _ console values
  obtain ⟨key, signature, run⟩ := native
  unfold callNative
  dsimp only at results consoles ⊢
  generalize run arguments console = result, run others console = other at results consoles ⊢
  obtain ⟨ended, written⟩ := result
  obtain ⟨otherEnded, otherWritten⟩ := other
  have after : Machine.Regrouped ⟨scopes, written⟩ ⟨otherScopes, otherWritten⟩ :=
    ⟨regrouped.scopes, consoles⟩
  cases results with
  | value value => exact .ok value after
  | failed reason => exact .error (.failed _) after
  | aborted reason => exact .error (.aborted reason) after

theorem leads_catchReturn {body : Eval Value} {other : Nat → Eval Value}
    (leads : pursuit.Leads Value.Regrouped body other) :
    pursuit.Leads Value.Regrouped (catchReturn body) fun room => catchReturn (other room) := by
  refine leads.changed ?_ ?_ ?_ ?_
  · intro room machine second ends
    unfold catchReturn
    generalize body machine = one, other room second = two at ends ⊢
    cases ends with
    | ok value after => exact .ok value after
    | error stop after =>
        cases stop with
        | returned value => exact .ok value after
        | failed diagnostic => exact .error (.failed diagnostic) after
        | faulted fault => exact .error (.faulted fault) after
        | aborted reason => exact .error (.aborted reason) after
        | exhausted => exact .error .exhausted after
  · intro machine after equation
    unfold catchReturn
    rw [equation]
    rfl
  · intro room more machine same
    unfold catchReturn
    rw [same]
  · intro room machine after admits
    unfold catchReturn
    cases equation : other room machine with
    | ok value later =>
        rw [equation] at admits
        exact admits
    | error stop later =>
        rw [equation] at admits
        cases stop <;> exact admits

end Steps

/-- Every pair of parentheses asks for one step of room. -/
theorem leads_core {frame : FrameId} {expr : Expr} {first : Eval Value}
    (leads : pursuit.Leads Value.Regrouped first fun room =>
      evaluate natives room frame expr.core) :
    pursuit.Leads Value.Regrouped first fun room => evaluate natives room frame expr := by
  fun_induction Expr.core expr with
  | case1 inner inductionHypothesis => exact .succ (inductionHypothesis leads)
  | case2 => exact leads

/-- Whatever has been printed stays printed, in all parts of a run and with any room. -/
def PrintedStays (natives : List Native) : Prop :=
  ∀ (console : Console) (room : Nat),
    RunsUphold (fun machine => console.Continues machine.console) (fun _ => True) natives room

/-- With enough room, a run of the second one of two regrouped programs follows a run of the first
one that has a bound on the nesting. -/
structure RunsLead (natives : List Native) (fuel : Nat) : Prop where
  evaluate : ∀ frame {expr other}, expr.Regrouped other →
    pursuit.Leads Value.Regrouped (evaluate natives fuel frame expr)
      fun room => evaluate natives room frame other
  evaluateAll : ∀ frame {exprs others}, List.Forall₂ Expr.Regrouped exprs others →
    pursuit.Leads (List.Forall₂ Value.Regrouped) (evaluateAll natives fuel frame exprs)
      fun room => evaluateAll natives room frame others
  call : ∀ {callee other arguments others} paren, callee.Regrouped other →
    List.Forall₂ Value.Regrouped arguments others →
    pursuit.Leads Value.Regrouped (call natives fuel callee arguments paren)
      fun room => call natives room other others paren
  execute : ∀ frame {stmt other}, stmt.Regrouped other →
    pursuit.Leads Value.Regrouped (execute natives fuel frame stmt)
      fun room => execute natives room frame other
  executeAll : ∀ frame {stmts others}, List.Forall₂ Stmt.Regrouped stmts others →
    pursuit.Leads (fun _ _ => True) (executeAll natives fuel frame stmts)
      fun room => executeAll natives room frame others
  executeBody : ∀ frame {body other}, body.Regrouped other →
    pursuit.Leads Value.Regrouped (executeBody natives fuel frame body)
      fun room => executeBody natives room frame other
  executeBlock : ∀ frame {body other}, body.Regrouped other →
    pursuit.Leads Value.Regrouped (executeBlock natives fuel frame body)
      fun room => executeBlock natives room frame other
  repeatWhile : ∀ frame keyword {condition test body other},
    condition.Regrouped test → body.Regrouped other →
    pursuit.Leads Value.Regrouped (repeatWhile natives fuel frame keyword condition body)
      fun room => repeatWhile natives room frame keyword test other
  repeatFor : ∀ frame name range index {body other}, body.Regrouped other →
    pursuit.Leads Value.Regrouped (repeatFor natives fuel frame name range index body)
      fun room => repeatFor natives room frame name range index other

namespace RunsLead

variable (lead : RunsLead natives fuel) (stays : PrintedStays natives)

include lead stays

theorem evaluate_succ (frame : FrameId) {expr other : Expr} (regrouped : expr.Regrouped other) :
    pursuit.Leads Value.Regrouped (Eval.evaluate natives (fuel + 1) frame expr)
      fun room => Eval.evaluate natives room frame other := by
  -- The first run takes a step of its own into a group, the second one is given the room for it.
  obtain ⟨inner, rfl, same⟩ | sameForm := regrouped.inner_or_sameForm
  · exact lead.evaluate frame same
  · refine leads_core ?_
    generalize other.core = bare at sameForm
    refine .succ ?_
    cases sameForm with
    | literal value token => exact .of_pairs (.pure (.refl _))
    | reference name => exact .of_pairs (paired_lookup frame name.lexeme)
    | assign name value =>
        exact (lead.evaluate frame value).bind (fun _ _ assigned => .of_pairs
          ((paired_assign frame name.lexeme assigned).bind fun _ _ _ => .pure assigned))
          fun _ value => keeps_of_watched fun _ =>
            (watched_assign frame name.lexeme value).bind fun _ _ => .pure trivial
    | tuple items =>
        exact (lead.evaluateAll frame items).bind
          (fun _ _ values => .of_pairs (.pure (.tuple values))) fun _ _ _ => .pure trivial
    | unary operator token operand =>
        exact (lead.evaluate frame operand).bind
          (fun _ _ value => .of_pairs
            (pairs_same .refl (applyUnary_regrouped token value operator)))
          fun _ _ => keeps_of_watched fun _ => upholds_orStop _
    | binary operator token lefts rights =>
        refine (lead.evaluate frame lefts).bind (fun _ _ first => ?_) fun room _ =>
          keeps_of_watched fun console =>
            ((stays console room).evaluate frame _).bind fun _ _ => upholds_orStop _
        exact (lead.evaluate frame rights).bind
          (fun _ _ second => .of_pairs
            (pairs_same .refl (applyBinary_regrouped token first second operator)))
          fun _ _ => keeps_of_watched fun _ => upholds_orStop _
    | @logical operator token left right first second lefts rights =>
        have goesOn : pursuit.Leads Value.Regrouped
            (do
              let found ← Eval.evaluate natives fuel frame right
              return .bool (← orStop (truth token found)))
            fun room => do
              let found ← Eval.evaluate natives room frame second
              return .bool (← orStop (truth token found)) := by
          refine (lead.evaluate frame rights).bind (fun _ _ value => .of_pairs ?_) fun _ _ =>
            keeps_of_watched fun _ => (upholds_orStop _).bind fun _ _ => .pure trivial
          refine (pairs_same Eq.refl (truth_regrouped token value)).bind ?_
          rintro holds _ rfl
          exact .pure (.bool holds)
        refine (lead.evaluate frame lefts).bind (fun _ _ value => ?_) fun room _ =>
          keeps_of_watched fun console => (upholds_orStop _).bind fun holds _ => ?_
        · refine .after (pairs_same Eq.refl (truth_regrouped token value)) ?_
          rintro holds _ rfl
          cases operator <;> cases holds
          · exact .of_pairs (.pure (.bool _))
          · exact goesOn
          · exact goesOn
          · exact .of_pairs (.pure (.bool _))
        · have stay : Watched console.Continues (do
              let found ← Eval.evaluate natives room frame second
              return Value.bool (← orStop (truth token found))) :=
            ((stays console room).evaluate frame second).bind fun _ _ =>
              (upholds_orStop _).bind fun _ _ => .pure trivial
          cases operator <;> cases holds
          · exact .pure trivial
          · exact stay
          · exact stay
          · exact .pure trivial
    | call paren callee arguments =>
        refine (lead.evaluate frame callee).bind (fun _ _ function => ?_) fun room _ =>
          keeps_of_watched fun console =>
            ((stays console room).evaluateAll frame _).bind fun _ _ =>
              (stays console room).call _ _ paren
        exact (lead.evaluateAll frame arguments).bind
          (fun _ _ values => lead.call paren function values)
          fun room _ => keeps_of_watched fun console => (stays console room).call _ _ paren

theorem evaluateAll_succ (frame : FrameId) {exprs others : List Expr}
    (regrouped : List.Forall₂ Expr.Regrouped exprs others) :
    pursuit.Leads (List.Forall₂ Value.Regrouped) (Eval.evaluateAll natives (fuel + 1) frame exprs)
      fun room => Eval.evaluateAll natives room frame others := by
  refine .succ ?_
  cases regrouped with
  | nil => exact .of_pairs (.pure .nil)
  | cons expr exprs =>
      refine (lead.evaluate frame expr).bind (fun _ _ value => ?_) fun room _ =>
        keeps_of_watched fun console =>
          ((stays console room).evaluateAll frame _).bind fun _ _ => .pure trivial
      exact (lead.evaluateAll frame exprs).bind
        (fun _ _ values => .of_pairs (.pure (.cons value values))) fun _ _ _ => .pure trivial

omit stays in
theorem call_succ (ignore : ∀ native ∈ natives, native.IgnoresGroups) {callee other : Value}
    {arguments others : List Value} (paren : Token) (regrouped : callee.Regrouped other)
    (values : List.Forall₂ Value.Regrouped arguments others) :
    pursuit.Leads Value.Regrouped (Eval.call natives (fuel + 1) callee arguments paren)
      fun room => Eval.call natives room other others paren := by
  refine .succ ?_
  cases regrouped with
  | native key signature =>
      simp only [Eval.call]
      rw [values.length_eq]
      refine .after (paired_requireArity _ _ _) fun _ _ _ => ?_
      cases found : Native.find? natives key with
      | none => exact .of_pairs (.throw (.faulted _))
      | some native =>
          have ignores := ignore native (List.mem_of_find?_eq_some found)
          exact .of_pairs (paired_callNative ignores values paren)
  | @function closure second same =>
      have bindings : Table.Paired Eq Value.Regrouped (second.parameters.zip arguments)
          (second.parameters.zip others) := .zip (List.forall₂_same.2 fun _ _ => rfl) values
      simp only [Eval.call]
      rw [values.length_eq, same.name, same.parameters, same.frame]
      refine .after (paired_requireArity _ _ _) fun _ _ _ => .after (paired_nest _) ?_
      rintro frame _ rfl
      exact .after (paired_define frame bindings) fun _ _ _ =>
        leads_catchReturn (lead.executeBody frame same.body)
  | number | text | bool | range => exact .of_pairs (.throw (.faulted _))
  | tuple items =>
      simp only [Eval.call]
      rw [(Value.Regrouped.tuple items).quoted]
      exact .of_pairs (.throw (.faulted _))

theorem executeAll_succ (frame : FrameId) {stmts others : List Stmt}
    (regrouped : List.Forall₂ Stmt.Regrouped stmts others) :
    pursuit.Leads (fun _ _ => True) (Eval.executeAll natives (fuel + 1) frame stmts)
      fun room => Eval.executeAll natives room frame others := by
  refine .succ ?_
  cases regrouped with
  | nil => exact .of_pairs (.pure trivial)
  | cons stmt stmts =>
      exact (lead.execute frame stmt).bind (fun _ _ _ => lead.executeAll frame stmts)
        fun room _ => keeps_of_watched fun console =>
          (stays console room).executeAll frame _ trivial

theorem executeBody_succ (frame : FrameId) {body other : Block}
    (regrouped : body.Regrouped other) :
    pursuit.Leads Value.Regrouped (Eval.executeBody natives (fuel + 1) frame body)
      fun room => Eval.executeBody natives room frame other := by
  have statements := regrouped.statements
  have tail := regrouped.tail
  obtain ⟨brace, stmts, last⟩ := body
  obtain ⟨otherBrace, others, otherLast⟩ := other
  dsimp only [Block.statements, Block.tail] at statements tail
  refine .succ ?_
  simp only [Eval.executeBody]
  cases tail with
  | none =>
      exact (lead.executeAll frame statements).bind (fun _ _ _ => .of_pairs (.pure (.refl _)))
        fun _ _ _ => .pure trivial
  | some tail =>
      exact (lead.executeAll frame statements).bind (fun _ _ _ => lead.evaluate frame tail)
        fun room _ => keeps_of_watched fun console => (stays console room).evaluate frame _

omit stays in
theorem executeBlock_succ (frame : FrameId) {body other : Block}
    (regrouped : body.Regrouped other) :
    pursuit.Leads Value.Regrouped (Eval.executeBlock natives (fuel + 1) frame body)
      fun room => Eval.executeBlock natives room frame other := by
  refine .succ (.after (paired_nest frame) ?_)
  rintro inner _ rfl
  exact lead.executeBody inner regrouped

theorem repeatWhile_succ (frame : FrameId) (keyword : Token) {condition test : Expr}
    {body other : Block} (conditions : condition.Regrouped test) (bodies : body.Regrouped other) :
    pursuit.Leads Value.Regrouped
      (Eval.repeatWhile natives (fuel + 1) frame keyword condition body)
      fun room => Eval.repeatWhile natives room frame keyword test other := by
  refine .succ ((lead.evaluate frame conditions).bind (fun _ _ value => ?_) fun room _ =>
    keeps_of_watched fun console => (upholds_orStop _).bind fun holds _ => ?_)
  · refine .after (pairs_same Eq.refl (truth_regrouped keyword value)) ?_
    rintro holds _ rfl
    cases holds with
    | true =>
        exact (lead.executeBlock frame bodies).bind
          (fun _ _ _ => lead.repeatWhile frame keyword conditions bodies)
          fun room _ => keeps_of_watched fun console =>
            (stays console room).repeatWhile frame keyword test other
    | false => exact .of_pairs (.pure (.refl _))
  · cases holds with
    | true =>
        exact ((stays console room).executeBlock frame other).bind fun _ _ =>
          (stays console room).repeatWhile frame keyword test other
    | false => exact .pure trivial

theorem repeatFor_succ (frame : FrameId) (name : String) (range : NumberRange Float)
    (index : Nat) {body other : Block} (bodies : body.Regrouped other) :
    pursuit.Leads Value.Regrouped
      (Eval.repeatFor natives (fuel + 1) frame name range index body)
      fun room => Eval.repeatFor natives room frame name range index other := by
  refine .succ ?_
  simp only [Eval.repeatFor]
  cases range.item? index with
  | none => exact .of_pairs (.pure (.refl _))
  | some item =>
      refine .after (paired_nest frame) ?_
      rintro inner _ rfl
      refine .after (paired_define inner (.cons ⟨rfl, .number item⟩ .nil)) fun _ _ _ => ?_
      exact (lead.executeBlock inner bodies).bind
        (fun _ _ _ => lead.repeatFor frame name range (index + 1) bodies)
        fun room _ => keeps_of_watched fun console =>
          (stays console room).repeatFor frame name range (index + 1) other

theorem execute_succ (frame : FrameId) {stmt other : Stmt} (regrouped : stmt.Regrouped other) :
    pursuit.Leads Value.Regrouped (Eval.execute natives (fuel + 1) frame stmt)
      fun room => Eval.execute natives room frame other := by
  have unit {first : Eval Value} {second : Nat → Eval Value}
      (leads : pursuit.Leads Value.Regrouped first second) :
      pursuit.Leads Value.Regrouped (do let _ ← first; return .unit)
        fun room => do let _ ← second room; return .unit :=
    leads.bind (fun _ _ _ => .of_pairs (.pure (.refl _))) fun _ _ _ => .pure trivial
  refine .succ ?_
  cases regrouped.sameForm with
  | expression value => exact lead.evaluate frame value
  | letValue name declared initializer =>
      exact (lead.evaluate frame initializer).bind
        (fun _ _ value => .of_pairs (paired_declare frame name.lexeme value)) fun _ _ =>
        keeps_of_watched fun _ => (watched_define frame _).bind fun _ _ => .pure trivial
  | block body => exact lead.executeBlock frame body
  | ifThen keyword condition consequent =>
      refine (lead.evaluate frame condition).bind (fun _ _ value => ?_) fun room _ =>
        keeps_of_watched fun console => (upholds_orStop _).bind fun holds _ => ?_
      · refine .after (pairs_same Eq.refl (truth_regrouped keyword value)) ?_
        rintro holds _ rfl
        cases holds with
        | true => exact unit (lead.executeBlock frame consequent)
        | false => exact .of_pairs (.pure (.refl _))
      · cases holds with
        | true => exact ((stays console room).executeBlock frame _).bind fun _ _ => .pure trivial
        | false => exact .pure trivial
  | ifElse keyword condition consequent alternative =>
      refine (lead.evaluate frame condition).bind (fun _ _ value => ?_) fun room _ =>
        keeps_of_watched fun console => (upholds_orStop _).bind fun holds _ => ?_
      · refine .after (pairs_same Eq.refl (truth_regrouped keyword value)) ?_
        rintro holds _ rfl
        cases holds with
        | true => exact unit (lead.executeBlock frame consequent)
        | false => exact unit (lead.execute frame alternative)
      · cases holds with
        | true => exact ((stays console room).executeBlock frame _).bind fun _ _ => .pure trivial
        | false =>
            exact ((stays console room).execute frame _ (.inl trivial)).bind
              fun _ _ => .pure trivial
  | whileLoop keyword condition body => exact lead.repeatWhile frame keyword condition body
  | @forLoop name bounds range body other ranges bodies =>
      have turns {start first : Value} (starts : start.Regrouped first) {step last : Option Value}
          (steps : Option.Rel Value.Regrouped step last) :
          pursuit.Leads Value.Regrouped
            (do
              let stop ← Eval.evaluate natives fuel frame bounds.stop
              let numbers ← orStop (loopRange bounds.token start stop step)
              Eval.repeatFor natives fuel frame name.lexeme numbers 0 body)
            (fun room => do
              let stop ← Eval.evaluate natives room frame range.stop
              let numbers ← orStop (loopRange range.token first stop last)
              Eval.repeatFor natives room frame name.lexeme numbers 0 other) := by
        refine (lead.evaluate frame ranges.stop).bind (fun _ _ stops => ?_) fun room _ =>
          keeps_of_watched fun console => (upholds_orStop _).bind fun numbers _ =>
            (stays console room).repeatFor frame name.lexeme numbers 0 other
        rw [ranges.token]
        refine .after (pairs_same Eq.refl (loopRange_regrouped _ starts stops steps)) ?_
        rintro numbers _ rfl
        exact lead.repeatFor frame name.lexeme numbers 0 bodies
      have turnsStay (console : Console) (room : Nat) (first : Value) (last : Option Value) :
          Watched console.Continues (do
            let stop ← Eval.evaluate natives room frame range.stop
            let numbers ← orStop (loopRange range.token first stop last)
            Eval.repeatFor natives room frame name.lexeme numbers 0 other) :=
        ((stays console room).evaluate frame _).bind fun _ _ =>
          (upholds_orStop _).bind fun numbers _ =>
            (stays console room).repeatFor frame name.lexeme numbers 0 other
      have step := ranges.step
      simp only [Eval.execute]
      generalize bounds.step = found, range.step = last at step ⊢
      cases step with
      | none =>
          exact (lead.evaluate frame ranges.start).bind (fun _ _ starts => turns starts .none)
            fun room first => keeps_of_watched fun console => turnsStay console room first none
      | some step =>
          refine (lead.evaluate frame ranges.start).bind (fun _ _ starts => ?_) fun room first =>
            keeps_of_watched fun console =>
              (Guard.Keeps.map ((stays console room).evaluate frame _)).bind
                fun found (_ : True) => turnsStay console room first found
          exact ((lead.evaluate frame step).map fun _ _ value => .some value).bind
            (fun _ _ steps => turns starts steps) fun room found =>
              keeps_of_watched fun console => turnsStay console room _ found
  | function name parameters body =>
      refine .after (paired_nest frame) ?_
      rintro closure _ rfl
      exact .of_pairs (paired_declare frame name.lexeme (.function ⟨rfl, rfl, body, rfl⟩))
  | giveBack keyword values =>
      cases values with
      | none => exact .of_pairs (.throw (.returned (.refl _)))
      | some value =>
          exact (lead.evaluate frame value).bind
            (fun _ _ given => .of_pairs (.throw (.returned given))) fun _ _ _ => .throw trivial

end RunsLead

/-- Natives that append to the console take back nothing that has been printed. -/
theorem stepsAppend (append : ∀ native ∈ natives, native.Appends) (console : Console) :
    StepsUphold (fun machine => console.Continues machine.console) (fun _ => True) natives :=
  stepsWatched fun native member values _ printed => printed.trans (append native member values _)

theorem printedStays (append : ∀ native ∈ natives, native.Appends) : PrintedStays natives :=
  fun console => runsUphold (stepsAppend append console)

theorem runsLead (ignore : ∀ native ∈ natives, native.IgnoresGroups)
    (append : ∀ native ∈ natives, native.Appends) (fuel : Nat) : RunsLead natives fuel := by
  have stays := printedStays append
  induction fuel with
  | zero =>
      have exhausted {α β : Type} {value : α → β → Prop} {second : Nat → Eval β}
          (watched : ∀ (console : Console) room, Watched console.Continues (second room)) :
          pursuit.Leads value (throw .exhausted) second :=
        .exhausted fun room => keeps_of_watched fun console => watched console room
      exact
        { evaluate := fun _ _ _ _ => exhausted fun console room => (stays console room).evaluate _ _
          evaluateAll := fun _ _ _ _ =>
            exhausted fun console room => (stays console room).evaluateAll _ _
          call := fun _ _ _ => exhausted fun console room => (stays console room).call _ _ _
          execute := fun _ _ _ _ =>
            exhausted fun console room => (stays console room).execute _ _ (.inl trivial)
          executeAll := fun _ _ _ _ =>
            exhausted fun console room => (stays console room).executeAll _ _ trivial
          executeBody := fun _ _ _ _ =>
            exhausted fun console room => (stays console room).executeBody _ _ trivial
          executeBlock := fun _ _ _ _ =>
            exhausted fun console room => (stays console room).executeBlock _ _
          repeatWhile := fun _ _ _ _ _ _ _ _ =>
            exhausted fun console room => (stays console room).repeatWhile _ _ _ _
          repeatFor := fun _ _ _ _ _ _ _ =>
            exhausted fun console room => (stays console room).repeatFor _ _ _ _ _ }
  | succ fuel lead =>
      exact
        { evaluate := lead.evaluate_succ stays
          evaluateAll := lead.evaluateAll_succ stays
          call := lead.call_succ ignore
          execute := lead.execute_succ stays
          executeAll := lead.executeAll_succ stays
          executeBody := lead.executeBody_succ stays
          executeBlock := lead.executeBlock_succ
          repeatWhile := lead.repeatWhile_succ stays
          repeatFor := lead.repeatFor_succ stays }

theorem leads_executeProgram (ignore : ∀ native ∈ natives, native.IgnoresGroups)
    (append : ∀ native ∈ natives, native.Appends) (fuel : Nat) (frame : FrameId)
    {last other : Value} (values : last.Regrouped other) {program second : Program}
    (regrouped : program.Regrouped second) :
    pursuit.Leads Value.Regrouped (executeProgram natives fuel frame last program)
      fun room => executeProgram natives room frame other second := by
  induction regrouped generalizing last other with
  | nil => exact .of_pairs (.pure values)
  | cons stmt _ inductionHypothesis =>
      exact ((runsLead ignore append fuel).execute frame stmt).bind
        (fun _ _ value => inductionHypothesis value) fun room value =>
          keeps_of_watched fun console =>
            upholds_executeProgram (stepsAppend append console) trivial room value _

end Eval

end CheckedScript
