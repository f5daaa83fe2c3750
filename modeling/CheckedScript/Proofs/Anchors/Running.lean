import CheckedScript.Evaluation.Evaluate
import CheckedScript.Proofs.Anchors.Computations
import CheckedScript.Proofs.Anchors.Trees

/-!
# What runs are about

A run of a program makes closures of functions of that program only, so whatever body is
executed, and whatever token a failure is charged to, is drawn from its tokens.
-/

namespace CheckedScript

mutual

/-- A value all of whose closures have bodies over some tokens. -/
def Value.DrawnFrom (tokens : List Token) : Value → Prop
  | .tuple items => Value.AreDrawnFrom tokens items
  | .function closure => closure.body.DrawnFrom tokens
  | .number _ | .text _ | .bool _ | .native _ _ | .range _ => True

/-- Values all of whose closures have bodies over some tokens. -/
def Value.AreDrawnFrom (tokens : List Token) : List Value → Prop
  | [] => True
  | item :: items => item.DrawnFrom tokens ∧ Value.AreDrawnFrom tokens items

end

/-- A native function that makes no closures of its own. -/
def Native.DrawsFrom (tokens : List Token) (native : Native) : Prop :=
  ∀ arguments console value, Value.AreDrawnFrom tokens arguments →
    (native.run arguments console).1 = .value value → value.DrawnFrom tokens

theorem Table.mem_of_get? {κ α : Type} [DecidableEq κ] {table : Table κ α} {key : κ} {value : α}
    (found : table.get? key = some value) : (key, value) ∈ table := by
  induction table with
  | nil => cases found
  | cons entry table inductionHypothesis =>
      rw [get?] at found
      split at found
      · next same =>
          cases found
          rw [← same]
          exact List.mem_cons_self
      · exact List.mem_cons_of_mem _ (inductionHypothesis found)

theorem Table.mem_set {κ α : Type} [DecidableEq κ] {table : Table κ α} {key : κ} {value : α}
    {entry : κ × α} (member : entry ∈ table.set key value) : entry ∈ table ∨ entry.2 = value := by
  induction table with
  | nil => exact .inr (by rw [List.mem_singleton.1 member])
  | cons first table inductionHypothesis =>
      rw [set] at member
      split at member <;> rcases List.mem_cons.1 member with rfl | later
      · exact .inr rfl
      · exact .inl (List.mem_cons_of_mem _ later)
      · exact .inl List.mem_cons_self
      · exact (inductionHypothesis later).imp_left (List.mem_cons_of_mem _)

namespace Scopes

variable {α : Type} {holds : α → Prop} {scopes : Scopes α}

/-- Whatever is bound in some scopes has a property. -/
def All (holds : α → Prop) (scopes : Scopes α) : Prop :=
  ∀ frame ∈ scopes.frames, ∀ binding ∈ frame.bindings, holds binding.2

theorem All.get? (all : scopes.All holds) {frame : FrameId} {name : String} {value : α}
    (found : scopes.get? frame name = some value) : holds value := by
  obtain ⟨candidate, _, bound⟩ := List.exists_of_findSome?_eq_some found
  unfold bindings at bound
  split at bound
  · next stored present =>
      exact all stored (Array.mem_of_getElem? present) _ (Table.mem_of_get? bound)
  · cases bound

theorem All.mono {wide : α → Prop} (all : scopes.All holds)
    (implies : ∀ value, holds value → wide value) : scopes.All wide :=
  fun frame member binding bound => implies binding.2 (all frame member binding bound)

theorem All.add (all : scopes.All holds) (ancestors : List FrameId) :
    (scopes.add ancestors).2.All holds := by
  intro frame member
  rcases Array.mem_push.1 member with before | rfl
  · exact all frame before
  · simp

theorem All.nest (all : scopes.All holds) (frame : FrameId) : (scopes.nest frame).2.All holds :=
  all.add _

theorem All.define (all : scopes.All holds) (frame : FrameId) (name : String) {value : α}
    (fits : holds value) : (scopes.define frame name value).All holds := by
  intro stored member binding bound
  obtain ⟨index, found⟩ := Array.mem_iff_getElem?.1 member
  rw [Scopes.define, Array.getElem?_modify] at found
  split at found
  · cases shape : scopes.frames[index]? with
    | none => simp [shape] at found
    | some before =>
        simp only [shape, Option.map_some, Option.some.injEq] at found
        subst found
        rcases Table.mem_set bound with old | rfl
        · exact all before (Array.mem_of_getElem? shape) binding old
        · exact fits
  · exact all stored (Array.mem_of_getElem? found) binding bound

theorem All.defineAll (all : scopes.All holds) (frame : FrameId) {bindings : Bindings α}
    (fits : ∀ binding ∈ bindings, holds binding.2) :
    (scopes.defineAll frame bindings).All holds := by
  induction bindings generalizing scopes with
  | nil => exact all
  | cons binding bindings inductionHypothesis =>
      obtain ⟨first, others⟩ := List.forall_mem_cons.1 fits
      exact inductionHypothesis (all.define frame binding.1 first) others

end Scopes

namespace Evaluation

variable (tokens : List Token)

/-- A machine all of whose closures have bodies over some tokens. -/
def Machine.DrawnFrom (machine : Machine) : Prop :=
  machine.scopes.All (Value.DrawnFrom tokens)

/-- A reason to stop that is charged to one of some tokens, or a value over them. -/
def Stop.DrawnFrom : Stop → Prop
  | .returned value => value.DrawnFrom tokens
  | .failed diagnostic => diagnostic.DrawnFrom tokens
  | .faulted _ | .aborted _ | .exhausted => True

/-- What is known of a run of a program over some tokens. -/
def guard : Guard Stop Machine where
  stop := Stop.DrawnFrom tokens
  state := Machine.DrawnFrom tokens

/-- A result over some tokens, or a reason to stop that is charged to one of them. -/
def Outcome {α : Type} (fits : α → Prop) : Except Stop α → Prop
  | .ok value => fits value
  | .error stop => stop.DrawnFrom tokens

variable {tokens} {token : Token}

theorem outcome_truth (value : Value) : Outcome tokens (fun _ => True) (truth token value) := by
  cases value <;> exact trivial

theorem outcome_numbers (left right : Value) :
    Outcome tokens (fun _ => True) (numbers token left right) := by
  cases left <;> cases right <;> exact trivial

theorem drawnFrom_constantValue (value : Constant) : (constantValue value).DrawnFrom tokens := by
  cases value <;> exact trivial

theorem outcome_applyUnary (operator : UnaryOperator) (operand : Value) :
    Outcome tokens (Value.DrawnFrom tokens) (applyUnary operator token operand) := by
  cases operator <;> cases operand <;> exact trivial

theorem outcome_applyNumeric (operator : BinaryOperator) (member : token ∈ tokens)
    (left right : Float) :
    Outcome tokens (Value.DrawnFrom tokens) (applyNumeric operator token left right) := by
  cases operator
  case divide =>
      unfold applyNumeric
      dsimp only
      split
      · exact member
      · exact trivial
  all_goals exact trivial

theorem outcome_applyBinary (operator : BinaryOperator) (member : token ∈ tokens)
    (left right : Value) :
    Outcome tokens (Value.DrawnFrom tokens) (applyBinary operator token left right) := by
  unfold applyBinary
  split
  · exact trivial
  · exact trivial
  · exact trivial
  · have known : Outcome tokens (fun _ => True) (numbers token left right) :=
      outcome_numbers left right
    cases found : numbers token left right with
    | ok operands => exact outcome_applyNumeric operator member operands.1 operands.2
    | error stop =>
        rw [found] at known
        exact known

theorem outcome_loopRange (member : token ∈ tokens) (start stop : Value) (step : Option Value) :
    Outcome tokens (fun _ => True) (loopRange token start stop step) := by
  have known (left right : Value) : Outcome tokens (fun _ => True) (numbers token left right) :=
    outcome_numbers left right
  have valid (range : NumberRange Float) : Outcome tokens (fun _ => True)
      (if range.isValid then
        (pure range : Except Stop (NumberRange Float))
      else
        throw (.failed
          { cause := .invalidRange (Decimal.plainText range.start)
              (Decimal.plainText range.stop) (Decimal.plainText range.step)
            token := token })) := by
    split
    · exact trivial
    · exact member
  unfold loopRange
  have first := known start stop
  cases ends : numbers token start stop with
  | error reason =>
      rw [ends] at first
      exact first
  | ok bounds =>
      cases step with
      | none => exact valid _
      | some step =>
          have second := known start step
          cases found : numbers token start step with
          | error reason =>
              rw [found] at second
              simp only [bind, Except.bind, found]
              exact second
          | ok widths =>
              simp only [bind, Except.bind, found]
              exact valid _

end Evaluation

namespace Eval

open Evaluation

variable {tokens : List Token} {α : Type} {fits : α → Prop}

section Steps

theorem keeps_orStop {result : Except Stop α} (outcome : Outcome tokens fits result) :
    (guard tokens).Keeps fits (orStop result) := by
  cases result with
  | ok value => exact .pure outcome
  | error stop => exact .throw outcome

theorem keeps_nest (frame : FrameId) : (guard tokens).Keeps (fun _ => True) (nest frame) :=
  fun _ drawn => ⟨trivial, Scopes.All.nest drawn frame⟩

theorem keeps_define (frame : FrameId) {bindings : Bindings Value}
    (drawn : ∀ binding ∈ bindings, binding.2.DrawnFrom tokens) :
    (guard tokens).Keeps (fun _ => True) (define frame bindings) :=
  fun _ known => ⟨trivial, Scopes.All.defineAll known frame drawn⟩

theorem keeps_lookup (frame : FrameId) (name : String) :
    (guard tokens).Keeps (Value.DrawnFrom tokens) (lookup frame name) := by
  refine .get fun machine known => ?_
  cases found : machine.scopes.get? frame name with
  | some value => exact .pure (Scopes.All.get? known found)
  | none => exact .throw trivial

theorem keeps_assign (frame : FrameId) (name : String) {value : Value}
    (drawn : value.DrawnFrom tokens) :
    (guard tokens).Keeps (fun _ => True) (assign frame name value) := by
  intro machine known
  unfold assign
  dsimp only
  split
  · exact ⟨trivial, Scopes.All.define known _ name drawn⟩
  · exact ⟨trivial, known⟩

theorem keeps_catchReturn {body : Eval Value}
    (keeps : (guard tokens).Keeps (Value.DrawnFrom tokens) body) :
    (guard tokens).Keeps (Value.DrawnFrom tokens) (catchReturn body) := by
  intro machine known
  have ended := keeps machine known
  unfold catchReturn
  cases equation : body machine with
  | ok value after =>
      rw [equation] at ended
      exact ended
  | error stop after =>
      rw [equation] at ended
      cases stop <;> exact ended

theorem keeps_callNative {native : Native} (draws : native.DrawsFrom tokens)
    {arguments : List Value} (drawn : Value.AreDrawnFrom tokens arguments) {paren : Token}
    (member : paren ∈ tokens) :
    (guard tokens).Keeps (Value.DrawnFrom tokens) (callNative native arguments paren) := by
  rintro ⟨scopes, console⟩ known
  unfold callNative
  cases ended : (native.run arguments console).1 with
  | value found =>
      simp only [ended]
      exact ⟨draws arguments console found drawn ended, known⟩
  | failed reason =>
      simp only [ended]
      exact ⟨member, known⟩
  | aborted reason =>
      simp only [ended]
      exact ⟨trivial, known⟩

theorem keeps_requireArity (name : String) (expected found : Nat) :
    (guard tokens).Keeps (fun _ => True) (requireArity name expected found) := by
  unfold requireArity
  split
  · exact .pure trivial
  · exact .throw trivial

end Steps

variable (tokens) (natives : List Native)

/-- Runs of parts of a program keep what is known of it. -/
structure RunsKeep (fuel : Nat) : Prop where
  evaluate : ∀ frame expr, expr.DrawnFrom tokens →
    (guard tokens).Keeps (Value.DrawnFrom tokens) (evaluate natives fuel frame expr)
  evaluateAll : ∀ frame exprs, Expr.AreDrawnFrom tokens exprs →
    (guard tokens).Keeps (Value.AreDrawnFrom tokens) (evaluateAll natives fuel frame exprs)
  call : ∀ callee arguments, ∀ paren ∈ tokens, callee.DrawnFrom tokens →
    Value.AreDrawnFrom tokens arguments →
    (guard tokens).Keeps (Value.DrawnFrom tokens) (call natives fuel callee arguments paren)
  execute : ∀ frame stmt, stmt.DrawnFrom tokens →
    (guard tokens).Keeps (Value.DrawnFrom tokens) (execute natives fuel frame stmt)
  executeAll : ∀ frame stmts, Stmt.AreDrawnFrom tokens stmts →
    (guard tokens).Keeps (fun _ => True) (executeAll natives fuel frame stmts)
  executeBody : ∀ frame body, body.DrawnFrom tokens →
    (guard tokens).Keeps (Value.DrawnFrom tokens) (executeBody natives fuel frame body)
  executeBlock : ∀ frame body, body.DrawnFrom tokens →
    (guard tokens).Keeps (Value.DrawnFrom tokens) (executeBlock natives fuel frame body)
  repeatWhile : ∀ frame keyword condition body, condition.DrawnFrom tokens →
    body.DrawnFrom tokens →
    (guard tokens).Keeps (Value.DrawnFrom tokens)
      (repeatWhile natives fuel frame keyword condition body)
  repeatFor : ∀ frame name range index body, body.DrawnFrom tokens →
    (guard tokens).Keeps (Value.DrawnFrom tokens)
      (repeatFor natives fuel frame name range index body)

variable {tokens natives} {fuel : Nat}

theorem keeps_evaluate_succ (keep : RunsKeep tokens natives fuel) (frame : FrameId) (expr : Expr)
    (drawn : expr.DrawnFrom tokens) :
    (guard tokens).Keeps (Value.DrawnFrom tokens) (evaluate natives (fuel + 1) frame expr) := by
  cases expr with
  | literal value token => exact .pure (drawnFrom_constantValue value)
  | reference name => exact keeps_lookup _ _
  | assign name value =>
      exact (keep.evaluate _ _ drawn.2).bind fun assigned known =>
        (keeps_assign _ _ known).bind fun _ _ => .pure known
  | group inner => exact keep.evaluate _ _ drawn
  | tuple items => exact (keep.evaluateAll _ _ drawn).bind fun _ known => .pure known
  | unary operator token operand =>
      exact (keep.evaluate _ _ drawn.2).bind fun value _ =>
        keeps_orStop (outcome_applyUnary operator value)
  | binary operator token left right =>
      exact (keep.evaluate _ _ drawn.2.1).bind fun first _ =>
        (keep.evaluate _ _ drawn.2.2).bind fun second _ =>
          keeps_orStop (outcome_applyBinary operator drawn.1 first second)
  | logical operator token left right =>
      have goesOn : (guard tokens).Keeps (Value.DrawnFrom tokens) (do
          let second ← evaluate natives fuel frame right
          return .bool (← orStop (truth token second))) :=
        (keep.evaluate _ _ drawn.2.2).bind fun second _ =>
          (keeps_orStop (outcome_truth second)).bind fun _ _ => .pure trivial
      refine (keep.evaluate _ _ drawn.2.1).bind fun value _ =>
        (keeps_orStop (outcome_truth value)).bind fun first _ => ?_
      cases operator <;> cases first
      · exact .pure trivial
      · exact goesOn
      · exact goesOn
      · exact .pure trivial
  | call callee paren arguments =>
      exact (keep.evaluate _ _ drawn.1).bind fun function known =>
        (keep.evaluateAll _ _ drawn.2.2).bind fun values areKnown =>
          keep.call _ _ _ drawn.2.1 known areKnown

theorem keeps_evaluateAll_succ (keep : RunsKeep tokens natives fuel) (frame : FrameId)
    (exprs : List Expr) (drawn : Expr.AreDrawnFrom tokens exprs) :
    (guard tokens).Keeps (Value.AreDrawnFrom tokens)
      (evaluateAll natives (fuel + 1) frame exprs) := by
  cases exprs with
  | nil => exact .pure trivial
  | cons expr exprs =>
      exact (keep.evaluate _ _ drawn.1).bind fun _ known =>
        (keep.evaluateAll _ _ drawn.2).bind fun _ areKnown => .pure ⟨known, areKnown⟩

theorem drawnFrom_of_mem_zip {names : List String} {values : List Value}
    (drawn : Value.AreDrawnFrom tokens values) :
    ∀ binding ∈ names.zip values, binding.2.DrawnFrom tokens := by
  induction values generalizing names with
  | nil => simp
  | cons value values inductionHypothesis =>
      cases names with
      | nil => simp
      | cons name names => exact List.forall_mem_cons.2 ⟨drawn.1, inductionHypothesis drawn.2⟩

theorem keeps_call_succ (draws : ∀ native ∈ natives, native.DrawsFrom tokens)
    (keep : RunsKeep tokens natives fuel) (callee : Value) (arguments : List Value)
    (paren : Token) (member : paren ∈ tokens) (drawn : callee.DrawnFrom tokens)
    (areDrawn : Value.AreDrawnFrom tokens arguments) :
    (guard tokens).Keeps (Value.DrawnFrom tokens)
      (call natives (fuel + 1) callee arguments paren) := by
  cases callee with
  | native key signature =>
      refine (keeps_requireArity _ _ _).bind fun _ _ => ?_
      cases found : Native.find? natives key with
      | some native =>
          exact keeps_callNative (draws native (List.mem_of_find?_eq_some found)) areDrawn member
      | none => exact .throw trivial
  | function closure =>
      refine (keeps_requireArity _ _ _).bind fun _ _ => (keeps_nest _).bind fun frame _ => ?_
      refine (keeps_define _ (drawnFrom_of_mem_zip areDrawn)).bind fun _ _ => ?_
      exact keeps_catchReturn (keep.executeBody _ _ drawn)
  | number | text | bool | tuple | range => exact .throw trivial

theorem keeps_executeAll_succ (keep : RunsKeep tokens natives fuel) (frame : FrameId)
    (stmts : List Stmt) (drawn : Stmt.AreDrawnFrom tokens stmts) :
    (guard tokens).Keeps (fun _ => True) (executeAll natives (fuel + 1) frame stmts) := by
  cases stmts with
  | nil => exact .pure trivial
  | cons stmt stmts =>
      exact (keep.execute _ _ drawn.1).bind fun _ _ => keep.executeAll _ _ drawn.2

theorem keeps_executeBody_succ (keep : RunsKeep tokens natives fuel) (frame : FrameId)
    (body : Block) (drawn : body.DrawnFrom tokens) :
    (guard tokens).Keeps (Value.DrawnFrom tokens)
      (executeBody natives (fuel + 1) frame body) := by
  obtain ⟨brace, statements, tail⟩ := body
  refine (keep.executeAll _ _ drawn.2.1).bind fun _ _ => ?_
  cases tail with
  | none => exact .pure trivial
  | some tail => exact keep.evaluate _ _ (drawn.2.2 tail rfl)

theorem keeps_repeatWhile_succ (keep : RunsKeep tokens natives fuel) (frame : FrameId)
    (keyword : Token) (condition : Expr) (body : Block) (drawn : condition.DrawnFrom tokens)
    (drawnBody : body.DrawnFrom tokens) :
    (guard tokens).Keeps (Value.DrawnFrom tokens)
      (repeatWhile natives (fuel + 1) frame keyword condition body) := by
  refine (keep.evaluate _ _ drawn).bind fun value _ =>
    (keeps_orStop (outcome_truth value)).bind fun holds _ => ?_
  cases holds with
  | true =>
      exact (keep.executeBlock _ _ drawnBody).bind fun _ _ =>
        keep.repeatWhile _ _ _ _ drawn drawnBody
  | false => exact .pure trivial

theorem keeps_repeatFor_succ (keep : RunsKeep tokens natives fuel) (frame : FrameId)
    (name : String) (range : NumberRange Float) (index : Nat) (body : Block)
    (drawn : body.DrawnFrom tokens) :
    (guard tokens).Keeps (Value.DrawnFrom tokens)
      (repeatFor natives (fuel + 1) frame name range index body) := by
  unfold repeatFor
  cases range.item? index with
  | none => exact .pure trivial
  | some item =>
      refine (keeps_nest _).bind fun inner _ => (keeps_define _ ?_).bind fun _ _ => ?_
      · exact List.forall_mem_singleton.2 trivial
      · exact (keep.executeBlock _ _ drawn).bind fun _ _ => keep.repeatFor _ _ _ _ _ drawn

theorem keeps_execute_succ (keep : RunsKeep tokens natives fuel) (frame : FrameId) (stmt : Stmt)
    (drawn : stmt.DrawnFrom tokens) :
    (guard tokens).Keeps (Value.DrawnFrom tokens) (execute natives (fuel + 1) frame stmt) := by
  cases stmt with
  | expression value => exact keep.evaluate _ _ drawn
  | letValue name declared initializer =>
      refine (keep.evaluate _ _ drawn.2).bind fun value known => ?_
      exact (keeps_define _ (List.forall_mem_singleton.2 known)).bind fun _ _ => .pure trivial
  | block body => exact keep.executeBlock _ _ drawn
  | ifThen keyword condition consequent =>
      refine (keep.evaluate _ _ drawn.2.1).bind fun value _ =>
        (keeps_orStop (outcome_truth value)).bind fun holds _ => ?_
      cases holds with
      | true => exact (keep.executeBlock _ _ drawn.2.2).bind fun _ _ => .pure trivial
      | false => exact .pure trivial
  | ifElse keyword condition consequent alternative =>
      refine (keep.evaluate _ _ drawn.2.1).bind fun value _ =>
        (keeps_orStop (outcome_truth value)).bind fun holds _ => ?_
      cases holds with
      | true => exact (keep.executeBlock _ _ drawn.2.2.1).bind fun _ _ => .pure trivial
      | false => exact (keep.execute _ _ drawn.2.2.2).bind fun _ _ => .pure trivial
  | whileLoop keyword condition body => exact keep.repeatWhile _ _ _ _ drawn.2.1 drawn.2.2
  | forLoop name bounds body =>
      obtain ⟨-, drawnBounds, drawnBody⟩ := drawn
      have turns (start : Value) : ∀ step : Option Value,
          (guard tokens).Keeps (Value.DrawnFrom tokens) (do
            let stop ← evaluate natives fuel frame bounds.stop
            let range ← orStop (loopRange bounds.token start stop step)
            repeatFor natives fuel frame name.lexeme range 0 body) := fun step =>
        (keep.evaluate _ _ drawnBounds.stop).bind fun stop _ =>
          (keeps_orStop (outcome_loopRange drawnBounds.token start stop step)).bind fun range _ =>
            keep.repeatFor _ _ _ _ _ drawnBody
      refine (keep.evaluate _ _ drawnBounds.start).bind fun start _ => ?_
      cases shape : bounds.step with
      | none => exact turns start none
      | some step =>
          have steps : (guard tokens).Keeps (fun _ => True)
              (some <$> evaluate natives fuel frame step) :=
            .map ((keep.evaluate _ _ (drawnBounds.step step shape)).mono fun _ _ => trivial)
          exact steps.bind fun found _ => turns start found
  | function name parameters body =>
      refine (keeps_nest _).bind fun closure _ => (keeps_define _ ?_).bind fun _ _ => .pure trivial
      exact List.forall_mem_singleton.2 drawn.2.2
  | giveBack keyword value =>
      cases value with
      | none => exact .throw trivial
      | some value => exact (keep.evaluate _ _ (drawn.2 value rfl)).bind fun _ known => .throw known

theorem runsKeep (draws : ∀ native ∈ natives, native.DrawsFrom tokens) (fuel : Nat) :
    RunsKeep tokens natives fuel := by
  induction fuel with
  | zero => constructor <;> intros <;> exact .throw trivial
  | succ fuel keep =>
      exact
        { evaluate := keeps_evaluate_succ keep
          evaluateAll := keeps_evaluateAll_succ keep
          call := keeps_call_succ draws keep
          execute := keeps_execute_succ keep
          executeAll := keeps_executeAll_succ keep
          executeBody := keeps_executeBody_succ keep
          executeBlock := fun frame body drawn =>
            (keeps_nest _).bind fun inner _ => keep.executeBody inner body drawn
          repeatWhile := keeps_repeatWhile_succ keep
          repeatFor := keeps_repeatFor_succ keep }

theorem keeps_executeProgram (draws : ∀ native ∈ natives, native.DrawsFrom tokens) (fuel : Nat)
    (frame : FrameId) {last : Value} {stmts : List Stmt} (known : last.DrawnFrom tokens)
    (drawn : Stmt.AreDrawnFrom tokens stmts) :
    (guard tokens).Keeps (Value.DrawnFrom tokens)
      (executeProgram natives fuel frame last stmts) := by
  induction stmts generalizing last with
  | nil => exact .pure known
  | cons stmt stmts inductionHypothesis =>
      exact ((runsKeep draws fuel).execute _ _ drawn.1).bind fun _ value =>
        inductionHypothesis value drawn.2

end Eval

/-- A run of a program fails at one of its own tokens. -/
theorem Evaluation.Machine.run_drawnFrom {tokens : List Token} {natives : List Native}
    (draws : ∀ native ∈ natives, native.DrawsFrom tokens) {program : Program}
    (drawn : Stmt.AreDrawnFrom tokens program) {fuel : Nat} {rejection : Rejection}
    (rejected : ((Machine.start natives).run natives fuel program).1 = .rejected rejection) :
    ∀ diagnostic ∈ rejection.diagnostics, diagnostic.DrawnFrom tokens := by
  have start : Machine.DrawnFrom tokens (Machine.start natives) := by
    refine Scopes.All.defineAll (Scopes.All.add (by simp [Scopes.All]) []) _ ?_
    intro binding member
    obtain ⟨native, _, rfl⟩ := List.mem_map.1 member
    exact trivial
  have unit : Value.unit.DrawnFrom tokens := trivial
  have ended := Eval.keeps_executeProgram draws fuel Machine.root unit drawn
    { Machine.start natives with console := { (Machine.start natives).console with output := "" } }
    start
  unfold Machine.run at rejected
  dsimp only at rejected
  split at rejected
  · cases rejected
  · cases rejected
  · next equation =>
      rw [equation] at ended
      cases rejected
      exact List.forall_mem_singleton.2 ended.1
  · cases rejected
  · cases rejected
  · cases rejected

end CheckedScript
