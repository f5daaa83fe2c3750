import CheckedScript.Evaluation.Evaluate
import CheckedScript.Proofs.Renaming.Values

/-!
# Runs of renamed programs

Step by step, the runs of two programs that differ in names only go the same way: they look
up corresponding names, find corresponding values and fail at corresponding tokens.
-/

namespace CheckedScript

namespace Eval

open Evaluation

variable {naming : Naming} {α β : Type} {value : α → β → Prop}

section Steps

theorem pairs_orStop {result : Except Stop α} {other : Except Stop β}
    (outcome : Outcome.Renamed naming value result other) :
    (pairing naming).Pairs value (orStop result) (orStop other) := by
  cases outcome with
  | ok found => exact .pure found
  | error stop => exact .throw stop

theorem pairs_truth (token other : Token) {found second : Value}
    (renamed : found.Renamed naming second) :
    (pairing naming).Pairs Eq (orStop (truth token found)) (orStop (truth other second)) :=
  pairs_orStop (truth_renamed renamed)

theorem pairs_nest (frame : FrameId) : (pairing naming).Pairs Eq (nest frame) (nest frame) :=
  fun _ _ renamed =>
    .ok (renamed.scopes.fst_nest frame) { renamed with scopes := renamed.scopes.nest frame }

theorem pairs_define (frame : FrameId) {bindings others : Bindings Value}
    (paired : Table.Paired naming.names (Value.Renamed naming) bindings others) :
    (pairing naming).Pairs (fun _ _ => True) (define frame bindings) (define frame others) :=
  fun _ _ renamed =>
    .ok trivial
      { renamed with scopes := renamed.scopes.defineAll naming.unique frame paired }

theorem pairs_lookup (frame : FrameId) {name other : String} (names : naming.names name other) :
    (pairing naming).Pairs (Value.Renamed naming) (lookup frame name) (lookup frame other) := by
  refine .get fun machine second renamed => ?_
  have found := renamed.scopes.get? naming.unique names frame
  generalize machine.scopes.get? frame name = first, second.scopes.get? frame other = last
    at found ⊢
  cases found with
  | none => exact .throw (.faulted rfl)
  | some value => exact .pure value

theorem pairs_assign (frame : FrameId) {name other : String} (names : naming.names name other)
    {found second : Value} (values : found.Renamed naming second) :
    (pairing naming).Pairs (fun _ _ => True) (assign frame name found)
      (assign frame other second) := by
  intro machine last renamed
  unfold assign
  dsimp only
  rw [renamed.scopes.owner? naming.unique names frame]
  split
  · exact .ok trivial
      { renamed with scopes := renamed.scopes.define naming.unique names _ values }
  · exact .error (.faulted rfl) renamed

theorem pairs_catchReturn {body other : Eval Value}
    (pairs : (pairing naming).Pairs (Value.Renamed naming) body other) :
    (pairing naming).Pairs (Value.Renamed naming) (catchReturn body) (catchReturn other) := by
  intro machine second renamed
  have ends := pairs machine second renamed
  unfold catchReturn
  generalize body machine = first, other second = last at ends ⊢
  cases ends with
  | ok value after => exact .ok value after
  | error stop after =>
      cases stop with
      | returned value => exact .ok value after
      | failed same => exact .error (.failed same) after
      | faulted alike => exact .error (.faulted alike) after
      | aborted reason => exact .error (.aborted reason) after
      | exhausted => exact .error .exhausted after

theorem pairs_callNative {native : Native} (indifferent : native.Indifferent naming)
    {arguments others : List Value}
    (values : List.Forall₂ (Value.Renamed naming) arguments others) {paren second : Token}
    (tokens : naming.tokens paren second) :
    (pairing naming).Pairs (Value.Renamed naming) (callNative native arguments paren)
      (callNative native others second) := by
  rintro ⟨scopes, console⟩ ⟨otherScopes, otherConsole⟩ renamed
  obtain ⟨results, consoles⟩ := indifferent _ _ _ _ values renamed.console
  have spots : ∀ cause : Cause, Diagnostic.spot { cause := cause, token := paren } =
      Diagnostic.spot { cause := cause, token := second } := fun cause =>
    congrArg (Prod.mk cause.code) (naming.position tokens)
  obtain ⟨key, signature, run⟩ := native
  unfold callNative
  dsimp only at results consoles ⊢
  generalize run arguments console = result, run others otherConsole = other
    at results consoles ⊢
  obtain ⟨ended, written⟩ := result
  obtain ⟨otherEnded, otherWritten⟩ := other
  have after : Machine.Renamed naming ⟨scopes, written⟩ ⟨otherScopes, otherWritten⟩ :=
    ⟨renamed.scopes, consoles⟩
  cases results with
  | value value => exact .ok value after
  | failed reason => exact .error (.failed (spots _)) after
  | aborted reason => exact .error (.aborted reason) after

theorem pairs_requireArity (name other : String) (expected found : Nat) :
    (pairing naming).Pairs (fun _ _ => True) (requireArity name expected found)
      (requireArity other expected found) := by
  unfold requireArity
  split
  · exact .pure trivial
  · exact .throw (.faulted rfl)

end Steps

variable (naming) (natives : List Native)

/-- Runs of corresponding parts of two programs go the same way. -/
structure RunsPair (fuel : Nat) : Prop where
  evaluate : ∀ frame {expr other}, expr.Renamed naming other →
    (pairing naming).Pairs (Value.Renamed naming) (evaluate natives fuel frame expr)
      (evaluate natives fuel frame other)
  evaluateAll : ∀ frame {exprs others}, List.Forall₂ (Expr.Renamed naming) exprs others →
    (pairing naming).Pairs (List.Forall₂ (Value.Renamed naming))
      (evaluateAll natives fuel frame exprs) (evaluateAll natives fuel frame others)
  call : ∀ {callee other arguments others paren second}, callee.Renamed naming other →
    List.Forall₂ (Value.Renamed naming) arguments others → naming.tokens paren second →
    (pairing naming).Pairs (Value.Renamed naming) (call natives fuel callee arguments paren)
      (call natives fuel other others second)
  execute : ∀ frame {stmt other}, stmt.Renamed naming other →
    (pairing naming).Pairs (Value.Renamed naming) (execute natives fuel frame stmt)
      (execute natives fuel frame other)
  executeAll : ∀ frame {stmts others}, List.Forall₂ (Stmt.Renamed naming) stmts others →
    (pairing naming).Pairs (fun _ _ => True) (executeAll natives fuel frame stmts)
      (executeAll natives fuel frame others)
  executeBody : ∀ frame {body other}, body.Renamed naming other →
    (pairing naming).Pairs (Value.Renamed naming) (executeBody natives fuel frame body)
      (executeBody natives fuel frame other)
  executeBlock : ∀ frame {body other}, body.Renamed naming other →
    (pairing naming).Pairs (Value.Renamed naming) (executeBlock natives fuel frame body)
      (executeBlock natives fuel frame other)
  repeatWhile : ∀ frame keyword other {condition test body second},
    condition.Renamed naming test → body.Renamed naming second →
    (pairing naming).Pairs (Value.Renamed naming)
      (repeatWhile natives fuel frame keyword condition body)
      (repeatWhile natives fuel frame other test second)
  repeatFor : ∀ frame {name other} range index {body second}, naming.names name other →
    body.Renamed naming second →
    (pairing naming).Pairs (Value.Renamed naming)
      (repeatFor natives fuel frame name range index body)
      (repeatFor natives fuel frame other range index second)

variable {naming natives} {fuel : Nat}

namespace RunsPair

theorem evaluate_succ (pair : RunsPair naming natives fuel) (frame : FrameId) {expr other : Expr}
    (renamed : expr.Renamed naming other) :
    (pairing naming).Pairs (Value.Renamed naming) (Eval.evaluate natives (fuel + 1) frame expr)
      (Eval.evaluate natives (fuel + 1) frame other) := by
  cases renamed with
  | @literal value => exact .pure (constantValue_renamed value)
  | reference name => exact pairs_lookup _ name.names
  | assign name value =>
      exact (pair.evaluate _ value).bind fun _ _ assigned =>
        (pairs_assign _ name.names assigned).bind fun _ _ _ => .pure assigned
  | group inner => exact pair.evaluate _ inner
  | tuple items => exact (pair.evaluateAll _ items).bind fun _ _ values => .pure (.tuple values)
  | unary _ operand =>
      exact (pair.evaluate _ operand).bind fun _ _ value =>
        pairs_orStop (applyUnary_renamed _ value)
  | binary tokens left right =>
      exact (pair.evaluate _ left).bind fun _ _ first =>
        (pair.evaluate _ right).bind fun _ _ second =>
          pairs_orStop (applyBinary_renamed tokens _ first second)
  | @logical operator token other left right first second _ leftRenamed rightRenamed =>
      have goesOn : (pairing naming).Pairs (Value.Renamed naming)
          (do
            let found ← Eval.evaluate natives fuel frame right
            return .bool (← orStop (truth token found)))
          (do
            let found ← Eval.evaluate natives fuel frame second
            return .bool (← orStop (truth other found))) := by
        refine (pair.evaluate _ rightRenamed).bind fun _ _ value =>
          (pairs_truth token other value).bind ?_
        rintro truth _ rfl
        exact .pure (.bool truth)
      refine (pair.evaluate _ leftRenamed).bind fun _ _ value =>
        (pairs_truth token other value).bind ?_
      rintro truth _ rfl
      cases operator <;> cases truth
      · exact .pure (.bool _)
      · exact goesOn
      · exact goesOn
      · exact .pure (.bool _)
  | call callee paren arguments =>
      exact (pair.evaluate _ callee).bind fun _ _ function =>
        (pair.evaluateAll _ arguments).bind fun _ _ values => pair.call function values paren

theorem evaluateAll_succ (pair : RunsPair naming natives fuel) (frame : FrameId)
    {exprs others : List Expr} (renamed : List.Forall₂ (Expr.Renamed naming) exprs others) :
    (pairing naming).Pairs (List.Forall₂ (Value.Renamed naming))
      (Eval.evaluateAll natives (fuel + 1) frame exprs)
      (Eval.evaluateAll natives (fuel + 1) frame others) := by
  cases renamed with
  | nil => exact .pure .nil
  | cons expr exprs =>
      exact (pair.evaluate _ expr).bind fun _ _ value =>
        (pair.evaluateAll _ exprs).bind fun _ _ values => .pure (.cons value values)

theorem call_succ (indifferent : ∀ native ∈ natives, native.Indifferent naming)
    (pair : RunsPair naming natives fuel) {callee other : Value} {arguments others : List Value}
    {paren second : Token} (renamed : callee.Renamed naming other)
    (values : List.Forall₂ (Value.Renamed naming) arguments others)
    (tokens : naming.tokens paren second) :
    (pairing naming).Pairs (Value.Renamed naming)
      (Eval.call natives (fuel + 1) callee arguments paren)
      (Eval.call natives (fuel + 1) other others second) := by
  cases renamed with
  | native key signature =>
      unfold Eval.call
      dsimp only
      rw [values.length_eq]
      refine (pairs_requireArity _ _ _ _).bind fun _ _ _ => ?_
      cases found : Native.find? natives key with
      | none => exact .throw (.faulted rfl)
      | some native =>
          exact pairs_callNative (indifferent native (List.mem_of_find?_eq_some found)) values
            tokens
  | function closure =>
      unfold Eval.call
      dsimp only
      rw [values.length_eq, closure.parameters.length_eq, closure.frame]
      refine (pairs_requireArity _ _ _ _).bind fun _ _ _ => (pairs_nest _).bind ?_
      rintro frame _ rfl
      refine (pairs_define _ (.zip closure.parameters values)).bind fun _ _ _ => ?_
      exact pairs_catchReturn (pair.executeBody _ closure.body)
  | number | text | bool | tuple | range => exact .throw (.faulted rfl)

theorem executeAll_succ (pair : RunsPair naming natives fuel) (frame : FrameId)
    {stmts others : List Stmt} (renamed : List.Forall₂ (Stmt.Renamed naming) stmts others) :
    (pairing naming).Pairs (fun _ _ => True) (Eval.executeAll natives (fuel + 1) frame stmts)
      (Eval.executeAll natives (fuel + 1) frame others) := by
  cases renamed with
  | nil => exact .pure trivial
  | cons stmt stmts =>
      exact (pair.execute _ stmt).bind fun _ _ _ => pair.executeAll _ stmts

theorem executeBody_succ (pair : RunsPair naming natives fuel) (frame : FrameId)
    {body other : Block} (renamed : body.Renamed naming other) :
    (pairing naming).Pairs (Value.Renamed naming)
      (Eval.executeBody natives (fuel + 1) frame body)
      (Eval.executeBody natives (fuel + 1) frame other) := by
  cases renamed with
  | mk _ statements tail =>
      refine (pair.executeAll _ statements).bind fun _ _ _ => ?_
      cases tail with
      | none => exact .pure .unit
      | some tail => exact pair.evaluate _ tail

theorem executeBlock_succ (pair : RunsPair naming natives fuel) (frame : FrameId)
    {body other : Block} (renamed : body.Renamed naming other) :
    (pairing naming).Pairs (Value.Renamed naming)
      (Eval.executeBlock natives (fuel + 1) frame body)
      (Eval.executeBlock natives (fuel + 1) frame other) := by
  refine (pairs_nest _).bind ?_
  rintro inner _ rfl
  exact pair.executeBody inner renamed

theorem repeatWhile_succ (pair : RunsPair naming natives fuel) (frame : FrameId)
    (keyword other : Token) {condition test : Expr} {body second : Block}
    (conditions : condition.Renamed naming test) (bodies : body.Renamed naming second) :
    (pairing naming).Pairs (Value.Renamed naming)
      (Eval.repeatWhile natives (fuel + 1) frame keyword condition body)
      (Eval.repeatWhile natives (fuel + 1) frame other test second) := by
  refine (pair.evaluate _ conditions).bind fun _ _ value =>
    (pairs_truth keyword other value).bind ?_
  rintro holds _ rfl
  cases holds with
  | true =>
      exact (pair.executeBlock _ bodies).bind fun _ _ _ =>
        pair.repeatWhile _ _ _ conditions bodies
  | false => exact .pure .unit

theorem repeatFor_succ (pair : RunsPair naming natives fuel) (frame : FrameId)
    {name other : String} (range : NumberRange Float) (index : Nat) {body second : Block}
    (names : naming.names name other) (bodies : body.Renamed naming second) :
    (pairing naming).Pairs (Value.Renamed naming)
      (Eval.repeatFor natives (fuel + 1) frame name range index body)
      (Eval.repeatFor natives (fuel + 1) frame other range index second) := by
  unfold Eval.repeatFor
  cases range.item? index with
  | none => exact .pure .unit
  | some item =>
      refine (pairs_nest _).bind ?_
      rintro inner _ rfl
      refine (pairs_define _ (.cons ⟨names, .number item⟩ .nil)).bind fun _ _ _ => ?_
      exact (pair.executeBlock _ bodies).bind fun _ _ _ => pair.repeatFor _ _ _ names bodies

theorem execute_succ (pair : RunsPair naming natives fuel) (frame : FrameId) {stmt other : Stmt}
    (renamed : stmt.Renamed naming other) :
    (pairing naming).Pairs (Value.Renamed naming) (Eval.execute natives (fuel + 1) frame stmt)
      (Eval.execute natives (fuel + 1) frame other) := by
  cases renamed with
  | expression value => exact pair.evaluate _ value
  | letValue name initializer =>
      refine (pair.evaluate _ initializer).bind fun _ _ value => ?_
      exact (pairs_define _ (.cons ⟨name.names, value⟩ .nil)).bind fun _ _ _ => .pure .unit
  | block body => exact pair.executeBlock _ body
  | @ifThen keyword other _ _ _ _ _ condition consequent =>
      refine (pair.evaluate _ condition).bind fun _ _ value =>
        (pairs_truth keyword other value).bind ?_
      rintro holds _ rfl
      cases holds with
      | true => exact (pair.executeBlock _ consequent).bind fun _ _ _ => .pure .unit
      | false => exact .pure .unit
  | @ifElse keyword other _ _ _ _ _ _ _ condition consequent alternative =>
      refine (pair.evaluate _ condition).bind fun _ _ value =>
        (pairs_truth keyword other value).bind ?_
      rintro holds _ rfl
      cases holds with
      | true => exact (pair.executeBlock _ consequent).bind fun _ _ _ => .pure .unit
      | false => exact (pair.execute _ alternative).bind fun _ _ _ => .pure .unit
  | whileLoop _ condition body => exact pair.repeatWhile _ _ _ condition body
  | @forLoop name second bounds range body further names boundsRenamed bodies =>
      have turns {start first : Value} (starts : start.Renamed naming first)
          {step last : Option Value} (steps : Option.Rel (Value.Renamed naming) step last) :
          (pairing naming).Pairs (Value.Renamed naming)
            (do
              let stop ← Eval.evaluate natives fuel frame bounds.stop
              let numbers ← orStop (loopRange bounds.token start stop step)
              Eval.repeatFor natives fuel frame name.lexeme numbers 0 body)
            (do
              let stop ← Eval.evaluate natives fuel frame range.stop
              let numbers ← orStop (loopRange range.token first stop last)
              Eval.repeatFor natives fuel frame second.lexeme numbers 0 further) := by
        refine (pair.evaluate _ boundsRenamed.stop).bind fun _ _ stops =>
          (pairs_orStop (loopRange_renamed boundsRenamed.token starts stops steps)).bind ?_
        rintro numbers _ rfl
        exact pair.repeatFor _ _ _ names.names bodies
      have step := boundsRenamed.step
      refine (pair.evaluate _ boundsRenamed.start).bind fun _ _ starts => ?_
      generalize bounds.step = found, range.step = last at step ⊢
      cases step with
      | none => exact turns starts .none
      | some step =>
          have steps : (pairing naming).Pairs (Option.Rel (Value.Renamed naming))
              (some <$> Eval.evaluate natives fuel frame _)
              (some <$> Eval.evaluate natives fuel frame _) :=
            (pair.evaluate frame step).map fun _ _ value => .some value
          exact steps.bind fun _ _ steps => turns starts steps
  | function name parameters body =>
      refine (pairs_nest _).bind ?_
      rintro closure _ rfl
      refine (pairs_define _ (.cons ⟨name.names, .function ?_⟩ .nil)).bind fun _ _ _ => .pure .unit
      exact ⟨name.names, Token.NameRenamed.lexemes parameters, body, rfl⟩
  | giveBack _ values =>
      cases values with
      | none => exact .throw (.returned .unit)
      | some value =>
          exact (pair.evaluate _ value).bind fun _ _ given => .throw (.returned given)

end RunsPair

theorem runsPair (indifferent : ∀ native ∈ natives, native.Indifferent naming) (fuel : Nat) :
    RunsPair naming natives fuel := by
  induction fuel with
  | zero => constructor <;> intros <;> exact .throw .exhausted
  | succ fuel pair =>
      exact
        { evaluate := pair.evaluate_succ
          evaluateAll := pair.evaluateAll_succ
          call := pair.call_succ indifferent
          execute := pair.execute_succ
          executeAll := pair.executeAll_succ
          executeBody := pair.executeBody_succ
          executeBlock := pair.executeBlock_succ
          repeatWhile := pair.repeatWhile_succ
          repeatFor := pair.repeatFor_succ }

theorem pairs_executeProgram (indifferent : ∀ native ∈ natives, native.Indifferent naming)
    (fuel : Nat) (frame : FrameId) {last other : Value} (values : last.Renamed naming other)
    {stmts others : List Stmt} (renamed : List.Forall₂ (Stmt.Renamed naming) stmts others) :
    (pairing naming).Pairs (Value.Renamed naming)
      (executeProgram natives fuel frame last stmts)
      (executeProgram natives fuel frame other others) := by
  induction renamed generalizing last other with
  | nil => exact .pure values
  | cons stmt _ inductionHypothesis =>
      exact ((runsPair indifferent fuel).execute _ stmt).bind fun _ _ value =>
        inductionHypothesis value

end Eval

/-- How the runs of two programs that differ in names only end. -/
inductive RunResult.Renamed (naming : Naming) : RunResult → RunResult → Prop
  | value {value other : Value} :
      value.Renamed naming other → Renamed naming (.value value) (.value other)
  | rejected {rejection other : Rejection} :
      rejection.phase = other.phase →
        rejection.diagnostics.map Diagnostic.spot = other.diagnostics.map Diagnostic.spot →
        Renamed naming (.rejected rejection) (.rejected other)
  | faulted {fault other : Fault} :
      fault.Alike other → Renamed naming (.faulted fault) (.faulted other)
  | aborted (reason : String) : Renamed naming (.aborted reason) (.aborted reason)
  | exhausted : Renamed naming .exhausted .exhausted

/-- A program and the renamed program print the same and end alike, up to names of
functions. -/
theorem Evaluation.Machine.run_renamed {naming : Naming} {natives : List Native}
    (indifferent : ∀ native ∈ natives, native.Indifferent naming)
    (kept : ∀ native ∈ natives, naming.names native.key native.key) (fuel : Nat)
    {program other : Program} (renamed : List.Forall₂ (Stmt.Renamed naming) program other) :
    RunResult.Renamed naming ((Machine.start natives).run natives fuel program).1
        ((Machine.start natives).run natives fuel other).1 ∧
      Console.Renamed naming ((Machine.start natives).run natives fuel program).2.console
        ((Machine.start natives).run natives fuel other).2.console := by
  have bindings : Table.Paired naming.names (Value.Renamed naming)
      (natives.map fun native => (native.key, native.value))
      (natives.map fun native => (native.key, native.value)) := by
    refine List.forall₂_same.2 fun binding member => ?_
    obtain ⟨native, inside, rfl⟩ := List.mem_map.1 member
    exact ⟨kept native inside, .native _ _⟩
  have start : Machine.Renamed naming
      { Machine.start natives with
        console := { (Machine.start natives).console with output := "" } }
      { Machine.start natives with
        console := { (Machine.start natives).console with output := "" } } :=
    ⟨(Scopes.Paired.empty.add []).defineAll naming.unique _ bindings,
      rfl, [], [], .nil, rfl, rfl⟩
  have ends := Eval.pairs_executeProgram indifferent fuel Machine.root .unit renamed _ _ start
  unfold run
  dsimp only
  generalize Eval.executeProgram natives fuel Machine.root .unit program _ = first,
    Eval.executeProgram natives fuel Machine.root .unit other _ = second at ends ⊢
  cases ends with
  | ok value after => exact ⟨.value value, after.console⟩
  | error stop after =>
      cases stop with
      | returned value => exact ⟨.faulted rfl, after.console⟩
      | failed same => exact ⟨.rejected rfl (by simp [same]), after.console⟩
      | faulted alike => exact ⟨.faulted alike, after.console⟩
      | aborted reason => exact ⟨.aborted reason, after.console⟩
      | exhausted => exact ⟨.exhausted, after.console⟩

end CheckedScript
