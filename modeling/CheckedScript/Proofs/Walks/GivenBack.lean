import CheckedScript.Proofs.Running.Endings
import CheckedScript.Proofs.Walks.Agreement
import CheckedScript.Proofs.Walks.RunDepths
import Mathlib.Logic.Relation

/-!
# Values that are given back

Expressions give nothing back: a call catches what its body gives back.  So a run that
stops with a value given back has come to a return statement on its walk, and the value is
the one of that statement.  The body of a function that always returns does not come to its
end, and a call of such a function has the value of one of its return statements.
-/

namespace CheckedScript

open Typing (Place)

variable {α β : Type}

/-- The block with another tail, or with none. -/
def Block.withTail : Block → Option Expr → Block
  | .mk brace statements _, tail => .mk brace statements tail

namespace Eval

open Evaluation

/-- Nothing is given back, whatever the state. -/
def silence : Guard Stop Machine where
  stop := Stop.GivesNothing
  state _ := True

/-- A computation that gives nothing back to the call around it. -/
abbrev Silent (computation : Eval α) : Prop :=
  silence.Keeps (fun _ => True) computation

section Steps

variable {first : Eval α} {machine after : Machine} {value : Value}

theorem Silent.ne_returned (silent : Silent first) :
    first machine ≠ .error (.returned value) after := by
  intro equation
  have ended := silent machine trivial
  rw [equation] at ended
  exact ended.1

/-- What is given back after a silent computation is given back by the rest. -/
theorem Silent.bind_eq_returned (silent : Silent first) {next : α → Eval β}
    (equation : (first >>= next) machine = .error (.returned value) after) :
    ∃ found middle, first machine = .ok found middle ∧
      next found middle = .error (.returned value) after :=
  (bind_eq_error equation).resolve_left silent.ne_returned

theorem silent_orStop {fits : α → Prop} {result : Except Stop α} (bare : Bare fits result) :
    Silent (orStop result) := by
  cases result with
  | ok value => exact .pure trivial
  | error stop => exact .throw bare

theorem silent_nest (frame : FrameId) : Silent (nest frame) :=
  fun _ _ => ⟨trivial, trivial⟩

theorem silent_define (frame : FrameId) (bindings : Bindings Value) :
    Silent (define frame bindings) :=
  fun _ _ => ⟨trivial, trivial⟩

theorem silent_lookup (frame : FrameId) (name : String) : Silent (lookup frame name) := by
  refine .get fun machine _ => ?_
  cases machine.scopes.get? frame name with
  | some value => exact .pure trivial
  | none => exact .throw trivial

theorem silent_assign (frame : FrameId) (name : String) (value : Value) :
    Silent (assign frame name value) := by
  intro machine _
  unfold assign
  dsimp only
  split <;> exact ⟨trivial, trivial⟩

theorem silent_requireArity (name : String) (expected found : Nat) :
    Silent (requireArity name expected found) := by
  unfold requireArity
  split
  · exact .pure trivial
  · exact .throw trivial

theorem silent_callNative (native : Native) (arguments : List Value) (paren : Token) :
    Silent (callNative native arguments paren) := by
  rintro ⟨scopes, console⟩ _
  unfold callNative
  cases ended : (native.run arguments console).1 with
  | value | failed | aborted =>
      simp only [ended]
      exact ⟨trivial, trivial⟩

/-- A value that a body gives back is the value of the call. -/
theorem silent_catchReturn (body : Eval Value) : Silent (catchReturn body) := by
  intro machine _
  unfold catchReturn
  cases body machine with
  | ok value after => exact ⟨trivial, trivial⟩
  | error stop after => cases stop <;> exact ⟨trivial, trivial⟩

end Steps

/-- With a bound on the nesting, expressions and calls give nothing back. -/
structure NoneGiveBack (natives : List Native) (fuel : Nat) : Prop where
  evaluate : ∀ frame expr, Silent (evaluate natives fuel frame expr)
  evaluateAll : ∀ frame exprs, Silent (evaluateAll natives fuel frame exprs)
  call : ∀ callee arguments paren, Silent (call natives fuel callee arguments paren)

namespace NoneGiveBack

variable {natives : List Native} {fuel : Nat}

theorem evaluate_succ (none : NoneGiveBack natives fuel) (frame : FrameId) (expr : Expr) :
    Silent (Eval.evaluate natives (fuel + 1) frame expr) := by
  cases expr with
  | literal value token => exact .pure trivial
  | reference name => exact silent_lookup frame name.lexeme
  | assign name value =>
      exact (none.evaluate _ _).bind fun assigned _ =>
        (silent_assign frame name.lexeme assigned).bind fun _ _ => .pure trivial
  | group inner => exact none.evaluate _ _
  | tuple items => exact (none.evaluateAll _ _).bind fun _ _ => .pure trivial
  | unary operator token operand =>
      exact (none.evaluate _ _).bind fun value _ => silent_orStop (bare_applyUnary operator value)
  | binary operator token left right =>
      exact (none.evaluate _ _).bind fun first _ =>
        (none.evaluate _ _).bind fun second _ =>
          silent_orStop (bare_applyBinary operator first second)
  | logical operator token left right =>
      have goesOn : Silent (do
          let second ← Eval.evaluate natives fuel frame right
          return Value.bool (← orStop (truth token second))) :=
        (none.evaluate _ _).bind fun second _ =>
          (silent_orStop (bare_truth second)).bind fun _ _ => .pure trivial
      refine (none.evaluate _ _).bind fun value _ =>
        (silent_orStop (bare_truth value)).bind fun first _ => ?_
      cases operator <;> cases first
      · exact .pure trivial
      · exact goesOn
      · exact goesOn
      · exact .pure trivial
  | call callee paren arguments =>
      exact (none.evaluate _ _).bind fun _ _ =>
        (none.evaluateAll _ _).bind fun _ _ => none.call _ _ _

theorem evaluateAll_succ (none : NoneGiveBack natives fuel) (frame : FrameId)
    (exprs : List Expr) : Silent (Eval.evaluateAll natives (fuel + 1) frame exprs) := by
  cases exprs with
  | nil => exact .pure trivial
  | cons expr exprs =>
      exact (none.evaluate _ _).bind fun _ _ =>
        (none.evaluateAll _ _).bind fun _ _ => .pure trivial

/-- The body of a function may give a value back, which does not leave the call. -/
theorem call_succ (natives : List Native) (fuel : Nat) (callee : Value) (arguments : List Value)
    (paren : Token) : Silent (Eval.call natives (fuel + 1) callee arguments paren) := by
  cases callee with
  | native key signature =>
      refine (silent_requireArity _ _ _).bind fun _ _ => ?_
      cases Native.find? natives key with
      | some native => exact silent_callNative native arguments paren
      | none => exact .throw trivial
  | function closure =>
      exact (silent_requireArity _ _ _).bind fun _ _ =>
        (silent_nest closure.frame).bind fun _ _ =>
          (silent_define _ _).bind fun _ _ => silent_catchReturn _
  | number | text | bool | tuple | range => exact .throw trivial

end NoneGiveBack

theorem noneGiveBack (natives : List Native) (fuel : Nat) : NoneGiveBack natives fuel := by
  induction fuel with
  | zero => constructor <;> intros <;> exact .throw trivial
  | succ fuel none =>
      exact
        { evaluate := none.evaluate_succ
          evaluateAll := none.evaluateAll_succ
          call := NoneGiveBack.call_succ natives fuel }

end Eval

namespace Check

open Typing

/-- The check of a body that always returns leaves out the type of what stands at its end. -/
theorem checkBody_of_blockReturns {bound identifier : Nat} {arguments : List Ty}
    {function : DeclaredFunction} {frame : FrameId} {state after : State}
    {results : List (Ty × Token)} (returns : blockReturns function.body = true)
    (equation : checkBody (bound + 1) identifier arguments function frame state =
      .ok results after) :
    ∃ fallThrough last,
      AllKeep.throughBody bound function frame
        { state with
          activations := { function := identifier, arguments := arguments, returns := [] } ::
            state.activations } = .ok fallThrough last ∧
      results = (last.activations.head?.map (·.returns)).getD [] := by
  rw [AllKeep.checkBody_apply] at equation
  split at equation
  · next fallThrough last through =>
      refine ⟨fallThrough, last, through, ?_⟩
      cases equation
      cases fallThrough with
      | none => rfl
      | some type => exact if_pos returns
  · cases equation

end Check

namespace Evaluation

open Eval

/-- A return statement that is visited, with the value that it gives back and the machine that
is left behind. -/
inductive Visit.GivesBack (natives : List Native) : Visit → Value → Machine → Prop
  | unit {fuel frame machine place keyword} :
      GivesBack natives ⟨fuel + 1, frame, machine, .statement place (.giveBack keyword none)⟩
        .unit machine
  | value {fuel frame machine after place keyword expr value} :
      evaluate natives fuel frame expr machine = .ok value after →
      GivesBack natives
        ⟨fuel + 1, frame, machine, .statement place (.giveBack keyword (some expr))⟩ value after

/-- The walk from a visit comes to a return statement that gives a value back. -/
def Visit.Returns (natives : List Native) (visit : Visit) (value : Value) (after : Machine) :
    Prop :=
  ∃ last, Relation.ReflTransGen (Visit.Calls natives) visit last ∧
    last.GivesBack natives value after

variable {natives : List Native} {fuel : Nat} {frame : FrameId} {machine after : Machine}
  {value : Value}

theorem Visit.GivesBack.returns {visit : Visit} (gives : visit.GivesBack natives value after) :
    visit.Returns natives value after :=
  ⟨visit, .refl, gives⟩

theorem Visit.Calls.returns {visit called : Visit} (calls : visit.Calls natives called)
    (returns : called.Returns natives value after) : visit.Returns natives value after := by
  obtain ⟨last, walk, gives⟩ := returns
  exact ⟨last, .head calls walk, gives⟩

/-- What is given back after a condition is given back by what the condition leads to. -/
theorem condition_eq_returned {α : Type} {condition : Expr} {token : Token}
    {next : Bool → Eval α}
    (equation : (do
      let value ← evaluate natives fuel frame condition
      let holds ← orStop (truth token value)
      next holds) machine = .error (.returned value) after) :
    ∃ holds middle, evaluate natives fuel frame condition machine = .ok (.bool holds) middle ∧
      next holds middle = .error (.returned value) after := by
  obtain ⟨found, middle, evaluated, rest⟩ :=
    ((noneGiveBack natives fuel).evaluate frame condition).bind_eq_returned equation
  obtain ⟨holds, same, decided, rest⟩ := (silent_orStop (bare_truth found)).bind_eq_returned rest
  obtain ⟨rfl, rfl⟩ := orStop_truth_eq_ok decided
  exact ⟨holds, middle, evaluated, rest⟩

/-- With a bound on the nesting, a value that is given back stems from a return statement on
the walk. -/
structure ReturnsFound (natives : List Native) (fuel : Nat) : Prop where
  execute : ∀ {frame stmt machine value after},
    execute natives fuel frame stmt machine = .error (.returned value) after →
    ∀ place, Visit.Returns natives ⟨fuel, frame, machine, .statement place stmt⟩ value after
  executeAll : ∀ {frame stmts machine value after},
    executeAll natives fuel frame stmts machine = .error (.returned value) after →
    ∀ place step,
      Visit.Returns natives ⟨fuel, frame, machine, .statements place step stmts⟩ value after
  executeBody : ∀ {frame body machine value after},
    executeBody natives fuel frame body machine = .error (.returned value) after →
    ∀ place, Visit.Returns natives ⟨fuel, frame, machine, .body place body⟩ value after
  executeBlock : ∀ {frame body machine value after},
    executeBlock natives fuel frame body machine = .error (.returned value) after →
    ∀ place, Visit.Returns natives ⟨fuel, frame, machine, .block place body⟩ value after
  repeatWhile : ∀ {frame keyword condition body machine value after},
    repeatWhile natives fuel frame keyword condition body machine =
      .error (.returned value) after →
    ∀ place, Visit.Returns natives
      ⟨fuel, frame, machine, .whileLoop place keyword condition body⟩ value after
  repeatFor : ∀ {frame name range index body machine value after},
    repeatFor natives fuel frame name range index body machine = .error (.returned value) after →
    ∀ place, Visit.Returns natives
      ⟨fuel, frame, machine, .forLoop place name range index body⟩ value after

namespace ReturnsFound

/-- The bounds of a loop give nothing back, so it is one of its turns that does. -/
theorem execute_forLoop (found : ReturnsFound natives fuel) {name : Token} {bounds : Bounds}
    {body : Block}
    (equation : Eval.execute natives (fuel + 1) frame (.forLoop name bounds body) machine =
      .error (.returned value) after) (place : Place) :
    Visit.Returns natives ⟨fuel + 1, frame, machine, .statement place (.forLoop name bounds body)⟩
      value after := by
  have silent := (noneGiveBack natives fuel).evaluate frame
  rw [Eval.execute] at equation
  obtain ⟨start, middle, started, rest⟩ := (silent _).bind_eq_returned equation
  have turns : ∀ {step : Option Value} {stepped : Machine},
      StepValue natives fuel frame bounds.step middle step stepped →
      (do
        let stop ← evaluate natives fuel frame bounds.stop
        let range ← orStop (loopRange bounds.token start stop step)
        Eval.repeatFor natives fuel frame name.lexeme range 0 body) stepped =
        .error (.returned value) after →
      Visit.Returns natives
        ⟨fuel + 1, frame, machine, .statement place (.forLoop name bounds body)⟩ value after := by
    intro step stepped stepValue rest
    obtain ⟨stop, last, stopped, rest⟩ := (silent _).bind_eq_returned rest
    obtain ⟨range, same, ranged, rest⟩ :=
      (silent_orStop (bare_loopRange start stop step)).bind_eq_returned rest
    obtain ⟨valid, rfl⟩ := orStop_eq_ok ranged
    exact (Visit.Calls.forLoop started stepValue stopped valid).returns
      (found.repeatFor rest place)
  cases shape : bounds.step with
  | none =>
      rw [shape] at rest turns
      exact turns .absent rest
  | some step =>
      rw [shape] at rest turns
      have mapped : Silent (some <$> evaluate natives fuel frame step) := .map (silent step)
      obtain ⟨_, stepped, given, rest⟩ := mapped.bind_eq_returned rest
      obtain ⟨width, rfl, evaluated⟩ := map_eq_ok given
      exact turns (.written evaluated) rest

theorem execute_succ (found : ReturnsFound natives fuel) {stmt : Stmt}
    (equation : Eval.execute natives (fuel + 1) frame stmt machine =
      .error (.returned value) after) (place : Place) :
    Visit.Returns natives ⟨fuel + 1, frame, machine, .statement place stmt⟩ value after := by
  have silent := (noneGiveBack natives fuel).evaluate frame
  cases stmt with
  | expression expr => exact ((silent expr).ne_returned equation).elim
  | letValue name declared initializer =>
      obtain ⟨_, _, _, rest⟩ := (silent initializer).bind_eq_returned equation
      obtain ⟨_, _, _, rest⟩ := (silent_define _ _).bind_eq_returned rest
      cases rest
  | block body => exact Visit.Calls.block.returns (found.executeBlock equation place)
  | ifThen keyword condition consequent =>
      rw [Eval.execute] at equation
      obtain ⟨holds, middle, evaluated, rest⟩ := condition_eq_returned equation
      cases holds with
      | true =>
          rcases bind_eq_error rest with inside | ⟨_, _, _, rest⟩
          · exact (Visit.Calls.ifConsequent evaluated).returns (found.executeBlock inside _)
          · cases rest
      | false => cases rest
  | ifElse keyword condition consequent alternative =>
      rw [Eval.execute] at equation
      obtain ⟨holds, middle, evaluated, rest⟩ := condition_eq_returned equation
      cases holds with
      | true =>
          rcases bind_eq_error rest with inside | ⟨_, _, _, rest⟩
          · exact (Visit.Calls.elseConsequent evaluated).returns (found.executeBlock inside _)
          · cases rest
      | false =>
          rcases bind_eq_error rest with inside | ⟨_, _, _, rest⟩
          · exact (Visit.Calls.alternative evaluated).returns (found.execute inside _)
          · cases rest
  | whileLoop keyword condition body =>
      exact Visit.Calls.whileLoop.returns (found.repeatWhile equation place)
  | forLoop name bounds body => exact found.execute_forLoop equation place
  | function name parameters body =>
      obtain ⟨_, _, _, rest⟩ := (silent_nest frame).bind_eq_returned equation
      obtain ⟨_, _, _, rest⟩ := (silent_define _ _).bind_eq_returned rest
      cases rest
  | giveBack keyword expr =>
      cases expr with
      | none =>
          cases equation
          exact Visit.GivesBack.unit.returns
      | some expr =>
          rw [Eval.execute] at equation
          obtain ⟨found, last, evaluated, rest⟩ := (silent expr).bind_eq_returned equation
          cases rest
          exact (Visit.GivesBack.value evaluated).returns

theorem executeAll_succ (found : ReturnsFound natives fuel) {stmts : List Stmt}
    (equation : Eval.executeAll natives (fuel + 1) frame stmts machine =
      .error (.returned value) after) (place : Place) (step : Nat) :
    Visit.Returns natives ⟨fuel + 1, frame, machine, .statements place step stmts⟩ value after := by
  cases stmts with
  | nil => cases equation
  | cons stmt stmts =>
      rw [Eval.executeAll] at equation
      rcases bind_eq_error equation with first | ⟨_, _, executed, others⟩
      · exact Visit.Calls.first.returns (found.execute first _)
      · exact (Visit.Calls.others executed).returns (found.executeAll others _ _)

theorem executeBody_succ (found : ReturnsFound natives fuel) {body : Block}
    (equation : Eval.executeBody natives (fuel + 1) frame body machine =
      .error (.returned value) after) (place : Place) :
    Visit.Returns natives ⟨fuel + 1, frame, machine, .body place body⟩ value after := by
  obtain ⟨brace, stmts, tail⟩ := body
  rcases bind_eq_error equation with inside | ⟨_, _, _, rest⟩
  · exact Visit.Calls.bodyStatements.returns (found.executeAll inside _ _)
  · cases tail with
    | none => cases rest
    | some tail => exact (((noneGiveBack natives fuel).evaluate frame tail).ne_returned rest).elim

theorem executeBlock_succ (found : ReturnsFound natives fuel) {body : Block}
    (equation : Eval.executeBlock natives (fuel + 1) frame body machine =
      .error (.returned value) after) (place : Place) :
    Visit.Returns natives ⟨fuel + 1, frame, machine, .block place body⟩ value after :=
  Visit.Calls.body.returns (found.executeBody equation place)

theorem repeatWhile_succ (found : ReturnsFound natives fuel) {keyword : Token} {condition : Expr}
    {body : Block}
    (equation : Eval.repeatWhile natives (fuel + 1) frame keyword condition body machine =
      .error (.returned value) after) (place : Place) :
    Visit.Returns natives ⟨fuel + 1, frame, machine, .whileLoop place keyword condition body⟩
      value after := by
  rw [Eval.repeatWhile] at equation
  obtain ⟨holds, middle, evaluated, rest⟩ := condition_eq_returned equation
  cases holds with
  | true =>
      rcases bind_eq_error rest with inside | ⟨_, _, executed, rest⟩
      · exact (Visit.Calls.whileBody evaluated).returns (found.executeBlock inside _)
      · exact (Visit.Calls.whileAgain evaluated executed).returns (found.repeatWhile rest _)
  | false => cases rest

theorem repeatFor_succ (found : ReturnsFound natives fuel) {name : String}
    {range : NumberRange Float} {index : Nat} {body : Block}
    (equation : Eval.repeatFor natives (fuel + 1) frame name range index body machine =
      .error (.returned value) after) (place : Place) :
    Visit.Returns natives ⟨fuel + 1, frame, machine, .forLoop place name range index body⟩
      value after := by
  rw [Eval.repeatFor] at equation
  cases shape : range.item? index with
  | none =>
      rw [shape] at equation
      cases equation
  | some item =>
      rw [shape] at equation
      have turned : (do
          let _ ← Eval.executeBlock natives fuel machine.next body
          Eval.repeatFor natives fuel frame name range (index + 1) body)
            (machine.turn frame name item) = .error (.returned value) after := equation
      rcases bind_eq_error turned with inside | ⟨_, _, executed, rest⟩
      · exact (Visit.Calls.forBody shape).returns (found.executeBlock inside _)
      · exact (Visit.Calls.forAgain shape executed).returns (found.repeatFor rest _)

end ReturnsFound

theorem returnsFound (natives : List Native) (fuel : Nat) : ReturnsFound natives fuel := by
  induction fuel with
  | zero =>
      exact
        { execute := fun equation => by cases equation
          executeAll := fun equation => by cases equation
          executeBody := fun equation => by cases equation
          executeBlock := fun equation => by cases equation
          repeatWhile := fun equation => by cases equation
          repeatFor := fun equation => by cases equation }
  | succ fuel found =>
      exact
        { execute := found.execute_succ
          executeAll := found.executeAll_succ
          executeBody := found.executeBody_succ
          executeBlock := found.executeBlock_succ
          repeatWhile := found.repeatWhile_succ
          repeatFor := found.repeatFor_succ }

open Typing (alwaysReturns blockReturns DeclaredFunction)

section Calls

variable {natives : List Native} {fuel : Nat} {closure : Closure} {arguments : List Value}
  {paren : Token} {machine after : Machine} {value : Value}

/-- Nothing comes to the tail of a body that always returns. -/
theorem executeBody_withTail {body : Block} (returns : blockReturns body = true) (frame : FrameId)
    (tail : Option Expr) :
    executeBody natives fuel frame (body.withTail tail) = executeBody natives fuel frame body := by
  cases fuel with
  | zero => rfl
  | succ fuel =>
      obtain ⟨brace, stmts, old⟩ := body
      funext machine
      cases shape : executeAll natives fuel frame stmts machine with
      | ok _ after => exact ((noneEnd natives fuel).executeAll returns shape).elim
      | error stop after =>
          have stops (last : Option Expr) :
              executeBody natives (fuel + 1) frame (.mk brace stmts last) machine =
                .error stop after := by
            change (executeAll natives fuel frame stmts >>= _) machine = _
            rw [bind_apply, shape]
          exact (stops tail).trans (stops old).symm

theorem call_withTail (returns : blockReturns closure.body = true) (tail : Option Expr) :
    call natives fuel (.function { closure with body := closure.body.withTail tail }) arguments
        paren =
      call natives fuel (.function closure) arguments paren := by
  cases fuel with
  | zero => rfl
  | succ fuel =>
      rw [call, call]
      simp only [executeBody_withTail returns]

/-- A call has the value that the body ends with, or that it gives back. -/
theorem call_eq_ok
    (equation : call natives (fuel + 1) (.function closure) arguments paren machine =
      .ok value after) :
    executeBody natives fuel machine.next closure.body (machine.entered closure arguments) =
        .ok value after ∨
      executeBody natives fuel machine.next closure.body (machine.entered closure arguments) =
        .error (.returned value) after := by
  rw [call] at equation
  obtain ⟨_, _, required, rest⟩ := bind_eq_ok equation
  obtain ⟨_, rfl⟩ := requireArity_eq_ok required
  have caught : catchReturn (executeBody natives fuel machine.next closure.body)
      (machine.entered closure arguments) = .ok value after := rest
  unfold catchReturn at caught
  split at caught
  · next given last shape =>
      cases caught
      exact .inr shape
  · exact .inl caught

/-- A call of a function that always returns has the value of a return statement. -/
theorem call_returns (returns : blockReturns closure.body = true)
    (equation : call natives (fuel + 1) (.function closure) arguments paren machine =
      .ok value after) (place : Place) :
    Visit.Returns natives
      ⟨fuel, machine.next, machine.entered closure arguments, .body place closure.body⟩
      value after := by
  rcases call_eq_ok equation with ended | given
  · exact ((noneEnd natives fuel).executeBody returns ended).elim
  · exact (returnsFound natives fuel).executeBody given place

end Calls

/-- What always returns never completes: the statement stops, be it with a value given back,
with a failure, or at the bound on the nesting.  So the call of a function whose body always
returns has the value of a return statement in the body, if it has one at all, and it does not
matter what stands at the end of the body; a check leaves the type of that out. -/
theorem always_returning_never_completes (natives : List Native) :
    (∀ stmt, alwaysReturns stmt = true → ∀ fuel frame machine,
      ∃ stop after, execute natives fuel frame stmt machine = .error stop after) ∧
    (∀ closure : Closure, blockReturns closure.body = true → ∀ fuel arguments paren machine,
      (∀ value after,
        call natives (fuel + 1) (.function closure) arguments paren machine = .ok value after →
        ∀ place, Visit.Returns natives
          ⟨fuel, machine.next, machine.entered closure arguments, .body place closure.body⟩
          value after) ∧
      ∀ tail,
        call natives fuel (.function { closure with body := closure.body.withTail tail }) arguments
            paren machine =
          call natives fuel (.function closure) arguments paren machine) ∧
    ∀ function : DeclaredFunction, blockReturns function.body = true →
      ∀ bound identifier arguments frame state results after,
        Check.checkBody (bound + 1) identifier arguments function frame state =
          .ok results after →
        ∃ fallThrough last,
          Check.AllKeep.throughBody bound function frame
            { state with
              activations := { function := identifier, arguments := arguments, returns := [] } ::
                state.activations } = .ok fallThrough last ∧
          results = (last.activations.head?.map (·.returns)).getD [] := by
  refine ⟨fun stmt returns fuel frame machine => ?_,
    fun closure returns fuel arguments paren machine =>
      ⟨fun value after ended place => call_returns returns ended place,
        fun tail => congrFun (call_withTail returns tail) machine⟩,
    fun function returns bound identifier arguments frame state results after checked =>
      Check.checkBody_of_blockReturns returns checked⟩
  cases ended : execute natives fuel frame stmt machine with
  | ok value after => exact ((noneEnd natives fuel).execute returns ended).elim
  | error stop after => exact ⟨stop, after, rfl⟩

/-- A function that gives back a text in one branch and unit in the other never comes to the
text at its end. -/
theorem always_returning_never_completes_branches :
    let token (lexeme : String) : Token := ⟨.identifier, lexeme, .origin, none⟩
    let text (value : String) : Expr := .literal (.text value) (token value)
    let early : Block := .mk (token "\x7b") [.giveBack (token "return") (some (text "early"))] none
    let late : Block := .mk (token "\x7b") [.giveBack (token "return") none] none
    let condition : Expr := .literal (.bool true) (token "true")
    let branches : Stmt := .ifElse (token "if") condition early (.block late)
    let closure : Closure :=
      { name := "choose", parameters := [], frame := Machine.root
        body := .mk (token "\x7b") [branches] (some (text "end")) }
    let machine := Machine.start []
    let called := call [] 9 (.function closure) [] (token ")") machine
    let function : DeclaredFunction :=
      { name := token "choose", parameters := [], body := closure.body, place := .root 0
        closure := Machine.root, instances := [] }
    let types := fun results : List (Ty × Token) => results.map fun result => result.1.describe
    (∃ stop after, execute [] 9 Machine.root branches machine = .error stop after) ∧
    (∃ after, called = .ok (.text "early") after ∧
      Visit.Returns []
        ⟨8, machine.next, machine.entered closure [], .body (.root 0) closure.body⟩
        (.text "early") after) ∧
    called = call [] 9 (.function { closure with body := closure.body.withTail none }) []
      (token ")") machine ∧
    ∃ results after fallThrough last,
      Check.checkBody 9 0 [] function Machine.root { scopes := Scopes.root } = .ok results after ∧
      Check.AllKeep.throughBody 8 function Machine.root
        { scopes := Scopes.root
          activations := [{ function := 0, arguments := [], returns := [] }] } =
        .ok fallThrough last ∧
      results = (last.activations.head?.map (·.returns)).getD [] ∧
      types results = ["text", "()"] := by
  intro token text early late condition branches closure machine called function types
  obtain ⟨stops, calls, checks⟩ := always_returning_never_completes []
  obtain ⟨given, -⟩ := calls closure rfl 8 [] (token ")") machine
  refine ⟨stops branches rfl 9 Machine.root machine, ⟨_, rfl, given _ _ rfl _⟩,
    ((calls closure rfl 9 [] (token ")") machine).2 none).symm, ?_⟩
  obtain ⟨fallThrough, last, through, recorded⟩ := checks function rfl 8 0 [] Machine.root
    { scopes := Scopes.root } _ _ rfl
  exact ⟨_, _, fallThrough, last, rfl, through, recorded, rfl⟩

end Evaluation

end CheckedScript
