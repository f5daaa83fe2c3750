import CheckedScript.Proofs.Names
import CheckedScript.Proofs.Recovery.Exchanges
import CheckedScript.Proofs.Sessions
import Mathlib

/-!
# Annotated `let` statements do not cascade

The name of an annotated `let` statement is bound to the written type even if the initializer
is at fault.  So whatever is wrong with the initializer is reported once, where it stands: all
that is reported elsewhere is reported of the program with a proper initializer as well.
-/

namespace CheckedScript

/-- A position at which one of some tokens stands. -/
def Position.isAmong (tokens : List Token) (position : Position) : Bool :=
  tokens.any fun token => token.position = position

theorem Position.isAmong_iff {tokens : List Token} {position : Position} :
    position.isAmong tokens = true ↔ ∃ token ∈ tokens, token.position = position := by
  simp [Position.isAmong]

namespace Exchange

open Typing Check

variable (exchange : Exchange)

/-- Wherever the check of a program comes to the statement, the new initializer is of the
written type. -/
def Fits (natives : Bindings Signature) (program : Program) : Prop :=
  ∀ {bound fuel frame state place},
    (Part.programs bound {} natives [program]).Reaches
      (.visit ⟨fuel + 2, frame, state, .statement place exchange.after⟩) →
    Admits exchange.written.type (typeOf fuel frame (place.child 0) exchange.new state)

/-- A literal is of its type wherever it is checked. -/
theorem fits_of_literal {exchange : Exchange} {value : Constant} {token : Token}
    (literal : exchange.new = .literal value token)
    (compatible : exchange.written.type.compatible (constantType value) = true)
    {natives : Bindings Signature} {program : Program} : exchange.Fits natives program := by
  intro _ fuel frame state place _
  rw [literal]
  obtain _ | _ | fuel := fuel
  · trivial
  · trivial
  · exact compatible

/-- No token of the new initializer stands where a token of a program stands that is kept. -/
def Apart (program : Program) : Prop :=
  ∀ token ∈ exchange.new.tokens, ∀ kept ∈ program.tokens,
    kept.position = token.position → kept ∈ exchange.before.tokens

variable {exchange} {program second : Program}

/-- Of a program with distinct positions, no other tokens stand at the positions of the
statement. -/
theorem alone (apart : (program.tokens.map (·.position)).Nodup)
    (exchanged : program.Exchanged exchange second) :
    exchange.Alone (Position.isAmong exchange.before.tokens) program.tokens where
  apart := apart
  only token inside isHidden := by
    obtain ⟨other, isOther, same⟩ := Position.isAmong_iff.1 isHidden
    have also := exchanged.subset isOther
    rwa [← List.inj_on_of_nodup_map apart also inside same]

theorem alone_both (alone : exchange.Alone (Position.isAmong exchange.before.tokens) program.tokens)
    (apart : exchange.Apart program) :
    exchange.Alone (Position.isAmong (exchange.before.tokens ++ exchange.new.tokens))
      program.tokens where
  apart := alone.apart
  only token inside isHidden := by
    obtain ⟨other, isOther, same⟩ := Position.isAmong_iff.1 isHidden
    rcases List.mem_append.1 isOther with isOld | isNew
    · exact alone.only token inside (Position.isAmong_iff.2 ⟨other, isOld, same⟩)
    · exact apart other isNew token inside same.symm

end Exchange

namespace Typing

open Check

variable {exchange : Exchange} {hidden : Position → Bool} {natives : Bindings Signature}
  {program second : Program}

section Exchanged

variable (exchanged : program.Exchanged exchange second)
  (alone : exchange.Alone hidden program.tokens)
  (outOfSight : ∀ token ∈ exchange.before.tokens, hidden token.position = true)
  (callFree : exchange.old.CallFree) (callFreeNew : exchange.new.CallFree)
  (fits : exchange.Fits natives second)
include exchanged alone outOfSight callFree callFreeNew fits

/-- The two checks come to the same end, if one of them has enough more room. -/
theorem ends_exchanged (side : Side) {fuel larger : Nat}
    (enough : Mirror.Enough exchange.room side fuel larger) :
    ({ exchange, hidden, side } : Mirror).Ends (fun _ => True)
      (checkProgram fuel natives program {}) (checkProgram larger natives second {}) := by
  obtain ⟨name, old⟩ := List.forall_mem_cons.1 outOfSight
  have faithful : ({ exchange, hidden, side } : Mirror).Faithful
      (Part.programs larger {} natives [second]).Reaches :=
    { closed := fun reaches _ calls => reaches.tail calls
      name := name
      old := callFree.confined old
      new := callFreeNew
      typed := fits }
  have start : ({ exchange, hidden, side } : Mirror).States {} {} :=
    { scopes := rfl
      diagnostics := rfl
      functions := ⟨rfl, fun _ => .none⟩
      activations := rfl
      returns := by simp
      generation := rfl
      programs := rfl }
  exact Mirror.ends_checkProgram faithful enough (exchanged.revised alone) .refl start

/-- What is reported of a program in sight is all that is reported of the program with the new
initializer. -/
theorem reports_exchanged {first : List Diagnostic} (reports : Reports natives program first) :
    Reports natives second (Diagnostic.visible hidden first) := by
  obtain ⟨_, after, decides, rfl⟩ := reports
  obtain ⟨fuel, type, equation, rfl⟩ := State.decides_iff.1 decides
  have ends := ends_exchanged exchanged alone outOfSight callFree callFreeNew fits .first
    (Nat.le_refl (exchange.room + fuel))
  rw [equation] at ends
  generalize ended : checkProgram _ natives second {} = result at ends
  cases ends with
  | @ok _ _ later _ states =>
      refine ⟨_, later, State.decides_iff.2 ⟨_, _, ended, rfl⟩, ?_⟩
      rw [State.diagnostics_verdict, State.diagnostics_verdict]
      exact states.diagnostics.symm
  | second less => cases less

/-- The check of a program comes to its end if that of the program with the new initializer
does. -/
theorem reports_of_exchanged {last : List Diagnostic} (reports : Reports natives second last) :
    ∃ first, Reports natives program first := by
  obtain ⟨_, after, decides, rfl⟩ := reports
  obtain ⟨fuel, type, equation, rfl⟩ := State.decides_iff.1 decides
  have ends := ends_exchanged exchanged alone outOfSight callFree callFreeNew fits .second
    (Nat.le_refl (exchange.room + fuel))
  rw [equation] at ends
  generalize ended : checkProgram _ natives program {} = result at ends
  cases ends with
  | ok _ states => exact ⟨_, _, _, State.decides_iff.2 ⟨_, _, ended, rfl⟩, rfl⟩
  | first less => cases less

end Exchanged

/-- With the new initializer hidden as well, the second program still shows all that is reported
for it.  So nothing is charged to the name or to the initializer. -/
theorem charged_elsewhere (exchanged : program.Exchanged exchange second)
    (alone : exchange.Alone (Position.isAmong exchange.before.tokens) program.tokens)
    (callFree : exchange.old.CallFree) (callFreeNew : exchange.new.CallFree)
    (fits : exchange.Fits natives second) (apart : exchange.Apart program)
    {first last : List Diagnostic} (reports : Reports natives program first)
    (reportsLast : Reports natives second last) :
    ∀ diagnostic ∈ last, diagnostic.token.position.isAmong exchange.after.tokens = false := by
  have outOfSight : ∀ token ∈ exchange.before.tokens,
      token.position.isAmong (exchange.before.tokens ++ exchange.new.tokens) = true :=
    fun token inside => Position.isAmong_iff.2 ⟨token, List.mem_append_left _ inside, rfl⟩
  have same := rightUnique_reports natives
    (reports_exchanged exchanged (Exchange.alone_both alone apart) outOfSight callFree callFreeNew
      fits reports) reportsLast
  intro diagnostic member
  rw [← same] at member
  have inSight := (List.mem_filter.1 member).2
  rw [← Bool.not_eq_true, Position.isAmong_iff]
  rintro ⟨token, inside, stands⟩
  have isHidden : diagnostic.token.position.isAmong
      (exchange.before.tokens ++ exchange.new.tokens) = true := by
    refine Position.isAmong_iff.2 ⟨token, ?_, stands⟩
    rcases List.mem_cons.1 inside with rfl | isNew
    · exact List.mem_append_left _ List.mem_cons_self
    · exact List.mem_append_right _ isNew
  rw [isHidden] at inSight
  cases inSight

/-- An annotated `let` statement never cascades.  If its initializer is replaced by one of the
written type, both programs are checked to their ends or neither is.  The same is reported for
both, in the same order, but for what is charged to the name or to the initializer, and nothing
is charged to those of the second program. -/
theorem annotated_let_never_cascades {segmentation : Segmentation} {source : String}
    (parsed : segmentation.parse source = .ok program)
    (exchanged : program.Exchanged exchange second) (callFree : exchange.old.CallFree)
    (callFreeNew : exchange.new.CallFree) (fits : exchange.Fits natives second)
    (apart : exchange.Apart program) :
    ((∃ first, Reports natives program first) ↔ ∃ last, Reports natives second last) ∧
      ∀ first last, Reports natives program first → Reports natives second last →
        Diagnostic.visible (Position.isAmong exchange.before.tokens) first = last ∧
        ∀ diagnostic ∈ last,
          diagnostic.token.position.isAmong exchange.after.tokens = false := by
  have alone := Exchange.alone (Program.nodup_positions_of_parse parsed) exchanged
  have outOfSight : ∀ token ∈ exchange.before.tokens,
      token.position.isAmong exchange.before.tokens = true :=
    fun token inside => Position.isAmong_iff.2 ⟨token, inside, rfl⟩
  refine ⟨⟨?_, ?_⟩, fun first last reports reportsLast => ⟨?_, ?_⟩⟩
  · rintro ⟨first, reports⟩
    exact ⟨_, reports_exchanged exchanged alone outOfSight callFree callFreeNew fits reports⟩
  · rintro ⟨last, reports⟩
    exact reports_of_exchanged exchanged alone outOfSight callFree callFreeNew fits reports
  · exact rightUnique_reports natives
      (reports_exchanged exchanged alone outOfSight callFree callFreeNew fits reports) reportsLast
  · exact charged_elsewhere exchanged alone callFree callFreeNew fits apart reports reportsLast

/-- A token of the program below. -/
def sampleToken (kind : Kind) (lexeme : String) (column : Int) : Token :=
  { kind := kind, lexeme := lexeme, position := ⟨0, column⟩ }

/-- The statement `let x: number = "a";`, and a number in place of the text. -/
def textForNumber : Exchange where
  name := sampleToken .identifier "x" 14
  written := .number
  old := .literal (.text "a") { sampleToken .text "\"a\"" 26 with payload := some (.text "a") }
  new := .literal (.number 1) (sampleToken .number "1" 26)

/-- The program `fun f() { ... nope; }`, with a statement before the undefined name. -/
def beforeUndefined (stmt : Stmt) : Program :=
  [.function (sampleToken .identifier "f" 4) []
    (.mk (sampleToken (.symbol .leftBrace) "\x7b" 8)
      [stmt, .expression (.reference (sampleToken .identifier "nope" 31))] none)]

/-- A text for a number in the body of a function is reported, and so is the undefined name
behind it.  With a number in its place only the name is left. -/
theorem annotated_let_never_cascades_undefinedName :
    Program.ofSource "fun f() \x7b let x: number = \"a\"; nope; \x7d" =
        .ok (beforeUndefined textForNumber.before) ∧
      (beforeUndefined textForNumber.before).Exchanged textForNumber
        (beforeUndefined textForNumber.after) ∧
      textForNumber.old.CallFree ∧ textForNumber.new.CallFree ∧
      textForNumber.Fits (Native.signatures Native.defaults)
        (beforeUndefined textForNumber.after) ∧
      textForNumber.Apart (beforeUndefined textForNumber.before) ∧
      ∃ first last,
        Reports (Native.signatures Native.defaults) (beforeUndefined textForNumber.before) first ∧
        Reports (Native.signatures Native.defaults) (beforeUndefined textForNumber.after) last ∧
        first.length = 2 ∧
        Diagnostic.visible (Position.isAmong textForNumber.before.tokens) first = last ∧
        last = [{ cause := .undefinedName, token := sampleToken .identifier "nope" 31 }] := by
  have parsed : Program.ofSource "fun f() \x7b let x: number = \"a\"; nope; \x7d" =
      .ok (beforeUndefined textForNumber.before) := by cbv
  have exchanged : (beforeUndefined textForNumber.before).Exchanged textForNumber
      (beforeUndefined textForNumber.after) :=
    .inside _ (.function _ _ (.mk _ _ (.here _)))
  have fits : textForNumber.Fits (Native.signatures Native.defaults)
      (beforeUndefined textForNumber.after) := Exchange.fits_of_literal rfl rfl
  have apart : textForNumber.Apart (beforeUndefined textForNumber.before) := by
    intro token inside kept isKept same
    cases List.mem_singleton.1 inside
    -- The function, its brace, the name of the variable, the text and the undefined name.
    have tokens : kept ∈ [_, _, _, _, _] := isKept
    simp only [List.mem_cons, List.not_mem_nil, or_false] at tokens
    rcases tokens with rfl | rfl | rfl | rfl | rfl
    case inr.inr.inr.inl => exact List.mem_cons_of_mem _ List.mem_cons_self
    all_goals cases same
  obtain ⟨first, reports, two⟩ : ∃ first, Reports (Native.signatures Native.defaults)
      (beforeUndefined textForNumber.before) first ∧ first.length = 2 :=
    ⟨_, ⟨_, _, ⟨⟨12, rfl⟩, .inr ⟨_, rfl⟩⟩, rfl⟩, rfl⟩
  have reportsLast : Reports (Native.signatures Native.defaults)
      (beforeUndefined textForNumber.after)
      [{ cause := .undefinedName, token := sampleToken .identifier "nope" 31 }] :=
    ⟨_, _, ⟨⟨12, rfl⟩, .inr ⟨_, rfl⟩⟩, rfl⟩
  have same := (annotated_let_never_cascades parsed exchanged .literal .literal fits apart).2
    first _ reports reportsLast
  exact ⟨parsed, exchanged, .literal, .literal, fits, apart, first, _, reports, reportsLast, two,
    same.1, rfl⟩

/-- The function `fun f(p) { fun g() {} return g; g == f(true); }`. -/
def ownResult : Stmt :=
  let name (lexeme : String) (column : Int) : Token := sampleToken .identifier lexeme column
  let brace (column : Int) : Token := sampleToken (.symbol .leftBrace) "\x7b" column
  .function (name "f" 4) [name "p" 6]
    (.mk (brace 9)
      [.function (name "g" 15) [] (.mk (brace 19) [] none),
        .giveBack (sampleToken (.keyword .returnWord) "return" 22) (some (.reference (name "g" 29))),
        .expression (.binary .equal (sampleToken (.symbol .equalEqual) "==" 34)
          (.reference (name "g" 32))
          (.call (.reference (name "f" 37)) (sampleToken (.symbol .rightParen) ")" 43)
            [.literal (.bool true) (sampleToken (.keyword .trueWord) "true" 39)]))]
      none)

/-- The statement `f(true);` behind the function. -/
def ownCall : Stmt :=
  .expression
    (.call (.reference (sampleToken .identifier "f" 48))
      (sampleToken (.symbol .rightParen) ")" 54)
      [.literal (.bool true) (sampleToken (.keyword .trueWord) "true" 50)])

theorem reports_of_verdict_accepted {program : Program} {fuel : Nat}
    (accepted : program.verdict fuel = .accepted) :
    Reports (Native.signatures Native.defaults) program [] := by
  unfold Program.verdict at accepted
  cases checked : (({} : State).check fuel (Native.signatures Native.defaults) program).1 with
  | accepted type => exact ⟨_, _, ⟨⟨fuel, Prod.ext checked rfl⟩, .inl ⟨type, rfl⟩⟩, rfl⟩
  | rejected rejection => simp [checked, CheckResult.verdict] at accepted
  | faulted fault => simp [checked, CheckResult.verdict] at accepted
  | exhausted => simp [checked, CheckResult.verdict] at accepted

theorem reports_of_verdict_rejected {program : Program} {fuel : Nat} {phase : Phase}
    {spots : List (String × Position)} (rejected : program.verdict fuel = .rejected phase spots) :
    ∃ diagnostics, Reports (Native.signatures Native.defaults) program diagnostics ∧
      diagnostics.map Diagnostic.spot = spots := by
  unfold Program.verdict at rejected
  cases checked : (({} : State).check fuel (Native.signatures Native.defaults) program).1 with
  | accepted type => simp [checked, CheckResult.verdict] at rejected
  | rejected rejection =>
      simp only [checked, CheckResult.verdict, CheckResult.Verdict.rejected.injEq] at rejected
      exact ⟨_, ⟨_, _, ⟨⟨fuel, Prod.ext checked rfl⟩, .inr ⟨rejection, rfl⟩⟩, rfl⟩, rejected.2⟩
  | faulted fault => simp [checked, CheckResult.verdict] at rejected
  | exhausted => simp [checked, CheckResult.verdict] at rejected

/-- A call can hide what is wrong with the body of the function that it calls, since the body is
then not checked with parameters of unknown type. -/
theorem calls_hide_faults :
    ¬ ∀ (source called : String) (statements : Program) (name : Token) (parameters : List Token)
        (body : Block) (callee paren : Token) (arguments : List Expr),
      Program.ofSource source = .ok (statements ++ [.function name parameters body]) →
      Program.ofSource called =
        .ok (statements ++ [.function name parameters body,
          .expression (.call (.reference callee) paren arguments)]) →
      callee.lexeme = name.lexeme → arguments.length = parameters.length →
      (∀ argument ∈ arguments, argument.CallFree) →
      Reports (Native.signatures Native.defaults)
        (statements ++ [.function name parameters body,
          .expression (.call (.reference callee) paren arguments)]) [] →
      Reports (Native.signatures Native.defaults)
        (statements ++ [.function name parameters body]) [] := by
  intro alone
  have read : Program.ofSource
      "fun f(p) \x7b fun g() \x7b\x7d return g; g == f(true); \x7d" =
        .ok [ownResult] := by cbv
  have readCall : Program.ofSource
      "fun f(p) \x7b fun g() \x7b\x7d return g; g == f(true); \x7d f(true);" =
        .ok [ownResult, ownCall] := by cbv
  have accepted : Program.verdict [ownResult, ownCall] 30 = .accepted := by cbv
  have rejected : Program.verdict [ownResult] 30 = .rejected .checking [("T001", ⟨0, 34⟩)] := by
    cbv
  obtain ⟨diagnostics, reports, spots⟩ := reports_of_verdict_rejected rejected
  have none := alone _ _ [] _ _ _ _ _ _ read readCall rfl rfl (by simpa using .literal)
    (reports_of_verdict_accepted accepted)
  rw [rightUnique_reports _ reports none] at spots
  cases spots

end Typing

end CheckedScript
