import CheckedScript.Proofs.Anchors.Computations
import CheckedScript.Proofs.Anchors.Trees
import CheckedScript.Typing.Check

/-!
# What checks are about

A check of a program keeps trees and tokens of that program only: the declared functions,
the tokens of the returns met so far and the tokens that diagnostics are charged to are all
drawn from its tokens.
-/

namespace CheckedScript

namespace Typing

variable (tokens : List Token)

/-- A declared function over some tokens. -/
structure DeclaredFunction.DrawnFrom (function : DeclaredFunction) : Prop where
  name : function.name.IsNameOf tokens
  parameters : ∀ parameter ∈ function.parameters, parameter.IsNameOf tokens
  body : function.body.DrawnFrom tokens

/-- A state of a check over some tokens. -/
structure State.DrawnFrom (state : State) : Prop where
  diagnostics : ∀ diagnostic ∈ state.diagnostics, diagnostic.DrawnFrom tokens
  functions : ∀ function ∈ state.functions, function.DrawnFrom tokens
  returns : ∀ activation ∈ state.activations, ∀ returned ∈ activation.returns,
    returned.2 ∈ tokens

/-- A reason to stop that is charged to one of some tokens. -/
def Stop.DrawnFrom : Stop → Prop
  | .failed diagnostic => diagnostic.DrawnFrom tokens
  | .reported | .faulted _ | .exhausted => True

/-- What is known of a check of a program over some tokens. -/
def guard : Guard Stop State where
  stop := Stop.DrawnFrom tokens
  state := State.DrawnFrom tokens

variable {tokens}

namespace State.DrawnFrom

variable {state : State}

theorem report (drawn : state.DrawnFrom tokens) {diagnostic : Diagnostic}
    (charged : diagnostic.DrawnFrom tokens) : (state.report diagnostic).DrawnFrom tokens := by
  unfold State.report
  split
  · exact drawn
  · exact ⟨List.forall_mem_append.2 ⟨drawn.diagnostics, List.forall_mem_singleton.2 charged⟩,
      drawn.functions, drawn.returns⟩

theorem reports {diagnostics : List Diagnostic} (drawn : state.DrawnFrom tokens)
    (charged : ∀ diagnostic ∈ diagnostics, diagnostic.DrawnFrom tokens) :
    (diagnostics.foldl State.report state).DrawnFrom tokens := by
  induction diagnostics generalizing state with
  | nil => exact drawn
  | cons diagnostic diagnostics inductionHypothesis =>
      obtain ⟨first, others⟩ := List.forall_mem_cons.1 charged
      exact inductionHypothesis (drawn.report first) others

theorem bind (drawn : state.DrawnFrom tokens) (frame : FrameId) (name : String) (type : Ty) :
    (state.bind frame name type).DrawnFrom tokens :=
  ⟨drawn.diagnostics, drawn.functions, drawn.returns⟩

theorem note (drawn : state.DrawnFrom tokens) (place : Place) (expr : Expr) (type : Ty) :
    (state.note place expr type).DrawnFrom tokens :=
  ⟨drawn.diagnostics, drawn.functions, drawn.returns⟩

theorem declare (drawn : state.DrawnFrom tokens) (frame : FrameId) (place : Place) {name : Token}
    {parameters : List Token} {body : Block} (isName : name.IsNameOf tokens)
    (areNames : ∀ parameter ∈ parameters, parameter.IsNameOf tokens)
    (drawnBody : body.DrawnFrom tokens) :
    (state.declare frame place name parameters body).DrawnFrom tokens := by
  refine ⟨drawn.diagnostics, fun function member => ?_, drawn.returns⟩
  rcases Array.mem_push.1 member with before | rfl
  · exact drawn.functions function before
  · exact ⟨isName, areNames, drawnBody⟩

theorem addReturn (drawn : state.DrawnFrom tokens) (type : Ty) {keyword : Token}
    (member : keyword ∈ tokens) : (state.addReturn type keyword).DrawnFrom tokens := by
  have returns := drawn.returns
  unfold State.addReturn
  cases shape : state.activations with
  | nil => exact drawn
  | cons activation activations =>
      rw [shape] at returns
      obtain ⟨first, others⟩ := List.forall_mem_cons.1 returns
      refine ⟨drawn.diagnostics, drawn.functions, List.forall_mem_cons.2 ⟨?_, others⟩⟩
      exact List.forall_mem_append.2 ⟨first, List.forall_mem_singleton.2 member⟩

theorem setInstance (drawn : state.DrawnFrom tokens) (identifier : Nat) (key : InstanceKey)
    (result : Ty) : (state.setInstance identifier key result).DrawnFrom tokens := by
  refine ⟨drawn.diagnostics, fun function member => ?_, drawn.returns⟩
  obtain ⟨index, found⟩ := Array.mem_iff_getElem?.1 member
  rw [State.setInstance, Array.getElem?_modify] at found
  split at found
  · cases shape : state.functions[index]? with
    | none => simp [shape] at found
    | some before =>
        have known := drawn.functions before (Array.mem_of_getElem? shape)
        simp only [shape, Option.map_some, Option.some.injEq] at found
        subst found
        exact ⟨known.name, known.parameters, known.body⟩
  · exact drawn.functions function (Array.mem_of_getElem? found)

end State.DrawnFrom

theorem drawnFrom_of_declaration {functions : Array DeclaredFunction} {name : String}
    {identifier : Nat} {function : DeclaredFunction}
    (drawn : ∀ function ∈ functions, function.DrawnFrom tokens)
    (found : declaration functions name identifier = .ok function) :
    function.DrawnFrom tokens := by
  unfold declaration at found
  split at found
  · next known =>
      cases found
      exact drawn _ (Array.mem_of_getElem? known)
  · cases found

theorem drawnFrom_returnMismatches {name : String} {result : Ty} {returns : List (Ty × Token)}
    (members : ∀ returned ∈ returns, returned.2 ∈ tokens) :
    ∀ diagnostic ∈ returnMismatches name result returns, diagnostic.DrawnFrom tokens := by
  intro diagnostic member
  obtain ⟨returned, kept, rfl⟩ := List.mem_map.1 member
  exact members returned ((List.mem_filter.1 kept).1)

end Typing

namespace Check

open Typing

variable {tokens : List Token} {α : Type} {fits : α → Prop}

section Steps

theorem keeps_fail (cause : Cause) {token : Token} (member : token ∈ tokens) :
    (guard tokens).Keeps fits (fail cause token) :=
  .throw member

theorem keeps_report (cause : Cause) {token : Token} (member : token ∈ tokens) :
    (guard tokens).Keeps (fun _ => True) (report cause token) :=
  .modify fun _ drawn => drawn.report member

theorem keeps_orFault {result : Except Fault α} (holds : ∀ value, result = .ok value → fits value) :
    (guard tokens).Keeps fits (orFault result) := by
  cases result with
  | ok value => exact .pure (holds value rfl)
  | error fault => exact .throw trivial

theorem keeps_reporting {check : Check α} (keeps : (guard tokens).Keeps fits check) :
    (guard tokens).Keeps (fun found => ∀ value ∈ found, fits value) (reporting check) := by
  intro state drawn
  have ended := keeps state drawn
  unfold reporting
  cases equation : check state with
  | ok value after =>
      rw [equation] at ended
      exact ⟨by simpa using ended.1, ended.2⟩
  | error stop after =>
      rw [equation] at ended
      cases stop with
      | failed diagnostic => exact ⟨by simp, ended.2.report ended.1⟩
      | reported => exact ⟨by simp, ended.2⟩
      | faulted | exhausted => exact ended

theorem keeps_onFailure {check : Check α} {change : State → State}
    (keeps : (guard tokens).Keeps fits check)
    (changes : ∀ state : State, state.DrawnFrom tokens → (change state).DrawnFrom tokens) :
    (guard tokens).Keeps fits (onFailure check change) := by
  intro state drawn
  have ended := keeps state drawn
  unfold onFailure
  cases equation : check state with
  | ok value after =>
      rw [equation] at ended
      exact ended
  | error stop after =>
      rw [equation] at ended
      cases stop with
      | failed | reported => exact ⟨ended.1, changes _ ended.2⟩
      | faulted | exhausted => exact ended

theorem keeps_nest (frame : FrameId) : (guard tokens).Keeps (fun _ => True) (nest frame) :=
  fun _ drawn => ⟨trivial, drawn.diagnostics, drawn.functions, drawn.returns⟩

theorem keeps_define (frame : FrameId) (bindings : Bindings Ty) :
    (guard tokens).Keeps (fun _ => True) (define frame bindings) :=
  .modify fun _ drawn => ⟨drawn.diagnostics, drawn.functions, drawn.returns⟩

theorem keeps_bind (frame : FrameId) (name : String) (type : Ty) :
    (guard tokens).Keeps (fun _ => True) (bind frame name type) :=
  .modify fun _ drawn => drawn.bind frame name type

theorem keeps_lookup? (frame : FrameId) (name : String) :
    (guard tokens).Keeps (fun _ => True) (lookup? frame name) :=
  .get fun _ _ => .pure trivial

end Steps

variable (tokens)

/-- Checks of parts of a program keep what is known of it. -/
structure ChecksKeep (fuel : Nat) : Prop where
  typeOf : ∀ frame place expr, expr.DrawnFrom tokens →
    (guard tokens).Keeps (fun _ => True) (typeOf fuel frame place expr)
  typesOf : ∀ frame place step exprs, Expr.AreDrawnFrom tokens exprs →
    (guard tokens).Keeps (fun _ => True) (typesOf fuel frame place step exprs)
  infer : ∀ frame place expr, expr.DrawnFrom tokens →
    (guard tokens).Keeps (fun _ => True) (infer fuel frame place expr)
  callType : ∀ callee arguments, ∀ paren ∈ tokens,
    (guard tokens).Keeps (fun _ => True) (callType fuel callee arguments paren)
  instantiate : ∀ name identifier arguments, ∀ anchor ∈ tokens,
    (guard tokens).Keeps (fun _ => True) (instantiate fuel name identifier arguments anchor)
  checkBody : ∀ identifier arguments function frame, function.DrawnFrom tokens →
    (guard tokens).Keeps (fun results => ∀ returned ∈ results, returned.2 ∈ tokens)
      (checkBody fuel identifier arguments function frame)
  checkStmt : ∀ frame place stmt, stmt.DrawnFrom tokens →
    (guard tokens).Keeps (fun _ => True) (checkStmt fuel frame place stmt)
  checkLet : ∀ frame place name declared initializer, name ∈ tokens →
    initializer.DrawnFrom tokens →
    (guard tokens).Keeps (fun _ => True) (checkLet fuel frame place name declared initializer)
  checkAll : ∀ frame place step stmts, Stmt.AreDrawnFrom tokens stmts →
    (guard tokens).Keeps (fun _ => True) (checkAll fuel frame place step stmts)
  checkBlock : ∀ frame place body, body.DrawnFrom tokens →
    (guard tokens).Keeps (fun _ => True) (checkBlock fuel frame place body)
  checkCondition : ∀ frame place keyword condition, keyword ∈ tokens →
    condition.DrawnFrom tokens →
    (guard tokens).Keeps (fun _ => True) (checkCondition fuel frame place keyword condition)
  checkBound : ∀ frame place token bound, token ∈ tokens → bound.DrawnFrom tokens →
    (guard tokens).Keeps (fun _ => True) (checkBound fuel frame place token bound)

variable {tokens} {fuel : Nat}

theorem keeps_typeOf_succ (keep : ChecksKeep tokens fuel) (frame : FrameId) (place : Place)
    (expr : Expr) (drawn : expr.DrawnFrom tokens) :
    (guard tokens).Keeps (fun _ => True) (typeOf (fuel + 1) frame place expr) :=
  (keep.infer frame place expr drawn).bind fun type _ =>
    .bind (.modify fun _ known => known.note place expr type) fun _ _ => .pure trivial

theorem keeps_typesOf_succ (keep : ChecksKeep tokens fuel) (frame : FrameId) (place : Place)
    (step : Nat) (exprs : List Expr) (drawn : Expr.AreDrawnFrom tokens exprs) :
    (guard tokens).Keeps (fun _ => True) (typesOf (fuel + 1) frame place step exprs) := by
  cases exprs with
  | nil => exact .pure trivial
  | cons expr exprs =>
      exact (keep.typeOf _ _ _ drawn.1).bind fun _ _ =>
        (keep.typesOf _ _ _ _ drawn.2).bind fun _ _ => .pure trivial

theorem keeps_infer_succ (keep : ChecksKeep tokens fuel) (frame : FrameId) (place : Place)
    (expr : Expr) (drawn : expr.DrawnFrom tokens) :
    (guard tokens).Keeps (fun _ => True) (infer (fuel + 1) frame place expr) := by
  cases expr with
  | literal value token => exact .pure trivial
  | reference name =>
      refine (keeps_lookup? _ _).bind fun found _ => ?_
      cases found with
      | some type => exact .pure trivial
      | none => exact keeps_fail _ drawn.1
  | assign name value =>
      refine (keep.typeOf _ _ _ drawn.2).bind fun type _ => (keeps_lookup? _ _).bind fun found _ => ?_
      cases found with
      | none => exact keeps_fail _ drawn.1.1
      | some declared =>
          dsimp only
          split
          · exact .pure trivial
          · exact keeps_fail _ drawn.1.1
  | group inner => exact keep.typeOf _ _ _ drawn
  | tuple items => exact (keep.typesOf _ _ _ _ drawn).bind fun _ _ => .pure trivial
  | unary operator token operand =>
      refine (keep.typeOf _ _ _ drawn.2).bind fun found _ => ?_
      cases unaryType? operator found with
      | some result => exact .pure trivial
      | none => exact keeps_fail _ drawn.1
  | binary operator token left right =>
      refine (keep.typeOf _ _ _ drawn.2.1).bind fun leftType _ =>
        (keep.typeOf _ _ _ drawn.2.2).bind fun rightType _ => ?_
      cases binaryType? operator leftType rightType with
      | some result => exact .pure trivial
      | none => exact keeps_fail _ drawn.1
  | logical operator token left right =>
      refine (keep.typeOf _ _ _ drawn.2.1).bind fun leftType _ =>
        (keep.typeOf _ _ _ drawn.2.2).bind fun rightType _ => ?_
      split
      · exact .pure trivial
      · exact keeps_fail _ drawn.1
  | call callee paren arguments =>
      exact (keep.typeOf _ _ _ drawn.1).bind fun calleeType _ =>
        (keep.typesOf _ _ _ _ drawn.2.2).bind fun types _ =>
          keep.callType calleeType types paren drawn.2.1

theorem keeps_callType_succ (keep : ChecksKeep tokens fuel) (callee : Ty) (arguments : List Ty)
    (paren : Token) (member : paren ∈ tokens) :
    (guard tokens).Keeps (fun _ => True) (callType (fuel + 1) callee arguments paren) := by
  cases callee with
  | native name parameters result =>
      unfold callType
      dsimp only
      cases nativeCallType name parameters result arguments with
      | ok type => exact .pure trivial
      | error cause => exact keeps_fail _ member
  | function name identifier =>
      refine .get fun state _ => .bind (keeps_orFault fun _ _ => trivial) fun expected (_ : True) => ?_
      split
      · exact keep.instantiate _ _ _ _ member
      · exact keeps_fail _ member
  | unknown => exact .pure trivial
  | bareNative => exact .throw trivial
  | number | text | bool | displayable | tuple => exact keeps_fail _ member

theorem keeps_instantiate_succ (keep : ChecksKeep tokens fuel) (name : String) (identifier : Nat)
    (arguments : List Ty) (anchor : Token) (member : anchor ∈ tokens) :
    (guard tokens).Keeps (fun _ => True)
      (instantiate (fuel + 1) name identifier arguments anchor) := by
  refine .get fun state drawn => .bind (keeps_orFault fun function found =>
    drawnFrom_of_declaration drawn.functions found) fun function drawnFunction => ?_
  dsimp only
  split
  · exact .pure trivial
  · split
    · split
      · exact .pure trivial
      · split
        · exact .pure trivial
        · exact keeps_fail _ member
    · split
      · exact keeps_fail _ member
      · refine (keeps_nest _).bind fun frame _ => (keeps_define _ _).bind fun _ _ => ?_
        refine (keep.checkBody _ _ _ _ drawnFunction).bind fun results members => ?_
        refine .bind (.modify fun _ known => ?_) fun _ _ => .pure trivial
        exact (known.reports (drawnFrom_returnMismatches members)).setInstance _ _ _

/-- What is left of the check of a body once its statements and its end are checked. -/
theorem keeps_leaving {function : DeclaredFunction} (drawn : function.DrawnFrom tokens)
    (fallThrough : Option Ty) :
    (guard tokens).Keeps (fun results => ∀ returned ∈ results, returned.2 ∈ tokens) (do
      let state ← get
      let returns := (state.activations.head?.map (·.returns)).getD []
      set { state with activations := state.activations.tail }
      match fallThrough with
      | some type =>
          if blockReturns function.body then
            return returns
          else
            return returns ++ [(type, function.name)]
      | none => return returns) := by
  refine .get fun state known => ?_
  have members : ∀ returned ∈ (state.activations.head?.map (·.returns)).getD [],
      returned.2 ∈ tokens := by
    have returns := known.returns
    cases shape : state.activations with
    | nil => simp
    | cons activation activations =>
        rw [shape] at returns
        exact (List.forall_mem_cons.1 returns).1
  have left : State.DrawnFrom tokens { state with activations := state.activations.tail } :=
    ⟨known.diagnostics, known.functions, fun activation member =>
      known.returns activation (List.mem_of_mem_tail member)⟩
  refine .bind (.set left) fun _ _ => ?_
  cases fallThrough with
  | none => exact .pure members
  | some type =>
      dsimp only
      split
      · exact .pure members
      · exact .pure (List.forall_mem_append.2
          ⟨members, List.forall_mem_singleton.2 drawn.name.1⟩)

theorem keeps_checkBody_succ (keep : ChecksKeep tokens fuel) (identifier : Nat)
    (arguments : List Ty) (function : DeclaredFunction) (frame : FrameId)
    (drawn : function.DrawnFrom tokens) :
    (guard tokens).Keeps (fun results => ∀ returned ∈ results, returned.2 ∈ tokens)
      (checkBody (fuel + 1) identifier arguments function frame) := by
  refine .bind (.modify fun state known => ?_) fun _ _ => ?_
  · exact ⟨known.diagnostics, known.functions, List.forall_mem_cons.2 ⟨by simp, known.returns⟩⟩
  refine (keep.checkAll _ _ _ _ drawn.body.statements).bind fun _ _ => ?_
  cases shape : function.body.tail with
  | none => exact keeps_leaving drawn (some .unit)
  | some tail =>
      exact (keeps_reporting (keep.typeOf _ _ _ (drawn.body.tail tail shape))).bind fun found _ =>
        keeps_leaving drawn found

theorem keeps_checkStmt_succ (keep : ChecksKeep tokens fuel) (frame : FrameId) (place : Place)
    (stmt : Stmt) (drawn : stmt.DrawnFrom tokens) :
    (guard tokens).Keeps (fun _ => True) (checkStmt (fuel + 1) frame place stmt) := by
  cases stmt with
  | expression value => exact keep.typeOf _ _ _ drawn
  | letValue name declared initializer =>
      exact (keep.checkLet _ _ _ _ _ drawn.1.1 drawn.2).bind fun _ _ => .pure trivial
  | block body => exact keep.checkBlock _ _ _ drawn
  | ifThen keyword condition consequent =>
      exact (keep.checkCondition _ _ _ _ drawn.1 drawn.2.1).bind fun _ _ =>
        (keep.checkBlock _ _ _ drawn.2.2).bind fun _ _ => .pure trivial
  | ifElse keyword condition consequent alternative =>
      exact (keep.checkCondition _ _ _ _ drawn.1 drawn.2.1).bind fun _ _ =>
        (keep.checkBlock _ _ _ drawn.2.2.1).bind fun _ _ =>
          (keep.checkStmt _ _ _ drawn.2.2.2).bind fun _ _ => .pure trivial
  | whileLoop keyword condition body =>
      exact (keep.checkCondition _ _ _ _ drawn.1 drawn.2.1).bind fun _ _ =>
        (keep.checkBlock _ _ _ drawn.2.2).bind fun _ _ => .pure trivial
  | forLoop name bounds body =>
      obtain ⟨isName, drawnBounds, drawnBody⟩ := drawn
      have turns : (guard tokens).Keeps (fun _ => True) (do
          checkBound fuel frame (place.child 2) bounds.token bounds.stop
          let inner ← nest frame
          define inner [(name.lexeme, .number)]
          let _ ← checkBlock fuel inner (place.child 3) body
          return Ty.unit) :=
        (keep.checkBound _ _ _ _ drawnBounds.token drawnBounds.stop).bind fun _ _ =>
          (keeps_nest _).bind fun inner _ => (keeps_define _ _).bind fun _ _ =>
            (keep.checkBlock _ _ _ drawnBody).bind fun _ _ => .pure trivial
      refine (keep.checkBound _ _ _ _ drawnBounds.token drawnBounds.start).bind fun _ _ => ?_
      cases shape : bounds.step with
      | none => exact turns
      | some step =>
          exact (keep.checkBound _ _ _ _ drawnBounds.token (drawnBounds.step step shape)).bind
            fun _ _ => turns
  | function name parameters body =>
      exact .bind (.modify fun _ known => known.declare _ _ drawn.1 drawn.2.1 drawn.2.2)
        fun _ _ => .pure trivial
  | giveBack keyword value =>
      have returns : ∀ type, (guard tokens).Keeps (fun _ => True) (do
          modify fun state => state.addReturn type keyword
          return Ty.unit) := fun type =>
        .bind (.modify fun _ known => known.addReturn type drawn.1) fun _ _ => .pure trivial
      refine .get fun state _ => ?_
      split
      · exact keeps_fail _ drawn.1
      · cases value with
        | none => exact returns .unit
        | some value =>
            exact (keep.typeOf _ _ _ (drawn.2 value rfl)).bind fun type _ => returns type

theorem keeps_checkLet_succ (keep : ChecksKeep tokens fuel) (frame : FrameId) (place : Place)
    (name : Token) (declared : Option Ty) (initializer : Expr) (member : name ∈ tokens)
    (drawn : initializer.DrawnFrom tokens) :
    (guard tokens).Keeps (fun _ => True)
      (checkLet (fuel + 1) frame place name declared initializer) := by
  cases declared with
  | none => exact (keep.typeOf _ _ _ drawn).bind fun found _ => keeps_bind _ _ _
  | some type =>
      refine (keeps_onFailure (keep.typeOf _ _ _ drawn) fun _ known => known.bind _ _ _).bind
        fun found _ => (keeps_bind _ _ _).bind fun _ _ => ?_
      split
      · exact keeps_fail _ member
      · exact .pure trivial

theorem keeps_checkAll_succ (keep : ChecksKeep tokens fuel) (frame : FrameId) (place : Place)
    (step : Nat) (stmts : List Stmt) (drawn : Stmt.AreDrawnFrom tokens stmts) :
    (guard tokens).Keeps (fun _ => True) (checkAll (fuel + 1) frame place step stmts) := by
  cases stmts with
  | nil => exact .pure trivial
  | cons stmt stmts =>
      exact (keeps_reporting (keep.checkStmt _ _ _ drawn.1)).bind fun _ _ =>
        keep.checkAll _ _ _ _ drawn.2

theorem keeps_checkBlock_succ (keep : ChecksKeep tokens fuel) (frame : FrameId) (place : Place)
    (body : Block) (drawn : body.DrawnFrom tokens) :
    (guard tokens).Keeps (fun _ => True) (checkBlock (fuel + 1) frame place body) := by
  obtain ⟨brace, statements, tail⟩ := body
  refine (keeps_nest _).bind fun inner _ => (keep.checkAll _ _ _ _ drawn.2.1).bind fun _ _ => ?_
  cases tail with
  | none => exact .pure trivial
  | some tail =>
      refine (keeps_reporting (keep.typeOf _ _ _ (drawn.2.2 tail rfl))).bind fun found _ => ?_
      cases found with
      | some type => exact .pure trivial
      | none => exact .throw trivial

theorem keeps_checkCondition_succ (keep : ChecksKeep tokens fuel) (frame : FrameId)
    (place : Place) (keyword : Token) (condition : Expr) (member : keyword ∈ tokens)
    (drawn : condition.DrawnFrom tokens) :
    (guard tokens).Keeps (fun _ => True)
      (checkCondition (fuel + 1) frame place keyword condition) := by
  refine (keeps_reporting (keep.typeOf _ _ _ drawn)).bind fun found _ => ?_
  cases found with
  | none => exact .pure trivial
  | some type =>
      dsimp only
      split
      · exact keeps_report _ member
      · exact .pure trivial

theorem keeps_checkBound_succ (keep : ChecksKeep tokens fuel) (frame : FrameId) (place : Place)
    (token : Token) (bound : Expr) (member : token ∈ tokens) (drawn : bound.DrawnFrom tokens) :
    (guard tokens).Keeps (fun _ => True) (checkBound (fuel + 1) frame place token bound) := by
  refine (keep.typeOf _ _ _ drawn).bind fun found _ => ?_
  split
  · exact keeps_fail _ member
  · exact .pure trivial

theorem checksKeep (tokens : List Token) (fuel : Nat) : ChecksKeep tokens fuel := by
  induction fuel with
  | zero => constructor <;> intros <;> exact .throw trivial
  | succ fuel keep =>
      exact
        { typeOf := keeps_typeOf_succ keep
          typesOf := keeps_typesOf_succ keep
          infer := keeps_infer_succ keep
          callType := keeps_callType_succ keep
          instantiate := keeps_instantiate_succ keep
          checkBody := keeps_checkBody_succ keep
          checkStmt := keeps_checkStmt_succ keep
          checkLet := keeps_checkLet_succ keep
          checkAll := keeps_checkAll_succ keep
          checkBlock := keeps_checkBlock_succ keep
          checkCondition := keeps_checkCondition_succ keep
          checkBound := keeps_checkBound_succ keep }

theorem keeps_checkStatements (fuel : Nat) (frame : FrameId) (place : Place) (step : Nat)
    (last : Ty) {stmts : List Stmt} (drawn : Stmt.AreDrawnFrom tokens stmts) :
    (guard tokens).Keeps (fun _ => True) (checkStatements fuel frame place step last stmts) := by
  induction stmts generalizing step last with
  | nil => exact .pure trivial
  | cons stmt stmts inductionHypothesis =>
      exact (keeps_reporting ((checksKeep tokens fuel).checkStmt _ _ _ drawn.1)).bind fun _ _ =>
        inductionHypothesis _ _ drawn.2

theorem keeps_checkUncalled (fuel identifier : Nat) :
    (guard tokens).Keeps (fun _ => True) (checkUncalled fuel identifier) := by
  induction fuel generalizing identifier with
  | zero => exact .throw trivial
  | succ fuel keep =>
      refine .get fun state known => ?_
      cases shape : state.functions[identifier]? with
      | none => exact .pure trivial
      | some function =>
          have drawn := known.functions function (Array.mem_of_getElem? shape)
          dsimp only
          split
          · exact (keeps_reporting ((checksKeep tokens fuel).instantiate _ _ _ _ drawn.name.1)).bind
              fun _ _ => keep _
          · exact keep _

theorem keeps_checkProgram (fuel : Nat) (natives : Bindings Signature) {program : Program}
    (drawn : Stmt.AreDrawnFrom tokens program) :
    (guard tokens).Keeps (fun _ => True) (checkProgram fuel natives program) :=
  .get fun _ known => .bind (.set ⟨known.diagnostics, known.functions, known.returns⟩) fun _ _ =>
    (keeps_checkStatements _ _ _ _ _ drawn).bind fun _ _ =>
      (keeps_checkUncalled _ _).bind fun _ _ => .pure trivial

end Check

/-- A program is rejected by a check for faults at its own tokens. -/
theorem Typing.State.check_drawnFrom {tokens : List Token} {program : Program}
    (drawn : Stmt.AreDrawnFrom tokens program) {fuel : Nat} {natives : Bindings Signature}
    {rejection : Rejection}
    (rejected : (({} : Typing.State).check fuel natives program).1 = .rejected rejection) :
    ∀ diagnostic ∈ rejection.diagnostics, diagnostic.DrawnFrom tokens := by
  have start : Typing.State.DrawnFrom tokens {} := ⟨by simp, by simp, by simp⟩
  have ended := Check.keeps_checkProgram fuel natives drawn {} start
  unfold check at rejected
  cases equation : Check.checkProgram fuel natives program {} with
  | ok type after =>
      rw [equation] at ended rejected
      dsimp only at rejected
      cases clean : after.diagnostics.isEmpty with
      | true => simp [clean] at rejected
      | false =>
          simp only [clean] at rejected
          cases rejected
          exact ended.2.diagnostics
  | error stop after =>
      rw [equation] at rejected
      cases stop <;> cases rejected

end CheckedScript
