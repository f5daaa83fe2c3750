import CheckedScript.Proofs.Recovery.Conditions
import CheckedScript.Proofs.Sessions
import CheckedScript.Run
import Mathlib

/-!
# Faults in conditions hide nothing

A fault in the condition of a branch or a loop is reported, and the check goes on behind the
condition as if it had been a truth value.  So two programs that differ in conditions only
have the same diagnostics, those apart that are charged to the conditions themselves.
-/

namespace CheckedScript

namespace Typing

variable {hidden : Position → Bool}

mutual

theorem alwaysReturns_alike {stmt other : Stmt} (alike : stmt.Alike hidden other) :
    alwaysReturns stmt = alwaysReturns other := by
  cases alike with
  | block body => exact blockReturns_alike body
  | ifElse _ consequent alternative =>
      rw [alwaysReturns, alwaysReturns, blockReturns_alike consequent,
        alwaysReturns_alike alternative]
  | _ => rfl

theorem blockReturns_alike {body other : Block} (alike : body.Alike hidden other) :
    blockReturns body = blockReturns other := by
  cases alike with
  | mk _ _ statements => exact anyReturns_alike statements

theorem anyReturns_alike {stmts others : List Stmt} (alike : Program.Alike hidden stmts others) :
    anyReturns stmts = anyReturns others := by
  cases alike with
  | nil => rfl
  | cons stmt stmts =>
      rw [anyReturns, anyReturns, alwaysReturns_alike stmt, anyReturns_alike stmts]

end

end Typing

theorem Block.sizeOf_statements_le (body : Block) : sizeOf body.statements ≤ sizeOf body := by
  cases body
  simp only [Block.statements, Block.mk.sizeOf_spec]
  omega

namespace Check

open Typing

variable (hidden : Position → Bool) (room : Nat)

/-- Checks of alike parts of two programs come to the same end, if the bound of the second one
leaves room for its conditions. -/
structure ChecksAgree (fuel larger : Nat) : Prop where
  enough : room ≤ larger
  typeOf : ∀ frame place expr,
    Agree hidden room (typeOf fuel frame place expr) (typeOf larger frame place expr)
  typesOf : ∀ frame place step exprs,
    Agree hidden room (typesOf fuel frame place step exprs) (typesOf larger frame place step exprs)
  infer : ∀ frame place expr,
    Agree hidden room (infer fuel frame place expr) (infer larger frame place expr)
  callType : ∀ callee arguments paren,
    Agree hidden room (callType fuel callee arguments paren)
      (callType larger callee arguments paren)
  instantiate : ∀ name identifier arguments anchor,
    Agree hidden room (instantiate fuel name identifier arguments anchor)
      (instantiate larger name identifier arguments anchor)
  checkBody : ∀ identifier arguments {function other} frame,
    function.Alike hidden room other →
      Agree hidden room (checkBody fuel identifier arguments function frame)
        (checkBody larger identifier arguments other frame)
  checkStmt : ∀ frame place {stmt other}, stmt.Alike hidden other → 2 * sizeOf other ≤ room →
    Agree hidden room (checkStmt fuel frame place stmt) (checkStmt larger frame place other)
  checkLet : ∀ frame place name declared initializer,
    Agree hidden room (checkLet fuel frame place name declared initializer)
      (checkLet larger frame place name declared initializer)
  checkAll : ∀ frame place step {stmts others}, Program.Alike hidden stmts others →
    2 * sizeOf others ≤ room →
    Agree hidden room (checkAll fuel frame place step stmts)
      (checkAll larger frame place step others)
  checkBlock : ∀ frame place {body other}, body.Alike hidden other → 2 * sizeOf other ≤ room →
    Agree hidden room (checkBlock fuel frame place body) (checkBlock larger frame place other)
  checkCondition : ∀ frame place {keyword condition other},
    Expr.IsReplaced hidden keyword condition other → 2 * sizeOf other ≤ room →
    Agree hidden room (checkCondition fuel frame place keyword condition)
      (checkCondition larger frame place keyword other)
  checkBound : ∀ frame place token bound,
    Agree hidden room (checkBound fuel frame place token bound)
      (checkBound larger frame place token bound)

variable {hidden room} {fuel larger : Nat}

namespace ChecksAgree

theorem typeOf_succ (agree : ChecksAgree hidden room fuel larger) (frame : FrameId)
    (place : Place) (expr : Expr) :
    Agree hidden room (Check.typeOf (fuel + 1) frame place expr)
      (Check.typeOf (larger + 1) frame place expr) :=
  (agree.infer frame place expr).bind fun type =>
    .bind (.modify fun _ _ alike => alike.note place expr type) fun _ => .pure type

theorem typesOf_succ (agree : ChecksAgree hidden room fuel larger) (frame : FrameId)
    (place : Place) (step : Nat) (exprs : List Expr) :
    Agree hidden room (Check.typesOf (fuel + 1) frame place step exprs)
      (Check.typesOf (larger + 1) frame place step exprs) := by
  cases exprs with
  | nil => exact .pure []
  | cons expr exprs =>
      exact (agree.typeOf _ _ expr).bind fun type =>
        (agree.typesOf _ _ _ exprs).bind fun types => .pure (type :: types)

theorem infer_succ (agree : ChecksAgree hidden room fuel larger) (frame : FrameId)
    (place : Place) (expr : Expr) :
    Agree hidden room (Check.infer (fuel + 1) frame place expr)
      (Check.infer (larger + 1) frame place expr) := by
  have part := fun step expr => agree.typeOf frame (place.child step) expr
  cases expr with
  | literal value token => exact .pure _
  | reference name =>
      refine (Agree.lookup? _ _).bind fun found => ?_
      cases found with
      | some type => exact .pure type
      | none => exact .fail _ _
  | assign name value =>
      refine (part 0 value).bind fun found => (Agree.lookup? _ _).bind fun declared => ?_
      cases declared with
      | none => exact .fail _ _
      | some declared =>
          dsimp only
          split
          · exact .pure declared
          · exact .fail _ _
  | group inner => exact part 0 inner
  | tuple items => exact (agree.typesOf _ _ _ items).bind fun types => .pure (Ty.tuple types)
  | unary operator token operand =>
      refine (part 0 operand).bind fun found => ?_
      split
      · exact .pure _
      · exact .fail _ _
  | binary operator token left right =>
      refine (part 0 left).bind fun leftType => (part 1 right).bind fun rightType => ?_
      split
      · exact .pure _
      · exact .fail _ _
  | logical operator token left right =>
      refine (part 0 left).bind fun leftType => (part 1 right).bind fun rightType => ?_
      split
      · exact .pure _
      · exact .fail _ _
  | call callee paren arguments =>
      exact (part 0 callee).bind fun calleeType =>
        (agree.typesOf _ _ _ arguments).bind fun types => agree.callType calleeType types paren

/-- What is done with the declaration behind a function type. -/
theorem agree_declaration {α : Type} {functions others : Array DeclaredFunction}
    (alike : PairedArrays (DeclaredFunction.Alike hidden room) functions others) (name : String)
    (identifier : Nat) {next further : DeclaredFunction → Check α}
    (late : ∀ function other, function.Alike hidden room other →
      Agree hidden room (next function) (further other)) :
    Agree hidden room (orFault (declaration functions name identifier) >>= next)
      (orFault (declaration others name identifier) >>= further) := by
  have found := alike.item identifier
  unfold declaration
  generalize functions[identifier]? = first, others[identifier]? = second at found
  cases found with
  | none => exact fun _ _ states => .error states
  | some function => exact late _ _ function

theorem arity_alike {functions others : Array DeclaredFunction}
    (alike : PairedArrays (DeclaredFunction.Alike hidden room) functions others) (name : String)
    (identifier : Nat) : arity functions name identifier = arity others name identifier := by
  have found := alike.item identifier
  unfold arity declaration
  generalize functions[identifier]? = first, others[identifier]? = second at found
  cases found with
  | none => rfl
  | some function => rw [Except.map, Except.map, function.parameters]

theorem callType_succ (agree : ChecksAgree hidden room fuel larger) (callee : Ty)
    (arguments : List Ty) (paren : Token) :
    Agree hidden room (Check.callType (fuel + 1) callee arguments paren)
      (Check.callType (larger + 1) callee arguments paren) := by
  cases callee with
  | function name identifier =>
      refine .get fun state other alike => ?_
      rw [arity_alike alike.functions]
      refine (Agree.orFault _).bind fun expected => ?_
      split
      · exact agree.instantiate _ _ _ _
      · exact .fail _ _
  | native name parameters result =>
      unfold Check.callType
      dsimp only
      split
      · exact .pure _
      · exact .fail _ _
  | unknown => exact .pure _
  | bareNative => exact .throw _
  | number | text | bool | displayable | tuple => exact .fail _ _

theorem instantiate_succ (agree : ChecksAgree hidden room fuel larger) (name : String)
    (identifier : Nat) (arguments : List Ty) (anchor : Token) :
    Agree hidden room (Check.instantiate (fuel + 1) name identifier arguments anchor)
      (Check.instantiate (larger + 1) name identifier arguments anchor) := by
  refine .get fun state other alike =>
    agree_declaration alike.functions name identifier fun function further same => ?_
  rw [alike.activations, alike.generation]
  dsimp only
  rw [same.instances, same.closure, same.parameters]
  split
  · exact .pure _
  · split
    · split
      · exact .pure _
      · split
        · exact .pure _
        · exact .fail _ _
    · split
      · exact .fail _ _
      · refine (Agree.nest _).bind fun frame => (Agree.define _ _).bind fun _ => ?_
        refine (agree.checkBody _ _ frame same).bind fun results => ?_
        refine .bind (.modify fun _ _ after => ?_) fun _ => .pure _
        exact (after.reports _).setInstance _ _ _

/-- What is left of the check of a body once its statements and its end are checked. -/
theorem leaves {function other : DeclaredFunction} (alike : function.Alike hidden room other)
    (fallThrough : Option Ty) :
    Agree hidden room
      (do
        let state ← get
        let returns := (state.activations.head?.map (·.returns)).getD []
        set { state with activations := state.activations.tail }
        match fallThrough with
        | some type =>
            if blockReturns function.body then
              return returns
            else
              return returns ++ [(type, function.name)]
        | none => return returns : Check (List (Ty × Token)))
      (do
        let state ← get
        let returns := (state.activations.head?.map (·.returns)).getD []
        set { state with activations := state.activations.tail }
        match fallThrough with
        | some type =>
            if blockReturns other.body then
              return returns
            else
              return returns ++ [(type, other.name)]
        | none => return returns : Check (List (Ty × Token))) := by
  refine .get fun state second states => ?_
  have left : State.Alike hidden room { state with activations := state.activations.tail }
      { second with activations := second.activations.tail } :=
    { states with activations := congrArg List.tail states.activations }
  refine .bind (.set left) fun _ => ?_
  rw [states.activations, blockReturns_alike alike.body, alike.name]
  split
  · split
    · exact .pure _
    · exact .pure _
  · exact .pure _

theorem checkBody_succ (agree : ChecksAgree hidden room fuel larger) (identifier : Nat)
    (arguments : List Ty) {function other : DeclaredFunction} (frame : FrameId)
    (alike : function.Alike hidden room other) :
    Agree hidden room (Check.checkBody (fuel + 1) identifier arguments function frame)
      (Check.checkBody (larger + 1) identifier arguments other frame) := by
  have statements := alike.body.statements
  have small : 2 * sizeOf other.body.statements ≤ room := by
    have := alike.small
    have := other.body.sizeOf_statements_le
    omega
  refine .bind (.modify fun _ _ states => ?_) fun _ => ?_
  · exact { states with activations := congrArg (_ :: ·) states.activations }
  rw [alike.place]
  refine (agree.checkAll _ _ _ statements small).bind fun _ => ?_
  rw [statements.length_eq, alike.body.tail]
  cases other.body.tail with
  | none => exact leaves alike (some .unit)
  | some tail => exact (agree.typeOf _ _ tail).reporting.bind (leaves alike)

theorem checkLet_succ (agree : ChecksAgree hidden room fuel larger) (frame : FrameId)
    (place : Place) (name : Token) (declared : Option Ty) (initializer : Expr) :
    Agree hidden room (Check.checkLet (fuel + 1) frame place name declared initializer)
      (Check.checkLet (larger + 1) frame place name declared initializer) := by
  have typed := agree.typeOf frame (place.child 0) initializer
  cases declared with
  | none => exact typed.bind fun found => .modify fun _ _ alike => alike.bind _ _ _
  | some type =>
      refine (typed.onFailure fun _ _ alike => alike.bind _ _ _).bind fun found =>
        .bind (.modify fun _ _ alike => alike.bind _ _ _) fun _ => ?_
      split
      · exact .fail _ _
      · exact .pure _

theorem checkAll_succ (agree : ChecksAgree hidden room fuel larger) (frame : FrameId)
    (place : Place) (step : Nat) {stmts others : List Stmt}
    (alike : Program.Alike hidden stmts others) (small : 2 * sizeOf others ≤ room) :
    Agree hidden room (Check.checkAll (fuel + 1) frame place step stmts)
      (Check.checkAll (larger + 1) frame place step others) := by
  cases alike with
  | nil => exact .pure ()
  | cons stmt stmts =>
      simp only [List.cons.sizeOf_spec] at small
      exact (agree.checkStmt _ _ stmt (by omega)).reporting.bind fun _ =>
        agree.checkAll _ _ _ stmts (by omega)

theorem checkBlock_succ (agree : ChecksAgree hidden room fuel larger) (frame : FrameId)
    (place : Place) {body other : Block} (alike : body.Alike hidden other)
    (small : 2 * sizeOf other ≤ room) :
    Agree hidden room (Check.checkBlock (fuel + 1) frame place body)
      (Check.checkBlock (larger + 1) frame place other) := by
  cases alike with
  | mk brace tail statements =>
      simp only [Block.mk.sizeOf_spec] at small
      refine (Agree.nest _).bind fun inner =>
        (agree.checkAll _ _ _ statements (by omega)).bind fun _ => ?_
      rw [statements.length_eq]
      cases tail with
      | none => exact .pure _
      | some tail =>
          refine (agree.typeOf _ _ tail).reporting.bind fun found => ?_
          cases found with
          | some type => exact .pure type
          | none => exact .throw _

theorem checkCondition_succ (agree : ChecksAgree hidden room fuel larger) (frame : FrameId)
    (place : Place) {keyword : Token} {condition other : Expr}
    (replaced : Expr.IsReplaced hidden keyword condition other) (small : 2 * sizeOf other ≤ room) :
    Agree hidden room (Check.checkCondition (fuel + 1) frame place keyword condition)
      (Check.checkCondition (larger + 1) frame place keyword other) := by
  cases replaced with
  | same =>
      refine (agree.typeOf _ _ condition).reporting.bind fun found => ?_
      cases found with
      | none => exact .pure ()
      | some type =>
          dsimp only
          split
          · exact .report _ _
          · exact .pure ()
  | hidden outOfSight first second =>
      intro state further alike
      rcases checkCondition_confined outOfSight first frame place state with
        ⟨after, ended, veiled⟩ | ⟨_, after, ended⟩
      · rcases checkCondition_confined outOfSight second frame place further with
          ⟨later, endedToo, veiledToo⟩ | ⟨few, _⟩
        · rw [ended, endedToo]
          exact .ok (alike.veiled veiled veiledToo)
        · exact absurd (Nat.le_trans small agree.enough) few
      · rw [ended]
        exact .exhausted

theorem checkBound_succ (agree : ChecksAgree hidden room fuel larger) (frame : FrameId)
    (place : Place) (token : Token) (bound : Expr) :
    Agree hidden room (Check.checkBound (fuel + 1) frame place token bound)
      (Check.checkBound (larger + 1) frame place token bound) := by
  refine (agree.typeOf _ _ bound).bind fun type => ?_
  split
  · exact .fail _ _
  · exact .pure ()

theorem checkStmt_succ (agree : ChecksAgree hidden room fuel larger) (frame : FrameId)
    (place : Place) {stmt other : Stmt} (alike : stmt.Alike hidden other)
    (small : 2 * sizeOf other ≤ room) :
    Agree hidden room (Check.checkStmt (fuel + 1) frame place stmt)
      (Check.checkStmt (larger + 1) frame place other) := by
  cases alike with
  | expression value => exact agree.typeOf _ _ value
  | letValue name declared initializer =>
      exact (agree.checkLet _ _ name _ initializer).bind fun _ => .pure _
  | block body =>
      simp only [Stmt.block.sizeOf_spec] at small
      exact agree.checkBlock _ _ body (by omega)
  | ifThen condition consequent =>
      simp only [Stmt.ifThen.sizeOf_spec] at small
      exact (agree.checkCondition _ _ condition (by omega)).bind fun _ =>
        (agree.checkBlock _ _ consequent (by omega)).bind fun _ => .pure _
  | ifElse condition consequent alternative =>
      simp only [Stmt.ifElse.sizeOf_spec] at small
      exact (agree.checkCondition _ _ condition (by omega)).bind fun _ =>
        (agree.checkBlock _ _ consequent (by omega)).bind fun _ =>
          (agree.checkStmt _ _ alternative (by omega)).bind fun _ => .pure _
  | whileLoop condition body =>
      simp only [Stmt.whileLoop.sizeOf_spec] at small
      exact (agree.checkCondition _ _ condition (by omega)).bind fun _ =>
        (agree.checkBlock _ _ body (by omega)).bind fun _ => .pure _
  | @forLoop name bounds body other bodies =>
      simp only [Stmt.forLoop.sizeOf_spec] at small
      have bound := fun step expr => agree.checkBound frame (place.child step) bounds.token expr
      have turns : Agree hidden room
          (do
            Check.checkBound fuel frame (place.child 2) bounds.token bounds.stop
            let inner ← nest frame
            define inner [(name.lexeme, .number)]
            let _ ← Check.checkBlock fuel inner (place.child 3) body
            return Ty.unit)
          (do
            Check.checkBound larger frame (place.child 2) bounds.token bounds.stop
            let inner ← nest frame
            define inner [(name.lexeme, .number)]
            let _ ← Check.checkBlock larger inner (place.child 3) other
            return Ty.unit) :=
        (bound 2 bounds.stop).bind fun _ => (Agree.nest frame).bind fun inner =>
          (Agree.define inner _).bind fun _ =>
            (agree.checkBlock _ _ bodies (by omega)).bind fun _ => .pure _
      refine (bound 0 bounds.start).bind fun _ => ?_
      cases bounds.step with
      | none => exact turns
      | some step => exact (bound 1 step).bind fun _ => turns
  | function name parameters body =>
      simp only [Stmt.function.sizeOf_spec] at small
      exact .bind (.modify fun _ _ alike => alike.declare _ _ _ _ body (by omega))
        fun _ => .pure _
  | giveBack keyword value =>
      have returns : ∀ type : Ty, Agree hidden room
          (do
            modify fun state => state.addReturn type keyword
            return Ty.unit)
          (do
            modify fun state => state.addReturn type keyword
            return Ty.unit) := fun type =>
        .bind (.modify fun _ _ alike => alike.addReturn type keyword) fun _ => .pure _
      refine .get fun state other alike => ?_
      rw [alike.activations]
      split
      · exact .fail _ _
      · cases value with
        | none => exact returns _
        | some value => exact (agree.typeOf _ _ value).bind fun type => returns type

end ChecksAgree

theorem checksAgree (enough : room + fuel ≤ larger) : ChecksAgree hidden room fuel larger := by
  induction fuel generalizing larger with
  | zero =>
      constructor
      case enough => exact enough
      all_goals
        intros
        exact .exhausted
  | succ fuel inductionHypothesis =>
      obtain _ | larger := larger
      · omega
      have agree : ChecksAgree hidden room fuel larger := inductionHypothesis (by omega)
      exact
        { enough := by omega
          typeOf := agree.typeOf_succ
          typesOf := agree.typesOf_succ
          infer := agree.infer_succ
          callType := agree.callType_succ
          instantiate := agree.instantiate_succ
          checkBody := fun identifier arguments _ _ => agree.checkBody_succ identifier arguments
          checkStmt := agree.checkStmt_succ
          checkLet := agree.checkLet_succ
          checkAll := agree.checkAll_succ
          checkBlock := agree.checkBlock_succ
          checkCondition := agree.checkCondition_succ
          checkBound := agree.checkBound_succ }

theorem agree_checkStatements (enough : room + fuel ≤ larger) (frame : FrameId) (place : Place)
    (step : Nat) (last : Ty) {stmts others : List Stmt} (alike : Program.Alike hidden stmts others)
    (small : 2 * sizeOf others ≤ room) :
    Agree hidden room (checkStatements fuel frame place step last stmts)
      (checkStatements larger frame place step last others) := by
  induction alike generalizing step last with
  | nil => exact .pure last
  | cons stmt _ inductionHypothesis =>
      simp only [List.cons.sizeOf_spec] at small
      exact ((checksAgree enough).checkStmt _ _ stmt (by omega)).reporting.bind fun type =>
        inductionHypothesis (step + 1) (type.getD .unit) (by omega)

theorem agree_checkUncalled (enough : room + fuel ≤ larger) (identifier : Nat) :
    Agree hidden room (checkUncalled fuel identifier) (checkUncalled larger identifier) := by
  induction fuel generalizing larger identifier with
  | zero => exact .exhausted
  | succ fuel inductionHypothesis =>
      obtain _ | larger := larger
      · omega
      have others : Agree hidden room (checkUncalled fuel (identifier + 1))
          (checkUncalled larger (identifier + 1)) := inductionHypothesis (by omega) (identifier + 1)
      refine .get fun state other alike => ?_
      have found := alike.functions.item identifier
      generalize state.functions[identifier]? = first, other.functions[identifier]? = second
        at found ⊢
      cases found with
      | none => exact .pure ()
      | some function =>
          dsimp only
          rw [function.instances, function.name, function.parameters]
          split
          · exact ((checksAgree (by omega)).instantiate _ _ _ _).reporting.bind fun _ => others
          · exact others

theorem agree_checkProgram (enough : room + fuel ≤ larger) (natives : Bindings Signature)
    {program other : Program} (alike : program.Alike hidden other)
    (small : 2 * sizeOf other ≤ room) :
    Agree hidden room (checkProgram fuel natives program) (checkProgram larger natives other) := by
  refine .get fun state second states => ?_
  rw [states.scopes, states.programs]
  refine .bind (.set { states with scopes := rfl, programs := rfl }) fun _ => ?_
  exact (agree_checkStatements enough _ _ _ _ alike small).bind fun type =>
    (agree_checkUncalled enough 0).bind fun _ => .pure type

end Check

namespace Typing

variable {hidden : Position → Bool} {natives : Bindings Signature} {program other : Program}

/-- What is reported for a program is reported for an alike one, hidden positions apart. -/
theorem Reports.of_alike {first : List Diagnostic} (reports : Reports natives program first)
    (alike : program.Alike hidden other) :
    ∃ second, Reports natives other second ∧
      Diagnostic.visible hidden first = Diagnostic.visible hidden second := by
  obtain ⟨_, after, decides, rfl⟩ := reports
  obtain ⟨fuel, type, equation, rfl⟩ := State.decides_iff.1 decides
  have start : State.Alike hidden (2 * sizeOf other) {} {} :=
    { scopes := rfl
      diagnostics := rfl
      functions := ⟨rfl, fun _ => .none⟩
      activations := rfl
      generation := rfl
      programs := rfl }
  have ends := Check.agree_checkProgram (Nat.le_refl (2 * sizeOf other + fuel)) natives alike
    (Nat.le_refl _) {} {} start
  rw [equation] at ends
  generalize ended : Check.checkProgram _ natives other {} = second at ends
  cases ends with
  | @ok _ _ later states =>
      refine ⟨later.diagnostics, ⟨_, later, State.decides_iff.2 ⟨_, _, ended, rfl⟩, ?_⟩, ?_⟩
      · exact State.diagnostics_verdict later type
      · rw [State.diagnostics_verdict]
        exact states.diagnostics

/-- A fault in a condition hides nothing.  Two programs that differ in the conditions of
branches and loops only are both checked to their ends or neither is, and the same is
reported for both, the faults of the conditions themselves apart. -/
theorem conditions_hide_nothing (alike : program.Alike hidden other) :
    ((∃ first, Reports natives program first) ↔ ∃ second, Reports natives other second) ∧
      ∀ first second, Reports natives program first → Reports natives other second →
        Diagnostic.visible hidden first = Diagnostic.visible hidden second := by
  refine ⟨⟨?_, ?_⟩, ?_⟩
  · rintro ⟨first, reports⟩
    obtain ⟨second, reportsOther, _⟩ := reports.of_alike alike
    exact ⟨second, reportsOther⟩
  · rintro ⟨second, reports⟩
    obtain ⟨first, reportsOther, _⟩ := reports.of_alike (Program.Alike.symm alike)
    exact ⟨first, reportsOther⟩
  · intro first second reports reportsOther
    obtain ⟨found, reportsFound, same⟩ := reports.of_alike alike
    rw [same, rightUnique_reports natives reportsFound reportsOther]

/-- An undefined name is reported behind a condition that is a text, and nothing else is if the
condition is replaced by a truth value. -/
theorem conditions_hide_nothing_undefinedName :
    let word (kind : Kind) (lexeme : String) (column : Int) : Token :=
      { kind := kind, lexeme := lexeme, position := ⟨0, column⟩ }
    let keyword := word (.keyword .ifWord) "if" 0
    let text := { word .text "\"a\"" 3 with payload := some (.text "a") }
    let name := word .identifier "nope" 9
    let body : Block :=
      .mk (word (.symbol .leftBrace) "\x7b" 7) [.expression (.reference name)] none
    let program : Program := [.ifThen keyword (.literal (.text "a") text) body]
    let other : Program :=
      [.ifThen keyword (.literal (.bool true) (word (.keyword .trueWord) "true" 3)) body]
    let hidden (position : Position) : Bool := position.column < 7
    Program.ofSource "if \"a\" \x7b nope; \x7d" = .ok program ∧ program.Alike hidden other ∧
      ∃ first second,
        Reports (Native.signatures Native.defaults) program first ∧
        Reports (Native.signatures Native.defaults) other second ∧ first.length = 2 ∧
        Diagnostic.visible hidden first = Diagnostic.visible hidden second ∧
        second = [{ cause := .undefinedName, token := name }] := by
  intro word keyword text name body program other hidden
  have alike : program.Alike hidden other :=
    .cons (.ifThen (.hidden rfl .literal .literal) (.mk _ _ (.cons (.expression _) .nil))) .nil
  have reports : ∃ first, Reports (Native.signatures Native.defaults) program first ∧
      first.length = 2 :=
    ⟨_, ⟨_, _, ⟨⟨9, rfl⟩, .inr ⟨_, rfl⟩⟩, rfl⟩, rfl⟩
  have reportsOther : Reports (Native.signatures Native.defaults) other
      [{ cause := .undefinedName, token := name }] :=
    ⟨_, _, ⟨⟨9, rfl⟩, .inr ⟨_, rfl⟩⟩, rfl⟩
  obtain ⟨first, reports, two⟩ := reports
  exact ⟨by cbv, alike, first, _, reports, reportsOther, two,
    (conditions_hide_nothing alike).2 _ _ reports reportsOther, rfl⟩

/-- A fault in the bounds of a loop hides what is wrong in its body. -/
theorem bounds_hide_faults :
    ¬ ∀ (hidden : Position → Bool) (source : String) (name zero one : Token) (bounds : Bounds)
        (body : Block) (first second : List Diagnostic),
      Program.ofSource source = .ok [.forLoop name bounds body] → bounds.Confined hidden →
      Reports (Native.signatures Native.defaults) [.forLoop name bounds body] first →
      Reports (Native.signatures Native.defaults)
        [.forLoop name
          { token := bounds.token
            start := .literal (.number 0) zero
            stop := .literal (.number 1) one
            step := none } body] second →
      Diagnostic.visible hidden first = Diagnostic.visible hidden second := by
  intro alike
  let word (kind : Kind) (lexeme : String) (column : Int) : Token :=
    { kind := kind, lexeme := lexeme, position := ⟨0, column⟩ }
  let text (column : Int) : Token := { word .text "\"a\"" column with payload := some (.text "a") }
  let bounds : Bounds :=
    { token := word (.symbol .dotDot) ".." 12
      start := .literal (.text "a") (text 9)
      stop := .literal (.text "a") (text 14)
      step := none }
  let name := word .identifier "nope" 20
  let body : Block :=
    .mk (word (.symbol .leftBrace) "\x7b" 18) [.expression (.reference name)] none
  have confined : bounds.Confined fun position => position.column < 18 :=
    ⟨rfl, .literal, .literal, fun _ none => nomatch none⟩
  have reports : ∃ diagnostic, Reports (Native.signatures Native.defaults)
      [.forLoop (word .identifier "i" 4) bounds body] [diagnostic] ∧
      diagnostic.token = bounds.token :=
    ⟨_, ⟨_, _, ⟨⟨9, rfl⟩, .inr ⟨_, rfl⟩⟩, rfl⟩, rfl⟩
  obtain ⟨diagnostic, reports, charged⟩ := reports
  have hides := alike _ "for i in \"a\"..\"a\" \x7b nope; \x7d" _ (word .number "0" 9)
    (word .number "1" 14) bounds body _ [{ cause := .undefinedName, token := name }] (by cbv)
    confined reports ⟨_, _, ⟨⟨9, rfl⟩, .inr ⟨_, rfl⟩⟩, rfl⟩
  simp [Diagnostic.visible, charged, bounds, name, word] at hides

end Typing

end CheckedScript
