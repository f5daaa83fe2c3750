import CheckedScript.Proofs.Grouping.States
import CheckedScript.Typing.Check

/-!
# Checks of regrouped programs

Every pair of parentheses costs a check two steps of nesting and a note.  With enough room, the
check of a regrouped program infers the same types, checks the same bodies for the same argument
types and reports the same diagnostics in the same order.
-/

namespace CheckedScript

namespace Check

open Typing

variable {fuel : Nat}

theorem keepsUp_typeOf {frame : FrameId} {place : Place} {expr : Expr} {first : Check Ty}
    (keeps : KeepsUp first fun room => infer room frame place expr) :
    KeepsUp first fun room => typeOf room frame place expr :=
  .succ (keeps.noted place expr)

/-- Parentheses do not change what is inferred. -/
theorem keepsUp_core {frame : FrameId} {place : Place} {expr : Expr} {first : Check Ty}
    (keeps : ∀ place, KeepsUp first fun room => infer room frame place expr.core) :
    KeepsUp first fun room => infer room frame place expr := by
  fun_induction Expr.core expr generalizing place with
  | case1 inner inductionHypothesis =>
      exact .succ (keepsUp_typeOf (inductionHypothesis keeps))
  | case2 => exact keeps place

/-- With enough room, a check of the second one of two regrouped programs comes to the end of a
check of the first one that has a bound on the nesting. -/
structure ChecksKeepUp (fuel : Nat) : Prop where
  typeOf : ∀ frame place otherPlace {expr other}, expr.Regrouped other →
    KeepsUp (typeOf fuel frame place expr) fun room => infer room frame otherPlace other
  typesOf : ∀ frame place otherPlace step otherStep {exprs others},
    List.Forall₂ Expr.Regrouped exprs others →
    KeepsUp (typesOf fuel frame place step exprs)
      fun room => typesOf room frame otherPlace otherStep others
  infer : ∀ frame place otherPlace {expr other}, expr.Regrouped other →
    KeepsUp (infer fuel frame place expr) fun room => infer room frame otherPlace other
  callType : ∀ callee arguments paren,
    KeepsUp (callType fuel callee arguments paren)
      fun room => callType room callee arguments paren
  instantiate : ∀ name identifier arguments anchor,
    KeepsUp (instantiate fuel name identifier arguments anchor)
      fun room => instantiate room name identifier arguments anchor
  checkBody : ∀ identifier arguments {function other} frame,
    function.Regrouped other →
    KeepsUp (checkBody fuel identifier arguments function frame)
      fun room => checkBody room identifier arguments other frame
  checkStmt : ∀ frame place otherPlace {stmt other}, stmt.Regrouped other →
    KeepsUp (checkStmt fuel frame place stmt) fun room => checkStmt room frame otherPlace other
  checkLet : ∀ frame place otherPlace name declared {initializer other},
    initializer.Regrouped other →
    KeepsUp (checkLet fuel frame place name declared initializer)
      fun room => checkLet room frame otherPlace name declared other
  checkAll : ∀ frame place otherPlace step otherStep {stmts others},
    List.Forall₂ Stmt.Regrouped stmts others →
    KeepsUp (checkAll fuel frame place step stmts)
      fun room => checkAll room frame otherPlace otherStep others
  checkBlock : ∀ frame place otherPlace {body other}, body.Regrouped other →
    KeepsUp (checkBlock fuel frame place body) fun room => checkBlock room frame otherPlace other
  checkCondition : ∀ frame place otherPlace keyword {condition other},
    condition.Regrouped other →
    KeepsUp (checkCondition fuel frame place keyword condition)
      fun room => checkCondition room frame otherPlace keyword other
  checkBound : ∀ frame place otherPlace token {bound other}, bound.Regrouped other →
    KeepsUp (checkBound fuel frame place token bound)
      fun room => checkBound room frame otherPlace token other

namespace ChecksKeepUp

variable (all : ChecksKeepUp fuel)
include all

/-- The second check may note the type of an expression, too. -/
theorem part (frame : FrameId) (place otherPlace : Place) {expr other : Expr}
    (regrouped : expr.Regrouped other) :
    KeepsUp (Check.typeOf fuel frame place expr)
      fun room => Check.typeOf room frame otherPlace other :=
  keepsUp_typeOf (all.typeOf frame place otherPlace regrouped)

theorem typesOf_succ (frame : FrameId) (place otherPlace : Place) (step otherStep : Nat)
    {exprs others : List Expr} (regrouped : List.Forall₂ Expr.Regrouped exprs others) :
    KeepsUp (Check.typesOf (fuel + 1) frame place step exprs)
      fun room => Check.typesOf room frame otherPlace otherStep others := by
  refine .succ ?_
  cases regrouped with
  | nil => exact .pure []
  | cons expr exprs =>
      refine (all.part frame _ _ expr).bind fun type => ?_
      exact (all.typesOf frame _ _ _ _ exprs).bind fun types => .pure (type :: types)

theorem infer_succ (frame : FrameId) (place otherPlace : Place) {expr other : Expr}
    (regrouped : expr.Regrouped other) :
    KeepsUp (Check.infer (fuel + 1) frame place expr)
      fun room => Check.infer room frame otherPlace other := by
  obtain ⟨inner, rfl, same⟩ | sameForm := regrouped.inner_or_sameForm
  · -- The first check notes the type of what is inside, where the second one notes nothing.
    exact all.typeOf frame (place.child 0) otherPlace same
  · refine keepsUp_core fun otherPlace => ?_
    generalize other.core = bare at sameForm
    refine .succ ?_
    cases sameForm with
    | literal value token => exact .pure (constantType value)
    | reference name =>
        refine (KeepsUp.lookup? frame name.lexeme).bind fun found => ?_
        cases found with
        | some type => exact .pure type
        | none => exact .fail _ name
    | assign name value =>
        refine (all.part frame _ _ value).bind fun found =>
          (KeepsUp.lookup? frame name.lexeme).bind fun declared => ?_
        cases declared with
        | none => exact .fail _ name
        | some declared =>
            dsimp only
            split
            · exact .pure declared
            · exact .fail _ name
    | tuple items =>
        exact (all.typesOf frame _ _ _ _ items).bind fun types => .pure (Ty.tuple types)
    | unary operator token operand =>
        refine (all.part frame _ _ operand).bind fun found => ?_
        cases unaryType? operator found with
        | some result => exact .pure result
        | none => exact .fail _ token
    | binary operator token left right =>
        refine (all.part frame _ _ left).bind fun leftType =>
          (all.part frame _ _ right).bind fun rightType => ?_
        cases binaryType? operator leftType rightType with
        | some result => exact .pure result
        | none => exact .fail _ token
    | logical operator token left right =>
        refine (all.part frame _ _ left).bind fun leftType =>
          (all.part frame _ _ right).bind fun rightType => ?_
        split
        · exact .pure Ty.bool
        · exact .fail _ token
    | call paren callee arguments =>
        refine (all.part frame _ _ callee).bind fun calleeType => ?_
        exact (all.typesOf frame _ _ _ _ arguments).bind fun types =>
          all.callType calleeType types paren

theorem callType_succ (callee : Ty) (arguments : List Ty) (paren : Token) :
    KeepsUp (Check.callType (fuel + 1) callee arguments paren)
      fun room => Check.callType room callee arguments paren := by
  refine .succ ?_
  cases callee with
  | native name parameters result =>
      simp only [Check.callType]
      cases nativeCallType name parameters result arguments with
      | ok type => exact .pure type
      | error cause => exact .fail cause paren
  | function name identifier =>
      simp only [Check.callType]
      refine .get fun state other regrouped => ?_
      rw [arity_regrouped regrouped.functions]
      refine (KeepsUp.orFault _).bind fun expected => ?_
      split
      · exact all.instantiate name identifier arguments paren
      · exact .fail _ paren
  | unknown => exact .pure Ty.unknown
  | bareNative => exact .throw _
  | tuple | number | text | bool | displayable => exact .fail _ paren

theorem instantiate_succ (name : String) (identifier : Nat) (arguments : List Ty)
    (anchor : Token) :
    KeepsUp (Check.instantiate (fuel + 1) name identifier arguments anchor)
      fun room => Check.instantiate room name identifier arguments anchor := by
  refine .succ ?_
  simp only [Check.instantiate]
  refine .get fun state other regrouped => ?_
  refine KeepsUp.after (paired_declaration regrouped.functions name identifier)
    fun function second same => ?_
  rw [same.instances, same.closure, same.parameters, regrouped.generation, regrouped.activations]
  cases second.instances.get? (arguments, other.generation) with
  | some result => exact .pure result
  | none =>
      dsimp only
      split
      · split
        · exact .pure _
        · split
          · exact .pure _
          · exact .fail _ anchor
      · split
        · exact .fail _ anchor
        · refine (KeepsUp.nest _).bind fun frame => (KeepsUp.define frame _).bind fun _ => ?_
          refine (all.checkBody identifier arguments frame same).bind fun results => ?_
          refine (KeepsUp.modify fun _ _ regrouped => ?_).bind fun _ => .pure _
          exact (regrouped.reports _).setInstance identifier _ _

theorem checkBody_succ (identifier : Nat) (arguments : List Ty)
    {function other : DeclaredFunction} (frame : FrameId) (same : function.Regrouped other) :
    KeepsUp (Check.checkBody (fuel + 1) identifier arguments function frame)
      fun room => Check.checkBody room identifier arguments other frame := by
  have ending (type : Ty) (returns : List (Ty × Token)) :
      KeepsUp
        (if blockReturns function.body then return returns
          else return returns ++ [(type, function.name)])
        fun _ => if blockReturns other.body then return returns
          else return returns ++ [(type, other.name)] := by
    rw [blockReturns_regrouped same.body, same.name]
    split
    · exact .pure returns
    · exact .pure _
  refine .succ ?_
  simp only [Check.checkBody]
  refine (KeepsUp.entering _).bind fun _ => ?_
  refine (all.checkAll frame _ _ _ _ same.body.statements).bind fun _ => ?_
  have tails := same.body.tail
  generalize function.body.tail = tail, other.body.tail = second at tails
  cases tails with
  | none => exact .leaving (ending Ty.unit)
  | some tail =>
      refine (all.part frame _ _ tail).reporting.bind fun type => ?_
      cases type with
      | none => exact .leaving .pure
      | some type => exact .leaving (ending type)

theorem checkStmt_succ (frame : FrameId) (place otherPlace : Place) {stmt other : Stmt}
    (regrouped : stmt.Regrouped other) :
    KeepsUp (Check.checkStmt (fuel + 1) frame place stmt)
      fun room => Check.checkStmt room frame otherPlace other := by
  have block (frame : FrameId) (place otherPlace : Place) {body other : Block}
      (bodies : body.Regrouped other) :
      KeepsUp (do let _ ← Check.checkBlock fuel frame place body; return Ty.unit)
        fun room => do let _ ← Check.checkBlock room frame otherPlace other; return Ty.unit :=
    (all.checkBlock frame place otherPlace bodies).bind fun _ => .pure Ty.unit
  refine .succ ?_
  cases regrouped.sameForm with
  | expression value => exact all.part frame _ _ value
  | letValue name declared initializer =>
      exact (all.checkLet frame _ _ name _ initializer).bind fun _ => .pure Ty.unit
  | block body => exact all.checkBlock frame _ _ body
  | ifThen keyword condition consequent =>
      exact (all.checkCondition frame _ _ keyword condition).bind fun _ =>
        block frame _ _ consequent
  | ifElse keyword condition consequent alternative =>
      refine (all.checkCondition frame _ _ keyword condition).bind fun _ => ?_
      refine (all.checkBlock frame _ _ consequent).bind fun _ => ?_
      exact (all.checkStmt frame _ _ alternative).bind fun _ => .pure Ty.unit
  | whileLoop keyword condition body =>
      exact (all.checkCondition frame _ _ keyword condition).bind fun _ => block frame _ _ body
  | @forLoop name bounds range body second ranges bodies =>
      have rest : KeepsUp
          (do
            Check.checkBound fuel frame (place.child 2) bounds.token bounds.stop
            let inner ← nest frame
            define inner [(name.lexeme, .number)]
            let _ ← Check.checkBlock fuel inner (place.child 3) body
            return Ty.unit)
          (fun room => do
            Check.checkBound room frame (otherPlace.child 2) range.token range.stop
            let inner ← nest frame
            define inner [(name.lexeme, .number)]
            let _ ← Check.checkBlock room inner (otherPlace.child 3) second
            return Ty.unit) := by
        rw [ranges.token]
        refine (all.checkBound frame _ _ range.token ranges.stop).bind fun _ => ?_
        refine (KeepsUp.nest frame).bind fun inner => (KeepsUp.define inner _).bind fun _ => ?_
        exact block inner _ _ bodies
      have steps := ranges.step
      simp only [Check.checkStmt]
      refine KeepsUp.bind ?_ fun _ => ?_
      · rw [ranges.token]
        exact all.checkBound frame _ _ range.token ranges.start
      · generalize bounds.step = step, range.step = otherStep at steps
        cases steps with
        | none => exact rest
        | some step =>
            rw [ranges.token] at rest ⊢
            exact (all.checkBound frame _ _ range.token step).bind fun _ => rest
  | function name parameters bodies =>
      refine (KeepsUp.modify fun _ _ regrouped => ?_).bind fun _ => .pure Ty.unit
      exact regrouped.declare frame _ _ name parameters bodies
  | giveBack keyword values =>
      simp only [Check.checkStmt]
      refine .get fun state other regrouped => ?_
      rw [regrouped.activations]
      split
      · exact .fail _ keyword
      · have closing (type : Ty) :
            KeepsUp (do modify fun state => state.addReturn type keyword; return Ty.unit)
              fun _ => do modify fun state => state.addReturn type keyword; return Ty.unit :=
          (KeepsUp.modify fun _ _ regrouped => regrouped.addReturn type keyword).bind fun _ =>
            .pure Ty.unit
        cases values with
        | none => exact closing Ty.unit
        | some value => exact (all.part frame _ _ value).bind closing

theorem checkLet_succ (frame : FrameId) (place otherPlace : Place) (name : Token)
    (declared : Option Ty) {initializer other : Expr} (regrouped : initializer.Regrouped other) :
    KeepsUp (Check.checkLet (fuel + 1) frame place name declared initializer)
      fun room => Check.checkLet room frame otherPlace name declared other := by
  have typed := all.part frame (place.child 0) (otherPlace.child 0) regrouped
  refine .succ ?_
  cases declared with
  | none => exact typed.bind fun found => .bindName frame name.lexeme found
  | some type =>
      refine KeepsUp.bind (typed.onFailure fun _ _ regrouped =>
        regrouped.bind frame name.lexeme type) fun found => ?_
      refine (KeepsUp.bindName frame name.lexeme type).bind fun _ => ?_
      split
      · exact .fail _ name
      · exact .pure _

theorem checkAll_succ (frame : FrameId) (place otherPlace : Place) (step otherStep : Nat)
    {stmts others : List Stmt} (regrouped : List.Forall₂ Stmt.Regrouped stmts others) :
    KeepsUp (Check.checkAll (fuel + 1) frame place step stmts)
      fun room => Check.checkAll room frame otherPlace otherStep others := by
  refine .succ ?_
  cases regrouped with
  | nil => exact .pure ()
  | cons stmt stmts =>
      exact (all.checkStmt frame _ _ stmt).reporting.bind fun _ =>
        all.checkAll frame _ _ _ _ stmts

theorem checkBlock_succ (frame : FrameId) (place otherPlace : Place) {body other : Block}
    (regrouped : body.Regrouped other) :
    KeepsUp (Check.checkBlock (fuel + 1) frame place body)
      fun room => Check.checkBlock room frame otherPlace other := by
  have statements := regrouped.statements
  have tail := regrouped.tail
  obtain ⟨brace, stmts, last⟩ := body
  obtain ⟨otherBrace, others, otherLast⟩ := other
  dsimp only [Block.statements, Block.tail] at statements tail
  refine .succ ?_
  simp only [Check.checkBlock]
  refine (KeepsUp.nest frame).bind fun inner =>
    (all.checkAll inner _ _ _ _ statements).bind fun _ => ?_
  cases tail with
  | none => exact .pure Ty.unit
  | some tail =>
      refine (all.part inner _ _ tail).reporting.bind fun found => ?_
      cases found with
      | some type => exact .pure type
      | none => exact .throw _

theorem checkCondition_succ (frame : FrameId) (place otherPlace : Place) (keyword : Token)
    {condition other : Expr} (regrouped : condition.Regrouped other) :
    KeepsUp (Check.checkCondition (fuel + 1) frame place keyword condition)
      fun room => Check.checkCondition room frame otherPlace keyword other := by
  refine .succ ((all.part frame _ _ regrouped).reporting.bind fun found => ?_)
  cases found with
  | none => exact .pure ()
  | some found =>
      dsimp only
      split
      · exact .report _ keyword
      · exact .pure _

theorem checkBound_succ (frame : FrameId) (place otherPlace : Place) (token : Token)
    {bound other : Expr} (regrouped : bound.Regrouped other) :
    KeepsUp (Check.checkBound (fuel + 1) frame place token bound)
      fun room => Check.checkBound room frame otherPlace token other := by
  refine .succ ((all.part frame _ _ regrouped).bind fun found => ?_)
  split
  · exact .fail _ token
  · exact .pure _

end ChecksKeepUp

theorem checksKeepUp (fuel : Nat) : ChecksKeepUp fuel := by
  induction fuel with
  | zero => constructor <;> intros <;> exact .exhausted
  | succ fuel all =>
      exact
        { typeOf := fun frame place otherPlace _ _ regrouped =>
            (all.infer frame place otherPlace regrouped).noting place _
          typesOf := all.typesOf_succ
          infer := all.infer_succ
          callType := all.callType_succ
          instantiate := all.instantiate_succ
          checkBody := all.checkBody_succ
          checkStmt := all.checkStmt_succ
          checkLet := all.checkLet_succ
          checkAll := all.checkAll_succ
          checkBlock := all.checkBlock_succ
          checkCondition := all.checkCondition_succ
          checkBound := all.checkBound_succ }

theorem keepsUp_checkStatements (fuel : Nat) (frame : FrameId) (place otherPlace : Place)
    (step otherStep : Nat) (last : Ty) {program other : Program}
    (regrouped : program.Regrouped other) :
    KeepsUp (checkStatements fuel frame place step last program)
      fun room => checkStatements room frame otherPlace otherStep last other := by
  induction regrouped generalizing step otherStep last with
  | nil => exact .pure last
  | cons stmt _ inductionHypothesis =>
      exact ((checksKeepUp fuel).checkStmt frame _ _ stmt).reporting.bind fun type =>
        inductionHypothesis (step + 1) (otherStep + 1) (type.getD .unit)

theorem keepsUp_checkUncalled (fuel identifier : Nat) :
    KeepsUp (checkUncalled fuel identifier) fun room => checkUncalled room identifier := by
  induction fuel generalizing identifier with
  | zero => exact .exhausted
  | succ fuel inductionHypothesis =>
      refine .succ (.get fun state other regrouped => ?_)
      have here := regrouped.functions.item identifier
      generalize state.functions[identifier]? = function, other.functions[identifier]? = second
        at here
      cases here with
      | none => exact .pure ()
      | some same =>
          dsimp only
          rw [same.instances, same.parameters, same.name]
          split
          · exact ((checksKeepUp fuel).instantiate _ _ _ _).reporting.bind
              fun _ => inductionHypothesis (identifier + 1)
          · exact inductionHypothesis (identifier + 1)

theorem keepsUp_checkProgram (fuel : Nat) (natives : Bindings Signature)
    {program other : Program} (regrouped : program.Regrouped other) :
    KeepsUp (checkProgram fuel natives program) fun room => checkProgram room natives other := by
  refine .get fun state later same => ?_
  have opened (scopes : Scopes Ty) :
      State.Regrouped { state with scopes := scopes, programs := state.programs + 1 }
        { later with scopes := scopes, programs := later.programs + 1 } :=
    { same with scopes := rfl }
  rw [same.scopes]
  refine (KeepsUp.set (opened _)).bind fun _ => ?_
  refine (keepsUp_checkStatements fuel _ _ _ _ _ _ regrouped).bind fun type => ?_
  exact (keepsUp_checkUncalled fuel 0).bind fun _ => .pure type

end Check

end CheckedScript
