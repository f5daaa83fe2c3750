import CheckedScript.Proofs.Renaming.States
import CheckedScript.Typing.Check

/-!
# Checks of renamed programs

Step by step, the checks of two programs that differ in names only go the same way: they
look up corresponding names, find corresponding types and fail at corresponding tokens.
-/

namespace CheckedScript

namespace Typing

variable {naming : Naming}

mutual

theorem alwaysReturns_renamed {stmt other : Stmt} (renamed : stmt.Renamed naming other) :
    alwaysReturns stmt = alwaysReturns other := by
  cases renamed with
  | block body => exact blockReturns_renamed body
  | ifElse _ _ consequent alternative =>
      rw [alwaysReturns, alwaysReturns, blockReturns_renamed consequent,
        alwaysReturns_renamed alternative]
  | _ => rfl

theorem blockReturns_renamed {body other : Block} (renamed : body.Renamed naming other) :
    blockReturns body = blockReturns other := by
  cases renamed with
  | mk _ statements _ => exact anyReturns_renamed statements

theorem anyReturns_renamed {stmts others : List Stmt}
    (renamed : List.Forall₂ (Stmt.Renamed naming) stmts others) :
    anyReturns stmts = anyReturns others := by
  cases renamed with
  | nil => rfl
  | cons stmt stmts =>
      rw [anyReturns, anyReturns, alwaysReturns_renamed stmt, anyReturns_renamed stmts]

end

end Typing

namespace Check

open Typing

variable {naming : Naming} {α β : Type} {value : α → β → Prop}

section Steps

theorem pairs_fail {cause other : Cause} (causes : cause.Renamed naming other)
    {token second : Token} (tokens : naming.tokens token second) :
    (pairing naming).Pairs value (fail cause token) (fail other second) :=
  .throw (.failed ⟨tokens, causes⟩)

theorem pairs_report {cause other : Cause} (causes : cause.Renamed naming other)
    {token second : Token} (tokens : naming.tokens token second) :
    (pairing naming).Pairs (fun _ _ => True) (report cause token) (report other second) :=
  .modify fun _ _ renamed => renamed.report ⟨tokens, causes⟩

theorem pairs_declaration {functions others : Array DeclaredFunction}
    (renamed : PairedArrays (DeclaredFunction.Renamed naming) functions others)
    (name other : String) (identifier : Nat) :
    (pairing naming).Pairs (DeclaredFunction.Renamed naming)
      (orFault (declaration functions name identifier))
      (orFault (declaration others other identifier)) := by
  have found := renamed.item identifier
  unfold declaration
  generalize functions[identifier]? = first, others[identifier]? = second at found
  cases found with
  | none => exact .throw (.faulted rfl)
  | some function => exact .pure function

theorem pairs_arity {functions others : Array DeclaredFunction}
    (renamed : PairedArrays (DeclaredFunction.Renamed naming) functions others)
    (name other : String) (identifier : Nat) :
    (pairing naming).Pairs Eq (orFault (arity functions name identifier))
      (orFault (arity others other identifier)) := by
  have found := renamed.item identifier
  unfold arity declaration
  generalize functions[identifier]? = first, others[identifier]? = second at found
  cases found with
  | none => exact .throw (.faulted rfl)
  | some function => exact .pure function.parameters.length_eq

theorem pairs_reporting {check : Check α} {other : Check β}
    (pairs : (pairing naming).Pairs value check other) :
    (pairing naming).Pairs (Option.Rel value) (reporting check) (reporting other) := by
  intro state second renamed
  have ends := pairs state second renamed
  unfold reporting
  generalize check state = result, other second = further at ends
  cases ends with
  | ok found after => exact .ok (.some found) after
  | error stop after =>
      cases stop with
      | failed diagnostic => exact .ok .none (State.Renamed.report after diagnostic)
      | reported => exact .ok .none after
      | faulted alike => exact .error (.faulted alike) after
      | exhausted => exact .error .exhausted after

theorem pairs_onFailure {check : Check α} {other : Check β} {change further : State → State}
    (pairs : (pairing naming).Pairs value check other)
    (keeps : ∀ state second : State, state.Renamed naming second →
      (change state).Renamed naming (further second)) :
    (pairing naming).Pairs value (onFailure check change) (onFailure other further) := by
  intro state second renamed
  have ends := pairs state second renamed
  unfold onFailure
  generalize check state = result, other second = last at ends
  cases ends with
  | ok found after => exact .ok found after
  | error stop after =>
      cases stop with
      | failed diagnostic => exact .error (.failed diagnostic) (keeps _ _ after)
      | reported => exact .error .reported (keeps _ _ after)
      | faulted alike => exact .error (.faulted alike) after
      | exhausted => exact .error .exhausted after

theorem pairs_nest (frame : FrameId) : (pairing naming).Pairs Eq (nest frame) (nest frame) :=
  fun _ _ renamed => .ok (renamed.scopes.fst_nest frame) (renamed.nest frame)

theorem pairs_define (frame : FrameId) {bindings others : Bindings Ty}
    (paired : Table.Paired naming.names (Ty.Renamed naming) bindings others) :
    (pairing naming).Pairs (fun _ _ => True) (define frame bindings) (define frame others) :=
  .modify fun _ _ renamed =>
    { renamed with scopes := renamed.scopes.defineAll naming.unique frame paired }

theorem pairs_bind (frame : FrameId) {name other : String} (names : naming.names name other)
    {type second : Ty} (types : type.Renamed naming second) :
    (pairing naming).Pairs (fun _ _ => True) (bind frame name type) (bind frame other second) :=
  .modify fun _ _ renamed => renamed.bind frame names types

theorem pairs_lookup? (frame : FrameId) {name other : String}
    (names : naming.names name other) :
    (pairing naming).Pairs (Option.Rel (Ty.Renamed naming)) (lookup? frame name)
      (lookup? frame other) :=
  .get fun _ _ renamed => .pure (renamed.scopes.get? naming.unique names frame)

end Steps

variable (naming)

/-- Checks of corresponding parts of two programs go the same way. -/
structure ChecksPair (fuel : Nat) : Prop where
  typeOf : ∀ frame place {expr other}, expr.Renamed naming other →
    (pairing naming).Pairs (Ty.Renamed naming) (typeOf fuel frame place expr)
      (typeOf fuel frame place other)
  typesOf : ∀ frame place step {exprs others}, List.Forall₂ (Expr.Renamed naming) exprs others →
    (pairing naming).Pairs (Ty.AreRenamed naming) (typesOf fuel frame place step exprs)
      (typesOf fuel frame place step others)
  infer : ∀ frame place {expr other}, expr.Renamed naming other →
    (pairing naming).Pairs (Ty.Renamed naming) (infer fuel frame place expr)
      (infer fuel frame place other)
  callType : ∀ {callee other arguments others paren second}, callee.Renamed naming other →
    Ty.AreRenamed naming arguments others → naming.tokens paren second →
    (pairing naming).Pairs (Ty.Renamed naming) (callType fuel callee arguments paren)
      (callType fuel other others second)
  instantiate : ∀ {name other} identifier {arguments others anchor second},
    naming.names name other → Ty.AreRenamed naming arguments others →
    naming.tokens anchor second →
    (pairing naming).Pairs (Ty.Renamed naming) (instantiate fuel name identifier arguments anchor)
      (instantiate fuel other identifier others second)
  checkBody : ∀ identifier {arguments others function second} frame,
    Ty.AreRenamed naming arguments others → function.Renamed naming second →
    (pairing naming).Pairs (List.Forall₂ (ReturnRenamed naming))
      (checkBody fuel identifier arguments function frame)
      (checkBody fuel identifier others second frame)
  checkStmt : ∀ frame place {stmt other}, stmt.Renamed naming other →
    (pairing naming).Pairs (Ty.Renamed naming) (checkStmt fuel frame place stmt)
      (checkStmt fuel frame place other)
  checkLet : ∀ frame place {name other declared second initializer further},
    name.NameRenamed naming other → Option.Rel (Ty.Renamed naming) declared second →
    initializer.Renamed naming further →
    (pairing naming).Pairs (fun _ _ => True)
      (checkLet fuel frame place name declared initializer)
      (checkLet fuel frame place other second further)
  checkAll : ∀ frame place step {stmts others}, List.Forall₂ (Stmt.Renamed naming) stmts others →
    (pairing naming).Pairs (fun _ _ => True) (checkAll fuel frame place step stmts)
      (checkAll fuel frame place step others)
  checkBlock : ∀ frame place {body other}, body.Renamed naming other →
    (pairing naming).Pairs (Ty.Renamed naming) (checkBlock fuel frame place body)
      (checkBlock fuel frame place other)
  checkCondition : ∀ frame place {keyword other condition second}, naming.tokens keyword other →
    condition.Renamed naming second →
    (pairing naming).Pairs (fun _ _ => True) (checkCondition fuel frame place keyword condition)
      (checkCondition fuel frame place other second)
  checkBound : ∀ frame place {token other bound second}, naming.tokens token other →
    bound.Renamed naming second →
    (pairing naming).Pairs (fun _ _ => True) (checkBound fuel frame place token bound)
      (checkBound fuel frame place other second)

variable {naming} {fuel : Nat}

namespace ChecksPair

theorem typeOf_succ (pair : ChecksPair naming fuel) (frame : FrameId) (place : Place)
    {expr other : Expr} (renamed : expr.Renamed naming other) :
    (pairing naming).Pairs (Ty.Renamed naming) (Check.typeOf (fuel + 1) frame place expr)
      (Check.typeOf (fuel + 1) frame place other) :=
  (pair.infer frame place renamed).bind fun type second types =>
    .bind (.modify fun _ _ states => states.note place expr other type second) fun _ _ _ =>
      .pure types

theorem typesOf_succ (pair : ChecksPair naming fuel) (frame : FrameId) (place : Place)
    (step : Nat) {exprs others : List Expr}
    (renamed : List.Forall₂ (Expr.Renamed naming) exprs others) :
    (pairing naming).Pairs (Ty.AreRenamed naming)
      (Check.typesOf (fuel + 1) frame place step exprs)
      (Check.typesOf (fuel + 1) frame place step others) := by
  cases renamed with
  | nil => exact .pure .nil
  | cons expr exprs =>
      exact (pair.typeOf _ _ expr).bind fun _ _ type =>
        (pair.typesOf _ _ _ exprs).bind fun _ _ types => .pure (.cons type types)

theorem infer_succ (pair : ChecksPair naming fuel) (frame : FrameId) (place : Place)
    {expr other : Expr} (renamed : expr.Renamed naming other) :
    (pairing naming).Pairs (Ty.Renamed naming) (Check.infer (fuel + 1) frame place expr)
      (Check.infer (fuel + 1) frame place other) := by
  cases renamed with
  | @literal value _ _ tokens =>
      cases value with
      | number => exact .pure .number
      | text => exact .pure .text
      | bool => exact .pure .bool
  | reference name =>
      refine (pairs_lookup? _ name.names).bind fun _ _ found => ?_
      cases found with
      | some type => exact .pure type
      | none => exact pairs_fail .undefinedName name.tokens
  | assign name value =>
      refine (pair.typeOf _ _ value).bind fun found other types =>
        (pairs_lookup? _ name.names).bind fun _ _ declared => ?_
      cases declared with
      | none => exact pairs_fail .undefinedName name.tokens
      | some declared =>
          dsimp only
          rw [declared.compatible types]
          split
          · exact .pure declared
          · exact pairs_fail (.assignmentMismatch declared types) name.tokens
  | group inner => exact pair.typeOf _ _ inner
  | tuple items => exact (pair.typesOf _ _ _ items).bind fun _ _ types => .pure (.tuple types)
  | @unary operator _ _ _ _ tokens operand =>
      refine (pair.typeOf _ _ operand).bind fun found second types => ?_
      have result := unaryType?_renamed operator types
      generalize unaryType? operator found = first, unaryType? operator second = last at result
      cases result with
      | some result => exact .pure result
      | none => exact pairs_fail (.operandMismatch types) tokens
  | @binary operator _ _ _ _ _ _ tokens left right =>
      refine (pair.typeOf _ _ left).bind fun leftFound leftSecond leftTypes =>
        (pair.typeOf _ _ right).bind fun rightFound rightSecond rightTypes => ?_
      have result := binaryType?_renamed operator leftTypes rightTypes
      generalize binaryType? operator leftFound rightFound = first,
        binaryType? operator leftSecond rightSecond = last at result
      cases result with
      | some result => exact .pure result
      | none => exact pairs_fail (.operandsMismatch leftTypes rightTypes) tokens
  | logical tokens left right =>
      refine (pair.typeOf _ _ left).bind fun leftFound leftSecond leftTypes =>
        (pair.typeOf _ _ right).bind fun rightFound rightSecond rightTypes => ?_
      rw [Ty.Renamed.bool.compatible leftTypes, Ty.Renamed.bool.compatible rightTypes]
      split
      · exact .pure .bool
      · exact pairs_fail (.operandsMismatch leftTypes rightTypes) tokens
  | call callee paren arguments =>
      exact (pair.typeOf _ _ callee).bind fun _ _ calleeType =>
        (pair.typesOf _ _ _ arguments).bind fun _ _ types => pair.callType calleeType types paren

theorem callType_succ (pair : ChecksPair naming fuel) {callee other : Ty}
    {arguments others : List Ty} {paren second : Token} (renamed : callee.Renamed naming other)
    (types : Ty.AreRenamed naming arguments others) (tokens : naming.tokens paren second) :
    (pairing naming).Pairs (Ty.Renamed naming) (Check.callType (fuel + 1) callee arguments paren)
      (Check.callType (fuel + 1) other others second) := by
  have notCallable : (pairing naming).Pairs (Ty.Renamed naming)
      (fail (.notCallable callee.describe) paren) (fail (.notCallable other.describe) second) :=
    pairs_fail (.notCallable renamed) tokens
  cases renamed with
  | native names parameters result =>
      unfold Check.callType
      dsimp only
      rcases nativeCallType_renamed _ _ names parameters types with
        ⟨first, last⟩ | ⟨_, _, first, last, causes⟩
      · rw [first, last]
        exact .pure result
      · rw [first, last]
        exact pairs_fail causes tokens
  | function identifier names =>
      refine .get fun state last states => (pairs_arity states.functions _ _ identifier).bind ?_
      rintro expected _ rfl
      rw [types.length_eq]
      split
      · exact pair.instantiate _ names types tokens
      · exact pairs_fail (.wrongArity _ _ names) tokens
  | unknown => exact .pure .unknown
  | number | text | bool | displayable | tuple => exact notCallable

theorem instantiate_succ (pair : ChecksPair naming fuel) {name other : String} (identifier : Nat)
    {arguments others : List Ty} {anchor second : Token} (names : naming.names name other)
    (types : Ty.AreRenamed naming arguments others) (tokens : naming.tokens anchor second) :
    (pairing naming).Pairs (Ty.Renamed naming)
      (Check.instantiate (fuel + 1) name identifier arguments anchor)
      (Check.instantiate (fuel + 1) other identifier others second) := by
  refine .get fun state last states =>
    (pairs_declaration states.functions name other identifier).bind
      fun function further functions => ?_
  have key : InstanceKey.Renamed naming (arguments, state.generation) (others, last.generation) :=
    ⟨types, states.generation⟩
  have known := functions.instances.get? (instanceKey_unique naming) key
  have running := find?_activations states.activations identifier types
  dsimp only
  generalize function.instances.get? _ = instanceFound,
    further.instances.get? _ = otherInstance at known ⊢
  cases known with
  | some result => exact .pure result
  | none =>
      dsimp only
      generalize state.activations.find? _ = inProgress,
        last.activations.find? _ = otherInProgress at running ⊢
      cases running with
      | @some activation otherActivation activations =>
          have returns := activations.returns
          dsimp only
          generalize activation.returns = met, otherActivation.returns = otherMet at returns ⊢
          cases returns with
          | cons returned _ => exact .pure returned.type
          | nil =>
              dsimp only
              rw [types.anyUnknown]
              split
              · exact .pure .unknown
              · exact pairs_fail (.unresolvedRecursion names) tokens
      | none =>
          dsimp only
          rw [countP_activations states.activations]
          split
          · exact pairs_fail (.unresolvedRecursion names) tokens
          · rw [functions.closure]
            refine (pairs_nest _).bind ?_
            rintro frame _ rfl
            have parameters := Token.NameRenamed.lexemes functions.parameters
            refine (pairs_define _ (.zip parameters types)).bind fun _ _ _ => ?_
            refine (pair.checkBody _ _ types functions).bind fun results otherResults returns => ?_
            have chosen :=
              chooseResult_renamed (List.rel_map (fun _ _ returned => returned.type) returns)
            refine .bind (.modify fun _ _ after => ?_) fun _ _ _ => .pure chosen
            have mismatches := returnMismatches_renamed names chosen returns
            exact (after.reports mismatches).setInstance _ key chosen

/-- What is left of the check of a body once its statements and its end are checked. -/
theorem leaves {function further : DeclaredFunction} (functions : function.Renamed naming further)
    {fallThrough other : Option Ty} (renamed : Option.Rel (Ty.Renamed naming) fallThrough other) :
    (pairing naming).Pairs (List.Forall₂ (ReturnRenamed naming))
      (do
        let state ← get
        let returns := (state.activations.head?.map (·.returns)).getD []
        set { state with activations := state.activations.tail }
        match fallThrough with
        | some type =>
            if blockReturns function.body then
              return returns
            else
              return returns ++ [(type, function.name)]
        | none => return returns : Check (List (Ty × Token)))
      (do
        let state ← get
        let returns := (state.activations.head?.map (·.returns)).getD []
        set { state with activations := state.activations.tail }
        match other with
        | some type =>
            if blockReturns further.body then
              return returns
            else
              return returns ++ [(type, further.name)]
        | none => return returns : Check (List (Ty × Token))) := by
  refine .get fun state last states => ?_
  have returns := returns_activations states.activations
  have behind : List.Forall₂ (Activation.Renamed naming) state.activations.tail
      last.activations.tail := by
    simpa using List.forall₂_drop 1 states.activations
  have left : State.Renamed naming { state with activations := state.activations.tail }
      { last with activations := last.activations.tail } :=
    { states with activations := behind }
  refine .bind (.set left) fun _ _ _ => ?_
  cases renamed with
  | none => exact .pure returns
  | some type =>
      dsimp only
      rw [blockReturns_renamed functions.body]
      split
      · exact .pure returns
      · exact .pure (List.rel_append returns (.cons ⟨type, functions.name.tokens⟩ .nil))

theorem checkBody_succ (pair : ChecksPair naming fuel) (identifier : Nat)
    {arguments others : List Ty} {function second : DeclaredFunction} (frame : FrameId)
    (types : Ty.AreRenamed naming arguments others) (functions : function.Renamed naming second) :
    (pairing naming).Pairs (List.Forall₂ (ReturnRenamed naming))
      (Check.checkBody (fuel + 1) identifier arguments function frame)
      (Check.checkBody (fuel + 1) identifier others second frame) := by
  have statements := functions.body.statements
  have tail := functions.body.tail
  refine .bind (.modify fun state last states => ?_) fun _ _ _ => ?_
  · exact { states with activations := .cons ⟨rfl, types, .nil⟩ states.activations }
  rw [functions.place]
  refine (pair.checkAll _ _ _ statements).bind fun _ _ _ => ?_
  rw [statements.length_eq]
  generalize function.body.tail = found, second.body.tail = other at tail ⊢
  cases tail with
  | none => exact leaves functions (.some .unit)
  | some tail =>
      exact (pairs_reporting (pair.typeOf _ _ tail)).bind fun _ _ type => leaves functions type

theorem checkLet_succ (pair : ChecksPair naming fuel) (frame : FrameId) (place : Place)
    {name other : Token} {declared second : Option Ty} {initializer further : Expr}
    (names : name.NameRenamed naming other)
    (types : Option.Rel (Ty.Renamed naming) declared second)
    (renamed : initializer.Renamed naming further) :
    (pairing naming).Pairs (fun _ _ => True)
      (Check.checkLet (fuel + 1) frame place name declared initializer)
      (Check.checkLet (fuel + 1) frame place other second further) := by
  cases types with
  | none =>
      exact (pair.typeOf _ _ renamed).bind fun _ _ found => pairs_bind _ names.names found
  | some type =>
      refine (pairs_onFailure (pair.typeOf _ _ renamed) fun _ _ states =>
        states.bind _ names.names type).bind fun found last foundTypes =>
          (pairs_bind _ names.names type).bind fun _ _ _ => ?_
      rw [type.compatible foundTypes]
      split
      · exact pairs_fail (.initializerMismatch type foundTypes) names.tokens
      · exact .pure trivial

theorem checkAll_succ (pair : ChecksPair naming fuel) (frame : FrameId) (place : Place)
    (step : Nat) {stmts others : List Stmt}
    (renamed : List.Forall₂ (Stmt.Renamed naming) stmts others) :
    (pairing naming).Pairs (fun _ _ => True) (Check.checkAll (fuel + 1) frame place step stmts)
      (Check.checkAll (fuel + 1) frame place step others) := by
  cases renamed with
  | nil => exact .pure trivial
  | cons stmt stmts =>
      exact (pairs_reporting (pair.checkStmt _ _ stmt)).bind fun _ _ _ =>
        pair.checkAll _ _ _ stmts

theorem checkBlock_succ (pair : ChecksPair naming fuel) (frame : FrameId) (place : Place)
    {body other : Block} (renamed : body.Renamed naming other) :
    (pairing naming).Pairs (Ty.Renamed naming) (Check.checkBlock (fuel + 1) frame place body)
      (Check.checkBlock (fuel + 1) frame place other) := by
  cases renamed with
  | mk _ statements tail =>
      refine (pairs_nest _).bind ?_
      rintro inner _ rfl
      refine (pair.checkAll _ _ _ statements).bind fun _ _ _ => ?_
      rw [statements.length_eq]
      cases tail with
      | none => exact .pure .unit
      | some tail =>
          refine (pairs_reporting (pair.typeOf _ _ tail)).bind fun _ _ found => ?_
          cases found with
          | some type => exact .pure type
          | none => exact .throw .reported

theorem checkCondition_succ (pair : ChecksPair naming fuel) (frame : FrameId) (place : Place)
    {keyword other : Token} {condition second : Expr} (tokens : naming.tokens keyword other)
    (renamed : condition.Renamed naming second) :
    (pairing naming).Pairs (fun _ _ => True)
      (Check.checkCondition (fuel + 1) frame place keyword condition)
      (Check.checkCondition (fuel + 1) frame place other second) := by
  refine (pairs_reporting (pair.typeOf _ _ renamed)).bind fun _ _ found => ?_
  cases found with
  | none => exact .pure trivial
  | some type =>
      dsimp only
      rw [Ty.Renamed.bool.compatible type]
      split
      · exact pairs_report (.conditionNotBool type) tokens
      · exact .pure trivial

theorem checkBound_succ (pair : ChecksPair naming fuel) (frame : FrameId) (place : Place)
    {token other : Token} {bound second : Expr} (tokens : naming.tokens token other)
    (renamed : bound.Renamed naming second) :
    (pairing naming).Pairs (fun _ _ => True)
      (Check.checkBound (fuel + 1) frame place token bound)
      (Check.checkBound (fuel + 1) frame place other second) := by
  refine (pair.typeOf _ _ renamed).bind fun _ _ type => ?_
  rw [Ty.Renamed.number.compatible type]
  split
  · exact pairs_fail (.boundNotNumber type) tokens
  · exact .pure trivial

/-- Written types are the same in both programs. -/
theorem declared_renamed (declared : Option WrittenType) :
    Option.Rel (Ty.Renamed naming) (declared.map (·.type)) (declared.map (·.type)) := by
  cases declared with
  | none => exact .none
  | some written => exact .some written.type_renamed

theorem checkStmt_succ (pair : ChecksPair naming fuel) (frame : FrameId) (place : Place)
    {stmt other : Stmt} (renamed : stmt.Renamed naming other) :
    (pairing naming).Pairs (Ty.Renamed naming) (Check.checkStmt (fuel + 1) frame place stmt)
      (Check.checkStmt (fuel + 1) frame place other) := by
  cases renamed with
  | expression value => exact pair.typeOf _ _ value
  | letValue name initializer =>
      exact (pair.checkLet _ _ name (declared_renamed _) initializer).bind fun _ _ _ =>
        .pure .unit
  | block body => exact pair.checkBlock _ _ body
  | ifThen keyword condition consequent =>
      exact (pair.checkCondition _ _ keyword condition).bind fun _ _ _ =>
        (pair.checkBlock _ _ consequent).bind fun _ _ _ => .pure .unit
  | ifElse keyword condition consequent alternative =>
      exact (pair.checkCondition _ _ keyword condition).bind fun _ _ _ =>
        (pair.checkBlock _ _ consequent).bind fun _ _ _ =>
          (pair.checkStmt _ _ alternative).bind fun _ _ _ => .pure .unit
  | whileLoop keyword condition body =>
      exact (pair.checkCondition _ _ keyword condition).bind fun _ _ _ =>
        (pair.checkBlock _ _ body).bind fun _ _ _ => .pure .unit
  | @forLoop name second bounds range body further names boundsRenamed bodies =>
      have turns : (pairing naming).Pairs (Ty.Renamed naming)
          (do
            Check.checkBound fuel frame (place.child 2) bounds.token bounds.stop
            let inner ← nest frame
            define inner [(name.lexeme, .number)]
            let _ ← Check.checkBlock fuel inner (place.child 3) body
            return Ty.unit)
          (do
            Check.checkBound fuel frame (place.child 2) range.token range.stop
            let inner ← nest frame
            define inner [(second.lexeme, .number)]
            let _ ← Check.checkBlock fuel inner (place.child 3) further
            return Ty.unit) := by
        refine (pair.checkBound _ _ boundsRenamed.token boundsRenamed.stop).bind fun _ _ _ => ?_
        refine (pairs_nest frame).bind ?_
        rintro inner _ rfl
        refine (pairs_define inner (.cons ⟨names.names, .number⟩ .nil)).bind fun _ _ _ => ?_
        exact (pair.checkBlock _ _ bodies).bind fun _ _ _ => .pure .unit
      have step := boundsRenamed.step
      refine (pair.checkBound _ _ boundsRenamed.token boundsRenamed.start).bind fun _ _ _ => ?_
      generalize bounds.step = found, range.step = last at step ⊢
      cases step with
      | none => exact turns
      | some step =>
          exact (pair.checkBound _ _ boundsRenamed.token step).bind fun _ _ _ => turns
  | function name parameters body =>
      exact .bind (.modify fun _ _ states => states.declare _ _ name parameters body)
        fun _ _ _ => .pure .unit
  | @giveBack keyword second value last tokens values =>
      have returns : ∀ {type further : Ty}, type.Renamed naming further →
          (pairing naming).Pairs (Ty.Renamed naming)
            (do
              modify fun state => state.addReturn type keyword
              return Ty.unit)
            (do
              modify fun state => state.addReturn further second
              return Ty.unit) := fun types =>
        .bind (.modify fun _ _ states => states.addReturn types tokens) fun _ _ _ => .pure .unit
      refine .get fun state other states => ?_
      rw [rel_isEmpty states.activations]
      split
      · exact pairs_fail .returnOutsideFunction tokens
      · cases values with
        | none => exact returns .unit
        | some value => exact (pair.typeOf _ _ value).bind fun _ _ types => returns types

end ChecksPair

theorem checksPair (naming : Naming) (fuel : Nat) : ChecksPair naming fuel := by
  induction fuel with
  | zero => constructor <;> intros <;> exact .throw .exhausted
  | succ fuel pair =>
      exact
        { typeOf := pair.typeOf_succ
          typesOf := pair.typesOf_succ
          infer := pair.infer_succ
          callType := pair.callType_succ
          instantiate := pair.instantiate_succ
          checkBody := pair.checkBody_succ
          checkStmt := pair.checkStmt_succ
          checkLet := pair.checkLet_succ
          checkAll := pair.checkAll_succ
          checkBlock := pair.checkBlock_succ
          checkCondition := pair.checkCondition_succ
          checkBound := pair.checkBound_succ }

theorem pairs_checkStatements (fuel : Nat) (frame : FrameId) (place : Place) (step : Nat)
    {last other : Ty} (types : last.Renamed naming other) {stmts others : List Stmt}
    (renamed : List.Forall₂ (Stmt.Renamed naming) stmts others) :
    (pairing naming).Pairs (Ty.Renamed naming)
      (checkStatements fuel frame place step last stmts)
      (checkStatements fuel frame place step other others) := by
  induction renamed generalizing step last other with
  | nil => exact .pure types
  | cons stmt _ inductionHypothesis =>
      refine (pairs_reporting ((checksPair naming fuel).checkStmt _ _ stmt)).bind
        fun _ _ found => inductionHypothesis _ ?_
      cases found with
      | none => exact .unit
      | some type => exact type

theorem pairs_checkUncalled (fuel identifier : Nat) :
    (pairing naming).Pairs (fun _ _ => True) (checkUncalled fuel identifier)
      (checkUncalled fuel identifier) := by
  induction fuel generalizing identifier with
  | zero => exact .throw .exhausted
  | succ fuel pairs =>
      refine .get fun state other states => ?_
      have found := states.functions.item identifier
      generalize state.functions[identifier]? = first, other.functions[identifier]? = second
        at found ⊢
      cases found with
      | none => exact .pure trivial
      | some function =>
          have unknown : ∀ count : Nat, Ty.AreRenamed naming
              (List.replicate count .unknown) (List.replicate count .unknown) := fun count =>
            List.forall₂_same.2 fun type member => by
              rw [List.eq_of_mem_replicate member]
              exact .unknown
          dsimp only
          rw [rel_isEmpty function.instances, function.parameters.length_eq]
          split
          · exact (pairs_reporting ((checksPair naming fuel).instantiate _ function.name.names
              (unknown _) function.name.tokens)).bind fun _ _ _ => pairs _
          · exact pairs _

/-- Native functions that are called the same in both programs. -/
def NativesKept (naming : Naming) (natives : Bindings Signature) : Prop :=
  ∀ native ∈ natives, naming.names native.1 native.1 ∧
    native.2.type.Renamed naming native.2.type

theorem pairs_checkProgram (fuel : Nat) {natives : Bindings Signature}
    (kept : NativesKept naming natives) {program other : Program}
    (renamed : List.Forall₂ (Stmt.Renamed naming) program other) :
    (pairing naming).Pairs (Ty.Renamed naming) (checkProgram fuel natives program)
      (checkProgram fuel natives other) := by
  have bindings : Table.Paired naming.names (Ty.Renamed naming)
      (natives.map fun native => (native.1, native.2.type))
      (natives.map fun native => (native.1, native.2.type)) := by
    refine List.forall₂_same.2 fun binding member => ?_
    obtain ⟨native, inside, rfl⟩ := List.mem_map.1 member
    exact kept native inside
  refine .get fun state last states => ?_
  have size : state.scopes.frames.size = last.scopes.frames.size := states.scopes.size
  have opened := (states.scopes.add []).defineAll naming.unique state.scopes.frames.size bindings
  refine .bind (.set { states with
    scopes := ?_
    programs := congrArg (· + 1) states.programs }) fun _ _ _ => ?_
  · dsimp only
    rw [← size]
    exact opened
  · rw [size, states.programs]
    exact (pairs_checkStatements fuel _ _ 0 .unit renamed).bind fun _ _ type =>
      (pairs_checkUncalled fuel 0).bind fun _ _ _ => .pure type

end Check

/-- Verdicts on two programs that differ in names only. -/
inductive CheckResult.Renamed (naming : Naming) : CheckResult → CheckResult → Prop
  | accepted {type other : Ty} :
      type.Renamed naming other → Renamed naming (.accepted type) (.accepted other)
  | rejected {phase : Phase} {diagnostics others : List Diagnostic} :
      List.Forall₂ (Diagnostic.Renamed naming) diagnostics others →
        Renamed naming (.rejected ⟨phase, diagnostics⟩) (.rejected ⟨phase, others⟩)
  | faulted {fault other : Fault} :
      fault.Alike other → Renamed naming (.faulted fault) (.faulted other)
  | exhausted : Renamed naming .exhausted .exhausted

/-- A check accepts a program if and only if it accepts the renamed program, and finds the
same faults at the same places in both. -/
theorem Typing.State.check_renamed {naming : Naming} {natives : Bindings Signature}
    (kept : Check.NativesKept naming natives) (fuel : Nat) {program other : Program}
    (renamed : List.Forall₂ (Stmt.Renamed naming) program other) :
    CheckResult.Renamed naming (({} : Typing.State).check fuel natives program).1
      (({} : Typing.State).check fuel natives other).1 := by
  have start : State.Renamed naming {} {} :=
    ⟨.empty, .nil, ⟨rfl, fun _ => by simp⟩, .nil, rfl, rfl⟩
  have ends := Check.pairs_checkProgram fuel kept renamed {} {} start
  unfold check
  generalize Check.checkProgram fuel natives program {} = first,
    Check.checkProgram fuel natives other {} = second at ends ⊢
  cases ends with
  | ok type after =>
      dsimp only
      rw [rel_isEmpty after.diagnostics]
      split
      · exact .accepted type
      · exact .rejected after.diagnostics
  | error stop after =>
      cases stop with
      | failed | reported | exhausted => exact .exhausted
      | faulted alike => exact .faulted alike

end CheckedScript
