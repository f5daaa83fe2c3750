import CheckedScript.Proofs.Typing.Steps
import CheckedScript.Proofs.Walks.Visits

/-!
# What a successful check has seen

A part of a program without functions that has been checked, as part of a check
that reports nothing, has been visited, has a type, and its notes are those of
the final state.  For each form of expression and statement there is one lemma
that takes such a part to pieces.
-/

namespace CheckedScript

namespace Typing

open Check

/-- From a frame on, two states show the same bindings. -/
structure SameView (frame : FrameId) (before after : State) : Prop where
  path : after.scopes.path frame = before.scopes.path frame
  bindings : ∀ candidate ∈ before.scopes.path frame,
    after.scopes.bindings candidate = before.scopes.bindings candidate

namespace SameView

variable {frame : FrameId} {first second third : State}

theorem refl (frame : FrameId) (state : State) : SameView frame state state :=
  ⟨rfl, fun _ _ => rfl⟩

theorem symm (same : SameView frame first second) : SameView frame second first :=
  ⟨same.path.symm, fun candidate member => (same.bindings candidate (same.path ▸ member)).symm⟩

theorem trans (early : SameView frame first second) (late : SameView frame second third) :
    SameView frame first third :=
  ⟨late.path.trans early.path, fun candidate member =>
    (late.bindings candidate (early.path ▸ member)).trans (early.bindings candidate member)⟩

theorem get? (same : SameView frame first second) (name : String) :
    second.scopes.get? frame name = first.scopes.get? frame name :=
  Scopes.get?_congr same.path same.bindings name

theorem of_effect {footprint : Footprint} (effect : Effect footprint first second)
    (wellFormed : first.WellFormed) (present : frame < first.scopes.frames.size)
    (outside : ∀ other ∈ first.scopes.path frame, ¬ footprint.frames other) :
    SameView frame first second :=
  ⟨effect.grown.path present, fun candidate member => effect.bindings candidate
    (wellFormed.ordered.mem_path_lt present member) (outside candidate member)⟩

end SameView

/-- The circumstances of a part of a check that reports nothing, of a program
without functions: the notes of the part are those of the final state. -/
structure Within (final : State) (frame : FrameId) (before after : State)
    (places : Place → Prop) : Prop where
  clean : after.diagnostics = []
  plain : before.functions = #[]
  wellFormed : before.WellFormed
  present : frame < before.scopes.frames.size
  kept : ∀ place, places place → final.types.get? place = after.types.get? place

namespace Within

variable {final before after first second : State} {frame : FrameId} {places parts : Place → Prop}

/-- A part of a part. -/
theorem part {early now late : Footprint} (within : Within final frame before after places)
    (earlyEffect : Effect early before first) (nowEffect : Effect now first second)
    (lateEffect : Effect late second after) (noEarly : ¬ early.declares) (noNow : ¬ now.declares)
    (noLate : ¬ late.declares) (inside : ∀ place, parts place → places place)
    (disjoint : ∀ place, parts place → ¬ late.places place) :
    Within final frame first second parts := by
  have plainFirst := (earlyEffect.notes within.plain noEarly).1
  have plainSecond := (nowEffect.notes plainFirst noNow).1
  refine ⟨?_, plainFirst, earlyEffect.wellFormed within.wellFormed,
    Nat.lt_of_lt_of_le within.present earlyEffect.grown.size, fun place member => ?_⟩
  · exact List.prefix_nil.1 (within.clean ▸ lateEffect.diagnostics)
  · exact (within.kept place (inside place member)).trans
      ((lateEffect.notes plainSecond noLate).2 place (disjoint place member))

end Within

section Checked

variable (natives : Bindings Signature) (bound : Nat) (program : Program) (final : State)

/-- An expression has been checked in a frame and has a type. -/
structure ExprChecked (frame : FrameId) (place : Place) (expr : Expr) (type : Ty)
    (before after : State) : Prop where
  visited : ∃ fuel, Visited natives bound program ⟨fuel, frame, before, .expression place expr⟩ ∧
    typeOf fuel frame place expr before = .ok type after
  within : Within final frame before after (·.Under place)

/-- Several expressions have been checked. -/
structure ExprsChecked (frame : FrameId) (place : Place) (step : Nat) (exprs : List Expr)
    (types : List Ty) (before after : State) : Prop where
  visited : ∃ fuel,
    Visited natives bound program ⟨fuel, frame, before, .expressions place step exprs⟩ ∧
      typesOf fuel frame place step exprs before = .ok types after
  within : Within final frame before after
    fun other => ∃ child, step ≤ child ∧ other.Under (place.child child)

/-- A statement without functions has been checked. -/
structure StmtChecked (frame : FrameId) (place : Place) (stmt : Stmt) (type : Ty)
    (before after : State) : Prop where
  visited : ∃ fuel, Visited natives bound program ⟨fuel, frame, before, .statement place stmt⟩ ∧
    checkStmt fuel frame place stmt before = .ok type after
  within : Within final frame before after (·.Under place)
  plain : stmt.isPlain = true

/-- Statements without functions have been checked. -/
structure StmtsChecked (frame : FrameId) (place : Place) (step : Nat) (stmts : List Stmt)
    (before after : State) : Prop where
  visited : ∃ fuel,
    Visited natives bound program ⟨fuel, frame, before, .statements place step stmts⟩ ∧
      checkAll fuel frame place step stmts before = .ok () after
  within : Within final frame before after fun other =>
    ∃ child, step ≤ child ∧ child < step + stmts.length ∧ other.Under (place.child child)
  plain : Stmt.arePlain stmts = true

/-- A block without functions has been checked. -/
structure BlockChecked (frame : FrameId) (place : Place) (body : Block) (type : Ty)
    (before after : State) : Prop where
  visited : ∃ fuel, Visited natives bound program ⟨fuel, frame, before, .block place body⟩ ∧
    checkBlock fuel frame place body before = .ok type after
  within : Within final frame before after
    fun other => ∃ child, 0 ≤ child ∧ other.Under (place.child child)
  plain : body.isPlain = true

end Checked

section Expressions

variable {natives : Bindings Signature} {bound : Nat} {program : Program} {final : State}
  {frame : FrameId} {place : Place} {type : Ty} {before after : State}

/-- The type of an expression is noted for good, and its parts have been checked on
the way. -/
theorem ExprChecked.infer {expr : Expr}
    (checked : ExprChecked natives bound program final frame place expr type before after) :
    final.types.get? place = some (expr, type) ∧
      ∃ fuel middle,
        Visited natives bound program ⟨fuel + 2, frame, before, .expression place expr⟩ ∧
        Check.infer (fuel + 1) frame place expr before = .ok type middle ∧
        Within final frame before middle
          (fun other => ∃ child, 0 ≤ child ∧ other.Under (place.child child)) := by
  obtain ⟨⟨fuel, visited, equation⟩, within⟩ := checked
  obtain _ | _ | fuel := fuel
  · cases equation
  · rw [typeOf] at equation
    obtain ⟨_, _, inferred, _⟩ := bind_eq_ok equation
    cases inferred
  · rw [typeOf] at equation
    obtain ⟨found, middle, inferred, rest⟩ := bind_eq_ok equation
    obtain ⟨_, noted, modified, returned⟩ := bind_eq_ok rest
    obtain ⟨rfl, rfl⟩ := pure_eq_ok returned
    cases modified
    refine ⟨?_, fuel, middle, visited, inferred, ?_⟩
    · rw [within.kept place (.refl place)]
      simp [State.note]
    · exact
        { within with
          kept := by
            rintro other ⟨child, _, below⟩
            have different : place ≠ other := fun same =>
              Place.Under.irrefl_child (same ▸ below)
            rw [within.kept other below.of_child]
            simp [State.note, different] }

/-- An expression in the circumstances of its surroundings. -/
theorem Within.expression {places : Place → Prop} {early late : Footprint} {first second : State}
    {fuel : Nat} {inner : Place} {expr : Expr}
    (within : Within final frame before after places)
    (visited : Visited natives bound program ⟨fuel, frame, first, .expression inner expr⟩)
    (earlyEffect : Effect early before first)
    (equation : typeOf fuel frame inner expr first = .ok type second)
    (lateEffect : Effect late second after) (noEarly : ¬ early.declares) (noLate : ¬ late.declares)
    (inside : ∀ other, other.Under inner → places other)
    (disjoint : ∀ other, other.Under inner → ¬ late.places other) :
    ExprChecked natives bound program final frame inner expr type first second :=
  ⟨⟨fuel, visited, equation⟩, within.part earlyEffect
    (((allKeep fuel).typeOf frame inner expr first).effect equation) lateEffect noEarly not_false
    noLate inside disjoint⟩

theorem Within.expressions {places : Place → Prop} {early late : Footprint} {first second : State}
    {fuel step : Nat} {inner : Place} {exprs : List Expr} {types : List Ty}
    (within : Within final frame before after places)
    (visited : Visited natives bound program ⟨fuel, frame, first, .expressions inner step exprs⟩)
    (earlyEffect : Effect early before first)
    (equation : typesOf fuel frame inner step exprs first = .ok types second)
    (lateEffect : Effect late second after) (noEarly : ¬ early.declares) (noLate : ¬ late.declares)
    (inside : ∀ other child, step ≤ child → other.Under (inner.child child) → places other)
    (disjoint : ∀ other child, step ≤ child → other.Under (inner.child child) →
      ¬ late.places other) :
    ExprsChecked natives bound program final frame inner step exprs types first second :=
  ⟨⟨fuel, visited, equation⟩, within.part earlyEffect
    (((allKeep fuel).typesOf frame inner step exprs first).effect equation) lateEffect noEarly
    not_false noLate (fun other ⟨child, above, below⟩ => inside other child above below)
    fun other ⟨child, above, below⟩ => disjoint other child above below⟩

theorem ExprChecked.sameView {expr : Expr}
    (checked : ExprChecked natives bound program final frame place expr type before after) :
    SameView frame before after := by
  obtain ⟨⟨fuel, _, equation⟩, within⟩ := checked
  exact .of_effect (((allKeep fuel).typeOf frame place expr before).effect equation)
    within.wellFormed within.present fun _ _ => not_false

theorem ExprChecked.leaves {expr : Expr}
    (checked : ExprChecked natives bound program final frame place expr type before after) :
    after.WellFormed ∧ frame < after.scopes.frames.size := by
  obtain ⟨⟨fuel, _, equation⟩, within⟩ := checked
  have effect := ((allKeep fuel).typeOf frame place expr before).effect equation
  exact ⟨effect.wellFormed within.wellFormed, Nat.lt_of_lt_of_le within.present effect.grown.size⟩

theorem ExprsChecked.sameView {step : Nat} {exprs : List Expr} {types : List Ty}
    (checked : ExprsChecked natives bound program final frame place step exprs types before after) :
    SameView frame before after := by
  obtain ⟨⟨fuel, _, equation⟩, within⟩ := checked
  exact .of_effect (((allKeep fuel).typesOf frame place step exprs before).effect equation)
    within.wellFormed within.present fun _ _ => not_false

theorem Place.Under.not_child {top other : Place} {step child : Nat} (different : step ≠ child)
    (below : other.Under (top.child step)) : ¬ other.Under (top.child child) :=
  fun besides => different (below.child_inj besides)

theorem ExprChecked.literal {value : Constant} {token : Token}
    (checked : ExprChecked natives bound program final frame place (.literal value token) type
      before after) : type = constantType value := by
  obtain ⟨_, fuel, middle, _, inferred, _⟩ := checked.infer
  rw [Check.infer] at inferred
  exact (pure_eq_ok inferred).1.symm

theorem lookup?_bind_apply {α : Type} (frame : FrameId) (name : String)
    (next : Option Ty → Check α) (state : State) :
    (Check.lookup? frame name >>= next) state = next (state.scopes.get? frame name) state :=
  rfl

theorem ExprChecked.reference {name : Token}
    (checked : ExprChecked natives bound program final frame place (.reference name) type
      before after) : before.scopes.get? frame name.lexeme = some type := by
  obtain ⟨_, fuel, middle, _, inferred, _⟩ := checked.infer
  rw [Check.infer, lookup?_bind_apply] at inferred
  cases found : before.scopes.get? frame name.lexeme with
  | some found =>
      rw [found] at inferred
      rw [(pure_eq_ok inferred).1]
  | none =>
      rw [found] at inferred
      cases inferred

theorem ExprChecked.assign {name : Token} {value : Expr}
    (checked : ExprChecked natives bound program final frame place (.assign name value) type
      before after) :
    ∃ found middle,
      ExprChecked natives bound program final frame (place.child 0) value found before middle ∧
      before.scopes.get? frame name.lexeme = some type ∧ type.compatible found = true := by
  obtain ⟨_, fuel, last, visited, inferred, within⟩ := checked.infer
  rw [Check.infer] at inferred
  obtain ⟨found, middle, typed, rest⟩ := bind_eq_ok inferred
  have effect := ((allKeep fuel).typeOf frame (place.child 0) value before).effect typed
  rw [lookup?_bind_apply] at rest
  cases declared : middle.scopes.get? frame name.lexeme with
  | none =>
      rw [declared] at rest
      cases rest
  | some declared =>
      rw [declared] at rest
      dsimp only at rest
      split at rest
      · next compatible =>
          obtain ⟨rfl, rfl⟩ := pure_eq_ok rest
          have checkedValue := within.expression (.call visited .assigned rfl) (.rest before) typed
            (.rest middle) not_false not_false (fun other below => ⟨0, Nat.le_refl 0, below⟩)
            fun _ _ => not_false
          refine ⟨found, middle, checkedValue, ?_, compatible⟩
          rw [← checkedValue.sameView.get? name.lexeme]
          exact declared
      · cases rest

theorem ExprChecked.group {inner : Expr}
    (checked : ExprChecked natives bound program final frame place (.group inner) type
      before after) :
    ∃ last, ExprChecked natives bound program final frame (place.child 0) inner type before
      last := by
  obtain ⟨_, fuel, last, visited, inferred, within⟩ := checked.infer
  rw [Check.infer] at inferred
  exact ⟨last, within.expression (.call visited .inner rfl) (.rest before) inferred (.rest last)
    not_false not_false (fun other below => ⟨0, Nat.le_refl 0, below⟩) fun _ _ => not_false⟩

theorem ExprChecked.tuple {items : List Expr}
    (checked : ExprChecked natives bound program final frame place (.tuple items) type
      before after) :
    ∃ types last, type = .tuple types ∧
      ExprsChecked natives bound program final frame place 0 items types before last := by
  obtain ⟨_, fuel, last, visited, inferred, within⟩ := checked.infer
  rw [Check.infer] at inferred
  obtain ⟨types, middle, typed, rest⟩ := bind_eq_ok inferred
  obtain ⟨rfl, rfl⟩ := pure_eq_ok rest
  exact ⟨types, middle, rfl, within.expressions (.call visited .items rfl) (.rest before) typed
    (.rest middle) not_false not_false (fun other child above below => ⟨child, above, below⟩)
    fun _ _ _ _ => not_false⟩

theorem ExprChecked.unary {operator : UnaryOperator} {token : Token} {operand : Expr}
    (checked : ExprChecked natives bound program final frame place (.unary operator token operand)
      type before after) :
    ∃ found last,
      ExprChecked natives bound program final frame (place.child 0) operand found before last ∧
      unaryType? operator found = some type := by
  obtain ⟨_, fuel, last, visited, inferred, within⟩ := checked.infer
  rw [Check.infer] at inferred
  obtain ⟨found, middle, typed, rest⟩ := bind_eq_ok inferred
  cases chosen : unaryType? operator found with
  | none =>
      rw [chosen] at rest
      cases rest
  | some result =>
      rw [chosen] at rest
      obtain ⟨rfl, rfl⟩ := pure_eq_ok rest
      exact ⟨found, middle, within.expression (.call visited .operand rfl) (.rest before) typed
        (.rest middle) not_false not_false (fun other below => ⟨0, Nat.le_refl 0, below⟩)
        fun _ _ => not_false, chosen⟩

/-- Both operands of an operator. -/
theorem Within.operands {fuel : Nat} {left right : Expr} {leftType rightType : Ty}
    {middle last : State}
    (within : Within final frame before last
      (fun other => ∃ child, 0 ≤ child ∧ other.Under (place.child child)))
    (visitedLeft : Visited natives bound program
      ⟨fuel, frame, before, .expression (place.child 0) left⟩)
    (visitedRight : Visited natives bound program
      ⟨fuel, frame, middle, .expression (place.child 1) right⟩)
    (typedLeft : typeOf fuel frame (place.child 0) left before = .ok leftType middle)
    (typedRight : typeOf fuel frame (place.child 1) right middle = .ok rightType last) :
    ExprChecked natives bound program final frame (place.child 0) left leftType before middle ∧
      ExprChecked natives bound program final frame (place.child 1) right rightType middle
        last := by
  have leftEffect := ((allKeep fuel).typeOf frame (place.child 0) left before).effect typedLeft
  have rightEffect := ((allKeep fuel).typeOf frame (place.child 1) right middle).effect typedRight
  constructor
  · exact within.expression visitedLeft (.rest before) typedLeft rightEffect not_false not_false
      (fun other below => ⟨0, Nat.le_refl 0, below⟩) fun _ below => below.not_child (by decide)
  · exact within.expression visitedRight leftEffect typedRight (.rest last) not_false not_false
      (fun other below => ⟨1, Nat.zero_le 1, below⟩) fun _ _ => not_false

theorem ExprChecked.binary {operator : BinaryOperator} {token : Token} {left right : Expr}
    (checked : ExprChecked natives bound program final frame place
      (.binary operator token left right) type before after) :
    ∃ leftType rightType middle last,
      ExprChecked natives bound program final frame (place.child 0) left leftType before middle ∧
      ExprChecked natives bound program final frame (place.child 1) right rightType middle last ∧
      binaryType? operator leftType rightType = some type := by
  obtain ⟨_, fuel, last, visited, inferred, within⟩ := checked.infer
  rw [Check.infer] at inferred
  obtain ⟨leftType, middle, typedLeft, rest⟩ := bind_eq_ok inferred
  obtain ⟨rightType, finish, typedRight, rest⟩ := bind_eq_ok rest
  cases chosen : binaryType? operator leftType rightType with
  | none =>
      rw [chosen] at rest
      cases rest
  | some result =>
      rw [chosen] at rest
      obtain ⟨rfl, rfl⟩ := pure_eq_ok rest
      have operands := within.operands (.call visited .left rfl)
        (.call visited (.right typedLeft) rfl)
        typedLeft typedRight
      exact ⟨leftType, rightType, middle, finish, operands.1, operands.2, chosen⟩

theorem ExprChecked.logical {operator : LogicalOperator} {token : Token} {left right : Expr}
    (checked : ExprChecked natives bound program final frame place
      (.logical operator token left right) type before after) :
    ∃ leftType rightType middle last,
      ExprChecked natives bound program final frame (place.child 0) left leftType before middle ∧
      ExprChecked natives bound program final frame (place.child 1) right rightType middle last ∧
      Ty.bool.compatible leftType = true ∧ Ty.bool.compatible rightType = true ∧
      type = .bool := by
  obtain ⟨_, fuel, last, visited, inferred, within⟩ := checked.infer
  rw [Check.infer] at inferred
  obtain ⟨leftType, middle, typedLeft, rest⟩ := bind_eq_ok inferred
  obtain ⟨rightType, finish, typedRight, rest⟩ := bind_eq_ok rest
  split at rest
  · next compatible =>
      obtain ⟨rfl, rfl⟩ := pure_eq_ok rest
      obtain ⟨compatibleLeft, compatibleRight⟩ := Bool.and_eq_true_iff.1 compatible
      have operands := within.operands (.call visited .logicalLeft rfl)
        (.call visited (.logicalRight typedLeft) rfl) typedLeft typedRight
      exact ⟨leftType, rightType, middle, finish, operands.1, operands.2, compatibleLeft,
        compatibleRight, rfl⟩
  · cases rest

/-- Without declared functions only native functions can be called, or what has an
unknown type. -/
theorem callType_native {fuel : Nat} {callee : Ty} {arguments : List Ty} {paren : Token}
    (plain : before.functions = #[])
    (equation : callType fuel callee arguments paren before = .ok type after) :
    before = after ∧
      (callee = .unknown ∨ ∃ name parameters result, callee = .native name parameters result ∧
        nativeCallType name parameters result arguments = .ok type) := by
  cases fuel with
  | zero => cases equation
  | succ fuel =>
      cases callee with
      | native name parameters result =>
          rw [callType] at equation
          cases chosen : nativeCallType name parameters result arguments with
          | error cause =>
              rw [chosen] at equation
              cases equation
          | ok found =>
              rw [chosen] at equation
              obtain ⟨rfl, rfl⟩ := pure_eq_ok equation
              exact ⟨rfl, .inr ⟨name, parameters, result, rfl, chosen⟩⟩
      | function name identifier =>
          rw [callType] at equation
          obtain ⟨_, _, got, rest⟩ := bind_eq_ok equation
          cases got
          obtain ⟨_, _, found, _⟩ := bind_eq_ok rest
          rw [plain] at found
          cases found
      | unknown => exact ⟨(pure_eq_ok equation).2, .inl rfl⟩
      | bareNative | number | text | bool | displayable | tuple _ => cases equation

theorem ExprChecked.call {callee : Expr} {paren : Token} {arguments : List Expr}
    (checked : ExprChecked natives bound program final frame place
      (.call callee paren arguments) type before after) :
    ∃ calleeType argumentTypes middle last,
      ExprChecked natives bound program final frame (place.child 0) callee calleeType before
        middle ∧
      ExprsChecked natives bound program final frame place 1 arguments argumentTypes middle
        last ∧
      (calleeType = .unknown ∨
        ∃ name parameters result, calleeType = .native name parameters result ∧
          nativeCallType name parameters result argumentTypes = .ok type) := by
  obtain ⟨_, fuel, last, visited, inferred, within⟩ := checked.infer
  rw [Check.infer] at inferred
  obtain ⟨calleeType, middle, typedCallee, rest⟩ := bind_eq_ok inferred
  obtain ⟨argumentTypes, finish, typedArguments, rest⟩ := bind_eq_ok rest
  have calleeEffect :=
    ((allKeep fuel).typeOf frame (place.child 0) callee before).effect typedCallee
  have argumentsEffect :=
    ((allKeep fuel).typesOf frame place 1 arguments middle).effect typedArguments
  have plain := (argumentsEffect.notes (calleeEffect.notes within.plain not_false).1 not_false).1
  obtain ⟨rfl, cases⟩ := callType_native plain rest
  refine ⟨calleeType, argumentTypes, middle, finish, ?_, ?_, cases⟩
  · refine within.expression (.call visited .callee rfl) (.rest before) typedCallee argumentsEffect
      not_false not_false (fun other below => ⟨0, Nat.le_refl 0, below⟩) ?_
    rintro other below ⟨child, above, besides⟩
    have same := below.child_inj besides
    omega
  · exact within.expressions (.call visited (.arguments typedCallee) rfl) calleeEffect typedArguments
      (.rest finish) not_false not_false
      (fun other child _ below => ⟨child, Nat.zero_le child, below⟩) fun _ _ _ _ => not_false

theorem ExprsChecked.nil {step : Nat} {types : List Ty}
    (checked : ExprsChecked natives bound program final frame place step [] types before after) :
    types = [] := by
  obtain ⟨⟨fuel, _, equation⟩, _⟩ := checked
  cases fuel with
  | zero => cases equation
  | succ fuel => exact (pure_eq_ok equation).1.symm

theorem ExprsChecked.cons {step : Nat} {expr : Expr} {exprs : List Expr} {types : List Ty}
    (checked : ExprsChecked natives bound program final frame place step (expr :: exprs) types
      before after) :
    ∃ first others middle last, types = first :: others ∧
      ExprChecked natives bound program final frame (place.child step) expr first before middle ∧
      ExprsChecked natives bound program final frame place (step + 1) exprs others middle
        last := by
  obtain ⟨⟨fuel, visited, equation⟩, within⟩ := checked
  cases fuel with
  | zero => cases equation
  | succ fuel =>
      rw [typesOf] at equation
      obtain ⟨first, middle, typedFirst, rest⟩ := bind_eq_ok equation
      obtain ⟨others, last, typedOthers, rest⟩ := bind_eq_ok rest
      obtain ⟨rfl, rfl⟩ := pure_eq_ok rest
      have firstEffect :=
        ((allKeep fuel).typeOf frame (place.child step) expr before).effect typedFirst
      have othersEffect :=
        ((allKeep fuel).typesOf frame place (step + 1) exprs middle).effect typedOthers
      refine ⟨first, others, middle, last, rfl, ?_, ?_⟩
      · refine within.expression (.call visited .item rfl) (.rest before) typedFirst othersEffect
          not_false not_false (fun other below => ⟨step, Nat.le_refl step, below⟩) ?_
        rintro other below ⟨child, above, besides⟩
        have same := below.child_inj besides
        omega
      · exact within.expressions (.call visited (.otherItems typedFirst) rfl) firstEffect typedOthers
          (.rest last) not_false not_false
          (fun other child above below => ⟨child, by omega, below⟩) fun _ _ _ _ => not_false

end Expressions

section Statements

variable {natives : Bindings Signature} {bound : Nat} {program : Program} {final : State}
  {frame : FrameId} {place : Place} {type : Ty} {before after : State}

theorem covers_subtree_child (place : Place) (step : Nat) (state : State) :
    (Footprint.subtree place).Covers (.subtree (place.child step)) state :=
  ⟨fun _ _ none => none, fun _ below => below.of_child, fun none => none⟩

theorem Within.statement {places : Place → Prop} {early late : Footprint} {first second : State}
    {fuel : Nat} {inner : Place} {stmt : Stmt} (within : Within final frame before after places)
    (visited : Visited natives bound program ⟨fuel, frame, first, .statement inner stmt⟩)
    (earlyEffect : Effect early before first)
    (equation : checkStmt fuel frame inner stmt first = .ok type second)
    (lateEffect : Effect late second after) (plain : stmt.isPlain = true)
    (noEarly : ¬ early.declares) (noLate : ¬ late.declares)
    (inside : ∀ other, other.Under inner → places other)
    (disjoint : ∀ other, other.Under inner → ¬ late.places other) :
    StmtChecked natives bound program final frame inner stmt type first second := by
  have present := Nat.lt_of_lt_of_le within.present earlyEffect.grown.size
  have effect := ((allKeep fuel).checkStmt frame inner stmt first present).effect equation
  exact ⟨⟨fuel, visited, equation⟩, within.part earlyEffect effect lateEffect noEarly
    (by simp [Footprint.statement, plain]) noLate inside disjoint, plain⟩

/-- A block in the circumstances of its surroundings, possibly in a new frame. -/
theorem Within.block {places : Place → Prop} {early late : Footprint} {first second : State}
    {fuel : Nat} {inner : Place} {body : Block} {other : FrameId}
    (within : Within final frame before after places)
    (visited : Visited natives bound program ⟨fuel, other, first, .block inner body⟩)
    (earlyEffect : Effect early before first) (present : other < first.scopes.frames.size)
    (equation : checkBlock fuel other inner body first = .ok type second)
    (lateEffect : Effect late second after) (plain : body.isPlain = true)
    (noEarly : ¬ early.declares) (noLate : ¬ late.declares)
    (inside : ∀ place, place.Under inner → places place)
    (disjoint : ∀ place, place.Under inner → ¬ late.places place) :
    BlockChecked natives bound program final other inner body type first second := by
  have effect := ((allKeep fuel).checkBlock other inner body first present).effect equation
  have part : Within final frame first second fun place =>
      ∃ child, 0 ≤ child ∧ place.Under (inner.child child) :=
    within.part earlyEffect effect lateEffect noEarly (by simp [Footprint.block, plain]) noLate
      (fun place ⟨_, _, below⟩ => inside place below.of_child)
      fun place ⟨_, _, below⟩ => disjoint place below.of_child
  exact ⟨⟨fuel, visited, equation⟩, { part with present := present }, plain⟩

theorem BlockChecked.sameView {body : Block}
    (checked : BlockChecked natives bound program final frame place body type before after) :
    SameView frame before after := by
  obtain ⟨⟨fuel, _, equation⟩, within, _⟩ := checked
  exact .of_effect (((allKeep fuel).checkBlock frame place body before within.present).effect
    equation) within.wellFormed within.present fun _ _ => not_false

theorem StmtChecked.sameView {stmt : Stmt}
    (checked : StmtChecked natives bound program final frame place stmt type before after)
    (still : stmt.declares = false) : SameView frame before after := by
  obtain ⟨⟨fuel, _, equation⟩, within, _⟩ := checked
  refine .of_effect (((allKeep fuel).checkStmt frame place stmt before within.present).effect
    equation) within.wellFormed within.present fun _ _ inside => ?_
  exact absurd inside.2 (by simp [still])

theorem StmtChecked.expression {value : Expr}
    (checked : StmtChecked natives bound program final frame place (.expression value) type
      before after) :
    ExprChecked natives bound program final frame (place.child 0) value type before after := by
  obtain ⟨⟨fuel, visited, equation⟩, within, _⟩ := checked
  cases fuel with
  | zero => cases equation
  | succ fuel =>
      rw [checkStmt] at equation
      exact within.expression (.call visited .value rfl) (.rest before) equation (.rest after)
        not_false not_false (fun _ below => below.of_child) fun _ _ => not_false

theorem StmtChecked.block {body : Block}
    (checked : StmtChecked natives bound program final frame place (.block body) type
      before after) :
    BlockChecked natives bound program final frame place body type before after := by
  obtain ⟨⟨fuel, visited, equation⟩, within, plain⟩ := checked
  cases fuel with
  | zero => cases equation
  | succ fuel =>
      rw [checkStmt] at equation
      exact within.block (.call visited .block rfl) (.rest before) within.present equation
        (.rest after) plain not_false not_false (fun _ below => below) fun _ _ => not_false

/-- A condition and the block after it. -/
theorem Within.guarded {fuel : Nat} {keyword : Token} {condition : Expr} {body : Block}
    {middle last : State} {late : Footprint} (within : Within final frame before after (·.Under place))
    (visitedCondition : ∀ left, fuel = left + 1 → Visited natives bound program
      ⟨left, frame, before, .expression (place.child 0) condition⟩)
    (visitedBody : Visited natives bound program
      ⟨fuel, frame, middle, .block (place.child 1) body⟩)
    (tested : checkCondition fuel frame (place.child 0) keyword condition before = .ok () middle)
    (equation : checkBlock fuel frame (place.child 1) body middle = .ok type last)
    (lateEffect : Effect late last after) (plain : body.isPlain = true) (noLate : ¬ late.declares)
    (disjoint : ∀ other, other.Under (place.child 0) ∨ other.Under (place.child 1) →
      ¬ late.places other) :
    (∃ found, ExprChecked natives bound program final frame (place.child 0) condition found before
        middle ∧ Ty.bool.compatible found = true) ∧
      BlockChecked natives bound program final frame (place.child 1) body type middle last := by
  have conditionEffect :=
    ((allKeep fuel).checkCondition frame (place.child 0) keyword condition before).effect tested
  have present := Nat.lt_of_lt_of_le within.present conditionEffect.grown.size
  have bodyEffect :=
    ((allKeep fuel).checkBlock frame (place.child 1) body middle present).effect equation
  have clean : middle.diagnostics = [] :=
    List.prefix_nil.1 (within.clean ▸ bodyEffect.diagnostics.trans lateEffect.diagnostics)
  obtain ⟨left, found, rfl, typed, compatible⟩ := checkCondition_eq_ok tested clean
  have checkedBody := within.block visitedBody conditionEffect present equation lateEffect plain
    not_false noLate (fun _ below => below.of_child) fun other below => disjoint other (.inr below)
  refine ⟨⟨found, ?_, compatible⟩, checkedBody⟩
  -- Nothing after the condition leaves a note below it.
  have rest : Effect
      { late with
        places := fun other => late.places other ∨ other.Under (place.child 1) } middle after := by
    refine (bodyEffect.widen ?_).trans (lateEffect.widen ?_)
    · exact ⟨fun _ _ none => none.elim, fun _ ⟨_, _, below⟩ => .inr below.of_child,
        fun declares => by simp [Footprint.block, plain] at declares⟩
    · exact ⟨fun _ _ inside => inside, fun _ inside => .inl inside, fun declares => declares⟩
  refine within.expression (visitedCondition left rfl) (.rest before) typed rest not_false noLate
    (fun _ below => below.of_child) ?_
  rintro other below (inside | besides)
  · exact disjoint other (.inl below) inside
  · exact absurd (below.child_inj besides) (by decide)

theorem StmtChecked.ifThen {keyword : Token} {condition : Expr} {consequent : Block}
    (checked : StmtChecked natives bound program final frame place
      (.ifThen keyword condition consequent) type before after) :
    type = .unit ∧ ∃ found value middle,
      ExprChecked natives bound program final frame (place.child 0) condition found before
        middle ∧ Ty.bool.compatible found = true ∧
      BlockChecked natives bound program final frame (place.child 1) consequent value middle
        after := by
  obtain ⟨⟨fuel, visited, equation⟩, within, plain⟩ := checked
  cases fuel with
  | zero => cases equation
  | succ fuel =>
      rw [checkStmt] at equation
      obtain ⟨_, middle, tested, rest⟩ := bind_eq_ok equation
      obtain ⟨value, last, checkedBody, rest⟩ := bind_eq_ok rest
      obtain ⟨rfl, rfl⟩ := pure_eq_ok rest
      obtain ⟨⟨found, checkedCondition, compatible⟩, checkedBody⟩ := within.guarded
        (fun left same => by subst same; exact .call visited .ifCondition rfl)
        (.call visited (.ifConsequent tested) rfl) tested checkedBody (.rest last) plain not_false
        fun _ _ => not_false
      exact ⟨rfl, found, value, middle, checkedCondition, compatible, checkedBody⟩

theorem StmtChecked.whileLoop {keyword : Token} {condition : Expr} {body : Block}
    (checked : StmtChecked natives bound program final frame place
      (.whileLoop keyword condition body) type before after) :
    type = .unit ∧ ∃ found value middle,
      ExprChecked natives bound program final frame (place.child 0) condition found before
        middle ∧ Ty.bool.compatible found = true ∧
      BlockChecked natives bound program final frame (place.child 1) body value middle after := by
  obtain ⟨⟨fuel, visited, equation⟩, within, plain⟩ := checked
  cases fuel with
  | zero => cases equation
  | succ fuel =>
      rw [checkStmt] at equation
      obtain ⟨_, middle, tested, rest⟩ := bind_eq_ok equation
      obtain ⟨value, last, checkedBody, rest⟩ := bind_eq_ok rest
      obtain ⟨rfl, rfl⟩ := pure_eq_ok rest
      obtain ⟨⟨found, checkedCondition, compatible⟩, checkedBody⟩ := within.guarded
        (fun left same => by subst same; exact .call visited .whileCondition rfl)
        (.call visited (.whileBody tested) rfl) tested checkedBody (.rest last) plain not_false
        fun _ _ => not_false
      exact ⟨rfl, found, value, middle, checkedCondition, compatible, checkedBody⟩

theorem StmtChecked.ifElse {keyword : Token} {condition : Expr} {consequent : Block}
    {alternative : Stmt}
    (checked : StmtChecked natives bound program final frame place
      (.ifElse keyword condition consequent alternative) type before after) :
    type = .unit ∧ ∃ found value other middle last,
      ExprChecked natives bound program final frame (place.child 0) condition found before
        middle ∧ Ty.bool.compatible found = true ∧
      BlockChecked natives bound program final frame (place.child 1) consequent value middle
        last ∧
      StmtChecked natives bound program final frame (place.child 2) alternative other last
        after := by
  obtain ⟨⟨fuel, visited, equation⟩, within, plain⟩ := checked
  cases fuel with
  | zero => cases equation
  | succ fuel =>
      rw [checkStmt] at equation
      obtain ⟨_, middle, tested, rest⟩ := bind_eq_ok equation
      obtain ⟨value, last, checkedBody, rest⟩ := bind_eq_ok rest
      obtain ⟨other, finish, checkedOther, rest⟩ := bind_eq_ok rest
      obtain ⟨rfl, rfl⟩ := pure_eq_ok rest
      obtain ⟨plainBody, plainOther⟩ := Bool.and_eq_true_iff.1 plain
      have conditionEffect := ((allKeep fuel).checkCondition frame (place.child 0) keyword
        condition before).effect tested
      have presentMiddle := Nat.lt_of_lt_of_le within.present conditionEffect.grown.size
      have bodyEffect := ((allKeep fuel).checkBlock frame (place.child 1) consequent middle
        presentMiddle).effect checkedBody
      have presentLast := Nat.lt_of_lt_of_le presentMiddle bodyEffect.grown.size
      have otherEffect := ((allKeep fuel).checkStmt frame (place.child 2) alternative last
        presentLast).effect checkedOther
      have noOther : ¬ (Footprint.statement frame (place.child 2) alternative).declares := by
        simp [Footprint.statement, plainOther]
      have disjoint : ∀ node : Place, node.Under (place.child 0) ∨ node.Under (place.child 1) →
          ¬ (Footprint.statement frame (place.child 2) alternative).places node := by
        rintro node (below | below) besides
        · exact absurd (below.child_inj besides) (by decide)
        · exact absurd (below.child_inj besides) (by decide)
      obtain ⟨⟨found, checkedCondition, compatible⟩, bodyChecked⟩ := within.guarded
        (fun left same => by subst same; exact .call visited .elseCondition rfl)
        (.call visited (.elseConsequent tested) rfl) tested checkedBody otherEffect plainBody noOther
        disjoint
      have early : Effect (.statement frame place (.ifThen keyword condition consequent)) before
          last := by
        refine (conditionEffect.widen (AllKeep.covers_statement_subtree frame place 0 _ before)).trans
          (bodyEffect.widen ⟨fun _ _ none => none.elim, ?_, fun declares => declares⟩)
        rintro _ ⟨_, _, below⟩
        exact below.of_child.of_child
      have otherVisited := Visited.call visited (.alternative tested checkedBody) rfl
      have otherChecked := within.statement otherVisited early
        checkedOther (.rest finish) plainOther
        (by simp [Footprint.statement, Stmt.isPlain, plainBody]) not_false
        (fun _ below => below.of_child) fun _ _ => not_false
      exact ⟨rfl, found, value, other, middle, last, checkedCondition, compatible, bodyChecked,
        otherChecked⟩

/-- A `let` statement binds the type of its initializer, or a written type that it
is compatible with. -/
theorem StmtChecked.letValue {name : Token} {declared : Option WrittenType} {initializer : Expr}
    (checked : StmtChecked natives bound program final frame place
      (.letValue name declared initializer) type before after) :
    type = .unit ∧ ∃ found binding middle,
      ExprChecked natives bound program final frame (place.child 0) initializer found before
        middle ∧ after = middle.bind frame name.lexeme binding ∧
      (binding = found ∨ ∃ written : WrittenType, binding = written.type ∧
        binding.compatible found = true) := by
  obtain ⟨⟨fuel, visited, equation⟩, within, _⟩ := checked
  cases fuel with
  | zero => cases equation
  | succ fuel =>
      rw [checkStmt] at equation
      obtain ⟨_, last, extended, rest⟩ := bind_eq_ok equation
      obtain ⟨rfl, rfl⟩ := pure_eq_ok rest
      obtain ⟨left, found, binding, middle, rfl, typed, rfl, bindingType⟩ := checkLet_eq_ok extended
      have typedEffect :=
        ((allKeep left).typeOf frame (place.child 0) initializer before).effect typed
      have bindEffect : Effect { Footprint.nothing with frames := fun other => other = frame }
          middle (middle.bind frame name.lexeme binding) :=
        .bind middle name.lexeme binding
          (Nat.lt_of_lt_of_le within.present typedEffect.grown.size) rfl
      have checkedValue := within.expression (.call visited .initializer rfl) (.rest before) typed
        bindEffect not_false not_false (fun _ below => below.of_child) fun _ _ => not_false
      exact ⟨rfl, found, binding, middle, checkedValue, rfl, bindingType⟩

/-- A bound of a loop has been checked and is a number. -/
def BoundChecked (natives : Bindings Signature) (bound : Nat) (program : Program) (final : State)
    (frame : FrameId) (place : Place) (expr : Expr) (before after : State) : Prop :=
  ∃ found, ExprChecked natives bound program final frame place expr found before after ∧
    Ty.number.compatible found = true

/-- The step of a loop has been checked, if it is written. -/
inductive StepsChecked (natives : Bindings Signature) (bound : Nat) (program : Program)
    (final : State) (frame : FrameId) (place : Place) : Option Expr → State → State → Prop
  | absent {state : State} : StepsChecked natives bound program final frame place none state state
  | written {step : Expr} {before after : State} :
      BoundChecked natives bound program final frame place step before after →
      StepsChecked natives bound program final frame place (some step) before after

theorem StepsChecked.sameView {step : Option Expr}
    (checked : StepsChecked natives bound program final frame place step before after) :
    SameView frame before after := by
  cases checked with
  | absent => exact .refl frame before
  | written checked =>
      obtain ⟨_, checked, _⟩ := checked
      exact checked.sameView

theorem StmtsChecked.nil {step : Nat}
    (checked : StmtsChecked natives bound program final frame place step [] before after) :
    before = after := by
  obtain ⟨⟨fuel, _, equation⟩, _⟩ := checked
  cases fuel with
  | zero => cases equation
  | succ fuel => exact (pure_eq_ok equation).2

theorem StmtsChecked.cons {step : Nat} {stmt : Stmt} {stmts : List Stmt}
    (checked : StmtsChecked natives bound program final frame place step (stmt :: stmts)
      before after) :
    ∃ type middle,
      StmtChecked natives bound program final frame (place.child step) stmt type before middle ∧
      StmtsChecked natives bound program final frame place (step + 1) stmts middle after := by
  obtain ⟨⟨fuel, visited, equation⟩, within, plain⟩ := checked
  cases fuel with
  | zero => cases equation
  | succ fuel =>
      rw [checkAll] at equation
      obtain ⟨result, middle, reported, rest⟩ := bind_eq_ok equation
      obtain ⟨plainFirst, plainRest⟩ := Bool.and_eq_true_iff.1 plain
      have keeps := (allKeep fuel).checkStmt frame (place.child step) stmt before within.present
      have present := Nat.lt_of_lt_of_le within.present
        (keeps.reporting.effect reported).grown.size
      have restEffect :=
        ((allKeep fuel).checkAll frame place (step + 1) stmts middle present).effect rest
      have clean : middle.diagnostics = [] :=
        List.prefix_nil.1 (within.clean ▸ restEffect.diagnostics)
      obtain ⟨type, rfl, checkedFirst⟩ := reporting_eq_ok keeps reported clean
      have noFirst : ¬ (Footprint.statement frame (place.child step) stmt).declares := by
        simp [Footprint.statement, plainFirst]
      have noRest : ¬ (Footprint.statements frame place (step + 1) stmts).declares := by
        simp [Footprint.statements, plainRest]
      refine ⟨type, middle, ?_, ⟨fuel, .call visited (.others reported) rfl, rest⟩, ?_, plainRest⟩
      · refine within.statement (.call visited .first rfl) (.rest before) checkedFirst restEffect
          plainFirst not_false noRest (fun _ below => ⟨step, Nat.le_refl step, by simp, below⟩) ?_
        rintro other below ⟨child, above, besides⟩
        have same := below.child_inj besides
        omega
      · refine within.part (keeps.effect checkedFirst) restEffect (.rest after) noFirst noRest
          not_false ?_ fun _ _ => not_false
        rintro _ ⟨child, above, lower, below⟩
        exact ⟨child, by omega, by rw [List.length_cons]; omega, below⟩

/-- The statements of a block are checked in a new frame, and then its tail. -/
theorem BlockChecked.parts {brace : Token} {stmts : List Stmt} {tail : Option Expr}
    (checked : BlockChecked natives bound program final frame place (.mk brace stmts tail) type
      before after) :
    ∃ middle,
      StmtsChecked natives bound program final before.next place 0 stmts (before.nested frame)
        middle ∧
      match tail with
      | none => type = .unit ∧ middle = after
      | some tail =>
          ExprChecked natives bound program final before.next (place.child stmts.length) tail type
            middle after := by
  obtain ⟨⟨fuel, visited, equation⟩, within, plain⟩ := checked
  cases fuel with
  | zero => cases equation
  | succ fuel =>
      rw [checkBlock] at equation
      obtain ⟨inner, start, nested, rest⟩ := bind_eq_ok equation
      cases nested
      obtain ⟨_, middle, checkedStatements, rest⟩ := bind_eq_ok rest
      have plainStatements : Stmt.arePlain stmts = true := plain
      have nestedEffect := effect_nested before within.present
      have presentInner : before.next < (before.nested frame).scopes.frames.size := by
        simp [State.nested, State.next]
      have statementsEffect := ((allKeep fuel).checkAll before.next place 0 stmts
        (before.nested frame) presentInner).effect checkedStatements
      have noStatements : ¬ (Footprint.statements before.next place 0 stmts).declares := by
        simp [Footprint.statements, plainStatements]
      have statements : ∀ {late : Footprint}, Effect late middle after → ¬ late.declares →
          (∀ other child, child < stmts.length → other.Under (place.child child) →
            ¬ late.places other) →
          StmtsChecked natives bound program final before.next place 0 stmts
            (before.nested frame) middle := by
        intro late lateEffect noLate disjoint
        have part : Within final frame (before.nested frame) middle fun other =>
            ∃ child, 0 ≤ child ∧ child < 0 + stmts.length ∧ other.Under (place.child child) := by
          refine within.part nestedEffect statementsEffect lateEffect not_false noStatements noLate
            ?_ ?_
          · rintro other ⟨child, above, _, below⟩
            exact ⟨child, above, below⟩
          · rintro other ⟨child, _, lower, below⟩
            exact disjoint other child (by omega) below
        exact ⟨⟨fuel, .call visited .blockStatements rfl, checkedStatements⟩,
          { part with present := presentInner }, plainStatements⟩
      cases tail with
      | none =>
          obtain ⟨rfl, rfl⟩ := pure_eq_ok rest
          exact ⟨middle, statements (.rest middle) not_false fun _ _ _ _ => not_false, rfl, rfl⟩
      | some tail =>
          obtain ⟨result, last, reported, rest⟩ := bind_eq_ok rest
          cases result with
          | none => cases rest
          | some found =>
              obtain ⟨rfl, rfl⟩ := pure_eq_ok rest
              have keeps := (allKeep fuel).typeOf before.next (place.child stmts.length) tail middle
              obtain ⟨_, same, typed⟩ := reporting_eq_ok keeps reported within.clean
              cases same
              have tailEffect := keeps.effect typed
              refine ⟨middle, statements tailEffect not_false ?_, ?_⟩
              · intro other child lower below besides
                have same := below.child_inj besides
                omega
              · have early : Effect (.statements before.next place 0 stmts) before middle :=
                  (nestedEffect.widen (Footprint.covers_nothing _ before)).trans statementsEffect
                have part := within.part early tailEffect (.rest last) noStatements not_false
                  not_false (fun other below => ⟨stmts.length, Nat.zero_le _, below⟩)
                  fun _ _ => not_false
                have presentMiddle := Nat.lt_of_lt_of_le presentInner statementsEffect.grown.size
                exact ⟨⟨fuel, .call visited (.blockTail checkedStatements) rfl, typed⟩,
                  { part with present := presentMiddle }⟩

/-- A bound of a loop in the circumstances of the loop. -/
theorem Within.loopBound {fuel child : Nat} {token : Token} {expr : Expr} {first second : State}
    (within : Within final frame before after (·.Under place))
    (visited : ∀ left, fuel = left + 1 → Visited natives bound program
      ⟨left, frame, first, .expression (place.child child) expr⟩)
    (earlyEffect : Effect (.subtree place) before first)
    (equation : checkBound fuel frame (place.child child) token expr first = .ok () second)
    (lateEffect : Effect (.children place (child + 1)) second after) :
    BoundChecked natives bound program final frame (place.child child) expr first second := by
  obtain ⟨left, found, rfl, typed, compatible⟩ := checkBound_eq_ok equation
  refine ⟨found, within.expression (visited left rfl) earlyEffect typed lateEffect not_false
    not_false (fun _ below => below.of_child) ?_, compatible⟩
  rintro other below ⟨later, above, besides⟩
  have same := below.child_inj besides
  omega

/-- The body of a loop over numbers is checked in the frame of the loop variable. -/
theorem StmtChecked.forLoop {name : Token} {bounds : Bounds} {body : Block}
    (checked : StmtChecked natives bound program final frame place (.forLoop name bounds body)
      type before after) :
    type = .unit ∧ ∃ first second third value,
      BoundChecked natives bound program final frame (place.child 0) bounds.start before first ∧
      StepsChecked natives bound program final frame (place.child 1) bounds.step first second ∧
      BoundChecked natives bound program final frame (place.child 2) bounds.stop second third ∧
      BlockChecked natives bound program final third.next (place.child 3) body value
        (third.turn frame name.lexeme) after := by
  obtain ⟨⟨fuel, visited, equation⟩, within, plain⟩ := checked
  cases fuel with
  | zero => cases equation
  | succ fuel =>
      rw [checkStmt] at equation
      obtain ⟨_, first, startChecked, rest⟩ := bind_eq_ok equation
      have startEffect := ((allKeep fuel).checkBound frame (place.child 0) bounds.token
        bounds.start before).effect startChecked
      -- What comes after the step does not depend on whether the step is written.
      obtain ⟨second, stepChecked, stepEffect, rest⟩ : ∃ second,
          StepChecked fuel frame (place.child 1) bounds.token bounds.step first second ∧
          Effect (.subtree (place.child 1)) first second ∧
          (do
            checkBound fuel frame (place.child 2) bounds.token bounds.stop
            let inner ← Check.nest frame
            Check.define inner [(name.lexeme, .number)]
            let _ ← checkBlock fuel inner (place.child 3) body
            return Ty.unit : Check Ty) second = .ok type after := by
        cases written : bounds.step with
        | none =>
            rw [written] at rest
            exact ⟨first, .absent, .refl _ first, rest⟩
        | some step =>
            rw [written] at rest
            obtain ⟨_, second, stepChecked, rest⟩ := bind_eq_ok rest
            exact ⟨second, .written stepChecked, ((allKeep fuel).checkBound frame (place.child 1)
              bounds.token step first).effect stepChecked, rest⟩
      obtain ⟨_, third, stopChecked, rest⟩ := bind_eq_ok rest
      obtain ⟨inner, nested, nests, rest⟩ := bind_eq_ok rest
      cases nests
      obtain ⟨_, defined, defines, rest⟩ := bind_eq_ok rest
      cases defines
      obtain ⟨value, last, bodyChecked, rest⟩ := bind_eq_ok rest
      obtain ⟨rfl, rfl⟩ := pure_eq_ok rest
      have bodyChecked : checkBlock fuel third.next (place.child 3) body
          (third.turn frame name.lexeme) = .ok value last := bodyChecked
      have plainBody : body.isPlain = true := plain
      have stopEffect := ((allKeep fuel).checkBound frame (place.child 2) bounds.token
        bounds.stop second).effect stopChecked
      have toFirst : Effect (.subtree place) before first :=
        startEffect.widen (covers_subtree_child place 0 before)
      have toSecond := toFirst.trans (stepEffect.widen (covers_subtree_child place 1 first))
      have toThird := toSecond.trans (stopEffect.widen (covers_subtree_child place 2 second))
      have presentThird := Nat.lt_of_lt_of_le within.present toThird.grown.size
      have turnEffect := effect_turn third name.lexeme presentThird
      have presentInner : third.next < (third.turn frame name.lexeme).scopes.frames.size := by
        simp [State.turn, State.nested, State.next]
      have bodyEffect := ((allKeep fuel).checkBlock third.next (place.child 3) body
        (third.turn frame name.lexeme) presentInner).effect bodyChecked
      have fromThird : Effect (.children place 3) third last := by
        refine (turnEffect.widen (Footprint.covers_nothing _ third)).trans (bodyEffect.widen ?_)
        refine ⟨fun _ _ none => none, ?_,
          fun declares => by simp [Footprint.block, plainBody] at declares⟩
        rintro _ ⟨_, _, below⟩
        exact ⟨3, Nat.le_refl 3, below.of_child⟩
      have fromSecond : Effect (.children place 2) second last :=
        (stopEffect.widen (Footprint.covers_children_subtree place (Nat.le_refl 2) second)).trans
          (fromThird.widen (Footprint.covers_children place (by decide) third))
      have fromFirst : Effect (.children place 1) first last :=
        (stepEffect.widen (Footprint.covers_children_subtree place (Nat.le_refl 1) first)).trans
          (fromSecond.widen (Footprint.covers_children place (by decide) second))
      refine ⟨rfl, first, second, third, value, ?_, ?_, ?_, ?_⟩
      · exact within.loopBound (fun left same => by subst same; exact .call visited .forStart rfl)
          (.refl _ before) startChecked fromFirst
      · cases written : bounds.step with
        | none =>
            rw [written] at stepChecked
            cases stepChecked
            exact .absent
        | some step =>
            rw [written] at stepChecked
            cases stepChecked with
            | written stepChecked =>
                exact .written (within.loopBound (fun left same => by
                  subst same
                  exact .call visited (.forStep startChecked written) rfl) toFirst stepChecked
                  fromSecond)
      · exact within.loopBound (fun left same => by
          subst same
          exact .call visited (.forStop startChecked stepChecked) rfl) toSecond stopChecked fromThird
      · have early : Effect (.subtree place) before (third.turn frame name.lexeme) :=
          toThird.trans (turnEffect.widen (Footprint.covers_nothing _ third))
        exact within.block (.call visited (.forBody startChecked stepChecked stopChecked) rfl) early
          presentInner bodyChecked (.rest last) plainBody not_false not_false
          (fun _ below => below.of_child) fun _ _ => not_false

theorem StmtChecked.giveBack {keyword : Token} {value : Expr}
    (checked : StmtChecked natives bound program final frame place
      (.giveBack keyword (some value)) type before after) :
    ∃ found last,
      ExprChecked natives bound program final frame (place.child 0) value found before last := by
  obtain ⟨⟨fuel, visited, equation⟩, within, _⟩ := checked
  cases fuel with
  | zero => cases equation
  | succ fuel =>
      rw [checkStmt] at equation
      obtain ⟨_, _, got, rest⟩ := bind_eq_ok equation
      cases got
      split at rest
      · cases rest
      · next active =>
        obtain ⟨found, middle, typed, rest⟩ := bind_eq_ok rest
        obtain ⟨_, last, added, rest⟩ := bind_eq_ok rest
        cases added
        obtain ⟨rfl, rfl⟩ := pure_eq_ok rest
        have taken : before.activations.isEmpty = false := Bool.eq_false_iff.2 active
        exact ⟨found, middle, within.expression (.call visited .returned taken) (.rest before) typed
          (.addReturn .nothing middle found keyword) not_false not_false
          (fun _ below => below.of_child) fun _ _ => not_false⟩

end Statements

end Typing

end CheckedScript
