import CheckedScript.Evaluation.Evaluate
import CheckedScript.Proofs.Moving.Computations
import CheckedScript.Proofs.Moving.Scopes
import CheckedScript.Proofs.Moving.Trees

/-!
# Running moved programs

A run never asks where a token stands.  Function values hold the bodies they were
declared with, so the values of a moved program are moved as well; their texts and
their equality do not show it.  What native functions do must not show it either.
-/

namespace CheckedScript

variable (moved : Position → Position)

namespace Value

mutual

/-- A value with moved function bodies. -/
def move : Value → Value
  | tuple items => tuple (moveAll items)
  | function closure => function { closure with body := closure.body.move moved }
  | number value => number value
  | text value => text value
  | bool value => bool value
  | native key signature => native key signature
  | range numbers => range numbers

/-- Several values with moved function bodies. -/
def moveAll : List Value → List Value
  | [] => []
  | item :: items => move item :: moveAll items

end

@[simp]
theorem moveAll_eq_map (items : List Value) : moveAll moved items = items.map (move moved) := by
  induction items with
  | nil => rfl
  | cons item items inductionHypothesis => rw [moveAll, inductionHypothesis, List.map_cons]

mutual

theorem display_move (value : Value) : (value.move moved).display = value.display := by
  cases value with
  | tuple items => rw [move, display, display, displayAll_moveAll items]
  | number _ | text _ | bool _ | function _ | native _ _ | range _ => rfl

theorem displayAll_moveAll (items : List Value) :
    displayAll (moveAll moved items) = displayAll items := by
  cases items with
  | nil => rfl
  | cons item items =>
      rw [moveAll, displayAll, displayAll, display_move item, displayAll_moveAll items]

end

mutual

theorem quoted_move (value : Value) : (value.move moved).quoted = value.quoted := by
  cases value with
  | tuple items => rw [move, quoted, quoted, quotedAll_moveAll items]
  | number _ | text _ | bool _ | function _ | native _ _ | range _ => rfl

theorem quotedAll_moveAll (items : List Value) :
    quotedAll (moveAll moved items) = quotedAll items := by
  cases items with
  | nil => rfl
  | cons item items =>
      rw [moveAll, quotedAll, quotedAll, quoted_move item, quotedAll_moveAll items]

end

mutual

theorem equal_move (left right : Value) :
    (left.move moved).equal (right.move moved) = left.equal right := by
  cases left with
  | tuple items =>
      cases right with
      | tuple others => rw [move, move, equal, equal, equalAll_moveAll items others]
      | number _ | text _ | bool _ | function _ | native _ _ | range _ => rfl
  | number _ | text _ | bool _ | function _ | native _ _ | range _ => cases right <;> rfl

theorem equalAll_moveAll (lefts rights : List Value) :
    equalAll (moveAll moved lefts) (moveAll moved rights) = equalAll lefts rights := by
  cases lefts with
  | nil => cases rights <;> rfl
  | cons left lefts =>
      cases rights with
      | nil => rfl
      | cons right rights =>
          rw [moveAll, moveAll, equalAll, equalAll, equal_move left right,
            equalAll_moveAll lefts rights]

end

end Value

/-- The result of a native function with moved function bodies. -/
def NativeResult.move : NativeResult → NativeResult
  | value result => value (result.move moved)
  | failed reason => failed reason
  | aborted reason => aborted reason

/-- A native function that does not see where the bodies of functions stand. -/
def Native.Blind (native : Native) : Prop :=
  ∀ values console, native.run (values.map (Value.move moved)) console =
    ((native.run values console).1.move moved, (native.run values console).2)

namespace Evaluation

/-- A reason to stop with moved tokens. -/
def Stop.move : Stop → Stop
  | returned value => returned (value.move moved)
  | failed diagnostic => failed (diagnostic.move moved)
  | faulted fault => faulted fault
  | aborted reason => aborted reason
  | exhausted => exhausted

/-- A machine with moved function bodies. -/
def Machine.move (machine : Machine) : Machine where
  scopes := Scopes.behind {} (Value.move moved) machine.scopes
  console := machine.console

/-- All tokens are moved. -/
def motion : Motion Stop Machine where
  stop := Stop.move moved
  state := Machine.move moved
  admits _ := True

/-- A value or a reason to stop, moved. -/
def carried {α β : Type} (value : α → β) : Except Stop α → Except Stop β
  | .ok found => .ok (value found)
  | .error stop => .error (stop.move moved)

variable (token : Token)

theorem truth_move (value : Value) :
    truth (token.move moved) (value.move moved) = carried moved id (truth token value) := by
  cases value with
  | tuple items =>
      change Except.error (Stop.faulted (.operand token.lexeme ((Value.tuple items).move moved).quoted)) =
        _
      rw [Value.quoted_move]
      rfl
  | number _ | text _ | bool _ | function _ | native _ _ | range _ => rfl

theorem numbers_move (left right : Value) :
    numbers (token.move moved) (left.move moved) (right.move moved) =
      carried moved id (numbers token left right) := by
  have refused : Stop.faulted
      (.operands token.lexeme (left.move moved).quoted (right.move moved).quoted) =
      .faulted (.operands token.lexeme left.quoted right.quoted) := by
    rw [Value.quoted_move, Value.quoted_move]
  cases left <;> cases right <;>
    first | rfl | exact congrArg Except.error refused

theorem applyUnary_move (operator : UnaryOperator) (operand : Value) :
    applyUnary operator (token.move moved) (operand.move moved) =
      carried moved (Value.move moved) (applyUnary operator token operand) := by
  cases operator with
  | invert =>
      rw [applyUnary, applyUnary, truth_move]
      cases truth token operand <;> rfl
  | negate =>
      have refused : Stop.faulted (.operand "-" (operand.move moved).quoted) =
          .faulted (.operand "-" operand.quoted) := by
        rw [Value.quoted_move]
      cases operand <;> first | rfl | exact congrArg Except.error refused

theorem applyNumeric_move (operator : BinaryOperator) (left right : Float) :
    applyNumeric operator (token.move moved) left right =
      carried moved (Value.move moved) (applyNumeric operator token left right) := by
  cases operator with
  | divide =>
      simp only [applyNumeric]
      split <;> rfl
  | add | subtract | multiply | greater | greaterEqual | less | lessEqual | equal | notEqual => rfl

/-- An operator applied to two values that should be numbers. -/
def applyToNumbers (operator : BinaryOperator) (token : Token) (left right : Value) :
    Except Stop Value := do
  let (first, second) ← numbers token left right
  applyNumeric operator token first second

theorem applyToNumbers_move (operator : BinaryOperator) (left right : Value) :
    applyToNumbers operator (token.move moved) (left.move moved) (right.move moved) =
      carried moved (Value.move moved) (applyToNumbers operator token left right) := by
  unfold applyToNumbers
  rw [numbers_move]
  cases numbers token left right with
  | error stop => rfl
  | ok pair => exact applyNumeric_move moved token operator pair.1 pair.2

theorem applyBinary_move (operator : BinaryOperator) (left right : Value) :
    applyBinary operator (token.move moved) (left.move moved) (right.move moved) =
      carried moved (Value.move moved) (applyBinary operator token left right) := by
  have numeric := fun operator => applyToNumbers_move moved token operator left right
  cases operator with
  | equal => exact congrArg (fun same => Except.ok (Value.bool same)) (Value.equal_move moved left right)
  | notEqual =>
      exact congrArg (fun same => Except.ok (Value.bool !same)) (Value.equal_move moved left right)
  | add =>
      cases left <;> cases right <;> first | rfl | exact numeric .add
  | subtract => exact numeric .subtract
  | multiply => exact numeric .multiply
  | divide => exact numeric .divide
  | greater => exact numeric .greater
  | greaterEqual => exact numeric .greaterEqual
  | less => exact numeric .less
  | lessEqual => exact numeric .lessEqual

theorem loopRange_move (start stop : Value) (step : Option Value) :
    loopRange (token.move moved) (start.move moved) (stop.move moved)
        (step.map (Value.move moved)) =
      carried moved id (loopRange token start stop step) := by
  have checked : ∀ range : NumberRange Float,
      (if range.isValid then Except.ok range
      else Except.error (Stop.failed
        { cause := .invalidRange (Decimal.plainText range.start)
            (Decimal.plainText range.stop) (Decimal.plainText range.step)
          token := token.move moved })) =
      carried moved id (if range.isValid then Except.ok range
      else Except.error (Stop.failed
        { cause := .invalidRange (Decimal.plainText range.start)
            (Decimal.plainText range.stop) (Decimal.plainText range.step)
          token := token })) := fun range => by
    split <;> rfl
  unfold loopRange
  rw [numbers_move]
  cases numbers token start stop with
  | error stop => rfl
  | ok pair =>
      cases step with
      | none => exact checked _
      | some step =>
          simp only [carried, id_eq, Option.map_some, numbers_move]
          cases numbers token start step with
          | error stop => rfl
          | ok other => exact checked _

end Evaluation

namespace Eval

open Evaluation

section Primitives

variable {α β : Type} {value : α → β}

theorem moves_exhausted : (motion moved).Moves value (throw .exhausted) (throw .exhausted) :=
  .throw rfl

theorem moves_fault (fault : Fault) :
    (motion moved).Moves value (throw (.faulted fault)) (throw (.faulted fault)) :=
  .throw rfl

theorem moves_orStop {first : Except Stop α} {second : Except Stop β}
    (same : second = carried moved value first) :
    (motion moved).Moves value (orStop first) (orStop second) := by
  subst same
  cases first with
  | ok found => exact .pure rfl
  | error stop => exact .throw rfl

theorem moves_truth (token : Token) (found : Value) :
    (motion moved).Moves id (orStop (truth token found))
      (orStop (truth (token.move moved) (found.move moved))) :=
  moves_orStop moved (truth_move moved token found)

theorem moves_nest (frame : FrameId) : (motion moved).Moves id (nest frame) (nest frame) := by
  rintro ⟨scopes, console⟩ -
  have same : (Scopes.behind {} (Value.move moved) scopes).nest frame =
      ((scopes.nest frame).1, Scopes.behind {} (Value.move moved) (scopes.nest frame).2) :=
    Scopes.nest_behind {} _ scopes frame
  refine ⟨?_, trivial⟩
  simp only [motion, Machine.move, nest, same]
  rfl

theorem moves_define (frame : FrameId) (bindings : Bindings Value) :
    (motion moved).Moves id (define frame bindings)
      (define frame (Table.change id (Value.move moved) bindings)) := by
  rintro ⟨scopes, console⟩ -
  have same : (Scopes.behind {} (Value.move moved) scopes).defineAll frame
        (Table.change id (Value.move moved) bindings) =
      Scopes.behind {} (Value.move moved) (scopes.defineAll frame bindings) :=
    Scopes.defineAll_behind {} _ scopes frame bindings
  refine ⟨?_, trivial⟩
  simp only [motion, Machine.move, define, same]

theorem moves_lookup (frame : FrameId) (name : String) :
    (motion moved).Moves (Value.move moved) (lookup frame name) (lookup frame name) := by
  rintro ⟨scopes, console⟩ admits
  refine .get ?_
  have same : (Scopes.behind {} (Value.move moved) scopes).get? frame name =
      (scopes.get? frame name).map (Value.move moved) := Scopes.get?_behind {} _ scopes frame name
  simp only [motion, Machine.move, same]
  cases scopes.get? frame name with
  | none => exact .throw trivial rfl
  | some found => exact .pure trivial rfl

theorem moves_assign (frame : FrameId) (name : String) (found : Value) :
    (motion moved).Moves id (assign frame name found)
      (assign frame name (found.move moved)) := by
  rintro ⟨scopes, console⟩ -
  have owner : (Scopes.behind {} (Value.move moved) scopes).owner? frame name =
      (scopes.owner? frame name).map (· + 0) := Scopes.owner?_behind {} _ scopes frame name
  unfold Motion.Carries
  simp only [motion, Machine.move, assign, owner]
  cases scopes.owner? frame name with
  | none => exact ⟨rfl, trivial⟩
  | some owner =>
      have same : (Scopes.behind {} (Value.move moved) scopes).define owner name
          (found.move moved) = Scopes.behind {} (Value.move moved) (scopes.define owner name found) :=
        Scopes.define_behind {} _ scopes owner name found
      refine ⟨?_, trivial⟩
      simp only [Option.map_some, Nat.add_zero, same]
      rfl

theorem moves_catchReturn {first second : Eval Value}
    (moves : (motion moved).Moves (Value.move moved) first second) :
    (motion moved).Moves (Value.move moved) (catchReturn first) (catchReturn second) := by
  intro machine admits
  have carries := moves machine admits
  unfold Motion.Carries at carries ⊢
  unfold catchReturn
  match equation : first machine with
  | .ok found after =>
      rw [equation] at carries
      rw [carries.1]
      exact ⟨rfl, trivial⟩
  | .error stop after =>
      rw [equation] at carries
      rw [carries.1]
      cases stop <;> exact ⟨rfl, trivial⟩

theorem moves_callNative {native : Native} (blind : native.Blind moved) (arguments : List Value)
    (paren : Token) :
    (motion moved).Moves (Value.move moved) (callNative native arguments paren)
      (callNative native (arguments.map (Value.move moved)) (paren.move moved)) := by
  rintro ⟨scopes, console⟩ -
  unfold Motion.Carries
  simp only [motion, Machine.move, callNative, blind arguments console]
  cases (native.run arguments console).1 <;> exact ⟨rfl, trivial⟩

theorem moves_requireArity (name : String) (expected found : Nat) :
    (motion moved).Moves id (requireArity name expected found)
      (requireArity name expected found) := by
  unfold requireArity
  split
  · exact .pure rfl
  · exact moves_fault moved _

end Primitives

/-- The parts of a run with a bound on their nesting. -/
structure RunsMove (natives : List Native) (fuel : Nat) : Prop where
  evaluate : ∀ frame expr,
    (motion moved).Moves (Value.move moved) (evaluate natives fuel frame expr)
      (evaluate natives fuel frame (expr.move moved))
  evaluateAll : ∀ frame exprs,
    (motion moved).Moves (List.map (Value.move moved)) (evaluateAll natives fuel frame exprs)
      (evaluateAll natives fuel frame (exprs.map (Expr.move moved)))
  call : ∀ callee arguments paren,
    (motion moved).Moves (Value.move moved) (call natives fuel callee arguments paren)
      (call natives fuel (callee.move moved) (arguments.map (Value.move moved)) (paren.move moved))
  execute : ∀ frame stmt,
    (motion moved).Moves (Value.move moved) (execute natives fuel frame stmt)
      (execute natives fuel frame (stmt.move moved))
  executeAll : ∀ frame stmts,
    (motion moved).Moves id (executeAll natives fuel frame stmts)
      (executeAll natives fuel frame (stmts.map (Stmt.move moved)))
  executeBody : ∀ frame body,
    (motion moved).Moves (Value.move moved) (executeBody natives fuel frame body)
      (executeBody natives fuel frame (body.move moved))
  executeBlock : ∀ frame body,
    (motion moved).Moves (Value.move moved) (executeBlock natives fuel frame body)
      (executeBlock natives fuel frame (body.move moved))
  repeatWhile : ∀ frame keyword condition body,
    (motion moved).Moves (Value.move moved)
      (repeatWhile natives fuel frame keyword condition body)
      (repeatWhile natives fuel frame (keyword.move moved) (condition.move moved)
        (body.move moved))
  repeatFor : ∀ frame name range index body,
    (motion moved).Moves (Value.move moved)
      (repeatFor natives fuel frame name range index body)
      (repeatFor natives fuel frame name range index (body.move moved))

namespace RunsMove

variable {moved} {natives : List Native} {fuel : Nat}

theorem evaluate_succ (all : RunsMove moved natives fuel) (frame : FrameId) (expr : Expr) :
    (motion moved).Moves (Value.move moved) (Eval.evaluate natives (fuel + 1) frame expr)
      (Eval.evaluate natives (fuel + 1) frame (expr.move moved)) := by
  cases expr with
  | literal value token =>
      rw [Expr.move, Eval.evaluate, Eval.evaluate]
      cases value <;> exact .pure rfl
  | reference name =>
      rw [Expr.move, Eval.evaluate, Eval.evaluate]
      exact moves_lookup moved frame name.lexeme
  | assign name value =>
      rw [Expr.move, Eval.evaluate, Eval.evaluate]
      refine (all.evaluate frame value).bind fun assigned => ?_
      exact (moves_assign moved frame name.lexeme assigned).bind fun _ => .pure rfl
  | group inner =>
      rw [Expr.move, Eval.evaluate, Eval.evaluate]
      exact all.evaluate frame inner
  | tuple items =>
      rw [Expr.move, Eval.evaluate, Eval.evaluate, Expr.moveAll_eq_map]
      exact (all.evaluateAll frame items).bind fun values =>
        .pure (by rw [Value.move, Value.moveAll_eq_map])
  | unary operator token operand =>
      rw [Expr.move, Eval.evaluate, Eval.evaluate]
      exact (all.evaluate frame operand).bind fun value =>
        moves_orStop moved (applyUnary_move moved token operator value)
  | binary operator token left right =>
      rw [Expr.move, Eval.evaluate, Eval.evaluate]
      refine (all.evaluate frame left).bind fun first => ?_
      exact (all.evaluate frame right).bind fun second =>
        moves_orStop moved (applyBinary_move moved token operator first second)
  | logical operator token left right =>
      rw [Expr.move, Eval.evaluate, Eval.evaluate]
      refine (all.evaluate frame left).bind fun value => ?_
      refine (moves_truth moved token value).bind fun first => ?_
      have second : (motion moved).Moves (Value.move moved)
          (do
            let second ← Eval.evaluate natives fuel frame right
            return .bool (← orStop (truth token second)))
          (do
            let second ← Eval.evaluate natives fuel frame (right.move moved)
            return .bool (← orStop (truth (token.move moved) second))) :=
        (all.evaluate frame right).bind fun value =>
          (moves_truth moved token value).bind fun _ => .pure rfl
      cases operator <;> cases first <;> first | exact second | exact .pure rfl
  | call callee paren arguments =>
      rw [Expr.move, Eval.evaluate, Eval.evaluate, Expr.moveAll_eq_map]
      refine (all.evaluate frame callee).bind fun function => ?_
      exact (all.evaluateAll frame arguments).bind fun values => all.call function values paren

theorem evaluateAll_succ (all : RunsMove moved natives fuel) (frame : FrameId)
    (exprs : List Expr) :
    (motion moved).Moves (List.map (Value.move moved))
      (Eval.evaluateAll natives (fuel + 1) frame exprs)
      (Eval.evaluateAll natives (fuel + 1) frame (exprs.map (Expr.move moved))) := by
  cases exprs with
  | nil => exact .pure rfl
  | cons expr exprs =>
      rw [List.map_cons, Eval.evaluateAll, Eval.evaluateAll]
      refine (all.evaluate frame expr).bind fun value => ?_
      exact (all.evaluateAll frame exprs).bind fun values => .pure rfl

theorem call_succ (all : RunsMove moved natives fuel)
    (blind : ∀ native ∈ natives, native.Blind moved) (callee : Value) (arguments : List Value)
    (paren : Token) :
    (motion moved).Moves (Value.move moved)
      (Eval.call natives (fuel + 1) callee arguments paren)
      (Eval.call natives (fuel + 1) (callee.move moved) (arguments.map (Value.move moved))
        (paren.move moved)) := by
  cases callee with
  | native key signature =>
      rw [Value.move, Eval.call, Eval.call, List.length_map]
      refine (moves_requireArity moved _ _ _).bind fun _ => ?_
      cases found : Native.find? natives key with
      | none => exact moves_fault moved _
      | some native =>
          exact moves_callNative moved (blind native (List.mem_of_find?_eq_some found)) arguments
            paren
  | function closure =>
      rw [Value.move, Eval.call, Eval.call, List.length_map]
      refine (moves_requireArity moved _ _ _).bind fun _ => ?_
      refine (moves_nest moved closure.frame).bind fun frame => ?_
      have zipped : closure.parameters.zip (arguments.map (Value.move moved)) =
          Table.change id (Value.move moved) (closure.parameters.zip arguments) := by
        rw [List.zip_map_right]
        rfl
      simp only [zipped]
      refine (moves_define moved frame _).bind fun _ => ?_
      exact moves_catchReturn moved (all.executeBody frame closure.body)
  | tuple items =>
      change (motion moved).Moves _ (throw (.faulted (.uncallable (Value.tuple items).quoted)))
        (throw (.faulted (.uncallable ((Value.tuple items).move moved).quoted)))
      rw [Value.quoted_move]
      exact moves_fault moved _
  | number _ | text _ | bool _ | range _ => exact moves_fault moved _

theorem executeAll_succ (all : RunsMove moved natives fuel) (frame : FrameId)
    (stmts : List Stmt) :
    (motion moved).Moves id (Eval.executeAll natives (fuel + 1) frame stmts)
      (Eval.executeAll natives (fuel + 1) frame (stmts.map (Stmt.move moved))) := by
  cases stmts with
  | nil => exact .pure rfl
  | cons stmt stmts =>
      rw [List.map_cons, Eval.executeAll, Eval.executeAll]
      exact (all.execute frame stmt).bind fun _ => all.executeAll frame stmts

theorem executeBody_succ (all : RunsMove moved natives fuel) (frame : FrameId) (body : Block) :
    (motion moved).Moves (Value.move moved) (Eval.executeBody natives (fuel + 1) frame body)
      (Eval.executeBody natives (fuel + 1) frame (body.move moved)) := by
  obtain ⟨brace, statements, tail⟩ := body
  rw [Block.move, Stmt.moveAll_eq_map]
  cases tail with
  | none =>
      rw [Option.map_none, Eval.executeBody, Eval.executeBody]
      exact (all.executeAll frame statements).bind fun _ => .pure rfl
  | some tail =>
      rw [Option.map_some, Eval.executeBody, Eval.executeBody]
      exact (all.executeAll frame statements).bind fun _ => all.evaluate frame tail

theorem executeBlock_succ (all : RunsMove moved natives fuel) (frame : FrameId) (body : Block) :
    (motion moved).Moves (Value.move moved) (Eval.executeBlock natives (fuel + 1) frame body)
      (Eval.executeBlock natives (fuel + 1) frame (body.move moved)) := by
  rw [Eval.executeBlock, Eval.executeBlock]
  exact (moves_nest moved frame).bind fun inner => all.executeBody inner body

theorem repeatWhile_succ (all : RunsMove moved natives fuel) (frame : FrameId) (keyword : Token)
    (condition : Expr) (body : Block) :
    (motion moved).Moves (Value.move moved)
      (Eval.repeatWhile natives (fuel + 1) frame keyword condition body)
      (Eval.repeatWhile natives (fuel + 1) frame (keyword.move moved) (condition.move moved)
        (body.move moved)) := by
  rw [Eval.repeatWhile, Eval.repeatWhile]
  refine (all.evaluate frame condition).bind fun value => ?_
  refine (moves_truth moved keyword value).bind fun holds => ?_
  cases holds with
  | true =>
      exact (all.executeBlock frame body).bind fun _ =>
        all.repeatWhile frame keyword condition body
  | false => exact .pure rfl

theorem repeatFor_succ (all : RunsMove moved natives fuel) (frame : FrameId) (name : String)
    (range : NumberRange Float) (index : Nat) (body : Block) :
    (motion moved).Moves (Value.move moved)
      (Eval.repeatFor natives (fuel + 1) frame name range index body)
      (Eval.repeatFor natives (fuel + 1) frame name range index (body.move moved)) := by
  rw [Eval.repeatFor, Eval.repeatFor]
  cases range.item? index with
  | none => exact .pure rfl
  | some item =>
      refine (moves_nest moved frame).bind fun inner => ?_
      refine (moves_define moved inner [(name, .number item)]).bind fun _ => ?_
      exact (all.executeBlock inner body).bind fun _ =>
        all.repeatFor frame name range (index + 1) body

theorem execute_succ (all : RunsMove moved natives fuel) (frame : FrameId) (stmt : Stmt) :
    (motion moved).Moves (Value.move moved) (Eval.execute natives (fuel + 1) frame stmt)
      (Eval.execute natives (fuel + 1) frame (stmt.move moved)) := by
  cases stmt with
  | expression value =>
      rw [Stmt.move, Eval.execute, Eval.execute]
      exact all.evaluate frame value
  | letValue name declared initializer =>
      rw [Stmt.move, Eval.execute, Eval.execute]
      refine (all.evaluate frame initializer).bind fun value => ?_
      exact (moves_define moved frame [(name.lexeme, value)]).bind fun _ => .pure rfl
  | block body =>
      rw [Stmt.move, Eval.execute, Eval.execute]
      exact all.executeBlock frame body
  | ifThen keyword condition consequent =>
      rw [Stmt.move, Eval.execute, Eval.execute]
      refine (all.evaluate frame condition).bind fun value => ?_
      refine (moves_truth moved keyword value).bind fun holds => ?_
      cases holds with
      | true => exact (all.executeBlock frame consequent).bind fun _ => .pure rfl
      | false => exact .pure rfl
  | ifElse keyword condition consequent alternative =>
      rw [Stmt.move, Eval.execute, Eval.execute]
      refine (all.evaluate frame condition).bind fun value => ?_
      refine (moves_truth moved keyword value).bind fun holds => ?_
      cases holds with
      | true => exact (all.executeBlock frame consequent).bind fun _ => .pure rfl
      | false => exact (all.execute frame alternative).bind fun _ => .pure rfl
  | whileLoop keyword condition body =>
      rw [Stmt.move, Eval.execute, Eval.execute]
      exact all.repeatWhile frame keyword condition body
  | forLoop name bounds body =>
      rw [Stmt.move, Eval.execute, Eval.execute]
      refine (all.evaluate frame bounds.start).bind fun start => ?_
      have rest : ∀ step : Option Value, (motion moved).Moves (Value.move moved)
          (do
            let stop ← Eval.evaluate natives fuel frame bounds.stop
            let range ← orStop (loopRange bounds.token start stop step)
            Eval.repeatFor natives fuel frame name.lexeme range 0 body)
          (do
            let stop ← Eval.evaluate natives fuel frame (bounds.stop.move moved)
            let range ← orStop (loopRange (bounds.token.move moved) (start.move moved) stop
              (step.map (Value.move moved)))
            Eval.repeatFor natives fuel frame name.lexeme range 0 (body.move moved)) := by
        intro step
        refine (all.evaluate frame bounds.stop).bind fun stop => ?_
        refine (moves_orStop moved (loopRange_move moved bounds.token start stop step)).bind
          fun range => ?_
        exact all.repeatFor frame name.lexeme range 0 body
      rw [Bounds.move]
      cases bounds.step with
      | none => exact rest none
      | some step =>
          have stepped : (motion moved).Moves (Option.map (Value.move moved))
              (some <$> Eval.evaluate natives fuel frame step)
              (some <$> Eval.evaluate natives fuel frame (step.move moved)) :=
            (all.evaluate frame step).map fun _ => rfl
          exact stepped.bind rest
  | function name parameters body =>
      rw [Stmt.move, Eval.execute, Eval.execute]
      refine (moves_nest moved frame).bind fun closure => ?_
      have same : (parameters.map (Token.move moved)).map (·.lexeme) =
          parameters.map (·.lexeme) := by
        rw [List.map_map]
        rfl
      simp only [same]
      exact (moves_define moved frame [(name.lexeme, .function
        { name := name.lexeme, parameters := parameters.map (·.lexeme), body := body
          frame := closure })]).bind fun _ => .pure rfl
  | giveBack keyword value =>
      cases value with
      | none => exact .throw rfl
      | some value =>
          rw [Stmt.move, Option.map_some, Eval.execute, Eval.execute]
          exact (all.evaluate frame value).bind fun _ => .throw rfl

end RunsMove

theorem runsMove {natives : List Native} (blind : ∀ native ∈ natives, native.Blind moved)
    (fuel : Nat) : RunsMove moved natives fuel := by
  induction fuel with
  | zero =>
      exact
        { evaluate := fun _ _ => moves_exhausted moved
          evaluateAll := fun _ _ => moves_exhausted moved
          call := fun _ _ _ => moves_exhausted moved
          execute := fun _ _ => moves_exhausted moved
          executeAll := fun _ _ => moves_exhausted moved
          executeBody := fun _ _ => moves_exhausted moved
          executeBlock := fun _ _ => moves_exhausted moved
          repeatWhile := fun _ _ _ _ => moves_exhausted moved
          repeatFor := fun _ _ _ _ _ => moves_exhausted moved }
  | succ fuel all =>
      exact
        { evaluate := all.evaluate_succ
          evaluateAll := all.evaluateAll_succ
          call := all.call_succ blind
          execute := all.execute_succ
          executeAll := all.executeAll_succ
          executeBody := all.executeBody_succ
          executeBlock := all.executeBlock_succ
          repeatWhile := all.repeatWhile_succ
          repeatFor := all.repeatFor_succ }

theorem moves_executeProgram {natives : List Native}
    (blind : ∀ native ∈ natives, native.Blind moved) (fuel : Nat) (frame : FrameId) (last : Value)
    (program : List Stmt) :
    (motion moved).Moves (Value.move moved) (executeProgram natives fuel frame last program)
      (executeProgram natives fuel frame (last.move moved) (program.map (Stmt.move moved))) := by
  induction program generalizing last with
  | nil => exact .pure rfl
  | cons stmt stmts inductionHypothesis =>
      rw [List.map_cons, executeProgram, executeProgram]
      exact ((runsMove moved blind fuel).execute frame stmt).bind fun value =>
        inductionHypothesis value

end Eval

/-- How a run ends, with moved tokens. -/
def RunResult.move : RunResult → RunResult
  | value result => value (result.move moved)
  | rejected rejection => rejected (rejection.move moved)
  | faulted fault => faulted fault
  | aborted reason => aborted reason
  | exhausted => exhausted

namespace Evaluation.Machine

/-- No native function has a body to be moved. -/
theorem move_start (natives : List Native) : (start natives).move moved = start natives := by
  have empty : Scopes.behind {} (Value.move moved) Scopes.root = Scopes.root := by
    simp [Scopes.behind, Scopes.root, Scopes.addRoot, Scopes.add, Scopes.moveFrame]
  have bindings : Table.change id (Value.move moved)
      (natives.map fun native => (native.key, native.value)) =
      natives.map fun native => (native.key, native.value) := by
    simp [Table.change, Native.value, Value.move]
  have defined := Scopes.defineAll_behind {} (Value.move moved) Scopes.root root
    (natives.map fun native => (native.key, native.value))
  rw [empty, bindings] at defined
  unfold start move
  exact congrArg (fun scopes => ({ scopes := scopes } : Machine)) defined.symm

theorem run_move {natives : List Native} (blind : ∀ native ∈ natives, native.Blind moved)
    (machine : Machine) (fuel : Nat) (program : Program) :
    (machine.move moved).run natives fuel (program.map (Stmt.move moved)) =
      ((machine.run natives fuel program).1.move moved,
        (machine.run natives fuel program).2.move moved) := by
  have carries := Eval.moves_executeProgram moved blind fuel root .unit program
    { machine with console := { machine.console with output := "" } } trivial
  unfold Motion.Carries at carries
  unfold run
  dsimp only
  match equation : Eval.executeProgram natives fuel root .unit program
      { machine with console := { machine.console with output := "" } } with
  | .ok value after =>
      rw [equation] at carries
      have same : Eval.executeProgram natives fuel root .unit (program.map (Stmt.move moved))
          { machine.move moved with console := { machine.console with output := "" } } =
          .ok (value.move moved) (after.move moved) := carries.1
      simp only [Machine.move] at same ⊢
      rw [same]
      rfl
  | .error stop after =>
      rw [equation] at carries
      have same : Eval.executeProgram natives fuel root .unit (program.map (Stmt.move moved))
          { machine.move moved with console := { machine.console with output := "" } } =
          .error (stop.move moved) (after.move moved) := carries.1
      simp only [Machine.move] at same ⊢
      rw [same]
      cases stop <;> rfl

end Evaluation.Machine

end CheckedScript
