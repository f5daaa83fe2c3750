import CheckedScript.Proofs.Typing.Steps
import CheckedScript.Proofs.Walks.Annotations

/-!
# What an accepted program leaves noted

If a check leaves no diagnostic, every node of the program has been checked on the way, and
its check has come to its end: the parts of a node are checked with it, and so are the
bodies of the functions that are declared, since every function has been called in the end.
So every expression has its type noted, however deep it stands.
-/

namespace CheckedScript

namespace Typing

open Check

/-- What one state has kept of another one: the places of notes, and the functions.  A
diagnostic stays. -/
structure State.Retains (before after : State) : Prop where
  noted : ∀ place, (before.types.get? place).isSome → (after.types.get? place).isSome
  declared : ∀ (identifier : Nat) (function : DeclaredFunction),
    before.functions[identifier]? = some function →
      ∃ later, after.functions[identifier]? = some later ∧ later.place = function.place ∧
        later.body = function.body
  clean : after.diagnostics = [] → before.diagnostics = []

namespace State.Retains

variable {first before after : State}

theorem of_same (types : after.types = before.types)
    (functions : after.functions = before.functions)
    (diagnostics : after.diagnostics = before.diagnostics) : before.Retains after where
  noted _ noted := types ▸ noted
  declared _ function found := ⟨function, functions ▸ found, rfl, rfl⟩
  clean clean := diagnostics ▸ clean

theorem refl (state : State) : state.Retains state :=
  of_same rfl rfl rfl

theorem trans (early : first.Retains before) (late : before.Retains after) :
    first.Retains after where
  noted place noted := late.noted place (early.noted place noted)
  declared identifier function found := by
    obtain ⟨middle, isMiddle, place, body⟩ := early.declared identifier function found
    obtain ⟨last, isLast, samePlace, sameBody⟩ := late.declared identifier middle isMiddle
    exact ⟨last, isLast, samePlace.trans place, sameBody.trans body⟩
  clean clean := early.clean (late.clean clean)

theorem report (state : State) (diagnostic : Diagnostic) :
    state.Retains (state.report diagnostic) :=
  { refl state with
    noted := fun place noted => by
      unfold State.report
      split <;> exact noted
    declared := fun identifier function found => ⟨function, by
      unfold State.report
      split <;> exact found, rfl, rfl⟩
    clean := fun clean => absurd clean (Keeps.diagnostics_report_ne_nil state diagnostic) }

theorem note (state : State) (place : Place) (expr : Expr) (type : Ty) :
    state.Retains (state.note place expr type) :=
  { refl state with
    noted := fun other noted => by
      rw [State.note, Table.get?_set]
      split
      · rfl
      · exact noted }

theorem declare (state : State) (frame : FrameId) (place : Place) (name : Token)
    (parameters : List Token) (body : Block) :
    state.Retains (state.declare frame place name parameters body) :=
  { refl state with
    declared := fun identifier function found => by
      have present := (Array.getElem?_eq_some_iff.1 found).1
      refine ⟨function, ?_, rfl, rfl⟩
      change (state.functions.push _)[identifier]? = some function
      rw [Array.getElem?_push_lt present]
      exact (Array.getElem?_eq_getElem present).symm.trans found }

theorem addReturn (state : State) (type : Ty) (keyword : Token) :
    state.Retains (state.addReturn type keyword) := by
  unfold State.addReturn
  split
  · exact refl state
  · exact of_same rfl rfl rfl

theorem setInstance (state : State) (identifier : Nat) (key : InstanceKey) (result : Ty) :
    state.Retains (state.setInstance identifier key result) :=
  { refl state with
    declared := fun other function found => by
      rw [State.setInstance, Array.getElem?_modify]
      split
      · exact ⟨{ function with instances := function.instances.set key result },
          by rw [found]; rfl, rfl, rfl⟩
      · exact ⟨function, found, rfl, rfl⟩ }

end State.Retains

/-- What has been noted, declared and reported stays. -/
def retention : Course Stop State where
  later := State.Retains
  state _ := True
  stop _ _ := True
  refl := .refl
  trans := .trans

/-- No step of a checker loses a note, a function or a diagnostic. -/
theorem discipline_retention : Discipline (fun _ => True) retention fun _ => True where
  toVariety := .any _
  closed _ _ _ _ := trivial
  stops _ _ := trivial
  report diagnostic _ := ⟨.report _ diagnostic, trivial⟩
  note _ _ _ _ := ⟨.note _ _ _ _, trivial⟩
  bind _ _ _ _ _ _ := ⟨.of_same rfl rfl rfl, trivial⟩
  declare _ _ := ⟨.declare _ _ _ _ _ _, trivial⟩
  addReturn keyword _ _ := ⟨.addReturn _ _ keyword, trivial⟩
  nested _ _ := ⟨.of_same rfl rfl rfl, trivial⟩
  turn _ _ _ := ⟨.of_same rfl rfl rfl, trivial⟩
  enter _ _ _ _ := ⟨⟨.of_same rfl rfl rfl, trivial⟩, .of_same rfl rfl rfl, trivial⟩
  leave _ _ _ _ _ _ := ⟨.of_same rfl rfl rfl, trivial⟩
  remember _ _ _ _ _ _ _ _ _ _ := ⟨.setInstance _ _ _ _, trivial⟩

theorem State.Retains.of_reporting {α : Type} {check : Check α} {fits : α → State → Prop}
    {start after : State} {found : Option α} (ends : retention.Ends start fits (check start))
    (equation : reporting check start = .ok found after) : start.Retains after :=
  ((ends.reporting fun diagnostic state _ _ =>
    ⟨State.Retains.report state diagnostic, trivial⟩).of_ok equation).1

theorem Leaves.of_ok {α : Type} {result : EStateM.Result Stop State α} {value : α} {after : State}
    (equation : result = .ok value after) : Leaves result after :=
  equation ▸ .value

/-- What the walk over a tree leads to comes to its end before the walk does. -/
theorem Visit.Calls.retains {visit called : Visit} {last after : State}
    (calls : visit.Calls called) (proceeds : visit.refused = false)
    (ends : (Part.visit called).Ends last) (whole : (Part.visit visit).Ends after) :
    last.Retains after :=
  discipline_retention.leads trivial trivial (.walk calls proceeds) ends whole

/-- A check has succeeded at some time before a given state. -/
def State.Settles {α : Type} (final : State) (result : EStateM.Result Stop State α) : Prop :=
  ∃ value after, result = .ok value after ∧ after.Retains final

/-- Before a given state, the check of a node has succeeded. -/
def State.Covers (final : State) : Place → Node → Prop
  | place, .program statements => ∃ fuel frame last start, frame < start.scopes.frames.size ∧
      final.Settles (checkStatements fuel frame place 0 last statements start)
  | place, .statement stmt => ∃ fuel frame start, frame < start.scopes.frames.size ∧
      final.Settles (checkStmt fuel frame place stmt start)
  | place, .expression expr => ∃ fuel frame start,
      final.Settles (typeOf fuel frame place expr start)
  | place, .block body =>
      (∃ fuel frame start, frame < start.scopes.frames.size ∧
        final.Settles (checkAll fuel frame place 0 body.statements start)) ∧
      ∀ tail, body.tail = some tail → ∃ fuel frame start,
        final.Settles (typeOf fuel frame (place.child body.statements.length) tail start)

section Settles

variable {final later : State} {place : Place} {step : Nat}

theorem State.Settles.onward {α : Type} {result : EStateM.Result Stop State α}
    (settles : final.Settles result) (retains : final.Retains later) : later.Settles result := by
  obtain ⟨value, after, equation, earlier⟩ := settles
  exact ⟨value, after, equation, earlier.trans retains⟩

theorem State.Covers.onward {node : Node} (covers : final.Covers place node)
    (retains : final.Retains later) : later.Covers place node := by
  cases node with
  | program =>
      obtain ⟨fuel, frame, last, start, present, settles⟩ := covers
      exact ⟨fuel, frame, last, start, present, settles.onward retains⟩
  | statement =>
      obtain ⟨fuel, frame, start, present, settles⟩ := covers
      exact ⟨fuel, frame, start, present, settles.onward retains⟩
  | expression =>
      obtain ⟨fuel, frame, start, settles⟩ := covers
      exact ⟨fuel, frame, start, settles.onward retains⟩
  | block =>
      obtain ⟨⟨fuel, frame, start, present, settles⟩, tails⟩ := covers
      refine ⟨⟨fuel, frame, start, present, settles.onward retains⟩, fun tail isTail => ?_⟩
      obtain ⟨fuel, frame, start, settles⟩ := tails tail isTail
      exact ⟨fuel, frame, start, settles.onward retains⟩

/-- A check that leaves no diagnostic when its failures are reported has succeeded. -/
theorem State.Settles.of_reporting {α : Type} {check : Check α} {start : State}
    {footprint : Footprint} (clean : final.diagnostics = []) (keeps : Keeps footprint start check)
    (settles : final.Settles (reporting check start)) : final.Settles (check start) := by
  obtain ⟨found, after, equation, retains⟩ := settles
  obtain ⟨value, rfl, succeeds⟩ := reporting_eq_ok keeps equation (retains.clean clean)
  exact ⟨value, after, succeeds, retains⟩

/-- The expressions of a list. -/
theorem State.Settles.item {fuel : Nat} {frame : FrameId} {exprs : List Expr} {start : State}
    (settles : final.Settles (typesOf fuel frame place step exprs start)) {index : Nat}
    {expr : Expr} (found : exprs[index]? = some expr) :
    final.Covers (place.child (step + index)) (.expression expr) := by
  induction exprs generalizing fuel start step index with
  | nil => cases found
  | cons first exprs inductionHypothesis =>
      obtain ⟨types, after, equation, retains⟩ := settles
      have whole : (Part.visit ⟨fuel, frame, start, .expressions place step (first :: exprs)⟩).Ends
          after := .of_ok equation
      cases fuel with
      | zero => cases equation
      | succ fuel =>
          rw [typesOf] at equation
          obtain ⟨type, middle, typed, rest⟩ := bind_eq_ok equation
          obtain ⟨others, last, typedOthers, rest⟩ := bind_eq_ok rest
          obtain ⟨rfl, rfl⟩ := pure_eq_ok rest
          cases index with
          | zero =>
              cases found
              exact ⟨fuel, frame, start, type, middle, typed,
                (Visit.Calls.item.retains rfl (.of_ok typed) whole).trans retains⟩
          | succ index =>
              rw [Nat.add_comm index 1, ← Nat.add_assoc]
              exact inductionHypothesis ⟨_, _, typedOthers, retains⟩ found

/-- The statements of a list. -/
theorem State.Settles.statement {fuel : Nat} {frame : FrameId} {stmts : List Stmt}
    {start : State} (clean : final.diagnostics = []) (present : frame < start.scopes.frames.size)
    (settles : final.Settles (checkAll fuel frame place step stmts start)) {index : Nat}
    {stmt : Stmt} (found : stmts[index]? = some stmt) :
    final.Covers (place.child (step + index)) (.statement stmt) := by
  induction stmts generalizing fuel start step index with
  | nil => cases found
  | cons first stmts inductionHypothesis =>
      obtain ⟨value, after, equation, retains⟩ := settles
      cases fuel with
      | zero => cases equation
      | succ fuel =>
          rw [checkAll] at equation
          obtain ⟨reported, middle, checked, rest⟩ := bind_eq_ok equation
          have keeps := (allKeep fuel).checkStmt frame (place.child step) first start present
          cases index with
          | zero =>
              cases found
              have all := discipline_retention.checksTell fuel
              have further := ((all.checkAll trivial trivial).ends.of_ok rest).1
              exact ⟨fuel, frame, start, present, State.Settles.of_reporting clean keeps
                ⟨_, _, checked, further.trans retains⟩⟩
          | succ index =>
              have later := Nat.lt_of_lt_of_le present (keeps.reporting.effect checked).grown.size
              rw [Nat.add_comm index 1, ← Nat.add_assoc]
              exact inductionHypothesis later ⟨_, _, rest, retains⟩ found

/-- The statements of a program. -/
theorem State.Settles.top {fuel : Nat} {frame : FrameId} {stmts : List Stmt} {type : Ty}
    {start : State} (clean : final.diagnostics = []) (present : frame < start.scopes.frames.size)
    (settles : final.Settles (checkStatements fuel frame place step type stmts start)) {index : Nat}
    {stmt : Stmt} (found : stmts[index]? = some stmt) :
    final.Covers (place.child (step + index)) (.statement stmt) := by
  induction stmts generalizing type start step index with
  | nil => cases found
  | cons first stmts inductionHypothesis =>
      obtain ⟨value, after, equation, retains⟩ := settles
      rw [checkStatements] at equation
      obtain ⟨reported, middle, checked, rest⟩ := bind_eq_ok equation
      have keeps := (allKeep fuel).checkStmt frame (place.child step) first start present
      cases index with
      | zero =>
          cases found
          have further := ((discipline_retention.top trivial trivial).ends.of_ok rest).1
          exact ⟨fuel, frame, start, present, State.Settles.of_reporting clean keeps
            ⟨_, _, checked, further.trans retains⟩⟩
      | succ index =>
          have later := Nat.lt_of_lt_of_le present (keeps.reporting.effect checked).grown.size
          rw [Nat.add_comm index 1, ← Nat.add_assoc]
          exact inductionHypothesis later ⟨_, _, rest, retains⟩ found

/-- The parts of an expression. -/
theorem State.Covers.operand {expr part : Expr} (covers : final.Covers place (.expression expr))
    (isPart : expr.parts[step]? = some part) :
    final.Covers (place.child step) (.expression part) := by
  obtain ⟨fuel, frame, start, type, after, equation, retains⟩ := covers
  have whole : (Part.visit ⟨fuel, frame, start, .expression place expr⟩).Ends after :=
    .of_ok equation
  obtain _ | _ | fuel := fuel
  · cases equation
  · rw [typeOf] at equation
    obtain ⟨_, _, inferred, _⟩ := bind_eq_ok equation
    cases inferred
  rw [typeOf] at equation
  obtain ⟨found, middle, inferred, _⟩ := bind_eq_ok equation
  -- A part that is an expression of its own.
  have single : ∀ {first : State} {inner : Expr} {child : Nat} {value : Ty} {last : State},
      typeOf fuel frame (place.child child) inner first = .ok value last →
      Visit.Calls ⟨fuel + 2, frame, start, .expression place expr⟩
        ⟨fuel, frame, first, .expression (place.child child) inner⟩ →
      final.Covers (place.child child) (.expression inner) := fun typed calls =>
    ⟨fuel, frame, _, _, _, typed, (calls.retains rfl (.of_ok typed) whole).trans retains⟩
  cases expr with
  | literal | reference => cases isPart
  | assign name value =>
      rw [infer] at inferred
      obtain ⟨_, _, typed, _⟩ := bind_eq_ok inferred
      obtain _ | _ := step
      · cases isPart
        exact single typed .assigned
      · cases isPart
  | group inner =>
      rw [infer] at inferred
      obtain _ | _ := step
      · cases isPart
        exact single inferred .inner
      · cases isPart
  | unary operator token operand =>
      rw [infer] at inferred
      obtain ⟨_, _, typed, _⟩ := bind_eq_ok inferred
      obtain _ | _ := step
      · cases isPart
        exact single typed .operand
      · cases isPart
  | binary operator token left right =>
      rw [infer] at inferred
      obtain ⟨_, _, typedLeft, rest⟩ := bind_eq_ok inferred
      obtain ⟨_, _, typedRight, _⟩ := bind_eq_ok rest
      obtain _ | _ | _ := step
      · cases isPart
        exact single typedLeft .left
      · cases isPart
        exact single typedRight (.right typedLeft)
      · cases isPart
  | logical operator token left right =>
      rw [infer] at inferred
      obtain ⟨_, _, typedLeft, rest⟩ := bind_eq_ok inferred
      obtain ⟨_, _, typedRight, _⟩ := bind_eq_ok rest
      obtain _ | _ | _ := step
      · cases isPart
        exact single typedLeft .logicalLeft
      · cases isPart
        exact single typedRight (.logicalRight typedLeft)
      · cases isPart
  | tuple items =>
      rw [infer] at inferred
      obtain ⟨types, last, typed, _⟩ := bind_eq_ok inferred
      have settles : final.Settles (typesOf fuel frame place 0 items start) :=
        ⟨_, _, typed, (Visit.Calls.items.retains rfl (.of_ok typed) whole).trans retains⟩
      have item := settles.item isPart
      rw [Nat.zero_add] at item
      exact item
  | call callee paren arguments =>
      rw [infer] at inferred
      obtain ⟨_, _, typedCallee, rest⟩ := bind_eq_ok inferred
      obtain ⟨_, _, typed, _⟩ := bind_eq_ok rest
      have settles : final.Settles (typesOf fuel frame place 1 arguments _) :=
        ⟨_, _, typed,
          ((Visit.Calls.arguments typedCallee).retains rfl (.of_ok typed) whole).trans retains⟩
      cases step with
      | zero =>
          cases isPart
          exact single typedCallee .callee
      | succ step =>
          rw [Nat.add_comm]
          exact settles.item isPart

/-- The parts of a block. -/
theorem State.Covers.inside {body : Block} {part : Node} (clean : final.diagnostics = [])
    (covers : final.Covers place (.block body)) (isPart : body.parts[step]? = some part) :
    final.Covers (place.child step) part := by
  obtain ⟨brace, statements, tail⟩ := body
  obtain ⟨⟨fuel, frame, start, present, settles⟩, tails⟩ := covers
  rw [Block.parts, List.getElem?_append] at isPart
  split at isPart
  · rw [List.getElem?_map] at isPart
    obtain ⟨stmt, found, rfl⟩ := Option.map_eq_some_iff.1 isPart
    have covers := settles.statement clean present found
    rw [Nat.zero_add] at covers
    exact covers
  · next beyond =>
      rw [List.length_map] at isPart beyond
      cases tail with
      | none => cases isPart
      | some tail =>
          have last : step = statements.length := by
            have within := (List.getElem?_eq_some_iff.1 isPart).1
            simp at within
            omega
          subst last
          rw [Nat.sub_self] at isPart
          cases isPart
          exact tails tail rfl

/-- A block is checked in a frame of its own. -/
theorem State.Settles.block {fuel : Nat} {frame : FrameId} {body : Block} {start : State}
    (clean : final.diagnostics = [])
    (settles : final.Settles (checkBlock fuel frame place body start)) :
    final.Covers place (.block body) := by
  obtain ⟨brace, statements, tail⟩ := body
  obtain ⟨type, after, equation, retains⟩ := settles
  have whole : (Part.visit ⟨fuel, frame, start, .block place (.mk brace statements tail)⟩).Ends
      after := .of_ok equation
  cases fuel with
  | zero => cases equation
  | succ fuel =>
      rw [checkBlock] at equation
      obtain ⟨inner, nested, isNested, rest⟩ := bind_eq_ok equation
      cases isNested
      obtain ⟨_, middle, checked, rest⟩ := bind_eq_ok rest
      have checked : checkAll fuel start.next place 0 statements (start.nested frame) =
          .ok () middle := checked
      refine ⟨⟨fuel, start.next, start.nested frame, by simp [State.nested, State.next], _, middle,
        checked,
        (Visit.Calls.blockStatements.retains rfl (.of_ok checked) whole).trans retains⟩, ?_⟩
      rintro last rfl
      obtain ⟨found, ended, reported, rest⟩ := bind_eq_ok rest
      have same : ended = after := by
        cases found with
        | none => cases rest
        | some type =>
            cases rest
            rfl
      subst same
      exact ⟨fuel, start.next, middle, State.Settles.of_reporting clean
        ((allKeep fuel).typeOf start.next (place.child statements.length) last middle)
        ⟨_, _, reported, retains⟩⟩

/-- A loop over numbers that is checked without a fault: its bounds, and then its body in the
frame of its variable. -/
theorem forLoop_eq_ok {fuel : Nat} {frame : FrameId} {name : Token} {bounds : Bounds}
    {body : Block} {start after : State} {type : Ty}
    (equation : checkStmt (fuel + 1) frame place (.forLoop name bounds body) start =
      .ok type after) :
    ∃ first second third value,
      checkBound fuel frame (place.child 0) bounds.token bounds.start start = .ok () first ∧
      StepChecked fuel frame (place.child 1) bounds.token bounds.step first second ∧
      checkBound fuel frame (place.child 2) bounds.token bounds.stop second = .ok () third ∧
      checkBlock fuel third.next (place.child 3) body (third.turn frame name.lexeme) =
        .ok value after := by
  rw [checkStmt] at equation
  obtain ⟨_, first, started, rest⟩ := bind_eq_ok equation
  -- What comes after the step does not depend on whether the step is written.
  obtain ⟨second, stepped, rest⟩ : ∃ second,
      StepChecked fuel frame (place.child 1) bounds.token bounds.step first second ∧
      (do
        checkBound fuel frame (place.child 2) bounds.token bounds.stop
        let inner ← nest frame
        define inner [(name.lexeme, .number)]
        let _ ← checkBlock fuel inner (place.child 3) body
        return Ty.unit : Check Ty) second = .ok type after := by
    cases written : bounds.step with
    | none =>
        rw [written] at rest
        exact ⟨first, .absent, rest⟩
    | some step =>
        rw [written] at rest
        obtain ⟨_, second, stepped, rest⟩ := bind_eq_ok rest
        exact ⟨second, .written stepped, rest⟩
  obtain ⟨_, third, stopped, rest⟩ := bind_eq_ok rest
  obtain ⟨inner, nested, nests, rest⟩ := bind_eq_ok rest
  cases nests
  obtain ⟨_, defined, defines, rest⟩ := bind_eq_ok rest
  cases defines
  obtain ⟨value, last, checked, rest⟩ := bind_eq_ok rest
  obtain ⟨rfl, rfl⟩ := pure_eq_ok rest
  exact ⟨first, second, third, value, started, stepped, stopped, checked⟩

/-- The parts of a loop over numbers. -/
theorem State.Settles.loop {fuel : Nat} {frame : FrameId} {name : Token} {bounds : Bounds}
    {body : Block} {start : State} {part : Node} {frames : Nat} (clean : final.diagnostics = [])
    (settles : final.Settles (checkStmt (fuel + 1) frame place (.forLoop name bounds body) start))
    (isPart : (Stmt.forLoop name bounds body).part? step = some (part, frames)) :
    final.Covers (place.child step) part := by
  obtain ⟨type, after, equation, retains⟩ := settles
  have whole : (Part.visit ⟨fuel + 1, frame, start,
      .statement place (.forLoop name bounds body)⟩).Ends after := .of_ok equation
  obtain ⟨first, second, third, value, started, stepped, stopped, checked⟩ :=
    forLoop_eq_ok equation
  match step, isPart with
  | 0, rfl =>
      obtain ⟨left, found, rfl, typed, _⟩ := checkBound_eq_ok started
      exact ⟨left, frame, start, found, first, typed,
        (Visit.Calls.forStart.retains rfl (.of_ok typed) whole).trans retains⟩
  | 1, isPart =>
      obtain ⟨written, shape, same⟩ := Option.map_eq_some_iff.1 isPart
      cases same
      rw [shape] at stepped
      cases stepped with
      | written bounded =>
          obtain ⟨left, found, rfl, typed, _⟩ := checkBound_eq_ok bounded
          exact ⟨left, frame, first, found, second, typed,
            ((Visit.Calls.forStep started shape).retains rfl (.of_ok typed) whole).trans retains⟩
  | 2, rfl =>
      obtain ⟨left, found, rfl, typed, _⟩ := checkBound_eq_ok stopped
      exact ⟨left, frame, second, found, third, typed,
        ((Visit.Calls.forStop started stepped).retains rfl (.of_ok typed) whole).trans retains⟩
  | 3, rfl => exact State.Settles.block clean ⟨value, after, checked, retains⟩

/-- The condition of a branch or of a loop. -/
theorem State.Settles.condition {fuel : Nat} {frame : FrameId} {keyword : Token}
    {condition : Expr} {start : State} (clean : final.diagnostics = [])
    (settles : final.Settles (checkCondition fuel frame place keyword condition start)) :
    final.Covers place (.expression condition) := by
  obtain ⟨_, after, tested, retains⟩ := settles
  obtain ⟨left, found, _, typed, _⟩ := checkCondition_eq_ok tested (retains.clean clean)
  exact ⟨left, frame, start, found, after, typed, retains⟩

/-- A condition and the block that it guards. -/
theorem State.Covers.guarded {fuel : Nat} {frame : FrameId} {keyword : Token} {condition : Expr}
    {body : Block} {start middle ended : State} {type : Ty} (clean : final.diagnostics = [])
    (tested : checkCondition fuel frame (place.child 0) keyword condition start = .ok () middle)
    (checked : checkBlock fuel frame (place.child 1) body middle = .ok type ended)
    (retains : ended.Retains final) :
    final.Covers (place.child 0) (.expression condition) ∧
      final.Covers (place.child 1) (.block body) := by
  have onward := ((discipline_retention.checksTell fuel).checkBlock trivial trivial).ends.of_ok
    checked
  exact ⟨State.Settles.condition clean ⟨_, _, tested, onward.1.trans retains⟩,
    State.Settles.block clean ⟨_, _, checked, retains⟩⟩

/-- The parts of a statement, the bodies of functions apart. -/
theorem State.Covers.partOf {stmt : Stmt} {part : Node} {frames : Nat}
    (clean : final.diagnostics = [])
    (bodies : ∀ (identifier : Nat) (function : DeclaredFunction),
      final.functions[identifier]? = some function →
        final.Covers function.place (.block function.body))
    (covers : final.Covers place (.statement stmt))
    (isPart : stmt.part? step = some (part, frames)) :
    final.Covers (place.child step) part := by
  obtain ⟨fuel, frame, start, present, type, after, equation, retains⟩ := covers
  have whole : (Part.visit ⟨fuel, frame, start, .statement place stmt⟩).Ends after :=
    .of_ok equation
  cases fuel with
  | zero => cases equation
  | succ fuel =>
      have last := discipline_retention.checksTell fuel
      cases stmt with
      | expression value =>
          rw [checkStmt] at equation
          obtain _ | _ := step
          · cases isPart
            exact ⟨fuel, frame, start, type, after, equation, retains⟩
          · cases isPart
      | letValue name declared initializer =>
          rw [checkStmt] at equation
          obtain ⟨_, middle, bound, _⟩ := bind_eq_ok equation
          obtain ⟨left, found, _, ended, rfl, typed, _⟩ := checkLet_eq_ok bound
          obtain _ | _ := step
          · cases isPart
            exact ⟨left, frame, start, found, ended, typed,
              (Visit.Calls.initializer.retains rfl (.of_ok typed) whole).trans retains⟩
          · cases isPart
      | block body =>
          rw [checkStmt] at equation
          have covers : final.Covers place (.block body) :=
            State.Settles.block clean ⟨type, after, equation, retains⟩
          obtain ⟨inner, found, same⟩ := Option.map_eq_some_iff.1 isPart
          cases same
          exact covers.inside clean found
      | ifThen keyword condition consequent =>
          rw [checkStmt] at equation
          obtain ⟨_, middle, tested, rest⟩ := bind_eq_ok equation
          obtain ⟨_, ended, checked, rest⟩ := bind_eq_ok rest
          obtain ⟨rfl, rfl⟩ := pure_eq_ok rest
          have covers := State.Covers.guarded clean tested checked retains
          obtain _ | _ | _ := step
          · cases isPart
            exact covers.1
          · cases isPart
            exact covers.2
          · cases isPart
      | ifElse keyword condition consequent alternative =>
          rw [checkStmt] at equation
          obtain ⟨_, middle, tested, rest⟩ := bind_eq_ok equation
          obtain ⟨_, ended, checked, rest⟩ := bind_eq_ok rest
          obtain ⟨_, ended', others, rest⟩ := bind_eq_ok rest
          obtain ⟨rfl, rfl⟩ := pure_eq_ok rest
          have late := (((last.checkStmt trivial trivial).ends.of_ok others).1).trans retains
          have covers := State.Covers.guarded clean tested checked late
          obtain _ | _ | _ | _ := step
          · cases isPart
            exact covers.1
          · cases isPart
            exact covers.2
          · cases isPart
            have early := ((allKeep fuel).checkCondition _ _ _ _ _).effect tested
            have presentMiddle := Nat.lt_of_lt_of_le present early.grown.size
            have block := ((allKeep fuel).checkBlock _ _ _ _ presentMiddle).effect checked
            exact ⟨fuel, frame, ended, Nat.lt_of_lt_of_le presentMiddle block.grown.size, _, _,
              others, retains⟩
          · cases isPart
      | whileLoop keyword condition body =>
          rw [checkStmt] at equation
          obtain ⟨_, middle, tested, rest⟩ := bind_eq_ok equation
          obtain ⟨_, ended, checked, rest⟩ := bind_eq_ok rest
          obtain ⟨rfl, rfl⟩ := pure_eq_ok rest
          have covers := State.Covers.guarded clean tested checked retains
          obtain _ | _ | _ := step
          · cases isPart
            exact covers.1
          · cases isPart
            exact covers.2
          · cases isPart
      | forLoop name bounds body =>
          exact State.Settles.loop clean ⟨type, after, equation, retains⟩ isPart
      | function name parameters body =>
          rw [checkStmt] at equation
          obtain ⟨_, _, declares, rest⟩ := bind_eq_ok equation
          cases declares
          obtain ⟨rfl, rfl⟩ := pure_eq_ok rest
          have found : (start.declare frame (place.child 0) name parameters body).functions[
              start.functions.size]? = some _ := Array.getElem?_push_size
          obtain ⟨function, isFunction, samePlace, sameBody⟩ := retains.declared _ _ found
          obtain _ | _ := step
          · cases isPart
            have covers := bodies _ function isFunction
            rw [samePlace, sameBody] at covers
            exact covers
          · cases isPart
      | giveBack keyword value =>
          rw [checkStmt] at equation
          obtain ⟨_, _, got, rest⟩ := bind_eq_ok equation
          cases got
          split at rest
          · cases rest
          · next busy =>
              obtain _ | _ := step
              · obtain ⟨inner, rfl, same⟩ := Option.map_eq_some_iff.1 isPart
                cases same
                obtain ⟨found, middle, typed, rest⟩ := bind_eq_ok rest
                exact ⟨fuel, frame, start, found, middle, typed,
                  (Visit.Calls.returned.retains (Bool.eq_false_iff.2 busy) (.of_ok typed)
                    whole).trans retains⟩
              · cases isPart

end Settles

/-- The body of a function has been checked with a call. -/
theorem State.Covers.body {final start middle : State} {fuel identifier : Nat} {arguments : List Ty}
    {function : DeclaredFunction} {results : List (Ty × Token)} (clean : final.diagnostics = [])
    (equation : checkBody fuel identifier arguments function start.next
      (AllKeep.entered start function arguments) = .ok results middle)
    (retains : middle.Retains final) : final.Covers function.place (.block function.body) := by
  cases fuel with
  | zero => cases equation
  | succ fuel =>
      have present : start.next <
          (start.begun function identifier arguments).scopes.frames.size := by
        simp [State.begun, AllKeep.entered, State.next]
      rw [checkBody_entered] at equation
      cases through : AllKeep.throughBody fuel function start.next
          (start.begun function identifier arguments) with
      | error stop last =>
          rw [through] at equation
          cases equation
      | ok fallThrough last =>
          rw [through] at equation
          cases equation
          have left : last.Retains { last with activations := last.activations.tail } :=
            .of_same rfl rfl rfl
          have onward := left.trans retains
          unfold AllKeep.throughBody at through
          obtain ⟨_, ended, checked, rest⟩ := bind_eq_ok through
          have ends : ∀ tail, function.body.tail = some tail →
              reporting (typeOf fuel start.next
                (function.place.child function.body.statements.length) tail) ended =
                  .ok fallThrough last := by
            intro tail isTail
            rw [isTail] at rest
            exact rest
          have further : ended.Retains last := by
            cases isTail : function.body.tail with
            | none =>
                rw [isTail] at rest
                obtain ⟨_, rfl⟩ := pure_eq_ok rest
                exact .refl _
            | some tail =>
                exact State.Retains.of_reporting
                  ((discipline_retention.checksTell fuel).typeOf trivial trivial).ends
                  (ends tail isTail)
          exact ⟨⟨fuel, start.next, _, present, (), ended, checked, further.trans onward⟩,
            fun tail isTail => ⟨fuel, start.next, ended,
              State.Settles.of_reporting clean ((allKeep fuel).typeOf _ _ _ _)
                ⟨fallThrough, last, ends tail isTail, onward⟩⟩⟩

/-- As long as there is no diagnostic, the bodies of all functions that have been called have
been checked. -/
def State.Covering (state : State) : Prop :=
  state.diagnostics = [] → ∀ (identifier : Nat) (function : DeclaredFunction),
    state.functions[identifier]? = some function → function.instances.isEmpty = false →
      state.Covers function.place (.block function.body)

/-- Nothing is lost, and bodies are checked with calls. -/
def coverage : Course Stop State :=
  { retention with state := State.Covering }

namespace State.Covering

variable {state after : State}

/-- The same functions have been called. -/
theorem step (covering : state.Covering) (retains : state.Retains after)
    (same : after.functions = state.functions) : coverage.Steps state after := by
  refine ⟨retains, fun clean identifier function found called => ?_⟩
  rw [same] at found
  exact (covering (retains.clean clean) identifier function found called).onward retains

theorem declare (covering : state.Covering) (frame : FrameId) (place : Place) (name : Token)
    (parameters : List Token) (body : Block) :
    coverage.Steps state (state.declare frame place name parameters body) := by
  have retains := State.Retains.declare state frame place name parameters body
  refine ⟨retains, fun clean identifier function found called => ?_⟩
  have pushed : (state.functions.push
      { name := name, parameters := parameters, body := body, place := place,
        closure := state.next, instances := [] })[identifier]? = some function := found
  rw [Array.getElem?_push] at pushed
  split at pushed
  · cases pushed
    cases called
  · exact (covering (retains.clean clean) identifier function pushed called).onward retains

/-- The function that is called has had its body checked. -/
theorem setInstance (covering : state.Covering) {identifier : Nat} (key : InstanceKey) (result : Ty)
    {declared : DeclaredFunction} (isDeclared : state.functions[identifier]? = some declared)
    (covers : state.diagnostics = [] → state.Covers declared.place (.block declared.body)) :
    coverage.Steps state (state.setInstance identifier key result) := by
  have retains := State.Retains.setInstance state identifier key result
  refine ⟨retains, fun clean other function found called => ?_⟩
  rw [State.setInstance, Array.getElem?_modify] at found
  split at found
  · next same =>
      subst same
      rw [isDeclared] at found
      cases found
      exact (covers (retains.clean clean)).onward retains
  · exact (covering (retains.clean clean) other function found called).onward retains

end State.Covering

/-- Every call that is remembered has had a body checked. -/
theorem discipline_coverage : Discipline (fun _ => True) coverage fun _ => True where
  toVariety := .any _
  closed _ _ _ _ := trivial
  stops _ _ := trivial
  report diagnostic covering := by
    refine covering.step (.report _ diagnostic) ?_
    unfold State.report
    split <;> rfl
  note _ _ covering _ := covering.step (.note _ _ _ _) rfl
  bind _ _ _ _ covering _ := covering.step (.of_same rfl rfl rfl) rfl
  declare _ covering := covering.declare _ _ _ _ _
  addReturn keyword covering _ := by
    refine covering.step (.addReturn _ _ keyword) ?_
    unfold State.addReturn
    split <;> rfl
  nested _ covering := covering.step (.of_same rfl rfl rfl) rfl
  turn _ _ covering := covering.step (.of_same rfl rfl rfl) rfl
  enter _ _ covering _ :=
    ⟨covering.step (.of_same rfl rfl rfl) rfl, covering.step (.of_same rfl rfl rfl) rfl⟩
  leave _ _ _ _ _ covering := covering.step (.of_same rfl rfl rfl) rfl
  remember _ opens later ran covering _ _ found _ _ := by
    obtain ⟨results, middle, equation, onward⟩ := ran
    obtain ⟨declared, isDeclared, place, body⟩ := State.Retains.declared later _ _ opens.found
    cases found.symm.trans isDeclared
    refine State.Covering.setInstance covering _ _ found fun clean => ?_
    rw [place, body]
    exact State.Covers.body clean equation onward

section Programs

variable {fuel : Nat} {natives : Bindings Signature} {program : Program} {type : Ty} {after : State}

/-- When a program has been checked without a diagnostic, the bodies of all its functions
have been checked. -/
theorem covers_of_checkProgram (equation : checkProgram fuel natives program {} = .ok type after)
    (clean : after.diagnostics = []) :
    after.Covers (.root 0) (.program program) ∧
      ∀ (identifier : Nat) (function : DeclaredFunction),
        after.functions[identifier]? = some function →
          after.Covers function.place (.block function.body) := by
  obtain ⟨middle, statements, uncalled⟩ := checkProgram_eq_ok equation
  have opened : (State.opened {} natives).Covering := fun _ _ _ found => by cases found
  have present : ({} : State).next < (State.opened {} natives).scopes.frames.size :=
    (State.stands_opened (.nil _) natives).present
  have early := (discipline_coverage.top trivial opened).ends.of_ok statements
  have late := (discipline_coverage.uncalled trivial trivial early.2.1).ends.of_ok uncalled
  have statements : checkStatements fuel ({} : State).next (.root 0) 0 .unit program
      (State.opened {} natives) = .ok type middle := statements
  constructor
  · exact ⟨fuel, ({} : State).next, .unit, State.opened {} natives, present, type, middle,
      statements, late.1⟩
  · intro identifier function found
    have effect := checkStatements_effect present statements
    have size := (Array.getElem?_eq_some_iff.1 found).1
    obtain ⟨called, isCalled, reached⟩ := State.reached_iff.1
      (reached_of_checkUncalled (effect.idle rfl) uncalled (Nat.zero_le identifier) size)
    cases found.symm.trans isCalled
    exact late.2.1 clean identifier function found reached

/-- Every node of a program that has been checked without a diagnostic has been checked. -/
theorem covers_of_contains (equation : checkProgram fuel natives program {} = .ok type after)
    (clean : after.diagnostics = []) {place : Place} {node : Node}
    (contains : program.Contains place node) : after.Covers place node := by
  obtain ⟨whole, bodies⟩ := covers_of_checkProgram equation clean
  induction contains with
  | root => exact whole
  | @part place node part step frames _ isPart covers =>
      cases node with
      | program statements =>
          obtain ⟨_, _, _, _, present, settles⟩ := covers
          obtain ⟨stmt, found, same⟩ := Option.map_eq_some_iff.1 isPart
          cases same
          have covers := settles.top clean present found
          rw [Nat.zero_add] at covers
          exact covers
      | statement stmt => exact covers.partOf clean bodies isPart
      | expression expr =>
          obtain ⟨operand, found, same⟩ := Option.map_eq_some_iff.1 isPart
          cases same
          exact covers.operand found
      | block body =>
          obtain ⟨inner, found, same⟩ := Option.map_eq_some_iff.1 isPart
          cases same
          exact covers.inside clean found

/-- The type of an expression that has been checked is noted. -/
theorem State.Covers.noted {final : State} {place : Place} {expr : Expr}
    (covers : final.Covers place (.expression expr)) : (final.types.get? place).isSome := by
  obtain ⟨fuel, frame, start, type, after, equation, retains⟩ := covers
  apply retains.noted
  cases fuel with
  | zero => cases equation
  | succ fuel =>
      rw [typeOf] at equation
      obtain ⟨found, middle, _, rest⟩ := bind_eq_ok equation
      obtain ⟨_, noted, modified, returned⟩ := bind_eq_ok rest
      obtain ⟨rfl, rfl⟩ := pure_eq_ok returned
      cases modified
      simp [State.note]

end Programs

end Typing

section Accepted

open Typing Check

variable {fuel : Nat} {natives : Bindings Signature} {program : Program} {type : Ty}
  {after : Typing.State}

/-- A program that a new checker accepts has been gone through without a diagnostic. -/
theorem Typing.State.check_eq_accepted {state : Typing.State}
    (accepted : state.check fuel natives program = (.accepted type, after)) :
    checkProgram fuel natives program state = .ok type after ∧ after.diagnostics = [] := by
  unfold Typing.State.check at accepted
  split at accepted
  · next equation =>
      split at accepted
      · next clean =>
          cases accepted
          exact ⟨equation, List.isEmpty_iff.1 clean⟩
      · cases accepted
  · cases accepted
  · cases accepted

/-- A new checker that accepts a program has noted a type at exactly those places where
expressions stand in the program, with the expressions that stand there. -/
theorem accepted_programs_are_noted_throughout
    (accepted : ({} : Typing.State).check fuel natives program = (.accepted type, after))
    (place : Place) (expr : Expr) :
    (∃ found, after.types.get? place = some (expr, found)) ↔
      program.Contains place (.expression expr) := by
  obtain ⟨equation, clean⟩ := Typing.State.check_eq_accepted accepted
  have placing := placing_of_checkProgram equation
  constructor
  · rintro ⟨found, noted⟩
    exact placing.noted place expr found noted
  · intro contains
    obtain ⟨⟨other, found⟩, noted⟩ := Option.isSome_iff_exists.1
      (covers_of_contains equation clean contains).noted
    cases (placing.noted place other found noted).unique contains
    exact ⟨found, noted⟩

/-- The program `fun f(n) { fun g() { if false { !n; } } }`, in which no function is called and
a branch never runs. -/
def uncalled : Program :=
  let word (lexeme : String) (column : Nat) : Token :=
    { kind := .identifier, lexeme := lexeme, position := ⟨0, column⟩ }
  let sign (symbol : Symbol) (column : Nat) : Token :=
    { kind := .symbol symbol, lexeme := symbol.spelling, position := ⟨0, column⟩ }
  let reserved (keyword : Keyword) (column : Nat) : Token :=
    { kind := .keyword keyword, lexeme := keyword.spelling, position := ⟨0, column⟩ }
  let branch : Block := .mk (sign .leftBrace 30)
    [.expression (.unary .invert (sign .bang 32) (.reference (word "n" 33)))] none
  let inner : Stmt := .function (word "g" 15) [] (.mk (sign .leftBrace 19)
    [.ifThen (reserved .ifWord 21) (.literal (.bool false) (reserved .falseWord 24)) branch] none)
  [.function (word "f" 4) [word "n" 6] (.mk (sign .leftBrace 9) [inner] none)]

/-- Whether a program is accepted. -/
def CheckResult.isAccepted : CheckResult → Bool
  | .accepted _ => true
  | _ => false

theorem accepted_programs_are_noted_throughout_uncalled :
    ∃ type after, ({} : Typing.State).check 20 [] uncalled = (.accepted type, after) ∧
      ∀ place expr, (∃ found, after.types.get? place = some (expr, found)) ↔
        uncalled.Contains place (.expression expr) := by
  have isAccepted : (({} : Typing.State).check 20 [] uncalled).1.isAccepted = true := by
    decide +kernel
  cases outcome : ({} : Typing.State).check 20 [] uncalled with
  | mk result after =>
      rw [outcome] at isAccepted
      cases result with
      | accepted type => exact ⟨type, after, rfl, accepted_programs_are_noted_throughout outcome⟩
      | rejected | faulted | exhausted => cases isAccepted

end Accepted

end CheckedScript
