import CheckedScript.Proofs.Walks.Compliance
import CheckedScript.Proofs.Walks.Nodes

/-!
# The places of notes

A checker notes the type of an expression at the place where the expression stands in the
tree of the program, also in the bodies of functions, which it comes back to when they are
called: it remembers the place of a body together with the body.
-/

namespace CheckedScript

open Typing (Place)

/-- The nodes of the tree of a program, and the places where they stand. -/
inductive Program.Contains (program : Program) : Place → Node → Prop
  | root : Contains program (.root 0) (.program program)
  | part {place : Place} {node part : Node} {step frames : Nat} :
      Contains program place node → node.part? step = some (part, frames) →
      Contains program (place.child step) part

namespace Program.Contains

variable {program : Program} {place : Place}

theorem nodeAt? {node : Node} (contains : program.Contains place node) :
    ∃ depth, program.nodeAt? place = some (node, depth) := by
  induction contains with
  | root => exact ⟨0, rfl⟩
  | part _ isPart inductionHypothesis =>
      obtain ⟨depth, found⟩ := inductionHypothesis
      exact ⟨_, nodeAt?_child found isPart⟩

/-- At every place there is one node at most. -/
theorem unique {first second : Node} (contains : program.Contains place first)
    (other : program.Contains place second) : first = second := by
  obtain ⟨_, found⟩ := contains.nodeAt?
  obtain ⟨_, alsoFound⟩ := other.nodeAt?
  rw [found] at alsoFound
  cases alsoFound
  rfl

/-- A part of an expression. -/
theorem operand {expr part : Expr} {step : Nat}
    (contains : program.Contains place (.expression expr))
    (isPart : expr.parts[step]? = some part) :
    program.Contains (place.child step) (.expression part) := by
  have stands : (Node.expression expr).part? step = some (.expression part, 0) := by
    rw [Node.part?, isPart]
    rfl
  exact contains.part stands

/-- A part of a block. -/
theorem inside {body : Block} {part : Node} {step : Nat}
    (contains : program.Contains place (.block body)) (isPart : body.parts[step]? = some part) :
    program.Contains (place.child step) part := by
  have stands : (Node.block body).part? step = some (part, 1) := by
    rw [Node.part?, isPart]
    rfl
  exact contains.part stands

/-- A statement of the program. -/
theorem top {stmt : Stmt} {index : Nat} (found : program[index]? = some stmt) :
    program.Contains ((Place.root 0).child index) (.statement stmt) := by
  have stands : (Node.program program).part? index = some (.statement stmt, 0) := by
    rw [Node.part?, found]
    rfl
  exact Contains.root.part stands

end Program.Contains

namespace Typing

open Check

variable (program : Program)

/-- The nodes of a task stand in the program where the task has them. -/
def Task.Within : Task → Prop
  | .expression place expr => program.Contains place (.expression expr)
  | .expressions place step exprs => ∀ index expr, exprs[index]? = some expr →
      program.Contains (place.child (step + index)) (.expression expr)
  | .statement place stmt => program.Contains place (.statement stmt)
  | .statements place step stmts => ∀ index stmt, stmts[index]? = some stmt →
      program.Contains (place.child (step + index)) (.statement stmt)
  | .block place inner => ∀ index part, inner.parts[index]? = some part →
      program.Contains (place.child index) part

/-- The nodes of a part of the check of a program stand in the program. -/
def Part.Within : Part → Prop
  | visit inner => inner.task.Within program
  | call _ _ _ _ _ _ | uncalled _ _ _ => True
  | top _ _ _ place step _ stmts => (Task.statements place step stmts).Within program
  | programs _ _ _ _ => False

/-- A state with notes of expressions of a program, and functions of the program, where they
stand. -/
structure State.Placing (state : State) : Prop where
  noted : ∀ place expr type, state.types.get? place = some (expr, type) →
    program.Contains place (.expression expr)
  declared : ∀ (identifier : Nat) (function : DeclaredFunction),
    state.functions[identifier]? = some function →
      program.Contains function.place (.block function.body)

variable {program}

section Walk

variable {place : Place} {step : Nat}

theorem Task.Within.firstItem {expr : Expr} {exprs : List Expr}
    (within : (Task.expressions place step (expr :: exprs)).Within program) :
    program.Contains (place.child step) (.expression expr) :=
  within 0 expr rfl

theorem Task.Within.otherItems {expr : Expr} {exprs : List Expr}
    (within : (Task.expressions place step (expr :: exprs)).Within program) :
    (Task.expressions place (step + 1) exprs).Within program := by
  intro index other found
  rw [Nat.add_assoc, Nat.add_comm 1]
  exact within (index + 1) other found

theorem Task.Within.first {stmt : Stmt} {stmts : List Stmt}
    (within : (Task.statements place step (stmt :: stmts)).Within program) :
    program.Contains (place.child step) (.statement stmt) :=
  within 0 stmt rfl

theorem Task.Within.others {stmt : Stmt} {stmts : List Stmt}
    (within : (Task.statements place step (stmt :: stmts)).Within program) :
    (Task.statements place (step + 1) stmts).Within program := by
  intro index other found
  rw [Nat.add_assoc, Nat.add_comm 1]
  exact within (index + 1) other found

/-- The parts of a block in the program. -/
theorem Task.Within.block {body : Block} (contains : program.Contains place (.block body)) :
    (Task.block place body).Within program :=
  fun _ _ isPart => contains.inside isPart

theorem Task.Within.blockStatements {body : Block}
    (within : (Task.block place body).Within program) :
    (Task.statements place 0 body.statements).Within program := by
  obtain ⟨brace, statements, tail⟩ := body
  intro index stmt found
  rw [Nat.zero_add]
  exact within index _ (Block.parts_statement found)

theorem Task.Within.blockTail {body : Block} {tail : Expr}
    (within : (Task.block place body).Within program) (found : body.tail = some tail) :
    program.Contains (place.child body.statements.length) (.expression tail) := by
  obtain ⟨brace, statements, _⟩ := body
  cases found
  exact within _ _ Block.parts_tail

/-- A walk over nodes of the program stays among them. -/
theorem Visit.Calls.within {visit called : Visit} (calls : visit.Calls called)
    (within : visit.task.Within program) : called.task.Within program := by
  cases calls with
  | assigned | inner | operand | left | logicalLeft | callee | right | logicalRight =>
      exact Program.Contains.operand within rfl
  | items =>
      intro index part isPart
      rw [Nat.zero_add]
      exact Program.Contains.operand within isPart
  | arguments =>
      intro index part isPart
      rw [Nat.add_comm]
      exact Program.Contains.operand within isPart
  | item => exact within.firstItem
  | otherItems => exact within.otherItems
  | value | initializer | ifCondition | elseCondition | whileCondition | forStart | returned
  | alternative | forStop =>
      exact Program.Contains.part within rfl
  | block =>
      intro index part isPart
      have stands : ∀ body : Block, body.parts[index]? = some part →
          (Node.statement (.block body)).part? index = some (part, 1) := by
        intro body isPart
        rw [Node.part?, Stmt.part?, isPart]
        rfl
      exact Program.Contains.part within (stands _ isPart)
  | ifConsequent | elseConsequent | whileBody | forBody =>
      exact Task.Within.block (Program.Contains.part within rfl)
  | @forStep _ _ _ _ place name bounds body step equation shape =>
      have stands : (Node.statement (.forLoop name bounds body)).part? 1 =
          some (.expression step, 0) := by
        rw [Node.part?, Stmt.part?, shape]
        rfl
      exact Program.Contains.part within stands
  | blockStatements => exact within.blockStatements
  | blockTail => exact within.blockTail rfl
  | first => exact within.first
  | others => exact within.others

/-- The parts of the check of a program lead to nodes of the program. -/
theorem Part.Calls.within {part called : Part} (calls : part.Calls called)
    (within : part.Within program) (placing : part.state.Placing program) :
    called.Within program := by
  cases calls with
  | walk calls _ => exact calls.within within
  | request | unreached | reached | otherUncalled => trivial
  | body inside =>
      cases inside with
      | statements opens =>
          exact (Task.Within.block (placing.declared _ _ opens.found)).blockStatements
      | tail opens _ isTail =>
          exact (Task.Within.block (placing.declared _ _ opens.found)).blockTail isTail
  | first => exact Task.Within.first within
  | others => exact Task.Within.others within
  | statements | uncalled | otherPrograms => exact within.elim

end Walk

namespace State.Placing

variable {state after : State}

/-- The same notes and the same functions. -/
theorem congr (placing : state.Placing program) (types : after.types = state.types)
    (functions : after.functions = state.functions) : after.Placing program where
  noted := types ▸ placing.noted
  declared := functions ▸ placing.declared

theorem note (placing : state.Placing program) {place : Place} {expr : Expr} (type : Ty)
    (contains : program.Contains place (.expression expr)) :
    (state.note place expr type).Placing program :=
  { placing with
    noted := fun other found noted same => by
      rw [State.note, Table.get?_set] at same
      split at same
      · next samePlace =>
          cases same
          exact samePlace ▸ contains
      · exact placing.noted other found noted same }

theorem declare (placing : state.Placing program) {frame : FrameId} {place : Place} {name : Token}
    {parameters : List Token} {body : Block} (contains : program.Contains place (.block body)) :
    (state.declare frame place name parameters body).Placing program :=
  { placing with
    declared := fun identifier function found => by
      have pushed : (state.functions.push
          { name := name, parameters := parameters, body := body, place := place,
            closure := state.next, instances := [] })[identifier]? = some function := found
      rw [Array.getElem?_push] at pushed
      split at pushed
      · cases pushed
        exact contains
      · exact placing.declared identifier function pushed }

theorem setInstance (placing : state.Placing program) (identifier : Nat) (key : InstanceKey)
    (result : Ty) : (state.setInstance identifier key result).Placing program :=
  { placing with
    declared := fun other function found => by
      rw [State.setInstance, Array.getElem?_modify] at found
      split at found
      · obtain ⟨before, isBefore, rfl⟩ := Option.map_eq_some_iff.1 found
        exact placing.declared other before isBefore
      · exact placing.declared other function found }

end State.Placing

/-- What is noted and declared at all times stands in the program. -/
def placing (program : Program) : Course Stop State where
  later _ _ := True
  state := State.Placing program
  stop _ _ := True
  refl _ := trivial
  trans _ _ := trivial

/-- Every step of the check of a program notes and declares where the program has it. -/
theorem discipline_placing (program : Program) :
    Discipline (Part.Within program) (placing program) fun _ => True where
  toVariety := .any _
  closed within known _ calls := calls.within within known
  stops _ _ := trivial
  report diagnostic known := by
    unfold State.report
    split
    · exact ⟨trivial, known⟩
    · exact ⟨trivial, known.congr rfl rfl⟩
  note within _ known _ := ⟨trivial, known.note _ within⟩
  bind _ _ _ _ known _ := ⟨trivial, known.congr rfl rfl⟩
  declare within known := ⟨trivial, known.declare (Program.Contains.part within rfl)⟩
  addReturn _ known _ := by
    unfold State.addReturn
    split
    · exact ⟨trivial, known⟩
    · exact ⟨trivial, known.congr rfl rfl⟩
  nested _ known := ⟨trivial, known.congr rfl rfl⟩
  turn _ _ known := ⟨trivial, known.congr rfl rfl⟩
  enter _ _ known _ := ⟨⟨trivial, known.congr rfl rfl⟩, trivial, known.congr rfl rfl⟩
  leave _ _ _ _ _ known := ⟨trivial, known.congr rfl rfl⟩
  remember _ _ _ _ known _ _ _ _ _ := ⟨trivial, known.setInstance _ _ _⟩

/-- A new checker notes expressions of the program, where they stand. -/
theorem placing_of_checkProgram {fuel : Nat} {natives : Bindings Signature} {type : Ty}
    {after : State} (equation : checkProgram fuel natives program {} = .ok type after) :
    after.Placing program := by
  obtain ⟨middle, statements, uncalled⟩ := checkProgram_eq_ok equation
  have discipline := discipline_placing program
  have opened : (State.opened {} natives).Placing program :=
    { noted := fun _ _ _ found => by cases found
      declared := fun _ _ found => by cases found }
  have within : (Part.top fuel ({} : State).next (State.opened {} natives) (.root 0) 0 .unit
      program).Within program := by
    intro index stmt found
    rw [Nat.zero_add]
    exact .top found
  have early := ((discipline.top within opened).ends.of_ok statements).2.1
  exact ((discipline.uncalled trivial trivial early).ends.of_ok uncalled).2.1

end Typing

end CheckedScript
