import CheckedScript.Typing.State

/-!
# Places and their depths

Every place of a program belongs to a node of its tree.  On the way from a node to one of
its parts a walk over the tree makes frames: one for the statements of a block and its
tail, one for the variable of a loop, and one for a function to close over.  The static
depth of a place is the number of frames made on the way to it.
-/

namespace CheckedScript

open Typing (Place)

/-- The nodes of the tree of a program. -/
inductive Node where
  | program (statements : Program)
  | statement (stmt : Stmt)
  | expression (expr : Expr)
  | block (body : Block)

/-- The parts of an expression. -/
def Expr.parts : Expr → List Expr
  | .literal _ _ | .reference _ => []
  | .assign _ value => [value]
  | .unary _ _ operand => [operand]
  | .binary _ _ left right | .logical _ _ left right => [left, right]
  | .group inner => [inner]
  | .tuple items => items
  | .call callee _ arguments => callee :: arguments

/-- The parts of a block: its statements, and its tail. -/
def Block.parts : Block → List Node
  | .mk _ statements tail => statements.map .statement ++ tail.toList.map .expression

/-- A part of a statement, and the number of frames that are made on the way to it. -/
def Stmt.part? : Stmt → Nat → Option (Node × Nat)
  | .expression value, 0 => some (.expression value, 0)
  | .letValue _ _ initializer, 0 => some (.expression initializer, 0)
  | .block body, step => body.parts[step]?.map fun part => (part, 1)
  | .ifThen _ condition _, 0 => some (.expression condition, 0)
  | .ifThen _ _ consequent, 1 => some (.block consequent, 0)
  | .ifElse _ condition _ _, 0 => some (.expression condition, 0)
  | .ifElse _ _ consequent _, 1 => some (.block consequent, 0)
  | .ifElse _ _ _ alternative, 2 => some (.statement alternative, 0)
  | .whileLoop _ condition _, 0 => some (.expression condition, 0)
  | .whileLoop _ _ body, 1 => some (.block body, 0)
  | .forLoop _ bounds _, 0 => some (.expression bounds.start, 0)
  | .forLoop _ bounds _, 1 => bounds.step.map fun step => (.expression step, 0)
  | .forLoop _ bounds _, 2 => some (.expression bounds.stop, 0)
  | .forLoop _ _ body, 3 => some (.block body, 1)
  | .function _ _ body, 0 => some (.block body, 1)
  | .giveBack _ value, 0 => value.map fun value => (.expression value, 0)
  | _, _ => none

/-- A part of a node, and the number of frames that are made on the way to it. -/
def Node.part? : Node → Nat → Option (Node × Nat)
  | .program statements, step => statements[step]?.map fun stmt => (.statement stmt, 0)
  | .statement stmt, step => stmt.part? step
  | .expression expr, step => expr.parts[step]?.map fun part => (.expression part, 0)
  | .block body, step => body.parts[step]?.map fun part => (part, 1)

namespace Program

/-- The node that some steps lead to, the last step first, and its static depth.  The first
step leads to the program itself. -/
def nodeAlong? (program : Program) : List Nat → Option (Node × Nat)
  | [] => none
  | [_] => some (.program program, 0)
  | step :: next :: steps => do
      let (node, depth) ← nodeAlong? program (next :: steps)
      let (part, frames) ← node.part? step
      return (part, depth + frames)

/-- The node at a place, and the static depth of the place. -/
def nodeAt? (program : Program) (place : Place) : Option (Node × Nat) :=
  program.nodeAlong? place.steps

variable {program : Program} {place : Place} {depth : Nat}

theorem nodeAt?_child {node part : Node} {step frames : Nat}
    (found : program.nodeAt? place = some (node, depth))
    (isPart : node.part? step = some (part, frames)) :
    program.nodeAt? (place.child step) = some (part, depth + frames) := by
  obtain ⟨length, steps⟩ := place
  cases steps with
  | nil => cases found
  | cons next steps =>
      unfold nodeAt? at found ⊢
      unfold Place.child nodeAlong?
      rw [found]
      change (node.part? step).bind _ = _
      rw [isPart]
      rfl

/-- The parts of an expression stand in the frame of the expression. -/
theorem nodeAt?_part {expr part : Expr} {step : Nat}
    (found : program.nodeAt? place = some (.expression expr, depth))
    (isPart : expr.parts[step]? = some part) :
    program.nodeAt? (place.child step) = some (.expression part, depth) := by
  have stands : (Node.expression expr).part? step = some (.expression part, 0) := by
    rw [Node.part?, isPart]
    rfl
  exact nodeAt?_child found stands

/-- Most parts of a statement stand in the frame of the statement. -/
theorem nodeAt?_step {stmt : Stmt} {part : Node} {step : Nat}
    (found : program.nodeAt? place = some (.statement stmt, depth))
    (isPart : stmt.part? step = some (part, 0)) :
    program.nodeAt? (place.child step) = some (part, depth) :=
  nodeAt?_child found isPart

/-- The parts of a block stand one frame deeper. -/
theorem nodeAt?_inside {body : Block} {part : Node} {step : Nat}
    (found : program.nodeAt? place = some (.block body, depth))
    (isPart : body.parts[step]? = some part) :
    program.nodeAt? (place.child step) = some (part, depth + 1) := by
  have stands : (Node.block body).part? step = some (part, 1) := by
    rw [Node.part?, isPart]
    rfl
  exact nodeAt?_child found stands

/-- The statements of a program stand in its root frame. -/
theorem nodeAt?_top {stmt : Stmt} {index : Nat} (found : program[index]? = some stmt) :
    program.nodeAt? ((Place.root 0).child index) = some (.statement stmt, 0) := by
  have root : program.nodeAt? (Place.root 0) = some (.program program, 0) := rfl
  have stands : (Node.program program).part? index = some (.statement stmt, 0) := by
    rw [Node.part?, found]
    rfl
  exact nodeAt?_child root stands

end Program

namespace Block

variable {brace : Token} {statements : List Stmt} {step : Nat}

theorem parts_statement {tail : Option Expr} {stmt : Stmt}
    (found : statements[step]? = some stmt) :
    (mk brace statements tail).parts[step]? = some (.statement stmt) := by
  have present := (List.getElem?_eq_some_iff.1 found).1
  rw [parts, List.getElem?_append_left (by simpa using present), List.getElem?_map, found]
  rfl

theorem parts_tail {tail : Expr} :
    (mk brace statements (some tail)).parts[statements.length]? = some (.expression tail) := by
  simp [parts]

end Block

end CheckedScript
