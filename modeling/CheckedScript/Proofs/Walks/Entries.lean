import CheckedScript.Proofs.Anchors.Running
import CheckedScript.Proofs.Running.Closures
import CheckedScript.Proofs.Walks.Courses
import CheckedScript.Proofs.Walks.Nodes
import CheckedScript.Proofs.Walks.Visits

/-!
# The walk of a run into the bodies of functions

`Evaluation.Reaches` follows a run into the bodies of the functions that it calls.  Such a
body stands where a function statement stands that the run has come to before: the one that
made the closure.  A frame is as deep as the place that is visited in it.  That holds at
the top, and a step of the walk keeps it: frames never move, so a closure that a run has
made stays as deep as it was made, for as long as it is called.
-/

namespace CheckedScript

open Typing (Place)

namespace Scopes

variable {α : Type}

theorem depth_nest (scopes : Scopes α) (frame : FrameId) :
    (scopes.nest frame).2.depth scopes.frames.size = scopes.depth frame + 1 := by
  have inside := ancestors_nest scopes frame
  rw [fst_nest] at inside
  rw [depth, inside, path, List.length_cons]
  rfl

theorem Grown.depth {before after : Scopes α} (grown : Grown before after) {frame : FrameId}
    (present : frame < before.frames.size) : after.depth frame = before.depth frame := by
  rw [Scopes.depth, Scopes.depth, grown.ancestors frame present]

end Scopes

namespace Evaluation

open Eval Scopes

namespace Machine

/-- The closure that a function statement makes. -/
def closure (machine : Machine) (name : Token) (parameters : List Token) (body : Block) :
    Closure where
  name := name.lexeme
  parameters := parameters.map (·.lexeme)
  body := body
  frame := machine.next

/-- The machine in which the body of a function is executed. -/
def entered (machine : Machine) (closure : Closure) (arguments : List Value) : Machine :=
  { machine with
    scopes := (machine.nested closure.frame).scopes.defineAll machine.next
      (closure.parameters.zip arguments) }

end Machine

/-- The visits of a run of a program on a new machine, with a bound on its nesting, also
those in the bodies of functions. -/
inductive Reaches (natives : List Native) (bound : Nat) (program : Program) : Visit → Prop
  | top {before after : List Stmt} {stmt : Stmt} {value : Value} {machine : Machine} :
      program = before ++ stmt :: after →
      executeProgram natives bound Machine.root .unit before (Machine.start natives) =
        .ok value machine →
      Reaches natives bound program
        ⟨bound, Machine.root, machine, .statement ((Place.root 0).child before.length) stmt⟩
  | part {visit called : Visit} :
      Reaches natives bound program visit → visit.Calls natives called →
      Reaches natives bound program called
  /-- A function is called that a function statement made earlier. -/
  | enter {limit fuel : Nat} {frame caller : FrameId} {before machine : Machine} {place : Place}
      {name : Token} {parameters : List Token} {body : Block} {arguments : List Value} :
      Reaches natives bound program
        ⟨limit + 1, frame, before, .statement place (.function name parameters body)⟩ →
      (before.nested frame).scopes.Grown machine.scopes →
      Reaches natives bound program
        ⟨fuel + 1, caller, machine,
          .call (.function (before.closure name parameters body)) arguments⟩ →
      parameters.length = arguments.length →
      Reaches natives bound program
        ⟨fuel, machine.next, machine.entered (before.closure name parameters body) arguments,
          .body (place.child 0) body⟩

/-- The parts of a task stand where the tree has them, at a given depth. -/
def Task.StandsAt (program : Program) (depth : Nat) : Task → Prop
  | .expression place expr => program.nodeAt? place = some (.expression expr, depth)
  | .expressions place step exprs => ∀ index expr, exprs[index]? = some expr →
      program.nodeAt? (place.child (step + index)) = some (.expression expr, depth)
  | .call _ _ => True
  | .statement place stmt => program.nodeAt? place = some (.statement stmt, depth)
  | .statements place step stmts => ∀ index stmt, stmts[index]? = some stmt →
      program.nodeAt? (place.child (step + index)) = some (.statement stmt, depth)
  | .body place inner => ∀ index part, inner.parts[index]? = some part →
      program.nodeAt? (place.child index) = some (part, depth)
  | .block place inner => ∀ index part, inner.parts[index]? = some part →
      program.nodeAt? (place.child index) = some (part, depth + 1)
  | .whileLoop place keyword condition inner =>
      program.nodeAt? place = some (.statement (.whileLoop keyword condition inner), depth)
  | .forLoop place _ _ _ inner => program.nodeAt? (place.child 3) = some (.block inner, depth + 1)

/-- The values that a task is given. -/
def Task.given : Task → List Value
  | .call callee arguments => callee :: arguments
  | _ => []

section Parts

variable {program : Program} {place : Place} {depth step : Nat} {natives : List Native}

theorem standsAt_parts {expr : Expr} {exprs : List Expr}
    (found : program.nodeAt? place = some (.expression expr, depth))
    (are : ∀ index part, exprs[index]? = some part → expr.parts[step + index]? = some part) :
    (Task.expressions place step exprs).StandsAt program depth :=
  fun index part isPart => Program.nodeAt?_part found (are index part isPart)

theorem standsAt_block {body : Block}
    (found : program.nodeAt? place = some (.block body, depth)) :
    (Task.block place body).StandsAt program depth :=
  fun _ _ isPart => Program.nodeAt?_inside found isPart

/-- A task goes on to parts in its own frame, or makes a new one for them. -/
theorem Visit.Calls.standsAt {visit called : Visit} (calls : visit.Calls natives called)
    (stands : visit.task.StandsAt program depth) :
    (called.frame = visit.frame ∧ called.task.StandsAt program depth) ∨
      (called.frame = visit.machine.next ∧
        (visit.machine.nested visit.frame).scopes.Grown called.machine.scopes ∧
        called.task.StandsAt program (depth + 1)) := by
  cases calls with
  | assigned | inner | operand | left | logicalLeft | callee =>
      exact .inl ⟨rfl, Program.nodeAt?_part stands rfl⟩
  | right _ | logicalRight _ => exact .inl ⟨rfl, Program.nodeAt?_part stands rfl⟩
  | items =>
      refine .inl ⟨rfl, standsAt_parts stands fun index part isPart => ?_⟩
      rw [Nat.zero_add]
      exact isPart
  | arguments _ =>
      refine .inl ⟨rfl, standsAt_parts stands fun index part isPart => ?_⟩
      rw [Nat.add_comm]
      exact isPart
  | call _ _ => exact .inl ⟨rfl, trivial⟩
  | item => exact .inl ⟨rfl, stands 0 _ rfl⟩
  | otherItems _ =>
      refine .inl ⟨rfl, fun index part isPart => ?_⟩
      rw [Nat.add_assoc, Nat.add_comm 1]
      exact stands (index + 1) part isPart
  | value | initializer | ifCondition | elseCondition | forStart | returned | whileCondition =>
      exact .inl ⟨rfl, Program.nodeAt?_step stands rfl⟩
  | block =>
      refine .inl ⟨rfl, fun index part isPart => Program.nodeAt?_child stands ?_⟩
      rw [Node.part?, Stmt.part?, isPart]
      rfl
  | ifConsequent _ | elseConsequent _ | whileBody _ =>
      exact .inl ⟨rfl, standsAt_block (Program.nodeAt?_step stands rfl)⟩
  | alternative _ => exact .inl ⟨rfl, Program.nodeAt?_step stands rfl⟩
  | whileLoop => exact .inl ⟨rfl, stands⟩
  | whileAgain _ _ => exact .inl ⟨rfl, stands⟩
  | forStep _ shape =>
      refine .inl ⟨rfl, Program.nodeAt?_step stands ?_⟩
      rw [Stmt.part?, shape]
      rfl
  | forStop _ _ => exact .inl ⟨rfl, Program.nodeAt?_step stands rfl⟩
  | forLoop _ _ _ _ => exact .inl ⟨rfl, Program.nodeAt?_child stands rfl⟩
  | forBody _ => exact .inr ⟨rfl, .defineAll _ _ _, standsAt_block stands⟩
  | forAgain _ _ => exact .inl ⟨rfl, stands⟩
  | body => exact .inr ⟨rfl, .refl _, stands⟩
  | bodyStatements =>
      refine .inl ⟨rfl, fun index stmt found => ?_⟩
      rw [Nat.zero_add]
      exact stands index _ (Block.parts_statement found)
  | bodyTail _ => exact .inl ⟨rfl, stands _ _ Block.parts_tail⟩
  | first => exact .inl ⟨rfl, stands 0 _ rfl⟩
  | others _ =>
      refine .inl ⟨rfl, fun index stmt found => ?_⟩
      rw [Nat.add_assoc, Nat.add_comm 1]
      exact stands (index + 1) stmt found

end Parts

variable (natives : List Native) (bound : Nat) (program : Program)

/-- A closure that a function statement of the run has made, in a machine that came later.
The statement stood at the depth of its frame. -/
inductive Known (machine : Machine) : Closure → Prop
  | made {limit : Nat} {frame : FrameId} {before : Machine} {place : Place} {name : Token}
      {parameters : List Token} {body : Block} :
      Reaches natives bound program
        ⟨limit + 1, frame, before, .statement place (.function name parameters body)⟩ →
      program.nodeAt? place =
        some (.statement (.function name parameters body), before.scopes.depth frame) →
      (before.nested frame).scopes.Grown machine.scopes →
      Known machine (before.closure name parameters body)

/-- A value all of whose closures are known. -/
abbrev Machine.Knows (machine : Machine) (value : Value) : Prop :=
  value.Holds (Known natives bound program machine)

/-- A machine that knows all values bound in it. -/
def Machine.Tame (machine : Machine) : Prop :=
  machine.scopes.All (machine.Knows natives bound program)

/-- What runs of parts of a program do: no frame moves, and all closures are known. -/
def course : Course Stop Machine where
  later before after := before.scopes.Grown after.scopes
  state := Machine.Tame natives bound program
  stop
    | .returned value, after => after.Knows natives bound program value
    | .failed _, _ | .faulted _, _ | .aborted _, _ | .exhausted, _ => True
  refl _ := .refl _
  trans := .trans

/-- A visit in a frame as deep as its place. -/
structure Visit.Seated (visit : Visit) : Prop where
  present : visit.frame < visit.machine.next
  stands : visit.task.StandsAt program (visit.machine.scopes.depth visit.frame)
  tame : visit.machine.Tame natives bound program
  given : Value.HoldAll (Known natives bound program visit.machine) visit.task.given

/-- The run of a task ends with what is known of runs. -/
def Visit.EndsWell (visit : Visit) : Prop :=
  let knows (value : Value) (after : Machine) : Prop := after.Knows natives bound program value
  match visit with
  | ⟨fuel, frame, machine, task⟩ =>
      match task with
      | .expression _ expr =>
          (course natives bound program).Ends machine knows
            (evaluate natives fuel frame expr machine)
      | .expressions _ _ exprs =>
          (course natives bound program).Ends machine
            (fun values after => Value.HoldAll (Known natives bound program after) values)
            (evaluateAll natives fuel frame exprs machine)
      | .call callee arguments => ∀ paren,
          (course natives bound program).Ends machine knows
            (Eval.call natives fuel callee arguments paren machine)
      | .statement _ stmt =>
          (course natives bound program).Ends machine knows
            (execute natives fuel frame stmt machine)
      | .statements _ _ stmts =>
          (course natives bound program).Ends machine (fun _ _ => True)
            (executeAll natives fuel frame stmts machine)
      | .body _ body =>
          (course natives bound program).Ends machine knows
            (executeBody natives fuel frame body machine)
      | .block _ body =>
          (course natives bound program).Ends machine knows
            (executeBlock natives fuel frame body machine)
      | .whileLoop _ keyword condition body =>
          (course natives bound program).Ends machine knows
            (repeatWhile natives fuel frame keyword condition body machine)
      | .forLoop _ name range index body =>
          (course natives bound program).Ends machine knows
            (repeatFor natives fuel frame name range index body machine)

end Evaluation

end CheckedScript
