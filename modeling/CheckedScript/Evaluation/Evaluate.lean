import CheckedScript.Evaluation.Machine

/-!
# Running programs

Expressions and statements are evaluated in a frame.  Blocks run in a frame of
their own, every turn of a `for` loop has one frame for its variable, and a call
runs the body of a function in a new frame inside the one the function closes
over.  Operands, callees and arguments are evaluated from left to right.

The first argument of the mutually recursive functions bounds their nesting; a
turn of a loop counts as one step of nesting.
-/

namespace CheckedScript

open Evaluation

namespace Eval

mutual

/-- The value of an expression. -/
def evaluate (natives : List Native) : Nat → FrameId → Expr → Eval Value
  | 0, _, _ => throw .exhausted
  | fuel + 1, frame, expr => do
      match expr with
      | .literal value _ => return constantValue value
      | .reference name => lookup frame name.lexeme
      | .assign name value =>
          let assigned ← evaluate natives fuel frame value
          assign frame name.lexeme assigned
          return assigned
      | .group inner => evaluate natives fuel frame inner
      | .tuple items => return .tuple (← evaluateAll natives fuel frame items)
      | .unary operator token operand =>
          let value ← evaluate natives fuel frame operand
          orStop (applyUnary operator token value)
      | .logical operator token left right =>
          let first ← orStop (truth token (← evaluate natives fuel frame left))
          match operator, first with
          | .disjunction, true => return .bool true
          | .conjunction, false => return .bool false
          | _, _ =>
              let second ← evaluate natives fuel frame right
              return .bool (← orStop (truth token second))
      | .binary operator token left right =>
          let first ← evaluate natives fuel frame left
          let second ← evaluate natives fuel frame right
          orStop (applyBinary operator token first second)
      | .call callee paren arguments =>
          let function ← evaluate natives fuel frame callee
          let values ← evaluateAll natives fuel frame arguments
          call natives fuel function values paren
termination_by structural fuel => fuel

/-- The values of several expressions. -/
def evaluateAll (natives : List Native) : Nat → FrameId → List Expr → Eval (List Value)
  | 0, _, _ => throw .exhausted
  | _ + 1, _, [] => return []
  | fuel + 1, frame, expr :: exprs => do
      let value ← evaluate natives fuel frame expr
      let values ← evaluateAll natives fuel frame exprs
      return value :: values
termination_by structural fuel => fuel

/-- The value of a call. -/
def call (natives : List Native) : Nat → Value → List Value → Token → Eval Value
  | 0, _, _, _ => throw .exhausted
  | fuel + 1, callee, arguments, paren => do
      match callee with
      | .native key signature =>
          requireArity signature.name signature.parameters.length arguments.length
          match Native.find? natives key with
          | some native => callNative native arguments paren
          | none => throw (.faulted (.uncallable callee.quoted))
      | .function closure =>
          requireArity closure.name closure.parameters.length arguments.length
          let frame ← nest closure.frame
          define frame (closure.parameters.zip arguments)
          catchReturn (executeBody natives fuel frame closure.body)
      | other => throw (.faulted (.uncallable other.quoted))
termination_by structural fuel => fuel

/-- The value of a statement, which is unit except for expressions and blocks. -/
def execute (natives : List Native) : Nat → FrameId → Stmt → Eval Value
  | 0, _, _ => throw .exhausted
  | fuel + 1, frame, stmt => do
      match stmt with
      | .expression value => evaluate natives fuel frame value
      | .letValue name _ initializer =>
          let value ← evaluate natives fuel frame initializer
          define frame [(name.lexeme, value)]
          return .unit
      | .block body => executeBlock natives fuel frame body
      | .ifThen keyword condition consequent =>
          if ← orStop (truth keyword (← evaluate natives fuel frame condition)) then
            let _ ← executeBlock natives fuel frame consequent
          return .unit
      | .ifElse keyword condition consequent alternative =>
          if ← orStop (truth keyword (← evaluate natives fuel frame condition)) then
            let _ ← executeBlock natives fuel frame consequent
          else
            let _ ← execute natives fuel frame alternative
          return .unit
      | .whileLoop keyword condition body =>
          repeatWhile natives fuel frame keyword condition body
      | .forLoop name bounds body =>
          let start ← evaluate natives fuel frame bounds.start
          let step ←
            match bounds.step with
            | none => pure none
            | some step => some <$> evaluate natives fuel frame step
          let stop ← evaluate natives fuel frame bounds.stop
          let range ← orStop (loopRange bounds.token start stop step)
          repeatFor natives fuel frame name.lexeme range 0 body
      | .function name parameters body =>
          let closure ← nest frame
          let function : Closure :=
            { name := name.lexeme, parameters := parameters.map (·.lexeme)
              body := body, frame := closure }
          define frame [(name.lexeme, .function function)]
          return .unit
      | .giveBack _ value =>
          match value with
          | none => throw (.returned .unit)
          | some value => throw (.returned (← evaluate natives fuel frame value))
termination_by structural fuel => fuel

/-- Execute statements one after the other. -/
def executeAll (natives : List Native) : Nat → FrameId → List Stmt → Eval Unit
  | 0, _, _ => throw .exhausted
  | _ + 1, _, [] => return ()
  | fuel + 1, frame, stmt :: stmts => do
      let _ ← execute natives fuel frame stmt
      executeAll natives fuel frame stmts
termination_by structural fuel => fuel

/-- Execute a block in a given frame; its value is that of its tail. -/
def executeBody (natives : List Native) : Nat → FrameId → Block → Eval Value
  | 0, _, _ => throw .exhausted
  | fuel + 1, frame, .mk _ statements tail => do
      executeAll natives fuel frame statements
      match tail with
      | none => return .unit
      | some tail => evaluate natives fuel frame tail
termination_by structural fuel => fuel

/-- Execute a block in a frame of its own. -/
def executeBlock (natives : List Native) : Nat → FrameId → Block → Eval Value
  | 0, _, _ => throw .exhausted
  | fuel + 1, frame, body => do
      let inner ← nest frame
      executeBody natives fuel inner body
termination_by structural fuel => fuel

/-- Execute a block as long as a condition holds. -/
def repeatWhile (natives : List Native) :
    Nat → FrameId → Token → Expr → Block → Eval Value
  | 0, _, _, _, _ => throw .exhausted
  | fuel + 1, frame, keyword, condition, body => do
      if ← orStop (truth keyword (← evaluate natives fuel frame condition)) then
        let _ ← executeBlock natives fuel frame body
        repeatWhile natives fuel frame keyword condition body
      else
        return .unit
termination_by structural fuel => fuel

/-- Execute a block for the items of a range, from the one with a given index
on. -/
def repeatFor (natives : List Native) :
    Nat → FrameId → String → NumberRange Float → Nat → Block → Eval Value
  | 0, _, _, _, _, _ => throw .exhausted
  | fuel + 1, frame, name, range, index, body => do
      match range.item? index with
      | none => return .unit
      | some item =>
          let inner ← nest frame
          define inner [(name, .number item)]
          let _ ← executeBlock natives fuel inner body
          repeatFor natives fuel frame name range (index + 1) body
termination_by structural fuel => fuel

end

/-- Execute a program in a frame; its value is that of its last statement. -/
def executeProgram (natives : List Native) (fuel : Nat) (frame : FrameId) :
    Value → List Stmt → Eval Value
  | last, [] => return last
  | _, stmt :: stmts => do
      let value ← execute natives fuel frame stmt
      executeProgram natives fuel frame value stmts

end Eval

/-- How running a program ends. -/
inductive RunResult where
  | value (value : Value)
  | rejected (rejection : Rejection)
  | faulted (fault : Fault)
  | aborted (reason : String)
  /-- The bound on the number of steps was too small. -/
  | exhausted

namespace Evaluation

namespace Machine

/-- The frame of the global names. -/
def root : FrameId := 0

/-- A machine whose global names are native functions. -/
def start (natives : List Native) : Machine where
  scopes := Scopes.root.defineAll root (natives.map fun native => (native.key, native.value))

/-- Run a program after others in the global frame.  Its output is what the
console of the machine afterwards holds. -/
def run (machine : Machine) (natives : List Native) (fuel : Nat) (program : Program) :
    RunResult × Machine :=
  let ready := { machine with console := { machine.console with output := "" } }
  match Eval.executeProgram natives fuel root .unit program ready with
  | .ok value after => (.value value, after)
  | .error (.returned _) after => (.faulted .escapedReturn, after)
  | .error (.failed diagnostic) after =>
      (.rejected { phase := .running, diagnostics := [diagnostic] }, after)
  | .error (.faulted fault) after => (.faulted fault, after)
  | .error (.aborted reason) after => (.aborted reason, after)
  | .error .exhausted after => (.exhausted, after)

end Machine

end Evaluation

end CheckedScript
