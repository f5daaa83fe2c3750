import CheckedScript.Proofs.Computation
import CheckedScript.Tree.Reader.Statement

/-!
# Reading with and without recovery

A faulty statement is recorded and skipped, and reading resumes at the next border.  Reading
that stops at the first fault instead is the same but for what becomes of the faulty
statement, so both are described by one family of readers that takes this as a parameter.
With recovery the family is the readers of statements themselves.
-/

namespace CheckedScript

namespace Reader

/-- What becomes of a faulty statement. -/
inductive Recovery where
  /-- It is recorded, and reading resumes at the next statement border. -/
  | resuming
  /-- Reading stops there. -/
  | stopping

/-- Run the reader of a statement in a mode. -/
def Recovery.attempt {α : Type} : Recovery → Reader α → Reader (Option α)
  | resuming, reader => Reader.attempt reader
  | stopping, reader => some <$> reader

/-- Reading that stops at a fault goes on with what it has read. -/
theorem Recovery.stopping_bind {α β : Type} (reader : Reader α) (next : Option α → Reader β) :
    (Recovery.stopping.attempt reader >>= next) = reader >>= fun value => next (some value) := by
  rw [Recovery.attempt, map_eq_pure_bind, bind_assoc]
  simp only [pure_bind]

section Family

variable (mode : Recovery)

mutual

/-- A statement. -/
def statementBy : Nat → Reader Stmt
  | 0 => throw .exhausted
  | fuel + 1 => do
      match ← nextKind? with
      | some (.keyword .letWord) => do
          let _ ← expect (.keyword .letWord)
          letRest
      | some (.keyword .funWord) => do
          let _ ← expect (.keyword .funWord)
          let name ← expectName
          let names ← parameters
          return .function name names (← blockBy fuel)
      | some (.symbol .leftBrace) => return .block (← blockBy fuel)
      | some (.keyword .ifWord) => ifBy fuel
      | some (.keyword .whileWord) => do
          let keyword ← expect (.keyword .whileWord)
          let condition ← expression
          return .whileLoop keyword condition (← blockBy fuel)
      | some (.keyword .forWord) => do
          let _ ← expect (.keyword .forWord)
          let name ← expectName
          let _ ← expect (.keyword .inWord)
          let range ← bounds
          return .forLoop name range (← blockBy fuel)
      | some (.keyword .returnWord) => do
          let keyword ← expect (.keyword .returnWord)
          returnRest keyword
      | _ => expressionStatement

/-- A conditional with its alternatives. -/
def ifBy : Nat → Reader Stmt
  | 0 => throw .exhausted
  | fuel + 1 => do
      let keyword ← expect (.keyword .ifWord)
      let condition ← expression
      let consequent ← blockBy fuel
      match ← accept? (.keyword .elseWord) with
      | none => return .ifThen keyword condition consequent
      | some _ =>
          if ← nextIs (.keyword .ifWord) then
            return .ifElse keyword condition consequent (← ifBy fuel)
          else
            return .ifElse keyword condition consequent (.block (← blockBy fuel))

/-- A block with its braces. -/
def blockBy : Nat → Reader Block
  | 0 => throw .exhausted
  | fuel + 1 => do
      let brace ← expect (.symbol .leftBrace)
      let (statements, tail) ← itemsBy fuel
      match ← accept? (.symbol .rightBrace) with
      | none => fail .unterminatedBlock brace
      | some _ => return .mk brace statements tail

/-- The statements and the tail of a block, up to its closing brace. -/
def itemsBy : Nat → Reader (List Stmt × Option Expr)
  | 0 => throw .exhausted
  | fuel + 1 => do
      match ← nextKind? with
      | none | some .endOfInput => return ([], none)
      | some (.symbol .rightBrace) => return ([], none)
      | some _ =>
          match ← mode.attempt (itemBy fuel) with
          | none => itemsBy fuel
          | some (.tail value) => return ([], some value)
          | some (.statement statement) =>
              let (statements, tail) ← itemsBy fuel
              return (statement :: statements, tail)

/-- One statement, or the tail of the block. -/
def itemBy : Nat → Reader Item
  | 0 => throw .exhausted
  | fuel + 1 => do
      if (← nextKind?).any opensStatement then
        .statement <$> statementBy fuel
      else
        let value ← expression
        if ← nextIs (.symbol .rightBrace) then
          return .tail value
        else
          let _ ← expect (.symbol .semicolon)
          return .statement (.expression value)

end

/-- Statements up to the end marker, or to the end of the tokens. -/
def statementsBy : Nat → Reader (List Stmt)
  | 0 => throw .exhausted
  | fuel + 1 => do
      match ← nextKind? with
      | none | some .endOfInput => return []
      | some _ =>
          match ← mode.attempt (fun cursor =>
              statementBy mode (nestingBound cursor.rest.length) cursor) with
          | none => statementsBy fuel
          | some first => return first :: (← statementsBy fuel)

end Family

/-- The readers of statements, as members of the family. -/
structure Resuming (fuel : Nat) : Prop where
  statement : statementBy .resuming fuel = statementWithin fuel
  conditional : ifBy .resuming fuel = ifWithin fuel
  block : blockBy .resuming fuel = blockWithin fuel
  items : itemsBy .resuming fuel = itemsWithin fuel
  item : itemBy .resuming fuel = itemWithin fuel

/-- Reading with recovery is reading. -/
theorem resuming (fuel : Nat) : Resuming fuel := by
  induction fuel with
  | zero => exact ⟨rfl, rfl, rfl, rfl, rfl⟩
  | succ fuel inductionHypothesis =>
      obtain ⟨statement, conditional, block, items, item⟩ := inductionHypothesis
      constructor
      · rw [statementWithin, ← block, ← conditional]
        rfl
      · rw [ifWithin, ← block, ← conditional]
        rfl
      · rw [blockWithin, ← items]
        rfl
      · rw [itemsWithin, ← item, ← items]
        rfl
      · rw [itemWithin, ← statement]
        rfl

theorem statementsBy_resuming (fuel : Nat) : statementsBy .resuming fuel = statements fuel := by
  induction fuel with
  | zero => rfl
  | succ fuel inductionHypothesis =>
      rw [statementsBy, statements, inductionHypothesis]
      simp only [(resuming _).statement]
      rfl

end Reader

end CheckedScript
