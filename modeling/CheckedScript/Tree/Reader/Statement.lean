import CheckedScript.Tree.Reader.Expression

/-!
# Reading statements

A block is a sequence of statements between braces; an expression directly
before the closing brace is its tail.  Faulty statements are recorded and
skipped, both within blocks and at the top level, so one pass reports all of
them.  `Program.read` accepts a token list if nothing was recorded.
-/

namespace CheckedScript

namespace Reader

/-- Kinds that decide, as the first token, which statement is being read.  All
others start an expression. -/
def opensStatement : Kind → Bool
  | .keyword .letWord | .keyword .funWord | .keyword .ifWord | .keyword .whileWord
  | .keyword .forWord | .keyword .returnWord | .symbol .leftBrace => true
  | _ => false

/-- Further names, each after a comma. -/
def namesRest : Nat → Reader (List Token)
  | 0 => throw .exhausted
  | fuel + 1 => do
      match ← accept? (.symbol .comma) with
      | none => return []
      | some _ =>
          let name ← expectName
          return name :: (← namesRest fuel)

/-- The parameters of a function, between parentheses. -/
def parameters : Reader (List Token) := do
  let _ ← expect (.symbol .leftParen)
  let names ←
    if ← nextIs (.symbol .rightParen) then
      pure []
    else do
      let first ← expectName
      let others ← namesRest (nestingBound (← get).rest.length)
      pure (first :: others)
  let _ ← expect (.symbol .rightParen)
  return names

/-- The rest of a `let` statement. -/
def letRest : Reader Stmt := do
  let name ← expectName
  let declared ←
    match ← accept? (.symbol .colon) with
    | none => pure none
    | some _ => some <$> writtenType
  match ← accept? (.symbol .equal) with
  | none => fail .missingInitializer name
  | some _ =>
      let initializer ← expression
      let _ ← expect (.symbol .semicolon)
      return .letValue name declared initializer

/-- The rest of a `return` statement. -/
def returnRest (keyword : Token) : Reader Stmt := do
  let value ←
    if ← nextIs (.symbol .semicolon) then pure none else some <$> expression
  let _ ← expect (.symbol .semicolon)
  return .giveBack keyword value

/-- Loop bounds.  Of three expressions the middle one is the step. -/
def bounds : Reader Bounds := do
  let start ← expression
  let token ← expect (.symbol .dotDot)
  let second ← expression
  match ← accept? (.symbol .dotDot) with
  | none => return { token := token, start := start, stop := second, step := none }
  | some _ =>
      let third ← expression
      return { token := token, start := start, stop := third, step := some second }

/-- An expression followed by a semicolon. -/
def expressionStatement : Reader Stmt := do
  let value ← expression
  let _ ← expect (.symbol .semicolon)
  return .expression value

/-- What stands in a block. -/
inductive Item where
  | statement (statement : Stmt)
  | tail (value : Expr)

mutual

/-- A statement. -/
def statementWithin : Nat → Reader Stmt
  | 0 => throw .exhausted
  | fuel + 1 => do
      match ← nextKind? with
      | some (.keyword .letWord) => do
          let _ ← expect (.keyword .letWord)
          letRest
      | some (.keyword .funWord) => do
          let _ ← expect (.keyword .funWord)
          let name ← expectName
          let names ← parameters
          return .function name names (← blockWithin fuel)
      | some (.symbol .leftBrace) => return .block (← blockWithin fuel)
      | some (.keyword .ifWord) => ifWithin fuel
      | some (.keyword .whileWord) => do
          let keyword ← expect (.keyword .whileWord)
          let condition ← expression
          return .whileLoop keyword condition (← blockWithin fuel)
      | some (.keyword .forWord) => do
          let _ ← expect (.keyword .forWord)
          let name ← expectName
          let _ ← expect (.keyword .inWord)
          let range ← bounds
          return .forLoop name range (← blockWithin fuel)
      | some (.keyword .returnWord) => do
          let keyword ← expect (.keyword .returnWord)
          returnRest keyword
      | _ => expressionStatement

/-- A conditional with its alternatives. -/
def ifWithin : Nat → Reader Stmt
  | 0 => throw .exhausted
  | fuel + 1 => do
      let keyword ← expect (.keyword .ifWord)
      let condition ← expression
      let consequent ← blockWithin fuel
      match ← accept? (.keyword .elseWord) with
      | none => return .ifThen keyword condition consequent
      | some _ =>
          if ← nextIs (.keyword .ifWord) then
            return .ifElse keyword condition consequent (← ifWithin fuel)
          else
            return .ifElse keyword condition consequent (.block (← blockWithin fuel))

/-- A block with its braces. -/
def blockWithin : Nat → Reader Block
  | 0 => throw .exhausted
  | fuel + 1 => do
      let brace ← expect (.symbol .leftBrace)
      let (statements, tail) ← itemsWithin fuel
      match ← accept? (.symbol .rightBrace) with
      | none => fail .unterminatedBlock brace
      | some _ => return .mk brace statements tail

/-- The statements and the tail of a block, up to its closing brace. -/
def itemsWithin : Nat → Reader (List Stmt × Option Expr)
  | 0 => throw .exhausted
  | fuel + 1 => do
      match ← nextKind? with
      | none | some .endOfInput => return ([], none)
      | some (.symbol .rightBrace) => return ([], none)
      | some _ =>
          match ← attempt (itemWithin fuel) with
          | none => itemsWithin fuel
          | some (.tail value) => return ([], some value)
          | some (.statement statement) =>
              let (statements, tail) ← itemsWithin fuel
              return (statement :: statements, tail)

/-- One statement, or the tail of the block. -/
def itemWithin : Nat → Reader Item
  | 0 => throw .exhausted
  | fuel + 1 => do
      if (← nextKind?).any opensStatement then
        .statement <$> statementWithin fuel
      else
        let value ← expression
        if ← nextIs (.symbol .rightBrace) then
          return .tail value
        else
          let _ ← expect (.symbol .semicolon)
          return .statement (.expression value)

end

/-- Read a statement. -/
def statement : Reader Stmt := fun cursor =>
  statementWithin (nestingBound cursor.rest.length) cursor

/-- Statements up to the end marker, or to the end of the tokens. -/
def statements : Nat → Reader (List Stmt)
  | 0 => throw .exhausted
  | fuel + 1 => do
      match ← nextKind? with
      | none | some .endOfInput => return []
      | some _ =>
          match ← attempt statement with
          | none => statements fuel
          | some first => return first :: (← statements fuel)

end Reader

/-- Read a token list up to its first end marker, if there is one, as a program,
or refuse it with every fault found. -/
def Program.read (tokens : List Token) : Except Rejection Program :=
  match tokens with
  | [] => .ok []
  | first :: _ =>
      match Reader.statements (tokens.length + 1) { previous := first, rest := tokens } with
      | .ok program cursor =>
          if cursor.diagnostics.isEmpty then
            .ok program
          else
            .error { phase := .parsing, diagnostics := cursor.diagnostics }
      | .error _ cursor => .error { phase := .parsing, diagnostics := cursor.diagnostics }

end CheckedScript
