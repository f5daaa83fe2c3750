import CheckedScript.Tree.Reader.Cursor

/-!
# Reading expressions and written types

Binary operators come in tiers, from the loosest to the tightest, and every
tier is read by the same loop, which nests to the left.  Assignment is looser
than all tiers and nests to the right.  The readers take a bound on the number
of nested steps; `expression` and `writtenType` compute one from the number of
tokens that are left.
-/

namespace CheckedScript

namespace Reader

/-- Tiers of binary operators. -/
inductive Tier where
  | disjunction
  | conjunction
  | equality
  | comparison
  | sum
  | product
  deriving DecidableEq, Repr

/-- All tiers, from the loosest to the tightest. -/
def tiers : List Tier :=
  [.disjunction, .conjunction, .equality, .comparison, .sum, .product]

/-- An operator with two operands. -/
inductive InnerOperator where
  | binary (operator : BinaryOperator)
  | logical (operator : LogicalOperator)
  deriving DecidableEq, Repr

/-- The expression an operator forms with its operands. -/
def InnerOperator.apply (token : Token) (left right : Expr) : InnerOperator → Expr
  | binary operator => .binary operator token left right
  | logical operator => .logical operator token left right

/-- The operators of a tier. -/
def Tier.operator? : Tier → Kind → Option InnerOperator
  | disjunction, .keyword .orWord => some (.logical .disjunction)
  | conjunction, .keyword .andWord => some (.logical .conjunction)
  | equality, .symbol .bangEqual => some (.binary .notEqual)
  | equality, .symbol .equalEqual => some (.binary .equal)
  | comparison, .symbol .greater => some (.binary .greater)
  | comparison, .symbol .greaterEqual => some (.binary .greaterEqual)
  | comparison, .symbol .less => some (.binary .less)
  | comparison, .symbol .lessEqual => some (.binary .lessEqual)
  | sum, .symbol .minus => some (.binary .subtract)
  | sum, .symbol .plus => some (.binary .add)
  | product, .symbol .slash => some (.binary .divide)
  | product, .symbol .star => some (.binary .multiply)
  | _, _ => none

/-- The operators before an operand. -/
def unaryOperator? : Kind → Option UnaryOperator
  | .symbol .bang => some .invert
  | .symbol .minus => some .negate
  | _ => none

/-- The constant of a literal token.  A number or text token denotes its
payload; one that lacks it denotes zero or the empty text. -/
def constant? (token : Token) : Option Constant :=
  match token.kind with
  | .number =>
      match token.payload with
      | some (.number value) => some (.number value)
      | _ => some (.number 0)
  | .text =>
      match token.payload with
      | some (.text value) => some (.text value)
      | _ => some (.text "")
  | .keyword .trueWord => some (.bool true)
  | .keyword .falseWord => some (.bool false)
  | _ => none

/-- Consume a literal token. -/
def literal? : Reader (Option Expr) := do
  let cursor ← get
  match cursor.rest with
  | [] => return none
  | token :: _ =>
      match constant? token with
      | none => return none
      | some value =>
          set cursor.advance
          return some (.literal value token)

/-- One item alone is a group, any other number of items is a tuple. -/
def parenthesized : List Expr → Expr
  | [item] => .group item
  | items => .tuple items

mutual

/-- An assignment or an expression of the loosest tier.  A target that is no
name is recorded once the value has been read, and the target is returned. -/
def assignment : Nat → Reader Expr
  | 0 => throw .exhausted
  | fuel + 1 => do
      let target ← tier fuel tiers
      match ← accept? (.symbol .equal) with
      | none => return target
      | some equals =>
          let value ← assignment fuel
          match target with
          | .reference name => return .assign name value
          | _ =>
              modify fun cursor =>
                cursor.record { cause := .invalidTarget, token := equals }
              return target

/-- An expression of the given tiers. -/
def tier : Nat → List Tier → Reader Expr
  | 0, _ => throw .exhausted
  | fuel + 1, [] => unary fuel
  | fuel + 1, level :: tighter => do
      let left ← tier fuel tighter
      tierRest fuel level tighter left

/-- Further operators of one tier and their right operands. -/
def tierRest : Nat → Tier → List Tier → Expr → Reader Expr
  | 0, _, _, _ => throw .exhausted
  | fuel + 1, level, tighter, left => do
      match ← acceptWhere? level.operator? with
      | none => return left
      | some (operator, token) =>
          let right ← tier fuel tighter
          tierRest fuel level tighter (operator.apply token left right)

/-- Operators before an operand. -/
def unary : Nat → Reader Expr
  | 0 => throw .exhausted
  | fuel + 1 => do
      match ← acceptWhere? unaryOperator? with
      | some (operator, token) => return .unary operator token (← unary fuel)
      | none => callRest fuel (← primary fuel)

/-- Argument lists after a callee. -/
def callRest : Nat → Expr → Reader Expr
  | 0, _ => throw .exhausted
  | fuel + 1, callee => do
      match ← accept? (.symbol .leftParen) with
      | none => return callee
      | some opening =>
          let (arguments, closing) ← listAfter fuel opening
          callRest fuel (.call callee closing arguments)

/-- A literal, a name, or a list in parentheses. -/
def primary : Nat → Reader Expr
  | 0 => throw .exhausted
  | fuel + 1 => do
      match ← literal? with
      | some constant => return constant
      | none =>
          match ← accept? .identifier with
          | some name => return .reference name
          | none =>
              match ← accept? (.symbol .leftParen) with
              | some opening =>
                  let (items, _) ← listAfter fuel opening
                  return parenthesized items
              | none => failAfter .missingExpression

/-- A list up to its closing parenthesis, which is returned as well. -/
def listAfter : Nat → Token → Reader (List Expr × Token)
  | 0, _ => throw .exhausted
  | fuel + 1, opening => do
      match ← accept? (.symbol .rightParen) with
      | some closing => return ([], closing)
      | none =>
          let first ← assignment fuel
          let others ← listRest fuel
          match ← accept? (.symbol .rightParen) with
          | some closing => return (first :: others, closing)
          | none => fail .unterminatedParenthesis opening

/-- Further items of a list, each after a comma. -/
def listRest : Nat → Reader (List Expr)
  | 0 => throw .exhausted
  | fuel + 1 => do
      match ← accept? (.symbol .comma) with
      | none => return []
      | some _ =>
          let item ← assignment fuel
          return item :: (← listRest fuel)

end

/-- A bound on the nesting of readers over a number of tokens. -/
def nestingBound (tokens : Nat) : Nat :=
  16 * (tokens + 1)

/-- Read an expression. -/
def expression : Reader Expr := fun cursor =>
  assignment (nestingBound cursor.rest.length) cursor

/-- The types that are one word. -/
def simpleType? : Kind → Option WrittenType
  | .keyword .numberWord => some .number
  | .keyword .textWord => some .text
  | .keyword .boolWord => some .bool
  | _ => none

/-- One type in parentheses is that type, any other number of types is a tuple
type. -/
def parenthesizedType : List WrittenType → WrittenType
  | [item] => item
  | items => .tuple items

mutual

/-- A written type. -/
def typeWithin : Nat → Reader WrittenType
  | 0 => throw .exhausted
  | fuel + 1 => do
      match ← acceptWhere? simpleType? with
      | some (simple, _) => return simple
      | none =>
          match ← accept? (.symbol .leftParen) with
          | none => failAfter .missingType
          | some opening =>
              match ← accept? (.symbol .rightParen) with
              | some _ => return .tuple []
              | none =>
                  let first ← typeWithin fuel
                  let others ← typesWithin fuel
                  match ← accept? (.symbol .rightParen) with
                  | some _ => return parenthesizedType (first :: others)
                  | none => fail .unterminatedParenthesis opening

/-- Further types, each after a comma. -/
def typesWithin : Nat → Reader (List WrittenType)
  | 0 => throw .exhausted
  | fuel + 1 => do
      match ← accept? (.symbol .comma) with
      | none => return []
      | some _ =>
          let item ← typeWithin fuel
          return item :: (← typesWithin fuel)

end

/-- Read a written type. -/
def writtenType : Reader WrittenType := fun cursor =>
  typeWithin (nestingBound cursor.rest.length) cursor

end Reader

end CheckedScript
