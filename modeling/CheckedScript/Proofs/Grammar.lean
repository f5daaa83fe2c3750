import CheckedScript.Tree.Reader.Statement

/-!
# The grammar of programs

The phrases of the language as relations between token lists and trees.  Binary
operators come in six tiers; a phrase of a tier is a sequence of operands with
operators of that tier between them and stands for the tree that nests to the
left.  Nothing here mentions how phrases are read: which tokens belong to which
part of a phrase is left open by the rules, and that it can be decided is a
theorem about the readers.
-/

namespace CheckedScript

namespace Grammar

open Reader (Tier)

/-- The tier whose phrases are the operands of a tier.  The operands of the
tightest tier are unary phrases. -/
def tighter? : Tier → Option Tier
  | .disjunction => some .conjunction
  | .conjunction => some .equality
  | .equality => some .comparison
  | .comparison => some .sum
  | .sum => some .product
  | .product => none

/-- The binary operators of each tier, with the nodes they form. -/
inductive InnerOperator : Tier → Kind → (Token → Expr → Expr → Expr) → Prop
  | disjunction : InnerOperator .disjunction (.keyword .orWord) (.logical .disjunction)
  | conjunction : InnerOperator .conjunction (.keyword .andWord) (.logical .conjunction)
  | notEqual : InnerOperator .equality (.symbol .bangEqual) (.binary .notEqual)
  | equal : InnerOperator .equality (.symbol .equalEqual) (.binary .equal)
  | greater : InnerOperator .comparison (.symbol .greater) (.binary .greater)
  | greaterEqual : InnerOperator .comparison (.symbol .greaterEqual) (.binary .greaterEqual)
  | less : InnerOperator .comparison (.symbol .less) (.binary .less)
  | lessEqual : InnerOperator .comparison (.symbol .lessEqual) (.binary .lessEqual)
  | subtract : InnerOperator .sum (.symbol .minus) (.binary .subtract)
  | add : InnerOperator .sum (.symbol .plus) (.binary .add)
  | divide : InnerOperator .product (.symbol .slash) (.binary .divide)
  | multiply : InnerOperator .product (.symbol .star) (.binary .multiply)

/-- The operators before an operand. -/
inductive OuterOperator : Kind → UnaryOperator → Prop
  | invert : OuterOperator (.symbol .bang) .invert
  | negate : OuterOperator (.symbol .minus) .negate

/-- The kinds of literal tokens. -/
inductive LiteralKind : Kind → Prop
  | number : LiteralKind .number
  | text : LiteralKind .text
  | trueWord : LiteralKind (.keyword .trueWord)
  | falseWord : LiteralKind (.keyword .falseWord)

/-- One or more phrases with a comma between neighbours. -/
inductive Separated {α : Type} (phrase : List Token → α → Prop) : List Token → List α → Prop
  | one {tokens : List Token} {value : α} :
      phrase tokens value → Separated phrase tokens [value]
  | more {tokens others : List Token} {comma : Token} {value : α} {values : List α} :
      phrase tokens value → comma.kind = .symbol .comma → Separated phrase others values →
        Separated phrase (tokens ++ comma :: others) (value :: values)

mutual

/-- An assignment to a name, or a phrase of the loosest tier. -/
inductive Expression : List Token → Expr → Prop
  | assign {name equals : Token} {tokens : List Token} {value : Expr} :
      name.kind = .identifier → equals.kind = .symbol .equal → Expression tokens value →
        Expression (name :: equals :: tokens) (.assign name value)
  | plain {tokens : List Token} {value : Expr} :
      Infix .disjunction tokens value → Expression tokens value

/-- Operands of a tier with its operators between them, nested to the left. -/
inductive Infix : Tier → List Token → Expr → Prop
  | first {tier : Tier} {tokens : List Token} {value : Expr} :
      Operand tier tokens value → Infix tier tokens value
  | next {tier : Tier} {before after : List Token} {token : Token} {left right : Expr}
      {node : Token → Expr → Expr → Expr} :
      Infix tier before left → InnerOperator tier token.kind node → Operand tier after right →
        Infix tier (before ++ token :: after) (node token left right)

/-- An operand of a tier. -/
inductive Operand : Tier → List Token → Expr → Prop
  | tighter {tier inner : Tier} {tokens : List Token} {value : Expr} :
      tighter? tier = some inner → Infix inner tokens value → Operand tier tokens value
  | unary {tier : Tier} {tokens : List Token} {value : Expr} :
      tighter? tier = none → Unary tokens value → Operand tier tokens value

/-- Operators before an operand, or calls. -/
inductive Unary : List Token → Expr → Prop
  | operator {token : Token} {tokens : List Token} {operator : UnaryOperator}
      {operand : Expr} :
      OuterOperator token.kind operator → Unary tokens operand →
        Unary (token :: tokens) (.unary operator token operand)
  | call {tokens : List Token} {value : Expr} : Call tokens value → Unary tokens value

/-- A primary phrase with any number of argument lists after it. -/
inductive Call : List Token → Expr → Prop
  | primary {tokens : List Token} {value : Expr} : Primary tokens value → Call tokens value
  | empty {tokens : List Token} {opening closing : Token} {callee : Expr} :
      Call tokens callee → opening.kind = .symbol .leftParen →
        closing.kind = .symbol .rightParen →
        Call (tokens ++ [opening, closing]) (.call callee closing [])
  | arguments {tokens items : List Token} {opening closing : Token} {callee : Expr}
      {values : List Expr} :
      Call tokens callee → opening.kind = .symbol .leftParen →
        Separated Expression items values → closing.kind = .symbol .rightParen →
        Call (tokens ++ opening :: items ++ [closing]) (.call callee closing values)

/-- Literals, names and parentheses.  Nothing in parentheses is the empty tuple,
one expression is a group, several are a tuple. -/
inductive Primary : List Token → Expr → Prop
  | literal {token : Token} {value : Constant} :
      LiteralKind token.kind → Reader.constant? token = some value →
        Primary [token] (.literal value token)
  | reference {name : Token} : name.kind = .identifier → Primary [name] (.reference name)
  | unit {opening closing : Token} :
      opening.kind = .symbol .leftParen → closing.kind = .symbol .rightParen →
        Primary [opening, closing] (.tuple [])
  | group {opening closing : Token} {tokens : List Token} {value : Expr} :
      opening.kind = .symbol .leftParen → Expression tokens value →
        closing.kind = .symbol .rightParen →
        Primary (opening :: tokens ++ [closing]) (.group value)
  | tuple {opening comma closing : Token} {tokens others : List Token} {value : Expr}
      {values : List Expr} :
      opening.kind = .symbol .leftParen → Expression tokens value →
        comma.kind = .symbol .comma → Separated Expression others values →
        closing.kind = .symbol .rightParen →
        Primary (opening :: tokens ++ comma :: others ++ [closing]) (.tuple (value :: values))

end

/-- Written types.  One type in parentheses is that type. -/
inductive TypePhrase : List Token → WrittenType → Prop
  | number {token : Token} : token.kind = .keyword .numberWord → TypePhrase [token] .number
  | text {token : Token} : token.kind = .keyword .textWord → TypePhrase [token] .text
  | bool {token : Token} : token.kind = .keyword .boolWord → TypePhrase [token] .bool
  | unit {opening closing : Token} :
      opening.kind = .symbol .leftParen → closing.kind = .symbol .rightParen →
        TypePhrase [opening, closing] (.tuple [])
  | parenthesized {opening closing : Token} {tokens : List Token} {type : WrittenType} :
      opening.kind = .symbol .leftParen → TypePhrase tokens type →
        closing.kind = .symbol .rightParen →
        TypePhrase (opening :: tokens ++ [closing]) type
  | tuple {opening comma closing : Token} {tokens others : List Token} {type : WrittenType}
      {types : List WrittenType} :
      opening.kind = .symbol .leftParen → TypePhrase tokens type →
        comma.kind = .symbol .comma → Separated TypePhrase others types →
        closing.kind = .symbol .rightParen →
        TypePhrase (opening :: tokens ++ comma :: others ++ [closing]) (.tuple (type :: types))

/-- An identifier alone. -/
def Name (tokens : List Token) (name : Token) : Prop :=
  tokens = [name] ∧ name.kind = .identifier

/-- The parameters of a function with their parentheses. -/
inductive Parameters : List Token → List Token → Prop
  | empty {opening closing : Token} :
      opening.kind = .symbol .leftParen → closing.kind = .symbol .rightParen →
        Parameters [opening, closing] []
  | names {opening closing : Token} {tokens names : List Token} :
      opening.kind = .symbol .leftParen → Separated Name tokens names →
        closing.kind = .symbol .rightParen →
        Parameters (opening :: tokens ++ [closing]) names

/-- Loop bounds.  Of three expressions the middle one is the step. -/
inductive Range : List Token → Bounds → Prop
  | between {first second : List Token} {token : Token} {start stop : Expr} :
      Expression first start → token.kind = .symbol .dotDot → Expression second stop →
        Range (first ++ token :: second)
          { token := token, start := start, stop := stop, step := none }
  | stepped {first second third : List Token} {token other : Token} {start step stop : Expr} :
      Expression first start → token.kind = .symbol .dotDot → Expression second step →
        other.kind = .symbol .dotDot → Expression third stop →
        Range (first ++ token :: second ++ other :: third)
          { token := token, start := start, stop := stop, step := some step }

mutual

/-- Declarations and statements. -/
inductive Statement : List Token → Stmt → Prop
  | letPlain {keyword name equals semicolon : Token} {tokens : List Token}
      {initializer : Expr} :
      keyword.kind = .keyword .letWord → name.kind = .identifier →
        equals.kind = .symbol .equal → Expression tokens initializer →
        semicolon.kind = .symbol .semicolon →
        Statement (keyword :: name :: equals :: tokens ++ [semicolon])
          (.letValue name none initializer)
  | letTyped {keyword name colon equals semicolon : Token} {typeTokens tokens : List Token}
      {declared : WrittenType} {initializer : Expr} :
      keyword.kind = .keyword .letWord → name.kind = .identifier →
        colon.kind = .symbol .colon → TypePhrase typeTokens declared →
        equals.kind = .symbol .equal → Expression tokens initializer →
        semicolon.kind = .symbol .semicolon →
        Statement (keyword :: name :: colon :: typeTokens ++ equals :: tokens ++ [semicolon])
          (.letValue name (some declared) initializer)
  | function {keyword name : Token} {parameters tokens names : List Token} {body : Block} :
      keyword.kind = .keyword .funWord → name.kind = .identifier →
        Parameters parameters names → Braced tokens body →
        Statement (keyword :: name :: parameters ++ tokens) (.function name names body)
  | block {tokens : List Token} {body : Block} :
      Braced tokens body → Statement tokens (.block body)
  | conditional {tokens : List Token} {statement : Stmt} :
      Conditional tokens statement → Statement tokens statement
  | whileLoop {keyword : Token} {test tokens : List Token} {condition : Expr} {body : Block} :
      keyword.kind = .keyword .whileWord → Expression test condition → Braced tokens body →
        Statement (keyword :: test ++ tokens) (.whileLoop keyword condition body)
  | forLoop {keyword name inWord : Token} {range tokens : List Token} {bounds : Bounds}
      {body : Block} :
      keyword.kind = .keyword .forWord → name.kind = .identifier →
        inWord.kind = .keyword .inWord → Range range bounds → Braced tokens body →
        Statement (keyword :: name :: inWord :: range ++ tokens) (.forLoop name bounds body)
  | giveUnit {keyword semicolon : Token} :
      keyword.kind = .keyword .returnWord → semicolon.kind = .symbol .semicolon →
        Statement [keyword, semicolon] (.giveBack keyword none)
  | giveValue {keyword semicolon : Token} {tokens : List Token} {value : Expr} :
      keyword.kind = .keyword .returnWord → Expression tokens value →
        semicolon.kind = .symbol .semicolon →
        Statement (keyword :: tokens ++ [semicolon]) (.giveBack keyword (some value))
  | expression {semicolon : Token} {tokens : List Token} {value : Expr} :
      Expression tokens value → semicolon.kind = .symbol .semicolon →
        Statement (tokens ++ [semicolon]) (.expression value)

/-- A conditional; what follows `else` is a block or another conditional. -/
inductive Conditional : List Token → Stmt → Prop
  | alone {keyword : Token} {test tokens : List Token} {condition : Expr} {body : Block} :
      keyword.kind = .keyword .ifWord → Expression test condition → Braced tokens body →
        Conditional (keyword :: test ++ tokens) (.ifThen keyword condition body)
  | orBlock {keyword elseWord : Token} {test tokens others : List Token} {condition : Expr}
      {body alternative : Block} :
      keyword.kind = .keyword .ifWord → Expression test condition → Braced tokens body →
        elseWord.kind = .keyword .elseWord → Braced others alternative →
        Conditional (keyword :: test ++ tokens ++ elseWord :: others)
          (.ifElse keyword condition body (.block alternative))
  | orConditional {keyword elseWord : Token} {test tokens others : List Token}
      {condition : Expr} {body : Block} {alternative : Stmt} :
      keyword.kind = .keyword .ifWord → Expression test condition → Braced tokens body →
        elseWord.kind = .keyword .elseWord → Conditional others alternative →
        Conditional (keyword :: test ++ tokens ++ elseWord :: others)
          (.ifElse keyword condition body alternative)

/-- Statements between braces, possibly followed by the tail of the block. -/
inductive Braced : List Token → Block → Prop
  | plain {opening closing : Token} {tokens : List Token} {statements : List Stmt} :
      opening.kind = .symbol .leftBrace → Statements tokens statements →
        closing.kind = .symbol .rightBrace →
        Braced (opening :: tokens ++ [closing]) (.mk opening statements none)
  | tail {opening closing : Token} {tokens last : List Token} {statements : List Stmt}
      {value : Expr} :
      opening.kind = .symbol .leftBrace → Statements tokens statements →
        Expression last value → closing.kind = .symbol .rightBrace →
        Braced (opening :: tokens ++ last ++ [closing]) (.mk opening statements (some value))

/-- Any number of statements.  This is what a program is. -/
inductive Statements : List Token → List Stmt → Prop
  | nil : Statements [] []
  | cons {tokens others : List Token} {statement : Stmt} {statements : List Stmt} :
      Statement tokens statement → Statements others statements →
        Statements (tokens ++ others) (statement :: statements)

end

end Grammar

end CheckedScript
