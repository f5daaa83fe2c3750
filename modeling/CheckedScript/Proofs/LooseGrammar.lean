import CheckedScript.Proofs.Grammar

/-!
# The grammar with any assignment target

The phrases of the language when anything of the loosest tier may stand before an assignment's
`=`.  Reading accepts such an assignment before it looks at its target, so this is the grammar
against which it goes astray token by token.  Only the tokens matter here; what they stand for is
left to `Grammar`.  Repetitions are written from the left, as a first phrase and what may follow
it.  A sentence ends with an end marker.
-/

namespace CheckedScript

namespace Grammar

namespace Loose

open Reader (Tier)

mutual

/-- An assignment to anything of the loosest tier, or a phrase of that tier. -/
inductive Expression : List Token → Prop
  | assign {equals : Token} {target tokens : List Token} :
      Infix .disjunction target → equals.kind = .symbol .equal → Expression tokens →
        Expression (target ++ equals :: tokens)
  | plain {tokens : List Token} : Infix .disjunction tokens → Expression tokens

/-- An operand of a tier and what follows it. -/
inductive Infix : Tier → List Token → Prop
  | operand {tier : Tier} {tokens others : List Token} :
      Operand tier tokens → Operators tier others → Infix tier (tokens ++ others)

/-- Operators of a tier with an operand behind each. -/
inductive Operators : Tier → List Token → Prop
  | none {tier : Tier} : Operators tier []
  | some {tier : Tier} {token : Token} {tokens others : List Token}
      {node : Token → Expr → Expr → Expr} :
      InnerOperator tier token.kind node → Operand tier tokens → Operators tier others →
        Operators tier (token :: tokens ++ others)

/-- An operand of a tier. -/
inductive Operand : Tier → List Token → Prop
  | tighter {tier inner : Tier} {tokens : List Token} :
      tighter? tier = .some inner → Infix inner tokens → Operand tier tokens
  | unary {tier : Tier} {tokens : List Token} :
      tighter? tier = .none → Unary tokens → Operand tier tokens

/-- Operators before an operand, or calls. -/
inductive Unary : List Token → Prop
  | operator {token : Token} {tokens : List Token} {operator : UnaryOperator} :
      OuterOperator token.kind operator → Unary tokens → Unary (token :: tokens)
  | call {tokens others : List Token} :
      Primary tokens → Calls others → Unary (tokens ++ others)

/-- Any number of argument lists. -/
inductive Calls : List Token → Prop
  | none : Calls []
  | some {opening : Token} {tokens others : List Token} :
      opening.kind = .symbol .leftParen → Listed tokens → Calls others →
        Calls (opening :: tokens ++ others)

/-- Any number of expressions with commas between them, and the parenthesis that closes them. -/
inductive Listed : List Token → Prop
  | empty {closing : Token} : closing.kind = .symbol .rightParen → Listed [closing]
  | items {closing : Token} {tokens others : List Token} :
      Expression tokens → Items others → closing.kind = .symbol .rightParen →
        Listed (tokens ++ others ++ [closing])

/-- Any number of expressions with a comma before each. -/
inductive Items : List Token → Prop
  | none : Items []
  | some {comma : Token} {tokens others : List Token} :
      comma.kind = .symbol .comma → Expression tokens → Items others →
        Items (comma :: tokens ++ others)

/-- Literals, names and parentheses. -/
inductive Primary : List Token → Prop
  | literal {token : Token} : LiteralKind token.kind → Primary [token]
  | reference {name : Token} : name.kind = .identifier → Primary [name]
  | parenthesized {opening : Token} {tokens : List Token} :
      opening.kind = .symbol .leftParen → Listed tokens → Primary (opening :: tokens)

end

/-- Loop bounds, with or without a step. -/
inductive Range : List Token → Prop
  | between {token : Token} {first second : List Token} :
      Expression first → token.kind = .symbol .dotDot → Expression second →
        Range (first ++ token :: second)
  | stepped {token other : Token} {first second third : List Token} :
      Expression first → token.kind = .symbol .dotDot → Expression second →
        other.kind = .symbol .dotDot → Expression third →
        Range (first ++ token :: second ++ other :: third)

mutual

/-- Declarations and statements. -/
inductive Statement : List Token → Prop
  | letPlain {keyword name equals semicolon : Token} {tokens : List Token} :
      keyword.kind = .keyword .letWord → name.kind = .identifier →
        equals.kind = .symbol .equal → Expression tokens → semicolon.kind = .symbol .semicolon →
        Statement (keyword :: name :: equals :: tokens ++ [semicolon])
  | letTyped {keyword name colon equals semicolon : Token} {typeTokens tokens : List Token}
      {declared : WrittenType} :
      keyword.kind = .keyword .letWord → name.kind = .identifier →
        colon.kind = .symbol .colon → TypePhrase typeTokens declared →
        equals.kind = .symbol .equal → Expression tokens → semicolon.kind = .symbol .semicolon →
        Statement (keyword :: name :: colon :: typeTokens ++ equals :: tokens ++ [semicolon])
  | function {keyword name : Token} {parameters tokens names : List Token} :
      keyword.kind = .keyword .funWord → name.kind = .identifier →
        Parameters parameters names → Braced tokens →
        Statement (keyword :: name :: parameters ++ tokens)
  | block {tokens : List Token} : Braced tokens → Statement tokens
  | conditional {tokens : List Token} : Conditional tokens → Statement tokens
  | whileLoop {keyword : Token} {test tokens : List Token} :
      keyword.kind = .keyword .whileWord → Expression test → Braced tokens →
        Statement (keyword :: test ++ tokens)
  | forLoop {keyword name inWord : Token} {range tokens : List Token} :
      keyword.kind = .keyword .forWord → name.kind = .identifier →
        inWord.kind = .keyword .inWord → Range range → Braced tokens →
        Statement (keyword :: name :: inWord :: range ++ tokens)
  | giveUnit {keyword semicolon : Token} :
      keyword.kind = .keyword .returnWord → semicolon.kind = .symbol .semicolon →
        Statement [keyword, semicolon]
  | giveValue {keyword semicolon : Token} {tokens : List Token} :
      keyword.kind = .keyword .returnWord → Expression tokens →
        semicolon.kind = .symbol .semicolon → Statement (keyword :: tokens ++ [semicolon])
  | expression {semicolon : Token} {tokens : List Token} :
      Expression tokens → semicolon.kind = .symbol .semicolon → Statement (tokens ++ [semicolon])

/-- A conditional; what follows `else` is a block or another conditional. -/
inductive Conditional : List Token → Prop
  | alone {keyword : Token} {test tokens : List Token} :
      keyword.kind = .keyword .ifWord → Expression test → Braced tokens →
        Conditional (keyword :: test ++ tokens)
  | orBlock {keyword elseWord : Token} {test tokens others : List Token} :
      keyword.kind = .keyword .ifWord → Expression test → Braced tokens →
        elseWord.kind = .keyword .elseWord → Braced others →
        Conditional (keyword :: test ++ tokens ++ elseWord :: others)
  | orConditional {keyword elseWord : Token} {test tokens others : List Token} :
      keyword.kind = .keyword .ifWord → Expression test → Braced tokens →
        elseWord.kind = .keyword .elseWord → Conditional others →
        Conditional (keyword :: test ++ tokens ++ elseWord :: others)

/-- What stands between braces, with the braces. -/
inductive Braced : List Token → Prop
  | block {opening closing : Token} {tokens : List Token} :
      opening.kind = .symbol .leftBrace → Body tokens → closing.kind = .symbol .rightBrace →
        Braced (opening :: tokens ++ [closing])

/-- Any number of statements, possibly followed by the tail of the block. -/
inductive Body : List Token → Prop
  | nil : Body []
  | tail {tokens : List Token} : Expression tokens → Body tokens
  | cons {tokens others : List Token} :
      Statement tokens → Body others → Body (tokens ++ others)

end

/-- Any number of statements. -/
inductive Statements : List Token → Prop
  | nil : Statements []
  | cons {tokens others : List Token} :
      Statement tokens → Statements others → Statements (tokens ++ others)

/-- A program with the end marker behind it. -/
inductive Sentence : List Token → Prop
  | program {tokens : List Token} {marker : Token} :
      Statements tokens → marker.kind = .endOfInput → Sentence (tokens ++ [marker])

/-- Tokens with which a sentence may begin. -/
def Extendable (tokens : List Token) : Prop :=
  ∃ more, Sentence (tokens ++ more)

end Loose

end Grammar

end CheckedScript
