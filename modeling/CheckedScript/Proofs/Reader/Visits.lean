import CheckedScript.Proofs.Reader.Locality

/-!
# The walk of a reading

Reading a program is a walk over its tokens.  `Visit.Calls` has one rule for every call that a
reader makes: another reader is run where the readers before it have left the tokens.  A faulty
statement is visited like any other, and so is what is read when reading resumes behind it.
-/

namespace CheckedScript

namespace Reader

/-- What a reading is busy with. -/
inductive Task where
  | statements
  | statement
  | conditional
  | block
  | items
  | item
  | assignment
  | tier (levels : List Tier)
  | tierRest (level : Tier) (tighter : List Tier) (left : Expr)
  | unary
  | callRest (callee : Expr)
  | primary
  | listAfter (opening : Token)
  | listRest

/-- What is returned for a task. -/
def Task.Value : Task → Type
  | statements => List Stmt
  | statement | conditional => Stmt
  | block => Block
  | items => List Stmt × Option Expr
  | item => Item
  | listAfter _ => List Expr × Token
  | listRest => List Expr
  | _ => Expr

/-- The reader that carries out a task. -/
def Task.reader : (task : Task) → Nat → Reader task.Value
  | statements => Reader.statements
  | statement => statementWithin
  | conditional => ifWithin
  | block => blockWithin
  | items => itemsWithin
  | item => itemWithin
  | assignment => Reader.assignment
  | tier levels => fun fuel => Reader.tier fuel levels
  | tierRest level tighter left => fun fuel => Reader.tierRest fuel level tighter left
  | unary => Reader.unary
  | callRest callee => fun fuel => Reader.callRest fuel callee
  | primary => Reader.primary
  | listAfter opening => fun fuel => Reader.listAfter fuel opening
  | listRest => Reader.listRest

/-- A task that a reading turns to: how much of the bound on the nesting is left, and where the
reader stands. -/
structure Visit where
  fuel : Nat
  cursor : Cursor
  task : Task

/-- How the reader of a visit ends. -/
def Visit.result (visit : Visit) : EStateM.Result Stop Cursor visit.task.Value :=
  visit.task.reader visit.fuel visit.cursor

/-- An expression that is to be read. -/
def Visit.expression (cursor : Cursor) : Visit where
  fuel := nestingBound cursor.rest.length
  cursor := cursor
  task := .assignment

/-- The next token has a given kind; it is followed by given tokens. -/
structure Cursor.Opens (cursor : Cursor) (kind : Kind) (token : Token) (rest : List Token) :
    Prop where
  split : cursor.rest = token :: rest
  same : token.kind = kind

/-- The tasks that a task leads to directly. -/
inductive Visit.Calls : Visit → Visit → Prop
  | first {fuel cursor token rest} :
      cursor.rest = token :: rest → token.kind ≠ .endOfInput →
      Calls ⟨fuel + 1, cursor, .statements⟩ ⟨nestingBound cursor.rest.length, cursor, .statement⟩
  | others {fuel cursor middle token rest first} :
      cursor.rest = token :: rest → token.kind ≠ .endOfInput →
      attempt Reader.statement cursor = .ok first middle →
      Calls ⟨fuel + 1, cursor, .statements⟩ ⟨fuel, middle, .statements⟩
  | initializer {fuel cursor middle keyword rest header} :
      cursor.Opens (.keyword .letWord) keyword rest →
      letHeader (cursor.past keyword rest) = .ok header middle →
      Calls ⟨fuel + 1, cursor, .statement⟩ (.expression middle)
  | functionBody {fuel cursor middle keyword rest header} :
      cursor.Opens (.keyword .funWord) keyword rest →
      functionHeader (cursor.past keyword rest) = .ok header middle →
      Calls ⟨fuel + 1, cursor, .statement⟩ ⟨fuel, middle, .block⟩
  | block {fuel cursor brace rest} :
      cursor.Opens (.symbol .leftBrace) brace rest →
      Calls ⟨fuel + 1, cursor, .statement⟩ ⟨fuel, cursor, .block⟩
  | conditional {fuel cursor keyword rest} :
      cursor.Opens (.keyword .ifWord) keyword rest →
      Calls ⟨fuel + 1, cursor, .statement⟩ ⟨fuel, cursor, .conditional⟩
  | whileCondition {fuel cursor keyword rest} :
      cursor.Opens (.keyword .whileWord) keyword rest →
      Calls ⟨fuel + 1, cursor, .statement⟩ (.expression (cursor.past keyword rest))
  | whileBody {fuel cursor middle keyword rest condition} :
      cursor.Opens (.keyword .whileWord) keyword rest →
      Reader.expression (cursor.past keyword rest) = .ok condition middle →
      Calls ⟨fuel + 1, cursor, .statement⟩ ⟨fuel, middle, .block⟩
  | forStart {fuel cursor middle keyword rest name} :
      cursor.Opens (.keyword .forWord) keyword rest →
      forHeader (cursor.past keyword rest) = .ok name middle →
      Calls ⟨fuel + 1, cursor, .statement⟩ (.expression middle)
  | forStop {fuel cursor middle after keyword dots rest later name start} :
      cursor.Opens (.keyword .forWord) keyword rest →
      forHeader (cursor.past keyword rest) = .ok name middle →
      Reader.expression middle = .ok start after → after.Opens (.symbol .dotDot) dots later →
      Calls ⟨fuel + 1, cursor, .statement⟩ (.expression (after.past dots later))
  | forLast {fuel cursor middle after last keyword dots more rest later others name start second} :
      cursor.Opens (.keyword .forWord) keyword rest →
      forHeader (cursor.past keyword rest) = .ok name middle →
      Reader.expression middle = .ok start after → after.Opens (.symbol .dotDot) dots later →
      Reader.expression (after.past dots later) = .ok second last →
      last.Opens (.symbol .dotDot) more others →
      Calls ⟨fuel + 1, cursor, .statement⟩ (.expression (last.past more others))
  | forBody {fuel cursor middle after keyword rest name range} :
      cursor.Opens (.keyword .forWord) keyword rest →
      forHeader (cursor.past keyword rest) = .ok name middle → bounds middle = .ok range after →
      Calls ⟨fuel + 1, cursor, .statement⟩ ⟨fuel, after, .block⟩
  | returned {fuel cursor keyword rest} :
      cursor.Opens (.keyword .returnWord) keyword rest →
      rest.head?.map (·.kind) ≠ some (.symbol .semicolon) →
      Calls ⟨fuel + 1, cursor, .statement⟩ (.expression (cursor.past keyword rest))
  | value {fuel cursor} :
      (∀ token ∈ cursor.rest.head?, opensStatement token.kind = false) →
      Calls ⟨fuel + 1, cursor, .statement⟩ (.expression cursor)
  | ifCondition {fuel cursor keyword rest} :
      cursor.Opens (.keyword .ifWord) keyword rest →
      Calls ⟨fuel + 1, cursor, .conditional⟩ (.expression (cursor.past keyword rest))
  | ifConsequent {fuel cursor middle keyword rest condition} :
      cursor.Opens (.keyword .ifWord) keyword rest →
      Reader.expression (cursor.past keyword rest) = .ok condition middle →
      Calls ⟨fuel + 1, cursor, .conditional⟩ ⟨fuel, middle, .block⟩
  | elseConditional {fuel cursor middle after keyword elseWord next rest later condition
      consequent others} :
      cursor.Opens (.keyword .ifWord) keyword rest →
      Reader.expression (cursor.past keyword rest) = .ok condition middle →
      blockWithin fuel middle = .ok consequent after →
      after.Opens (.keyword .elseWord) elseWord later →
      (after.past elseWord later).Opens (.keyword .ifWord) next others →
      Calls ⟨fuel + 1, cursor, .conditional⟩ ⟨fuel, after.past elseWord later, .conditional⟩
  | elseBlock {fuel cursor middle after keyword elseWord rest later condition consequent} :
      cursor.Opens (.keyword .ifWord) keyword rest →
      Reader.expression (cursor.past keyword rest) = .ok condition middle →
      blockWithin fuel middle = .ok consequent after →
      after.Opens (.keyword .elseWord) elseWord later →
      later.head?.map (·.kind) ≠ some (.keyword .ifWord) →
      Calls ⟨fuel + 1, cursor, .conditional⟩ ⟨fuel, after.past elseWord later, .block⟩
  | braces {fuel cursor brace rest} :
      cursor.Opens (.symbol .leftBrace) brace rest →
      Calls ⟨fuel + 1, cursor, .block⟩ ⟨fuel, cursor.past brace rest, .items⟩
  | item {fuel cursor token rest} :
      cursor.rest = token :: rest → token.kind ≠ .endOfInput → token.kind ≠ .symbol .rightBrace →
      Calls ⟨fuel + 1, cursor, .items⟩ ⟨fuel, cursor, .item⟩
  | otherItems {fuel cursor middle token rest found} :
      cursor.rest = token :: rest → token.kind ≠ .endOfInput → token.kind ≠ .symbol .rightBrace →
      attempt (itemWithin fuel) cursor = .ok found middle →
      (∀ value, found ≠ some (.tail value)) →
      Calls ⟨fuel + 1, cursor, .items⟩ ⟨fuel, middle, .items⟩
  | itemStatement {fuel cursor token rest} :
      cursor.rest = token :: rest → opensStatement token.kind = true →
      Calls ⟨fuel + 1, cursor, .item⟩ ⟨fuel, cursor, .statement⟩
  | itemValue {fuel cursor} :
      (∀ token ∈ cursor.rest.head?, opensStatement token.kind = false) →
      Calls ⟨fuel + 1, cursor, .item⟩ (.expression cursor)
  | target {fuel cursor} :
      Calls ⟨fuel + 1, cursor, .assignment⟩ ⟨fuel, cursor, .tier tiers⟩
  | assigned {fuel cursor middle equals rest target} :
      Reader.tier fuel tiers cursor = .ok target middle →
      middle.Opens (.symbol .equal) equals rest →
      Calls ⟨fuel + 1, cursor, .assignment⟩ ⟨fuel, middle.past equals rest, .assignment⟩
  | tightest {fuel cursor} :
      Calls ⟨fuel + 1, cursor, .tier []⟩ ⟨fuel, cursor, .unary⟩
  | left {fuel cursor level tighter} :
      Calls ⟨fuel + 1, cursor, .tier (level :: tighter)⟩ ⟨fuel, cursor, .tier tighter⟩
  | operators {fuel cursor middle level tighter left} :
      Reader.tier fuel tighter cursor = .ok left middle →
      Calls ⟨fuel + 1, cursor, .tier (level :: tighter)⟩
        ⟨fuel, middle, .tierRest level tighter left⟩
  | right {fuel cursor level tighter left operator token rest} :
      cursor.rest = token :: rest → level.operator? token.kind = some operator →
      Calls ⟨fuel + 1, cursor, .tierRest level tighter left⟩
        ⟨fuel, cursor.past token rest, .tier tighter⟩
  | otherOperators {fuel cursor middle level tighter left operator token rest right} :
      cursor.rest = token :: rest → level.operator? token.kind = some operator →
      Reader.tier fuel tighter (cursor.past token rest) = .ok right middle →
      Calls ⟨fuel + 1, cursor, .tierRest level tighter left⟩
        ⟨fuel, middle, .tierRest level tighter (operator.apply token left right)⟩
  | operand {fuel cursor operator token rest} :
      cursor.rest = token :: rest → unaryOperator? token.kind = some operator →
      Calls ⟨fuel + 1, cursor, .unary⟩ ⟨fuel, cursor.past token rest, .unary⟩
  | primary {fuel cursor} :
      (∀ token ∈ cursor.rest.head?, unaryOperator? token.kind = none) →
      Calls ⟨fuel + 1, cursor, .unary⟩ ⟨fuel, cursor, .primary⟩
  | calls {fuel cursor middle callee} :
      (∀ token ∈ cursor.rest.head?, unaryOperator? token.kind = none) →
      Reader.primary fuel cursor = .ok callee middle →
      Calls ⟨fuel + 1, cursor, .unary⟩ ⟨fuel, middle, .callRest callee⟩
  | arguments {fuel cursor callee opening rest} :
      cursor.Opens (.symbol .leftParen) opening rest →
      Calls ⟨fuel + 1, cursor, .callRest callee⟩
        ⟨fuel, cursor.past opening rest, .listAfter opening⟩
  | otherCalls {fuel cursor middle callee opening closing rest arguments} :
      cursor.Opens (.symbol .leftParen) opening rest →
      Reader.listAfter fuel opening (cursor.past opening rest) = .ok (arguments, closing) middle →
      Calls ⟨fuel + 1, cursor, .callRest callee⟩
        ⟨fuel, middle, .callRest (.call callee closing arguments)⟩
  | parentheses {fuel cursor opening rest} :
      cursor.Opens (.symbol .leftParen) opening rest →
      Calls ⟨fuel + 1, cursor, .primary⟩ ⟨fuel, cursor.past opening rest, .listAfter opening⟩
  | firstOfList {fuel cursor opening} :
      (∀ token ∈ cursor.rest.head?, token.kind ≠ .symbol .rightParen) →
      Calls ⟨fuel + 1, cursor, .listAfter opening⟩ ⟨fuel, cursor, .assignment⟩
  | othersOfList {fuel cursor middle opening first} :
      (∀ token ∈ cursor.rest.head?, token.kind ≠ .symbol .rightParen) →
      Reader.assignment fuel cursor = .ok first middle →
      Calls ⟨fuel + 1, cursor, .listAfter opening⟩ ⟨fuel, middle, .listRest⟩
  | nextOfList {fuel cursor comma rest} :
      cursor.Opens (.symbol .comma) comma rest →
      Calls ⟨fuel + 1, cursor, .listRest⟩ ⟨fuel, cursor.past comma rest, .assignment⟩
  | restOfList {fuel cursor middle comma rest item} :
      cursor.Opens (.symbol .comma) comma rest →
      Reader.assignment fuel (cursor.past comma rest) = .ok item middle →
      Calls ⟨fuel + 1, cursor, .listRest⟩ ⟨fuel, middle, .listRest⟩

/-- The visits of a reading of tokens, as a program is read. -/
inductive Visited : List Token → Visit → Prop
  | start {first : Token} {rest : List Token} :
      Visited (first :: rest)
        ⟨(first :: rest).length + 1, ⟨first, first :: rest, []⟩, .statements⟩
  | call {tokens : List Token} {visit called : Visit} :
      Visited tokens visit → visit.Calls called → Visited tokens called

end Reader

end CheckedScript
