import CheckedScript.Proofs.Moving.Reading
import CheckedScript.Proofs.Outlines.Sketches
import CheckedScript.Proofs.Reader.Unread

/-!
# Trees of well spelled tokens

In the tree of a program that has been read from a source text, every token is of the kind
that its place asks for, and its lexeme is one of that kind.  A lexeme tells the kind and
the constant, so of such tokens the lexemes alone matter.
-/

namespace CheckedScript

/-- No position in particular. -/
def Position.forget (_ : Position) : Position :=
  .origin

/-- A token whose lexeme, cut into clusters, is one of its kind. -/
structure Token.IsSpelled (segmentation : Segmentation) (token : Token) : Prop where
  whole : (segmentation.clusters token.lexeme.toList).flatten = token.lexeme.toList
  lexeme : Lexis.Lexeme (segmentation.clusters token.lexeme.toList) token.kind token.payload

/-- A well spelled token of a given kind. -/
structure Token.Is (segmentation : Segmentation) (kind : Kind) (token : Token) : Prop where
  spelled : token.IsSpelled segmentation
  kind : token.kind = kind

section Tokens

open Lexis (Lexeme spelled)

variable {segmentation : Segmentation} {token other : Token}

theorem Token.move_forget (same : token.lexeme = other.lexeme) (kind : token.kind = other.kind)
    (payload : token.payload = other.payload) :
    token.move Position.forget = other.move Position.forget := by
  rw [Token.move, Token.move, same, kind, payload]
  rfl

/-- A lexeme tells the kind and the constant. -/
theorem Token.IsSpelled.unique (isSpelled : token.IsSpelled segmentation)
    (isSpelledOther : other.IsSpelled segmentation) (same : token.lexeme = other.lexeme) :
    token.kind = other.kind ∧ token.payload = other.payload := by
  have lexeme := isSpelled.lexeme
  rw [same] at lexeme
  exact lexeme.unique isSpelledOther.lexeme

theorem Token.IsSpelled.forget (isSpelled : token.IsSpelled segmentation)
    (isSpelledOther : other.IsSpelled segmentation) (same : token.lexeme = other.lexeme) :
    token.move Position.forget = other.move Position.forget := by
  obtain ⟨kind, payload⟩ := isSpelled.unique isSpelledOther same
  exact Token.move_forget same kind payload

/-- Tokens with the same lexeme are of one kind, and differ in their positions only. -/
theorem Token.Is.unique {kind otherKind : Kind} (is : token.Is segmentation kind)
    (isOther : other.Is segmentation otherKind) (same : token.lexeme = other.lexeme) :
    kind = otherKind := by
  rw [← is.kind, ← isOther.kind]
  exact (is.spelled.unique isOther.spelled same).1

theorem Token.Is.forget {kind otherKind : Kind} (is : token.Is segmentation kind)
    (isOther : other.Is segmentation otherKind) (same : token.lexeme = other.lexeme) :
    token.move Position.forget = other.move Position.forget :=
  is.spelled.forget isOther.spelled same

theorem Token.IsSpelled.lexeme_eq {word : String} (isSpelled : token.IsSpelled segmentation)
    (shape : segmentation.clusters token.lexeme.toList = spelled word) : token.lexeme = word := by
  rw [← Lexis.joined_spelled word, ← shape, Scanner.joined, isSpelled.whole,
    String.ofList_toList]

theorem Token.Is.lexeme_symbol {mark : Symbol} (is : token.Is segmentation (.symbol mark)) :
    token.lexeme = mark.spelling := by
  have lexeme := is.spelled.lexeme
  rw [is.kind] at lexeme
  generalize shape : segmentation.clusters token.lexeme.toList = list at lexeme
  generalize token.payload = payload at lexeme
  cases lexeme with
  | symbol mark => exact is.spelled.lexeme_eq shape

theorem Token.Is.lexeme_keyword {word : Keyword} (is : token.Is segmentation (.keyword word)) :
    token.lexeme = word.spelling := by
  have lexeme := is.spelled.lexeme
  rw [is.kind] at lexeme
  generalize shape : segmentation.clusters token.lexeme.toList = list at lexeme
  generalize token.payload = payload at lexeme
  cases lexeme with
  | keyword word => exact is.spelled.lexeme_eq shape

/-- Two marks or two reserved words of one kind differ in their positions only. -/
theorem Token.Is.forget_symbol {mark : Symbol} (is : token.Is segmentation (.symbol mark))
    (isOther : other.Is segmentation (.symbol mark)) :
    token.move Position.forget = other.move Position.forget :=
  is.forget isOther (is.lexeme_symbol.trans isOther.lexeme_symbol.symm)

theorem Token.Is.forget_keyword {word : Keyword} (is : token.Is segmentation (.keyword word))
    (isOther : other.Is segmentation (.keyword word)) :
    token.move Position.forget = other.move Position.forget :=
  is.forget isOther (is.lexeme_keyword.trans isOther.lexeme_keyword.symm)

theorem not_delimiter_of_wordPart {character : Char} (part : Lexis.WordPart [character]) :
    ¬ Sketch.IsDelimiter character := by
  have isPart := Lexis.isWordPart_iff.2 part
  intro delimiter
  simp only [Sketch.IsDelimiter, List.mem_cons, List.not_mem_nil, or_false] at delimiter
  rcases delimiter with rfl | rfl | rfl | rfl | rfl | rfl | rfl | rfl <;> cases isPart

/-- Clusters of a word or a number. -/
theorem isWord_flatten {list : List Text.Cluster}
    (parts : ∀ cluster ∈ list, Lexis.WordPart cluster ∨ cluster = ['.']) :
    Sketch.IsWord list.flatten := by
  intro character member
  obtain ⟨cluster, inside, within⟩ := List.mem_flatten.1 member
  rcases parts cluster inside with part | rfl
  · obtain ⟨lone, rfl⟩ := part.lone
    obtain rfl := List.mem_singleton.1 within
    exact not_delimiter_of_wordPart part
  · obtain rfl := List.mem_singleton.1 within
    decide

/-- The lexemes of names, of reserved words and of numbers contain no delimiter. -/
theorem Token.IsSpelled.isWord (isSpelled : token.IsSpelled segmentation)
    (noSymbol : ∀ mark, token.kind ≠ .symbol mark) (noText : token.kind ≠ .text) :
    token.lexeme.toList ≠ [] ∧ Sketch.IsWord token.lexeme.toList := by
  obtain ⟨whole, lexeme⟩ := isSpelled
  rw [← whole]
  constructor
  · obtain ⟨character, characters, shape, -⟩ := lexeme.ends.1
    rw [shape]
    exact List.cons_ne_nil _ _
  · refine isWord_flatten ?_
    generalize segmentation.clusters token.lexeme.toList = list at lexeme
    generalize token.kind = kind at lexeme noSymbol noText
    generalize token.payload = payload at lexeme
    cases lexeme with
    | symbol mark => exact absurd rfl (noSymbol mark)
    | text => exact absurd rfl noText
    | keyword word =>
        obtain ⟨first, tail, parts, letter, others⟩ := Lexis.keyword_parts word
        rw [parts]
        exact fun cluster member =>
          .inl (List.forall_mem_cons.2 ⟨.inl letter, others⟩ cluster member)
    | identifier letter others =>
        exact fun cluster member =>
          .inl (List.forall_mem_cons.2 ⟨.inl letter, others⟩ cluster member)
    | integer _ digits => exact fun cluster member => .inl (.inr (digits cluster member))
    | fraction _ wholeDigits _ partDigits =>
        intro cluster member
        rcases List.mem_append.1 member with inWhole | inPart
        · exact .inl (.inr (wholeDigits cluster inWhole))
        · rcases List.mem_cons.1 inPart with rfl | inPart
          · exact .inr rfl
          · exact .inl (.inr (partDigits cluster inPart))

theorem Token.IsSpelled.isQuoted (isSpelled : token.IsSpelled segmentation)
    (isText : token.kind = .text) :
    Sketch.IsQuoted segmentation token.lexeme.toList := by
  have lexeme := isSpelled.lexeme
  rw [isText] at lexeme
  unfold Sketch.IsQuoted
  generalize segmentation.clusters token.lexeme.toList = list at lexeme
  generalize token.payload = payload at lexeme
  cases lexeme with
  | text inner => exact ⟨_, rfl, inner⟩

end Tokens

/-- The symbol of an operator. -/
def UnaryOperator.mark : UnaryOperator → Symbol
  | negate => .minus
  | invert => .bang

/-- The symbol of an operator. -/
def BinaryOperator.mark : BinaryOperator → Symbol
  | add => .plus
  | subtract => .minus
  | multiply => .star
  | divide => .slash
  | equal => .equalEqual
  | notEqual => .bangEqual
  | greater => .greater
  | greaterEqual => .greaterEqual
  | less => .less
  | lessEqual => .lessEqual

/-- The reserved word of an operator. -/
def LogicalOperator.word : LogicalOperator → Keyword
  | conjunction => .andWord
  | disjunction => .orWord

theorem UnaryOperator.mark_injective : Function.Injective UnaryOperator.mark := by
  intro first second same
  cases first <;> cases second <;> first | rfl | cases same

theorem BinaryOperator.mark_injective : Function.Injective BinaryOperator.mark := by
  intro first second same
  cases first <;> cases second <;> first | rfl | cases same

theorem LogicalOperator.word_injective : Function.Injective LogicalOperator.word := by
  intro first second same
  cases first <;> cases second <;> first | rfl | cases same

mutual

/-- An expression whose tokens are of the kinds that their places ask for. -/
def Expr.Spelled (segmentation : Segmentation) : Expr → Prop
  | .literal value token =>
      token.IsSpelled segmentation ∧ Grammar.LiteralKind token.kind ∧
        Reader.constant? token = some value
  | .reference name => name.Is segmentation .identifier
  | .assign name value => name.Is segmentation .identifier ∧ value.Spelled segmentation
  | .unary operator token operand =>
      token.Is segmentation (.symbol operator.mark) ∧ operand.Spelled segmentation
  | .binary operator token left right =>
      token.Is segmentation (.symbol operator.mark) ∧ left.Spelled segmentation ∧
        right.Spelled segmentation
  | .logical operator token left right =>
      token.Is segmentation (.keyword operator.word) ∧ left.Spelled segmentation ∧
        right.Spelled segmentation
  | .group inner => inner.Spelled segmentation
  | .tuple items => Expr.AreSpelled segmentation items
  | .call callee paren arguments =>
      callee.Spelled segmentation ∧ paren.Is segmentation (.symbol .rightParen) ∧
        Expr.AreSpelled segmentation arguments

def Expr.AreSpelled (segmentation : Segmentation) : List Expr → Prop
  | [] => True
  | item :: items => item.Spelled segmentation ∧ Expr.AreSpelled segmentation items

end

/-- Loop bounds whose tokens are of the kinds that their places ask for. -/
structure Bounds.Spelled (segmentation : Segmentation) (bounds : Bounds) : Prop where
  token : bounds.token.Is segmentation (.symbol .dotDot)
  start : bounds.start.Spelled segmentation
  stop : bounds.stop.Spelled segmentation
  step : ∀ step ∈ bounds.step, step.Spelled segmentation

/-- What may follow `else`. -/
def Stmt.isBranch : Stmt → Bool
  | .block _ | .ifThen _ _ _ | .ifElse _ _ _ _ => true
  | _ => false

mutual

/-- A statement whose tokens are of the kinds that their places ask for. -/
def Stmt.Spelled (segmentation : Segmentation) : Stmt → Prop
  | .expression value => value.Spelled segmentation
  | .letValue name _ initializer =>
      name.Is segmentation .identifier ∧ initializer.Spelled segmentation
  | .block body => body.Spelled segmentation
  | .ifThen keyword condition consequent =>
      keyword.Is segmentation (.keyword .ifWord) ∧ condition.Spelled segmentation ∧
        consequent.Spelled segmentation
  | .ifElse keyword condition consequent alternative =>
      keyword.Is segmentation (.keyword .ifWord) ∧ condition.Spelled segmentation ∧
        consequent.Spelled segmentation ∧ alternative.Spelled segmentation ∧
        alternative.isBranch = true
  | .whileLoop keyword condition body =>
      keyword.Is segmentation (.keyword .whileWord) ∧ condition.Spelled segmentation ∧
        body.Spelled segmentation
  | .forLoop name bounds body =>
      name.Is segmentation .identifier ∧ bounds.Spelled segmentation ∧ body.Spelled segmentation
  | .function name parameters body =>
      name.Is segmentation .identifier ∧
        (∀ parameter ∈ parameters, parameter.Is segmentation .identifier) ∧
        body.Spelled segmentation
  | .giveBack keyword value =>
      keyword.Is segmentation (.keyword .returnWord) ∧ ∀ found ∈ value, found.Spelled segmentation

/-- A block whose tokens are of the kinds that their places ask for. -/
def Block.Spelled (segmentation : Segmentation) : Block → Prop
  | .mk brace statements tail =>
      brace.Is segmentation (.symbol .leftBrace) ∧ Stmt.AreSpelled segmentation statements ∧
        ∀ value ∈ tail, value.Spelled segmentation

def Stmt.AreSpelled (segmentation : Segmentation) : List Stmt → Prop
  | [] => True
  | stmt :: stmts => stmt.Spelled segmentation ∧ Stmt.AreSpelled segmentation stmts

end

namespace Grammar

/-- All tokens of a phrase are well spelled. -/
def AllSpelled (segmentation : Segmentation) (tokens : List Token) : Prop :=
  ∀ token ∈ tokens, token.IsSpelled segmentation

variable {segmentation : Segmentation}

theorem InnerOperator.spelled {tier : Reader.Tier} {token : Token}
    {node : Token → Expr → Expr → Expr} (operator : InnerOperator tier token.kind node)
    (isSpelled : token.IsSpelled segmentation) {left right : Expr}
    (leftSpelled : left.Spelled segmentation) (rightSpelled : right.Spelled segmentation) :
    (node token left right).Spelled segmentation := by
  generalize kind : token.kind = found at operator
  cases operator <;> exact ⟨⟨isSpelled, kind⟩, leftSpelled, rightSpelled⟩

theorem OuterOperator.is {token : Token} {operator : UnaryOperator}
    (outer : OuterOperator token.kind operator) (isSpelled : token.IsSpelled segmentation) :
    token.Is segmentation (.symbol operator.mark) := by
  generalize kind : token.kind = found at outer
  cases outer <;> exact ⟨isSpelled, kind⟩

/-- By induction on the derivation, the phrases of all sorts at once. -/
theorem Expression.spelled {tokens : List Token} {value : Expr} (holds : Expression tokens value) :
    AllSpelled segmentation tokens → value.Spelled segmentation := by
  refine @Expression.rec
    (fun tokens value _ => AllSpelled segmentation tokens → value.Spelled segmentation)
    (fun _ tokens value _ => AllSpelled segmentation tokens → value.Spelled segmentation)
    (fun _ tokens value _ => AllSpelled segmentation tokens → value.Spelled segmentation)
    (fun tokens value _ => AllSpelled segmentation tokens → value.Spelled segmentation)
    (fun tokens value _ => AllSpelled segmentation tokens → value.Spelled segmentation)
    (fun tokens value _ => AllSpelled segmentation tokens → value.Spelled segmentation)
    (fun tokens values _ => AllSpelled segmentation tokens → Expr.AreSpelled segmentation values)
    ?assign ?plain ?first ?next ?tighter ?operand ?operator ?call ?primary ?empty ?arguments
    ?literal ?reference ?unit ?group ?tuple ?one ?more tokens value holds
  all_goals simp only [AllSpelled, List.forall_mem_cons, List.forall_mem_append]
  case assign =>
    rintro name equals tokens value isName isEqual - value ⟨nameSpelled, -, tokens⟩
    exact ⟨⟨nameSpelled, isName⟩, value tokens⟩
  case plain | first | tighter | operand | call | primary =>
    intros
    rename_i spelled tokens
    exact spelled tokens
  case next =>
    rintro _ _ _ _ _ _ _ - operator - left right ⟨before, token, after⟩
    exact operator.spelled token (left before) (right after)
  case operator =>
    rintro _ _ _ _ outer - operand ⟨token, tokens⟩
    exact ⟨outer.is token, operand tokens⟩
  case empty =>
    rintro _ _ _ _ - - isClosing callee ⟨tokens, -, closing, -⟩
    exact ⟨callee tokens, ⟨closing, isClosing⟩, trivial⟩
  case arguments =>
    rintro _ _ _ _ _ _ - - - isClosing callee values ⟨⟨tokens, -, items⟩, closing, -⟩
    exact ⟨callee tokens, ⟨closing, isClosing⟩, values items⟩
  case literal =>
    rintro _ _ isLiteral constant ⟨token, -⟩
    exact ⟨token, isLiteral, constant⟩
  case reference =>
    rintro _ isName ⟨name, -⟩
    exact ⟨name, isName⟩
  case unit =>
    intros
    exact trivial
  case group =>
    rintro _ _ _ _ - - - inner ⟨⟨-, tokens⟩, -⟩
    exact inner tokens
  case tuple =>
    rintro _ _ _ _ _ _ _ - - - - - first others ⟨⟨⟨-, tokens⟩, -, rest⟩, -⟩
    exact ⟨first tokens, others rest⟩
  case one =>
    rintro _ _ - value tokens
    exact ⟨value tokens, trivial⟩
  case more =>
    rintro _ _ _ _ _ - - - first others ⟨tokens, -, rest⟩
    exact ⟨first tokens, others rest⟩

theorem Separated.names_spelled {tokens names : List Token}
    (separated : Separated Name tokens names) (spelled : AllSpelled segmentation tokens) :
    ∀ name ∈ names, name.Is segmentation .identifier := by
  induction separated with
  | one first =>
      obtain ⟨rfl, isName⟩ := first
      exact List.forall_mem_singleton.2 ⟨List.forall_mem_singleton.1 spelled, isName⟩
  | more first _ _ inductionHypothesis =>
      obtain ⟨rfl, isName⟩ := first
      obtain ⟨here, rest⟩ := List.forall_mem_append.1 spelled
      exact List.forall_mem_cons.2 ⟨⟨List.forall_mem_singleton.1 here, isName⟩,
        inductionHypothesis (List.forall_mem_cons.1 rest).2⟩

theorem Parameters.spelled {tokens names : List Token} (holds : Parameters tokens names)
    (spelled : AllSpelled segmentation tokens) :
    ∀ name ∈ names, name.Is segmentation .identifier := by
  cases holds with
  | empty => simp
  | names _ separated _ =>
      exact separated.names_spelled
        (List.forall_mem_cons.1 (List.forall_mem_append.1 spelled).1).2

theorem Range.spelled {tokens : List Token} {bounds : Bounds} (holds : Range tokens bounds)
    (spelled : AllSpelled segmentation tokens) : bounds.Spelled segmentation := by
  cases holds with
  | between start isRange stop =>
      simp only [AllSpelled, List.forall_mem_cons, List.forall_mem_append] at spelled
      obtain ⟨first, token, second⟩ := spelled
      exact ⟨⟨token, isRange⟩, start.spelled first, stop.spelled second, by simp⟩
  | stepped start isRange step _ stop =>
      simp only [AllSpelled, List.forall_mem_cons, List.forall_mem_append] at spelled
      obtain ⟨⟨first, token, second⟩, -, third⟩ := spelled
      refine ⟨⟨token, isRange⟩, start.spelled first, stop.spelled third, ?_⟩
      rintro _ ⟨rfl⟩
      exact step.spelled second

theorem Statements.spelled {tokens : List Token} {stmts : List Stmt}
    (holds : Statements tokens stmts) :
    AllSpelled segmentation tokens → Stmt.AreSpelled segmentation stmts := by
  refine @Statements.rec
    (fun tokens stmt _ => AllSpelled segmentation tokens → stmt.Spelled segmentation)
    (fun tokens stmt _ =>
      AllSpelled segmentation tokens → stmt.Spelled segmentation ∧ stmt.isBranch = true)
    (fun tokens body _ => AllSpelled segmentation tokens → body.Spelled segmentation)
    (fun tokens stmts _ => AllSpelled segmentation tokens → Stmt.AreSpelled segmentation stmts)
    ?letPlain ?letTyped ?function ?block ?conditional ?whileLoop ?forLoop ?giveUnit ?giveValue
    ?expression ?alone ?orBlock ?orConditional ?plain ?tail ?nil ?cons tokens stmts holds
  all_goals simp only [AllSpelled, List.forall_mem_cons, List.forall_mem_append]
  case letPlain =>
    rintro _ _ _ _ _ _ - isName - initializer - ⟨⟨-, name, -, tokens⟩, -⟩
    exact ⟨⟨name, isName⟩, initializer.spelled tokens⟩
  case letTyped =>
    rintro _ _ _ _ _ _ _ _ _ - isName - - - initializer - ⟨⟨⟨-, name, -, -⟩, -, tokens⟩, -⟩
    exact ⟨⟨name, isName⟩, initializer.spelled tokens⟩
  case function =>
    rintro _ _ _ _ _ _ - isName parameters - body ⟨⟨-, name, names⟩, tokens⟩
    exact ⟨⟨name, isName⟩, parameters.spelled names, body tokens⟩
  case block =>
    rintro _ _ - body tokens
    exact body tokens
  case conditional =>
    rintro _ _ - conditional tokens
    exact (conditional tokens).1
  case whileLoop =>
    rintro _ _ _ _ _ isWhile condition - body ⟨⟨keyword, test⟩, tokens⟩
    exact ⟨⟨keyword, isWhile⟩, condition.spelled test, body tokens⟩
  case forLoop =>
    rintro _ _ _ _ _ _ _ - isName - bounds - body ⟨⟨-, name, -, range⟩, tokens⟩
    exact ⟨⟨name, isName⟩, bounds.spelled range, body tokens⟩
  case giveUnit =>
    rintro _ _ isReturn - ⟨keyword, -⟩
    exact ⟨⟨keyword, isReturn⟩, by simp⟩
  case giveValue =>
    rintro _ _ _ _ isReturn value - ⟨⟨keyword, tokens⟩, -⟩
    refine ⟨⟨keyword, isReturn⟩, ?_⟩
    rintro _ ⟨rfl⟩
    exact value.spelled tokens
  case expression =>
    rintro _ _ _ value - ⟨tokens, -⟩
    exact value.spelled tokens
  case alone =>
    rintro _ _ _ _ _ isIf condition - body ⟨⟨keyword, test⟩, tokens⟩
    exact ⟨⟨⟨keyword, isIf⟩, condition.spelled test, body tokens⟩, rfl⟩
  case orBlock =>
    rintro _ _ _ _ _ _ _ _ isIf condition - - - body alternative
      ⟨⟨⟨keyword, test⟩, tokens⟩, -, others⟩
    exact ⟨⟨⟨keyword, isIf⟩, condition.spelled test, body tokens, alternative others, rfl⟩, rfl⟩
  case orConditional =>
    rintro _ _ _ _ _ _ _ _ isIf condition - - - body alternative
      ⟨⟨⟨keyword, test⟩, tokens⟩, -, others⟩
    obtain ⟨spelled, isBranch⟩ := alternative others
    exact ⟨⟨⟨keyword, isIf⟩, condition.spelled test, body tokens, spelled, isBranch⟩, rfl⟩
  case plain =>
    rintro _ _ _ _ isOpening - - statements ⟨⟨opening, tokens⟩, -⟩
    exact ⟨⟨opening, isOpening⟩, statements tokens, by simp⟩
  case tail =>
    rintro _ _ _ _ _ _ isOpening - value - statements ⟨⟨⟨opening, tokens⟩, last⟩, -⟩
    refine ⟨⟨opening, isOpening⟩, statements tokens, ?_⟩
    rintro _ ⟨rfl⟩
    exact value.spelled last
  case nil => exact fun _ => trivial
  case cons =>
    rintro _ _ _ _ - - first others ⟨tokens, rest⟩
    exact ⟨first tokens, others rest⟩

end Grammar

/-- A source text is read as a tree of well spelled tokens. -/
theorem Program.spelled_of_parse {segmentation : Segmentation} (lawful : segmentation.Lawful)
    {source : String} {program : Program} (parsed : segmentation.parse source = .ok program) :
    Stmt.AreSpelled segmentation program := by
  obtain ⟨stream, scanned, read⟩ := Segmentation.exists_of_parse_eq_ok parsed
  obtain ⟨used, behind, split, _, derived⟩ := Program.read_eq_ok_iff.1 read
  have cut := ((Lexis.tokenize_eq_ok_iff lawful).1 scanned).1
  exact derived.spelled fun token member =>
    ⟨lawful.lossless _, cut.lexeme_of_mem lawful rfl token
      (split ▸ List.mem_append_left behind member)⟩

end CheckedScript
