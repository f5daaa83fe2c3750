import CheckedScript.Proofs.Reader.Unread

/-!
# The tokens that trees keep

A tree keeps some of the tokens that it stands for: names, literals, operators, words and
marks that a fault may be charged to.  It keeps them in the order of the source, and each of
them once.  So distinct tokens of a program that has been read from a source stand at distinct
positions.
-/

namespace CheckedScript

mutual

/-- The tokens of an expression, in the order of the source. -/
def Expr.tokens : Expr → List Token
  | .literal _ token => [token]
  | .reference name => [name]
  | .assign name value => name :: value.tokens
  | .unary _ token operand => token :: operand.tokens
  | .binary _ token left right => left.tokens ++ token :: right.tokens
  | .logical _ token left right => left.tokens ++ token :: right.tokens
  | .group inner => inner.tokens
  | .tuple items => Expr.allTokens items
  | .call callee paren arguments => callee.tokens ++ Expr.allTokens arguments ++ [paren]

/-- The tokens of several expressions. -/
def Expr.allTokens : List Expr → List Token
  | [] => []
  | item :: items => item.tokens ++ Expr.allTokens items

end

/-- The tokens of an expression that may be missing. -/
def Expr.optionTokens : Option Expr → List Token
  | none => []
  | some expr => expr.tokens

/-- The tokens of loop bounds. -/
def Bounds.tokens (bounds : Bounds) : List Token :=
  bounds.start.tokens ++ bounds.token :: (Expr.optionTokens bounds.step ++ bounds.stop.tokens)

mutual

/-- The tokens of a statement, in the order of the source. -/
def Stmt.tokens : Stmt → List Token
  | .expression value => value.tokens
  | .letValue name _ initializer => name :: initializer.tokens
  | .block body => body.tokens
  | .ifThen keyword condition consequent => keyword :: condition.tokens ++ consequent.tokens
  | .ifElse keyword condition consequent alternative =>
      keyword :: condition.tokens ++ consequent.tokens ++ alternative.tokens
  | .whileLoop keyword condition body => keyword :: condition.tokens ++ body.tokens
  | .forLoop name bounds body => name :: bounds.tokens ++ body.tokens
  | .function name parameters body => name :: parameters ++ body.tokens
  | .giveBack keyword value => keyword :: Expr.optionTokens value

/-- The tokens of a block. -/
def Block.tokens : Block → List Token
  | .mk brace statements tail => brace :: Stmt.allTokens statements ++ Expr.optionTokens tail

/-- The tokens of several statements. -/
def Stmt.allTokens : List Stmt → List Token
  | [] => []
  | stmt :: stmts => stmt.tokens ++ Stmt.allTokens stmts

end

/-- The tokens of a program. -/
abbrev Program.tokens (program : Program) : List Token :=
  Stmt.allTokens program

namespace Grammar

/-- A node of a binary operator keeps the operator between the tokens of its operands. -/
theorem InnerOperator.tokens_node {tier : Reader.Tier} {kind : Kind}
    {node : Token → Expr → Expr → Expr} (operator : InnerOperator tier kind node) (token : Token)
    (left right : Expr) : (node token left right).tokens = left.tokens ++ token :: right.tokens := by
  cases operator <;> rw [Expr.tokens]

/-- The tokens of a part are kept between those that are not. -/
theorem kept_inside {kept tokens : List Token} (first last : Token) (part : kept.Sublist tokens) :
    kept.Sublist (first :: tokens ++ [last]) :=
  (part.cons first).trans (List.sublist_append_left _ _)

/-- An expression keeps tokens of its phrase, in their order. -/
theorem Expression.kept {tokens : List Token} {value : Expr} (holds : Expression tokens value) :
    value.tokens.Sublist tokens := by
  -- The phrases of all sorts at once: those of tiers, of operands and of lists come with it.
  refine @Expression.rec
    (fun tokens value _ => value.tokens.Sublist tokens)
    (fun _ tokens value _ => value.tokens.Sublist tokens)
    (fun _ tokens value _ => value.tokens.Sublist tokens)
    (fun tokens value _ => value.tokens.Sublist tokens)
    (fun tokens value _ => value.tokens.Sublist tokens)
    (fun tokens value _ => value.tokens.Sublist tokens)
    (fun tokens values _ => (Expr.allTokens values).Sublist tokens)
    ?assign ?plain ?first ?next ?tighter ?operand ?operator ?call ?primary ?empty ?arguments
    ?literal ?reference ?unit ?group ?tuple ?one ?more tokens value holds
  case assign =>
    intro name equals _ _ _ _ _ value
    exact (value.cons equals).cons_cons name
  case plain | first | tighter | operand | call | primary =>
    intros
    assumption
  case next =>
    intro _ _ _ token left right _ _ operator _ before after
    rw [operator.tokens_node]
    exact before.append (after.cons_cons token)
  case operator =>
    intro token _ _ _ _ _ operand
    exact operand.cons_cons token
  case empty =>
    intro _ opening closing _ _ _ _ callee
    rw [Expr.tokens, Expr.allTokens, List.append_nil]
    exact callee.append ((List.Sublist.refl [closing]).cons opening)
  case arguments =>
    intro _ _ opening closing _ _ _ _ _ _ callee items
    exact (callee.append (items.cons opening)).append (.refl [closing])
  case literal | reference =>
    intros
    exact .refl _
  case unit =>
    intros
    exact List.nil_sublist _
  case group =>
    intro opening closing _ _ _ _ _ inner
    exact kept_inside opening closing inner
  case tuple =>
    intro opening comma closing _ _ _ _ _ _ _ _ _ first others
    exact ((first.cons opening).append (others.cons comma)).trans (List.sublist_append_left _ _)
  case one =>
    intro _ _ _ value
    rw [Expr.allTokens, Expr.allTokens, List.append_nil]
    exact value
  case more =>
    intro _ _ comma _ _ _ _ _ first others
    exact first.append (others.cons comma)

theorem Name.kept {tokens : List Token} {name : Token} (holds : Name tokens name) :
    [name].Sublist tokens :=
  holds.1 ▸ .refl _

theorem Separated.names_kept {tokens names : List Token} (separated : Separated Name tokens names) :
    names.Sublist tokens := by
  induction separated with
  | one first => exact first.kept
  | more first _ _ inductionHypothesis => exact first.kept.append (inductionHypothesis.cons _)

theorem Parameters.kept {tokens names : List Token} (holds : Parameters tokens names) :
    names.Sublist tokens := by
  cases holds with
  | empty => exact List.nil_sublist _
  | names _ separated _ => exact kept_inside _ _ separated.names_kept

theorem Range.kept {tokens : List Token} {bounds : Bounds} (holds : Range tokens bounds) :
    bounds.tokens.Sublist tokens := by
  cases holds with
  | between start _ stop => exact start.kept.append (stop.kept.cons_cons _)
  | stepped start _ step _ stop =>
      rw [List.append_assoc]
      exact start.kept.append ((step.kept.append (stop.kept.cons _)).cons_cons _)

/-- Statements keep tokens of their phrases, in their order. -/
theorem Statements.kept {tokens : List Token} {stmts : List Stmt}
    (holds : Statements tokens stmts) : (Stmt.allTokens stmts).Sublist tokens := by
  refine @Statements.rec
    (fun tokens stmt _ => stmt.tokens.Sublist tokens)
    (fun tokens stmt _ => stmt.tokens.Sublist tokens)
    (fun tokens body _ => body.tokens.Sublist tokens)
    (fun tokens stmts _ => (Stmt.allTokens stmts).Sublist tokens)
    ?letPlain ?letTyped ?function ?block ?conditional ?whileLoop ?forLoop ?giveUnit ?giveValue
    ?expression ?alone ?orBlock ?orConditional ?plain ?tail ?nil ?cons tokens stmts holds
  case letPlain =>
    intro _ _ equals _ _ _ _ _ _ initializer _
    exact (((initializer.kept.cons equals).cons_cons _).cons _).trans (List.sublist_append_left _ _)
  case letTyped =>
    intro keyword name colon equals semicolon type tokens _ _ _ _ _ _ _ initializer _
    have value := (initializer.kept.cons equals).trans (List.sublist_append_right type _)
    exact (((value.cons colon).cons_cons name).cons keyword).trans (List.sublist_append_left _ _)
  case function =>
    intro keyword _ _ _ _ _ _ _ parameters _ body
    exact ((parameters.kept.cons_cons _).cons keyword).append body
  case block | conditional =>
    intros
    assumption
  case whileLoop | alone =>
    intro _ _ _ _ _ _ condition _ body
    exact (condition.kept.cons_cons _).append body
  case forLoop =>
    intro keyword _ inWord _ _ _ _ _ _ _ range _ body
    exact (((range.kept.cons inWord).cons_cons _).cons keyword).append body
  case giveUnit =>
    intros
    exact List.sublist_append_left [_] _
  case giveValue =>
    intro _ _ _ _ _ value _
    exact (value.kept.cons_cons _).trans (List.sublist_append_left _ _)
  case expression =>
    intro _ _ _ value _
    exact value.kept.trans (List.sublist_append_left _ _)
  case orBlock | orConditional =>
    intro _ elseWord _ _ _ _ _ _ _ condition _ _ _ body alternative
    exact ((condition.kept.cons_cons _).append body).append (alternative.cons elseWord)
  case plain =>
    intro _ _ _ _ _ _ _ statements
    exact (statements.cons_cons _).append (List.nil_sublist _)
  case tail =>
    intro _ _ _ _ _ _ _ _ value _ statements
    exact ((statements.cons_cons _).append value.kept).trans (List.sublist_append_left _ _)
  case nil => exact .refl _
  case cons =>
    intro _ _ _ _ _ _ first others
    exact first.append others

end Grammar

/-- Distinct tokens of a program stand at distinct positions. -/
theorem Program.nodup_positions_of_parse {segmentation : Segmentation} {source : String}
    {program : Program} (parsed : segmentation.parse source = .ok program) :
    (program.tokens.map (·.position)).Nodup := by
  obtain ⟨stream, scanned, read⟩ := Segmentation.exists_of_parse_eq_ok parsed
  obtain ⟨used, behind, split, _, derived⟩ := Program.read_eq_ok_iff.1 read
  have kept : program.tokens.Sublist stream.body :=
    split ▸ derived.kept.trans (List.sublist_append_left used behind)
  exact (nodup_positions_of_tokenize scanned).sublist (kept.map _)

end CheckedScript
