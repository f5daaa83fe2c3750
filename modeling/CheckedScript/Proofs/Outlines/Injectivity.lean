import CheckedScript.Proofs.Outlines.Trees

/-!
# Outlines tell trees apart

The first word of a form tells what it is a sketch of, so the sketches of two trees are the
same only if the trees are, apart from the positions of their tokens.  No two sketches are
printed alike, and so no two trees have the same outline.
-/

namespace CheckedScript

/-- What a sketch is a sketch of. -/
inductive Sketch.Tag where
  | leaf
  | assign
  | operator
  | logical
  | group
  | tuple
  | call
  | letValue
  | block
  | conditional
  | whileLoop
  | forLoop
  | function
  | giveBack
  deriving DecidableEq

namespace Sketch

/-- What the first word of a form tells; all words but these are operators. -/
def Tag.ofHead (head : String) : Tag :=
  let tags : Table String Tag :=
    [("=", .assign), ("and", .logical), ("or", .logical), ("group", .group), ("tuple", .tuple),
      ("call", .call), ("let", .letValue), ("if", .conditional), ("while", .whileLoop),
      ("for", .forLoop), ("fun", .function), ("return", .giveBack)]
  (tags.get? head).getD .operator

/-- What a sketch is a sketch of. -/
def tag : Sketch → Tag
  | .form (.word head :: _) => .ofHead head
  | .block _ => .block
  | _ => .leaf

/-- Whether only statements have such sketches. -/
def Tag.isStatement : Tag → Bool
  | letValue | block | conditional | whileLoop | forLoop | function | giveBack => true
  | leaf | assign | operator | logical | group | tuple | call => false

end Sketch

/-- What the sketch of an expression tells of it. -/
def Expr.tag : Expr → Sketch.Tag
  | .literal _ _ | .reference _ => .leaf
  | .assign _ _ => .assign
  | .unary _ _ _ | .binary _ _ _ _ => .operator
  | .logical _ _ _ _ => .logical
  | .group _ => .group
  | .tuple _ => .tuple
  | .call _ _ _ => .call

/-- What the sketch of a statement tells of it. -/
def Stmt.tag : Stmt → Sketch.Tag
  | .expression value => value.tag
  | .letValue _ _ _ => .letValue
  | .block _ => .block
  | .ifThen _ _ _ | .ifElse _ _ _ _ => .conditional
  | .whileLoop _ _ _ => .whileLoop
  | .forLoop _ _ _ => .forLoop
  | .function _ _ _ => .function
  | .giveBack _ _ => .giveBack

variable {segmentation : Segmentation}

section Tags

open Sketch

theorem Expr.Spelled.tag_sketch {expr : Expr} (spelled : expr.Spelled segmentation) :
    expr.sketch.tag = expr.tag := by
  cases expr with
  | literal value token => cases value <;> rfl
  | unary operator token operand =>
      change Tag.ofHead token.lexeme = _
      rw [spelled.1.lexeme_symbol]
      cases operator <;> rfl
  | binary operator token left right =>
      change Tag.ofHead token.lexeme = _
      rw [spelled.1.lexeme_symbol]
      cases operator <;> rfl
  | logical operator token left right =>
      change Tag.ofHead token.lexeme = _
      rw [spelled.1.lexeme_keyword]
      cases operator <;> rfl
  | reference | assign | group | tuple | call => rfl

theorem Stmt.Spelled.tag_sketch {stmt : Stmt} (spelled : stmt.Spelled segmentation) :
    stmt.sketch.inner.tag = stmt.tag := by
  cases stmt with
  | expression value => exact Expr.Spelled.tag_sketch spelled
  | block body =>
      obtain ⟨brace, statements, tail⟩ := body
      rfl
  | letValue | ifThen | ifElse | whileLoop | forLoop | function | giveBack => rfl

theorem Expr.isStatement_tag (expr : Expr) : expr.tag.isStatement = false := by
  cases expr <;> rfl

/-- No statement has the sketch of the tail of a block. -/
theorem Stmt.Spelled.sketch_ne {stmt : Stmt} (spelled : stmt.Spelled segmentation) {value : Expr}
    (spelledValue : value.Spelled segmentation) : stmt.sketch ≠ .plain value.sketch := by
  intro same
  have tag : stmt.tag = value.tag := by
    rw [← spelled.tag_sketch, ← spelledValue.tag_sketch, same, Part.inner]
  have isStatement : stmt.tag.isStatement = true := by
    cases stmt with
    | expression => cases same
    | letValue | block | ifThen | ifElse | whileLoop | forLoop | function | giveBack => rfl
  rw [tag, value.isStatement_tag] at isStatement
  cases isStatement

end Tags

section Expressions

/-- Literals with the same sketch have the same lexeme. -/
theorem lexeme_of_literal {value : Constant} {token : Token} {lexeme : String}
    (isLiteral : Grammar.LiteralKind token.kind) (constant : Reader.constant? token = some value)
    (same : (Expr.literal value token).sketch = .word lexeme ∨
      (Expr.literal value token).sketch = .quoted lexeme) : token.lexeme = lexeme := by
  rcases literal_cases isLiteral constant with ⟨shape, -⟩ | ⟨shape, -⟩ <;>
    rcases same with same | same <;> rw [shape] at same <;> cases same <;> rfl

theorem literal_ne_name {token name : Token} (isSpelled : token.IsSpelled segmentation)
    (isLiteral : Grammar.LiteralKind token.kind) (is : name.Is segmentation .identifier) :
    token.lexeme ≠ name.lexeme := by
  intro same
  rw [(isSpelled.unique is.spelled same).1, is.kind] at isLiteral
  cases isLiteral

mutual

/-- Two expressions with the same sketch differ in positions only. -/
theorem Expr.Spelled.forget (expr other : Expr) (spelled : expr.Spelled segmentation)
    (spelledOther : other.Spelled segmentation) (same : expr.sketch = other.sketch) :
    expr.move Position.forget = other.move Position.forget := by
  have tag : expr.tag = other.tag := by
    rw [← spelled.tag_sketch, same, spelledOther.tag_sketch]
  cases expr with
  | literal value token =>
      obtain ⟨isSpelled, isLiteral, constant⟩ := spelled
      cases other with
      | literal second another =>
          obtain ⟨isSpelledOther, isLiteralOther, constantOther⟩ := spelledOther
          have lexemes : token.lexeme = another.lexeme := by
            refine lexeme_of_literal isLiteral constant ?_
            rcases literal_cases isLiteralOther constantOther with ⟨shape, -⟩ | ⟨shape, -⟩
            · exact .inr (same.trans shape)
            · exact .inl (same.trans shape)
          have tokens := isSpelled.forget isSpelledOther lexemes
          obtain ⟨kind, payload⟩ := isSpelled.unique isSpelledOther lexemes
          have constants : Reader.constant? token = Reader.constant? another := by
            rw [Reader.constant?, Reader.constant?, kind, payload]
          rw [constant, constantOther, Option.some.injEq] at constants
          rw [Expr.move, Expr.move, tokens, constants]
      | reference name =>
          exact absurd (lexeme_of_literal isLiteral constant (.inl same))
            (literal_ne_name isSpelled isLiteral spelledOther)
      | _ => cases tag
  | reference name =>
      cases other with
      | literal value token =>
          obtain ⟨isSpelled, isLiteral, constant⟩ := spelledOther
          exact absurd (lexeme_of_literal isLiteral constant (.inl same.symm))
            (literal_ne_name isSpelled isLiteral spelled)
      | reference second =>
          rw [Expr.move, Expr.move, Token.Is.forget spelled spelledOther (Sketch.word.inj same)]
      | _ => cases tag
  | assign name value =>
      cases other with
      | assign second another =>
          simp only [Expr.sketch, Sketch.form.injEq, List.cons.injEq, Sketch.word.injEq, true_and,
            and_true] at same
          rw [Expr.move, Expr.move, spelled.1.forget spelledOther.1 same.1,
            Expr.Spelled.forget value another spelled.2 spelledOther.2 same.2]
      | _ => cases tag
  | unary operator token operand =>
      cases other with
      | unary another second inner =>
          simp only [Expr.sketch, Sketch.form.injEq, List.cons.injEq, Sketch.word.injEq,
            and_true] at same
          have kinds := spelled.1.unique spelledOther.1 same.1
          obtain rfl := UnaryOperator.mark_injective (Kind.symbol.inj kinds)
          rw [Expr.move, Expr.move, spelled.1.forget spelledOther.1 same.1,
            Expr.Spelled.forget operand inner spelled.2 spelledOther.2 same.2]
      | binary => simp [Expr.sketch] at same
      | _ => cases tag
  | binary operator token left right =>
      cases other with
      | binary another second first last =>
          simp only [Expr.sketch, Sketch.form.injEq, List.cons.injEq, Sketch.word.injEq,
            and_true] at same
          have kinds := spelled.1.unique spelledOther.1 same.1
          obtain rfl := BinaryOperator.mark_injective (Kind.symbol.inj kinds)
          rw [Expr.move, Expr.move, spelled.1.forget spelledOther.1 same.1,
            Expr.Spelled.forget left first spelled.2.1 spelledOther.2.1 same.2.1,
            Expr.Spelled.forget right last spelled.2.2 spelledOther.2.2 same.2.2]
      | unary => simp [Expr.sketch] at same
      | _ => cases tag
  | logical operator token left right =>
      cases other with
      | logical another second first last =>
          simp only [Expr.sketch, Sketch.form.injEq, List.cons.injEq, Sketch.word.injEq,
            and_true] at same
          have kinds := spelled.1.unique spelledOther.1 same.1
          obtain rfl := LogicalOperator.word_injective (Kind.keyword.inj kinds)
          rw [Expr.move, Expr.move, spelled.1.forget spelledOther.1 same.1,
            Expr.Spelled.forget left first spelled.2.1 spelledOther.2.1 same.2.1,
            Expr.Spelled.forget right last spelled.2.2 spelledOther.2.2 same.2.2]
      | _ => cases tag
  | group inner =>
      cases other with
      | group second =>
          simp only [Expr.sketch, Sketch.form.injEq, List.cons.injEq, true_and, and_true] at same
          rw [Expr.move, Expr.move, Expr.Spelled.forget inner second spelled spelledOther same]
      | _ => cases tag
  | tuple items =>
      cases other with
      | tuple others =>
          simp only [Expr.sketch, Sketch.form.injEq, List.cons.injEq, true_and] at same
          rw [Expr.move, Expr.move, Expr.AreSpelled.forget items others spelled spelledOther same]
      | _ => cases tag
  | call callee paren arguments =>
      cases other with
      | call second another others =>
          simp only [Expr.sketch, Sketch.form.injEq, List.cons.injEq, true_and] at same
          rw [Expr.move, Expr.move, spelled.2.1.forget_symbol spelledOther.2.1,
            Expr.Spelled.forget callee second spelled.1 spelledOther.1 same.1,
            Expr.AreSpelled.forget arguments others spelled.2.2 spelledOther.2.2 same.2]
      | _ => cases tag

theorem Expr.AreSpelled.forget (items others : List Expr)
    (spelled : Expr.AreSpelled segmentation items)
    (spelledOthers : Expr.AreSpelled segmentation others)
    (same : Expr.sketchAll items = Expr.sketchAll others) :
    Expr.moveAll Position.forget items = Expr.moveAll Position.forget others := by
  cases items with
  | nil =>
      cases others with
      | nil => rfl
      | cons => cases same
  | cons item items =>
      cases others with
      | nil => cases same
      | cons other others =>
          obtain ⟨first, rest⟩ := List.cons.inj same
          rw [Expr.moveAll, Expr.moveAll,
            Expr.Spelled.forget item other spelled.1 spelledOthers.1 first,
            Expr.AreSpelled.forget items others spelled.2 spelledOthers.2 rest]

end

end Expressions

section Statements

theorem forget_option {value other : Option Expr}
    (spelled : ∀ found ∈ value, found.Spelled segmentation)
    (spelledOther : ∀ found ∈ other, found.Spelled segmentation)
    (same : (value.map Expr.sketch).toList = (other.map Expr.sketch).toList) :
    value.map (Expr.move Position.forget) = other.map (Expr.move Position.forget) := by
  cases value with
  | none =>
      cases other with
      | none => rfl
      | some other => cases same
  | some value =>
      cases other with
      | none => cases same
      | some other =>
          have found := Expr.Spelled.forget value other (spelled value rfl) (spelledOther other rfl)
            (List.cons.inj same).1
          rw [Option.map_some, Option.map_some, found]

theorem Bounds.Spelled.forget {bounds other : Bounds} (spelled : bounds.Spelled segmentation)
    (spelledOther : other.Spelled segmentation) (same : bounds.sketch = other.sketch) :
    bounds.move Position.forget = other.move Position.forget := by
  simp only [Bounds.sketch, Sketch.form.injEq, List.cons.injEq, true_and] at same
  obtain ⟨start, behind⟩ := same
  obtain ⟨step, stop⟩ := List.append_inj' behind rfl
  rw [Bounds.move, Bounds.move, spelled.token.forget_symbol spelledOther.token,
    Expr.Spelled.forget _ _ spelled.start spelledOther.start start,
    Expr.Spelled.forget _ _ spelled.stop spelledOther.stop (List.cons.inj stop).1,
    forget_option spelled.step spelledOther.step step]

theorem forget_binder {name other : Token} {declared second : Option WrittenType}
    (is : name.Is segmentation .identifier) (isOther : other.Is segmentation .identifier)
    (same : binder name declared = binder other second) :
    name.move Position.forget = other.move Position.forget ∧ declared = second := by
  cases declared with
  | none =>
      cases second with
      | none => exact ⟨is.forget isOther (Sketch.word.inj same), rfl⟩
      | some second => cases same
  | some declared =>
      cases second with
      | none => cases same
      | some second =>
          obtain ⟨lexeme, type⟩ := Sketch.typed.inj same
          exact ⟨is.forget isOther lexeme, congrArg some type⟩

theorem forget_names {names others : List Token}
    (are : ∀ name ∈ names, name.Is segmentation .identifier)
    (areOther : ∀ name ∈ others, name.Is segmentation .identifier)
    (same : (names.map fun name => Sketch.word name.lexeme) =
      others.map fun name => Sketch.word name.lexeme) :
    names.map (Token.move Position.forget) = others.map (Token.move Position.forget) := by
  induction names generalizing others with
  | nil => rw [List.map_eq_nil_iff.1 same.symm]
  | cons name names inductionHypothesis =>
      cases others with
      | nil => cases same
      | cons other others =>
          obtain ⟨first, rest⟩ := List.cons.inj same
          obtain ⟨is, are⟩ := List.forall_mem_cons.1 are
          obtain ⟨isOther, areOther⟩ := List.forall_mem_cons.1 areOther
          rw [List.map_cons, List.map_cons, is.forget isOther (Sketch.word.inj first),
            inductionHypothesis are areOther rest]

mutual

/-- Two statements with the same sketch differ in positions only. -/
theorem Stmt.Spelled.forget (stmt other : Stmt) (spelled : stmt.Spelled segmentation)
    (spelledOther : other.Spelled segmentation) (same : stmt.sketch = other.sketch) :
    stmt.move Position.forget = other.move Position.forget := by
  have tag : stmt.tag = other.tag := by
    rw [← spelled.tag_sketch, same, spelledOther.tag_sketch]
  cases stmt with
  | expression value =>
      cases other with
      | expression second =>
          rw [Stmt.move, Stmt.move,
            Expr.Spelled.forget value second spelled spelledOther (Sketch.Part.ended.inj same)]
      | _ => cases same
  | letValue name declared initializer =>
      cases other with
      | letValue second type value =>
          simp only [Stmt.sketch, Sketch.Part.plain.injEq, Sketch.form.injEq, List.cons.injEq,
            true_and, and_true] at same
          obtain ⟨names, rfl⟩ := forget_binder spelled.1 spelledOther.1 same.1
          rw [Stmt.move, Stmt.move, names,
            Expr.Spelled.forget initializer value spelled.2 spelledOther.2 same.2]
      | expression => cases same
      | _ => cases tag
  | block body =>
      cases other with
      | block second =>
          rw [Stmt.move, Stmt.move,
            Block.Spelled.forget body second spelled spelledOther (Sketch.Part.plain.inj same)]
      | expression => cases same
      | _ => cases tag
  | ifThen keyword condition consequent =>
      cases other with
      | ifThen second test body =>
          simp only [Stmt.sketch, Sketch.Part.plain.injEq, Sketch.form.injEq, List.cons.injEq,
            true_and, and_true] at same
          rw [Stmt.move, Stmt.move, spelled.1.forget_keyword spelledOther.1,
            Expr.Spelled.forget condition test spelled.2.1 spelledOther.2.1 same.1,
            Block.Spelled.forget consequent body spelled.2.2 spelledOther.2.2 same.2]
      | ifElse => simp [Stmt.sketch] at same
      | expression => cases same
      | _ => cases tag
  | ifElse keyword condition consequent alternative =>
      cases other with
      | ifElse second test body another =>
          simp only [Stmt.sketch, Sketch.Part.plain.injEq, Sketch.form.injEq, List.cons.injEq,
            true_and, and_true] at same
          obtain ⟨is, spelledCondition, spelledBody, spelledElse, isBranch⟩ := spelled
          obtain ⟨isOther, spelledTest, spelledSecond, spelledAnother, isOtherBranch⟩ :=
            spelledOther
          have alternatives : alternative.sketch = another.sketch := by
            rw [Stmt.sketch_of_isBranch isBranch, Stmt.sketch_of_isBranch isOtherBranch, same.2.2]
          rw [Stmt.move, Stmt.move, is.forget_keyword isOther,
            Expr.Spelled.forget condition test spelledCondition spelledTest same.1,
            Block.Spelled.forget consequent body spelledBody spelledSecond same.2.1,
            Stmt.Spelled.forget alternative another spelledElse spelledAnother alternatives]
      | ifThen => simp [Stmt.sketch] at same
      | expression => cases same
      | _ => cases tag
  | whileLoop keyword condition body =>
      cases other with
      | whileLoop second test another =>
          simp only [Stmt.sketch, Sketch.Part.plain.injEq, Sketch.form.injEq, List.cons.injEq,
            true_and, and_true] at same
          rw [Stmt.move, Stmt.move, spelled.1.forget_keyword spelledOther.1,
            Expr.Spelled.forget condition test spelled.2.1 spelledOther.2.1 same.1,
            Block.Spelled.forget body another spelled.2.2 spelledOther.2.2 same.2]
      | expression => cases same
      | _ => cases tag
  | forLoop name bounds body =>
      cases other with
      | forLoop second range another =>
          simp only [Stmt.sketch, Sketch.Part.plain.injEq, Sketch.form.injEq, List.cons.injEq,
            Sketch.word.injEq, true_and, and_true] at same
          rw [Stmt.move, Stmt.move, spelled.1.forget spelledOther.1 same.1,
            spelled.2.1.forget spelledOther.2.1 same.2.1,
            Block.Spelled.forget body another spelled.2.2 spelledOther.2.2 same.2.2]
      | expression => cases same
      | _ => cases tag
  | function name parameters body =>
      cases other with
      | function second others another =>
          simp only [Stmt.sketch, Sketch.Part.plain.injEq, Sketch.form.injEq, List.cons.injEq,
            Sketch.word.injEq, true_and, and_true] at same
          rw [Stmt.move, Stmt.move, spelled.1.forget spelledOther.1 same.1,
            forget_names spelled.2.1 spelledOther.2.1 same.2.1,
            Block.Spelled.forget body another spelled.2.2 spelledOther.2.2 same.2.2]
      | expression => cases same
      | _ => cases tag
  | giveBack keyword value =>
      cases other with
      | giveBack second another =>
          simp only [Stmt.sketch, Sketch.Part.plain.injEq, Sketch.form.injEq, List.cons.injEq,
            true_and] at same
          rw [Stmt.move, Stmt.move, spelled.1.forget_keyword spelledOther.1,
            forget_option spelled.2 spelledOther.2 same]
      | expression => cases same
      | _ => cases tag

theorem Block.Spelled.forget (body other : Block) (spelled : body.Spelled segmentation)
    (spelledOther : other.Spelled segmentation) (same : body.sketch = other.sketch) :
    body.move Position.forget = other.move Position.forget := by
  obtain ⟨brace, statements, tail⟩ := body
  obtain ⟨second, others, last⟩ := other
  obtain ⟨stmts, tails⟩ := Stmt.AreSpelled.forget statements others spelled.2.1 spelledOther.2.1
    spelled.2.2 spelledOther.2.2 (Sketch.block.inj same)
  rw [Block.move, Block.move, spelled.1.forget_symbol spelledOther.1, stmts, tails]

theorem Stmt.AreSpelled.forget (stmts others : List Stmt)
    (spelled : Stmt.AreSpelled segmentation stmts)
    (spelledOthers : Stmt.AreSpelled segmentation others) {tail last : Option Expr}
    (spelledTail : ∀ value ∈ tail, value.Spelled segmentation)
    (spelledLast : ∀ value ∈ last, value.Spelled segmentation)
    (same : Stmt.sketchAll stmts ++ tailParts tail = Stmt.sketchAll others ++ tailParts last) :
    Stmt.moveAll Position.forget stmts = Stmt.moveAll Position.forget others ∧
      tail.map (Expr.move Position.forget) = last.map (Expr.move Position.forget) := by
  cases stmts with
  | nil =>
      cases others with
      | nil =>
          refine ⟨rfl, forget_option spelledTail spelledLast ?_⟩
          cases tail <;> cases last <;> simp_all [Stmt.sketchAll, tailParts]
      | cons other others =>
          cases tail with
          | none => cases same
          | some value =>
              have first := (List.cons.inj same).1
              exact absurd first.symm (spelledOthers.1.sketch_ne (spelledTail value rfl))
  | cons stmt stmts =>
      cases others with
      | nil =>
          cases last with
          | none => cases same
          | some value =>
              have first := (List.cons.inj same).1
              exact absurd first (spelled.1.sketch_ne (spelledLast value rfl))
      | cons other others =>
          obtain ⟨first, rest⟩ := List.cons.inj same
          obtain ⟨later, tails⟩ := Stmt.AreSpelled.forget stmts others spelled.2 spelledOthers.2
            spelledTail spelledLast rest
          rw [Stmt.moveAll, Stmt.moveAll,
            Stmt.Spelled.forget stmt other spelled.1 spelledOthers.1 first, later]
          exact ⟨rfl, tails⟩

end

theorem Stmt.Spelled.sketch_eq (lawful : segmentation.Lawful) {stmt other : Stmt}
    (spelled : stmt.Spelled segmentation) (spelledOther : other.Spelled segmentation)
    (same : stmt.outline = other.outline) :
    stmt.sketch = other.sketch := by
  have sound : ∀ {stmt : Stmt}, stmt.Spelled segmentation → stmt.sketch.Sound segmentation := by
    intro stmt spelled
    have inner := Stmt.Spelled.sound stmt spelled
    cases shape : stmt.sketch <;> exact (shape ▸ inner : _)
  refine Sketch.Part.Sound.print_injective lawful (sound spelled) (sound spelledOther) ?_
  rw [← Stmt.Spelled.toList_outline stmt spelled, same,
    Stmt.Spelled.toList_outline other spelledOther]

theorem Stmt.AreSpelled.move_eq (lawful : segmentation.Lawful) {stmts others : List Stmt}
    (spelled : Stmt.AreSpelled segmentation stmts)
    (spelledOthers : Stmt.AreSpelled segmentation others)
    (same : stmts.map Stmt.outline = others.map Stmt.outline) :
    stmts.map (Stmt.move Position.forget) = others.map (Stmt.move Position.forget) := by
  induction stmts generalizing others with
  | nil => rw [List.map_eq_nil_iff.1 same.symm]
  | cons stmt stmts inductionHypothesis =>
      cases others with
      | nil => cases same
      | cons other others =>
          obtain ⟨first, rest⟩ := List.cons.inj same
          have sketches := Stmt.Spelled.sketch_eq lawful spelled.1 spelledOthers.1 first
          rw [List.map_cons, List.map_cons,
            Stmt.Spelled.forget stmt other spelled.1 spelledOthers.1 sketches,
            inductionHypothesis spelled.2 spelledOthers.2 rest]

/-- Two programs that have been read from source texts and whose statements have the same
outlines, one by one, are the same trees, apart from the positions of their tokens. -/
theorem Program.outlines_tell_apart {segmentation : Segmentation} (lawful : segmentation.Lawful)
    {first second : String} {program other : Program}
    (parsed : segmentation.parse first = .ok program)
    (parsedOther : segmentation.parse second = .ok other)
    (same : program.map Stmt.outline = other.map Stmt.outline) :
    program.move Position.forget = other.move Position.forget :=
  (Program.spelled_of_parse lawful parsed).move_eq lawful
    (Program.spelled_of_parse lawful parsedOther) same

/-- The lines of a program that a source text is read as. -/
theorem Program.exists_of_outlines {segmentation : Segmentation} {source : String}
    {lines : List String}
    (outlined : (segmentation.parse source).map (List.map Stmt.outline) = .ok lines) :
    ∃ program : Program, segmentation.parse source = .ok program ∧
      program.map Stmt.outline = lines := by
  cases parsed : segmentation.parse source with
  | error rejection =>
      rw [parsed] at outlined
      cases outlined
  | ok program =>
      rw [parsed] at outlined
      exact ⟨program, rfl, Except.ok.inj outlined⟩

/-- Names that are words of outlines elsewhere, and a text with a parenthesis in it. -/
theorem Program.outlines_tell_apart_names :
    let first := "let tuple: (text, ()) = (\"a) b\", group);"
    let second := "let tuple : ((text), ( )) =\n (\"a) b\" , group) ;"
    ∃ program other : Program,
      Segmentation.standard.parse first = .ok program ∧
        Segmentation.standard.parse second = .ok other ∧
        program.map Stmt.outline = ["(let tuple: (text, ()) (tuple \"a) b\" group))"] ∧
        program.move Position.forget = other.move Position.forget := by
  intro first second
  have lines : (Segmentation.standard.parse first).map (List.map Stmt.outline) =
      .ok ["(let tuple: (text, ()) (tuple \"a) b\" group))"] := by cbv
  have linesOther : (Segmentation.standard.parse second).map (List.map Stmt.outline) =
      .ok ["(let tuple: (text, ()) (tuple \"a) b\" group))"] := by cbv
  obtain ⟨program, parsed, outlined⟩ := Program.exists_of_outlines lines
  obtain ⟨other, parsedOther, outlinedOther⟩ := Program.exists_of_outlines linesOther
  exact ⟨program, other, parsed, parsedOther, outlined,
    Program.outlines_tell_apart Segmentation.standard_lawful parsed parsedOther
      (outlined.trans outlinedOther.symm)⟩

end Statements

end CheckedScript
