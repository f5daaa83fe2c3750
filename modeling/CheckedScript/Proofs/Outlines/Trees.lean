import CheckedScript.Proofs.Outlines.Spelling
import CheckedScript.Tree.Outline

/-!
# Sketches of trees

The outline of a tree is a sketch, printed, and the words of the sketch are the lexemes of
the tree and some fixed ones.  If the tokens of the tree are well spelled, the words are
words.
-/

namespace CheckedScript

mutual

/-- The sketch of an expression. -/
def Expr.sketch : Expr → Sketch
  | .literal (.text _) token => .quoted token.lexeme
  | .literal _ token => .word token.lexeme
  | .reference name => .word name.lexeme
  | .assign name value => .form [.word "=", .word name.lexeme, value.sketch]
  | .unary _ token operand => .form [.word token.lexeme, operand.sketch]
  | .binary _ token left right => .form [.word token.lexeme, left.sketch, right.sketch]
  | .logical _ token left right => .form [.word token.lexeme, left.sketch, right.sketch]
  | .group inner => .form [.word "group", inner.sketch]
  | .tuple items => .form (.word "tuple" :: Expr.sketchAll items)
  | .call callee _ arguments =>
      .form (.word "call" :: callee.sketch :: Expr.sketchAll arguments)

/-- The sketches of several expressions. -/
def Expr.sketchAll : List Expr → List Sketch
  | [] => []
  | item :: items => item.sketch :: Expr.sketchAll items

end

/-- The sketch of loop bounds. -/
def Bounds.sketch (bounds : Bounds) : Sketch :=
  .form (.word ".." :: bounds.start.sketch ::
    ((bounds.step.map Expr.sketch).toList ++ [bounds.stop.sketch]))

/-- The sketch of a name with the type that is written behind it, if there is one. -/
def binder (name : Token) : Option WrittenType → Sketch
  | none => .word name.lexeme
  | some declared => .typed name.lexeme declared

/-- The sketch that a part of a block is made of. -/
def Sketch.Part.inner : Sketch.Part → Sketch
  | .plain inner => inner
  | .ended inner => inner

/-- The tail of a block as a part of it. -/
def tailParts : Option Expr → List Sketch.Part
  | none => []
  | some value => [.plain value.sketch]

mutual

/-- The sketch of a statement. -/
def Stmt.sketch : Stmt → Sketch.Part
  | .expression value => .ended value.sketch
  | .letValue name declared initializer =>
      .plain (.form [.word "let", binder name declared, initializer.sketch])
  | .block body => .plain body.sketch
  | .ifThen _ condition consequent =>
      .plain (.form [.word "if", condition.sketch, consequent.sketch])
  | .ifElse _ condition consequent alternative =>
      .plain (.form [.word "if", condition.sketch, consequent.sketch, .word "else",
        alternative.sketch.inner])
  | .whileLoop _ condition body =>
      .plain (.form [.word "while", condition.sketch, body.sketch])
  | .forLoop name bounds body =>
      .plain (.form [.word "for", .word name.lexeme, bounds.sketch, body.sketch])
  | .function name parameters body =>
      .plain (.form [.word "fun", .word name.lexeme,
        .form (parameters.map fun parameter => .word parameter.lexeme), body.sketch])
  | .giveBack _ value =>
      .plain (.form (.word "return" :: (value.map Expr.sketch).toList))

/-- The sketch of a block. -/
def Block.sketch : Block → Sketch
  | .mk _ statements tail => .block (Stmt.sketchAll statements ++ tailParts tail)

/-- The sketches of several statements. -/
def Stmt.sketchAll : List Stmt → List Sketch.Part
  | [] => []
  | stmt :: stmts => stmt.sketch :: Stmt.sketchAll stmts

end

section Printing

open Sketch

variable {segmentation : Segmentation}

mutual

/-- The outline of an expression is its sketch, printed. -/
theorem Expr.toList_outline (expr : Expr) : expr.outline.toList = expr.sketch.print := by
  cases expr with
  | literal value token => cases value <;> rfl
  | reference name => rfl
  | assign name value =>
      simp [outline, sketch, print, printAll, value.toList_outline]
  | unary operator token operand =>
      simp [outline, sketch, print, printAll, operand.toList_outline]
  | binary operator token left right =>
      simp [outline, sketch, print, printAll, left.toList_outline,
        right.toList_outline]
  | logical operator token left right =>
      simp [outline, sketch, print, printAll, left.toList_outline,
        right.toList_outline]
  | group inner => simp [outline, sketch, print, printAll, inner.toList_outline]
  | tuple items =>
      simp [outline, sketch, print, printAll, intercalate_cons, Expr.toList_outlineAll items]
  | call callee paren arguments =>
      simp [outline, sketch, print, printAll, intercalate_cons, callee.toList_outline,
        Expr.toList_outlineAll arguments]

theorem Expr.toList_outlineAll (items : List Expr) :
    (Expr.outlineAll items).toList = (printAll (Expr.sketchAll items)).flatMap ([' '] ++ ·) := by
  cases items with
  | nil => rfl
  | cons item items =>
      simp [outlineAll, sketchAll, printAll, item.toList_outline, Expr.toList_outlineAll items]

end

theorem Bounds.toList_outline (bounds : Bounds) : bounds.outline.toList = bounds.sketch.print := by
  obtain ⟨token, start, stop, step⟩ := bounds
  cases step with
  | none =>
      simp [outline, sketch, print, printAll, start.toList_outline, stop.toList_outline]
  | some step =>
      simp [outline, sketch, print, printAll, start.toList_outline, stop.toList_outline,
        step.toList_outline]

theorem print_binder (name : Token) (declared : Option WrittenType) :
    (binder name declared).print = name.lexeme.toList ++
      match declared with
      | none => []
      | some written => ':' :: ' ' :: written.type.describe.toList := by
  cases declared with
  | none => simp [binder, print]
  | some written => rfl

theorem Stmt.sketch_of_isBranch {stmt : Stmt} (isBranch : stmt.isBranch = true) :
    stmt.sketch = .plain stmt.sketch.inner := by
  cases stmt <;> first | rfl | cases isBranch

mutual

/-- The outline of a statement is its sketch, printed. -/
theorem Stmt.Spelled.toList_outline (stmt : Stmt) (spelled : stmt.Spelled segmentation) :
    stmt.outline.toList = stmt.sketch.print := by
  cases stmt with
  | expression value => simp [Stmt.outline, Stmt.sketch, Part.print, value.toList_outline]
  | letValue name declared initializer =>
      cases declared <;>
        simp [Stmt.outline, Stmt.sketch, Part.print, print, printAll, print_binder,
          initializer.toList_outline]
  | block body => exact Block.Spelled.toList_outline body spelled
  | ifThen keyword condition consequent =>
      simp [Stmt.outline, Stmt.sketch, Part.print, print, printAll, condition.toList_outline,
        Block.Spelled.toList_outline consequent spelled.2.2]
  | ifElse keyword condition consequent alternative =>
      obtain ⟨-, -, spelledBody, spelledOther, isBranch⟩ := spelled
      have other := Stmt.Spelled.toList_outline alternative spelledOther
      rw [Stmt.sketch_of_isBranch isBranch, Part.print] at other
      simp [Stmt.outline, Stmt.sketch, Part.print, print, printAll, condition.toList_outline,
        Block.Spelled.toList_outline consequent spelledBody, other]
  | whileLoop keyword condition body =>
      simp [Stmt.outline, Stmt.sketch, Part.print, print, printAll, condition.toList_outline,
        Block.Spelled.toList_outline body spelled.2.2]
  | forLoop name bounds body =>
      simp [Stmt.outline, Stmt.sketch, Part.print, print, printAll, bounds.toList_outline,
        Block.Spelled.toList_outline body spelled.2.2]
  | function name parameters body =>
      simp [Stmt.outline, Stmt.sketch, Part.print, print, printAll, printAll_eq_map,
        Block.Spelled.toList_outline body spelled.2.2, Function.comp_def]
  | giveBack keyword value =>
      cases value with
      | none => simp [Stmt.outline, Stmt.sketch, Part.print, print, printAll]
      | some value =>
          simp [Stmt.outline, Stmt.sketch, Part.print, print, printAll, value.toList_outline]

theorem Block.Spelled.toList_outline (body : Block) (spelled : body.Spelled segmentation) :
    body.outline.toList = body.sketch.print := by
  obtain ⟨brace, statements, tail⟩ := body
  have all := Stmt.AreSpelled.toList_outlineAll statements spelled.2.1
  cases tail with
  | none => simp [Block.outline, Block.sketch, print, tailParts, all, printParts_eq_map]
  | some tail =>
      simp [Block.outline, Block.sketch, print, tailParts, all, printParts_eq_map, Part.print,
        tail.toList_outline]

theorem Stmt.AreSpelled.toList_outlineAll (stmts : List Stmt)
    (spelled : Stmt.AreSpelled segmentation stmts) :
    (Stmt.outlineAll stmts).map String.toList = (Stmt.sketchAll stmts).map Part.print := by
  cases stmts with
  | nil => rfl
  | cons stmt stmts =>
      rw [Stmt.outlineAll, Stmt.sketchAll, List.map_cons, List.map_cons,
        Stmt.Spelled.toList_outline stmt spelled.1,
        Stmt.AreSpelled.toList_outlineAll stmts spelled.2]

end

end Printing

section Soundness

open Sketch

variable {segmentation : Segmentation}

/-- A literal is a text between quotes or a word, and its token says which. -/
theorem literal_cases {value : Constant} {token : Token}
    (isLiteral : Grammar.LiteralKind token.kind) (constant : Reader.constant? token = some value) :
    (Expr.literal value token).sketch = .quoted token.lexeme ∧ token.kind = .text ∨
      (Expr.literal value token).sketch = .word token.lexeme ∧ token.kind ≠ .text ∧
        ∀ mark, token.kind ≠ .symbol mark := by
  unfold Reader.constant? at constant
  generalize token.kind = kind at isLiteral constant
  cases isLiteral with
  | text =>
      dsimp only at constant
      split at constant <;> cases constant <;> exact .inl ⟨rfl, rfl⟩
  | number =>
      dsimp only at constant
      split at constant <;> cases constant <;> exact .inr ⟨rfl, nofun, nofun⟩
  | trueWord | falseWord =>
      cases constant
      exact .inr ⟨rfl, nofun, nofun⟩

theorem Token.Is.isWord {name : Token} (is : name.Is segmentation .identifier) :
    name.lexeme.toList ≠ [] ∧ Sketch.IsWord name.lexeme.toList :=
  is.spelled.isWord (fun _ isMark => nomatch is.kind.symm.trans isMark)
    (fun isText => nomatch is.kind.symm.trans isText)

mutual

/-- The words of the sketch of an expression are words. -/
theorem Expr.Spelled.sound (expr : Expr) (spelled : expr.Spelled segmentation) :
    expr.sketch.Sound segmentation := by
  cases expr with
  | literal value token =>
      obtain ⟨isSpelled, isLiteral, constant⟩ := spelled
      rcases literal_cases isLiteral constant with ⟨shape, isText⟩ | ⟨shape, noText, noSymbol⟩
      · rw [shape]
        exact isSpelled.isQuoted isText
      · rw [shape]
        exact isSpelled.isWord noSymbol noText
  | reference name => exact Token.Is.isWord spelled
  | assign name value =>
      exact ⟨⟨by decide, by decide⟩, spelled.1.isWord, Expr.Spelled.sound value spelled.2, trivial⟩
  | unary operator token operand =>
      refine ⟨?_, Expr.Spelled.sound operand spelled.2, trivial⟩
      rw [Sketch.Sound, spelled.1.lexeme_symbol]
      cases operator <;> decide
  | binary operator token left right =>
      obtain ⟨is, spelledLeft, spelledRight⟩ := spelled
      refine ⟨?_, Expr.Spelled.sound left spelledLeft, Expr.Spelled.sound right spelledRight,
        trivial⟩
      rw [Sketch.Sound, is.lexeme_symbol]
      cases operator <;> decide
  | logical operator token left right =>
      obtain ⟨is, spelledLeft, spelledRight⟩ := spelled
      refine ⟨?_, Expr.Spelled.sound left spelledLeft, Expr.Spelled.sound right spelledRight,
        trivial⟩
      rw [Sketch.Sound, is.lexeme_keyword]
      cases operator <;> decide
  | group inner => exact ⟨⟨by decide, by decide⟩, Expr.Spelled.sound inner spelled, trivial⟩
  | tuple items => exact ⟨⟨by decide, by decide⟩, Expr.AreSpelled.sound items spelled⟩
  | call callee paren arguments =>
      exact ⟨⟨by decide, by decide⟩, Expr.Spelled.sound callee spelled.1,
        Expr.AreSpelled.sound arguments spelled.2.2⟩

theorem Expr.AreSpelled.sound (items : List Expr) (spelled : Expr.AreSpelled segmentation items) :
    AreSound segmentation (Expr.sketchAll items) := by
  cases items with
  | nil => exact trivial
  | cons item items =>
      exact ⟨Expr.Spelled.sound item spelled.1, Expr.AreSpelled.sound items spelled.2⟩

end

theorem Bounds.Spelled.sound {bounds : Bounds} (spelled : bounds.Spelled segmentation) :
    bounds.sketch.Sound segmentation := by
  obtain ⟨token, start, stop, step⟩ := bounds
  have ends : AreSound segmentation [stop.sketch] := ⟨Expr.Spelled.sound stop spelled.stop, trivial⟩
  refine ⟨⟨by decide, by decide⟩, Expr.Spelled.sound start spelled.start, ?_⟩
  cases step with
  | none => exact ends
  | some step => exact ⟨Expr.Spelled.sound step (spelled.step step rfl), ends⟩

theorem sound_binder {name : Token} (is : name.Is segmentation .identifier)
    (declared : Option WrittenType) : (binder name declared).Sound segmentation := by
  cases declared with
  | none => exact is.isWord
  | some written => exact is.isWord.2

mutual

/-- The words of the sketch of a statement are words. -/
theorem Stmt.Spelled.sound (stmt : Stmt) (spelled : stmt.Spelled segmentation) :
    stmt.sketch.inner.Sound segmentation := by
  cases stmt with
  | expression value => exact Expr.Spelled.sound value spelled
  | letValue name declared initializer =>
      exact ⟨⟨by decide, by decide⟩, sound_binder spelled.1 declared,
        Expr.Spelled.sound initializer spelled.2, trivial⟩
  | block body => exact Block.Spelled.sound body spelled
  | ifThen keyword condition consequent =>
      exact ⟨⟨by decide, by decide⟩, Expr.Spelled.sound condition spelled.2.1,
        Block.Spelled.sound consequent spelled.2.2, trivial⟩
  | ifElse keyword condition consequent alternative =>
      obtain ⟨-, spelledCondition, spelledBody, spelledOther, -⟩ := spelled
      exact ⟨⟨by decide, by decide⟩, Expr.Spelled.sound condition spelledCondition,
        Block.Spelled.sound consequent spelledBody, ⟨by decide, by decide⟩,
        Stmt.Spelled.sound alternative spelledOther, trivial⟩
  | whileLoop keyword condition body =>
      exact ⟨⟨by decide, by decide⟩, Expr.Spelled.sound condition spelled.2.1,
        Block.Spelled.sound body spelled.2.2, trivial⟩
  | forLoop name bounds body =>
      exact ⟨⟨by decide, by decide⟩, spelled.1.isWord, spelled.2.1.sound,
        Block.Spelled.sound body spelled.2.2, trivial⟩
  | function name parameters body =>
      obtain ⟨is, areNames, spelledBody⟩ := spelled
      refine ⟨⟨by decide, by decide⟩, is.isWord, ?_, Block.Spelled.sound body spelledBody, trivial⟩
      refine areSound_iff.2 (List.forall_mem_map.2 fun parameter member => ?_)
      exact (areNames parameter member).isWord
  | giveBack keyword value =>
      refine ⟨⟨by decide, by decide⟩, ?_⟩
      cases value with
      | none => exact trivial
      | some value => exact ⟨Expr.Spelled.sound value (spelled.2 value rfl), trivial⟩

theorem Block.Spelled.sound (body : Block) (spelled : body.Spelled segmentation) :
    body.sketch.Sound segmentation := by
  obtain ⟨brace, statements, tail⟩ := body
  refine partsSound_iff.2 (List.forall_mem_append.2
    ⟨Stmt.AreSpelled.sound statements spelled.2.1, ?_⟩)
  cases tail with
  | none => simp [tailParts]
  | some tail => exact List.forall_mem_singleton.2 (Expr.Spelled.sound tail (spelled.2.2 tail rfl))

theorem Stmt.AreSpelled.sound (stmts : List Stmt) (spelled : Stmt.AreSpelled segmentation stmts) :
    ∀ part ∈ Stmt.sketchAll stmts, part.Sound segmentation := by
  cases stmts with
  | nil => simp [Stmt.sketchAll]
  | cons stmt stmts =>
      refine List.forall_mem_cons.2 ⟨?_, Stmt.AreSpelled.sound stmts spelled.2⟩
      have sound := Stmt.Spelled.sound stmt spelled.1
      cases shape : stmt.sketch <;> exact (shape ▸ sound : _)

end

end Soundness

end CheckedScript
