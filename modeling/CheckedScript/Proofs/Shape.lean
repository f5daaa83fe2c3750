import CheckedScript.Proofs.Grammar

/-!
# Shapes of trees

Which trees declare functions, which statements bind a name in the frame they
stand in, and what is special about the trees of programs that can be read: only
a block or another conditional follows an `else`.
-/

namespace CheckedScript

mutual

/-- Whether no function is declared in a statement. -/
def Stmt.isPlain : Stmt → Bool
  | .block body => body.isPlain
  | .ifThen _ _ consequent => consequent.isPlain
  | .ifElse _ _ consequent alternative => consequent.isPlain && alternative.isPlain
  | .whileLoop _ _ body => body.isPlain
  | .forLoop _ _ body => body.isPlain
  | .function _ _ _ => false
  | _ => true

/-- Whether no function is declared in a block. -/
def Block.isPlain : Block → Bool
  | .mk _ statements _ => Stmt.arePlain statements

/-- Whether no function is declared in several statements. -/
def Stmt.arePlain : List Stmt → Bool
  | [] => true
  | statement :: statements => statement.isPlain && Stmt.arePlain statements

end

/-- Whether a statement may bind a name in its own frame. -/
def Stmt.declares : Stmt → Bool
  | .letValue _ _ _ | .function _ _ _ => true
  | .ifElse _ _ _ alternative => alternative.declares
  | _ => false

mutual

/-- Whether no alternative of a conditional is a declaration by itself. -/
def Stmt.isShaped : Stmt → Bool
  | .block body => body.isShaped
  | .ifThen _ _ consequent => consequent.isShaped
  | .ifElse _ _ consequent alternative =>
      consequent.isShaped && alternative.isShaped && !alternative.declares
  | .whileLoop _ _ body => body.isShaped
  | .forLoop _ _ body => body.isShaped
  | .function _ _ body => body.isShaped
  | _ => true

def Block.isShaped : Block → Bool
  | .mk _ statements _ => Stmt.areShaped statements

def Stmt.areShaped : List Stmt → Bool
  | [] => true
  | statement :: statements => statement.isShaped && Stmt.areShaped statements

end

@[simp]
theorem Stmt.areShaped_append (first second : List Stmt) :
    Stmt.areShaped (first ++ second) = (Stmt.areShaped first && Stmt.areShaped second) := by
  induction first with
  | nil => rfl
  | cons stmt first inductionHypothesis =>
      simp [Stmt.areShaped, inductionHypothesis, Bool.and_assoc]

mutual

/-- What follows `else` is a block or another conditional. -/
theorem Stmt.isShaped_of_derived (stmt : Stmt) :
    (∀ {tokens}, Grammar.Conditional tokens stmt →
      stmt.isShaped = true ∧ stmt.declares = false) ∧
    ∀ {tokens}, Grammar.Statement tokens stmt → stmt.isShaped = true := by
  cases stmt with
  | expression _ | letValue _ _ _ | giveBack _ _ =>
      exact ⟨nofun, fun _ => rfl⟩
  | block body =>
      refine ⟨nofun, fun derived => ?_⟩
      cases derived with
      | block derived => exact body.isShaped_of_derived derived
      | conditional derived => cases derived
  | ifThen keyword condition consequent =>
      have conditional : ∀ {tokens},
          Grammar.Conditional tokens (.ifThen keyword condition consequent) →
          consequent.isShaped = true ∧ false = false := by
        intro tokens derived
        cases derived with
        | alone _ _ derived => exact ⟨consequent.isShaped_of_derived derived, rfl⟩
      refine ⟨conditional, fun derived => ?_⟩
      cases derived with
      | conditional derived => exact (conditional derived).1
  | ifElse keyword condition consequent alternative =>
      have other := alternative.isShaped_of_derived
      have conditional : ∀ {tokens},
          Grammar.Conditional tokens (.ifElse keyword condition consequent alternative) →
          (Stmt.ifElse keyword condition consequent alternative).isShaped = true ∧
            alternative.declares = false := by
        intro tokens derived
        simp only [Stmt.isShaped, Bool.and_eq_true, Bool.not_eq_true']
        cases derived with
        | orBlock _ _ derived _ derivedOther =>
            exact ⟨⟨⟨consequent.isShaped_of_derived derived, other.2 (.block derivedOther)⟩, rfl⟩,
              rfl⟩
        | orConditional _ _ derived _ derivedOther =>
            obtain ⟨shaped, still⟩ := other.1 derivedOther
            exact ⟨⟨⟨consequent.isShaped_of_derived derived, shaped⟩, still⟩, still⟩
      refine ⟨conditional, fun derived => ?_⟩
      cases derived with
      | conditional derived => exact (conditional derived).1
  | whileLoop keyword condition body =>
      refine ⟨nofun, fun derived => ?_⟩
      cases derived with
      | whileLoop _ _ derived => exact body.isShaped_of_derived derived
      | conditional derived => cases derived
  | forLoop name bounds body =>
      refine ⟨nofun, fun derived => ?_⟩
      cases derived with
      | forLoop _ _ _ _ derived => exact body.isShaped_of_derived derived
      | conditional derived => cases derived
  | function name parameters body =>
      refine ⟨nofun, fun derived => ?_⟩
      cases derived with
      | function _ _ _ derived => exact body.isShaped_of_derived derived
      | conditional derived => cases derived

theorem Block.isShaped_of_derived (body : Block) {tokens : List Token}
    (derived : Grammar.Braced tokens body) : body.isShaped = true := by
  obtain ⟨brace, stmts, tail⟩ := body
  cases derived with
  | plain _ derived _ => exact Stmt.areShaped_of_derived stmts derived
  | tail _ derived _ _ => exact Stmt.areShaped_of_derived stmts derived

theorem Stmt.areShaped_of_derived (stmts : List Stmt) {tokens : List Token}
    (derived : Grammar.Statements tokens stmts) : Stmt.areShaped stmts = true := by
  cases stmts with
  | nil => rfl
  | cons stmt stmts =>
      cases derived with
      | cons first others =>
          exact Bool.and_eq_true_iff.2
            ⟨stmt.isShaped_of_derived.2 first, Stmt.areShaped_of_derived stmts others⟩

end

end CheckedScript
