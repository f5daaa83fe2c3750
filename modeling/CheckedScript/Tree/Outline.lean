import CheckedScript.Tree

/-!
# Outlines

The outline of a tree is a fully parenthesised text on one line: operators come
first, optional parts are left out when absent, and a block shows its statements
between braces with the tail expression last.
-/

namespace CheckedScript

mutual

/-- The outline of an expression. -/
def Expr.outline : Expr → String
  | .literal _ token => token.lexeme
  | .reference name => name.lexeme
  | .assign name value => "(= " ++ name.lexeme ++ " " ++ value.outline ++ ")"
  | .unary _ token operand => "(" ++ token.lexeme ++ " " ++ operand.outline ++ ")"
  | .binary _ token left right =>
      "(" ++ token.lexeme ++ " " ++ left.outline ++ " " ++ right.outline ++ ")"
  | .logical _ token left right =>
      "(" ++ token.lexeme ++ " " ++ left.outline ++ " " ++ right.outline ++ ")"
  | .group inner => "(group " ++ inner.outline ++ ")"
  | .tuple items => "(tuple" ++ Expr.outlineAll items ++ ")"
  | .call callee _ arguments =>
      "(call " ++ callee.outline ++ Expr.outlineAll arguments ++ ")"

/-- The outlines of several expressions, each after a blank. -/
def Expr.outlineAll : List Expr → String
  | [] => ""
  | item :: items => " " ++ item.outline ++ Expr.outlineAll items

end

/-- The outline of loop bounds: start, step if given, end. -/
def Bounds.outline (bounds : Bounds) : String :=
  let step :=
    match bounds.step with
    | none => ""
    | some step => " " ++ step.outline
  "(.. " ++ bounds.start.outline ++ step ++ " " ++ bounds.stop.outline ++ ")"

mutual

/-- The outline of a statement. -/
def Stmt.outline : Stmt → String
  | .expression value => value.outline ++ ";"
  | .letValue name declared initializer =>
      let written :=
        match declared with
        | none => ""
        | some written => ": " ++ written.type.describe
      "(let " ++ name.lexeme ++ written ++ " " ++ initializer.outline ++ ")"
  | .block body => body.outline
  | .ifThen _ condition consequent =>
      "(if " ++ condition.outline ++ " " ++ consequent.outline ++ ")"
  | .ifElse _ condition consequent alternative =>
      "(if " ++ condition.outline ++ " " ++ consequent.outline ++ " else " ++
        alternative.outline ++ ")"
  | .whileLoop _ condition body =>
      "(while " ++ condition.outline ++ " " ++ body.outline ++ ")"
  | .forLoop name bounds body =>
      "(for " ++ name.lexeme ++ " " ++ bounds.outline ++ " " ++ body.outline ++ ")"
  | .function name parameters body =>
      "(fun " ++ name.lexeme ++ " (" ++
        String.intercalate " " (parameters.map (·.lexeme)) ++ ") " ++ body.outline ++ ")"
  | .giveBack _ value =>
      match value with
      | none => "(return)"
      | some value => "(return " ++ value.outline ++ ")"

/-- The outline of a block. -/
def Block.outline : Block → String
  | .mk _ statements tail =>
      let last :=
        match tail with
        | none => []
        | some tail => [tail.outline]
      "\x7b" ++ String.intercalate " " (Stmt.outlineAll statements ++ last) ++ "\x7d"

/-- The outlines of several statements. -/
def Stmt.outlineAll : List Stmt → List String
  | [] => []
  | statement :: statements => statement.outline :: Stmt.outlineAll statements

end

end CheckedScript
