import CheckedScript.Fault
import CheckedScript.Text.Quoted
import CheckedScript.Text.Segmentation
import CheckedScript.Token

/-!
# Diagnostics

A diagnostic is a cause anchored at a token.  `Cause` lists every fault that a
program can be charged with; its code and its wording are functions of it.  The
name of the source and the line in question are attached afterwards, for
display only.  `Cause.ofFields` reads a cause from a code and named fields.
-/

namespace CheckedScript

/-- What is wrong with a program. -/
inductive Cause where
  | unexpectedSymbol
  | unterminatedText
  | unterminatedParenthesis
  | missingExpression
  | missingToken (expected : String)
  | missingType
  | missingIdentifier
  | missingInitializer
  | invalidTarget
  | unterminatedBlock
  | operandsMismatch (left right : String)
  | operandMismatch (operand : String)
  | initializerMismatch (declared found : String)
  | undefinedName
  | assignmentMismatch (declared found : String)
  | wrongArity (callee expected found : String)
  | notCallable (found : String)
  | conditionNotBool (found : String)
  | boundNotNumber (found : String)
  | returnOutsideFunction
  | returnMismatch (callee expected found : String)
  | unresolvedRecursion (callee : String)
  | argumentMismatch (callee expected found : String)
  | divisionByZero
  | invalidRange (start stop step : String)
  | nativeFailure (callee reason : String)
  deriving DecidableEq, Repr

/-- Why a code and its fields describe no cause. -/
inductive Flaw where
  | emptyCode
  | unknownFamily (letter : Char)
  | unknownCode (code : String)
  | missingField (field : String)
  | fault (cause : Fault)
  deriving DecidableEq, Repr

namespace Flaw

/-- The text of a flaw; what was looked up in vain is quoted. -/
def message : Flaw → String
  | emptyCode => "string index out of range"
  | unknownFamily letter => Text.quoted (String.singleton letter)
  | unknownCode code => Text.quoted code
  | missingField field => Text.quoted field
  | fault cause => cause.message

end Flaw

namespace Cause

/-- The code of a cause. -/
def code : Cause → String
  | unexpectedSymbol => "S001"
  | unterminatedText => "S002"
  | unterminatedParenthesis => "S003"
  | missingExpression => "S004"
  | missingToken _ => "S005"
  | missingType => "S006"
  | missingIdentifier => "S007"
  | missingInitializer => "S008"
  | invalidTarget => "S009"
  | unterminatedBlock => "S010"
  | operandsMismatch _ _ => "T001"
  | operandMismatch _ => "T002"
  | initializerMismatch _ _ => "T003"
  | undefinedName => "T004"
  | assignmentMismatch _ _ => "T005"
  | wrongArity _ _ _ => "T006"
  | notCallable _ => "T007"
  | conditionNotBool _ => "T008"
  | boundNotNumber _ => "T009"
  | returnOutsideFunction => "T010"
  | returnMismatch _ _ _ => "T011"
  | unresolvedRecursion _ => "T012"
  | argumentMismatch _ _ _ => "T013"
  | divisionByZero => "R001"
  | invalidRange _ _ _ => "R002"
  | nativeFailure _ _ => "R003"

/-- The family of a cause. -/
def family : Cause → Family
  | unexpectedSymbol | unterminatedText | unterminatedParenthesis
  | missingExpression | missingToken _ | missingType | missingIdentifier
  | missingInitializer | invalidTarget | unterminatedBlock => .grammar
  | operandsMismatch _ _ | operandMismatch _ | initializerMismatch _ _
  | undefinedName | assignmentMismatch _ _ | wrongArity _ _ _ | notCallable _
  | conditionNotBool _ | boundNotNumber _ | returnOutsideFunction
  | returnMismatch _ _ _ | unresolvedRecursion _ | argumentMismatch _ _ _ =>
      .typing
  | divisionByZero | invalidRange _ _ _ | nativeFailure _ _ => .running

/-- The wording of a cause at a token with the given lexeme. -/
def message (lexeme : String) : Cause → String
  | unexpectedSymbol => "encountered unexpected symbol '" ++ lexeme ++ "'"
  | unterminatedText => "unterminated string starting here"
  | unterminatedParenthesis => "unterminated parenthesis starting here"
  | missingExpression => "expected expression after '" ++ lexeme ++ "'"
  | missingToken expected => "expected '" ++ expected ++ "' after '" ++ lexeme ++ "'"
  | missingType => "expected type after '" ++ lexeme ++ "'"
  | missingIdentifier => "expected identifier after '" ++ lexeme ++ "'"
  | missingInitializer => "'" ++ lexeme ++ "' must be initialized"
  | invalidTarget => "cannot assign to left hand side"
  | unterminatedBlock => "unterminated block starting here"
  | operandsMismatch left right =>
      "cannot '" ++ left ++ " " ++ lexeme ++ " " ++ right ++ "'"
  | operandMismatch operand => "cannot '" ++ lexeme ++ operand ++ "'"
  | initializerMismatch declared found =>
      "'" ++ lexeme ++ "' declared as " ++ declared ++ " but initialized as " ++ found
  | undefinedName => "'" ++ lexeme ++ "' is undefined here"
  | assignmentMismatch declared found => "cannot assign " ++ found ++ " to " ++ declared
  | wrongArity callee expected found =>
      "'" ++ callee ++ "' expects " ++ expected ++ " argument(s) but got " ++ found
  | notCallable found => "cannot call a value of type " ++ found
  | conditionNotBool found => "condition must be bool, found " ++ found
  | boundNotNumber found => "range bounds must be number, found " ++ found
  | returnOutsideFunction => "cannot return outside of a function"
  | returnMismatch callee expected found =>
      "'" ++ callee ++ "' returns both " ++ expected ++ " and " ++ found
  | unresolvedRecursion callee =>
      "cannot infer the return type of recursive call to '" ++ callee ++ "'"
  | argumentMismatch callee expected found =>
      "'" ++ callee ++ "' expects " ++ expected ++ " but got " ++ found
  | divisionByZero => "division by zero here"
  | invalidRange start stop step =>
      "invalid range from " ++ start ++ " to " ++ stop ++ " with step " ++ step
  | nativeFailure callee reason => "builtin '" ++ callee ++ "' failed: " ++ reason

/-- Read a cause from a code and named fields.  The fields are asked for in the
order in which the wording uses them, so the first one missing there is the one
reported; fields that are not asked for are ignored. -/
def ofFields (code : String) (field? : String → Option String) : Except Flaw Cause :=
  let field (name : String) : Except Flaw String :=
    match field? name with
    | some value => .ok value
    | none => .error (.missingField name)
  match code.toList with
  | [] => .error .emptyCode
  | letter :: _ =>
      match Family.ofLetter? letter with
      | none => .error (.unknownFamily letter)
      | some _ =>
          match code with
          | "S001" => .ok unexpectedSymbol
          | "S002" => .ok unterminatedText
          | "S003" => .ok unterminatedParenthesis
          | "S004" => .ok missingExpression
          | "S005" => do return missingToken (← field "expected")
          | "S006" => .ok missingType
          | "S007" => .ok missingIdentifier
          | "S008" => .ok missingInitializer
          | "S009" => .ok invalidTarget
          | "S010" => .ok unterminatedBlock
          | "T001" => do return operandsMismatch (← field "left") (← field "right")
          | "T002" => do return operandMismatch (← field "operand")
          | "T003" => do return initializerMismatch (← field "declared") (← field "found")
          | "T004" => .ok undefinedName
          | "T005" => do
              let found ← field "found"
              let declared ← field "declared"
              return assignmentMismatch declared found
          | "T006" => do
              return wrongArity (← field "callee") (← field "expected") (← field "found")
          | "T007" => do return notCallable (← field "found")
          | "T008" => do return conditionNotBool (← field "found")
          | "T009" => do return boundNotNumber (← field "found")
          | "T010" => .ok returnOutsideFunction
          | "T011" => do
              return returnMismatch (← field "callee") (← field "expected") (← field "found")
          | "T012" => do return unresolvedRecursion (← field "callee")
          | "T013" => do
              return argumentMismatch (← field "callee") (← field "expected") (← field "found")
          | "R001" => .ok divisionByZero
          | "R002" => do
              return invalidRange (← field "start") (← field "end") (← field "step")
          | "R003" => do return nativeFailure (← field "callee") (← field "reason")
          | _ => .error (.unknownCode code)

/-- Read a cause that has to belong to the given family. -/
def ofFamilyFields (family : Family) (code : String)
    (field? : String → Option String) : Except Flaw Cause :=
  if code.toList.head? = some family.letter then
    ofFields code field?
  else
    .error (.fault (.foreignCode code family))

end Cause

/-- A cause anchored at the token it is charged to. -/
structure Diagnostic where
  cause : Cause
  token : Token
  file : Option String := none
  sourceLine : Option String := none

/-- The lines of a text without their line feeds. -/
def sourceLines : List Char → List (List Char)
  | [] => [[]]
  | character :: characters =>
      if character = '\n' then
        [] :: sourceLines characters
      else
        match sourceLines characters with
        | [] => [[character]]
        | line :: lines => (character :: line) :: lines

/-- A line without the carriage returns at its end. -/
def trimCarriageReturns (line : List Char) : List Char :=
  (line.reverse.dropWhile (· = '\r')).reverse

/-- The line with a given number, counting from zero. -/
def sourceLine? (source : String) (line : Int) : Option String :=
  if line < 0 then
    none
  else
    (sourceLines source.toList)[line.toNat]?.map fun found =>
      String.ofList (trimCarriageReturns found)

namespace Diagnostic

/-- The wording of a diagnostic. -/
def message (diagnostic : Diagnostic) : String :=
  diagnostic.cause.message diagnostic.token.lexeme

/-- Two diagnostics with equal keys say the same of the same place. -/
structure Key where
  code : String
  position : Position
  message : String
  deriving DecidableEq, Repr

/-- What tells a diagnostic from others. -/
def key (diagnostic : Diagnostic) : Key where
  code := diagnostic.cause.code
  position := diagnostic.token.position
  message := diagnostic.message

/-- Attach the source line of the anchor, where the source has such a line, and
the name of the source, if given. -/
def annotate (source : String) (file : Option String) (diagnostic : Diagnostic) :
    Diagnostic where
  cause := diagnostic.cause
  token := diagnostic.token
  file := file.or diagnostic.file
  sourceLine :=
    (sourceLine? source diagnostic.token.position.line).or diagnostic.sourceLine

end Diagnostic

namespace Segmentation

variable (segmentation : Segmentation)

/-- The number of carets that mark a lexeme; an empty one is marked as well. -/
def caretCount (lexeme : String) : Nat :=
  max (segmentation.count lexeme) 1

/-- The heading, then the place if the file is known, then the source line with
carets below the lexeme if the line is known. -/
def render (diagnostic : Diagnostic) : String :=
  let position := diagnostic.token.position
  let heading := diagnostic.cause.family.heading ++ ": " ++ diagnostic.message
  let place :=
    match diagnostic.file with
    | none => ""
    | some file => "\n-> " ++ file ++ " " ++ position.text
  let excerpt :=
    match diagnostic.sourceLine with
    | none => ""
    | some line =>
        let margin := toString (position.line + 1) ++ " | "
        let indent := (margin.length + position.column).toNat
        "\n" ++ margin ++ line ++ "\n" ++
          String.ofList (List.replicate indent ' ') ++
          String.ofList (List.replicate (segmentation.caretCount diagnostic.token.lexeme) '^')
  heading ++ place ++ excerpt

/-- The texts of several diagnostics, one below the other. -/
def renderAll (diagnostics : List Diagnostic) : String :=
  String.intercalate "\n" (diagnostics.map segmentation.render)

end Segmentation

/-- The phases that turn a source text into a value. -/
inductive Phase where
  | scanning
  | parsing
  | checking
  | running
  deriving DecidableEq, Repr

/-- The diagnostics with which a phase refuses a program. -/
structure Rejection where
  phase : Phase
  diagnostics : List Diagnostic

namespace Rejection

/-- Annotate every diagnostic of a rejection. -/
def annotate (source : String) (file : Option String) (rejection : Rejection) :
    Rejection where
  phase := rejection.phase
  diagnostics := rejection.diagnostics.map (Diagnostic.annotate source file)

end Rejection

end CheckedScript
