import CheckedScript.Diagnostic
import CheckedScript.Table
import CheckedScript.Ty

/-!
# What phases charge programs with

Every fault is found by one phase, and its code tells which.  The wording of a fault asks
for fields by name, some of which are texts of types; a cause is worded if all of them are
at hand, those of types in the form in which types are shown.
-/

namespace CheckedScript

/-- The codes of the faults that a phase finds. -/
def Phase.codes : Phase → List String
  | scanning => ["S001", "S002"]
  | parsing => ["S003", "S004", "S005", "S006", "S007", "S008", "S009", "S010"]
  | checking =>
      ["T001", "T002", "T003", "T004", "T005", "T006", "T007", "T008", "T009", "T010", "T011",
        "T012", "T013"]
  | running => ["R001", "R002", "R003"]

namespace Cause

/-- The phase that finds a fault. -/
def phase : Cause → Phase
  | unexpectedSymbol | unterminatedText => .scanning
  | unterminatedParenthesis | missingExpression | missingToken _ | missingType
  | missingIdentifier | missingInitializer | invalidTarget | unterminatedBlock => .parsing
  | operandsMismatch _ _ | operandMismatch _ | initializerMismatch _ _ | undefinedName
  | assignmentMismatch _ _ | wrongArity _ _ _ | notCallable _ | conditionNotBool _
  | boundNotNumber _ | returnOutsideFunction | returnMismatch _ _ _ | unresolvedRecursion _
  | argumentMismatch _ _ _ => .checking
  | divisionByZero | invalidRange _ _ _ | nativeFailure _ _ => .running

/-- The fields of a cause under the names by which its wording asks for them. -/
def fields : Cause → Table String String
  | missingToken expected => [("expected", expected)]
  | operandsMismatch left right => [("left", left), ("right", right)]
  | operandMismatch operand => [("operand", operand)]
  | initializerMismatch declared found | assignmentMismatch declared found =>
      [("declared", declared), ("found", found)]
  | wrongArity callee expected found | returnMismatch callee expected found
  | argumentMismatch callee expected found =>
      [("callee", callee), ("expected", expected), ("found", found)]
  | notCallable found | conditionNotBool found | boundNotNumber found => [("found", found)]
  | unresolvedRecursion callee => [("callee", callee)]
  | invalidRange start stop step => [("start", start), ("end", stop), ("step", step)]
  | nativeFailure callee reason => [("callee", callee), ("reason", reason)]
  | unexpectedSymbol | unterminatedText | unterminatedParenthesis | missingExpression
  | missingType | missingIdentifier | missingInitializer | invalidTarget | unterminatedBlock
  | undefinedName | returnOutsideFunction | divisionByZero => []

/-- The fields of a cause that are texts of types. -/
def typeTexts : Cause → List String
  | operandsMismatch left right => [left, right]
  | operandMismatch found | notCallable found | conditionNotBool found
  | boundNotNumber found => [found]
  | initializerMismatch expected found | assignmentMismatch expected found
  | returnMismatch _ expected found | argumentMismatch _ expected found => [expected, found]
  | _ => []

/-- The wording of a cause finds all the fields it asks for, and the types it shows are
types that can be shown. -/
structure Worded (cause : Cause) : Prop where
  fields : ofFamilyFields cause.family cause.code cause.fields.get? = .ok cause
  types : ∀ text ∈ cause.typeTexts, ∃ type : Ty, type.describe? = .ok text

/-- The code of a cause is one of its phase. -/
theorem code_mem_codes (cause : Cause) : cause.code ∈ cause.phase.codes := by
  cases cause <;> simp [code, phase, Phase.codes]

/-- The code of a cause begins with the letter of its family. -/
theorem code_head (cause : Cause) : cause.code.toList.head? = some cause.family.letter := by
  cases cause <;> simp [code, family, Family.letter]

/-- No field that the wording of a cause asks for is missing. -/
theorem ofFields_fields (cause : Cause) : ofFields cause.code cause.fields.get? = .ok cause := by
  cases cause <;> simp [ofFields.eq_def, code, Family.ofLetter?, fields, Table.get?] <;> rfl

/-- A cause is read back from its code and its fields. -/
theorem ofFamilyFields_fields (cause : Cause) :
    ofFamilyFields cause.family cause.code cause.fields.get? = .ok cause := by
  rw [ofFamilyFields, if_pos cause.code_head, ofFields_fields]

/-- Faults of reading show no types. -/
theorem typeTexts_of_parsing {cause : Cause} (found : cause.phase = .parsing) :
    cause.typeTexts = [] := by
  cases cause <;> first | rfl | cases found

end Cause

/-- A phase refuses a program for at least one fault, and for faults of its own only, all
of which can be worded. -/
structure Rejection.IsOwnOf (phase : Phase) (rejection : Rejection) : Prop where
  refuses : rejection.phase = phase
  charged : rejection.diagnostics ≠ []
  codes : ∀ diagnostic ∈ rejection.diagnostics, diagnostic.cause.code ∈ phase.codes
  worded : ∀ diagnostic ∈ rejection.diagnostics, diagnostic.cause.Worded

/-- A fault of a phase that shows types in the form in which types are shown. -/
structure Diagnostic.IsOwnOf (phase : Phase) (diagnostic : Diagnostic) : Prop where
  phase : diagnostic.cause.phase = phase
  types : ∀ text ∈ diagnostic.cause.typeTexts, ∃ type : Ty, type.describe? = .ok text

/-- A refusal for faults of a phase only is one of that phase. -/
theorem Rejection.isOwnOf {phase : Phase} {diagnostics : List Diagnostic}
    (charged : diagnostics ≠ [])
    (own : ∀ diagnostic ∈ diagnostics, diagnostic.IsOwnOf phase) :
    Rejection.IsOwnOf phase { phase := phase, diagnostics := diagnostics } where
  refuses := rfl
  charged := charged
  codes diagnostic member := (own diagnostic member).phase ▸ diagnostic.cause.code_mem_codes
  worded diagnostic member :=
    ⟨diagnostic.cause.ofFamilyFields_fields, (own diagnostic member).types⟩

end CheckedScript
