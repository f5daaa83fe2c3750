/-!
# Internal faults

A fault is a state that checking a program rules out.  It is kept apart from
the diagnostics a program's author can act on, and has one text for every
cause.  Values inside a fault are given in their quoted form.
-/

namespace CheckedScript

/-- The families of diagnostics. -/
inductive Family where
  | grammar
  | typing
  | running
  deriving DecidableEq, Repr

namespace Family

/-- The letter that begins the codes of a family. -/
def letter : Family → Char
  | grammar => 'S'
  | typing => 'T'
  | running => 'R'

/-- How a family is called in the heading of a diagnostic. -/
def heading : Family → String
  | grammar => "error"
  | typing => "type error"
  | running => "runtime error"

/-- The adjective of a family. -/
def adjective : Family → String
  | grammar => "syntax"
  | typing => "type"
  | running => "runtime"

/-- The family with a given letter. -/
def ofLetter? : Char → Option Family
  | 'S' => some grammar
  | 'T' => some typing
  | 'R' => some running
  | _ => none

end Family

/-- A state that should not arise. -/
inductive Fault where
  /-- An arithmetic operator or a range met operands that are not numbers. -/
  | operands (operator left right : String)
  /-- An operator met an operand of the wrong kind. -/
  | operand (operator value : String)
  /-- A variable has no value. -/
  | unbound (name : String)
  /-- An assignment found no binding. -/
  | unassignable (name : String)
  /-- A call has the wrong number of arguments. -/
  | arity (callee : String) (expected found : Nat)
  /-- A value that is no function was called. -/
  | uncallable (value : String)
  /-- A return left every call. -/
  | escapedReturn
  /-- A native function type lacks its signature. -/
  | missingSignature
  /-- A function type lacks its declaration. -/
  | missingDeclaration (name : String)
  /-- A code was used for a family it does not belong to. -/
  | foreignCode (code : String) (family : Family)
  deriving DecidableEq, Repr

namespace Fault

/-- What a fault says. -/
def description : Fault → String
  | operands operator left right =>
      "'" ++ operator ++ "' applied to " ++ left ++ " and " ++ right
  | operand operator value => "'" ++ operator ++ "' applied to " ++ value
  | unbound name => "'" ++ name ++ "' is unbound at run time"
  | unassignable name => "'" ++ name ++ "' is not defined in any enclosing scope"
  | arity callee expected found =>
      callee ++ " expects " ++ toString expected ++ " args, got " ++ toString found
  | uncallable value => "cannot call " ++ value
  | escapedReturn => "return escaped every function call"
  | missingSignature => "builtin type without a signature"
  | missingDeclaration name => "function type " ++ name ++ " without a declaration"
  | foreignCode code family =>
      code ++ " is not a " ++ family.adjective ++ " error code"

/-- The full text of a fault. -/
def message (fault : Fault) : String :=
  "[ONO LANGUAGE ERROR] " ++ fault.description

end Fault

end CheckedScript
