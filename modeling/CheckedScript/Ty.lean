import CheckedScript.Fault

/-!
# Static types

Types are compared by structure, except that every declared function has a type
of its own, told apart by an identifier.  `compatible` is equality up to the
unknown type, which stands for a parameter no call has given a type, and
`accepts` is the rule for arguments of native functions.

Some rules ask only whether a type is made of components.  A tuple type is, and
so is the type of a function that is called `tuple`, which has none;
`components?` is the one place that says so.
-/

namespace CheckedScript

/-- The type of a value. -/
inductive Ty where
  | number
  | text
  | bool
  /-- The parameter type that any value but a function may be passed to. -/
  | displayable
  /-- The type of a parameter in a body that no call reaches. -/
  | unknown
  | tuple (items : List Ty)
  /-- A declared function. -/
  | function (name : String) (identifier : Nat)
  /-- A native function with its signature. -/
  | native (name : String) (parameters : List Ty) (result : Ty)
  /-- A native function whose signature is missing. -/
  | bareNative
  deriving Repr, Inhabited

/-- Name, parameter types and result type of a native function. -/
structure Signature where
  name : String
  parameters : List Ty
  result : Ty
  deriving Repr

namespace Ty

/-- The type of the empty tuple. -/
def unit : Ty :=
  tuple []

mutual

/-- Structural equality. -/
def same : Ty → Ty → Bool
  | number, number => true
  | text, text => true
  | bool, bool => true
  | displayable, displayable => true
  | unknown, unknown => true
  | tuple items, tuple otherItems => sameAll items otherItems
  | function name identifier, function otherName otherIdentifier =>
      name == otherName && identifier == otherIdentifier
  | native name parameters result, native otherName otherParameters otherResult =>
      name == otherName && sameAll parameters otherParameters && same result otherResult
  | bareNative, bareNative => true
  | _, _ => false

/-- Structural equality, item by item. -/
def sameAll : List Ty → List Ty → Bool
  | [], [] => true
  | item :: items, other :: others => same item other && sameAll items others
  | _, _ => false

end

mutual

theorem same_iff (left right : Ty) : same left right = true ↔ left = right := by
  cases left <;> cases right <;> simp only [same, Bool.false_eq_true, reduceCtorEq,
    Bool.and_eq_true, beq_iff_eq, tuple.injEq, function.injEq, native.injEq]
  case tuple.tuple items otherItems => exact sameAll_iff items otherItems
  case native.native name parameters result otherName otherParameters otherResult =>
      rw [sameAll_iff parameters otherParameters, same_iff result otherResult, and_assoc]

theorem sameAll_iff (left right : List Ty) : sameAll left right = true ↔ left = right := by
  cases left with
  | nil => cases right <;> simp [sameAll]
  | cons item items =>
      cases right with
      | nil => simp [sameAll]
      | cons other others =>
          simp only [sameAll, Bool.and_eq_true, List.cons.injEq]
          rw [same_iff item other, sameAll_iff items others]

end

instance : DecidableEq Ty := fun left right =>
  decidable_of_iff (same left right = true) (same_iff left right)

mutual

/-- How a type is shown. -/
def describe : Ty → String
  | number => "number"
  | text => "text"
  | bool => "bool"
  | displayable => "<displayable>"
  | unknown => "<unknown>"
  | tuple items => "(" ++ String.intercalate ", " (describeAll items) ++ ")"
  | function name _ => "fun " ++ name
  | native _ parameters result =>
      "fun(" ++ String.intercalate ", " (describeAll parameters) ++ ") -> " ++ describe result
  | bareNative => "fun"

/-- How several types are shown. -/
def describeAll : List Ty → List String
  | [] => []
  | item :: items => describe item :: describeAll items

end

mutual

/-- Whether every native function type inside a type has its signature. -/
def isComplete : Ty → Bool
  | tuple items => areComplete items
  | native _ parameters result => areComplete parameters && isComplete result
  | bareNative => false
  | _ => true

/-- Whether all types are complete. -/
def areComplete : List Ty → Bool
  | [] => true
  | item :: items => isComplete item && areComplete items

end

/-- How a type is shown, provided that no signature is missing. -/
def describe? (type : Ty) : Except Fault String :=
  if type.isComplete then .ok type.describe else .error .missingSignature

/-- The components of a type that counts as a tuple. -/
def components? : Ty → Option (List Ty)
  | tuple items => some items
  | function name _ => if name = "tuple" then some [] else none
  | _ => none

/-- Whether values of a type can be called. -/
def isCallable : Ty → Bool
  | function _ _ | native _ _ _ | bareNative => true
  | _ => false

mutual

/-- Whether values of a type have a text: all but functions, at every depth. -/
def isDisplayable : Ty → Bool
  | tuple items => areDisplayable items
  | function name _ => name = "tuple"
  | native _ _ _ | bareNative => false
  | _ => true

/-- Whether all types are displayable. -/
def areDisplayable : List Ty → Bool
  | [] => true
  | item :: items => isDisplayable item && areDisplayable items

end

mutual

/-- Whether the unknown type occurs in a type. -/
def hasUnknown : Ty → Bool
  | unknown => true
  | tuple items => anyUnknown items
  | _ => false

/-- Whether the unknown type occurs in one of the types. -/
def anyUnknown : List Ty → Bool
  | [] => false
  | item :: items => hasUnknown item || anyUnknown items

end

mutual

/-- Equality where the unknown type, at any depth of either side, matches
everything. -/
def compatible : Ty → Ty → Bool
  | unknown, _ => true
  | _, unknown => true
  | tuple expected, actual =>
      match actual.components? with
      | some items => compatibleAll expected items
      | none => false
  | function name identifier, actual =>
      if name = "tuple" then actual.components? = some []
      else actual = function name identifier
  | expected, actual => expected = actual

/-- Compatibility, item by item. -/
def compatibleAll : List Ty → List Ty → Bool
  | [], [] => true
  | item :: items, other :: others => compatible item other && compatibleAll items others
  | _, _ => false

end

/-- Whether an argument may be passed where a parameter type is expected. -/
def accepts (expected actual : Ty) : Bool :=
  if expected = displayable then actual.isDisplayable else compatible expected actual

end Ty

/-- The type of a native function with a given signature. -/
def Signature.type (signature : Signature) : Ty :=
  .native signature.name signature.parameters signature.result

end CheckedScript
