import CheckedScript.Decimal.Layout
import CheckedScript.NumberRange
import CheckedScript.Scope
import CheckedScript.Tree

/-!
# Values

What expressions evaluate to, how values are shown and quoted, and when two
values are equal.  A function value refers to the frame it was made in by
number; that frame is made together with the function, so its number also tells
function values apart.  A native function is told apart by the name under which
it is kept.
-/

namespace CheckedScript

/-- A declared function together with the frame it closes over. -/
structure Closure where
  name : String
  parameters : List String
  body : Block
  frame : FrameId

/-- Values of programs. -/
inductive Value where
  | number (value : Float)
  | text (value : String)
  | bool (value : Bool)
  | tuple (items : List Value)
  | function (closure : Closure)
  | native (key : String) (signature : Signature)
  | range (numbers : NumberRange Float)

namespace Value

/-- The empty tuple. -/
def unit : Value :=
  tuple []

mutual

/-- The text of a value. -/
def display : Value → String
  | number value => Decimal.plainText value
  | text value => value
  | bool value => if value then "true" else "false"
  | tuple items => "(" ++ String.intercalate ", " (displayAll items) ++ ")"
  | function closure => "<fun " ++ closure.name ++ ">"
  | native _ signature => "<builtin " ++ signature.name ++ ">"
  | range numbers =>
      Decimal.plainText numbers.start ++ ".." ++ Decimal.plainText numbers.step ++ ".." ++
        Decimal.plainText numbers.stop

/-- The texts of several values. -/
def displayAll : List Value → List String
  | [] => []
  | item :: items => display item :: displayAll items

end

/-- Quoted items of a tuple; a single item is followed by a comma. -/
def quotedTuple : List String → String
  | [item] => "(" ++ item ++ ",)"
  | items => "(" ++ String.intercalate ", " items ++ ")"

mutual

/-- The form of a value inside the text of a fault, which tells texts from
numbers and truth values. -/
def quoted : Value → String
  | number value => Decimal.exactText value
  | text value => Text.quoted value
  | bool value => if value then "True" else "False"
  | tuple items => quotedTuple (quotedAll items)
  | function closure => "Function(" ++ closure.name ++ ")"
  | native _ signature => "BuiltinFunction(" ++ signature.name ++ ")"
  | range numbers =>
      Decimal.exactText numbers.start ++ ".." ++ Decimal.exactText numbers.step ++ ".." ++
        Decimal.exactText numbers.stop

/-- The quoted forms of several values. -/
def quotedAll : List Value → List String
  | [] => []
  | item :: items => quoted item :: quotedAll items

end

/-- A truth value as a number. -/
def truthNumber (value : Bool) : Float :=
  if value then 1 else 0

mutual

/-- Equality of values.  Truth values and numbers are compared as numbers,
tuples item by item; values of different kinds differ.  A number that stands for
none, such as infinity less infinity, differs from itself, in a tuple as well. -/
def equal : Value → Value → Bool
  | number left, number right => left == right
  | number left, bool right => left == truthNumber right
  | bool left, number right => truthNumber left == right
  | bool left, bool right => left == right
  | text left, text right => left == right
  | tuple left, tuple right => equalAll left right
  | function left, function right => left.frame == right.frame
  | native left _, native right _ => left == right
  | range left, range right =>
      left.start == right.start && left.stop == right.stop && left.step == right.step
  | _, _ => false

/-- Equality, item by item. -/
def equalAll : List Value → List Value → Bool
  | [], [] => true
  | left :: lefts, right :: rights => equal left right && equalAll lefts rights
  | _, _ => false

end

end Value

end CheckedScript
