import CheckedScript.Value

/-!
# Native functions

A native function has a signature for the checker and a behaviour: it maps
argument values and the state of the console to a result and a new state of the
console.  It may also fail for a reason, which a program's author gets to see,
or abort the run altogether.  The console collects what is written and counts
how often the clock has been read.  What a clock shows and whether an output takes
a text are up to the world outside, so both are parameters.
-/

namespace CheckedScript

/-- The outside world of a run. -/
structure Console where
  output : String := ""
  ticks : Nat := 0

/-- What becomes of a text that is written: the reason if it is refused, and the
console afterwards. -/
abbrev Writing := String → Console → Option String × Console

/-- An output that takes every text. -/
def Console.take : Writing := fun text console =>
  (none, { console with output := console.output ++ text })

/-- How a native function ends. -/
inductive NativeResult where
  | value (value : Value)
  | failed (reason : String)
  | aborted (reason : String)

/-- A native function and the name it is kept under, which need not be the name
in its signature. -/
structure Native where
  key : String
  signature : Signature
  run : List Value → Console → NativeResult × Console

namespace Native

/-- The value that stands for a native function. -/
def value (native : Native) : Value :=
  .native native.key native.signature

/-- Write a value and a line end.  The call fails if the output refuses them. -/
def printTo (write : Writing) : Native where
  key := "print"
  signature := { name := "print", parameters := [.displayable], result := .unit }
  run values console :=
    match write (String.join (values.map fun value => value.display ++ "\n")) console with
    | (none, after) => (.value .unit, after)
    | (some reason, after) => (.failed reason, after)

/-- Write to an output that takes every text. -/
def print : Native :=
  printTo Console.take

/-- A clock with given readings. -/
def clockReading (readings : Nat → Float) : Native where
  key := "clock"
  signature := { name := "clock", parameters := [], result := .number }
  run _ console :=
    (.value (.number (readings console.ticks)), { console with ticks := console.ticks + 1 })

/-- A clock that never stands still and never goes back. -/
def clock : Native :=
  clockReading fun ticks => Float.ofNat (ticks + 1)

/-- The native functions every program has. -/
def defaults : List Native :=
  [print, clock]

/-- The native function kept under a name. -/
def find? (natives : List Native) (key : String) : Option Native :=
  natives.find? fun native => native.key == key

end Native

end CheckedScript
