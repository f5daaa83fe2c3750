import CheckedScript.Evaluation.Evaluate
import CheckedScript.Text.Cluster
import CheckedScript.Token.Scanner
import CheckedScript.Tree.Reader.Statement
import CheckedScript.Typing.Check

/-!
# From source text to value

A source text is scanned, read, checked and run.  Each phase has to succeed
before the next one starts.  Only scanning depends on how the text is cut into
clusters.  The functions at the end of the module do all this with the standard
segmentation.
-/

namespace CheckedScript

/-- The signatures of native functions under the names they are kept under. -/
def Native.signatures (natives : List Native) : Bindings Signature :=
  natives.map fun native => (native.key, native.signature)

/-- Run a program on a new machine, with or without checking it first. -/
def Program.run (program : Program) (natives : List Native) (fuel : Nat) (checked : Bool) :
    RunResult × Evaluation.Machine :=
  let machine := Evaluation.Machine.start natives
  if checked then
    match (({} : Typing.State).check fuel (Native.signatures natives) program).1 with
    | .accepted _ => machine.run natives fuel program
    | .rejected rejection => (.rejected rejection, machine)
    | .faulted fault => (.faulted fault, machine)
    | .exhausted => (.exhausted, machine)
  else
    machine.run natives fuel program

namespace Segmentation

variable (segmentation : Segmentation)

/-- Read a source text as a program. -/
def parse (source : String) : Except Rejection Program := do
  let stream ← segmentation.tokenize source
  Program.read stream.toList

/-- Run a source text on a new machine, with or without checking it first. -/
def run (source : String) (natives : List Native) (fuel : Nat) (checked : Bool) :
    RunResult × Evaluation.Machine :=
  match segmentation.parse source with
  | .error rejection => (.rejected rejection, Evaluation.Machine.start natives)
  | .ok program => program.run natives fuel checked

/-- Run a source text, unchecked, after others on a machine. -/
def resume (machine : Evaluation.Machine) (source : String) (natives : List Native)
    (fuel : Nat) : RunResult × Evaluation.Machine :=
  match segmentation.parse source with
  | .error rejection =>
      (.rejected rejection, { machine with console := { machine.console with output := "" } })
  | .ok program => machine.run natives fuel program

end Segmentation

/-- Attach source lines, and the name of the source if given, to a rejection. -/
def RunResult.annotate (source : String) (file : Option String) : RunResult → RunResult
  | rejected rejection => rejected (rejection.annotate source file)
  | other => other

section Standard

/-- Cut a source text into tokens. -/
def tokenize (source : String) : Except Rejection TokenStream :=
  Segmentation.standard.tokenize source

/-- Read a source text as a program. -/
def Program.ofSource (source : String) : Except Rejection Program :=
  Segmentation.standard.parse source

/-- Run a source text on a new machine, with or without checking it first. -/
def runSource (source : String) (natives : List Native) (fuel : Nat) (checked : Bool) :
    RunResult × Evaluation.Machine :=
  Segmentation.standard.run source natives fuel checked

/-- Run a source text, unchecked, after others on a machine. -/
def Evaluation.Machine.runSource (machine : Machine) (source : String)
    (natives : List Native) (fuel : Nat) : RunResult × Machine :=
  Segmentation.standard.resume machine source natives fuel

/-- The text of a diagnostic. -/
def Diagnostic.render (diagnostic : Diagnostic) : String :=
  Segmentation.standard.render diagnostic

/-- The texts of several diagnostics, one below the other. -/
def Diagnostic.renderAll (diagnostics : List Diagnostic) : String :=
  Segmentation.standard.renderAll diagnostics

/-- The text of a rejection. -/
def Rejection.render (rejection : Rejection) : String :=
  Segmentation.standard.renderAll rejection.diagnostics

end Standard

end CheckedScript
