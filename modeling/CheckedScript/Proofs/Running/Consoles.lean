import CheckedScript.Proofs.Running.Upkeep

/-!
# What runs do to the console

Only native functions touch the console.  So a run keeps whatever is known of the console and
kept by every native function, for instance what has been written so far.
-/

namespace CheckedScript

namespace Eval

open Evaluation

variable {holds : Console → Prop} {natives : List Native}

/-- A computation that keeps what is known of the console. -/
abbrev Watched {α : Type} (holds : Console → Prop) (computation : Eval α) : Prop :=
  Upholds (fun machine => holds machine.console) computation

theorem watched_define (frame : FrameId) (bindings : Bindings Value) :
    Watched holds (define frame bindings) :=
  fun _ known => ⟨trivial, known⟩

theorem watched_assign (frame : FrameId) (name : String) (value : Value) :
    Watched holds (assign frame name value) := by
  intro machine known
  unfold assign
  dsimp only
  split
  · exact ⟨trivial, known⟩
  · exact ⟨trivial, known⟩

theorem watched_callNative {native : Native}
    (keeps : ∀ values console, holds console → holds (native.run values console).2)
    (arguments : List Value) (paren : Token) :
    Watched holds (callNative native arguments paren) := by
  rintro ⟨scopes, console⟩ known
  have written := keeps arguments console known
  unfold callNative
  cases ended : (native.run arguments console).1 with
  | value | failed | aborted =>
      simp only [ended]
      exact ⟨trivial, written⟩

/-- The console does not depend on frames, and so all of them may be open. -/
theorem stepsWatched (keep : ∀ native ∈ natives, ∀ values console, holds console →
    holds (native.run values console).2) :
    StepsUphold (fun machine => holds machine.console) (fun _ => True) natives where
  nest _ _ known := ⟨trivial, known⟩
  define frame bindings _ := watched_define frame bindings
  assign := watched_assign
  callNative native member := watched_callNative (keep native member)

end Eval

/-- What a console has shown is still there, and other output may have followed. -/
def Console.Continues (console other : Console) : Prop :=
  ∃ rest, other.output = console.output ++ rest

namespace Console.Continues

theorem refl (console : Console) : console.Continues console :=
  ⟨"", (String.append_empty).symm⟩

theorem trans {first second third : Console} (early : first.Continues second)
    (late : second.Continues third) : first.Continues third := by
  obtain ⟨rest, written⟩ := early
  obtain ⟨more, further⟩ := late
  exact ⟨rest ++ more, by rw [further, written, String.append_assoc]⟩

end Console.Continues

/-- A native function that takes nothing back from the console. -/
def Native.Appends (native : Native) : Prop :=
  ∀ values (console : Console), console.Continues (native.run values console).2

end CheckedScript
