import CheckedScript.Fault
import CheckedScript.Table
import CheckedScript.Text.Quoted

/-!
# Lexical scopes

Scopes are frames of bindings.  All frames live in one `Scopes` value and are
referred to by number, so a frame can be shared: whoever holds the number of a
frame sees later writes to it.  A frame knows its ancestors, the nearest first,
and never gets others.  A name belongs to the nearest frame on the path from a
frame to its root that binds it.

`Scopes.perform` runs one operation of a history and says what it answers.
-/

namespace CheckedScript

/-- The number of a frame. -/
abbrev FrameId := Nat

/-- Names with what they are bound to. -/
abbrev Bindings (α : Type) := Table String α

/-- One frame: its ancestors, the nearest first, and its bindings. -/
structure Frame (α : Type) where
  ancestors : List FrameId
  bindings : Bindings α

/-- All frames; a frame's number is its index. -/
structure Scopes (α : Type) where
  frames : Array (Frame α) := #[]

namespace Scopes

variable {α : Type}

/-- The ancestors of a frame, the nearest first. -/
def ancestors (scopes : Scopes α) (frame : FrameId) : List FrameId :=
  match scopes.frames[frame]? with
  | some found => found.ancestors
  | none => []

/-- The bindings of a frame itself. -/
def bindings (scopes : Scopes α) (frame : FrameId) : Bindings α :=
  match scopes.frames[frame]? with
  | some found => found.bindings
  | none => []

/-- The frames in which a name is looked for, in order. -/
def path (scopes : Scopes α) (frame : FrameId) : List FrameId :=
  frame :: scopes.ancestors frame

/-- Whether a frame itself binds a name. -/
def has (scopes : Scopes α) (frame : FrameId) (name : String) : Bool :=
  ((scopes.bindings frame).get? name).isSome

/-- The nearest frame that binds a name. -/
def owner? (scopes : Scopes α) (frame : FrameId) (name : String) : Option FrameId :=
  (scopes.path frame).find? fun candidate => scopes.has candidate name

/-- What a name means in a frame. -/
def get? (scopes : Scopes α) (frame : FrameId) (name : String) : Option α :=
  (scopes.path frame).findSome? fun candidate => (scopes.bindings candidate).get? name

/-- The nearest ancestor of a frame. -/
def parent? (scopes : Scopes α) (frame : FrameId) : Option FrameId :=
  (scopes.ancestors frame).head?

/-- The number of ancestors of a frame. -/
def depth (scopes : Scopes α) (frame : FrameId) : Nat :=
  (scopes.ancestors frame).length

/-- Add an empty frame with given ancestors; its number comes first. -/
def add (scopes : Scopes α) (ancestors : List FrameId) : FrameId × Scopes α :=
  (scopes.frames.size,
    { frames := scopes.frames.push { ancestors := ancestors, bindings := [] } })

/-- Add a frame without ancestors. -/
def addRoot (scopes : Scopes α) : FrameId × Scopes α :=
  scopes.add []

/-- Add a frame inside another one. -/
def nest (scopes : Scopes α) (frame : FrameId) : FrameId × Scopes α :=
  scopes.add (scopes.path frame)

/-- A new frame lies right inside the frame it was made in. -/
theorem ancestors_nest (scopes : Scopes α) (frame : FrameId) :
    (scopes.nest frame).2.ancestors (scopes.nest frame).1 = scopes.path frame := by
  simp [nest, add, ancestors]

/-- A new frame binds nothing. -/
theorem bindings_nest (scopes : Scopes α) (frame : FrameId) :
    (scopes.nest frame).2.bindings (scopes.nest frame).1 = [] := by
  simp [nest, add, bindings]

/-- Adding a frame leaves the earlier ones as they were. -/
theorem getElem?_frames_add (scopes : Scopes α) (ancestors : List FrameId) {frame : FrameId}
    (present : frame < scopes.frames.size) :
    (scopes.add ancestors).2.frames[frame]? = scopes.frames[frame]? := by
  simp [add, Array.getElem?_push, Nat.ne_of_lt present]

/-- Bind a name in a frame itself. -/
def define (scopes : Scopes α) (frame : FrameId) (name : String) (value : α) : Scopes α where
  frames :=
    scopes.frames.modify frame fun found =>
      { found with bindings := found.bindings.set name value }

@[simp]
theorem size_frames_define (scopes : Scopes α) (frame : FrameId) (name : String)
    (value : α) : (scopes.define frame name value).frames.size = scopes.frames.size := by
  simp [define]

/-- A write moves no frame. -/
@[simp]
theorem ancestors_define (scopes : Scopes α) (frame other : FrameId) (name : String)
    (value : α) : (scopes.define frame name value).ancestors other = scopes.ancestors other := by
  unfold ancestors define
  rw [Array.getElem?_modify]
  by_cases same : frame = other
  · subst same
    cases scopes.frames[frame]? <;> simp
  · simp [same]

/-- A write shows in the frame it was made in and in no other. -/
theorem bindings_define (scopes : Scopes α) {frame : FrameId}
    (present : frame < scopes.frames.size) (other : FrameId) (name : String) (value : α) :
    (scopes.define frame name value).bindings other =
      if frame = other then (scopes.bindings frame).set name value
      else scopes.bindings other := by
  unfold bindings define
  rw [Array.getElem?_modify]
  by_cases same : frame = other
  · subst same
    simp [present]
  · simp [same]

/-- Bind several names in a frame itself, one after the other. -/
def defineAll (scopes : Scopes α) (frame : FrameId) (bindings : Bindings α) : Scopes α :=
  bindings.foldl (fun scopes (name, value) => scopes.define frame name value) scopes

/-- Write to the nearest frame that binds a name. -/
def assign? (scopes : Scopes α) (frame : FrameId) (name : String) (value : α) :
    Option (Scopes α) :=
  match scopes.owner? frame name with
  | some owner => some (scopes.define owner name value)
  | none => none

/-- The names a frame itself binds, in alphabetical order. -/
def names (scopes : Scopes α) (frame : FrameId) : List String :=
  ((scopes.bindings frame).map (·.1)).mergeSort fun first second => first ≤ second

/-- A frame's depth and names as a text. -/
def describe (scopes : Scopes α) (frame : FrameId) : String :=
  "Environment(depth=" ++ toString (scopes.depth frame) ++ ", names=[" ++
    String.intercalate ", " ((scopes.names frame).map Text.quoted) ++ "])"

/-- Why an operation on scopes is refused. -/
inductive Refusal where
  | rootHasNoParent
  | undefinedName (name : String)
  deriving DecidableEq, Repr

/-- The text of a refusal. -/
def Refusal.message : Refusal → String
  | rootHasNoParent => "cannot pop the root scope"
  | undefinedName name => (Fault.unassignable name).description

/-- Operations on the frames grown from one root. -/
inductive Operation (α : Type) where
  | nest (frame : FrameId)
  | pop (frame : FrameId)
  | define (frame : FrameId) (name : String) (value : α)
  | assign (frame : FrameId) (name : String) (value : α)
  | get (frame : FrameId) (name : String)
  | has (frame : FrameId) (name : String)
  | depth (frame : FrameId)
  | describe (frame : FrameId)

/-- What an operation answers. -/
inductive Answer (α : Type) where
  | frame (frame : FrameId)
  | done
  | value (value : Option α)
  | truth (holds : Bool)
  | count (count : Nat)
  | text (text : String)
  | refused (refusal : Refusal)

/-- Run one operation. -/
def perform (scopes : Scopes α) : Operation α → Answer α × Scopes α
  | .nest frame =>
      let (created, grown) := scopes.nest frame
      (.frame created, grown)
  | .pop frame =>
      match scopes.parent? frame with
      | some parent => (.frame parent, scopes)
      | none => (.refused .rootHasNoParent, scopes)
  | .define frame name value => (.done, scopes.define frame name value)
  | .assign frame name value =>
      match scopes.assign? frame name value with
      | some written => (.done, written)
      | none => (.refused (.undefinedName name), scopes)
  | .get frame name => (.value (scopes.get? frame name), scopes)
  | .has frame name => (.truth (scopes.has frame name), scopes)
  | .depth frame => (.count (scopes.depth frame), scopes)
  | .describe frame => (.text (scopes.describe frame), scopes)

/-- Run a history of operations and collect the answers. -/
def performAll (scopes : Scopes α) : List (Operation α) → List (Answer α) × Scopes α
  | [] => ([], scopes)
  | operation :: operations =>
      let (answer, after) := scopes.perform operation
      let (answers, final) := after.performAll operations
      (answer :: answers, final)

/-- One empty root frame, which has the number zero. -/
def root : Scopes α :=
  (Scopes.addRoot {}).2

end Scopes

end CheckedScript
