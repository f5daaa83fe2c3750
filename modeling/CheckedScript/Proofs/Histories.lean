import CheckedScript.Proofs.Frames
import Mathlib.Data.List.Find

/-!
# Histories of shared frames

What an operation on the frames grown from one root answers is settled by the operations
before it: which frames were nested in which, where a name was defined, and who wrote to it
last.  `History` reads all that off the list of operations alone.  The frames themselves
obey it: a definition in a frame redirects what is read and written from all frames inside
it, and from no others.
-/

namespace CheckedScript

namespace Scopes

variable {α : Type}

/-- The frame that an operation is performed on. -/
def Operation.target : Operation α → FrameId
  | nest frame | pop frame | depth frame | describe frame => frame
  | define frame _ _ | assign frame _ _ | get frame _ | has frame _ => frame

/-- The operations performed so far, the latest first. -/
abbrev History (α : Type) := List (Operation α)

namespace History

/-- The number of frames.  The root is there from the start. -/
def frameCount : History α → Nat
  | [] => 1
  | .nest _ :: earlier => frameCount earlier + 1
  | _ :: earlier => frameCount earlier

/-- Every operation was performed on a frame that was there. -/
def Valid : History α → Prop
  | [] => True
  | operation :: earlier => operation.target < frameCount earlier ∧ Valid earlier

/-- The frames from a given one to the root. -/
def path : History α → FrameId → List FrameId
  | [], frame => [frame]
  | .nest outer :: earlier, frame =>
      if frame = frameCount earlier then frame :: path earlier outer else path earlier frame
  | _ :: earlier, frame => path earlier frame

/-- The number of nestings between the root and a frame. -/
def nestings : History α → FrameId → Nat
  | [], _ => 0
  | .nest outer :: earlier, frame =>
      if frame = frameCount earlier then nestings earlier outer + 1 else nestings earlier frame
  | _ :: earlier, frame => nestings earlier frame

/-- Whether a name was defined in a frame. -/
def defines : History α → FrameId → String → Bool
  | [], _, _ => false
  | .define target defined _ :: earlier, frame, name =>
      decide (target = frame ∧ defined = name) || defines earlier frame name
  | _ :: earlier, frame, name => defines earlier frame name

/-- The nearest frame on the way to the root in which a name was defined. -/
def owner? (history : History α) (frame : FrameId) (name : String) : Option FrameId :=
  (path history frame).find? fun candidate => defines history candidate name

/-- What the last write to a name in a frame wrote.  A definition writes to its own frame,
an assignment to the frame that owned the name when it was performed. -/
def written? : History α → FrameId → String → Option α
  | [], _, _ => none
  | .define target defined value :: earlier, frame, name =>
      if target = frame ∧ defined = name then some value else written? earlier frame name
  | .assign target assigned value :: earlier, frame, name =>
      if owner? earlier target assigned = some frame ∧ assigned = name then some value
      else written? earlier frame name
  | _ :: earlier, frame, name => written? earlier frame name

variable {history earlier : History α} {frame owner : FrameId} {name : String}

/-- A name is defined in a frame exactly if a definition there is part of the history. -/
theorem defines_iff :
    defines history frame name = true ↔ ∃ value, Operation.define frame name value ∈ history := by
  induction history with
  | nil => simp [defines]
  | cons operation earlier inductionHypothesis =>
      cases operation with
      | define target defined value =>
          simp only [defines, Bool.or_eq_true, decide_eq_true_eq, inductionHypothesis,
            List.mem_cons, Operation.define.injEq]
          constructor
          · rintro (⟨rfl, rfl⟩ | ⟨other, member⟩)
            · exact ⟨value, .inl ⟨rfl, rfl, rfl⟩⟩
            · exact ⟨other, .inr member⟩
          · rintro ⟨other, ⟨rfl, rfl, -⟩ | member⟩
            · exact .inl ⟨rfl, rfl⟩
            · exact .inr ⟨other, member⟩
      | nest | pop | assign | get | has | depth | describe =>
          simp [defines, inductionHypothesis]

/-- A name has been written to in the frames in which it was defined, and in no others. -/
theorem isSome_written? (history : History α) (frame : FrameId) (name : String) :
    (written? history frame name).isSome = defines history frame name := by
  induction history generalizing frame name with
  | nil => rfl
  | cons operation earlier inductionHypothesis =>
      cases operation with
      | define target defined value =>
          rw [written?, defines]
          split
          · next same => simp [same]
          · next different => simp [different, inductionHypothesis]
      | assign target assigned value =>
          change (written? _ frame name).isSome = defines earlier frame name
          rw [written?]
          split
          · next written =>
              obtain ⟨owns, rfl⟩ := written
              exact (List.find?_some owns).symm
          · exact inductionHypothesis frame name
      | nest | pop | get | has | depth | describe => exact inductionHypothesis frame name

theorem Valid.of_append {later : History α} (valid : Valid (later ++ earlier)) : Valid earlier := by
  induction later with
  | nil => exact valid
  | cons operation later inductionHypothesis => exact inductionHypothesis valid.2

/-- The way to the root leads over frames that are there. -/
theorem lt_of_mem_path (valid : Valid history) (present : frame < frameCount history)
    (member : owner ∈ path history frame) : owner < frameCount history := by
  induction history generalizing frame with
  | nil =>
      obtain rfl := List.mem_singleton.1 member
      exact present
  | cons operation earlier inductionHypothesis =>
      obtain ⟨there, validEarlier⟩ := valid
      cases operation with
      | nest outer =>
          rw [path] at member
          split at member
          · rcases List.mem_cons.1 member with rfl | inside
            · exact present
            · exact Nat.lt_succ_of_lt (inductionHypothesis validEarlier there inside)
          · next old =>
              have before : frame < frameCount earlier :=
                Nat.lt_of_le_of_ne (Nat.le_of_lt_succ present) old
              exact Nat.lt_succ_of_lt (inductionHypothesis validEarlier before member)
      | pop | define | assign | get | has | depth | describe =>
          exact inductionHypothesis validEarlier present member

theorem lt_of_owner? (valid : Valid history) (present : frame < frameCount history)
    (owns : owner? history frame name = some owner) : owner < frameCount history :=
  lt_of_mem_path valid present (List.mem_of_find?_eq_some owns)

/-- Nobody has written to a frame that is not there. -/
theorem written?_of_le (valid : Valid history) (absent : frameCount history ≤ frame) :
    written? history frame name = none := by
  induction history with
  | nil => rfl
  | cons operation earlier inductionHypothesis =>
      obtain ⟨there, validEarlier⟩ := valid
      cases operation with
      | nest => exact inductionHypothesis validEarlier (Nat.le_of_succ_le absent)
      | define target defined value =>
          have different : ¬ (target = frame ∧ defined = name) := fun same =>
            Nat.not_lt_of_le absent (same.1 ▸ there)
          rw [written?, if_neg different]
          exact inductionHypothesis validEarlier absent
      | assign target assigned value =>
          have targetPresent : target < frameCount earlier := there
          have different : ¬ (owner? earlier target assigned = some frame ∧ assigned = name) := by
            intro same
            have framePresent : frame < frameCount earlier :=
              lt_of_owner? validEarlier targetPresent same.1
            exact Nat.not_lt_of_le absent framePresent
          rw [written?, if_neg different]
          exact inductionHypothesis validEarlier absent
      | pop | get | has | depth | describe => exact inductionHypothesis validEarlier absent

/-- The way to the root has one frame for every nesting, and the root. -/
theorem length_path (history : History α) (frame : FrameId) :
    (path history frame).length = nestings history frame + 1 := by
  induction history generalizing frame with
  | nil => rfl
  | cons operation earlier inductionHypothesis =>
      cases operation with
      | nest outer =>
          rw [path, nestings]
          split
          · rw [List.length_cons, inductionHypothesis]
          · exact inductionHypothesis frame
      | pop | define | assign | get | has | depth | describe => exact inductionHypothesis frame

end History

open History

/-- Frames that are as their history says. -/
structure Represents (scopes : Scopes α) (history : History α) : Prop where
  size : scopes.frames.size = frameCount history
  path : ∀ frame < frameCount history, scopes.path frame = History.path history frame
  bindings : ∀ frame < frameCount history, ∀ name,
    (scopes.bindings frame).get? name = written? history frame name

namespace Represents

variable {scopes : Scopes α} {history : History α} {frame : FrameId}

theorem has (represents : scopes.Represents history) (present : frame < frameCount history)
    (name : String) : scopes.has frame name = defines history frame name := by
  rw [Scopes.has, represents.bindings frame present, isSome_written?]

theorem owner? (represents : scopes.Represents history) (valid : Valid history)
    (present : frame < frameCount history) (name : String) :
    scopes.owner? frame name = History.owner? history frame name := by
  unfold Scopes.owner? History.owner?
  rw [represents.path frame present]
  have same : ∀ candidate ∈ History.path history frame,
      scopes.has candidate name = defines history candidate name := fun candidate member =>
    represents.has (lt_of_mem_path valid present member) name
  exact List.find?_congr same

/-- What is found first on a way is what the first frame with the name binds it to. -/
theorem findSome?_eq (frames : List FrameId) (bound : FrameId → Option α) :
    frames.findSome? bound = (frames.find? fun frame => (bound frame).isSome).bind bound := by
  induction frames with
  | nil => rfl
  | cons frame frames inductionHypothesis =>
      cases found : bound frame with
      | none => simpa [found] using inductionHypothesis
      | some value => simp [found]

theorem get? (represents : scopes.Represents history) (valid : Valid history)
    (present : frame < frameCount history) (name : String) :
    scopes.get? frame name =
      (History.owner? history frame name).bind fun owner => written? history owner name := by
  rw [← represents.owner? valid present, Scopes.get?, findSome?_eq]
  refine Option.bind_congr fun owner owns => ?_
  have member := List.mem_of_find?_eq_some owns
  rw [represents.path frame present] at member
  exact represents.bindings owner (lt_of_mem_path valid present member) name

theorem depth (represents : scopes.Represents history) (present : frame < frameCount history) :
    scopes.depth frame = nestings history frame := by
  have length := congrArg List.length (represents.path frame present)
  rw [length_path, Scopes.path, List.length_cons] at length
  exact Nat.succ.inj length

theorem root : (Scopes.root : Scopes α).Represents [] where
  size := rfl
  path frame present := by
    obtain rfl := Nat.lt_one_iff.1 present
    rfl
  bindings frame present name := by
    obtain rfl := Nat.lt_one_iff.1 present
    rfl

theorem nest (represents : scopes.Represents history) (valid : Valid history) {outer : FrameId}
    (present : outer < frameCount history) :
    (scopes.nest outer).2.Represents (.nest outer :: history) where
  size := (size_frames_nest ..).trans (congrArg (· + 1) represents.size)
  path frame there := by
    rw [History.path]
    split
    · next new =>
        have inside := ancestors_nest scopes outer
        rw [fst_nest, represents.size] at inside
        rw [new, Scopes.path, inside, represents.path outer present]
    · next old =>
        have before : frame < frameCount history :=
          Nat.lt_of_le_of_ne (Nat.le_of_lt_succ there) old
        rw [Scopes.path, ancestors_nest_of_lt scopes outer (represents.size ▸ before)]
        exact represents.path frame before
  bindings frame there name := by
    change _ = written? history frame name
    by_cases new : frame = frameCount history
    · have empty := bindings_nest scopes outer
      rw [fst_nest, represents.size] at empty
      rw [new, empty, written?_of_le valid (Nat.le_refl _)]
      rfl
    · have before : frame < frameCount history :=
        Nat.lt_of_le_of_ne (Nat.le_of_lt_succ there) new
      rw [bindings_nest_of_lt scopes outer (represents.size ▸ before)]
      exact represents.bindings frame before name

/-- A write to a frame shows there under its name and nowhere else. -/
theorem get?_bindings_define (scopes : Scopes α) {target : FrameId}
    (present : target < scopes.frames.size) (frame : FrameId) (defined name : String) (value : α) :
    ((scopes.define target defined value).bindings frame).get? name =
      if target = frame ∧ defined = name then some value
      else (scopes.bindings frame).get? name := by
  rw [bindings_define scopes present]
  by_cases same : target = frame
  · subst same
    rw [if_pos rfl, Table.get?_set]
    simp
  · rw [if_neg same, if_neg fun both => same both.1]

theorem define (represents : scopes.Represents history) {target : FrameId}
    (present : target < frameCount history) (defined : String) (value : α) :
    (scopes.define target defined value).Represents (.define target defined value :: history) where
  size := (size_frames_define ..).trans represents.size
  path frame there := by
    rw [path_define]
    exact represents.path frame there
  bindings frame there name := by
    rw [get?_bindings_define scopes (represents.size ▸ present), written?,
      represents.bindings frame there]

theorem assign (represents : scopes.Represents history) (valid : Valid history) {target : FrameId}
    (present : target < frameCount history) (assigned : String) (value : α) :
    (scopes.perform (.assign target assigned value)).2.Represents
      (.assign target assigned value :: history) := by
  rw [perform, assign?, represents.owner? valid present]
  cases owns : History.owner? history target assigned with
  | none =>
      refine ⟨represents.size, represents.path, fun frame there name => ?_⟩
      rw [written?, owns, if_neg (by simp)]
      exact represents.bindings frame there name
  | some owner =>
      have ownerPresent := lt_of_owner? valid present owns
      have defined := represents.define ownerPresent assigned value
      refine ⟨defined.size, defined.path, fun frame there name => ?_⟩
      rw [defined.bindings frame there name, written?, written?, owns]
      simp

/-- One step keeps the frames as their history says. -/
theorem perform (represents : scopes.Represents history) (valid : Valid history)
    (operation : Operation α) (present : operation.target < frameCount history) :
    (scopes.perform operation).2.Represents (operation :: history) := by
  cases operation with
  | nest outer => exact represents.nest valid present
  | define target name value => exact represents.define present name value
  | assign target name value => exact represents.assign valid present name value
  | pop target =>
      have same : (scopes.perform (.pop target)).2 = scopes := by
        rw [Scopes.perform]
        cases scopes.parent? target <;> rfl
      rw [same]
      exact ⟨represents.size, represents.path, represents.bindings⟩
  | get | has | depth | describe =>
      exact ⟨represents.size, represents.path, represents.bindings⟩

/-- A run of operations keeps the frames as their history says. -/
theorem performAll (represents : scopes.Represents history) (operations : List (Operation α))
    (valid : Valid (operations.reverse ++ history)) :
    (scopes.performAll operations).2.Represents (operations.reverse ++ history) := by
  induction operations generalizing scopes history with
  | nil => exact represents
  | cons operation operations inductionHypothesis =>
      rw [List.reverse_cons, List.append_assoc] at valid ⊢
      obtain ⟨present, validHistory⟩ := valid.of_append
      exact inductionHypothesis (represents.perform validHistory operation present) valid

end Represents

/-- After a history, every operation on a frame answers and does what the history says. -/
structure Obeys (scopes : Scopes α) (history : History α) : Prop where
  nest : ∀ outer < frameCount history,
    (scopes.perform (.nest outer)).1 = .frame (frameCount history) ∧
      ∀ frame < frameCount history,
        (scopes.perform (.nest outer)).2.bindings frame = scopes.bindings frame
  pop : ∀ frame < frameCount history,
    scopes.perform (.pop frame) =
      match (History.path history frame).tail with
      | [] => (.refused .rootHasNoParent, scopes)
      | parent :: _ => (.frame parent, scopes)
  /-- A definition writes to the frame itself and to no other. -/
  define : ∀ frame < frameCount history, ∀ name value,
    (scopes.perform (.define frame name value)).1 = .done ∧
      ∀ other written, ((scopes.perform (.define frame name value)).2.bindings other).get? written =
        if frame = other ∧ name = written then some value
        else (scopes.bindings other).get? written
  /-- An assignment succeeds if the name has an owner, and changes the name only there. -/
  assign_owned : ∀ frame < frameCount history, ∀ name value owner,
    History.owner? history frame name = some owner →
    (scopes.perform (.assign frame name value)).1 = .done ∧
      ∀ other written, ((scopes.perform (.assign frame name value)).2.bindings other).get? written =
        if owner = other ∧ name = written then some value
        else (scopes.bindings other).get? written
  assign_unowned : ∀ frame < frameCount history, ∀ name value, History.owner? history frame name = none →
    scopes.perform (.assign frame name value) = (.refused (.undefinedName name), scopes)
  /-- A name means what was last written to it in the frame that owns it. -/
  get_owned : ∀ frame < frameCount history, ∀ name owner, History.owner? history frame name = some owner →
    ∃ value, written? history owner name = some value ∧
      scopes.perform (.get frame name) = (.value (some value), scopes)
  get_unowned : ∀ frame < frameCount history, ∀ name, History.owner? history frame name = none →
    scopes.perform (.get frame name) = (.value none, scopes)
  has : ∀ frame < frameCount history, ∀ name,
    scopes.perform (.has frame name) = (.truth (defines history frame name), scopes)
  depth : ∀ frame < frameCount history,
    scopes.perform (.depth frame) = (.count (nestings history frame), scopes)

theorem Represents.obeys {scopes : Scopes α} {history : History α}
    (represents : scopes.Represents history) (valid : Valid history) : scopes.Obeys history where
  nest outer present := by
    refine ⟨congrArg Answer.frame represents.size, fun frame there => ?_⟩
    exact bindings_nest_of_lt scopes outer (represents.size ▸ there)
  pop frame present := by
    rw [← represents.path frame present, Scopes.perform, parent?, Scopes.path, List.tail_cons]
    cases scopes.ancestors frame <;> rfl
  define frame present name value :=
    ⟨rfl, fun other written =>
      get?_bindings_define scopes (represents.size ▸ present) other name written value⟩
  assign_owned frame present name value owner owns := by
    have there := lt_of_owner? valid present owns
    rw [Scopes.perform, assign?, represents.owner? valid present, owns]
    exact ⟨rfl, fun other written =>
      get?_bindings_define scopes (represents.size ▸ there) other name written value⟩
  assign_unowned frame present name value owns := by
    rw [Scopes.perform, assign?, represents.owner? valid present, owns]
  get_owned frame present name owner owns := by
    have defined := List.find?_some owns
    rw [← isSome_written?] at defined
    obtain ⟨value, written⟩ := Option.isSome_iff_exists.1 defined
    refine ⟨value, written, ?_⟩
    rw [Scopes.perform, represents.get? valid present, owns, Option.bind_some, written]
  get_unowned frame present name owns := by
    rw [Scopes.perform, represents.get? valid present, owns, Option.bind_none]
  has frame present name := by
    rw [Scopes.perform, represents.has present]
  depth frame present := by
    rw [Scopes.perform, represents.depth present]

/-- Scoping is lexical over any history: whatever operations were performed on the frames
grown from one root, the frames obey their history. -/
theorem performAll_obeys_history {operations : List (Operation α)}
    (valid : Valid operations.reverse) :
    (Scopes.root.performAll operations).2.Obeys operations.reverse := by
  have represents := Represents.root.performAll operations (by rwa [List.append_nil])
  rw [List.append_nil] at represents
  exact represents.obeys valid

/-- A name that is defined late in a middle frame redirects what is read inside it. -/
theorem performAll_obeys_history_late :
    let operations : List (Operation Bool) :=
      [.define 0 "x" true, .nest 0, .nest 1, .nest 0, .define 1 "x" false, .assign 2 "x" true,
        .assign 3 "x" false]
    let scopes := (Scopes.root.performAll operations).2
    scopes.perform (.get 2 "x") = (.value (some true), scopes) ∧
      scopes.perform (.get 3 "x") = (.value (some false), scopes) := by
  intro operations scopes
  have valid : Valid operations.reverse := by
    simp [operations, Valid, Operation.target, frameCount]
  have obeys := performAll_obeys_history valid
  obtain ⟨inner, writtenInner, gotInner⟩ := obeys.get_owned 2 (by decide) "x" 1 (by decide)
  obtain ⟨outer, writtenOuter, gotOuter⟩ := obeys.get_owned 3 (by decide) "x" 0 (by decide)
  have lastInner : written? operations.reverse 1 "x" = some true := by decide
  have lastOuter : written? operations.reverse 0 "x" = some false := by decide
  obtain rfl := Option.some.inj (lastInner.symm.trans writtenInner)
  obtain rfl := Option.some.inj (lastOuter.symm.trans writtenOuter)
  exact ⟨gotInner, gotOuter⟩

end Scopes

end CheckedScript
