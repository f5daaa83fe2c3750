import CheckedScript.Proofs.Running.Leaks
import CheckedScript.Proofs.Soundness.Judgements
import Mathlib.Data.List.Find

/-!
# Stores of types

A store says of which type the bindings of the frames of a run are.  It fits scopes if these
bind what it names to values of such types, and if every function value finds from its frame
on what its function is said to see.  A view is seen from a frame if each of its names belongs
to a frame that the store knows it in.

An assignment changes no store.  A declaration changes the store at one frame, and none of the
frames that function values refer to is open to declarations, so what these see stays.
-/

namespace CheckedScript

open Typing Evaluation

namespace Scopes

variable {start scopes : Scopes Value} {isOpen : FrameId → Prop} {frame : FrameId}

theorem lt_size_of_bound {name : String} {value : Value}
    (bound : (scopes.bindings frame).get? name = some value) : frame < scopes.frames.size := by
  refine Nat.lt_of_not_le fun absent => ?_
  rw [Scopes.bindings, Array.getElem?_eq_none absent] at bound
  cases bound

theorem has_of_bound {name : String} {value : Value}
    (bound : (scopes.bindings frame).get? name = some value) : scopes.has frame name = true := by
  rw [has, bound]
  rfl

theorem has_owner? {name : String} {owner : FrameId}
    (owns : scopes.owner? frame name = some owner) :
    scopes.has owner name = true ∧ owner ∈ scopes.path frame :=
  ⟨List.find?_some (p := fun candidate => scopes.has candidate name) owns,
    List.mem_of_find?_eq_some owns⟩

/-- Scopes in which no frame has been moved, and in which frames that are not open to
declarations bind the names that they bound before. -/
structure Kept (isOpen : FrameId → Prop) (start scopes : Scopes Value) : Prop where
  grown : start.Grown scopes
  spared : Spared isOpen start scopes

namespace Kept

/-- Only the frames to be made are open. -/
theorem refl (scopes : Scopes Value) :
    Kept (fun frame => scopes.frames.size ≤ frame) scopes scopes :=
  ⟨.refl _, .refl _⟩

theorem nest (kept : Kept isOpen start scopes) (frame : FrameId) :
    Kept isOpen start (scopes.nest frame).2 :=
  ⟨kept.grown.trans (.nest _ _), kept.spared.nest frame⟩

theorem define {name : String} (kept : Kept isOpen start scopes)
    (allowed : isOpen frame ∨ scopes.has frame name = true) (value : Value) :
    Kept isOpen start (scopes.define frame name value) :=
  ⟨kept.grown.trans (.define _ _ _ _), kept.spared.define allowed value⟩

theorem defineAll (kept : Kept isOpen start scopes) (opened : isOpen frame)
    (bindings : Bindings Value) : Kept isOpen start (scopes.defineAll frame bindings) :=
  ⟨kept.grown.trans (.defineAll _ _ _), kept.spared.defineAll opened bindings⟩

/-- A name belongs to the same frame as long as no frame on the way is open. -/
theorem owner? (kept : Kept isOpen start scopes) (present : frame < start.frames.size)
    (closed : ∀ candidate ∈ start.path frame, ¬ isOpen candidate) (name : String) :
    scopes.owner? frame name = start.owner? frame name := by
  unfold Scopes.owner?
  rw [kept.grown.path present]
  exact List.find?_congr fun candidate member =>
    kept.spared.names candidate name (closed candidate member)

end Kept

/-- A new frame binds nothing, so a name belongs to the same frame from there. -/
theorem owner?_nest (ordered : scopes.Ordered) (present : frame < scopes.frames.size)
    (name : String) :
    (scopes.nest frame).2.owner? scopes.frames.size name = scopes.owner? frame name := by
  have inside : (scopes.nest frame).2.path scopes.frames.size =
      scopes.frames.size :: scopes.path frame :=
    congrArg (scopes.frames.size :: ·) (ancestors_nest scopes frame)
  have empty : (scopes.nest frame).2.has scopes.frames.size name = false := by
    rw [has, show (scopes.nest frame).2.bindings scopes.frames.size = [] from
      bindings_nest scopes frame]
    rfl
  unfold owner?
  rw [inside, List.find?_cons_of_neg (by simp [empty])]
  refine List.find?_congr fun candidate member => ?_
  rw [has, has, bindings_nest_of_lt scopes frame (ordered.mem_path_lt present member)]

theorem owner?_define_self (present : frame < scopes.frames.size) (name : String)
    (value : Value) : (scopes.define frame name value).owner? frame name = some frame := by
  have bound : (scopes.define frame name value).has frame name = true :=
    (has_define present value).2 (.inr ⟨rfl, rfl⟩)
  exact List.find?_cons_of_pos bound

theorem owner?_define_of_ne (present : frame < scopes.frames.size) (other : FrameId)
    {defined name : String} (different : defined ≠ name) (value : Value) :
    (scopes.define frame defined value).owner? other name = scopes.owner? other name := by
  unfold owner?
  rw [path_define]
  refine List.find?_congr fun candidate _ => ?_
  rw [Bool.eq_iff_iff, has_define present]
  exact or_iff_left fun same => different same.2

end Scopes

/-- The types of the bindings of frames. -/
abbrev Store := FrameId → View

namespace Store

/-- The store with another type for a name in a frame. -/
def bind (store : Store) (frame : FrameId) (name : String) (type : Ty) : Store :=
  fun other => if frame = other then (store other).bind name type else store other

/-- Several names bound in a frame, one after the other. -/
def bindAll (store : Store) (frame : FrameId) (bindings : Bindings Ty) : Store :=
  bindings.foldl (fun store binding => store.bind frame binding.1 binding.2) store

theorem bind_of_ne {store : Store} {frame other : FrameId} (different : frame ≠ other)
    (name : String) (type : Ty) : store.bind frame name type other = store other :=
  if_neg different

theorem bind_self (store : Store) (frame : FrameId) (name : String) (type : Ty) :
    store.bind frame name type frame = (store frame).bind name type :=
  if_pos rfl

theorem bindAll_of_ne {store : Store} {frame other : FrameId} (different : frame ≠ other)
    (bindings : Bindings Ty) : store.bindAll frame bindings other = store other := by
  induction bindings generalizing store with
  | nil => rfl
  | cons binding bindings inductionHypothesis =>
      exact inductionHypothesis.trans (bind_of_ne different _ _)

/-- From a frame, every name of a view belongs to a frame in which the store knows it. -/
def Sees (store : Store) (scopes : Scopes Value) (view : View) (frame : FrameId) : Prop :=
  frame < scopes.frames.size ∧ ∀ name type, view name = some type →
    ∃ owner, scopes.owner? frame name = some owner ∧ store owner name = some type

namespace Sees

variable {store other : Store} {start scopes : Scopes Value} {view : View} {frame : FrameId}
  {isOpen : FrameId → Prop}

/-- What is seen stays in sight as long as nothing is declared on the way. -/
theorem kept (sees : store.Sees start view frame) (kept : start.Kept isOpen scopes)
    (closed : ∀ candidate ∈ start.path frame, ¬ isOpen candidate) :
    store.Sees scopes view frame := by
  refine ⟨Nat.lt_of_lt_of_le sees.1 kept.grown.size, fun name type known => ?_⟩
  obtain ⟨owner, owns, stored⟩ := sees.2 name type known
  exact ⟨owner, (kept.owner? sees.1 closed name).trans owns, stored⟩

/-- New frames hide nothing. -/
theorem onward (sees : store.Sees start view frame) (ordered : start.Ordered)
    (keeps : start.Kept (fun candidate => start.frames.size ≤ candidate) scopes) :
    store.Sees scopes view frame :=
  sees.kept keeps fun _ member => Nat.not_le.2 (ordered.mem_path_lt sees.1 member)

/-- Only the frames on the way matter. -/
theorem congr (sees : store.Sees scopes view frame)
    (same : ∀ candidate ∈ scopes.path frame, other candidate = store candidate) :
    other.Sees scopes view frame := by
  refine ⟨sees.1, fun name type known => ?_⟩
  obtain ⟨owner, owns, stored⟩ := sees.2 name type known
  exact ⟨owner, owns, by rwa [same owner (Scopes.has_owner? owns).2]⟩

/-- A new frame sees what the frame around it sees. -/
theorem nest (sees : store.Sees scopes view frame) (ordered : scopes.Ordered) :
    store.Sees (scopes.nest frame).2 view scopes.frames.size := by
  refine ⟨by simp, fun name type known => ?_⟩
  obtain ⟨owner, owns, stored⟩ := sees.2 name type known
  exact ⟨owner, (Scopes.owner?_nest ordered sees.1 name).trans owns, stored⟩

/-- A name that is declared in the frame itself. -/
theorem define (sees : store.Sees scopes view frame) (name : String) (type : Ty) (value : Value) :
    (store.bind frame name type).Sees (scopes.define frame name value) (view.bind name type)
      frame := by
  refine ⟨by simpa using sees.1, fun sought known found => ?_⟩
  by_cases same : name = sought
  · subst same
    rw [View.bind, if_pos rfl, Option.some.injEq] at found
    subst found
    exact ⟨frame, Scopes.owner?_define_self sees.1 name value,
      by rw [bind_self, View.bind, if_pos rfl]⟩
  · rw [View.bind, if_neg same] at found
    obtain ⟨owner, owns, stored⟩ := sees.2 sought known found
    refine ⟨owner, (Scopes.owner?_define_of_ne sees.1 frame same value).trans owns, ?_⟩
    unfold Store.bind
    split
    · rw [View.bind, if_neg same]
      exact stored
    · exact stored

end Sees

end Store

/-- What a run takes place in: native functions, what is known of functions, which function
values belong to which function type, and the first of the frames that may be declared in. -/
structure Setting where
  natives : List Native
  world : World
  closures : Closure → String → Nat → Prop
  base : FrameId

namespace Setting

/-- What has to be known of a setting before a run: calls are borne out, function values are
made of what their functions are made of, and native functions come to values of their
types, unless they fail. -/
structure Sound (setting : Setting) : Prop where
  closed : setting.world.Closed
  natives : ∀ key native, Native.find? setting.natives key = some native →
    ∀ arguments console, (native.run arguments console).1.Within
      (Inhabits setting.natives setting.closures native.signature.result)
  named : ∀ closure identifier, ¬ setting.closures closure "tuple" identifier
  code : ∀ closure name identifier, setting.closures closure name identifier →
    setting.world.code identifier = some (closure.parameters, closure.body)
  below : ∀ closure name identifier, setting.closures closure name identifier →
    closure.frame < setting.base

/-- A value is of a type. -/
abbrev Belongs (setting : Setting) (type : Ty) (value : Value) : Prop :=
  Inhabits setting.natives setting.closures type value

/-- Values are of types, one by one. -/
abbrev BelongAll (setting : Setting) (types : List Ty) (values : List Value) : Prop :=
  InhabitAll setting.natives setting.closures types values

/-- Scopes bind values of the types that a store says, and function values see what they are
said to see. -/
structure Fits (setting : Setting) (store : Store) (scopes : Scopes Value) : Prop where
  ordered : scopes.Ordered
  present : setting.base ≤ scopes.frames.size
  typed : ∀ frame name type, store frame name = some type →
    ∃ value, (scopes.bindings frame).get? name = some value ∧ setting.Belongs type value
  sees : ∀ closure name identifier, setting.closures closure name identifier →
    store.Sees scopes (setting.world.view identifier) closure.frame

namespace Fits

variable {setting : Setting} {store other : Store} {scopes : Scopes Value} {frame : FrameId}
  {name : String} {type : Ty} {value : Value}

theorem lt_size (fits : setting.Fits store scopes) (stored : store frame name = some type) :
    frame < scopes.frames.size := by
  obtain ⟨value, bound, _⟩ := fits.typed frame name type stored
  exact Scopes.lt_size_of_bound bound

theorem lt_base (fits : setting.Fits store scopes) (sound : setting.Sound) {closure : Closure}
    {identifier : Nat} (closes : setting.closures closure name identifier)
    {candidate : FrameId} (member : candidate ∈ scopes.path closure.frame) :
    candidate < setting.base := by
  have below := sound.below closure name identifier closes
  rcases List.mem_cons.1 member with rfl | member
  · exact below
  · exact Nat.lt_trans (fits.ordered.lt_of_mem member) below

/-- A store may forget the frames that have been made since, and what has been declared in
them. -/
theorem restrict {bound : FrameId} (fits : setting.Fits other scopes) (sound : setting.Sound)
    (lower : setting.base ≤ bound)
    (same : ∀ frame < bound, other frame = store frame)
    (none : ∀ frame name type, store frame name = some type → frame < bound) :
    setting.Fits store scopes where
  ordered := fits.ordered
  present := fits.present
  typed frame name type stored :=
    fits.typed frame name type ((same frame (none frame name type stored)).symm ▸ stored)
  sees closure name identifier closes :=
    (fits.sees closure name identifier closes).congr fun candidate member =>
      (same candidate (Nat.lt_of_lt_of_le (fits.lt_base sound closes member) lower)).symm

theorem nest (fits : setting.Fits store scopes) (present : frame < scopes.frames.size) :
    setting.Fits store (scopes.nest frame).2 where
  ordered := fits.ordered.nest present
  present := Nat.le_trans fits.present (by simp)
  typed other name type stored := by
    rw [Scopes.bindings_nest_of_lt scopes frame (fits.lt_size stored)]
    exact fits.typed other name type stored
  sees closure name identifier closes :=
    (fits.sees closure name identifier closes).onward fits.ordered
      ((Scopes.Kept.refl scopes).nest frame)

/-- A name is declared in a frame that is open to declarations. -/
theorem define (fits : setting.Fits store scopes) (sound : setting.Sound)
    (opened : setting.base ≤ frame) (present : frame < scopes.frames.size)
    (belongs : setting.Belongs type value) (name : String) :
    setting.Fits (store.bind frame name type) (scopes.define frame name value) where
  ordered := fits.ordered.define _ _ _
  present := by simpa using fits.present
  typed other sought known stored := by
    rw [Scopes.bindings_define scopes present]
    by_cases here : frame = other
    · subst here
      rw [Store.bind_self, View.bind] at stored
      rw [if_pos rfl, Table.get?_set]
      by_cases same : name = sought
      · rw [if_pos same, Option.some.injEq] at stored
        exact ⟨value, if_pos same, stored ▸ belongs⟩
      · rw [if_neg same] at stored ⊢
        exact fits.typed frame sought known stored
    · rw [Store.bind_of_ne here] at stored
      rw [if_neg here]
      exact fits.typed other sought known stored
  sees closure called identifier closes := by
    have apart : ∀ candidate ∈ scopes.path closure.frame, candidate ≠ frame := by
      rintro candidate member rfl
      exact Nat.not_le.2 (fits.lt_base sound closes member) opened
    have keeps : scopes.Kept (fun other => other = frame ∨ scopes.frames.size ≤ other)
        (scopes.define frame name value) :=
      ⟨.define _ _ _ _, Scopes.Spared.define
        { size := Nat.le_refl _, fresh := fun _ absent => .inr absent, names := fun _ _ _ => rfl }
        (.inl (.inl rfl)) value⟩
    have sees := fits.sees closure called identifier closes
    refine Store.Sees.congr (sees.kept keeps fun candidate member isOpen => ?_)
      fun candidate member => ?_
    · rcases isOpen with same | absent
      · exact apart candidate member same
      · exact Nat.not_le.2 (fits.ordered.mem_path_lt sees.1 member) absent
    · rw [Scopes.path_define] at member
      exact Store.bind_of_ne (apart candidate member).symm _ _

/-- A binding takes another value of its type. -/
theorem assign (fits : setting.Fits store scopes) (stored : store frame name = some type)
    (belongs : setting.Belongs type value) :
    setting.Fits store (scopes.define frame name value) := by
  have present := fits.lt_size stored
  obtain ⟨former, bound, _⟩ := fits.typed frame name type stored
  exact
    { ordered := fits.ordered.define _ _ _
      present := by simpa using fits.present
      typed := fun other sought known isStored => by
        rw [Scopes.bindings_define scopes present]
        by_cases here : frame = other
        · subst here
          rw [if_pos rfl, Table.get?_set]
          by_cases same : name = sought
          · subst same
            rw [stored, Option.some.injEq] at isStored
            exact ⟨value, if_pos rfl, isStored ▸ belongs⟩
          · rw [if_neg same]
            exact fits.typed frame sought known isStored
        · rw [if_neg here]
          exact fits.typed other sought known isStored
      sees := fun closure called identifier closes =>
        (fits.sees closure called identifier closes).onward fits.ordered
          ((Scopes.Kept.refl scopes).define (.inr (Scopes.has_of_bound bound)) value) }

/-- What a view says of a name is the type of its value. -/
theorem get? {view : View} (fits : setting.Fits store scopes)
    (sees : store.Sees scopes view frame) (known : view name = some type) :
    ∃ value, scopes.get? frame name = some value ∧ setting.Belongs type value := by
  obtain ⟨owner, owns, stored⟩ := sees.2 name type known
  obtain ⟨value, bound, belongs⟩ := fits.typed owner name type stored
  refine ⟨value, ?_, belongs⟩
  obtain ⟨_, before, after, split, earlier⟩ := List.find?_eq_some_iff_append.1 owns
  unfold Scopes.get?
  rw [split]
  refine List.findSome?_eq_some_iff.2 ⟨before, owner, after, rfl, bound, fun candidate member => ?_⟩
  have unbound := earlier candidate member
  rw [Bool.not_eq_true', Scopes.has, Option.isSome_eq_false_iff, Option.isNone_iff_eq_none]
    at unbound
  exact unbound

/-- The parameters of a call are bound in its frame, one after the other. -/
theorem defineAll {view : View} (fits : setting.Fits store scopes) (sound : setting.Sound)
    (opened : setting.base ≤ frame) (sees : store.Sees scopes view frame) {types : List Ty}
    {values : List Value} (belong : setting.BelongAll types values) (names : List String) :
    setting.Fits (store.bindAll frame (names.zip types))
        (scopes.defineAll frame (names.zip values)) ∧
      (store.bindAll frame (names.zip types)).Sees (scopes.defineAll frame (names.zip values))
        (view.bindAll (names.zip types)) frame := by
  induction names generalizing store scopes view types values with
  | nil => exact ⟨fits, sees⟩
  | cons name names inductionHypothesis =>
      cases types with
      | nil =>
          cases values with
          | nil => exact ⟨fits, sees⟩
          | cons _ _ => exact belong.elim
      | cons type types =>
          cases values with
          | nil => exact belong.elim
          | cons value values =>
              exact inductionHypothesis (fits.define sound opened sees.1 belong.1 name)
                (sees.define name type value) belong.2

end Fits

end Setting

end CheckedScript
