import CheckedScript.Proofs.Walks.Compliance

/-!
# Instances are never stale

The result of an instance is looked up by the types of the arguments and by the generation,
and a new generation begins whenever a binding hides or replaces a visible name.  So as long
as the generation stays the same, every name that was visible from some frame keeps its type
there, whatever else is bound in the meantime: a new binding of a name that is visible
nowhere around can only be found from frames that did not see the name before.  This holds
although some frames are written to without a look at the generation, because those are new.
-/

namespace CheckedScript

namespace Scopes

variable {α : Type}

/-- The way to the root from a frame goes on like the way from any frame on it. -/
def Chained (scopes : Scopes α) : Prop :=
  ∀ frame, ∀ other ∈ scopes.path frame, scopes.path other <:+ scopes.path frame

theorem Chained.of_path {before after : Scopes α} (chained : before.Chained)
    (same : ∀ frame, after.path frame = before.path frame) : after.Chained := by
  intro frame other member
  rw [same] at member ⊢
  rw [same]
  exact chained frame other member

theorem Chained.define {scopes : Scopes α} (chained : scopes.Chained) (frame : FrameId)
    (name : String) (value : α) : (scopes.define frame name value).Chained :=
  chained.of_path fun other => path_define scopes frame other name value

theorem Chained.defineAll {scopes : Scopes α} (chained : scopes.Chained) (frame : FrameId)
    (bindings : Bindings α) : (scopes.defineAll frame bindings).Chained :=
  chained.of_path fun other => by rw [path, path, ancestors_defineAll]

theorem path_add_of_lt (scopes : Scopes α) (ancestors : List FrameId) {frame : FrameId}
    (present : frame < scopes.frames.size) :
    (scopes.add ancestors).2.path frame = scopes.path frame := by
  rw [path, path, Scopes.ancestors, Scopes.ancestors, getElem?_frames_add scopes _ present]

/-- The way to the root from the frame that has been added, and from frames that are not there. -/
theorem path_add_of_le (scopes : Scopes α) (ancestors : List FrameId) {frame : FrameId}
    (absent : scopes.frames.size ≤ frame) :
    (scopes.add ancestors).2.path frame =
      if frame = scopes.frames.size then frame :: ancestors else [frame] := by
  by_cases new : frame = scopes.frames.size
  · simp [new, path, Scopes.ancestors, Scopes.add]
  · have beyond : scopes.frames.size < frame := Nat.lt_of_le_of_ne absent (Ne.symm new)
    rw [if_neg new, path, ancestors_of_size_le _ (by simpa [Scopes.add] using beyond)]

/-- A frame may be added whose ancestors are the way to the root from the first of them. -/
theorem Chained.add {scopes : Scopes α} (chained : scopes.Chained) (ordered : scopes.Ordered)
    {ancestors : List FrameId}
    (suffixes : ∀ other ∈ ancestors, other < scopes.frames.size ∧ scopes.path other <:+ ancestors) :
    (scopes.add ancestors).2.Chained := by
  intro frame other member
  rcases Nat.lt_or_ge frame scopes.frames.size with lower | absent
  · rw [path_add_of_lt scopes _ lower] at member ⊢
    rw [path_add_of_lt scopes _ (ordered.mem_path_lt lower member)]
    exact chained frame other member
  · rw [path_add_of_le scopes _ absent] at member ⊢
    split at member
    · next new =>
        rcases List.mem_cons.1 member with rfl | member
        · rw [path_add_of_le scopes _ absent]
        · obtain ⟨present, suffix⟩ := suffixes other member
          rw [path_add_of_lt scopes _ present, if_pos new]
          exact suffix.trans (List.suffix_cons _ _)
    · next different =>
        obtain rfl := List.mem_singleton.1 member
        rw [path_add_of_le scopes _ absent]

/-- A new root frame. -/
theorem Ordered.addRoot {scopes : Scopes α} (ordered : scopes.Ordered) :
    scopes.addRoot.2.Ordered := by
  intro frame
  rcases Nat.lt_or_ge frame scopes.frames.size with lower | absent
  · rw [Scopes.addRoot, path_add_of_lt scopes _ lower]
    exact ordered frame
  · rw [Scopes.addRoot, path_add_of_le scopes _ absent]
    split <;> exact List.pairwise_singleton _ _

theorem Grown.addRoot (scopes : Scopes α) : Grown scopes scopes.addRoot.2 where
  size := by simp [Scopes.addRoot, Scopes.add]
  ancestors frame present := by
    rw [Scopes.addRoot, Scopes.ancestors, Scopes.ancestors, getElem?_frames_add scopes _ present]

theorem Chained.nest {scopes : Scopes α} (chained : scopes.Chained) (ordered : scopes.Ordered)
    {frame : FrameId} (present : frame < scopes.frames.size) : (scopes.nest frame).2.Chained :=
  chained.add ordered fun other member =>
    ⟨ordered.mem_path_lt present member, chained frame other member⟩

/-- Binding a name that a frame does not see leaves alone what other frames see. -/
theorem get?_define_of_unseen {scopes : Scopes α} (chained : scopes.Chained)
    (ordered : scopes.Ordered) {frame other : FrameId} (present : frame < scopes.frames.size)
    {name seen : String} (unseen : scopes.get? frame name = none) {value known : α}
    (visible : scopes.get? other seen = some known) :
    (scopes.define frame name value).get? other seen = some known := by
  by_cases different : name = seen
  · subst different
    by_cases member : frame ∈ scopes.path other
    · -- The name is found before the frame is reached, since it is not found from there on.
      obtain ⟨front, split⟩ := chained other frame member
      have descending := ordered other
      rw [← split] at descending
      unfold get? at unseen visible ⊢
      rw [path_define, ← split, List.findSome?_append]
      rw [← split, List.findSome?_append, unseen, Option.or_none] at visible
      have same : ∀ candidate ∈ front,
          (scopes.define frame name value).bindings candidate = scopes.bindings candidate := by
        intro candidate isFront
        have newer : candidate > frame :=
          (List.pairwise_append.1 descending).2.2 candidate isFront frame List.mem_cons_self
        rw [bindings_define scopes present, if_neg (Nat.ne_of_lt newer)]
      obtain ⟨before, candidate, after, shape, found, none⟩ :=
        List.findSome?_eq_some_iff.1 visible
      subst shape
      rw [List.findSome?_eq_some_iff.2 ⟨before, candidate, after, rfl,
        by rw [same candidate (by simp)]; exact found,
        fun earlier member => by rw [same earlier (by simp [member])]; exact none earlier member⟩]
      rfl
    · rw [← visible]
      refine get?_congr (path_define ..) (fun candidate isCandidate => ?_) name
      rw [bindings_define scopes present, if_neg]
      rintro rfl
      exact member isCandidate
  · rw [get?_define_of_ne scopes present other different]
    exact visible

end Scopes

namespace Typing

open Check

/-- One state comes later than another one: nothing that was there is lost, and as long as
the generation stays the same, visible names keep their types. -/
structure State.Later (before after : State) : Prop where
  grown : before.scopes.Grown after.scopes
  declarations : ∀ (identifier : Nat) (function : DeclaredFunction),
    before.functions[identifier]? = some function →
    ∃ later, after.functions[identifier]? = some later ∧ SameDeclaration function later
  instances : ∀ identifier key result, before.instance? identifier key = some result →
    after.instance? identifier key = some result
  generation : before.generation ≤ after.generation
  visible : before.generation = after.generation → ∀ frame < before.next, ∀ name type,
    before.scopes.get? frame name = some type → after.scopes.get? frame name = some type

namespace State.Later

variable {before middle after : State}

theorem refl (state : State) : state.Later state where
  grown := .refl _
  declarations _ function found := ⟨function, found, rfl, rfl, rfl, rfl, rfl⟩
  instances _ _ _ found := found
  generation := Nat.le_refl _
  visible _ _ _ _ _ found := found

theorem trans (early : before.Later middle) (late : middle.Later after) : before.Later after where
  grown := early.grown.trans late.grown
  declarations identifier function found := by
    obtain ⟨next, foundNext, name, parameters, body, place, closure⟩ :=
      early.declarations identifier function found
    obtain ⟨last, foundLast, name', parameters', body', place', closure'⟩ :=
      late.declarations identifier next foundNext
    exact ⟨last, foundLast, name'.trans name, parameters'.trans parameters, body'.trans body,
      place'.trans place, closure'.trans closure⟩
  instances identifier key result found :=
    late.instances identifier key result (early.instances identifier key result found)
  generation := Nat.le_trans early.generation late.generation
  visible same frame present name type found := by
    have first : before.generation = middle.generation :=
      Nat.le_antisymm early.generation (same ▸ late.generation)
    exact late.visible (first.symm.trans same) frame
      (Nat.lt_of_lt_of_le present early.grown.size) name type
      (early.visible first frame present name type found)

theorem of_effect {footprint : Footprint} (effect : Effect footprint before after)
    (visible : before.generation = after.generation → ∀ frame < before.next, ∀ name type,
      before.scopes.get? frame name = some type → after.scopes.get? frame name = some type) :
    before.Later after where
  grown := effect.grown
  declarations := effect.declarations
  instances := effect.instances
  generation := effect.generation
  visible := visible

/-- The scopes stay the same. -/
theorem of_effect_of_scopes {footprint : Footprint} (effect : Effect footprint before after)
    (same : after.scopes = before.scopes) : before.Later after :=
  .of_effect effect fun _ _ _ _ _ found => same ▸ found

/-- What is visible stays the same. -/
theorem of_same (scopes : after.scopes = before.scopes)
    (functions : after.functions = before.functions)
    (generation : after.generation = before.generation) : before.Later after where
  grown := scopes ▸ .refl _
  declarations identifier function found :=
    ⟨function, functions ▸ found, rfl, rfl, rfl, rfl, rfl⟩
  instances identifier key result found := by
    rw [State.instance?, functions]
    exact found
  generation := Nat.le_of_eq generation.symm
  visible _ _ _ _ _ found := scopes ▸ found

end State.Later

/-- No new generation begins where a name is bound that was not visible. -/
theorem get?_eq_none_of_generation {scopes : Scopes Ty} {frame : FrameId} {name : String}
    {generation : Nat}
    (same : generation =
      if (scopes.get? frame name).isSome then generation + 1 else generation) :
    scopes.get? frame name = none := by
  cases visible : scopes.get? frame name with
  | none => rfl
  | some hidden =>
      rw [visible, Option.isSome_some, if_pos rfl] at same
      exact absurd same (Nat.ne_of_lt (Nat.lt_succ_self _))

/-- The frames of a state and the ways between them are in order. -/
structure State.Sound (state : State) : Prop extends state.WellFormed where
  chained : state.scopes.Chained

theorem State.Sound.new : ({} : State).Sound where
  ordered frame := List.pairwise_singleton _ _
  closures _ _ found := by cases found
  chained frame other member := by
    obtain rfl := List.mem_singleton.1 member
    exact List.suffix_refl _

section Steps

variable {state after : State} {frame : FrameId}

theorem State.Sound.of_same (sound : state.Sound) (scopes : after.scopes = state.scopes)
    (functions : after.functions = state.functions) : after.Sound where
  ordered := scopes ▸ sound.ordered
  closures := by
    rw [scopes, functions]
    exact sound.closures
  chained := scopes ▸ sound.chained

/-- Frames that are there already, and what they see, are left alone. -/
theorem State.Sound.later {footprint : Footprint} (sound : state.Sound)
    (effect : Effect footprint state after)
    (bindings : ∀ frame < state.next, after.scopes.bindings frame = state.scopes.bindings frame) :
    state.Later after :=
  .of_effect effect fun _ frame present name type found => by
    rw [← found]
    exact Scopes.get?_congr (effect.grown.path present)
      (fun candidate member => bindings candidate (sound.ordered.mem_path_lt present member)) name

theorem State.Sound.bind (sound : state.Sound) (present : frame < state.next) (name : String)
    (type : Ty) :
    (state.bind frame name type).Sound ∧ state.Later (state.bind frame name type) := by
  have effect : Effect (.body frame) state (state.bind frame name type) :=
    .bind state name type present rfl
  have wellFormed := effect.wellFormed sound.toWellFormed
  refine ⟨{ wellFormed with chained := sound.chained.define frame name type },
    .of_effect effect fun same other _ seen known found => ?_⟩
  have unseen : state.scopes.get? frame name = none := get?_eq_none_of_generation same
  exact Scopes.get?_define_of_unseen sound.chained sound.ordered present unseen found

theorem State.Sound.nested (sound : state.Sound) (present : frame < state.next) :
    (state.nested frame).Sound ∧ state.Later (state.nested frame) := by
  have effect := effect_nested state present
  have wellFormed := effect.wellFormed sound.toWellFormed
  exact ⟨{ wellFormed with chained := sound.chained.nest sound.ordered present },
    sound.later effect fun other lower => Scopes.bindings_nest_of_lt _ _ lower⟩

/-- The new frame binds names, too. -/
theorem State.Sound.defined (sound : state.Sound) (present : frame < state.next)
    (bindings : Bindings Ty) :
    ({ state with scopes := (state.nested frame).scopes.defineAll state.next bindings } :
      State).Sound ∧
    state.Later { state with
      scopes := (state.nested frame).scopes.defineAll state.next bindings } := by
  obtain ⟨nestedSound, nestedLater⟩ := sound.nested present
  have new : state.next < (state.nested frame).scopes.frames.size := by
    simp [State.nested, State.next]
  have effect : Effect (.body state.next) (state.nested frame)
      { state with scopes := (state.nested frame).scopes.defineAll state.next bindings } :=
    .defineAll (state.nested frame) bindings new rfl
  have wellFormed := effect.wellFormed nestedSound.toWellFormed
  refine ⟨{ wellFormed with chained := nestedSound.chained.defineAll _ _ }, ?_⟩
  have whole : Effect (.body state.next) state _ :=
    Effect.trans (Effect.widen (effect_nested state present) (Footprint.covers_nothing _ _)) effect
  refine sound.later whole fun other lower => ?_
  rw [Scopes.bindings_defineAll_of_ne _ new (Nat.ne_of_gt lower)]
  exact Scopes.bindings_nest_of_lt _ _ lower

/-- The native functions are bound in a new root frame. -/
theorem State.Sound.opened (sound : state.Sound) (natives : Bindings Signature) :
    (state.opened natives).Sound ∧ state.Later (state.opened natives) := by
  have grown : state.scopes.Grown (state.opened natives).scopes :=
    (Scopes.Grown.addRoot _).trans (.defineAll _ _ _)
  have new : state.scopes.addRoot.1 < state.scopes.addRoot.2.frames.size := by
    simp [Scopes.addRoot, Scopes.add]
  have chained : state.scopes.addRoot.2.Chained :=
    sound.chained.add sound.ordered fun other member => absurd member List.not_mem_nil
  refine ⟨
    { ordered := sound.ordered.addRoot.defineAll _ _
      closures := fun identifier function found =>
        Nat.lt_of_lt_of_le (sound.closures identifier function found) grown.size
      chained := chained.defineAll _ _ },
    { grown := grown
      declarations := (State.Later.refl state).declarations
      instances := fun _ _ _ found => found
      generation := Nat.le_refl _
      visible := fun _ frame present name type found => ?_ }⟩
  rw [← found]
  refine Scopes.get?_congr (grown.path present) (fun candidate member => ?_) name
  have older := sound.ordered.mem_path_lt present member
  change (Scopes.defineAll _ _ _).bindings candidate = _
  rw [Scopes.bindings_defineAll_of_ne _ new (Nat.ne_of_gt older), Scopes.bindings,
    Scopes.bindings, Scopes.addRoot, Scopes.getElem?_frames_add _ _ older]

theorem State.Sound.declare (sound : state.Sound) (present : frame < state.next) (place : Place)
    (name : Token) (parameters : List Token) (body : Block) :
    (state.declare frame place name parameters body).Sound ∧
      state.Later (state.declare frame place name parameters body) := by
  have effect : Effect (.body frame) state (state.declare frame place name parameters body) :=
    .declare state place name parameters body present rfl trivial
  have wellFormed := effect.wellFormed sound.toWellFormed
  have chained := sound.chained.nest sound.ordered present
  have ordered := sound.ordered.nest present
  refine ⟨{ wellFormed with chained := chained.define _ _ _ },
    .of_effect effect fun same other lower seen known found => ?_⟩
  have presentThen : frame < (state.scopes.nest frame).2.frames.size := by
    rw [Scopes.size_frames_nest]
    exact Nat.lt_succ_of_lt present
  have unseen : (state.scopes.nest frame).2.get? frame name.lexeme = none :=
    get?_eq_none_of_generation same
  refine Scopes.get?_define_of_unseen chained ordered presentThen unseen ?_
  rw [Scopes.get?_nest_of_lt sound.ordered frame lower]
  exact found

end Steps

/-- The check of an instance begins in a state: a call that has no answer yet is met. -/
structure Begins (root : Part) (start : State) (identifier : Nat) (arguments : List Ty)
    (generation : Nat) : Prop where
  called : ∃ fuel name anchor, root.Reaches (.call fuel start name identifier arguments anchor)
  opens : ∃ function, start.Opens identifier arguments function
  generation : start.generation = generation

/-- Every instance in a sound state has been begun in an earlier one. -/
structure State.Fresh (root : Part) (state : State) : Prop extends state.Sound where
  begun : ∀ identifier arguments generation result,
    state.instance? identifier (arguments, generation) = some result →
    ∃ start, Begins root start identifier arguments generation ∧ start.Later state

/-- What happens in the course of time. -/
def timeline (root : Part) : Course Stop State where
  later := State.Later
  state := State.Fresh root
  stop _ _ := True
  refl := .refl
  trans := .trans

section Steps

variable {root : Part} {state after : State}

/-- A step that remembers no result. -/
theorem State.Fresh.step (fresh : state.Fresh root) (sound : after.Sound)
    (later : state.Later after)
    (same : ∀ identifier key result, after.instance? identifier key = some result →
      state.instance? identifier key = some result) : (timeline root).Steps state after :=
  ⟨later, { sound with
    begun := fun identifier arguments generation result found => by
      obtain ⟨start, begins, before⟩ :=
        fresh.begun identifier arguments generation result (same _ _ _ found)
      exact ⟨start, begins, before.trans later⟩ }⟩

/-- A step that leaves scopes, functions and the generation alone. -/
theorem State.Fresh.step_of_same (fresh : state.Fresh root) (scopes : after.scopes = state.scopes)
    (functions : after.functions = state.functions)
    (generation : after.generation = state.generation) : (timeline root).Steps state after :=
  fresh.step (fresh.toSound.of_same scopes functions) (.of_same scopes functions generation)
    fun identifier key result found => by
      rwa [State.instance?, functions] at found

theorem State.Fresh.step_of_later (fresh : state.Fresh root)
    (sound : after.Sound ∧ state.Later after) (functions : after.functions = state.functions) :
    (timeline root).Steps state after :=
  fresh.step sound.1 sound.2 fun identifier key result found => by
    rwa [State.instance?, functions] at found

/-- A new function has no instances. -/
theorem instance?_of_declare {frame : FrameId} {place : Place} {name : Token}
    {parameters : List Token} {body : Block} {identifier : Nat} {key : InstanceKey} {result : Ty}
    (found : (state.declare frame place name parameters body).instance? identifier key =
      some result) : state.instance? identifier key = some result := by
  obtain ⟨declared, isDeclared, isResult⟩ := Option.bind_eq_some_iff.1 found
  change (state.functions.push _)[identifier]? = some declared at isDeclared
  rw [Array.getElem?_push] at isDeclared
  split at isDeclared
  · cases isDeclared
    cases isResult
  · exact Option.bind_eq_some_iff.2 ⟨declared, isDeclared, isResult⟩

/-- The first result of an instance, which has been begun earlier. -/
theorem State.Fresh.remember (fresh : state.Fresh root) {start : State} {identifier : Nat}
    {arguments : List Ty} {result : Ty} {declared : DeclaredFunction}
    (begins : Begins root start identifier arguments start.generation) (earlier : start.Later state)
    (found : state.functions[identifier]? = some declared)
    (new : state.instance? identifier (arguments, start.generation) = none)
    (idle : ¬ state.Active identifier arguments) :
    (timeline root).Steps state
      (state.setInstance identifier (arguments, start.generation) result) := by
  have effect := Effect.setInstance .nothing state result found new idle
  have later : state.Later
      (state.setInstance identifier (arguments, start.generation) result) :=
    .of_effect_of_scopes effect rfl
  have wellFormed := effect.wellFormed fresh.toWellFormed
  refine ⟨later, { wellFormed with chained := fresh.chained, begun := ?_ }⟩
  intro other wanted generation value isKnown
  rw [Effect.instance?_setInstance state _ _ _ _ _ found] at isKnown
  split at isKnown
  · next same =>
      obtain ⟨rfl, same⟩ := same
      obtain ⟨rfl, rfl⟩ := Prod.mk.inj same
      exact ⟨start, begins, earlier.trans later⟩
  · obtain ⟨former, formerBegins, before⟩ := fresh.begun other wanted generation value isKnown
    exact ⟨former, formerBegins, before.trans later⟩

/-- Every step of a checker is a step in the course of time. -/
theorem discipline_timeline (stands : root.Stands) :
    Discipline root.Reaches (timeline root) fun _ => True where
  toVariety := .any _
  closed reaches _ _ calls := reaches.tail calls
  stops _ _ := trivial
  report diagnostic fresh := by
    unfold State.report
    split
    · exact ⟨.refl _, fresh⟩
    · exact fresh.step_of_same rfl rfl rfl
  note _ _ fresh _ := fresh.step_of_same rfl rfl rfl
  bind name _ reaches later fresh _ := by
    have present := Nat.lt_of_lt_of_le (reaches.stands stands).present later.grown.size
    exact fresh.step_of_later (fresh.toSound.bind present name _) rfl
  declare reaches fresh := by
    obtain ⟨sound, later⟩ := fresh.toSound.declare (reaches.stands stands).present _ _ _ _
    exact fresh.step sound later fun _ _ _ found => instance?_of_declare found
  addReturn keyword fresh _ := by
    unfold State.addReturn
    split
    · exact ⟨.refl _, fresh⟩
    · exact fresh.step_of_same rfl rfl rfl
  nested reaches fresh :=
    fresh.step_of_later (fresh.toSound.nested (reaches.stands stands).present) rfl
  turn reaches later fresh := by
    have present := Nat.lt_of_lt_of_le (reaches.stands stands).present later.grown.size
    exact fresh.step_of_later (fresh.toSound.defined present _) rfl
  enter _ opens fresh _ := by
    have closure := fresh.closures _ _ opens.found
    obtain ⟨sound, later⟩ := fresh.toSound.defined closure _
    exact ⟨fresh.step_of_later ⟨sound, later⟩ rfl,
      fresh.step_of_later ⟨sound.of_same rfl rfl, later.trans (.of_same rfl rfl rfl)⟩ rfl⟩
  leave _ _ _ _ _ fresh := fresh.step_of_same rfl rfl rfl
  remember reaches opens later _ fresh _ _ found new idle :=
    fresh.remember ⟨⟨_, _, _, reaches⟩, ⟨_, opens⟩, rfl⟩ later found new idle

end Steps

section Programs

variable (bound : Nat) (natives : Bindings Signature) (programs : List Program)

/-- The work of a new checker on programs, one after the other, with a bound on its
nesting. -/
def Part.ofNew : Part :=
  .programs bound {} natives programs

theorem Part.stands_ofNew : (Part.ofNew bound natives programs).Stands :=
  .nil _

/-- Nothing has been checked. -/
theorem State.Fresh.new (root : Part) : ({} : State).Fresh root where
  toSound := .new
  begun _ _ _ _ found := by cases found

variable {bound natives programs}

/-- Of two states that a checker passes through, one comes later than the other. -/
theorem Part.Passes.later {first second : State}
    (passes : (Part.ofNew bound natives programs).Passes first)
    (other : (Part.ofNew bound natives programs).Passes second) :
    first.Later second ∨ second.Later first := by
  have discipline := discipline_timeline (Part.stands_ofNew bound natives programs)
  have tells := discipline.programs trivial
    (fun fresh => fresh.step_of_later (fresh.toSound.opened natives) rfl) .refl (.new _)
  exact tells.ordered first second passes other

/-- Every state that a checker passes through is fresh. -/
theorem Part.Passes.fresh {state : State}
    (passes : (Part.ofNew bound natives programs).Passes state) :
    state.Fresh (Part.ofNew bound natives programs) := by
  have discipline := discipline_timeline (Part.stands_ofNew bound natives programs)
  have tells := discipline.programs trivial
    (fun fresh => fresh.step_of_later (fresh.toSound.opened natives) rfl) .refl (.new _)
  exact (tells.since state passes).2

end Programs

/-- Instances are never stale.  If a function has a result for some arguments in the current
generation of a checker, then the check of that instance has begun in some state before, and
every name that was visible from where the function was declared when it began still has the
same type there. -/
theorem instances_are_fresh {bound : Nat} {natives : Bindings Signature} {programs : List Program}
    {state : State} (passes : (Part.ofNew bound natives programs).Passes state)
    {identifier : Nat} {function : DeclaredFunction} {arguments : List Ty} {result : Ty}
    (found : state.functions[identifier]? = some function)
    (known : function.instances.get? (arguments, state.generation) = some result) :
    (∃ start, Begins (Part.ofNew bound natives programs) start identifier arguments
      state.generation) ∧
    ∀ start, Begins (Part.ofNew bound natives programs) start identifier arguments
      state.generation →
      ∀ name type, start.scopes.get? function.closure name = some type →
        state.scopes.get? function.closure name = some type := by
  have isKnown : state.instance? identifier (arguments, state.generation) = some result :=
    Option.bind_eq_some_iff.2 ⟨function, found, known⟩
  constructor
  · obtain ⟨start, begins, _⟩ := passes.fresh.begun _ _ _ _ isKnown
    exact ⟨start, begins⟩
  · intro start begins name type visible
    obtain ⟨⟨_, _, _, reaches⟩, ⟨earlier, opens⟩, same⟩ := begins
    have startPasses : (Part.ofNew bound natives programs).Passes start :=
      ⟨_, reaches, .inl rfl⟩
    rcases startPasses.later passes with later | later
    · obtain ⟨declared, isDeclared, _, _, _, _, closure⟩ :=
        later.declarations identifier earlier opens.found
      cases isDeclared.symm.trans found
      rw [closure] at visible ⊢
      exact later.visible same _ (startPasses.fresh.closures _ _ opens.found) name type visible
    · -- The result would have been known before its check began.
      have early := later.instances identifier _ result isKnown
      rw [State.instance?, opens.found, Option.bind_some, ← same, opens.unknown] at early
      cases early

/-- The program `let a = 1; fun f() { a } f();`. -/
def reference : Program :=
  let word (lexeme : String) (column : Nat) : Token :=
    { kind := .identifier, lexeme := lexeme, position := ⟨0, column⟩ }
  let sign (symbol : Symbol) (column : Nat) : Token :=
    { kind := .symbol symbol, lexeme := symbol.spelling, position := ⟨0, column⟩ }
  [.letValue (word "a" 4) none (.literal (.number 1) (word "1" 8)),
    .function (word "f" 15) [] (.mk (sign .leftBrace 19) [] (some (.reference (word "a" 21)))),
    .expression (.call (.reference (word "f" 25)) (sign .rightParen 27) [])]

theorem instances_are_fresh_reference :
    ∃ state function, (Part.ofNew 12 [] [reference]).Passes state ∧
      state.functions[0]? = some function ∧
      function.instances.get? ([], state.generation) = some .number ∧
      state.scopes.get? function.closure "a" = some .number ∧
      (∃ start, Begins (Part.ofNew 12 [] [reference]) start 0 [] state.generation) ∧
      ∀ start, Begins (Part.ofNew 12 [] [reference]) start 0 [] state.generation →
        ∀ name type, start.scopes.get? function.closure name = some type →
          state.scopes.get? function.closure name = some type := by
  have passes : (Part.ofNew 12 [] [reference]).Passes _ :=
    ⟨_, .refl, .inr (Leaves.value)⟩
  exact ⟨_, _, passes, rfl, rfl, rfl, instances_are_fresh passes rfl rfl⟩

end Typing

end CheckedScript
