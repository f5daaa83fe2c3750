import CheckedScript.Proofs.Soundness.Evaluation
import CheckedScript.Proofs.Soundness.StatementDerivations

/-!
# Between the statements of a program

Between two statements of a program no body is in progress.  If all functions are declared by
such statements, then every function closes over an empty frame right inside the frame of the
global names, both in a checker and in a run, and all of them see the same names.

A checker and a run are aligned if the functions that the one knows and the function values
that the other one has made come in the same order, and if the global names have values of the
types that the checker knows.  A declaration keeps them aligned.  If it hides or replaces a
name, the instances so far do not count any more.
-/

namespace CheckedScript

open Typing Evaluation

namespace Typing

variable {since : Nat} {base : FrameId} {footprint : Footprint} {before after state : State}

theorem Effect.declared (effect : Effect footprint before after)
    (size : after.functions.size = before.functions.size) {function : DeclaredFunction}
    (member : function ∈ after.functions) :
    ∃ (identifier : Nat) (former : DeclaredFunction),
      before.functions[identifier]? = some former ∧ SameDeclaration former function := by
  obtain ⟨identifier, found⟩ := Array.mem_iff_getElem?.1 member
  have present := (Array.getElem?_eq_some_iff.1 found).1
  rw [size] at present
  obtain ⟨later, isLater, same⟩ :=
    effect.declarations identifier _ (Array.getElem?_eq_getElem present)
  cases found.symm.trans isLater
  exact ⟨identifier, _, Array.getElem?_eq_getElem present, same⟩

namespace State

/-- No body is in progress, and all functions have been declared among the statements of the
program itself. -/
structure Level (state : State) : Prop where
  idle : state.activations = []
  rooted : 0 < state.next
  empty : ∀ function ∈ state.functions, state.scopes.bindings function.closure = []
  inside : ∀ function ∈ state.functions,
    state.scopes.ancestors function.closure = state.scopes.path 0

namespace Level

theorem closure_ne (level : state.Level) (wellFormed : state.WellFormed)
    {function : DeclaredFunction} (member : function ∈ state.functions) : 0 ≠ function.closure := by
  refine Nat.ne_of_lt (wellFormed.ordered.lt_of_mem ?_)
  rw [level.inside function member]
  exact List.mem_cons_self

/-- All functions see the global names. -/
theorem view_closure (level : state.Level) {function : DeclaredFunction}
    (member : function ∈ state.functions) : state.view function.closure = state.view 0 :=
  funext (Scopes.get?_inside (level.empty function member) (level.inside function member))

theorem view_world (level : state.Level) {identifier : Nat} {function : DeclaredFunction}
    (found : state.functions[identifier]? = some function) :
    (state.world since).view identifier = state.view 0 := by
  funext name
  change state.functions[identifier]?.bind _ = _
  rw [found, Option.bind_some, level.view_closure (Array.mem_of_getElem? found)]

/-- A check that declares neither names nor functions. -/
theorem quiet (level : before.Level) (wellFormed : before.WellFormed)
    (effect : Effect footprint before after) (quiet : ∀ frame, ¬ footprint.frames frame)
    (size : after.functions.size = before.functions.size) : after.Level where
  idle := by
    have appended := effect.activations
    rw [level.idle] at appended
    cases shape : after.activations with
    | nil => rfl
    | cons activation activations =>
        rw [shape] at appended
        exact appended.elim
  rooted := Nat.lt_of_lt_of_le level.rooted effect.grown.size
  empty function member := by
    obtain ⟨identifier, former, found, _, _, _, _, closure⟩ := effect.declared size member
    rw [closure, effect.bindings _ (wellFormed.closures identifier former found) (quiet _)]
    exact level.empty former (Array.mem_of_getElem? found)
  inside function member := by
    obtain ⟨identifier, former, found, _, _, _, _, closure⟩ := effect.declared size member
    rw [closure, effect.grown.ancestors _ (wellFormed.closures identifier former found),
      effect.grown.path level.rooted]
    exact level.inside former (Array.mem_of_getElem? found)

theorem bind (level : state.Level) (wellFormed : state.WellFormed) (name : String) (type : Ty) :
    (state.bind 0 name type).Level where
  idle := level.idle
  rooted := by simpa [State.bind, State.next] using level.rooted
  empty function member := by
    refine (Scopes.bindings_define state.scopes level.rooted _ name type).trans ?_
    rw [if_neg (level.closure_ne wellFormed member)]
    exact level.empty function member
  inside function member := by
    refine (Scopes.ancestors_define state.scopes 0 _ name type).trans ?_
    rw [level.inside function member]
    exact (Scopes.path_define state.scopes 0 0 name type).symm

end Level

/-- A new global name is hidden from nobody. -/
theorem world_bind (level : state.Level) {name : String} (unseen : state.view 0 name = none)
    (type : Ty) : (state.world since).Within ((state.bind 0 name type).world since) where
  code known := known
  view identifier sought known found := by
    obtain ⟨function, declared, visible⟩ := Option.bind_eq_some_iff.1 found
    refine Option.bind_eq_some_iff.2 ⟨function, declared, ?_⟩
    have different : name ≠ sought := by
      rintro rfl
      rw [level.view_closure (Array.mem_of_getElem? declared), unseen] at visible
      cases visible
    exact (Scopes.get?_define_of_ne state.scopes level.rooted _ different type).trans visible
  result answers := answers

/-- With a global name, either nothing that was visible changes, or all instances are too
old. -/
theorem Ready.bind (ready : state.Ready since base) (level : state.Level) (name : String)
    {type : Ty} (isProper : type.isProper = true) :
    ∃ later, (state.bind 0 name type).Ready later base := by
  have effect : Effect (.body 0) state (state.bind 0 name type) :=
    .bind state name type level.rooted rfl
  have same : (state.bind 0 name type).generation =
      if (state.view 0 name).isSome then state.generation + 1 else state.generation := rfl
  cases unseen : state.view 0 name with
  | none =>
      refine ⟨since, effect.wellFormed ready.wellFormed, ready.proper.bind 0 name isProper, ?_,
        ?_, ?_, ?_⟩
      · exact Nat.le_trans ready.present effect.grown.size
      · exact Nat.le_trans ready.begun effect.generation
      · exact fun known => Nat.le_trans (ready.dated known) effect.generation
      · exact fun recent known =>
          (ready.justified recent known).onward (world_bind level unseen type)
  | some former =>
      rw [unseen, Option.isSome_some, if_pos rfl] at same
      refine ⟨state.generation + 1, effect.wellFormed ready.wellFormed,
        ready.proper.bind 0 name isProper, ?_, ?_, ?_, ?_⟩
      · exact Nat.le_trans ready.present effect.grown.size
      · exact Nat.le_of_eq same.symm
      · exact fun known => Nat.le_trans (ready.dated known) effect.generation
      · exact fun recent known =>
          absurd (Nat.lt_of_succ_le recent) (Nat.not_lt.2 (ready.dated known))

/-- Frames that have been made since may count as made before. -/
theorem Ready.raise (ready : state.Ready since base) : state.Ready since state.next :=
  { ready with
    present := Nat.le_refl _
    proper :=
      { ready.proper with
        bodies := fun function member => by
          obtain ⟨plain, shaped, lower⟩ := ready.proper.bodies function member
          exact ⟨plain, shaped, Nat.lt_of_lt_of_le lower ready.present⟩ } }

/-- The state with one more function, which nothing refers to yet. -/
def hoist (state : State) (place : Place) (name : Token) (parameters : List Token)
    (body : Block) : State :=
  { state with
    scopes := (state.scopes.nest 0).2
    functions := state.functions.push
      { name := name, parameters := parameters, body := body, place := place
        closure := state.next, instances := [] } }

section Hoist

variable {place : Place} {name : Token} {parameters : List Token} {body : Block}

theorem getElem?_hoist {identifier : Nat} {function : DeclaredFunction}
    (found : state.functions[identifier]? = some function) :
    (state.hoist place name parameters body).functions[identifier]? = some function := by
  have lower := (Array.getElem?_eq_some_iff.1 found).1
  rw [hoist, Array.getElem?_push, if_neg (Nat.ne_of_lt lower)]
  exact found

theorem instance?_hoist (identifier : Nat) (key : InstanceKey) :
    (state.hoist place name parameters body).instance? identifier key =
      state.instance? identifier key := by
  unfold instance? hoist
  rw [Array.getElem?_push]
  split
  · next same =>
      rw [same, Array.getElem?_eq_none (Nat.le_refl _)]
      rfl
  · rfl

theorem Level.hoist (level : state.Level) (wellFormed : state.WellFormed) :
    (state.hoist place name parameters body).Level where
  idle := level.idle
  rooted := Nat.lt_of_lt_of_le level.rooted (by simp [State.hoist, State.next])
  empty function member := by
    rcases Array.mem_push.1 member with member | rfl
    · obtain ⟨identifier, found⟩ := Array.mem_iff_getElem?.1 member
      rw [← level.empty function member]
      exact Scopes.bindings_nest_of_lt _ 0 (wellFormed.closures identifier function found)
    · exact Scopes.bindings_nest state.scopes 0
  inside function member := by
    have same : (state.hoist place name parameters body).scopes.path 0 = state.scopes.path 0 :=
      (Scopes.Grown.nest state.scopes 0).path level.rooted
    rw [same]
    rcases Array.mem_push.1 member with member | rfl
    · obtain ⟨identifier, found⟩ := Array.mem_iff_getElem?.1 member
      rw [← level.inside function member]
      exact Scopes.ancestors_nest_of_lt _ 0 (wellFormed.closures identifier function found)
    · exact Scopes.ancestors_nest state.scopes 0

theorem view_hoist (wellFormed : state.WellFormed) {frame : FrameId}
    (present : frame < state.next) :
    (state.hoist place name parameters body).view frame = state.view frame :=
  funext (Scopes.get?_nest_of_lt wellFormed.ordered 0 present)

theorem world_hoist (wellFormed : state.WellFormed) :
    (state.world since).Within ((state.hoist place name parameters body).world since) where
  code known := by
    obtain ⟨function, found, rfl⟩ := Option.map_eq_some_iff.1 known
    exact Option.map_eq_some_iff.2 ⟨function, getElem?_hoist found, rfl⟩
  view identifier sought known found := by
    obtain ⟨function, declared, visible⟩ := Option.bind_eq_some_iff.1 found
    refine Option.bind_eq_some_iff.2 ⟨function, getElem?_hoist declared, ?_⟩
    rwa [view_hoist wellFormed (wellFormed.closures identifier function declared)]
  result {identifier arguments type} answers := by
    rcases answers with ⟨generation, recent, known⟩ | met
    · exact .inl ⟨generation, recent, (instance?_hoist _ _).trans known⟩
    · exact .inr met

theorem Ready.hoist (ready : state.Ready since base) (level : state.Level)
    (plain : body.isPlain = true) (shaped : body.isShaped = true) :
    (state.hoist place name parameters body).Ready since
      (state.hoist place name parameters body).next := by
  have grows : state.next < (state.hoist place name parameters body).next := by
    simp [State.hoist, State.next]
  refine
    { wellFormed :=
        ⟨ready.wellFormed.ordered.nest level.rooted, fun identifier function found => ?_⟩
      proper :=
        { bound := ready.proper.bound.nest 0
          returns := ready.proper.returns
          instances := fun function member => ?_
          bodies := fun function member => ?_ }
      present := Nat.le_refl _
      begun := ready.begun
      dated := fun known => ready.dated ((instance?_hoist _ _).symm.trans known)
      justified := fun recent known =>
        (ready.justified recent ((instance?_hoist _ _).symm.trans known)).onward
          (world_hoist ready.wellFormed) }
  · rcases Array.mem_push.1 (Array.mem_of_getElem? found) with member | rfl
    · obtain ⟨former, isFormer⟩ := Array.mem_iff_getElem?.1 member
      exact Nat.lt_trans (ready.wellFormed.closures former function isFormer) grows
    · exact grows
  · rcases Array.mem_push.1 member with member | rfl
    · exact ready.proper.instances function member
    · exact List.forall_mem_nil _
  · rcases Array.mem_push.1 member with member | rfl
    · obtain ⟨plain, shaped, _⟩ := ready.proper.bodies function member
      obtain ⟨identifier, found⟩ := Array.mem_iff_getElem?.1 member
      exact ⟨plain, shaped,
        Nat.lt_trans (ready.wellFormed.closures identifier function found) grows⟩
    · exact ⟨plain, shaped, grows⟩

end Hoist

end State

end Typing

section Values

variable {natives : List Native} {closures others : Closure → String → Nat → Prop}

mutual

/-- Values stay values of their types when there are more functions. -/
theorem Inhabits.mono (more : ∀ closure name identifier, closures closure name identifier →
      others closure name identifier) {type : Ty} {value : Value}
    (inhabits : Inhabits natives closures type value) : Inhabits natives others type value := by
  cases type with
  | number | text | bool => cases value <;> trivial
  | displayable | unknown | bareNative => cases value <;> cases inhabits
  | tuple types =>
      obtain ⟨items, rfl, inhabit⟩ := Inhabits.tuple_iff.1 inhabits
      exact InhabitAll.mono more inhabit
  | function name identifier =>
      obtain ⟨closure, rfl, closes⟩ := Inhabits.function_iff.1 inhabits
      exact more closure name identifier closes
  | native name parameters result =>
      obtain ⟨native, key, rfl, found⟩ := Inhabits.native_iff.1 inhabits
      exact Inhabits.native_iff.2 ⟨native, key, rfl, found⟩

theorem InhabitAll.mono (more : ∀ closure name identifier, closures closure name identifier →
      others closure name identifier) {types : List Ty} {values : List Value}
    (inhabit : InhabitAll natives closures types values) :
    InhabitAll natives others types values := by
  cases types with
  | nil =>
      cases values with
      | nil => trivial
      | cons _ _ => exact inhabit.elim
  | cons type types =>
      cases values with
      | nil => exact inhabit.elim
      | cons value values => exact ⟨inhabit.1.mono more, InhabitAll.mono more inhabit.2⟩

end

end Values

namespace Scopes

variable {scopes : Scopes Value}

theorem path_zero (ordered : scopes.Ordered) : scopes.path 0 = [0] := by
  unfold path
  cases shape : scopes.ancestors 0 with
  | nil => rfl
  | cons frame frames =>
      have lower : frame < 0 := ordered.lt_of_mem (by rw [shape]; exact List.mem_cons_self)
      exact absurd lower (Nat.not_lt_zero frame)

theorem get?_zero (ordered : scopes.Ordered) (name : String) :
    scopes.get? 0 name = (scopes.bindings 0).get? name := by
  rw [get?, path_zero ordered, List.findSome?_singleton]

end Scopes

/-- Function values that have been made by the statements of a program, with frames right inside
the frame of the global names that bind nothing. -/
structure Grounded (declared : List Closure) (scopes : Scopes Value) : Prop where
  ordered : scopes.Ordered
  rooted : 0 < scopes.frames.size
  made : ∀ closure ∈ declared, closure.frame < scopes.frames.size
  empty : ∀ closure ∈ declared, ∀ name, scopes.has closure.frame name = false
  inside : ∀ closure ∈ declared, scopes.ancestors closure.frame = scopes.path 0

namespace Grounded

variable {declared : List Closure} {scopes last : Scopes Value}

theorem kept (grounded : Grounded declared scopes)
    (kept : scopes.Kept (fun frame => scopes.frames.size ≤ frame) last) (ordered : last.Ordered) :
    Grounded declared last where
  ordered := ordered
  rooted := Nat.lt_of_lt_of_le grounded.rooted kept.grown.size
  made closure member := Nat.lt_of_lt_of_le (grounded.made closure member) kept.grown.size
  empty closure member name :=
    (kept.spared.names closure.frame name (Nat.not_le.2 (grounded.made closure member))).trans
      (grounded.empty closure member name)
  inside closure member := by
    rw [kept.grown.ancestors _ (grounded.made closure member), kept.grown.path grounded.rooted]
    exact grounded.inside closure member

theorem define (grounded : Grounded declared scopes) (name : String) (value : Value) :
    Grounded declared (scopes.define 0 name value) where
  ordered := grounded.ordered.define _ _ _
  rooted := by simpa using grounded.rooted
  made closure member := by simpa using grounded.made closure member
  empty closure member sought := by
    have different : closure.frame ≠ 0 := by
      refine Nat.ne_of_gt (grounded.ordered.lt_of_mem ?_)
      rw [grounded.inside closure member]
      exact List.mem_cons_self
    rw [Bool.eq_false_iff]
    intro bound
    rcases (Scopes.has_define grounded.rooted value).1 bound with former | ⟨same, _⟩
    · rw [grounded.empty closure member sought] at former
      cases former
    · exact different same
  inside closure member := by
    rw [Scopes.ancestors_define, Scopes.path_define]
    exact grounded.inside closure member

/-- The frame that a function closes over is made with the function. -/
theorem nest (grounded : Grounded declared scopes) {closure : Closure}
    (frame : closure.frame = scopes.frames.size) :
    Grounded (declared ++ [closure]) (scopes.nest 0).2 := by
  have former := grounded.kept ((Scopes.Kept.refl scopes).nest 0)
    (grounded.ordered.nest grounded.rooted)
  have same : (scopes.nest 0).2.path 0 = scopes.path 0 :=
    (Scopes.Grown.nest scopes 0).path grounded.rooted
  refine ⟨former.ordered, former.rooted, List.forall_mem_append.2 ⟨former.made, ?_⟩,
    List.forall_mem_append.2 ⟨former.empty, ?_⟩, List.forall_mem_append.2 ⟨former.inside, ?_⟩⟩ <;>
    refine List.forall_mem_singleton.2 ?_ <;> rw [frame]
  · simp
  · intro name
    rw [Scopes.has, show (scopes.nest 0).2.bindings scopes.frames.size = [] from
      Scopes.bindings_nest scopes 0]
    rfl
  · rw [same]
    exact Scopes.ancestors_nest scopes 0

end Grounded

end CheckedScript
