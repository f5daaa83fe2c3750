import CheckedScript.Scope
import Mathlib.Data.List.Forall2

/-!
# Frames on the way to the root

How the views of a scopes value change under its operations.  Numbers of frames
grow: the ancestors of a frame are older than the frame itself, so the frames on
the way to the root are all different and a write to one of them leaves the
others alone.

Two frames are alike if the frames on their ways to the root bind the same names
in the same order to things that are related.  That is how the scopes of a run
and the scopes of a check are compared.
-/

namespace CheckedScript

namespace Scopes

variable {α β : Type}

@[simp]
theorem size_frames_nest (scopes : Scopes α) (frame : FrameId) :
    (scopes.nest frame).2.frames.size = scopes.frames.size + 1 := by
  simp [nest, add]

@[simp]
theorem fst_nest (scopes : Scopes α) (frame : FrameId) :
    (scopes.nest frame).1 = scopes.frames.size :=
  rfl

/-- A new frame moves no earlier frame. -/
theorem ancestors_nest_of_lt (scopes : Scopes α) (frame : FrameId) {other : FrameId}
    (present : other < scopes.frames.size) :
    (scopes.nest frame).2.ancestors other = scopes.ancestors other := by
  unfold ancestors nest
  rw [getElem?_frames_add scopes _ present]

/-- A new frame changes no binding of an earlier frame. -/
theorem bindings_nest_of_lt (scopes : Scopes α) (frame : FrameId) {other : FrameId}
    (present : other < scopes.frames.size) :
    (scopes.nest frame).2.bindings other = scopes.bindings other := by
  unfold bindings nest
  rw [getElem?_frames_add scopes _ present]

@[simp]
theorem path_define (scopes : Scopes α) (frame other : FrameId) (name : String) (value : α) :
    (scopes.define frame name value).path other = scopes.path other := by
  simp [path]

@[simp]
theorem size_frames_defineAll (scopes : Scopes α) (frame : FrameId) (bindings : Bindings α) :
    (scopes.defineAll frame bindings).frames.size = scopes.frames.size := by
  induction bindings generalizing scopes with
  | nil => rfl
  | cons binding bindings inductionHypothesis =>
      exact (inductionHypothesis _).trans (size_frames_define ..)

@[simp]
theorem ancestors_defineAll (scopes : Scopes α) (frame other : FrameId) (bindings : Bindings α) :
    (scopes.defineAll frame bindings).ancestors other = scopes.ancestors other := by
  induction bindings generalizing scopes with
  | nil => rfl
  | cons binding bindings inductionHypothesis =>
      exact (inductionHypothesis _).trans (ancestors_define ..)

theorem bindings_defineAll_of_ne (scopes : Scopes α) {frame other : FrameId}
    (present : frame < scopes.frames.size) (different : frame ≠ other) (bindings : Bindings α) :
    (scopes.defineAll frame bindings).bindings other = scopes.bindings other := by
  induction bindings generalizing scopes with
  | nil => rfl
  | cons binding bindings inductionHypothesis =>
      have rest := inductionHypothesis (scopes.define frame binding.1 binding.2)
        (by simpa using present)
      rw [bindings_define scopes present, if_neg different] at rest
      exact rest

/-- A name that has just been bound. -/
theorem get?_define_self (scopes : Scopes α) {frame : FrameId}
    (present : frame < scopes.frames.size) (name : String) (value : α) :
    (scopes.define frame name value).get? frame name = some value := by
  simp [get?, path, bindings_define scopes present]

/-- Binding a name changes the meaning of no other name. -/
theorem get?_define_of_ne (scopes : Scopes α) {frame : FrameId}
    (present : frame < scopes.frames.size) (other : FrameId) {defined name : String}
    (different : defined ≠ name) (value : α) :
    (scopes.define frame defined value).get? other name = scopes.get? other name := by
  unfold get?
  rw [path_define]
  congr 1
  funext candidate
  rw [bindings_define scopes present]
  split
  · next same => rw [Table.get?_set, if_neg different, same]
  · rfl

/-- What a name means depends on the frames along the path only. -/
theorem get?_congr {first second : Scopes α} {frame : FrameId}
    (path : second.path frame = first.path frame)
    (bindings : ∀ candidate ∈ first.path frame,
      second.bindings candidate = first.bindings candidate) (name : String) :
    second.get? frame name = first.get? frame name := by
  unfold get?
  rw [path]
  generalize first.path frame = frames at bindings
  induction frames with
  | nil => rfl
  | cons candidate frames inductionHypothesis =>
      obtain ⟨here, further⟩ := List.forall_mem_cons.1 bindings
      rw [List.findSome?_cons, List.findSome?_cons, here, inductionHypothesis further]

/-- What is visible in a frame is visible in an empty frame right inside it. -/
theorem get?_inside {scopes : Scopes α} {inner frame : FrameId} (empty : scopes.bindings inner = [])
    (inside : scopes.ancestors inner = scopes.path frame) (name : String) :
    scopes.get? inner name = scopes.get? frame name := by
  unfold get?
  rw [path, inside, List.findSome?_cons, empty]
  rfl

/-- Every frame is newer than its ancestors, and every ancestor is newer than the
ones behind it. -/
def Ordered (scopes : Scopes α) : Prop :=
  ∀ frame, (scopes.path frame).Pairwise (· > ·)

theorem Ordered.lt_of_mem {scopes : Scopes α} (ordered : scopes.Ordered) {frame other : FrameId}
    (member : other ∈ scopes.ancestors frame) : other < frame :=
  List.rel_of_pairwise_cons (ordered frame) member

theorem Ordered.mem_path_lt {scopes : Scopes α} (ordered : scopes.Ordered) {frame other : FrameId}
    (present : frame < scopes.frames.size) (member : other ∈ scopes.path frame) :
    other < scopes.frames.size := by
  rcases List.mem_cons.1 member with rfl | member
  · exact present
  · exact Nat.lt_trans (ordered.lt_of_mem member) present

theorem Ordered.define {scopes : Scopes α} (ordered : scopes.Ordered) (frame : FrameId)
    (name : String) (value : α) : (scopes.define frame name value).Ordered := by
  intro other
  rw [path_define]
  exact ordered other

theorem Ordered.defineAll {scopes : Scopes α} (ordered : scopes.Ordered) (frame : FrameId)
    (bindings : Bindings α) : (scopes.defineAll frame bindings).Ordered := by
  intro other
  rw [path, ancestors_defineAll]
  exact ordered other

theorem ancestors_of_size_le (scopes : Scopes α) {frame : FrameId}
    (absent : scopes.frames.size ≤ frame) : scopes.ancestors frame = [] := by
  simp [ancestors, absent]

theorem Ordered.nest {scopes : Scopes α} (ordered : scopes.Ordered) {frame : FrameId}
    (present : frame < scopes.frames.size) : (scopes.nest frame).2.Ordered := by
  intro other
  rcases Nat.lt_trichotomy other scopes.frames.size with lower | rfl | higher
  · rw [path, ancestors_nest_of_lt scopes frame lower]
    exact ordered other
  · have new := ancestors_nest scopes frame
    rw [fst_nest] at new
    rw [path, new, List.pairwise_cons]
    exact ⟨fun _ member => ordered.mem_path_lt present member, ordered frame⟩
  · rw [path, ancestors_of_size_le _ (by rw [size_frames_nest]; omega)]
    exact List.pairwise_singleton _ _

/-- Frames that one scopes value has, unmoved in another one. -/
structure Grown (before after : Scopes α) : Prop where
  size : before.frames.size ≤ after.frames.size
  ancestors : ∀ frame < before.frames.size, after.ancestors frame = before.ancestors frame

namespace Grown

theorem refl (scopes : Scopes α) : Grown scopes scopes :=
  ⟨Nat.le_refl _, fun _ _ => rfl⟩

theorem trans {first second third : Scopes α} (early : Grown first second)
    (late : Grown second third) : Grown first third where
  size := Nat.le_trans early.size late.size
  ancestors frame present :=
    (late.ancestors frame (Nat.lt_of_lt_of_le present early.size)).trans
      (early.ancestors frame present)

theorem define (scopes : Scopes α) (frame : FrameId) (name : String) (value : α) :
    Grown scopes (scopes.define frame name value) where
  size := by simp
  ancestors other _ := by simp

theorem nest (scopes : Scopes α) (frame : FrameId) : Grown scopes (scopes.nest frame).2 where
  size := by simp
  ancestors _ present := ancestors_nest_of_lt scopes frame present

theorem defineAll (scopes : Scopes α) (frame : FrameId) (bindings : Bindings α) :
    Grown scopes (scopes.defineAll frame bindings) where
  size := by simp
  ancestors other _ := by simp

theorem path {before after : Scopes α} (grown : Grown before after) {frame : FrameId}
    (present : frame < before.frames.size) : after.path frame = before.path frame := by
  rw [Scopes.path, Scopes.path, grown.ancestors frame present]

end Grown

/-- A new frame hides nothing from the earlier ones. -/
theorem get?_nest_of_lt {scopes : Scopes α} (ordered : scopes.Ordered) (frame : FrameId)
    {other : FrameId} (present : other < scopes.frames.size) (name : String) :
    (scopes.nest frame).2.get? other name = scopes.get? other name := by
  apply get?_congr
  · exact (Grown.nest scopes frame).path present
  · intro candidate member
    exact bindings_nest_of_lt scopes frame (ordered.mem_path_lt present member)

/-- A new frame shows what the frame around it shows. -/
theorem get?_nest {scopes : Scopes α} (ordered : scopes.Ordered) {frame : FrameId}
    (present : frame < scopes.frames.size) (name : String) :
    (scopes.nest frame).2.get? scopes.frames.size name = scopes.get? frame name := by
  have inside : (scopes.nest frame).2.ancestors scopes.frames.size =
      (scopes.nest frame).2.path frame := by
    rw [(Grown.nest scopes frame).path present]
    exact ancestors_nest scopes frame
  have shown := get?_inside (bindings_nest scopes frame) inside name
  exact shown.trans (get?_nest_of_lt ordered frame present name)

end Scopes

namespace Table

variable {α β : Type} {related : α → β → Prop}

/-- The same names in the same order, bound to related things. -/
def Alike (related : α → β → Prop) (left : Bindings α) (right : Bindings β) : Prop :=
  List.Forall₂ (fun first second => first.1 = second.1 ∧ related first.2 second.2) left right

theorem Alike.get? {left : Bindings α} {right : Bindings β} (alike : Alike related left right)
    (name : String) :
    (∃ first second, left.get? name = some first ∧ right.get? name = some second ∧
        related first second) ∨
      (left.get? name = none ∧ right.get? name = none) := by
  induction alike with
  | nil => exact .inr ⟨rfl, rfl⟩
  | @cons first second left right same _ inductionHypothesis =>
      obtain ⟨key, value⟩ := first
      obtain ⟨_, other⟩ := second
      obtain ⟨rfl, isRelated⟩ := same
      by_cases found : key = name
      · exact .inl ⟨value, other, by simp [Table.get?, found], by simp [Table.get?, found],
          isRelated⟩
      · simpa [Table.get?, found] using inductionHypothesis

theorem Alike.cons {left : Bindings α} {right : Bindings β} {name : String} {value : α} {other : β}
    (isRelated : related value other) (rest : Alike related left right) :
    Alike related ((name, value) :: left) ((name, other) :: right) :=
  List.Forall₂.cons ⟨rfl, isRelated⟩ rest

theorem Alike.set {left : Bindings α} {right : Bindings β} (alike : Alike related left right)
    (name : String) {value : α} {other : β} (isRelated : related value other) :
    Alike related (Table.set left name value) (Table.set right name other) := by
  induction alike with
  | nil => exact .cons isRelated .nil
  | @cons first second left right same rest inductionHypothesis =>
      obtain ⟨key, old⟩ := first
      obtain ⟨_, former⟩ := second
      obtain ⟨rfl, wasRelated⟩ := same
      by_cases found : key = name
      · rw [Table.set, Table.set, if_pos found, if_pos found]
        exact .cons isRelated rest
      · rw [Table.set, Table.set, if_neg found, if_neg found]
        exact .cons wasRelated inductionHypothesis

/-- A thing may be replaced on one side if the other side keeps what it is related
to. -/
theorem Alike.set_left {left : Bindings α} {right : Bindings β} (alike : Alike related left right)
    {name : String} {value : α} {other : β} (found : Table.get? right name = some other)
    (isRelated : related value other) : Alike related (Table.set left name value) right := by
  induction alike with
  | nil => cases found
  | @cons first second left right same rest inductionHypothesis =>
      obtain ⟨key, old⟩ := first
      obtain ⟨_, former⟩ := second
      obtain ⟨rfl, wasRelated⟩ := same
      by_cases here : key = name
      · rw [Table.get?, if_pos here, Option.some.injEq] at found
        rw [Table.set, if_pos here]
        exact .cons (found ▸ isRelated) rest
      · rw [Table.get?, if_neg here] at found
        rw [Table.set, if_neg here]
        exact .cons wasRelated (inductionHypothesis found)

end Table

namespace Scopes

variable {α β : Type} {related : α → β → Prop}

/-- Frames of two scopes that, one by one, bind the same names to related things. -/
def AlikeAlong (related : α → β → Prop) (left : Scopes α) (right : Scopes β)
    (frames others : List FrameId) : Prop :=
  List.Forall₂
    (fun first second => Table.Alike related (left.bindings first) (right.bindings second))
    frames others

/-- The ways to the root from two frames are alike. -/
def Alike (related : α → β → Prop) (left : Scopes α) (frame : FrameId) (right : Scopes β)
    (other : FrameId) : Prop :=
  AlikeAlong related left right (left.path frame) (right.path other)

namespace AlikeAlong

variable {left later : Scopes α} {right grown : Scopes β} {frames others : List FrameId}

theorem findSome? (alike : AlikeAlong related left right frames others) (name : String) :
    (∃ first second,
        (frames.findSome? fun frame => (left.bindings frame).get? name) = some first ∧
        (others.findSome? fun frame => (right.bindings frame).get? name) = some second ∧
        related first second) ∨
      (frames.findSome? fun frame => (left.bindings frame).get? name) = none ∧
        (others.findSome? fun frame => (right.bindings frame).get? name) = none := by
  induction alike with
  | nil => exact .inr ⟨rfl, rfl⟩
  | cons same _ inductionHypothesis =>
      rcases same.get? name with ⟨first, second, foundFirst, foundSecond, isRelated⟩ | ⟨none, no⟩
      · exact .inl ⟨first, second, by simp [foundFirst], by simp [foundSecond], isRelated⟩
      · simpa [none, no] using inductionHypothesis

/-- Only the bindings of the frames themselves matter. -/
theorem congr (alike : AlikeAlong related left right frames others)
    (leftBindings : ∀ frame ∈ frames, later.bindings frame = left.bindings frame)
    (rightBindings : ∀ frame ∈ others, grown.bindings frame = right.bindings frame) :
    AlikeAlong related later grown frames others := by
  induction alike with
  | nil => exact .nil
  | @cons first second frames others same _ inductionHypothesis =>
      rw [List.forall_mem_cons] at leftBindings rightBindings
      refine .cons ?_ (inductionHypothesis leftBindings.2 rightBindings.2)
      rw [leftBindings.1, rightBindings.1]
      exact same

/-- A value may be replaced in the nearest frame that binds its name. -/
theorem assign (alike : AlikeAlong related left right frames others)
    (descending : frames.Pairwise (· > ·)) (present : ∀ frame ∈ frames, frame < left.frames.size)
    {name : String} {owner : FrameId} {value : α} {other : β}
    (owns : (frames.find? fun frame => left.has frame name) = some owner)
    (found : (others.findSome? fun frame => (right.bindings frame).get? name) = some other)
    (isRelated : related value other) :
    AlikeAlong related (left.define owner name value) right frames others := by
  induction alike with
  | nil => cases owns
  | @cons first second frames others same rest inductionHypothesis =>
      rw [List.forall_mem_cons] at present
      rw [List.pairwise_cons] at descending
      rcases same.get? name with ⟨old, former, foundFirst, foundSecond, _⟩ | ⟨none, no⟩
      · have here : first = owner := by simpa [has, foundFirst] using owns
        have same' : former = other := by simpa [foundSecond] using found
        subst here
        refine .cons ?_ (AlikeAlong.congr rest (fun frame member => ?_) fun _ _ => rfl)
        · rw [bindings_define left present.1, if_pos rfl]
          exact same.set_left foundSecond (same' ▸ isRelated)
        · have older := descending.1 frame member
          rw [bindings_define left present.1, if_neg (Nat.ne_of_gt older)]
      · have owns : (frames.find? fun frame => left.has frame name) = some owner := by
          simpa [has, none] using owns
        have found : (others.findSome? fun frame => (right.bindings frame).get? name) =
            some other := by
          simpa [no] using found
        have member := List.mem_of_find?_eq_some owns
        have older := descending.1 owner member
        refine .cons ?_ (inductionHypothesis descending.2 present.2 owns found)
        rw [bindings_define left (present.2 owner member), if_neg (Nat.ne_of_lt older)]
        exact same

end AlikeAlong

namespace Alike

variable {left later : Scopes α} {right grown : Scopes β} {frame other : FrameId}

/-- A name means something related from both frames, or nothing. -/
theorem get? (alike : Alike related left frame right other) (name : String) :
    (∃ first second, left.get? frame name = some first ∧ right.get? other name = some second ∧
        related first second) ∨
      left.get? frame name = none ∧ right.get? other name = none :=
  AlikeAlong.findSome? alike name

/-- Both sides bind a name anew in the frames themselves. -/
theorem define (alike : Alike related left frame right other) (leftOrdered : left.Ordered)
    (rightOrdered : right.Ordered) (leftPresent : frame < left.frames.size)
    (rightPresent : other < right.frames.size) (name : String) {value : α} {type : β}
    (isRelated : related value type) :
    Alike related (left.define frame name value) frame (right.define other name type) other := by
  unfold Alike path at alike ⊢
  rw [ancestors_define, ancestors_define]
  obtain ⟨same, rest⟩ := List.forall₂_cons.1 alike
  refine .cons ?_ (AlikeAlong.congr rest (fun candidate member => ?_) fun candidate member => ?_)
  · rw [bindings_define left leftPresent, bindings_define right rightPresent, if_pos rfl, if_pos rfl]
    exact same.set name isRelated
  · have older := leftOrdered.lt_of_mem member
    rw [bindings_define left leftPresent, if_neg (Nat.ne_of_gt older)]
  · have older := rightOrdered.lt_of_mem member
    rw [bindings_define right rightPresent, if_neg (Nat.ne_of_gt older)]

theorem assign (alike : Alike related left frame right other) (ordered : left.Ordered)
    (present : frame < left.frames.size) {name : String} {owner : FrameId} {value : α} {type : β}
    (owns : left.owner? frame name = some owner) (found : right.get? other name = some type)
    (isRelated : related value type) :
    Alike related (left.define owner name value) frame right other := by
  unfold Alike
  rw [path_define]
  exact AlikeAlong.assign alike (ordered frame) (fun _ => ordered.mem_path_lt present) owns found
    isRelated

/-- New frames inside frames that are alike. -/
theorem nest (alike : Alike related left frame right other) (leftOrdered : left.Ordered)
    (rightOrdered : right.Ordered) (leftPresent : frame < left.frames.size)
    (rightPresent : other < right.frames.size) :
    Alike related (left.nest frame).2 (left.nest frame).1 (right.nest other).2
      (right.nest other).1 := by
  unfold Alike
  rw [path, path, ancestors_nest, ancestors_nest]
  refine .cons ?_ (AlikeAlong.congr alike (fun candidate member => ?_) fun candidate member => ?_)
  · rw [bindings_nest, bindings_nest]
    exact .nil
  · exact bindings_nest_of_lt left frame (leftOrdered.mem_path_lt leftPresent member)
  · exact bindings_nest_of_lt right other (rightOrdered.mem_path_lt rightPresent member)

/-- What is alike from frames inside is alike from the frames around them. -/
theorem outer {inner nested : FrameId} (alike : Alike related left inner right nested)
    (leftInside : left.ancestors inner = left.path frame)
    (rightInside : right.ancestors nested = right.path other) :
    Alike related left frame right other := by
  unfold Alike path at alike
  rw [leftInside, rightInside] at alike
  exact (List.forall₂_cons.1 alike).2

theorem congr (alike : Alike related left frame right other)
    (leftPath : later.path frame = left.path frame)
    (leftBindings : ∀ candidate ∈ left.path frame,
      later.bindings candidate = left.bindings candidate)
    (rightPath : grown.path other = right.path other)
    (rightBindings : ∀ candidate ∈ right.path other,
      grown.bindings candidate = right.bindings candidate) :
    Alike related later frame grown other := by
  unfold Alike
  rw [leftPath, rightPath]
  exact AlikeAlong.congr alike leftBindings rightBindings

end Alike

end Scopes

end CheckedScript
