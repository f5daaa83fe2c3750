import CheckedScript.Scope
import Mathlib.Logic.Function.Basic

/-!
# Moved tables and scopes

Tables whose keys and values are changed, and scopes whose frames stand behind the
frames of others.  Looking up, binding and nesting commute with such changes.
-/

namespace CheckedScript

namespace Table

variable {κ ι α β : Type}

/-- A table with other keys and values. -/
def change (keys : κ → ι) (values : α → β) (table : Table κ α) : Table ι β :=
  table.map (Prod.map keys values)

@[simp]
theorem change_nil (keys : κ → ι) (values : α → β) :
    change keys values ([] : Table κ α) = [] :=
  rfl

@[simp]
theorem change_cons (keys : κ → ι) (values : α → β) (key : κ) (value : α) (table : Table κ α) :
    change keys values ((key, value) :: table) = (keys key, values value) :: change keys values table :=
  rfl

@[simp]
theorem isEmpty_change (keys : κ → ι) (values : α → β) (table : Table κ α) :
    (table.change keys values).isEmpty = table.isEmpty := by
  cases table <;> rfl

variable [DecidableEq κ] [DecidableEq ι]

theorem get?_change {keys : κ → ι} (injective : keys.Injective) (values : α → β)
    (table : Table κ α) (key : κ) :
    (table.change keys values).get? (keys key) = (table.get? key).map values := by
  induction table with
  | nil => rfl
  | cons entry table inductionHypothesis =>
      obtain ⟨present, value⟩ := entry
      rw [change_cons, get?, get?]
      by_cases same : present = key
      · rw [if_pos (congrArg keys same), if_pos same, Option.map_some]
      · rw [if_neg fun equal => same (injective equal), if_neg same, inductionHypothesis]

theorem set_change {keys : κ → ι} (injective : keys.Injective) (values : α → β)
    (table : Table κ α) (key : κ) (value : α) :
    (table.change keys values).set (keys key) (values value) =
      (table.set key value).change keys values := by
  induction table with
  | nil => rfl
  | cons entry table inductionHypothesis =>
      obtain ⟨present, old⟩ := entry
      rw [change_cons, set, set]
      by_cases same : present = key
      · rw [if_pos (congrArg keys same), if_pos same, change_cons]
      · rw [if_neg fun equal => same (injective equal), if_neg same, inductionHypothesis,
          change_cons]

/-- A key that the first of two tables does not have is looked up in the second. -/
theorem get?_append {front : Table κ α} {key : κ} (absent : front.get? key = none)
    (table : Table κ α) : get? (front ++ table) key = table.get? key := by
  induction front with
  | nil => rfl
  | cons entry front inductionHypothesis =>
      obtain ⟨present, old⟩ := entry
      rw [get?] at absent
      split at absent
      · cases absent
      · next different =>
          rw [List.cons_append, get?, if_neg different]
          exact inductionHypothesis absent

/-- A key that the first of two tables does not have is set in the second. -/
theorem set_append {front : Table κ α} {key : κ} (absent : front.get? key = none)
    (table : Table κ α) (value : α) :
    set (front ++ table) key value = front ++ table.set key value := by
  induction front with
  | nil => rfl
  | cons entry front inductionHypothesis =>
      obtain ⟨present, old⟩ := entry
      rw [get?] at absent
      split at absent
      · cases absent
      · next different =>
          rw [List.cons_append, set, if_neg different, List.cons_append,
            inductionHypothesis absent]

end Table

namespace Scopes

variable {α β : Type}

/-- A frame behind a number of others, with changed values. -/
def moveFrame (offset : Nat) (values : α → β) (frame : Frame α) : Frame β where
  ancestors := frame.ancestors.map (· + offset)
  bindings := Table.change id values frame.bindings

/-- Scopes behind others, with changed values. -/
def behind (front : Scopes β) (values : α → β) (scopes : Scopes α) : Scopes β where
  frames := front.frames ++ scopes.frames.map (moveFrame front.frames.size values)

/-- A change behind the first of two arrays. -/
theorem modify_append_right (first second : Array α) (index : Nat) (change : α → α) :
    (first ++ second).modify (index + first.size) change =
      first ++ second.modify index change := by
  apply Array.ext_getElem?
  intro other
  rw [Array.getElem?_modify]
  rcases Nat.lt_or_ge other first.size with lower | higher
  · rw [if_neg (by omega), Array.getElem?_append_left lower, Array.getElem?_append_left lower]
  · rw [Array.getElem?_append_right higher, Array.getElem?_append_right higher,
      Array.getElem?_modify]
    simp only [show index + first.size = other ↔ index = other - first.size by omega]

variable (front : Scopes β) (values : α → β) (scopes : Scopes α)

theorem size_frames_behind :
    (behind front values scopes).frames.size = scopes.frames.size + front.frames.size := by
  simp [behind, Nat.add_comm]

theorem getElem?_behind (frame : FrameId) :
    (behind front values scopes).frames[frame + front.frames.size]? =
      scopes.frames[frame]?.map (moveFrame front.frames.size values) := by
  rw [behind, Array.getElem?_append_right (Nat.le_add_left _ _), Nat.add_sub_cancel,
    Array.getElem?_map]

theorem ancestors_behind (frame : FrameId) :
    (behind front values scopes).ancestors (frame + front.frames.size) =
      (scopes.ancestors frame).map (· + front.frames.size) := by
  unfold ancestors
  rw [getElem?_behind]
  cases scopes.frames[frame]? <;> rfl

theorem path_behind (frame : FrameId) :
    (behind front values scopes).path (frame + front.frames.size) =
      (scopes.path frame).map (· + front.frames.size) := by
  rw [path, path, ancestors_behind, List.map_cons]

theorem bindings_behind (frame : FrameId) :
    (behind front values scopes).bindings (frame + front.frames.size) =
      Table.change id values (scopes.bindings frame) := by
  unfold bindings
  rw [getElem?_behind]
  cases scopes.frames[frame]? <;> rfl

theorem get?_bindings_behind (frame : FrameId) (name : String) :
    ((behind front values scopes).bindings (frame + front.frames.size)).get? name =
      ((scopes.bindings frame).get? name).map values := by
  rw [bindings_behind]
  exact Table.get?_change Function.injective_id values _ name

/-- A name means what it meant. -/
theorem get?_behind (frame : FrameId) (name : String) :
    (behind front values scopes).get? (frame + front.frames.size) name =
      (scopes.get? frame name).map values := by
  rw [get?, get?, path_behind, List.findSome?_map, List.map_findSome?]
  congr 1
  funext candidate
  exact get?_bindings_behind front values scopes candidate name

theorem owner?_behind (frame : FrameId) (name : String) :
    (behind front values scopes).owner? (frame + front.frames.size) name =
      (scopes.owner? frame name).map (· + front.frames.size) := by
  rw [owner?, owner?, path_behind, List.find?_map]
  congr 2
  funext candidate
  simp [has, get?_bindings_behind]

theorem define_behind (frame : FrameId) (name : String) (value : α) :
    (behind front values scopes).define (frame + front.frames.size) name (values value) =
      behind front values (scopes.define frame name value) := by
  have changed : ∀ found : Frame α,
      { moveFrame front.frames.size values found with
        bindings := (moveFrame front.frames.size values found).bindings.set name (values value) } =
      moveFrame front.frames.size values
        { found with bindings := found.bindings.set name value } := fun found => by
    simp only [moveFrame, ← Table.set_change Function.injective_id, id_eq]
  unfold define behind
  congr 1
  rw [modify_append_right]
  congr 1
  apply Array.ext_getElem?
  intro index
  rw [Array.getElem?_modify, Array.getElem?_map, Array.getElem?_map, Array.getElem?_modify]
  split
  · simp [changed, Function.comp_def]
  · rfl

theorem defineAll_behind (frame : FrameId) (bindings : Bindings α) :
    (behind front values scopes).defineAll (frame + front.frames.size)
        (Table.change id values bindings) =
      behind front values (scopes.defineAll frame bindings) := by
  induction bindings generalizing scopes with
  | nil => rfl
  | cons binding bindings inductionHypothesis =>
      obtain ⟨name, value⟩ := binding
      have first := define_behind front values scopes frame name value
      exact (congrArg (fun scopes => scopes.defineAll (frame + front.frames.size)
        (Table.change id values bindings)) first).trans (inductionHypothesis _)

theorem nest_behind (frame : FrameId) :
    (behind front values scopes).nest (frame + front.frames.size) =
      ((scopes.nest frame).1 + front.frames.size, behind front values (scopes.nest frame).2) := by
  rw [nest, nest, add, add, path_behind, size_frames_behind]
  simp [behind, moveFrame]

theorem addRoot_behind :
    (behind front values scopes).addRoot =
      (scopes.addRoot.1 + front.frames.size, behind front values scopes.addRoot.2) := by
  rw [addRoot, addRoot, add, add, size_frames_behind]
  simp [behind, moveFrame]

end Scopes

end CheckedScript
