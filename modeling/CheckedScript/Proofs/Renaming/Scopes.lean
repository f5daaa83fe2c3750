import CheckedScript.Scope
import Mathlib.Data.List.Forall2
import Mathlib.Logic.Relator

/-!
# Tables and scopes side by side

Tables whose keys and values belong together one by one answer alike, as long as no key
belongs to two others.  Scopes belong together if they have the same frames, with bindings
that belong together.
-/

namespace CheckedScript

variable {κ ι α β : Type}

/-- Items that belong together are found in lists that belong together. -/
theorem rel_find? {related : α → β → Prop} {accepts : α → Bool} {admits : β → Bool}
    (same : ∀ item other, related item other → accepts item = admits other) {items : List α}
    {others : List β} (paired : List.Forall₂ related items others) :
    Option.Rel related (items.find? accepts) (others.find? admits) := by
  induction paired with
  | nil => exact .none
  | cons here _ inductionHypothesis =>
      rw [List.find?_cons, List.find?_cons, same _ _ here]
      split
      · exact .some here
      · exact inductionHypothesis

theorem rel_isEmpty {related : α → β → Prop} {items : List α} {others : List β}
    (paired : List.Forall₂ related items others) : items.isEmpty = others.isEmpty := by
  cases paired <;> rfl

namespace Table

variable {keys : κ → ι → Prop} {values : α → β → Prop}

/-- Tables whose entries belong together, one by one. -/
def Paired (keys : κ → ι → Prop) (values : α → β → Prop) (table : Table κ α)
    (other : Table ι β) : Prop :=
  List.Forall₂ (fun entry second => keys entry.1 second.1 ∧ values entry.2 second.2) table other

namespace Paired

variable {table : Table κ α} {other : Table ι β} {key : κ} {name : ι}

theorem zip {names : List κ} {others : List ι} {items : List α} {seconds : List β}
    (related : List.Forall₂ keys names others) (fits : List.Forall₂ values items seconds) :
    Paired keys values (names.zip items) (others.zip seconds) := by
  induction related generalizing items seconds with
  | nil => exact .nil
  | cons name _ inductionHypothesis =>
      cases fits with
      | nil => exact .nil
      | cons item items => exact .cons ⟨name, item⟩ (inductionHypothesis items)

variable [DecidableEq κ] [DecidableEq ι]

theorem get? (unique : Relator.BiUnique keys) (paired : Paired keys values table other)
    (related : keys key name) : Option.Rel values (table.get? key) (other.get? name) := by
  induction paired with
  | nil => exact .none
  | @cons entry second table other here _ inductionHypothesis =>
      have same : entry.1 = key ↔ second.1 = name := Relator.rel_eq unique here.1 related
      rw [Table.get?, Table.get?]
      by_cases found : entry.1 = key
      · rw [if_pos found, if_pos (same.1 found)]
        exact .some here.2
      · rw [if_neg found, if_neg (found ∘ same.2)]
        exact inductionHypothesis

theorem set (unique : Relator.BiUnique keys) (paired : Paired keys values table other)
    (related : keys key name) {value : α} {second : β} (fits : values value second) :
    Paired keys values (table.set key value) (other.set name second) := by
  induction paired with
  | nil => exact .cons ⟨related, fits⟩ .nil
  | @cons entry present table other here rest inductionHypothesis =>
      have same : entry.1 = key ↔ present.1 = name := Relator.rel_eq unique here.1 related
      rw [Table.set, Table.set]
      by_cases found : entry.1 = key
      · rw [if_pos found, if_pos (same.1 found)]
        exact .cons ⟨here.1, fits⟩ rest
      · rw [if_neg found, if_neg (found ∘ same.2)]
        exact .cons here inductionHypothesis

end Paired

end Table

/-- Arrays whose items belong together, one by one. -/
structure PairedArrays (related : α → β → Prop) (items : Array α) (others : Array β) : Prop where
  size : items.size = others.size
  item : ∀ index : Nat, Option.Rel related items[index]? others[index]?

namespace PairedArrays

variable {related : α → β → Prop} {items : Array α} {others : Array β}

theorem push (paired : PairedArrays related items others) {item : α} {other : β}
    (fits : related item other) : PairedArrays related (items.push item) (others.push other) where
  size := by simp [paired.size]
  item index := by
    rw [Array.getElem?_push, Array.getElem?_push, paired.size]
    split
    · exact .some fits
    · exact paired.item index

theorem modify (paired : PairedArrays related items others) {change : α → α} {second : β → β}
    (keeps : ∀ item other, related item other → related (change item) (second other))
    (index : Nat) :
    PairedArrays related (items.modify index change) (others.modify index second) where
  size := by simp [paired.size]
  item place := by
    have here := paired.item place
    rw [Array.getElem?_modify, Array.getElem?_modify]
    split
    · generalize items[place]? = found, others[place]? = other at here ⊢
      cases here with
      | none => exact .none
      | some fits => exact .some (keeps _ _ fits)
    · exact here

end PairedArrays

/-- Frames at the same place with bindings that belong together. -/
structure Frame.Paired (names : String → String → Prop) (values : α → β → Prop)
    (frame : Frame α) (other : Frame β) : Prop where
  ancestors : frame.ancestors = other.ancestors
  bindings : Table.Paired names values frame.bindings other.bindings

namespace Scopes

variable {names : String → String → Prop} {values : α → β → Prop}

/-- Scopes with frames that belong together, one by one. -/
def Paired (names : String → String → Prop) (values : α → β → Prop) (scopes : Scopes α)
    (other : Scopes β) : Prop :=
  PairedArrays (Frame.Paired names values) scopes.frames other.frames

namespace Paired

variable {scopes : Scopes α} {other : Scopes β}

theorem empty : Paired names values ({} : Scopes α) ({} : Scopes β) where
  size := rfl
  item _ := by simp

theorem path (paired : Paired names values scopes other) (frame : FrameId) :
    scopes.path frame = other.path frame := by
  have here := paired.item frame
  rw [Scopes.path, Scopes.path, ancestors, ancestors]
  generalize scopes.frames[frame]? = found, other.frames[frame]? = second at here ⊢
  cases here with
  | none => rfl
  | some fits => exact congrArg (frame :: ·) fits.ancestors

theorem bindings (paired : Paired names values scopes other) (frame : FrameId) :
    Table.Paired names values (scopes.bindings frame) (other.bindings frame) := by
  have here := paired.item frame
  rw [Scopes.bindings, Scopes.bindings]
  generalize scopes.frames[frame]? = found, other.frames[frame]? = second at here ⊢
  cases here with
  | none => exact .nil
  | some fits => exact fits.bindings

section Names

variable {name renamed : String} (unique : Relator.BiUnique names)
  (paired : Paired names values scopes other) (related : names name renamed)
include unique paired related

theorem get? (frame : FrameId) :
    Option.Rel values (scopes.get? frame name) (other.get? frame renamed) := by
  rw [Scopes.get?, Scopes.get?, paired.path frame]
  induction other.path frame with
  | nil => exact .none
  | cons candidate frames inductionHypothesis =>
      have here := (paired.bindings candidate).get? unique related
      rw [List.findSome?_cons, List.findSome?_cons]
      generalize (scopes.bindings candidate).get? name = found,
        (other.bindings candidate).get? renamed = second at here ⊢
      cases here with
      | none => exact inductionHypothesis
      | some fits => exact .some fits

theorem owner? (frame : FrameId) : scopes.owner? frame name = other.owner? frame renamed := by
  rw [Scopes.owner?, Scopes.owner?, paired.path frame]
  congr 1
  funext candidate
  have here := (paired.bindings candidate).get? unique related
  rw [has, has]
  generalize (scopes.bindings candidate).get? name = found,
    (other.bindings candidate).get? renamed = second at here ⊢
  cases here <;> rfl

theorem define (frame : FrameId) {value : α} {second : β} (fits : values value second) :
    Paired names values (scopes.define frame name value) (other.define frame renamed second) := by
  unfold Scopes.Paired Scopes.define
  dsimp only
  refine PairedArrays.modify paired (fun stored present here => ?_) frame
  exact ⟨here.ancestors, here.bindings.set unique related fits⟩

end Names

theorem defineAll (unique : Relator.BiUnique names) (paired : Paired names values scopes other)
    (frame : FrameId) {bindings : Bindings α} {others : Bindings β}
    (fits : Table.Paired names values bindings others) :
    Paired names values (scopes.defineAll frame bindings) (other.defineAll frame others) := by
  induction fits generalizing scopes other with
  | nil => exact paired
  | cons here _ inductionHypothesis =>
      exact inductionHypothesis (paired.define unique here.1 frame here.2)

theorem add (paired : Paired names values scopes other) (ancestors : List FrameId) :
    Paired names values (scopes.add ancestors).2 (other.add ancestors).2 :=
  PairedArrays.push paired ⟨rfl, .nil⟩

theorem fst_nest (paired : Paired names values scopes other) (frame : FrameId) :
    (scopes.nest frame).1 = (other.nest frame).1 :=
  paired.size

theorem nest (paired : Paired names values scopes other) (frame : FrameId) :
    Paired names values (scopes.nest frame).2 (other.nest frame).2 := by
  rw [Scopes.nest, Scopes.nest, paired.path frame]
  exact paired.add _

end Paired

end Scopes

end CheckedScript
