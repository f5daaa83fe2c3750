import CheckedScript.Token.Scanner
import Mathlib.Data.List.DropRight

/-!
# Clusters of a text

What follows from the laws of segmentation.  A part of a text that begins and ends at
borders of clusters has the clusters it had in the text.  A cluster holds no neighbours
between which every text is cut, so a line feed is a cluster of its own or closes the
cluster that a carriage return began, and a cluster that a carriage return ends is
nothing else.
-/

namespace CheckedScript

namespace Text

theorem parted_lineFeed (next : Char) : Parted '\n' next where
  noLineEnd ends := absurd ends.1 (by decide)
  apart := .inl (.inr (.inl rfl))

theorem parted_carriageReturn (last : Char) : Parted last '\r' where
  noLineEnd ends := absurd ends.2 (by decide)
  apart := .inr (.inl (.inr (.inr rfl)))

theorem parted_feed {last : Char} (noReturn : last ≠ '\r') : Parted last '\n' where
  noLineEnd ends := noReturn ends.1
  apart := .inr (.inl (.inr (.inl rfl)))

end Text

namespace Segmentation.Lawful

open Text

variable {segmentation : Segmentation} (lawful : segmentation.Lawful)
include lawful

theorem clusters_nil : segmentation.clusters [] = [] := by
  refine List.eq_nil_iff_forall_not_mem.2 fun cluster member => ?_
  have nothing : cluster = [] :=
    List.flatten_eq_nil_iff.1 (lawful.lossless []) cluster member
  exact lawful.nonempty [] cluster member nothing

theorem clusters_ne_nil {text : List Char} (present : text ≠ []) :
    segmentation.clusters text ≠ [] := by
  intro nothing
  have whole := lawful.lossless text
  rw [nothing, List.flatten_nil] at whole
  exact present whole.symm

/-- What is cut out of a text at the borders of clusters keeps its clusters. -/
theorem clusters_between {text : List Char} {front taken back : List Cluster}
    (cut : segmentation.clusters text = front ++ (taken ++ back)) :
    segmentation.clusters taken.flatten = taken :=
  lawful.keepsFront _ _ _ (lawful.keepsBack _ _ _ cut)

theorem clusters_of_mem {text : List Char} {cluster : Cluster}
    (member : cluster ∈ segmentation.clusters text) :
    segmentation.clusters cluster = [cluster] := by
  obtain ⟨front, back, split⟩ := List.append_of_mem member
  have alone : segmentation.clusters [cluster].flatten = [cluster] :=
    lawful.clusters_between split
  rwa [List.flatten_singleton] at alone

/-- Segmentation starts anew between parted neighbours. -/
theorem clusters_append (front : List Char) {last : Char} {back : List Char}
    (parted : ∀ next ∈ back.head?, Parted last next) :
    segmentation.clusters (front ++ last :: back) =
      segmentation.clusters (front ++ [last]) ++ segmentation.clusters back := by
  cases back with
  | nil => rw [lawful.clusters_nil, List.append_nil]
  | cons next back => exact lawful.cuts front last next back (parted next rfl)

/-- Segmentation starts anew after a line feed. -/
theorem clusters_append_lineFeed (front back : List Char) :
    segmentation.clusters (front ++ '\n' :: back) =
      segmentation.clusters (front ++ ['\n']) ++ segmentation.clusters back :=
  lawful.clusters_append front fun next _ => parted_lineFeed next

theorem clusters_append_carriageReturn (front back : List Char) :
    segmentation.clusters (front ++ '\r' :: back) =
      segmentation.clusters front ++ segmentation.clusters ('\r' :: back) := by
  cases front using List.reverseRecOn with
  | nil => rw [lawful.clusters_nil, List.nil_append, List.nil_append]
  | append_singleton front last =>
      rw [List.append_assoc, List.singleton_append]
      exact lawful.cuts front last '\r' back (parted_carriageReturn last)

/-- A cluster holds no parted neighbours. -/
theorem not_parted {text front back : List Char} {last next : Char}
    (member : front ++ last :: next :: back ∈ segmentation.clusters text) :
    ¬ Parted last next := by
  intro parted
  have alone := lawful.clusters_of_mem member
  rw [lawful.cuts front last next back parted] at alone
  have early := List.length_pos_of_ne_nil
    (lawful.clusters_ne_nil (List.append_ne_nil_of_right_ne_nil front (List.cons_ne_nil last [])))
  have late := List.length_pos_of_ne_nil (lawful.clusters_ne_nil (List.cons_ne_nil next back))
  have both := congrArg List.length alone
  rw [List.length_append, List.length_singleton] at both
  omega

theorem clusters_singleton (character : Char) :
    segmentation.clusters [character] = [[character]] := by
  have whole := lawful.lossless [character]
  have present := lawful.nonempty [character]
  match shape : segmentation.clusters [character] with
  | [] =>
      rw [shape] at whole
      cases whole
  | cluster :: others =>
      rw [shape] at whole present
      obtain ⟨first, tail, rfl⟩ := List.exists_cons_of_ne_nil (present cluster List.mem_cons_self)
      rw [List.flatten_cons, List.cons_append, List.cons.injEq, List.append_eq_nil_iff] at whole
      obtain ⟨rfl, rfl, nothing⟩ := whole
      cases others with
      | nil => rfl
      | cons other others =>
          have empty := List.flatten_eq_nil_iff.1 nothing other List.mem_cons_self
          exact absurd empty (present other (by simp))

/-- A cluster that a carriage return ends is nothing else. -/
theorem eq_of_getLast?_carriageReturn {text : List Char} {cluster : Cluster}
    (member : cluster ∈ segmentation.clusters text) (ends : cluster.getLast? = some '\r') :
    cluster = ['\r'] := by
  obtain ⟨front, rfl⟩ := List.getLast?_eq_some_iff.1 ends
  cases front using List.reverseRecOn with
  | nil => rfl
  | append_singleton front last =>
      rw [List.append_assoc, List.singleton_append] at member
      exact absurd (parted_carriageReturn last) (lawful.not_parted member)

/-- A cluster that holds a line feed is a line end. -/
theorem isNewline_of_mem {text : List Char} {cluster : Cluster}
    (member : cluster ∈ segmentation.clusters text) (feeds : '\n' ∈ cluster) :
    Scanner.isNewline cluster = true := by
  obtain ⟨front, back, rfl⟩ := List.append_of_mem feeds
  cases back with
  | cons next back => exact absurd (parted_lineFeed next) (lawful.not_parted member)
  | nil =>
      cases front using List.reverseRecOn with
      | nil => rfl
      | append_singleton front last =>
          rw [List.append_assoc, List.singleton_append] at member
          have isReturn : last = '\r' := by
            by_contra noReturn
            exact lawful.not_parted member (parted_feed noReturn)
          subst isReturn
          cases front using List.reverseRecOn with
          | nil => rfl
          | append_singleton front first =>
              rw [List.append_assoc, List.singleton_append] at member
              exact absurd (parted_carriageReturn first) (lawful.not_parted member)

end Segmentation.Lawful

end CheckedScript
