import CheckedScript.Proofs.Scanning.Clusters

/-!
# Lines of a text

Segmentation starts anew after every line feed, so the clusters of a text since its last
line end are the clusters of its last line.  A position says how many line feeds stand
before it, and how many clusters since the last of them.
-/

namespace CheckedScript

/-- The position at the end of a text: the line feeds in it, and the clusters since
the last one. -/
def Segmentation.after (segmentation : Segmentation) (text : List Char) : Position where
  line := text.count '\n'
  column := (segmentation.clusters (text.rtakeWhile (· ≠ '\n'))).length

namespace Scanner

open Text (Cluster)

theorem exists_of_isNewline {cluster : Cluster} (ends : isNewline cluster = true) :
    ∃ front, cluster = front ++ ['\n'] ∧ '\n' ∉ front := by
  simp only [isNewline, Bool.or_eq_true, decide_eq_true_eq] at ends
  rcases ends with rfl | rfl
  · exact ⟨[], rfl, by simp⟩
  · exact ⟨['\r'], rfl, by decide⟩

/-- Line feeds occur in line ends only. -/
def FeedsAtEnds (list : List Cluster) : Prop :=
  ∀ cluster ∈ list, '\n' ∈ cluster → isNewline cluster = true

theorem feedsAtEnds_of_clusters {segmentation : Segmentation} (lawful : segmentation.Lawful)
    {characters : List Char} {first others : List Cluster}
    (cut : segmentation.clusters characters = first ++ others) : FeedsAtEnds first :=
  fun _ member => lawful.isNewline_of_mem (cut ▸ List.mem_append_left others member)

theorem FeedsAtEnds.init {list : List Cluster} {last : Cluster}
    (feeds : FeedsAtEnds (list ++ [last])) : FeedsAtEnds list :=
  fun cluster member => feeds cluster (List.mem_append_left _ member)

theorem count_flatten {list : List Cluster} (feeds : FeedsAtEnds list) :
    list.flatten.count '\n' = list.countP isNewline := by
  induction list with
  | nil => rfl
  | cons cluster list inductionHypothesis =>
      have later := inductionHypothesis fun other member =>
        feeds other (List.mem_cons_of_mem _ member)
      have first := feeds cluster List.mem_cons_self
      rw [List.flatten_cons, List.count_append, List.countP_cons, later, Nat.add_comm]
      cases ends : isNewline cluster with
      | false =>
          have none : '\n' ∉ cluster := fun member => by simp [ends] at first; exact first member
          simp [List.count_eq_zero_of_not_mem none]
      | true =>
          obtain ⟨front, rfl, none⟩ := exists_of_isNewline ends
          simp [List.count_eq_zero_of_not_mem none]

/-- The last line of a text is made of the clusters since the last line end. -/
theorem rtakeWhile_flatten {list : List Cluster} (feeds : FeedsAtEnds list) :
    list.flatten.rtakeWhile (· ≠ '\n') = (list.rtakeWhile (!isNewline ·)).flatten := by
  induction list using List.reverseRecOn with
  | nil => rfl
  | append_singleton list cluster inductionHypothesis =>
      rw [List.rtakeWhile_concat, List.flatten_append, List.flatten_singleton]
      cases ends : isNewline cluster with
      | false =>
          have last := feeds cluster (by simp)
          have none : '\n' ∉ cluster := fun member => by simp [ends] at last; exact last member
          have whole : ∀ character ∈ cluster.reverse, decide (character ≠ '\n') = true := by
            intro character member
            rw [List.mem_reverse] at member
            simpa using fun same : character = '\n' => none (same ▸ member)
          rw [Bool.not_false, if_pos rfl, List.flatten_append, List.flatten_singleton,
            ← inductionHypothesis feeds.init, List.rtakeWhile, List.reverse_append,
            List.takeWhile_append_of_pos whole, List.reverse_append, List.reverse_reverse,
            List.rtakeWhile]
      | true =>
          obtain ⟨front, rfl, -⟩ := exists_of_isNewline ends
          rw [← List.append_assoc, List.rtakeWhile_concat]
          simp

/-- The clusters since the last line end are the clusters of the last line. -/
theorem clusters_rtakeWhile {segmentation : Segmentation} (lawful : segmentation.Lawful)
    {characters : List Char} {first others : List Cluster}
    (cut : segmentation.clusters characters = first ++ others) :
    segmentation.clusters (first.rtakeWhile (!isNewline ·)).flatten =
      first.rtakeWhile (!isNewline ·) := by
  have split := List.rdropWhile_append_rtakeWhile (p := (!isNewline ·)) (l := first)
  rw [← split, List.append_assoc] at cut
  exact lawful.clusters_between cut

theorem foldl_advance (list : List Cluster) :
    list.foldl advance Position.origin =
      { line := list.countP isNewline, column := (list.rtakeWhile (!isNewline ·)).length } := by
  induction list using List.reverseRecOn with
  | nil => rfl
  | append_singleton list cluster inductionHypothesis =>
      rw [List.foldl_append, List.foldl_cons, List.foldl_nil, inductionHypothesis, advance,
        List.rtakeWhile_concat, List.countP_append]
      cases ends : isNewline cluster <;> simp [ends]

/-- Walking over the first clusters of a text leads to the position after them. -/
theorem foldl_advance_eq_after {segmentation : Segmentation} (lawful : segmentation.Lawful)
    {characters : List Char} {first others : List Cluster}
    (cut : segmentation.clusters characters = first ++ others) :
    first.foldl advance Position.origin = segmentation.after first.flatten := by
  have feeds := feedsAtEnds_of_clusters lawful cut
  rw [foldl_advance, Segmentation.after, count_flatten feeds, rtakeWhile_flatten feeds,
    clusters_rtakeWhile lawful cut]

end Scanner

end CheckedScript
