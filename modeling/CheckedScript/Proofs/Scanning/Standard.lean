import CheckedScript.Text.Cluster

/-!
# The standard segmentation keeps to the laws

Segmentation by the tables looks at what stands before a character and never ahead, so a
text that stops at the border of a cluster has the clusters it had before, and what
follows such a border is segmented as a text of its own.  The laws that name characters
hold because of the classes of these characters, whatever the tables say of others.
-/

namespace CheckedScript

namespace Text

namespace ClusterClass

section Own

variable {character : Char}

theorem either_ne {holds : Prop} [Decidable holds] {first second own : ClusterClass}
    (one : first ≠ own) (other : second ≠ own) : (if holds then first else second) ≠ own := by
  split <;> assumption

theorem ofChar_ne_lineFeed (noFeed : character ≠ '\n') : ofChar character ≠ .lineFeed := by
  unfold ofChar
  dsimp only
  rw [if_neg noFeed]
  repeat' apply either_ne
  all_goals decide

theorem ofChar_ne_carriageReturn (noReturn : character ≠ '\r') :
    ofChar character ≠ .carriageReturn := by
  unfold ofChar
  dsimp only
  rw [if_neg noReturn]
  repeat' apply either_ne
  all_goals decide

theorem ofChar_of_isPlain (plain : IsPlain character) : ofChar character = .other := by
  obtain ⟨above, below⟩ := plain
  have noFeed : character ≠ '\n' := by
    rintro rfl
    exact absurd above (by decide)
  have noReturn : character ≠ '\r' := by
    rintro rfl
    exact absurd above (by decide)
  have printable : (0x20 ≤ character.toNat && character.toNat < 0x7f) = true := by
    rw [Bool.and_eq_true, decide_eq_true_eq, decide_eq_true_eq]
    exact ⟨above, below⟩
  unfold ofChar
  dsimp only
  rw [if_neg noFeed, if_neg noReturn, if_pos printable]

end Own

end ClusterClass

/-- Characters of which the second never joins a cluster that ends with the first. -/
def Apart (last next : Char) : Prop :=
  ∀ context : Context, context.last = .ofChar last → context.joins (.ofChar next) = false

/-- Parted neighbours never share a cluster. -/
theorem Parted.never_joins {last next : Char} (parted : Parted last next) : Apart last next := by
  obtain ⟨noLineEnd, apart⟩ := parted
  intro context ended
  unfold Context.joins
  rw [ended]
  rcases apart with (rfl | rfl | rfl) | (rfl | rfl | rfl) | ⟨plainLast, plainNext⟩
  · rfl
  · rfl
  · have noFeed := ClusterClass.ofChar_ne_lineFeed fun feed => noLineEnd ⟨rfl, feed⟩
    have isReturn : ClusterClass.ofChar '\r' = .carriageReturn := rfl
    rw [isReturn]
    cases found : ClusterClass.ofChar next <;> first | rfl | exact absurd found noFeed
  · have isControl : ClusterClass.ofChar '\t' = .control := rfl
    rw [isControl]
    cases ClusterClass.ofChar last <;> rfl
  · have noReturn := ClusterClass.ofChar_ne_carriageReturn fun isReturn => noLineEnd ⟨isReturn, rfl⟩
    have isFeed : ClusterClass.ofChar '\n' = .lineFeed := rfl
    rw [isFeed]
    cases found : ClusterClass.ofChar last <;> first | rfl | exact absurd found noReturn
  · have isReturn : ClusterClass.ofChar '\r' = .carriageReturn := rfl
    rw [isReturn]
    cases ClusterClass.ofChar last <;> rfl
  · rw [ClusterClass.ofChar_of_isPlain plainLast, ClusterClass.ofChar_of_isPlain plainNext]

section Apart

variable {last : Char} {after : List Char}

theorem segment_of_apart {context : Context} (ended : context.last = .ofChar last)
    (apart : ∀ next ∈ after.head?, Apart last next) :
    segment context after = ([], clusters after) := by
  cases after with
  | nil => rfl
  | cons next after => simp [segment, clusters, apart next rfl context ended]

theorem segment_append_of_apart (context : Context) (before : List Char)
    (apart : ∀ next ∈ after.head?, Apart last next) :
    segment context (before ++ last :: after) =
      ((segment context (before ++ [last])).1,
        (segment context (before ++ [last])).2 ++ clusters after) := by
  induction before generalizing context with
  | nil =>
      have pushed : segment (context.push (.ofChar last)) after = ([], clusters after) :=
        segment_of_apart rfl apart
      have started : segment (.start (.ofChar last)) after = ([], clusters after) :=
        segment_of_apart rfl apart
      simp only [List.nil_append, segment]
      split <;> simp [pushed, started]
  | cons character before inductionHypothesis =>
      simp only [List.cons_append, segment]
      split <;> simp [inductionHypothesis]

/-- Segmentation starts anew between characters that never share a cluster. -/
theorem clusters_append_of_apart (before : List Char)
    (apart : ∀ next ∈ after.head?, Apart last next) :
    clusters (before ++ last :: after) = clusters (before ++ [last]) ++ clusters after := by
  cases before with
  | nil =>
      have restart : segment (.start (.ofChar last)) after = ([], clusters after) :=
        segment_of_apart rfl apart
      simp [clusters, segment, restart]
  | cons character before =>
      rw [List.cons_append, List.cons_append, clusters, clusters, segment_append_of_apart _ _ apart]
      rfl

end Apart

theorem segment_take {context : Context} {characters : List Char} {rest : Cluster}
    {first others : List Cluster} (cut : segment context characters = (rest, first ++ others)) :
    segment context (rest ++ first.flatten) = (rest, first) := by
  induction characters generalizing context rest first with
  | nil =>
      simp only [segment, Prod.mk.injEq, List.nil_eq, List.append_eq_nil_iff] at cut
      obtain ⟨rfl, rfl, -⟩ := cut
      rfl
  | cons character characters inductionHypothesis =>
      simp only [segment] at cut
      split at cut
      · next joined =>
          obtain ⟨rfl, following⟩ := Prod.mk.inj cut
          have shorter := inductionHypothesis (Prod.ext rfl following)
          simp [segment, joined, shorter]
      · next apart =>
          obtain ⟨rfl, following⟩ := Prod.mk.inj cut
          cases first with
          | nil => rfl
          | cons cluster first =>
              obtain ⟨rfl, later⟩ := List.cons.inj following
              have shorter := inductionHypothesis (Prod.ext rfl later)
              simp [segment, apart, shorter]

/-- A text that stops at the border of a cluster keeps its clusters. -/
theorem clusters_take {characters : List Char} {first others : List Cluster}
    (cut : clusters characters = first ++ others) : clusters first.flatten = first := by
  cases characters with
  | nil =>
      obtain ⟨rfl, -⟩ := List.append_eq_nil_iff.1 cut.symm
      rfl
  | cons character characters =>
      cases first with
      | nil => rfl
      | cons cluster first =>
          obtain ⟨rfl, following⟩ := List.cons.inj cut
          have shorter := segment_take (Prod.ext rfl following)
          simp [clusters, shorter]

theorem segment_drop {context : Context} {characters : List Char} {rest : Cluster}
    {others : List Cluster} (cut : segment context characters = (rest, others)) :
    clusters others.flatten = others := by
  induction characters generalizing context rest others with
  | nil =>
      obtain ⟨-, rfl⟩ := Prod.mk.inj cut
      rfl
  | cons character characters inductionHypothesis =>
      simp only [segment] at cut
      split at cut
      · obtain ⟨-, rfl⟩ := Prod.mk.inj cut
        exact inductionHypothesis rfl
      · obtain ⟨-, rfl⟩ := Prod.mk.inj cut
        rw [List.flatten_cons, List.cons_append, segment_flatten, clusters]

/-- What follows the border of a cluster keeps its clusters. -/
theorem clusters_drop {characters : List Char} {before after : List Cluster}
    (cut : clusters characters = before ++ after) : clusters after.flatten = after := by
  induction before generalizing characters with
  | nil => rw [← List.nil_append after, ← cut, clusters_flatten, cut]
  | cons cluster before inductionHypothesis =>
      cases characters with
      | nil => cases cut
      | cons character characters =>
          obtain ⟨-, following⟩ := List.cons.inj cut
          have shorter : clusters (before ++ after).flatten = before ++ after :=
            segment_drop (Prod.ext rfl following)
          exact inductionHypothesis shorter

theorem segment_ne_nil (context : Context) (characters : List Char) :
    ∀ cluster ∈ (segment context characters).2, cluster ≠ [] := by
  induction characters generalizing context with
  | nil => simp [segment]
  | cons character characters inductionHypothesis =>
      simp only [segment]
      split
      · exact inductionHypothesis _
      · exact List.forall_mem_cons.2 ⟨List.cons_ne_nil _ _, inductionHypothesis _⟩

theorem clusters_ne_nil (characters : List Char) :
    ∀ cluster ∈ clusters characters, cluster ≠ [] := by
  cases characters with
  | nil => simp [clusters]
  | cons character characters =>
      exact List.forall_mem_cons.2 ⟨List.cons_ne_nil _ _, segment_ne_nil _ _⟩

end Text

/-- Programs are run with a segmentation that keeps to the laws. -/
theorem Segmentation.standard_lawful : Segmentation.standard.Lawful where
  lossless := Text.clusters_flatten
  nonempty := Text.clusters_ne_nil
  keepsFront _ _ _ cut := Text.clusters_take cut
  keepsBack _ _ _ cut := Text.clusters_drop cut
  lineEnd := rfl
  cuts front last next back parted := by
    refine Text.clusters_append_of_apart front fun other starts => ?_
    cases starts
    exact parted.never_joins

end CheckedScript
