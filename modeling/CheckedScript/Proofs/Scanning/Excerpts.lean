import CheckedScript.Proofs.Scanning.Respacing

/-!
# The line of a lexeme

The scanner counts line ends that are clusters, and an excerpt is a line between two line
feeds without the carriage returns at its end.  Both speak of the same line: it starts
where segmentation starts anew, so it has the clusters that the source text has there, and
a lexeme within it ends before any carriage return that is cut off.
-/

namespace CheckedScript

section Lines

theorem length_sourceLines (text : List Char) :
    (sourceLines text).length = text.count '\n' + 1 := by
  induction text with
  | nil => rfl
  | cons character text inductionHypothesis =>
      rw [sourceLines]
      by_cases feed : character = '\n'
      · simp [feed, inductionHypothesis]
      · rw [if_neg feed, List.count_cons_of_ne feed]
        cases shape : sourceLines text with
        | nil => simp [shape] at inductionHypothesis
        | cons line lines => rwa [shape] at inductionHypothesis

theorem sourceLines_lineFeed (first rest : List Char) :
    sourceLines (first ++ '\n' :: rest) = sourceLines first ++ sourceLines rest := by
  induction first with
  | nil => rfl
  | cons character first inductionHypothesis =>
      rw [List.cons_append, sourceLines, sourceLines, inductionHypothesis]
      have length := length_sourceLines first
      cases shape : sourceLines first with
      | nil => simp [shape] at length
      | cons line lines => split <;> rfl

theorem sourceLines_zero (text : List Char) :
    (sourceLines text)[0]? = some (text.takeWhile (· ≠ '\n')) := by
  induction text with
  | nil => rfl
  | cons character text inductionHypothesis =>
      rw [sourceLines]
      by_cases feed : character = '\n'
      · simp [feed]
      · cases shape : sourceLines text with
        | nil => simp [shape] at inductionHypothesis
        | cons line lines =>
            rw [shape] at inductionHypothesis
            simp only [List.getElem?_cons_zero, Option.some.injEq] at inductionHypothesis
            simp [feed, inductionHypothesis]

/-- The line in which a text is cut is made of what stands on both sides of the cut. -/
theorem sourceLines_append (before after : List Char) :
    (sourceLines (before ++ after))[before.count '\n']? =
      some (before.rtakeWhile (· ≠ '\n') ++ after.takeWhile (· ≠ '\n')) := by
  have split := List.rdropWhile_append_rtakeWhile (p := (· ≠ '\n')) (l := before)
  have single : ∀ character ∈ before.rtakeWhile (· ≠ '\n'), decide (character ≠ '\n') = true :=
    fun character member => List.mem_rtakeWhile_imp (p := (· ≠ '\n')) member
  have stops := List.rdropWhile_last_not (· ≠ '\n') before
  generalize before.rtakeWhile (· ≠ '\n') = last at split single
  generalize before.rdropWhile (· ≠ '\n') = front at split stops
  have absent : '\n' ∉ last := fun member => by simpa using single _ member
  subst split
  rw [List.count_append, List.count_eq_zero_of_not_mem absent, Nat.add_zero, List.append_assoc,
    ← List.takeWhile_append_of_pos single]
  cases shape : front using List.reverseRecOn with
  | nil => exact sourceLines_zero _
  | append_singleton lines feed =>
      obtain rfl : feed = '\n' := by simpa [shape] using stops
      rw [List.append_assoc, List.singleton_append, sourceLines_lineFeed, List.count_append,
        List.count_singleton_self, ← length_sourceLines, List.getElem?_append_right (Nat.le_refl _),
        Nat.sub_self]
      exact sourceLines_zero _

/-- The excerpt that shows a place in a source text. -/
theorem sourceLine?_after (segmentation : Segmentation) {source : String}
    {before after : List Char} (cut : source.toList = before ++ after) :
    sourceLine? source (segmentation.after before).line =
      some (String.ofList (trimCarriageReturns
        (before.rtakeWhile (· ≠ '\n') ++ after.takeWhile (· ≠ '\n')))) := by
  have line : (segmentation.after before).line = (before.count '\n' : Int) := rfl
  rw [sourceLine?, line, if_neg (by omega), Int.toNat_natCast, cut, sourceLines_append]
  rfl

/-- No excerpt goes beyond a line. -/
theorem not_mem_excerpt (before after : List Char) :
    '\n' ∉ trimCarriageReturns (before.rtakeWhile (· ≠ '\n') ++ after.takeWhile (· ≠ '\n')) := by
  intro member
  have inLine := (List.rdropWhile_prefix _ _).subset member
  rcases List.mem_append.1 inLine with left | right
  · simpa using List.mem_rtakeWhile_imp left
  · simpa using List.mem_takeWhile_imp right

theorem trimCarriageReturns_append {line returns : List Char}
    (isReturn : ∀ character ∈ returns, character = '\r')
    (solid : ∀ character ∈ line.getLast?, character ≠ '\r') :
    trimCarriageReturns (line ++ returns) = line := by
  rw [trimCarriageReturns, List.reverse_append, List.dropWhile_append_of_pos
    (by simpa using isReturn)]
  cases shape : line.reverse with
  | nil => simpa using shape.symm
  | cons last front =>
      have different : last ≠ '\r' := solid last (by simp [← List.head?_reverse, shape])
      rw [List.dropWhile_cons_of_neg (by simpa using different), ← shape, List.reverse_reverse]

end Lines

namespace Lexis

open Text (Cluster)
open Scanner

/-- Clusters of a source text in which a lexeme stands; the last of them is no carriage
return. -/
def Stands (segmentation : Segmentation) (source : List Char) (token : Token) : Prop :=
  ∃ passed taken rest, segmentation.clusters source = passed ++ (taken ++ rest) ∧
    token.position = place segmentation passed ∧ token.lexeme = joined taken ∧
    ∃ front last, taken = front ++ [last] ∧ last ≠ ['\r']

section Stands

variable {segmentation : Segmentation} {characters : List Char}
  {passed taken rest list : List Cluster} {kind : Kind} {payload : Option Payload}

theorem Lexeme.last (lexeme : Lexeme taken kind payload) :
    ∃ front last, taken = front ++ [last] ∧ last ≠ ['\r'] := by
  rcases lexeme.marks_or_quoted with marks | ⟨body, rfl, -⟩
  · obtain ⟨front, last, rfl⟩ := (List.eq_nil_or_concat taken).resolve_left lexeme.ne_nil
    rw [List.concat_eq_append] at marks ⊢
    refine ⟨front, last, rfl, ?_⟩
    rintro rfl
    exact not_blank_of_mark (marks _ (by simp)) .carriageReturn
  · exact ⟨['"'] :: body, ['"'], rfl, by decide⟩

/-- Tokens and faults stand where the scanner says. -/
theorem Cut.stands {tokens : List Token} {faults : List Diagnostic}
    (cut : Cut segmentation passed list tokens faults)
    (source : segmentation.clusters characters = passed ++ list) :
    (∀ token ∈ tokens, Stands segmentation characters token) ∧
      ∀ fault ∈ faults, Stands segmentation characters fault.token := by
  induction cut with
  | done => exact ⟨by simp, by simp⟩
  | @next passed taken rest _ _ _ takes _ inductionHypothesis =>
      obtain ⟨laterTokens, laterFaults⟩ := inductionHypothesis (by rw [source, List.append_assoc])
      constructor
      · refine List.forall_mem_append.2 ⟨fun token here => ?_, laterTokens⟩
        cases takes with
        | lexeme lexeme =>
            obtain rfl := List.mem_singleton.1 here
            exact ⟨passed, taken, rest, source, rfl, rfl, lexeme.last⟩
        | blank | comment | openText | unexpected => cases here
      · refine List.forall_mem_append.2 ⟨fun fault here => ?_, laterFaults⟩
        cases takes with
        | @openText body =>
            obtain rfl := List.mem_singleton.1 here
            refine ⟨passed, [['"']], body, ?_, rfl, rfl, [], ['"'], rfl, by decide⟩
            rw [source, List.append_nil, List.singleton_append]
        | @unexpected first _ noBlank =>
            obtain rfl := List.mem_singleton.1 here
            refine ⟨passed, [first], rest, source, rfl, rfl, [], first, rfl, ?_⟩
            rintro rfl
            exact noBlank .carriageReturn
        | blank | comment | lexeme => cases here

/-- A line starts at the border of a cluster. -/
theorem exists_lineStart (lawful : segmentation.Lawful)
    (cut : segmentation.clusters characters = passed ++ rest) :
    ∃ earlier before, passed = earlier ++ before ∧
      passed.flatten.rtakeWhile (· ≠ '\n') = before.flatten ∧
      (place segmentation passed).column = before.length := by
  have start := rtakeWhile_flatten (feedsAtEnds_of_clusters lawful cut)
  refine ⟨_, _, (List.rdropWhile_append_rtakeWhile (p := (!isNewline ·))).symm, start, ?_⟩
  rw [place, Segmentation.after, start, clusters_rtakeWhile lawful cut]

/-- A line ends at the border of a cluster, apart from carriage returns. -/
theorem exists_lineEnd {list : List Cluster} (feeds : FeedsAtEnds list) :
    ∃ after ending returns, list = after ++ ending ∧
      list.flatten.takeWhile (· ≠ '\n') = after.flatten ++ returns ∧
      (∀ character ∈ returns, character = '\r') ∧ ∀ last ∈ after.getLast?, last ≠ ['\r'] := by
  induction list with
  | nil => exact ⟨[], [], [], rfl, rfl, by simp, by simp⟩
  | cons cluster list inductionHypothesis =>
      cases ends : isNewline cluster with
      | true =>
          refine ⟨[], cluster :: list, if cluster = ['\n'] then [] else ['\r'], rfl, ?_, ?_, by simp⟩
          · rcases isNewline_iff.1 ends with _ | _ <;> simp
          · split <;> simp
      | false =>
          obtain ⟨after, ending, returns, rfl, line, isReturn, solid⟩ :=
            inductionHypothesis fun other member => feeds other (List.mem_cons_of_mem _ member)
          have inner : ∀ character ∈ cluster, decide (character ≠ '\n') = true := by
            intro character member
            refine decide_eq_true fun same => ?_
            have feed := feeds cluster List.mem_cons_self (same ▸ member)
            rw [ends] at feed
            cases feed
          rw [List.flatten_cons, List.takeWhile_append_of_pos inner, line]
          by_cases blank : cluster = ['\r'] ∧ after = []
          · obtain ⟨rfl, rfl⟩ := blank
            exact ⟨[], ['\r'] :: ending, '\r' :: returns, rfl, rfl,
              List.forall_mem_cons.2 ⟨rfl, isReturn⟩, by simp⟩
          · refine ⟨cluster :: after, ending, returns, rfl, ?_, isReturn, ?_⟩
            · rw [List.flatten_cons, List.append_assoc]
            · cases after with
              | nil => simpa using blank
              | cons next after => rwa [List.getLast?_cons_cons]

theorem getLast?_flatten (lawful : segmentation.Lawful) {list : List Cluster}
    (members : ∀ cluster ∈ list, cluster ∈ segmentation.clusters characters)
    (solid : ∀ last ∈ list.getLast?, last ≠ ['\r']) :
    ∀ character ∈ list.flatten.getLast?, character ≠ '\r' := by
  cases shape : list using List.reverseRecOn with
  | nil => simp
  | append_singleton front last =>
      subst shape
      have inside := members last (by simp)
      have present := lawful.nonempty characters last inside
      intro character found same
      rw [List.flatten_append, List.flatten_singleton, List.getLast?_append_of_ne_nil _ present,
        same] at found
      exact solid last (by simp) (lawful.eq_of_getLast?_carriageReturn inside found)

/-- The line of a lexeme without line feeds has the clusters of the lexeme where the
position of the lexeme says. -/
theorem exists_excerpt (lawful : segmentation.Lawful) {source : String}
    (cut : segmentation.clusters source.toList = passed ++ (taken ++ rest))
    (solid : ∃ front last, taken = front ++ [last] ∧ last ≠ ['\r'])
    (single : '\n' ∉ taken.flatten) :
    ∃ before after line, sourceLine? source (place segmentation passed).line = some line ∧
      segmentation.clusters line.toList = before ++ (taken ++ after) ∧
      (place segmentation passed).column = before.length := by
  have whole : source.toList = passed.flatten ++ (taken ++ rest).flatten := by
    rw [← List.flatten_append, ← cut, lawful.lossless]
  have members : ∀ cluster ∈ taken ++ rest, cluster ∈ segmentation.clusters source.toList :=
    fun cluster member => cut ▸ List.mem_append_right passed member
  have feeds : FeedsAtEnds rest := fun cluster member =>
    lawful.isNewline_of_mem (members cluster (List.mem_append_right taken member))
  obtain ⟨earlier, before, rfl, start, column⟩ := exists_lineStart lawful cut
  obtain ⟨after, ending, returns, rfl, stop, isReturn, solidAfter⟩ := exists_lineEnd feeds
  have line : segmentation.clusters source.toList =
      earlier ++ ((before ++ (taken ++ after)) ++ ending) := by
    rw [cut]
    simp only [List.append_assoc]
  have inner : ∀ character ∈ taken.flatten, decide (character ≠ '\n') = true :=
    fun character member => decide_eq_true fun same => single (same ▸ member)
  refine ⟨before, after, _, sourceLine?_after segmentation whole, ?_, column⟩
  rw [start, List.flatten_append, List.takeWhile_append_of_pos inner, stop, String.toList_ofList,
    ← List.append_assoc, ← List.append_assoc, ← List.flatten_append, ← List.flatten_append,
    trimCarriageReturns_append isReturn, List.append_assoc, lawful.clusters_between line]
  have inSource : ∀ cluster ∈ before ++ taken ++ after,
      cluster ∈ segmentation.clusters source.toList := by
    intro cluster member
    rw [line, ← List.append_assoc before]
    exact List.mem_append_right _ (List.mem_append_left _ member)
  refine getLast?_flatten lawful inSource ?_
  obtain ⟨front, last, rfl, different⟩ := solid
  cases after using List.reverseRecOn with
  | nil =>
      rw [List.append_nil, ← List.append_assoc, List.getLast?_concat]
      simpa using different
  | append_singleton others final =>
      rw [← List.append_assoc, List.getLast?_concat]
      simpa using solidAfter

end Stands

end Lexis

end CheckedScript
