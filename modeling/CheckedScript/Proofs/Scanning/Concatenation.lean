import CheckedScript.Proofs.Moving.Trees
import CheckedScript.Proofs.Scanning.Excerpts

/-!
# Texts on lines of their own

Two texts with a line feed between them are scanned like each of them alone, the second one
further down.  The line feed joins nothing of the second text, and of the first one only a
carriage return at its end, which is a blank either way.  A lexeme that goes on beyond a line
end is a text between quotes, so all that the line end could spoil is a text that the first of
the two leaves open.
-/

namespace CheckedScript

/-- The same position a number of lines further down. -/
def Position.down (lines : Nat) (position : Position) : Position where
  line := position.line + lines
  column := position.column

namespace Lexis

open Text (Cluster)
open Scanner

variable {segmentation : Segmentation} (lawful : segmentation.Lawful)

/-- What a line feed behind a text may change: a carriage return at its end, if there is one. -/
def Trailing (ending : List Cluster) : Prop :=
  ending = [] ∨ ending = [['\r']]

include lawful in
/-- A line feed closes the cluster of a carriage return before it, or is one of its own. -/
theorem exists_feed (text : List Char) :
    ∃ front ending feed, segmentation.clusters text = front ++ ending ∧ Trailing ending ∧
      segmentation.clusters (text ++ ['\n']) = front ++ [feed] ∧ LineEnd feed := by
  cases text using List.reverseRecOn with
  | nil =>
      exact ⟨[], [], ['\n'], lawful.clusters_nil, .inl rfl, lawful.clusters_singleton '\n',
        .lineFeed⟩
  | append_singleton before last =>
      rw [List.append_assoc, List.singleton_append]
      by_cases isReturn : last = '\r'
      · subst isReturn
        refine ⟨segmentation.clusters before, [['\r']], ['\r', '\n'], ?_, .inr rfl, ?_, .both⟩
        · rw [lawful.clusters_append_carriageReturn, lawful.clusters_singleton]
        · rw [lawful.clusters_append_carriageReturn, lawful.lineEnd]
      · refine ⟨_, [], ['\n'], (List.append_nil _).symm, .inl rfl, ?_, .lineFeed⟩
        rw [lawful.cuts before last '\n' [] (Text.parted_feed isReturn), lawful.clusters_singleton]

section Pieces

variable {kind : Kind} {payload : Option Payload} {content : Content} {feed : Cluster}
  {taken front rest ending others : List Cluster}

/-- A lexeme that begins a text between quotes is the whole of it. -/
theorem Lexeme.eq_of_prefix_text (lexeme : Lexeme taken kind payload) {body : List Cluster}
    (inner : ∀ cluster ∈ body, cluster ≠ ['"'])
    (starts : taken <+: ['"'] :: body ++ [['"']]) : taken = ['"'] :: body ++ [['"']] := by
  obtain ⟨first, tail, rfl⟩ := List.exists_cons_of_ne_nil lexeme.ne_nil
  rw [List.cons_append] at starts ⊢
  obtain ⟨rfl, more, same⟩ := List.cons_prefix_cons.1 starts
  obtain ⟨front, rfl, noQuote, -, -⟩ := (lexeme_iff.1 lexeme).of_quote
  rw [List.append_assoc] at same
  rw [eq_of_span (p := (· = ['"'])) same noQuote inner (by simp) (by simp)]

/-- Only a text between quotes goes on beyond a line end. -/
theorem Lexeme.within_line (lexeme : Lexeme taken kind payload) (ends : LineEnd feed)
    (starts : taken <+: front ++ feed :: others) :
    taken <+: front ∨ front <+: taken ∧ front.length < taken.length ∧
      ∃ body, taken = ['"'] :: body ++ [['"']] ∧ ∀ cluster ∈ body, cluster ≠ ['"'] := by
  by_cases short : taken.length ≤ front.length
  · exact .inl (List.prefix_of_prefix_length_le starts (List.prefix_append _ _) short)
  · have line : front ++ [feed] <+: taken := by
      refine List.prefix_of_prefix_length_le ⟨others, by simp⟩ starts ?_
      rw [List.length_append, List.length_singleton]
      omega
    refine .inr ⟨(List.prefix_append _ _).trans line, by omega, ?_⟩
    rcases lexeme.marks_or_quoted with marks | quoted
    · exact absurd (.lineEnd ends) (not_blank_of_mark (marks feed (line.subset (by simp))))
    · exact quoted

theorem Longest.before_feed (lexeme : Lexeme taken kind payload)
    (longest : Longest taken (taken ++ (rest ++ ending))) (ends : LineEnd feed) :
    Longest taken (taken ++ (rest ++ feed :: others)) := by
  intro other otherKind otherPayload starts otherLexeme
  rw [← List.append_assoc] at starts longest
  rcases otherLexeme.within_line ends starts with short | ⟨long, _, body, rfl, inner⟩
  · exact longest other _ _ (short.trans (List.prefix_append _ _)) otherLexeme
  · rw [lexeme.eq_of_prefix_text inner ((List.prefix_append _ _).trans long)]

theorem Unmatched.before_feed {first : Cluster} (noQuote : first ≠ ['"'])
    (unmatched : Unmatched (first :: (rest ++ ending))) (ends : LineEnd feed) :
    Unmatched (first :: (rest ++ feed :: others)) := by
  intro other otherKind otherPayload starts otherLexeme
  rw [← List.cons_append] at starts unmatched
  rcases otherLexeme.within_line ends starts with short | ⟨⟨_, same⟩, _, body, rfl, _⟩
  · exact unmatched other _ _ (short.trans (List.prefix_append _ _)) otherLexeme
  · exact noQuote (List.cons.inj same).1

/-- The piece that reaches a carriage return at the end is a blank or a comment. -/
theorem Takes.of_trailing (takes : Takes taken rest content) (shape : taken = front ++ [['\r']])
    (closed : ∀ lexeme, content ≠ .refused .unterminatedText lexeme) (ends : LineEnd feed) :
    content = .skipped ∧ (front = [] ∨ Takes front (feed :: others) .skipped) := by
  cases takes with
  | blank =>
      obtain ⟨nothing, -⟩ := List.append_inj' (shape.symm.trans (List.nil_append _).symm) rfl
      exact ⟨rfl, .inl nothing⟩
  | comment inner =>
      cases front with
      | nil => cases shape
      | cons hash body =>
          obtain ⟨rfl, rfl⟩ := List.cons.inj shape
          refine ⟨rfl, .inr (.comment (List.forall_mem_append.1 inner).1 fun next starts => ?_)⟩
          cases starts
          exact ends
  | lexeme lexeme =>
      obtain ⟨before, last, same, noReturn⟩ := lexeme.last
      obtain ⟨-, returns⟩ := List.append_inj' (shape.symm.trans same) rfl
      exact absurd (List.cons.inj returns).1.symm noReturn
  | openText => exact absurd rfl (closed _)
  | unexpected noBlank =>
      obtain ⟨-, same⟩ := List.append_inj' (shape.symm.trans (List.nil_append _).symm) rfl
      exact absurd ((List.cons.inj same).1 ▸ .carriageReturn) noBlank

/-- Every other piece is cut off as before. -/
theorem Takes.before_feed (takes : Takes taken (rest ++ ending) content)
    (closed : ∀ lexeme, content ≠ .refused .unterminatedText lexeme) (ends : LineEnd feed) :
    Takes taken (rest ++ feed :: others) content := by
  generalize whole : rest ++ ending = remaining at takes
  cases takes with
  | blank blank => exact .blank blank
  | comment inner stops =>
      refine .comment inner fun next starts => ?_
      cases rest with
      | nil =>
          cases starts
          exact ends
      | cons first rest => exact stops next (whole ▸ starts)
  | lexeme lexeme longest =>
      rw [← whole] at longest
      exact .lexeme lexeme (longest.before_feed lexeme ends)
  | openText => exact absurd rfl (closed _)
  | unexpected noBlank noHash noQuote unmatched =>
      rw [← whole] at unmatched
      exact .unexpected noBlank noHash noQuote (unmatched.before_feed noQuote ends)

end Pieces

section Scans

variable {passed list front rest ending : List Cluster} {tokens moreTokens : List Token}
  {faults moreFaults : List Diagnostic}

/-- The pieces of a text stay what they are before a line end, and behind it segmentation and
scanning go on. -/
theorem Cut.before_feed (cut : Cut segmentation passed list tokens faults) (split : list = front ++ ending)
    (trailing : Trailing ending) (closed : ∀ fault ∈ faults, fault.cause ≠ .unterminatedText)
    {feed : Cluster} (ends : LineEnd feed)
    (more : Cut segmentation (passed ++ front ++ [feed]) rest moreTokens moreFaults) :
    Cut segmentation passed (front ++ feed :: rest) (tokens ++ moreTokens) (faults ++ moreFaults) := by
  induction cut generalizing front with
  | done =>
      obtain ⟨rfl, -⟩ := List.append_eq_nil_iff.1 split.symm
      rw [List.append_nil] at more
      exact .next (.blank (.lineEnd ends)) more
  | @next passed taken remaining content tokens faults takes later inductionHypothesis =>
      have stays : ∀ lexeme, content ≠ .refused .unterminatedText lexeme := by
        rintro lexeme rfl
        exact closed _ (List.mem_append_left _ (List.mem_singleton_self _)) rfl
      have laterClosed : ∀ fault ∈ faults, fault.cause ≠ .unterminatedText :=
        fun fault member => closed fault (List.mem_append_right _ member)
      by_cases inside : taken.length ≤ front.length
      · obtain ⟨front, rfl⟩ := List.prefix_of_prefix_length_le ⟨_, split⟩ (List.prefix_append _ _)
          inside
        rw [List.append_assoc] at split
        obtain rfl := List.append_cancel_left split
        rw [List.append_assoc, List.append_assoc, List.append_assoc]
        refine .next (takes.before_feed stays ends) ?_
        refine inductionHypothesis rfl laterClosed ?_
        rwa [List.append_assoc passed taken front]
      · -- The piece reaches the carriage return, so nothing is left behind it.
        obtain ⟨whole, rfl⟩ : taken = front ++ [['\r']] ∧ remaining = [] := by
          obtain ⟨beyond, rfl⟩ := List.prefix_of_prefix_length_le ⟨_, split.symm⟩
            (List.prefix_append taken remaining) (by omega)
          rw [List.append_assoc] at split
          have reached := List.append_cancel_left split
          rcases trailing with rfl | rfl
          · simp [(List.append_eq_nil_iff.1 reached).1] at inside
          · rcases List.append_eq_singleton_iff.1 reached with ⟨rfl, -⟩ | ⟨rfl, rfl⟩
            · simp at inside
            · exact ⟨rfl, rfl⟩
        obtain ⟨rfl, rfl⟩ := later.unique .done
        obtain ⟨rfl, rfl | comment⟩ : _ ∧ (front = [] ∨ Takes front (feed :: rest) .skipped) :=
          takes.of_trailing whole stays ends
        · rw [List.append_nil] at more
          exact .next (.blank (.lineEnd ends)) more
        · exact .next comment (.next (.blank (.lineEnd ends)) more)

/-- The last line of a text starts behind the last line feed. -/
theorem rtakeWhile_behind_feed (text more : List Char) :
    (text ++ '\n' :: more).rtakeWhile (· ≠ '\n') = more.rtakeWhile (· ≠ '\n') := by
  induction more using List.reverseRecOn with
  | nil => rw [List.rtakeWhile_concat_neg _ _ _ (by simp), List.rtakeWhile_nil]
  | append_singleton more last inductionHypothesis =>
      rw [← List.cons_append, ← List.append_assoc, List.rtakeWhile_concat, List.rtakeWhile_concat,
        inductionHypothesis]

/-- Behind whole lines every position is further down. -/
theorem place_down {lines : List Cluster} {text : List Char} (ends : lines.flatten = text ++ ['\n'])
    (passed : List Cluster) :
    place segmentation (lines ++ passed) =
      (place segmentation passed).down (text.count '\n' + 1) := by
  have whole : (lines ++ passed).flatten = text ++ '\n' :: passed.flatten := by
    rw [List.flatten_append, ends, List.append_assoc, List.singleton_append]
  have feeds : (text ++ '\n' :: passed.flatten).count '\n' =
      passed.flatten.count '\n' + (text.count '\n' + 1) := by
    rw [List.count_append, List.count_cons_self]
    omega
  rw [place, place, Segmentation.after, Segmentation.after, Position.down, whole,
    rtakeWhile_behind_feed, feeds]
  rfl

theorem Cut.down {lines : List Cluster} {text : List Char} (ends : lines.flatten = text ++ ['\n'])
    (cut : Cut segmentation passed list tokens faults) :
    Cut segmentation (lines ++ passed) list
      (tokens.map (Token.move (Position.down (text.count '\n' + 1))))
      (faults.map (Diagnostic.move (Position.down (text.count '\n' + 1)))) := by
  induction cut with
  | done => exact .done
  | @next passed taken rest content _ _ takes _ inductionHypothesis =>
      rw [← List.append_assoc] at inductionHypothesis
      have next := Cut.next takes inductionHypothesis
      rw [List.map_append, List.map_append]
      cases content <;>
        simpa [tokenOf, faultOf, place_down ends, Token.move, Diagnostic.move] using next

end Scans

/-- A text and another one on the lines below it are scanned like each of them alone, unless the
first one leaves a text between quotes open. -/
theorem scan_distributes_over_lines {segmentation : Segmentation} (lawful : segmentation.Lawful)
    {first : String}
    (closed : ∀ fault ∈ (scan segmentation first).diagnostics,
      fault.cause ≠ .unterminatedText) (second : String) :
    let down := Position.down (first.toList.count '\n' + 1)
    let tokens := (scan segmentation first).tokens ++
      (scan segmentation second).stream.toList.map (Token.move down)
    let faults := (scan segmentation first).diagnostics ++
      (scan segmentation second).diagnostics.map (Diagnostic.move down)
    let both := first ++ "\n" ++ second
    (scan segmentation both).stream.toList = tokens ∧
      (scan segmentation both).diagnostics = faults ∧
      (faults = [] → ∃ stream, segmentation.tokenize both = .ok stream ∧ stream.toList = tokens) ∧
      (faults ≠ [] →
        segmentation.tokenize both = .error { phase := .scanning, diagnostics := faults }) := by
  intro down tokens faults both
  obtain ⟨front, ending, feed, split, trailing, splitBoth, ends⟩ :=
    exists_feed lawful first.toList
  have lines : (front ++ [feed]).flatten = first.toList ++ ['\n'] := by
    rw [← splitBoth, lawful.lossless]
  have text : both.toList = first.toList ++ '\n' :: second.toList := by
    simp [both]
  have cutSecond := (cut_scan lawful second).1.down lines
  rw [List.append_nil] at cutSecond
  have cut := (cut_scan lawful first).1.before_feed split trailing closed ends cutSecond
  have whole : segmentation.clusters both.toList =
      front ++ feed :: segmentation.clusters second.toList := by
    rw [text, lawful.clusters_append_lineFeed, splitBoth, List.append_assoc,
      List.singleton_append]
  rw [← whole] at cut
  have same : (scan segmentation both).tokens =
        (scan segmentation first).tokens ++
          (scan segmentation second).tokens.map (Token.move down) ∧
      (scan segmentation both).diagnostics = faults := cut.unique (cut_scan lawful both).1
  have last : (scan segmentation both).stream.last =
      (scan segmentation second).stream.last.move down := by
    have stop := @place_down segmentation _ _ lines (segmentation.clusters second.toList)
    rw [List.append_assoc, List.singleton_append, ← whole, place, place, lawful.lossless,
      lawful.lossless] at stop
    rw [(cut_scan lawful both).2, (cut_scan lawful second).2, endMarker, stop]
    rfl
  have stream : (scan segmentation both).stream.toList = tokens := by
    rw [TokenStream.toList, last]
    refine (congrArg (· ++ _) same.1).trans ?_
    simp [tokens, TokenStream.toList, Scan.stream]
  refine ⟨stream, same.2, fun none => ?_, fun some => ?_⟩
  · refine ⟨(scan segmentation both).stream, ?_, stream⟩
    rw [Segmentation.tokenize, same.2, none]
    rfl
  · rw [Segmentation.tokenize, same.2]
    exact if_neg (by simpa using some)

/-- The first text ends with a comment and a carriage return, which the line feed joins, and the
second one begins with an accent, which joins nothing. -/
theorem scan_distributes_over_lines_return :
    let first := "x ? # c\r"
    let second := "\u0301y"
    let both := first ++ "\n" ++ second
    (∀ fault ∈ (scan Segmentation.standard first).diagnostics,
        fault.cause ≠ .unterminatedText) ∧
      Segmentation.standard.tokenize both = .error
        { phase := .scanning
          diagnostics :=
            [{ cause := .unexpectedSymbol
               token := { kind := .unknown, lexeme := "?", position := ⟨0, 2⟩ } },
              { cause := .unexpectedSymbol
                token := { kind := .unknown, lexeme := "\u0301", position := ⟨1, 0⟩ } }] } ∧
      (scan Segmentation.standard both).stream.toList =
        [{ kind := .identifier, lexeme := "x", position := ⟨0, 0⟩ },
          { kind := .identifier, lexeme := "y", position := ⟨1, 1⟩ },
          { kind := .endOfInput, lexeme := "", position := ⟨1, 2⟩ }] := by
  intro first second both
  have scannedFirst : scan Segmentation.standard first =
      { tokens := [{ kind := .identifier, lexeme := "x", position := ⟨0, 0⟩ }]
        diagnostics :=
          [{ cause := .unexpectedSymbol
             token := { kind := .unknown, lexeme := "?", position := ⟨0, 2⟩ } }]
        stop := ⟨0, 8⟩ } := by cbv
  have scannedSecond : scan Segmentation.standard second =
      { tokens := [{ kind := .identifier, lexeme := "y", position := ⟨0, 1⟩ }]
        diagnostics :=
          [{ cause := .unexpectedSymbol
             token := { kind := .unknown, lexeme := "\u0301", position := ⟨0, 0⟩ } }]
        stop := ⟨0, 2⟩ } := by cbv
  have closed : ∀ fault ∈ (scan Segmentation.standard first).diagnostics,
      fault.cause ≠ .unterminatedText := by
    simp [scannedFirst]
  have oneLine : first.toList.count '\n' = 0 := by simp [first]
  obtain ⟨tokens, _, _, refused⟩ :=
    scan_distributes_over_lines Segmentation.standard_lawful closed second
  rw [scannedFirst, scannedSecond, oneLine] at tokens refused
  exact ⟨closed, refused (by simp), tokens⟩

end Lexis

end CheckedScript
