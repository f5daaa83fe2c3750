import CheckedScript.Proofs.Scanning.Lines
import CheckedScript.Proofs.Scanning.Standard
import Mathlib

/-!
# Nothing is lost and everything has its place

The lexemes of a source text and the gaps between them, put together, are the
source text, however it is cut into clusters.  A gap holds blanks, line ends and comments
only.  The position of a token, and that of the end marker, is the position after all that
stands before it.
-/

namespace CheckedScript

namespace Scanner

open Text (Cluster)

/-- Characters that stand between lexemes without being part of a comment. -/
def isSpace (character : Char) : Bool :=
  character = ' ' || character = '\t' || character = '\r' || character = '\n'

/-- What may follow a comment: a line end, or nothing. -/
def StopsComment : List Char → Prop
  | [] => True
  | '\n' :: _ => True
  | '\r' :: '\n' :: _ => True
  | _ => False

/-- What may stand before a given rest of a source text without being part of a
lexeme.  A comment runs up to a line end, which it does not include, or up to the
end of the source text. -/
inductive Gap (rest : List Char) : List Char → Prop
  | nothing : Gap rest []
  | blank {character : Char} {gap : List Char} :
      isSpace character = true → Gap rest gap → Gap rest (character :: gap)
  | comment {body gap : List Char} :
      '\n' ∉ body → StopsComment (gap ++ rest) → Gap rest gap → Gap rest ('#' :: (body ++ gap))

/-- Gaps and lexemes by turns. -/
def interleave (gaps : List (List Char)) (tokens : List Token) : List Char :=
  (List.zipWith (fun gap token => gap ++ token.lexeme.toList) gaps tokens).flatten

@[simp]
theorem interleave_nil (tokens : List Token) : interleave [] tokens = [] :=
  rfl

@[simp]
theorem interleave_cons (gap : List Char) (gaps : List (List Char)) (token : Token)
    (tokens : List Token) :
    interleave (gap :: gaps) (token :: tokens) =
      gap ++ token.lexeme.toList ++ interleave gaps tokens :=
  rfl

variable {segmentation : Segmentation}

/-- Tokens with the gaps before them, all of them behind a given text, and each of
them at the position where it stands. -/
def Laid (segmentation : Segmentation) (before : List Char) :
    List (List Char) → List Token → Prop
  | [], [] => True
  | gap :: gaps, token :: tokens =>
      Gap (token.lexeme.toList ++ interleave gaps tokens) gap ∧
        token.position = segmentation.after (before ++ gap) ∧
        Laid segmentation (before ++ gap ++ token.lexeme.toList) gaps tokens
  | _, _ => False

theorem Laid.length {before : List Char} {gaps : List (List Char)} {tokens : List Token}
    (laid : Laid segmentation before gaps tokens) : gaps.length = tokens.length := by
  induction gaps generalizing before tokens with
  | nil =>
      cases tokens with
      | nil => rfl
      | cons token tokens => exact laid.elim
  | cons gap gaps inductionHypothesis =>
      cases tokens with
      | nil => exact laid.elim
      | cons token tokens => rw [List.length_cons, List.length_cons, inductionHypothesis laid.2.2]

theorem Laid.get {before : List Char} {gaps : List (List Char)} {tokens : List Token}
    (laid : Laid segmentation before gaps tokens) {index : Nat} {gap : List Char} {token : Token}
    (gapAt : gaps[index]? = some gap) (tokenAt : tokens[index]? = some token) :
    Gap (token.lexeme.toList ++ interleave (gaps.drop (index + 1)) (tokens.drop (index + 1))) gap ∧
      token.position =
        segmentation.after
          (before ++ interleave (gaps.take index) (tokens.take index) ++ gap) := by
  induction gaps generalizing before tokens index with
  | nil => simp at gapAt
  | cons first gaps inductionHypothesis =>
      cases tokens with
      | nil => exact laid.elim
      | cons head tokens =>
          obtain ⟨isGap, position, rest⟩ := laid
          cases index with
          | zero =>
              simp only [List.getElem?_cons_zero, Option.some.injEq] at gapAt tokenAt
              subst gapAt tokenAt
              exact ⟨by simpa using isGap, by simpa using position⟩
          | succ index =>
              have later := inductionHypothesis rest (by simpa using gapAt) (by simpa using tokenAt)
              simpa using later

/-- A blank extends the gap that follows it. -/
theorem gap_of_blank {first : Cluster} {rest gap : List Char}
    (blank : (isBlank first || isNewline first) = true) (isGap : Gap rest gap) :
    Gap rest (first ++ gap) := by
  simp only [isBlank, isNewline, Bool.or_eq_true, decide_eq_true_eq] at blank
  rcases blank with ((rfl | rfl) | rfl) | rfl | rfl
  · exact .blank rfl isGap
  · exact .blank rfl isGap
  · exact .blank rfl isGap
  · exact .blank rfl isGap
  · exact .blank rfl (.blank rfl isGap)

/-- What is left of the clusters after a comment starts with a line end. -/
theorem stopsComment_dropWhile (list : List Cluster) :
    StopsComment (list.dropWhile (!isNewline ·)).flatten := by
  induction list with
  | nil => trivial
  | cons cluster list inductionHypothesis =>
      cases ends : isNewline cluster with
      | false => simpa [List.dropWhile_cons, ends] using inductionHypothesis
      | true =>
          simp only [List.dropWhile_cons, ends, Bool.not_true, Bool.false_eq_true, if_false,
            List.flatten_cons]
          simp only [isNewline, Bool.or_eq_true, decide_eq_true_eq] at ends
          rcases ends with rfl | rfl <;> trivial

/-- What is skipped is a blank or a comment. -/
theorem nextPiece_skipped {first : Cluster} {list : List Cluster}
    (skips : (nextPiece first list).content = .skipped) :
    ((isBlank first || isNewline first) = true ∧ (nextPiece first list).tail = []) ∨
      (first = ['#'] ∧ nextPiece first list = commentPiece list) := by
  unfold nextPiece at skips ⊢
  split at skips
  · next blank => exact .inl ⟨blank, by rw [if_pos blank]⟩
  · next solid =>
      rw [if_neg solid]
      split at skips
      · cases skips
      · unfold equalPiece at skips
        split at skips <;> cases skips
      · split at skips
        · unfold dotPiece at skips
          split at skips <;> cases skips
        · next notDot =>
            split at skips
            · next hash =>
                subst hash
                exact .inr ⟨rfl, rfl⟩
            · split at skips
              · unfold textPiece at skips
                dsimp only at skips
                split at skips <;> cases skips
              · split at skips
                · cases skips
                · split at skips <;> cases skips

/-- A skipped piece extends the gap that follows it. -/
theorem gap_of_skipped {first : Cluster} {list : List Cluster} {rest gap : List Char}
    (skips : (nextPiece first list).content = .skipped) (feeds : FeedsAtEnds list)
    (remains : (nextPiece first list).rest.flatten = gap ++ rest) (isGap : Gap rest gap) :
    Gap rest ((first :: (nextPiece first list).tail).flatten ++ gap) := by
  rcases nextPiece_skipped skips with ⟨blank, alone⟩ | ⟨rfl, shape⟩
  · rw [alone, List.flatten_cons, List.flatten_nil, List.append_nil]
    exact gap_of_blank blank isGap
  · rw [shape, commentPiece] at remains ⊢
    have none : '\n' ∉ (list.takeWhile (!isNewline ·)).flatten := by
      intro member
      obtain ⟨cluster, taken, inside⟩ := List.mem_flatten.1 member
      have ends := feeds cluster (List.takeWhile_subset _ taken) inside
      have passes := List.mem_takeWhile_imp taken
      simp [ends] at passes
    exact .comment none (remains ▸ stopsComment_dropWhile list) isGap

section Pieces

/-- What holds at the end, and before a piece if it holds behind it, holds of all
clusters. -/
theorem piecewise {motive : Position → List Cluster → Prop}
    (done : ∀ position, motive position [])
    (step : ∀ position first list,
      motive ((first :: (nextPiece first list).tail).foldl advance position)
        (nextPiece first list).rest → motive position (first :: list)) :
    ∀ position list, motive position list
  | position, [] => done position
  | position, first :: list => step position first list (piecewise done step _ _)
termination_by _ list => list.length
decreasing_by
  have bound := nextPiece_rest_length_le first list
  simp only [List.length_cons]
  omega

variable {position : Position} {first : Cluster} {list : List Cluster}

/-- The scan of what follows the first piece. -/
def following (position : Position) (first : Cluster) (list : List Cluster) : Scan :=
  scanFrom ((first :: (nextPiece first list).tail).foldl advance position)
    (nextPiece first list).rest

theorem scanFrom_skipped (skips : (nextPiece first list).content = .skipped) :
    scanFrom position (first :: list) = following position first list := by
  rw [scanFrom, following]
  simp only [skips]

theorem scanFrom_lexeme {kind : Kind} {payload : Option Payload}
    (isLexeme : (nextPiece first list).content = .lexeme kind payload) :
    scanFrom position (first :: list) =
      { following position first list with
        tokens :=
          { kind := kind, lexeme := joined (first :: (nextPiece first list).tail)
            position := position, payload := payload } ::
          (following position first list).tokens } := by
  rw [scanFrom, following]
  simp only [isLexeme]

theorem scanFrom_refused {cause : Cause} {lexeme : String}
    (isRefused : (nextPiece first list).content = .refused cause lexeme) :
    scanFrom position (first :: list) =
      { following position first list with
        diagnostics :=
          { cause := cause
            token := { kind := .unknown, lexeme := lexeme, position := position } } ::
          (following position first list).diagnostics } := by
  rw [scanFrom, following]
  simp only [isRefused]

end Pieces

/-- Laid out tokens stay so when the gap before the first of them gets longer. -/
theorem Laid.skip {before front : List Char} {gaps : List (List Char)} {tokens : List Token}
    (laid : Laid segmentation (before ++ front) gaps tokens) (present : tokens ≠ [])
    (longer : ∀ gap rest, interleave gaps tokens = gap ++ rest → Gap rest gap →
      Gap rest (front ++ gap)) :
    ∃ others, Laid segmentation before others tokens ∧
      interleave others tokens = front ++ interleave gaps tokens := by
  cases tokens with
  | nil => exact absurd rfl present
  | cons token tokens =>
      cases gaps with
      | nil => exact laid.elim
      | cons gap gaps =>
          obtain ⟨isGap, position, rest⟩ := laid
          have joins : interleave (gap :: gaps) (token :: tokens) =
              gap ++ (token.lexeme.toList ++ interleave gaps tokens) := by
            rw [interleave_cons, List.append_assoc]
          refine ⟨(front ++ gap) :: gaps, ⟨longer gap _ joins isGap, ?_, ?_⟩, ?_⟩
          · rw [position, List.append_assoc]
          · rwa [List.append_assoc before front gap] at rest
          · rw [interleave_cons, interleave_cons, List.append_assoc front, List.append_assoc front]

/-- The pieces of the rest of a source text, behind the clusters that have been
passed. -/
theorem laid_of_scanFrom (lawful : segmentation.Lawful) {source : List Char}
    (passed : List Cluster) {list : List Cluster}
    (cut : segmentation.clusters source = passed ++ list) {position : Position}
    (reached : passed.foldl advance Position.origin = position)
    (clean : (scanFrom position list).diagnostics = []) :
    ∃ gaps, Laid segmentation passed.flatten gaps (scanFrom position list).stream.toList ∧
      interleave gaps (scanFrom position list).stream.toList = list.flatten := by
  induction position, list using piecewise generalizing passed with
  | done position =>
      rw [scanFrom]
      refine ⟨[[]], ⟨.nothing, ?_, trivial⟩, rfl⟩
      rw [List.append_nil, ← foldl_advance_eq_after lawful cut, reached]
      rfl
  | step position first list inductionHypothesis =>
      have split := nextPiece_tail_append_rest first list
      have later := inductionHypothesis (passed ++ first :: (nextPiece first list).tail)
        (by rw [cut, List.append_assoc, List.cons_append, split])
        (by rw [List.foldl_append, reached])
      rw [← following, List.flatten_append] at later
      cases content : (nextPiece first list).content with
      | skipped =>
          rw [scanFrom_skipped content] at clean ⊢
          obtain ⟨gaps, laid, joins⟩ := later clean
          have feeds : FeedsAtEnds list := fun cluster member =>
            lawful.isNewline_of_mem
              (cut ▸ List.mem_append_right _ (List.mem_cons_of_mem _ member))
          obtain ⟨others, laidOthers, joinsOthers⟩ := laid.skip (by simp [TokenStream.toList])
            fun gap rest shape isGap => gap_of_skipped content feeds (joins.symm.trans shape) isGap
          refine ⟨others, laidOthers, joinsOthers.trans ?_⟩
          rw [joins, ← List.flatten_append, List.cons_append, split]
      | lexeme kind payload =>
          rw [scanFrom_lexeme content] at clean ⊢
          obtain ⟨gaps, laid, joins⟩ := later clean
          refine ⟨[] :: gaps, ⟨.nothing, ?_, ?_⟩, ?_⟩
          · rw [List.append_nil, ← foldl_advance_eq_after lawful cut, reached]
          · rw [List.append_nil, joined, String.toList_ofList]
            exact laid
          · change [] ++ (joined _).toList ++
              interleave gaps (following position first list).stream.toList = _
            rw [joined, String.toList_ofList, List.nil_append, joins, ← List.flatten_append,
              List.cons_append, split]
      | refused cause lexeme =>
          rw [scanFrom_refused content] at clean
          cases clean

end Scanner

open Scanner in
/-- The source text is made of the lexemes, with a gap before each of them and one
before the end marker, and every token has the position of what stands before it. -/
theorem tokenize_loses_nothing {segmentation : Segmentation} (lawful : segmentation.Lawful)
    {source : String} {stream : TokenStream}
    (scanned : segmentation.tokenize source = .ok stream) :
    stream.last.kind = .endOfInput ∧ stream.last.lexeme = "" ∧
    ∃ gaps, gaps.length = stream.toList.length ∧
      source.toList = interleave gaps stream.toList ∧
      ∀ (index : Nat) (gap : List Char) (token : Token),
        gaps[index]? = some gap → stream.toList[index]? = some token →
        Gap (token.lexeme.toList ++
          interleave (gaps.drop (index + 1)) (stream.toList.drop (index + 1))) gap ∧
        token.position =
          segmentation.after
            (interleave (gaps.take index) (stream.toList.take index) ++ gap) := by
  unfold Segmentation.tokenize at scanned
  dsimp only at scanned
  split at scanned
  · next clean =>
      cases scanned
      obtain ⟨gaps, laid, joins⟩ := laid_of_scanFrom lawful [] rfl rfl
        (List.isEmpty_iff.1 clean)
      refine ⟨rfl, rfl, gaps, laid.length, ?_, fun index gap token gapAt tokenAt => ?_⟩
      · exact (joins.trans (lawful.lossless source.toList)).symm
      · exact laid.get gapAt tokenAt
  · cases scanned

open Scanner in
/-- A letter with an accent, a comment and a line end of two characters before the
last token. -/
theorem tokenize_loses_nothing_lines :
    let source := "\"e\u0301\" x # c\r\n y"
    let stream : TokenStream :=
      { body :=
          [{ kind := .text, lexeme := "\"e\u0301\"", position := ⟨0, 0⟩
             payload := some (.text "e\u0301") },
            { kind := .identifier, lexeme := "x", position := ⟨0, 4⟩ },
            { kind := .identifier, lexeme := "y", position := ⟨1, 1⟩ }]
        last := { kind := .endOfInput, lexeme := "", position := ⟨1, 2⟩ } }
    Segmentation.standard.tokenize source = .ok stream ∧
      ∃ gaps, gaps.length = 4 ∧ source.toList = interleave gaps stream.toList ∧
        ∀ gap, gaps[2]? = some gap →
          Segmentation.standard.after (interleave (gaps.take 2) (stream.toList.take 2) ++ gap) = ⟨1, 1⟩ := by
  intro source stream
  have scanned : Segmentation.standard.tokenize source = .ok stream := by cbv
  obtain ⟨_, _, gaps, length, joins, placed⟩ :=
    tokenize_loses_nothing Segmentation.standard_lawful scanned
  exact ⟨scanned, gaps, length, joins, fun gap found => (placed 2 gap _ found rfl).2.symm⟩

end CheckedScript
