import CheckedScript.Proofs.Scanning.Places
import Mathlib.Data.Prod.Lex

/-!
# What tells tokens apart

The positions of the tokens of a source text ascend, so no two of them are the
same.  The constant that a literal token carries can be read off its lexeme.
-/

namespace CheckedScript

namespace Position

/-- Positions in the order of the text: by lines, and within a line by columns. -/
def rank (position : Position) : ℤ ×ₗ ℤ :=
  toLex (position.line, position.column)

end Position

namespace Scanner

open Text (Cluster)

theorem rank_lt_advance (position : Position) (cluster : Cluster) :
    position.rank < (advance position cluster).rank := by
  rw [Position.rank, Position.rank, Prod.Lex.toLex_lt_toLex, advance]
  split
  · exact .inl (Int.lt_succ _)
  · exact .inr ⟨rfl, Int.lt_succ _⟩

theorem rank_le_foldl (position : Position) (list : List Cluster) :
    position.rank ≤ (list.foldl advance position).rank := by
  induction list generalizing position with
  | nil => exact le_refl _
  | cons cluster list inductionHypothesis =>
      exact (rank_lt_advance position cluster).le.trans (inductionHypothesis _)

/-- Tokens stand in the order of their positions, none of them before the position
where the scan starts. -/
theorem scanFrom_ascends (position : Position) (list : List Cluster) :
    (∀ token ∈ (scanFrom position list).tokens, position.rank ≤ token.position.rank) ∧
      (scanFrom position list).tokens.Pairwise fun first second =>
        first.position.rank < second.position.rank := by
  induction position, list using piecewise with
  | done position =>
      rw [scanFrom]
      exact ⟨by simp, .nil⟩
  | step position first list inductionHypothesis =>
      obtain ⟨after, ascends⟩ := inductionHypothesis
      rw [← following] at after ascends
      have further : ∀ token ∈ (following position first list).tokens,
          position.rank < token.position.rank := fun token member =>
        (rank_lt_advance position first).trans_le ((rank_le_foldl _ _).trans (after token member))
      cases content : (nextPiece first list).content with
      | skipped =>
          rw [scanFrom_skipped content]
          exact ⟨fun token member => (further token member).le, ascends⟩
      | lexeme kind payload =>
          rw [scanFrom_lexeme content]
          refine ⟨fun token member => ?_, .cons further ascends⟩
          rcases List.mem_cons.1 member with rfl | member
          · exact le_refl _
          · exact (further token member).le
      | refused cause lexeme =>
          rw [scanFrom_refused content]
          exact ⟨fun token member => (further token member).le, ascends⟩

/-- The constant that a lexeme of a given kind denotes. -/
def payload? (kind : Kind) (lexeme : String) : Option Payload :=
  match kind with
  | .number => some (.number (Decimal.read lexeme.toList))
  | .text => some (.text (String.ofList lexeme.toList.tail.dropLast))
  | _ => none

theorem textPiece_payload {list : List Cluster} {kind : Kind} {payload : Option Payload}
    (isLexeme : (textPiece list).content = .lexeme kind payload) :
    payload = payload? kind (joined (['"'] :: (textPiece list).tail)) := by
  unfold textPiece at isLexeme ⊢
  dsimp only at isLexeme ⊢
  split at isLexeme
  · cases isLexeme
  · next quote following shape =>
      cases isLexeme
      have closes : quote = ['"'] := by
        have stops := List.head?_dropWhile_not (fun cluster : Cluster => decide (cluster ≠ ['"'])) list
        rw [shape] at stops
        simpa using stops
      simp [payload?, joined, closes]

theorem wordPiece_payload {first : Cluster} {list : List Cluster} {kind : Kind}
    {payload : Option Payload} (isLexeme : (wordPiece first list).content = .lexeme kind payload)
    (lexeme : String) : payload = payload? kind lexeme := by
  cases isLexeme
  cases Keyword.ofSpelling? (joined (first :: list.takeWhile isWordPart)) <;> rfl

/-- The constant of a literal can be read off its lexeme. -/
theorem nextPiece_payload {first : Cluster} {list : List Cluster} {kind : Kind}
    {payload : Option Payload} (isLexeme : (nextPiece first list).content = .lexeme kind payload) :
    payload = payload? kind (joined (first :: (nextPiece first list).tail)) := by
  unfold nextPiece at isLexeme ⊢
  split at isLexeme
  · cases isLexeme
  · next solid =>
      rw [if_neg solid]
      split at isLexeme
      · cases isLexeme
        rfl
      · unfold equalPiece at isLexeme ⊢
        split at isLexeme <;> cases isLexeme <;> rfl
      · split at isLexeme
        · unfold dotPiece at isLexeme
          split at isLexeme <;> cases isLexeme
          rfl
        · next notDot =>
            rw [if_neg notDot]
            split at isLexeme
            · cases isLexeme
            · next notHash =>
                rw [if_neg notHash]
                split at isLexeme
                · next quote =>
                    rw [if_pos quote, quote]
                    exact textPiece_payload isLexeme
                · next notQuote =>
                    rw [if_neg notQuote]
                    split at isLexeme
                    · next digit =>
                        cases isLexeme
                        rw [if_pos digit, payload?, joined, String.toList_ofList]
                        rfl
                    · next notDigit =>
                        split at isLexeme
                        · exact wordPiece_payload isLexeme _
                        · cases isLexeme

/-- No piece is an end marker. -/
theorem nextPiece_unmarked {first : Cluster} {list : List Cluster} {kind : Kind}
    {payload : Option Payload} (isLexeme : (nextPiece first list).content = .lexeme kind payload) :
    kind ≠ .endOfInput := by
  unfold nextPiece at isLexeme
  split at isLexeme
  · cases isLexeme
  · split at isLexeme
    · cases isLexeme
      exact nofun
    · unfold equalPiece at isLexeme
      split at isLexeme <;> cases isLexeme <;> exact nofun
    · split at isLexeme
      · unfold dotPiece at isLexeme
        split at isLexeme <;> cases isLexeme
        exact nofun
      · split at isLexeme
        · cases isLexeme
        · split at isLexeme
          · unfold textPiece at isLexeme
            dsimp only at isLexeme
            split at isLexeme <;> cases isLexeme
            exact nofun
          · split at isLexeme
            · cases isLexeme
              exact nofun
            · split at isLexeme
              · cases isLexeme
                cases Keyword.ofSpelling? (joined (first :: list.takeWhile isWordPart)) <;>
                  exact nofun
              · cases isLexeme

/-- What holds of all pieces that are lexemes holds of all tokens. -/
theorem scanFrom_forall {holds : Token → Prop}
    (each : ∀ (position : Position) (first : Cluster) (list : List Cluster) (kind : Kind)
      (payload : Option Payload), (nextPiece first list).content = .lexeme kind payload →
        holds ⟨kind, joined (first :: (nextPiece first list).tail), position, payload⟩)
    (position : Position) (list : List Cluster) :
    ∀ token ∈ (scanFrom position list).tokens, holds token := by
  induction position, list using piecewise with
  | done position =>
      rw [scanFrom]
      simp
  | step position first list inductionHypothesis =>
      rw [← following] at inductionHypothesis
      cases content : (nextPiece first list).content with
      | skipped =>
          rw [scanFrom_skipped content]
          exact inductionHypothesis
      | lexeme kind payload =>
          rw [scanFrom_lexeme content]
          exact List.forall_mem_cons.2 ⟨each _ _ _ _ _ content, inductionHypothesis⟩
      | refused cause lexeme =>
          rw [scanFrom_refused content]
          exact inductionHypothesis

end Scanner

/-- No two tokens of a source text start at the same position. -/
theorem nodup_positions_of_tokenize {segmentation : Segmentation} {source : String}
    {stream : TokenStream} (scanned : segmentation.tokenize source = .ok stream) :
    (stream.body.map (·.position)).Nodup := by
  unfold Segmentation.tokenize at scanned
  dsimp only at scanned
  split at scanned
  · cases scanned
    rw [List.Nodup, List.pairwise_map]
    refine (Scanner.scanFrom_ascends _ _).2.imp fun before same => ?_
    rw [same] at before
    exact lt_irrefl _ before
  · cases scanned

/-- Kind and lexeme of a token decide its constant. -/
theorem payload_of_tokenize {segmentation : Segmentation} {source : String}
    {stream : TokenStream} (scanned : segmentation.tokenize source = .ok stream) :
    ∀ token ∈ stream.body, token.payload = Scanner.payload? token.kind token.lexeme := by
  unfold Segmentation.tokenize at scanned
  dsimp only at scanned
  split at scanned
  · cases scanned
    exact Scanner.scanFrom_forall (fun _ _ _ _ _ => Scanner.nextPiece_payload) _ _
  · cases scanned

/-- The end marker of a source text is its last token and the only one. -/
theorem marker_of_tokenize {segmentation : Segmentation} {source : String}
    {stream : TokenStream} (scanned : segmentation.tokenize source = .ok stream) :
    (∀ token ∈ stream.body, token.kind ≠ .endOfInput) ∧ stream.last.kind = .endOfInput := by
  unfold Segmentation.tokenize at scanned
  dsimp only at scanned
  split at scanned
  · cases scanned
    exact ⟨Scanner.scanFrom_forall (fun _ _ _ _ _ => Scanner.nextPiece_unmarked) _ _, rfl⟩
  · cases scanned

end CheckedScript
