import CheckedScript.Proofs.Scanning.Joints

/-!
# Lexemes written anew

A lexeme begins and ends with visible characters, so it has the same clusters between any
separators of whitespace as in the source text, and whitespace ends it: no lexeme that
starts with it is longer.  The lexemes of a source text with separators between them are
therefore cut into the same tokens, up to their positions.
-/

namespace CheckedScript

/-- What a token says wherever it stands. -/
def Token.wording (token : Token) : Kind × String × Option Payload :=
  (token.kind, token.lexeme, token.payload)

namespace Lexis

open Text (Cluster Visible)
open Scanner

variable {segmentation : Segmentation} {kind : Kind} {payload : Option Payload}
  {taken rest : List Cluster}

section Shape

theorem visible_of_digit {character : Char} (digit : IsDigit character) : Visible character := by
  obtain ⟨low, high⟩ := digit
  have low : '0'.toNat ≤ character.toNat := low
  have high : character.toNat ≤ '9'.toNat := high
  have : '0'.toNat = 48 := rfl
  have : '9'.toNat = 57 := rfl
  constructor <;> omega

theorem visible_of_letter {character : Char} (letter : IsLetter character) :
    Visible character := by
  rcases letter with ⟨low, high⟩ | ⟨low, high⟩ | rfl
  · have low : 'a'.toNat ≤ character.toNat := low
    have high : character.toNat ≤ 'z'.toNat := high
    have : 'a'.toNat = 97 := rfl
    have : 'z'.toNat = 122 := rfl
    constructor <;> omega
  · have low : 'A'.toNat ≤ character.toNat := low
    have high : character.toNat ≤ 'Z'.toNat := high
    have : 'A'.toNat = 65 := rfl
    have : 'Z'.toNat = 90 := rfl
    constructor <;> omega
  · constructor <;> decide

/-- A visible character without marks. -/
def Mark (cluster : Cluster) : Prop :=
  ∃ character, cluster = [character] ∧ Visible character

theorem WordPart.mark {cluster : Cluster} (part : WordPart cluster) : Mark cluster := by
  obtain ⟨character, rfl, letter⟩ | ⟨character, rfl, digit⟩ := part
  · exact ⟨character, rfl, visible_of_letter letter⟩
  · exact ⟨character, rfl, visible_of_digit digit⟩

theorem mark_of_symbol (mark : Symbol) : ∀ cluster ∈ spelled mark.spelling, Mark cluster := by
  intro cluster member
  obtain ⟨character, inside, rfl⟩ := List.mem_map.1 member
  refine ⟨character, rfl, ?_⟩
  have visible : ∀ other ∈ mark.spelling.toList, 0x20 < other.toNat ∧ other.toNat < 0x7f := by
    cases mark <;> simp [Symbol.spelling]
  exact visible character inside

/-- A lexeme is a text between quotes or made of visible characters. -/
theorem Lexeme.marks_or_quoted (lexeme : Lexeme taken kind payload) :
    (∀ cluster ∈ taken, Mark cluster) ∨
      ∃ body, taken = ['"'] :: body ++ [['"']] ∧ ∀ cluster ∈ body, cluster ≠ ['"'] := by
  cases lexeme with
  | symbol mark => exact .inl (mark_of_symbol mark)
  | keyword word =>
      obtain ⟨first, tail, parts, letter, others⟩ := keyword_parts word
      rw [parts]
      exact .inl fun cluster member =>
        (List.forall_mem_cons.2 ⟨.inl letter, others⟩ cluster member : WordPart cluster).mark
  | identifier letter others =>
      exact .inl fun cluster member =>
        (List.forall_mem_cons.2 ⟨.inl letter, others⟩ cluster member : WordPart cluster).mark
  | integer _ digits =>
      exact .inl fun cluster member => WordPart.mark (.inr (digits cluster member))
  | fraction _ wholeDigits _ partDigits =>
      refine .inl fun cluster member => ?_
      rcases List.mem_append.1 member with inWhole | inPart
      · exact WordPart.mark (.inr (wholeDigits cluster inWhole))
      · rcases List.mem_cons.1 inPart with rfl | inPart
        · exact ⟨'.', rfl, by decide, by decide⟩
        · exact WordPart.mark (.inr (partDigits cluster inPart))
  | text inner => exact .inr ⟨_, rfl, inner⟩

/-- A lexeme begins and ends with visible characters. -/
theorem Lexeme.ends (lexeme : Lexeme taken kind payload) :
    (∃ character characters, taken.flatten = character :: characters ∧ Visible character) ∧
      ∃ characters character, taken.flatten = characters ++ [character] ∧ Visible character := by
  rcases lexeme.marks_or_quoted with marks | ⟨body, rfl, -⟩
  · constructor
    · obtain ⟨first, tail, rfl⟩ := List.exists_cons_of_ne_nil lexeme.ne_nil
      obtain ⟨character, rfl, visible⟩ := marks first List.mem_cons_self
      exact ⟨character, tail.flatten, rfl, visible⟩
    · obtain ⟨front, last, rfl⟩ := (List.eq_nil_or_concat taken).resolve_left lexeme.ne_nil
      obtain ⟨character, rfl, visible⟩ := marks last (by simp)
      exact ⟨front.flatten, character, by simp, visible⟩
  · have visible : Visible '"' := ⟨by decide, by decide⟩
    refine ⟨⟨'"', body.flatten ++ ['"'], by simp, visible⟩, ?_⟩
    exact ⟨'"' :: body.flatten, '"', by simp, visible⟩

theorem not_blank_of_mark {cluster : Cluster} (mark : Mark cluster) : ¬ Blank cluster := by
  obtain ⟨character, rfl, above, -⟩ := mark
  rintro (_ | _ | _ | _ | _) <;> exact absurd above (by decide)

/-- No lexeme goes on beyond whitespace. -/
theorem Lexeme.longest_before_blank (lexeme : Lexeme taken kind payload) {next : Cluster}
    (blank : Blank next) : Longest taken (taken ++ next :: rest) := by
  intro other otherKind otherPayload starts otherLexeme
  by_contra longer
  -- A longer one would take the whitespace, and the closing quote of a text inside it.
  have within : taken ++ [next] <+: taken ++ next :: rest := ⟨rest, by simp⟩
  have bound : (taken ++ [next]).length ≤ other.length := by
    simp only [List.length_append, List.length_singleton]
    omega
  obtain ⟨more, rfl⟩ := List.prefix_of_prefix_length_le within starts bound
  rcases otherLexeme.marks_or_quoted with marks | ⟨body, shape, inner⟩
  · exact not_blank_of_mark (marks next (by simp)) blank
  · obtain ⟨first, tail, rfl⟩ := List.exists_cons_of_ne_nil lexeme.ne_nil
    simp only [List.cons_append, List.append_assoc, List.cons.injEq] at shape
    obtain ⟨rfl, shape⟩ := shape
    obtain ⟨front, rfl, noQuote, -, -⟩ := (lexeme_iff.1 lexeme).of_quote
    simp only [List.append_assoc, List.singleton_append] at shape
    obtain rfl := eq_of_span (p := (· = ['"'])) shape noQuote inner (by simp) (by simp)
    simp at shape

end Shape
section Tokens

/-- The token that ends a stream. -/
def endMarker (segmentation : Segmentation) (source : String) : Token :=
  { kind := .endOfInput, lexeme := "", position := segmentation.after source.toList }

theorem cut_scan (lawful : segmentation.Lawful) (source : String) :
    Cut segmentation [] (segmentation.clusters source.toList) (scan segmentation source).tokens
        (scan segmentation source).diagnostics ∧
      (scan segmentation source).stream.last = endMarker segmentation source := by
  obtain ⟨cut, stop⟩ := cut_scanFrom lawful source.toList Position.origin
    (segmentation.clusters source.toList) [] rfl (origin_eq_place lawful)
  refine ⟨cut, ?_⟩
  rw [endMarker, ← stop]
  rfl

theorem tokenize_eq_ok_iff (lawful : segmentation.Lawful) {source : String}
    {stream : TokenStream} :
    segmentation.tokenize source = .ok stream ↔
      Cut segmentation [] (segmentation.clusters source.toList) stream.body [] ∧
        stream.last = endMarker segmentation source := by
  obtain ⟨cut, ends⟩ := cut_scan lawful source
  unfold Segmentation.tokenize
  dsimp only
  constructor
  · intro scanned
    split at scanned
    · next clean =>
        cases scanned
        rw [List.isEmpty_iff.1 clean] at cut
        exact ⟨cut, ends⟩
    · cases scanned
  · rintro ⟨other, marker⟩
    obtain ⟨tokens, faults⟩ := other.unique cut
    rw [if_pos (by rw [faults]; rfl)]
    obtain ⟨body, last⟩ := stream
    dsimp only at tokens marker
    rw [marker, ← ends, ← tokens]
    rfl

theorem cut_of_tokenize_eq_error (lawful : segmentation.Lawful) {source : String}
    {rejection : Rejection} (refused : segmentation.tokenize source = .error rejection) :
    ∃ tokens,
      Cut segmentation [] (segmentation.clusters source.toList) tokens rejection.diagnostics := by
  unfold Segmentation.tokenize at refused
  dsimp only at refused
  split at refused
  · cases refused
  · cases refused
    exact ⟨_, (cut_scan lawful source).1⟩

/-- The clusters of a lexeme that is cut out of the source text are a lexeme of the same
class. -/
theorem Cut.lexeme_of_mem (lawful : segmentation.Lawful) {characters : List Char}
    {passed list : List Cluster} {tokens : List Token} {faults : List Diagnostic}
    (cut : Cut segmentation passed list tokens faults)
    (source : segmentation.clusters characters = passed ++ list) :
    ∀ token ∈ tokens,
      Lexeme (segmentation.clusters token.lexeme.toList) token.kind token.payload := by
  induction cut with
  | done => exact fun token member => absurd member List.not_mem_nil
  | next takes _ inductionHypothesis =>
      intro token member
      rcases List.mem_append.1 member with here | later
      · cases takes with
        | lexeme lexeme =>
            obtain rfl := List.mem_singleton.1 here
            dsimp only
            rw [joined, String.toList_ofList, lawful.clusters_between source]
            exact lexeme
        | blank | comment | openText | unexpected => cases here
      · exact inductionHypothesis (by rw [source, List.append_assoc]) token later

end Tokens
section Spaced

variable {separator : List Char}

theorem blank_of_spaces (lawful : segmentation.Lawful) (separator : List Char)
    (spaces : ∀ character ∈ separator, isSpace character = true) :
    ∀ cluster ∈ segmentation.clusters separator, Blank cluster := by
  match separator with
  | [] =>
      rw [lawful.clusters_nil]
      exact fun cluster member => absurd member List.not_mem_nil
  | character :: separator =>
      obtain ⟨space, others⟩ := List.forall_mem_cons.1 spaces
      by_cases lineEnd : character = '\r' ∧ ∃ rest, separator = '\n' :: rest
      · obtain ⟨rfl, rest, rfl⟩ := lineEnd
        have split := lawful.clusters_append_lineFeed ['\r'] rest
        rw [List.singleton_append, List.singleton_append, lawful.lineEnd] at split
        rw [split]
        refine List.forall_mem_cons.2 ⟨.lineEnd .both, ?_⟩
        exact blank_of_spaces lawful rest (List.forall_mem_cons.1 others).2
      · have parted : ∀ next ∈ separator.head?, Text.Parted character next := by
          intro next starts
          obtain ⟨rest, rfl⟩ := List.head?_eq_some_iff.1 starts
          refine Text.Solitary.parted (.inr space) (.inr (others next List.mem_cons_self)) ?_
          rintro ⟨rfl, rfl⟩
          exact lineEnd ⟨rfl, rest, rfl⟩
        have split := lawful.clusters_append [] parted
        rw [List.nil_append, List.nil_append, lawful.clusters_singleton] at split
        rw [split]
        refine List.forall_mem_cons.2 ⟨?_, blank_of_spaces lawful separator others⟩
        simp only [isSpace, Bool.or_eq_true, decide_eq_true_eq] at space
        rcases space with ((rfl | rfl) | rfl) | rfl
        · exact .space
        · exact .tab
        · exact .carriageReturn
        · exact .lineEnd .lineFeed
termination_by separator.length

theorem Cut.of_blanks {passed blanks list : List Cluster} {tokens : List Token}
    {faults : List Diagnostic} (blank : ∀ cluster ∈ blanks, Blank cluster)
    (cut : Cut segmentation (passed ++ blanks) list tokens faults) :
    Cut segmentation passed (blanks ++ list) tokens faults := by
  induction blanks generalizing passed with
  | nil => rwa [List.append_nil] at cut
  | cons first blanks inductionHypothesis =>
      obtain ⟨here, others⟩ := List.forall_mem_cons.1 blank
      rw [← List.singleton_append, ← List.append_assoc] at cut
      exact .next (.blank here) (inductionHypothesis others cut)

/-- Separators that keep lexemes apart. -/
def Separates (separator : List Char) : Prop :=
  separator ≠ [] ∧ ∀ character ∈ separator, isSpace character = true

/-- Lexemes, each of them with the separator that follows it. -/
def spaced : List Token → List (List Char) → List Char
  | token :: tokens, separator :: separators =>
      token.lexeme.toList ++ (separator ++ spaced tokens separators)
  | _, _ => []

theorem interleave_eq_spaced {tokens : List Token} {separators : List (List Char)} {last : Token}
    (gap : List Char) (each : separators.length = tokens.length) (ends : last.lexeme = "") :
    interleave (gap :: separators) (tokens ++ [last]) = gap ++ spaced tokens separators := by
  induction tokens generalizing gap separators with
  | nil =>
      obtain rfl := List.length_eq_zero_iff.1 each
      simp [ends, spaced]
  | cons token tokens inductionHypothesis =>
      cases separators with
      | nil => cases each
      | cons separator separators =>
          rw [List.cons_append, interleave_cons, inductionHypothesis separator (Nat.succ.inj each),
            spaced, List.append_assoc]

variable {tokens : List Token} {separators : List (List Char)}

theorem visible_of_head_spaced (lawful : segmentation.Lawful)
    (lexemes : ∀ token ∈ tokens,
      Lexeme (segmentation.clusters token.lexeme.toList) token.kind token.payload) :
    ∀ next ∈ (spaced tokens separators).head?, Visible next := by
  intro next starts
  match tokens, separators with
  | [], _ | _ :: _, [] => cases starts
  | token :: tokens, separator :: separators =>
      obtain ⟨⟨character, characters, shape, visible⟩, -⟩ := (lexemes token List.mem_cons_self).ends
      rw [lawful.lossless] at shape
      rw [spaced, shape] at starts
      cases starts
      exact visible

/-- Neither lexemes nor separators change the clusters of their neighbours. -/
theorem clusters_spaced (lawful : segmentation.Lawful) {token : Token} {rest : List Char}
    (lexeme : Lexeme (segmentation.clusters token.lexeme.toList) token.kind token.payload)
    (separates : Separates separator) (visible : ∀ next ∈ rest.head?, Visible next) :
    segmentation.clusters (token.lexeme.toList ++ (separator ++ rest)) =
      segmentation.clusters token.lexeme.toList ++
        (segmentation.clusters separator ++ segmentation.clusters rest) := by
  obtain ⟨-, characters, character, shape, ends⟩ := lexeme.ends
  rw [lawful.lossless] at shape
  obtain ⟨present, spaces⟩ := separates
  have behind : segmentation.clusters (separator ++ rest) =
      segmentation.clusters separator ++ segmentation.clusters rest := by
    obtain ⟨front, last, rfl⟩ := (List.eq_nil_or_concat separator).resolve_left present
    rw [List.concat_eq_append, List.append_assoc, List.singleton_append]
    refine lawful.clusters_append front fun next starts => ?_
    refine Text.Solitary.parted (.inr (spaces last (by simp))) (.inl (visible next starts)) ?_
    rintro ⟨-, rfl⟩
    exact absurd (visible _ starts).1 (by decide)
  rw [shape, List.append_assoc, List.singleton_append, ← behind]
  refine lawful.clusters_append characters fun next starts => ?_
  obtain ⟨first, others, rfl⟩ := List.exists_cons_of_ne_nil present
  cases starts
  refine Text.Solitary.parted (.inl ends) (.inr (spaces next List.mem_cons_self)) ?_
  rintro ⟨rfl, -⟩
  exact absurd ends.1 (by decide)

/-- Lexemes with separators behind them are cut into tokens that read the same. -/
theorem cut_spaced (lawful : segmentation.Lawful) (passed : List Cluster)
    (each : separators.length = tokens.length)
    (lexemes : ∀ token ∈ tokens,
      Lexeme (segmentation.clusters token.lexeme.toList) token.kind token.payload)
    (separate : ∀ separator ∈ separators, Separates separator) :
    ∃ again,
      Cut segmentation passed (segmentation.clusters (spaced tokens separators)) again [] ∧
      again.map Token.wording = tokens.map Token.wording := by
  induction tokens generalizing passed separators with
  | nil =>
      obtain rfl := List.length_eq_zero_iff.1 each
      rw [spaced, lawful.clusters_nil]
      · exact ⟨[], .done, rfl⟩
      · exact fun _ _ _ _ same => absurd same (List.cons_ne_nil _ _).symm
  | cons token tokens inductionHypothesis =>
      cases separators with
      | nil => cases each
      | cons separator separators =>
          obtain ⟨lexeme, lexemes⟩ := List.forall_mem_cons.1 lexemes
          obtain ⟨separates, separate⟩ := List.forall_mem_cons.1 separate
          have blank := blank_of_spaces lawful separator separates.2
          obtain ⟨again, cut, same⟩ := inductionHypothesis
            (passed ++ segmentation.clusters token.lexeme.toList ++
              segmentation.clusters separator) (Nat.succ.inj each)
            lexemes separate
          rw [spaced, clusters_spaced lawful lexeme separates
            (visible_of_head_spaced lawful lexemes)]
          have longest : Longest (segmentation.clusters token.lexeme.toList)
              (segmentation.clusters token.lexeme.toList ++ (segmentation.clusters separator ++
                segmentation.clusters (spaced tokens separators))) := by
            obtain ⟨next, others, shape⟩ :=
              List.exists_cons_of_ne_nil (lawful.clusters_ne_nil separates.1)
            rw [shape] at blank ⊢
            exact lexeme.longest_before_blank (blank next List.mem_cons_self)
          refine ⟨_, .next (.lexeme lexeme longest) (.of_blanks blank cut), ?_⟩
          rw [List.map_append, same, List.map_cons]
          simp [tokenOf, Token.wording, joined, lawful.lossless]

end Spaced

/-- The lexemes of a source text, with any whitespace between neighbours, are cut into the
same tokens again, up to their positions. -/
theorem tokenize_respaced {segmentation : Segmentation} (lawful : segmentation.Lawful)
    {source : String} {stream : TokenStream}
    (scanned : segmentation.tokenize source = .ok stream) {separators : List (List Char)}
    (each : separators.length = stream.body.length)
    (separate : ∀ separator ∈ separators, Separates separator) :
    ∃ again,
      segmentation.tokenize (String.ofList (interleave ([] :: separators) stream.toList)) =
        .ok again ∧
      again.toList.map Token.wording = stream.toList.map Token.wording := by
  obtain ⟨cut, ends⟩ := (tokenize_eq_ok_iff lawful).1 scanned
  obtain ⟨again, cutAgain, same⟩ :=
    cut_spaced lawful [] each (cut.lexeme_of_mem lawful rfl) separate
  have text : interleave ([] :: separators) stream.toList = spaced stream.body separators := by
    rw [TokenStream.toList, interleave_eq_spaced [] each (by rw [ends]; rfl), List.nil_append]
  refine ⟨{ body := again, last := _ }, (tokenize_eq_ok_iff lawful).2 ⟨?_, rfl⟩, ?_⟩
  · rwa [String.toList_ofList, text]
  · rw [TokenStream.toList, TokenStream.toList, List.map_append, List.map_append, same, ends]
    rfl

/-- Lexemes that run into each other without separators, and separators of every kind. -/
theorem tokenize_respaced_touching :
    let source := "\"e\u0301\"x==y..fun"
    let separators := [['\n'], ['\t', ' '], ['\r', '\n'], [' '], ['\r'], ['\n', '\r', '\r']]
    let stream : TokenStream :=
      { body :=
          [{ kind := .text, lexeme := "\"e\u0301\"", position := ⟨0, 0⟩
             payload := some (.text "e\u0301") },
            { kind := .identifier, lexeme := "x", position := ⟨0, 3⟩ },
            { kind := .symbol .equalEqual, lexeme := "==", position := ⟨0, 4⟩ },
            { kind := .identifier, lexeme := "y", position := ⟨0, 6⟩ },
            { kind := .symbol .dotDot, lexeme := "..", position := ⟨0, 7⟩ },
            { kind := .keyword .funWord, lexeme := "fun", position := ⟨0, 9⟩ }]
        last := { kind := .endOfInput, lexeme := "", position := ⟨0, 12⟩ } }
    Segmentation.standard.tokenize source = .ok stream ∧
      separators.length = stream.body.length ∧
      (∀ separator ∈ separators, Separates separator) ∧
      ∃ again,
        Segmentation.standard.tokenize
          (String.ofList (interleave ([] :: separators) stream.toList)) = .ok again ∧
        again.toList.map Token.wording = stream.toList.map Token.wording := by
  intro source separators stream
  have scanned : Segmentation.standard.tokenize source = .ok stream := by cbv
  have separate : ∀ separator ∈ separators, Separates separator := by
    simp [separators, Separates, isSpace]
  exact ⟨scanned, rfl, separate,
    tokenize_respaced Segmentation.standard_lawful scanned rfl separate⟩

end Lexis

end CheckedScript
