import CheckedScript.Proofs.Scanning.Places

/-!
# Lexemes and the longest of them

The classes of tokens, as relations between sequences of clusters and what they stand
for.  A source text is cut from its start on: blanks and comments are passed over, and
elsewhere the longest lexeme is taken that the clusters to come start with.  The rules
say which piece is cut off next and not how it is found.  They are about clusters, so of
the segmentation they need no more than the positions it gives.

The rest of the module compares the classes with the pieces that the scanner cuts off:
whatever cluster a piece starts with, it is a lexeme only of the class that the scanner
decides for, and none of that class is longer.
-/

namespace CheckedScript

namespace Lexis

open Text (Cluster)
open Scanner

/-- The characters of numbers. -/
def IsDigit (character : Char) : Prop :=
  '0' ≤ character ∧ character ≤ '9'

/-- The characters a word may start with. -/
def IsLetter (character : Char) : Prop :=
  ('a' ≤ character ∧ character ≤ 'z') ∨ ('A' ≤ character ∧ character ≤ 'Z') ∨ character = '_'

/-- A digit without marks. -/
def Digit (cluster : Cluster) : Prop :=
  ∃ character, cluster = [character] ∧ IsDigit character

/-- A letter without marks. -/
def Letter (cluster : Cluster) : Prop :=
  ∃ character, cluster = [character] ∧ IsLetter character

/-- What a word may go on with. -/
def WordPart (cluster : Cluster) : Prop :=
  Letter cluster ∨ Digit cluster

/-- The line ends. -/
inductive LineEnd : Cluster → Prop
  | lineFeed : LineEnd ['\n']
  | both : LineEnd ['\r', '\n']

/-- Whitespace. -/
inductive Blank : Cluster → Prop
  | space : Blank [' ']
  | tab : Blank ['\t']
  | carriageReturn : Blank ['\r']
  | lineEnd {cluster : Cluster} : LineEnd cluster → Blank cluster

/-- The clusters of a word in which no character has a mark. -/
def spelled (word : String) : List Cluster :=
  word.toList.map fun character => [character]

/-- The lexemes of each class of tokens, with the kind and the constant they stand for. -/
inductive Lexeme : List Cluster → Kind → Option Payload → Prop
  | symbol (mark : Symbol) : Lexeme (spelled mark.spelling) (.symbol mark) none
  | keyword (word : Keyword) : Lexeme (spelled word.spelling) (.keyword word) none
  | identifier {first : Cluster} {tail : List Cluster} :
      Letter first → (∀ cluster ∈ tail, WordPart cluster) →
        (∀ word : Keyword, joined (first :: tail) ≠ word.spelling) →
        Lexeme (first :: tail) .identifier none
  | integer {digits : List Cluster} :
      digits ≠ [] → (∀ cluster ∈ digits, Digit cluster) →
        Lexeme digits .number (some (.number (Decimal.read digits.flatten)))
  | fraction {whole part : List Cluster} :
      whole ≠ [] → (∀ cluster ∈ whole, Digit cluster) →
        part ≠ [] → (∀ cluster ∈ part, Digit cluster) →
        Lexeme (whole ++ ['.'] :: part) .number
          (some (.number (Decimal.read (whole ++ ['.'] :: part).flatten)))
  | text {body : List Cluster} :
      (∀ cluster ∈ body, cluster ≠ ['"']) →
        Lexeme (['"'] :: body ++ [['"']]) .text (some (.text (joined body)))

/-- No lexeme that the given clusters start with is longer. -/
def Longest (taken : List Cluster) (list : List Cluster) : Prop :=
  ∀ other kind payload, other <+: list → Lexeme other kind payload → other.length ≤ taken.length

/-- The clusters start with no lexeme. -/
def Unmatched (list : List Cluster) : Prop :=
  ∀ other kind payload, other <+: list → ¬ Lexeme other kind payload

/-- The position behind the clusters that have been passed. -/
def place (segmentation : Segmentation) (passed : List Cluster) : Position :=
  segmentation.after passed.flatten

/-- What is cut off next from the clusters to come, and what remains of them: whitespace, a
comment up to a line end or to the end, the longest lexeme, a text that nothing closes, or
a cluster that nothing starts with. -/
inductive Takes : List Cluster → List Cluster → Content → Prop
  | blank {first : Cluster} {rest : List Cluster} : Blank first → Takes [first] rest .skipped
  | comment {body rest : List Cluster} :
      (∀ cluster ∈ body, ¬ LineEnd cluster) → (∀ next ∈ rest.head?, LineEnd next) →
        Takes (['#'] :: body) rest .skipped
  | lexeme {taken rest : List Cluster} {kind : Kind} {payload : Option Payload} :
      Lexeme taken kind payload → Longest taken (taken ++ rest) →
        Takes taken rest (.lexeme kind payload)
  | openText {body : List Cluster} :
      (∀ cluster ∈ body, cluster ≠ ['"']) →
        Takes (['"'] :: body) [] (.refused .unterminatedText (joined [['"']]))
  | unexpected {first : Cluster} {rest : List Cluster} :
      ¬ Blank first → first ≠ ['#'] → first ≠ ['"'] → Unmatched (first :: rest) →
        Takes [first] rest (.refused .unexpectedSymbol (joined [first]))

/-- The token that a piece becomes, behind the clusters that have been passed. -/
def tokenOf (segmentation : Segmentation) (passed taken : List Cluster) : Content → List Token
  | .lexeme kind payload =>
      [{ kind := kind
         lexeme := joined taken
         position := place segmentation passed
         payload := payload }]
  | .skipped | .refused _ _ => []

/-- What is recorded of a piece. -/
def faultOf (segmentation : Segmentation) (passed : List Cluster) : Content → List Diagnostic
  | .refused cause lexeme =>
      [{ cause := cause
         token := { kind := .unknown, lexeme := lexeme, position := place segmentation passed } }]
  | .skipped | .lexeme _ _ => []

/-- The tokens and the faults of the clusters to come, behind those that have been
passed. -/
inductive Cut (segmentation : Segmentation) :
    List Cluster → List Cluster → List Token → List Diagnostic → Prop
  | done {passed : List Cluster} : Cut segmentation passed [] [] []
  | next {passed taken rest : List Cluster} {content : Content} {tokens : List Token}
      {faults : List Diagnostic} :
      Takes taken rest content → Cut segmentation (passed ++ taken) rest tokens faults →
        Cut segmentation passed (taken ++ rest)
          (tokenOf segmentation passed taken content ++ tokens)
          (faultOf segmentation passed content ++ faults)

section Classes

theorem isDigit_iff {cluster : Cluster} : isDigit cluster = true ↔ Digit cluster := by
  match cluster with
  | [] => simp [isDigit, Digit]
  | [character] => simp [isDigit, Digit, IsDigit, Char.isDigit, Char.le_def]
  | _ :: _ :: _ => simp [isDigit, Digit]

theorem isLetter_iff {cluster : Cluster} : isLetter cluster = true ↔ Letter cluster := by
  match cluster with
  | [] => simp [isLetter, Letter]
  | [character] =>
      simp [isLetter, Letter, IsLetter, Char.isAlpha, Char.isUpper, Char.isLower,
        Char.le_def]
      tauto
  | _ :: _ :: _ => simp [isLetter, Letter]

theorem isWordPart_iff {cluster : Cluster} :
    isWordPart cluster = true ↔ WordPart cluster := by
  rw [isWordPart, Bool.or_eq_true, isLetter_iff, isDigit_iff, WordPart]

theorem isNewline_iff {cluster : Cluster} : isNewline cluster = true ↔ LineEnd cluster := by
  simp only [isNewline, Bool.or_eq_true, decide_eq_true_eq]
  constructor
  · rintro (rfl | rfl)
    · exact .lineFeed
    · exact .both
  · rintro (_ | _)
    · exact .inl rfl
    · exact .inr rfl

theorem isBlank_iff {cluster : Cluster} :
    (isBlank cluster || isNewline cluster) = true ↔ Blank cluster := by
  rw [Bool.or_eq_true, isNewline_iff, isBlank]
  simp only [Bool.or_eq_true, decide_eq_true_eq]
  constructor
  · rintro (((rfl | rfl) | rfl) | ends)
    · exact .space
    · exact .tab
    · exact .carriageReturn
    · exact .lineEnd ends
  · rintro (_ | _ | _ | ends)
    · exact .inl (.inl (.inl rfl))
    · exact .inl (.inl (.inr rfl))
    · exact .inl (.inr rfl)
    · exact .inr ends

@[simp]
theorem joined_spelled (word : String) : joined (spelled word) = word := by
  rw [joined, spelled, ← List.flatMap_def, List.flatMap_singleton', String.ofList_toList]

end Classes

variable {first : Cluster} {tail list : List Cluster} {kind : Kind} {payload : Option Payload}

/-- The ways in which the scanner takes up a piece, by its first cluster. -/
inductive Opens (first : Cluster) (list : List Cluster) : Piece → Prop
  | blank : Blank first → Opens first list { content := .skipped, tail := [], rest := list }
  | loneSymbol {mark : Symbol} :
      loneSymbol? first = some mark →
        Opens first list { content := .lexeme (.symbol mark) none, tail := [], rest := list }
  | equalSymbol {alone withEqual : Symbol} :
      equalSymbols? first = some (alone, withEqual) →
        Opens first list (equalPiece alone withEqual list)
  | dot : first = ['.'] → Opens first list (dotPiece list)
  | comment : first = ['#'] → Opens first list (commentPiece list)
  | text : first = ['"'] → Opens first list (textPiece list)
  | number : Digit first → Opens first list (numberPiece first list)
  | word : Letter first → Opens first list (wordPiece first list)
  | stranger :
      ¬ Blank first → loneSymbol? first = none → equalSymbols? first = none → first ≠ ['.'] →
        first ≠ ['#'] → first ≠ ['"'] → ¬ Digit first → ¬ Letter first →
        Opens first list
          { content := .refused .unexpectedSymbol (joined [first]), tail := [], rest := list }

theorem opens_nextPiece (first : Cluster) (list : List Cluster) :
    Opens first list (nextPiece first list) := by
  unfold nextPiece
  split
  · next blank => exact .blank (isBlank_iff.1 blank)
  · next solid =>
      split
      · next lone => exact .loneSymbol lone
      · next equal => exact .equalSymbol equal
      · next noLone noEqual =>
          split
          · next dot => exact .dot dot
          · next noDot =>
              split
              · next hash => exact .comment hash
              · next noHash =>
                  split
                  · next quote => exact .text quote
                  · next noQuote =>
                      split
                      · next digit => exact .number (isDigit_iff.1 digit)
                      · next noDigit =>
                          split
                          · next letter => exact .word (isLetter_iff.1 letter)
                          · next noLetter =>
                              exact .stranger (fun blank => solid (isBlank_iff.2 blank)) noLone
                                noEqual noDot noHash noQuote
                                (fun digit => noDigit (isDigit_iff.2 digit))
                                (fun letter => noLetter (isLetter_iff.2 letter))

/-- The clusters of a number after its first digit. -/
def NumberTail (tail : List Cluster) : Prop :=
  (∀ cluster ∈ tail, Digit cluster) ∨
    ∃ whole part, tail = whole ++ ['.'] :: part ∧ (∀ cluster ∈ whole, Digit cluster) ∧
      part ≠ [] ∧ ∀ cluster ∈ part, Digit cluster

/-- The symbols by their first cluster. -/
inductive SymbolFrom (first : Cluster) : List Cluster → Symbol → Prop
  | lone {mark : Symbol} : loneSymbol? first = some mark → SymbolFrom first [] mark
  | alone {mark withEqual : Symbol} :
      equalSymbols? first = some (mark, withEqual) → SymbolFrom first [] mark
  | withEqual {alone mark : Symbol} :
      equalSymbols? first = some (alone, mark) → SymbolFrom first [['=']] mark
  | dots : first = ['.'] → SymbolFrom first [['.']] .dotDot

/-- The kind of a word. -/
def wordKind (word : String) : Kind :=
  match Keyword.ofSpelling? word with
  | some keyword => .keyword keyword
  | none => .identifier

/-- The lexemes by their first cluster. -/
inductive LexemeFrom (first : Cluster) : List Cluster → Kind → Option Payload → Prop
  | symbol {tail : List Cluster} {mark : Symbol} :
      SymbolFrom first tail mark → LexemeFrom first tail (.symbol mark) none
  | word {tail : List Cluster} :
      Letter first → (∀ cluster ∈ tail, WordPart cluster) →
        LexemeFrom first tail (wordKind (joined (first :: tail))) none
  | number {tail : List Cluster} :
      Digit first → NumberTail tail →
        LexemeFrom first tail .number (some (.number (Decimal.read (first :: tail).flatten)))
  | text {body : List Cluster} :
      first = ['"'] → (∀ cluster ∈ body, cluster ≠ ['"']) →
        LexemeFrom first (body ++ [['"']]) .text (some (.text (joined body)))

theorem symbolFrom_iff {mark : Symbol} :
    SymbolFrom first tail mark ↔ first :: tail = spelled mark.spelling := by
  constructor
  · rintro (lone | alone | withEqual | rfl)
    · unfold loneSymbol? at lone
      split at lone <;> cases lone <;> rfl
    · unfold equalSymbols? at alone
      split at alone <;> cases alone <;> rfl
    · unfold equalSymbols? at withEqual
      split at withEqual <;> cases withEqual <;> rfl
    · rfl
  · intro spells
    cases mark <;> obtain ⟨rfl, rfl⟩ := List.cons.inj spells <;>
      first
      | exact .lone rfl
      | exact .alone rfl
      | exact .withEqual rfl
      | exact .dots rfl

theorem ofSpelling?_eq_some_iff {text : String} {word : Keyword} :
    Keyword.ofSpelling? text = some word ↔ text = word.spelling := by
  constructor
  · intro found
    rw [Keyword.ofSpelling?] at found
    have same := List.find?_some found
    exact (beq_iff_eq.1 same).symm
  · rintro rfl
    cases word <;> rfl

/-- Clusters of one character each are the clusters of the word they make up. -/
theorem spelled_joined {list : List Cluster}
    (lone : ∀ cluster ∈ list, ∃ character, cluster = [character]) :
    spelled (joined list) = list := by
  rw [spelled, joined, String.toList_ofList]
  induction list with
  | nil => rfl
  | cons cluster list inductionHypothesis =>
      obtain ⟨⟨character, rfl⟩, others⟩ := List.forall_mem_cons.1 lone
      rw [List.flatten_cons, List.singleton_append, List.map_cons, inductionHypothesis others]

theorem WordPart.lone {cluster : Cluster} (part : WordPart cluster) :
    ∃ character, cluster = [character] := by
  obtain ⟨character, rfl, _⟩ | ⟨character, rfl, _⟩ := part
  · exact ⟨character, rfl⟩
  · exact ⟨character, rfl⟩

theorem wordKind_spelling (word : Keyword) : wordKind word.spelling = .keyword word := by
  rw [wordKind, ofSpelling?_eq_some_iff.2 rfl]

theorem wordKind_of_ne {text : String} (other : ∀ word : Keyword, text ≠ word.spelling) :
    wordKind text = .identifier := by
  have none : Keyword.ofSpelling? text = none := by
    cases found : Keyword.ofSpelling? text with
    | none => rfl
    | some word => exact absurd (ofSpelling?_eq_some_iff.1 found) (other word)
  rw [wordKind, none]

theorem keyword_parts (word : Keyword) :
    ∃ first tail, spelled word.spelling = first :: tail ∧ Letter first ∧
      ∀ cluster ∈ tail, WordPart cluster := by
  have letters : ∀ cluster ∈ spelled word.spelling, isLetter cluster = true := by
    cases word <;> decide
  obtain ⟨first, tail, shape⟩ : ∃ first tail, spelled word.spelling = first :: tail := by
    cases word <;> exact ⟨_, _, rfl⟩
  rw [shape] at letters
  obtain ⟨letter, others⟩ := List.forall_mem_cons.1 letters
  exact ⟨first, tail, shape, isLetter_iff.1 letter, fun cluster member =>
    .inl (isLetter_iff.1 (others cluster member))⟩

theorem lexeme_iff : Lexeme (first :: tail) kind payload ↔ LexemeFrom first tail kind payload := by
  constructor
  · intro lexeme
    generalize shape : first :: tail = taken at lexeme
    cases lexeme with
    | symbol mark => exact .symbol (symbolFrom_iff.2 shape)
    | keyword word =>
        obtain ⟨_, _, parts, letter, others⟩ := keyword_parts word
        obtain ⟨rfl, rfl⟩ := List.cons.inj (shape.trans parts)
        have whole := LexemeFrom.word letter others
        rwa [shape, joined_spelled, wordKind_spelling] at whole
    | identifier letter others noKeyword =>
        obtain ⟨rfl, rfl⟩ := List.cons.inj shape
        have whole := LexemeFrom.word letter others
        rwa [wordKind_of_ne noKeyword] at whole
    | integer _ digits =>
        subst shape
        obtain ⟨digit, others⟩ := List.forall_mem_cons.1 digits
        exact .number digit (.inl others)
    | @fraction whole part present wholeDigits partPresent partDigits =>
        obtain ⟨digit, others, rfl⟩ := List.exists_cons_of_ne_nil present
        obtain ⟨rfl, rfl⟩ := List.cons.inj shape
        obtain ⟨isDigit, areDigits⟩ := List.forall_mem_cons.1 wholeDigits
        exact .number isDigit (.inr ⟨others, part, rfl, areDigits, partPresent, partDigits⟩)
    | text body =>
        obtain ⟨rfl, rfl⟩ := List.cons.inj shape
        exact .text rfl body
  · intro lexeme
    cases lexeme with
    | symbol mark =>
        rw [symbolFrom_iff.1 mark]
        exact .symbol _
    | word letter others =>
        cases found : Keyword.ofSpelling? (joined (first :: tail)) with
        | some word =>
            have spells : spelled (joined (first :: tail)) = first :: tail :=
              spelled_joined fun cluster member => WordPart.lone
                (List.forall_mem_cons.2 ⟨.inl letter, others⟩ cluster member)
            rw [wordKind, found, ← spells, ofSpelling?_eq_some_iff.1 found]
            exact .keyword word
        | none =>
            rw [wordKind, found]
            refine .identifier letter others fun word same => ?_
            rw [ofSpelling?_eq_some_iff.2 same] at found
            cases found
    | number digit numberTail =>
        rcases numberTail with digits | ⟨whole, part, rfl, wholeDigits, present, partDigits⟩
        · exact .integer (List.cons_ne_nil _ _) (List.forall_mem_cons.2 ⟨digit, digits⟩)
        · exact .fraction (List.cons_ne_nil first whole) (List.forall_mem_cons.2 ⟨digit, wholeDigits⟩)
            present partDigits
    | text quote body =>
        subst quote
        exact .text body

end Lexis

end CheckedScript
