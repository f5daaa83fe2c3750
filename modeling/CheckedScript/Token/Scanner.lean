import CheckedScript.Decimal.Reading
import CheckedScript.Diagnostic

/-!
# Scanning

Scanning cuts the clusters of a source text into pieces: blanks and comments,
which are skipped, lexemes, which become tokens, and clusters that no lexeme can
start with, which are refused.  A piece takes as many clusters as its class
allows.  Pieces follow each other without a gap, so the position of every token
is found by walking over the clusters before it.
-/

namespace CheckedScript

open Text (Cluster)

namespace Scanner

/-- Line ends. -/
def isNewline (cluster : Cluster) : Bool :=
  cluster = ['\n'] || cluster = ['\r', '\n']

/-- Blanks within a line. -/
def isBlank (cluster : Cluster) : Bool :=
  cluster = [' '] || cluster = ['\t'] || cluster = ['\r']

/-- A plain decimal digit without marks. -/
def isDigit : Cluster → Bool
  | [character] => character.isDigit
  | _ => false

/-- A character an identifier may start with. -/
def isLetter : Cluster → Bool
  | [character] => character.isAlpha || character = '_'
  | _ => false

/-- A character an identifier may go on with. -/
def isWordPart (cluster : Cluster) : Bool :=
  isLetter cluster || isDigit cluster

/-- Symbols that are no beginning of a longer one. -/
def loneSymbol? : Cluster → Option Symbol
  | ['('] => some .leftParen
  | [')'] => some .rightParen
  | ['\x7b'] => some .leftBrace
  | ['\x7d'] => some .rightBrace
  | [','] => some .comma
  | [':'] => some .colon
  | [';'] => some .semicolon
  | ['-'] => some .minus
  | ['+'] => some .plus
  | ['/'] => some .slash
  | ['*'] => some .star
  | _ => none

/-- Symbols that mean another one when an equals sign follows. -/
def equalSymbols? : Cluster → Option (Symbol × Symbol)
  | ['!'] => some (.bang, .bangEqual)
  | ['='] => some (.equal, .equalEqual)
  | ['<'] => some (.less, .lessEqual)
  | ['>'] => some (.greater, .greaterEqual)
  | _ => none

/-- The text of some clusters. -/
def joined (clusters : List Cluster) : String :=
  String.ofList clusters.flatten

/-- What a piece of the source amounts to. -/
inductive Content where
  | skipped
  | lexeme (kind : Kind) (payload : Option Payload)
  | refused (cause : Cause) (lexeme : String)

/-- A piece of the source: its first cluster is given, `tail` holds the others
and `rest` what follows the piece. -/
structure Piece where
  content : Content
  tail : List Cluster
  rest : List Cluster

/-- The digits after the first one, with a point and more digits if a digit
follows the point. -/
def splitNumber (clusters : List Cluster) : List Cluster × List Cluster :=
  let digits := clusters.takeWhile isDigit
  match clusters.dropWhile isDigit with
  | ['.'] :: next :: following =>
      if isDigit next then
        (digits ++ ['.'] :: (next :: following).takeWhile isDigit,
          (next :: following).dropWhile isDigit)
      else
        (digits, ['.'] :: next :: following)
  | remainder => (digits, remainder)

/-- A text literal runs up to the next quote; without one it is refused and
takes the whole remainder. -/
def textPiece (clusters : List Cluster) : Piece :=
  let body := clusters.takeWhile (· ≠ ['"'])
  match clusters.dropWhile (· ≠ ['"']) with
  | [] =>
      { content := .refused .unterminatedText "\"", tail := body, rest := [] }
  | quote :: following =>
      { content := .lexeme .text (some (.text (joined body)))
        tail := body ++ [quote]
        rest := following }

/-- A number literal and its value. -/
def numberPiece (first : Cluster) (clusters : List Cluster) : Piece :=
  let (tail, rest) := splitNumber clusters
  { content := .lexeme .number (some (.number (Decimal.read (first :: tail).flatten)))
    tail := tail
    rest := rest }

/-- An identifier, or the reserved word it spells. -/
def wordPiece (first : Cluster) (clusters : List Cluster) : Piece :=
  let tail := clusters.takeWhile isWordPart
  let kind :=
    match Keyword.ofSpelling? (joined (first :: tail)) with
    | some keyword => .keyword keyword
    | none => .identifier
  { content := .lexeme kind none
    tail := tail
    rest := clusters.dropWhile isWordPart }

/-- The symbol alone, or the longer one if an equals sign follows. -/
def equalPiece (alone withEqual : Symbol) : List Cluster → Piece
  | ['='] :: following =>
      { content := .lexeme (.symbol withEqual) none, tail := [['=']], rest := following }
  | clusters =>
      { content := .lexeme (.symbol alone) none, tail := [], rest := clusters }

/-- Two points are a symbol, one is refused. -/
def dotPiece : List Cluster → Piece
  | ['.'] :: following =>
      { content := .lexeme (.symbol .dotDot) none, tail := [['.']], rest := following }
  | clusters =>
      { content := .refused .unexpectedSymbol ".", tail := [], rest := clusters }

/-- A comment runs up to the line end, which it does not include. -/
def commentPiece (clusters : List Cluster) : Piece :=
  { content := .skipped
    tail := clusters.takeWhile (!isNewline ·)
    rest := clusters.dropWhile (!isNewline ·) }

/-- The piece that starts with the given cluster. -/
def nextPiece (first : Cluster) (clusters : List Cluster) : Piece :=
  if isBlank first || isNewline first then
    { content := .skipped, tail := [], rest := clusters }
  else
    match loneSymbol? first, equalSymbols? first with
    | some symbol, _ =>
        { content := .lexeme (.symbol symbol) none, tail := [], rest := clusters }
    | none, some (alone, withEqual) => equalPiece alone withEqual clusters
    | none, none =>
        if first = ['.'] then dotPiece clusters
        else if first = ['#'] then commentPiece clusters
        else if first = ['"'] then textPiece clusters
        else if isDigit first then numberPiece first clusters
        else if isLetter first then wordPiece first clusters
        else
          { content := .refused .unexpectedSymbol (joined [first])
            tail := []
            rest := clusters }

theorem splitNumber_append (clusters : List Cluster) :
    (splitNumber clusters).1 ++ (splitNumber clusters).2 = clusters := by
  have whole := List.takeWhile_append_dropWhile (p := isDigit) (l := clusters)
  unfold splitNumber
  split
  · next next following shape =>
      split
      · rw [shape] at whole
        simpa using whole
      · rw [shape] at whole
        simpa using whole
  · simp

/-- A piece and what follows it make up what was there. -/
theorem nextPiece_tail_append_rest (first : Cluster) (clusters : List Cluster) :
    (nextPiece first clusters).tail ++ (nextPiece first clusters).rest = clusters := by
  unfold nextPiece
  split
  · rfl
  · split
    · rfl
    · unfold equalPiece
      split <;> rfl
    · split
      · unfold dotPiece
        split <;> rfl
      · split
        · simp [commentPiece]
        · split
          · have whole := List.takeWhile_append_dropWhile
              (p := fun cluster : Cluster => decide (cluster ≠ ['"'])) (l := clusters)
            unfold textPiece
            split
            · next shape =>
                rw [shape] at whole
                simpa using whole
            · next quote following shape =>
                rw [shape] at whole
                simpa using whole
          · split
            · simp [numberPiece, splitNumber_append]
            · split
              · simp [wordPiece]
              · rfl

theorem nextPiece_rest_length_le (first : Cluster) (clusters : List Cluster) :
    (nextPiece first clusters).rest.length ≤ clusters.length := by
  have whole := congrArg List.length (nextPiece_tail_append_rest first clusters)
  simp only [List.length_append] at whole
  omega

/-- The position after a cluster. -/
def advance (position : Position) (cluster : Cluster) : Position :=
  if isNewline cluster then
    { line := position.line + 1, column := 0 }
  else
    { line := position.line, column := position.column + 1 }

/-- Everything found in a source text: the tokens, the refused pieces, and the
position where the text ends. -/
structure Scan where
  tokens : List Token
  diagnostics : List Diagnostic
  stop : Position

/-- Scan clusters from a position on. -/
def scanFrom (position : Position) : List Cluster → Scan
  | [] => { tokens := [], diagnostics := [], stop := position }
  | first :: clusters =>
      let piece := nextPiece first clusters
      let following :=
        scanFrom ((first :: piece.tail).foldl advance position) piece.rest
      match piece.content with
      | .skipped => following
      | .lexeme kind payload =>
          let token : Token :=
            { kind := kind
              lexeme := joined (first :: piece.tail)
              position := position
              payload := payload }
          { following with tokens := token :: following.tokens }
      | .refused cause lexeme =>
          let diagnostic : Diagnostic :=
            { cause := cause
              token := { kind := .unknown, lexeme := lexeme, position := position } }
          { following with diagnostics := diagnostic :: following.diagnostics }
termination_by clusters => clusters.length
decreasing_by
  have bound := nextPiece_rest_length_le first clusters
  simp only [List.length_cons]
  omega

/-- Scan a whole source text, cut into clusters. -/
def scan (segmentation : Segmentation) (source : String) : Scan :=
  scanFrom Position.origin (segmentation.clusters source.toList)

/-- The tokens of a scan, with an end marker. -/
def Scan.stream (scan : Scan) : TokenStream where
  body := scan.tokens
  last := { kind := .endOfInput, lexeme := "", position := scan.stop }

end Scanner

/-- Cut a source text into tokens, or refuse it with every fault found. -/
def Segmentation.tokenize (segmentation : Segmentation) (source : String) :
    Except Rejection TokenStream :=
  let scan := Scanner.scan segmentation source
  if scan.diagnostics.isEmpty then
    .ok scan.stream
  else
    .error { phase := .scanning, diagnostics := scan.diagnostics }

end CheckedScript
