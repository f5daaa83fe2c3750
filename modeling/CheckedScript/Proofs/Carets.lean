import CheckedScript.Proofs.Anchors.Checking
import CheckedScript.Proofs.Anchors.Reading
import CheckedScript.Proofs.Anchors.Running
import CheckedScript.Proofs.Layout
import CheckedScript.Proofs.Reader.Unread
import CheckedScript.Proofs.Scanning.Excerpts

/-!
# Carets point at the lexeme

Whichever phase refuses a source text, every diagnostic is charged to a lexeme that stands
in it.  The line that is attached has the clusters of the lexeme from the column on, so the
carets below the line mark these clusters and no others.
-/

namespace CheckedScript

open Lexis (Stands)

/-- What stands before the line in the text of a diagnostic. -/
def Diagnostic.margin (diagnostic : Diagnostic) : String :=
  toString (diagnostic.token.position.line + 1) ++ " | "

/-- What stands before the line that a diagnostic shows: its message, and the place if the
file is known. -/
def Diagnostic.headline (diagnostic : Diagnostic) : String :=
  diagnostic.cause.family.heading ++ ": " ++ diagnostic.message ++
    (match diagnostic.file with
      | none => ""
      | some file => "\n-> " ++ file ++ " " ++ diagnostic.token.position.text)

/-- A diagnostic that shows a line with carets below its lexeme. -/
structure Diagnostic.PointsAt (segmentation : Segmentation) (diagnostic : Diagnostic)
    (line : String) (column : Nat) : Prop where
  shows : diagnostic.sourceLine = some line
  single : '\n' ∉ line.toList
  starts : diagnostic.token.position.column = column
  /-- A lexeme in one line is made of the clusters from the column on. -/
  marks : '\n' ∉ diagnostic.token.lexeme.toList →
    ((segmentation.clusters line.toList).drop column).take
        (segmentation.count diagnostic.token.lexeme) =
      segmentation.clusters diagnostic.token.lexeme.toList
  /-- The carets stand below these clusters. -/
  renders : ∃ front, segmentation.render diagnostic =
    front ++ "\n" ++ diagnostic.margin ++ line ++ "\n" ++
      String.ofList (List.replicate (diagnostic.margin.length + column) ' ') ++
      String.ofList (List.replicate (segmentation.count diagnostic.token.lexeme) '^')

section Excerpts

variable {segmentation : Segmentation} (lawful : segmentation.Lawful) {source : String}
  {diagnostic : Diagnostic}

include lawful in
theorem Lexis.Stands.exists_line {token : Token}
    (stands : Stands segmentation source.toList token) :
    ∃ line column, sourceLine? source token.position.line = some line ∧ '\n' ∉ line.toList ∧
      token.position.column = (column : Nat) ∧ 0 < segmentation.count token.lexeme ∧
      ('\n' ∉ token.lexeme.toList →
        ((segmentation.clusters line.toList).drop column).take
            (segmentation.count token.lexeme) =
          segmentation.clusters token.lexeme.toList) := by
  obtain ⟨passed, taken, rest, cut, position, lexeme, solid⟩ := stands
  have whole : source.toList = passed.flatten ++ (taken ++ rest).flatten := by
    rw [← List.flatten_append, ← cut, lawful.lossless]
  have text : token.lexeme.toList = taken.flatten := by
    rw [lexeme, Scanner.joined, String.toList_ofList]
  have own : segmentation.clusters token.lexeme.toList = taken := by
    rw [text, lawful.clusters_between cut]
  have count : segmentation.count token.lexeme = taken.length := congrArg List.length own
  have present : 0 < taken.length := by
    obtain ⟨front, last, rfl, -⟩ := solid
    simp
  obtain ⟨_, start, _, _, column⟩ := Lexis.exists_lineStart lawful cut
  have shown := sourceLine?_after segmentation whole
  rw [position]
  refine ⟨_, start.length, shown, ?_, column, count ▸ present, fun single => ?_⟩
  · rw [String.toList_ofList]
    exact not_mem_excerpt _ _
  · obtain ⟨before, after, line, found, clustersLine, length⟩ :=
      Lexis.exists_excerpt lawful cut solid (text ▸ single)
    obtain rfl := Option.some.inj (found.symm.trans shown)
    have same : start.length = before.length := Int.ofNat.inj (column.symm.trans length)
    rw [own, count, clustersLine, same, List.drop_left, List.take_left]

include lawful in
/-- What is charged to a lexeme of the source text points at it. -/
theorem Lexis.Stands.pointsAt (stands : Stands segmentation source.toList diagnostic.token)
    (file : Option String) :
    ∃ line column, (diagnostic.annotate source file).PointsAt segmentation line column := by
  obtain ⟨line, column, found, single, place, present, marks⟩ := stands.exists_line lawful
  have shows : (diagnostic.annotate source file).sourceLine = some line := by
    rw [Diagnostic.annotate, found, Option.some_or]
  refine ⟨line, column, shows, single, place, marks, ?_⟩
  have indent : ((diagnostic.margin.length : Int) + diagnostic.token.position.column).toNat =
      diagnostic.margin.length + column := by
    rw [place]
    omega
  have carets : segmentation.caretCount diagnostic.token.lexeme =
      segmentation.count diagnostic.token.lexeme := Nat.max_eq_left present
  refine ⟨(diagnostic.annotate source file).headline, ?_⟩
  rw [Segmentation.render, shows]
  change (diagnostic.annotate source file).headline ++ ("\n" ++ diagnostic.margin ++ line ++ "\n" ++
    String.ofList (List.replicate
      ((diagnostic.margin.length : Int) + diagnostic.token.position.column).toNat ' ') ++
      String.ofList
        (List.replicate (segmentation.caretCount diagnostic.token.lexeme) '^')) = _
  rw [indent, carets]
  simp only [String.append_assoc]
  rfl

end Excerpts

section Phases

variable {segmentation : Segmentation} (lawful : segmentation.Lawful) {source : String}
  {rejection : Rejection}

theorem Native.drawsFrom_printTo (write : Writing) (tokens : List Token) :
    (Native.printTo write).DrawsFrom tokens := by
  intro arguments console value _ equation
  unfold Native.printTo at equation
  dsimp only at equation
  split at equation
  · cases equation
    exact trivial
  · cases equation

theorem Native.drawsFrom_clockReading (readings : Nat → Float) (tokens : List Token) :
    (Native.clockReading readings).DrawsFrom tokens := by
  intro arguments console value _ equation
  cases equation
  exact trivial

include lawful in
theorem stands_of_tokenize {stream : TokenStream}
    (scanned : segmentation.tokenize source = .ok stream) {token : Token}
    (member : token ∈ stream.body) : Stands segmentation source.toList token :=
  (((Lexis.tokenize_eq_ok_iff lawful).1 scanned).1.stands rfl).1 token member

include lawful in
/-- A program is refused for what stands in its source text. -/
theorem stands_of_parse (refused : segmentation.parse source = .error rejection) :
    ∀ diagnostic ∈ rejection.diagnostics,
      Stands segmentation source.toList diagnostic.token := by
  intro diagnostic member
  rcases Segmentation.cases_of_parse_eq_error refused with scanned | ⟨stream, scanned, read⟩
  · obtain ⟨tokens, cut⟩ := Lexis.cut_of_tokenize_eq_error lawful scanned
    exact (cut.stands rfl).2 diagnostic member
  · have drawn := Program.read_drawnFrom stream.body
    rw [read] at drawn
    exact stands_of_tokenize lawful scanned (drawn diagnostic member)

theorem exists_drawnFrom_of_parse {program : Program}
    (read : segmentation.parse source = .ok program) :
    ∃ stream, segmentation.tokenize source = .ok stream ∧
      Stmt.AreDrawnFrom stream.body program := by
  obtain ⟨stream, scanned, read⟩ := Segmentation.exists_of_parse_eq_ok read
  have drawn := Program.read_drawnFrom stream.body
  rw [read] at drawn
  exact ⟨stream, scanned, drawn⟩

/-- A program that is rejected when it is checked or run is so for its own tokens. -/
theorem Program.run_drawnFrom {tokens : List Token} {program : Program} {natives : List Native}
    (drawn : Stmt.AreDrawnFrom tokens program)
    (draws : ∀ native ∈ natives, native.DrawsFrom tokens) {fuel : Nat} {checked : Bool}
    (rejected : (program.run natives fuel checked).1 = .rejected rejection) :
    ∀ diagnostic ∈ rejection.diagnostics, diagnostic.DrawnFrom tokens := by
  unfold Program.run at rejected
  cases checked with
  | false => exact Evaluation.Machine.run_drawnFrom draws drawn rejected
  | true =>
      simp only [if_true] at rejected
      split at rejected
      · exact Evaluation.Machine.run_drawnFrom draws drawn rejected
      · next found =>
          cases rejected
          exact Typing.State.check_drawnFrom drawn found
      · cases rejected
      · cases rejected

include lawful in
theorem stands_of_run {natives : List Native}
    (draws : ∀ tokens, ∀ native ∈ natives, native.DrawsFrom tokens) {fuel : Nat} {checked : Bool}
    (rejected : (segmentation.run source natives fuel checked).1 = .rejected rejection) :
    ∀ diagnostic ∈ rejection.diagnostics,
      Stands segmentation source.toList diagnostic.token := by
  unfold Segmentation.run at rejected
  cases read : segmentation.parse source with
  | error refusal =>
      rw [read] at rejected
      cases rejected
      exact stands_of_parse lawful read
  | ok program =>
      rw [read] at rejected
      obtain ⟨stream, scanned, drawn⟩ := exists_drawnFrom_of_parse read
      exact fun diagnostic member => stands_of_tokenize lawful scanned
        (Program.run_drawnFrom drawn (draws stream.body) rejected diagnostic member)

end Phases

/-- Whichever phase rejects a source text, every diagnostic shows the line of its lexeme,
which has no line feed, and the carets mark the clusters of the lexeme.  Calls of native
functions may fail, too: the output may refuse what is written, at any time and for any
reason. -/
theorem diagnostics_point_at_lexemes {segmentation : Segmentation}
    (lawful : segmentation.Lawful) {source : String} {file : Option String} {write : Writing}
    {readings : Nat → Float} {fuel : Nat} {checked : Bool} {rejection : Rejection}
    (rejected :
      (segmentation.run source [.printTo write, .clockReading readings] fuel checked).1.annotate
        source file = .rejected rejection) :
    ∀ diagnostic ∈ rejection.diagnostics,
      ∃ line column, diagnostic.PointsAt segmentation line column := by
  intro diagnostic member
  have draws : ∀ tokens, ∀ native ∈ [Native.printTo write, .clockReading readings],
      native.DrawsFrom tokens := by
    simp [Native.drawsFrom_printTo, Native.drawsFrom_clockReading]
  cases ended :
      (segmentation.run source [.printTo write, .clockReading readings] fuel checked).1 with
  | rejected original =>
      rw [ended] at rejected
      cases rejected
      obtain ⟨plain, inside, rfl⟩ := List.mem_map.1 member
      exact (stands_of_run lawful draws ended plain inside).pointsAt lawful file
  | value | faulted | aborted | exhausted =>
      rw [ended] at rejected
      cases rejected

/-- A letter with an accent stands before the call that fails, carriage returns behind it. -/
theorem diagnostics_point_at_lexemes_refusedOutput :
    let source := "\n\"e\u0301\"; print(\"a\");\r\r\n"
    let natives : List Native :=
      [.printTo fun _ console => (some "closed", console), .clockReading fun _ => 0]
    let closing : Token := { kind := .symbol .rightParen, lexeme := ")", position := ⟨1, 14⟩ }
    let rejection : Rejection :=
      { phase := .running
        diagnostics := [{ cause := .nativeFailure "print" "closed", token := closing }] }
    (Segmentation.standard.run source natives 20 true).1.annotate source none =
        .rejected (rejection.annotate source none) ∧
      ∀ diagnostic ∈ (rejection.annotate source none).diagnostics,
        ∃ line column, diagnostic.PointsAt Segmentation.standard line column := by
  intro source natives closing rejection
  have ended : (Segmentation.standard.run source natives 20 true).1 = .rejected rejection := by
    cbv
  have rejected : (Segmentation.standard.run source natives 20 true).1.annotate source none =
      .rejected (rejection.annotate source none) := by rw [ended, RunResult.annotate]
  exact ⟨rejected, diagnostics_point_at_lexemes Segmentation.standard_lawful rejected⟩

end CheckedScript
