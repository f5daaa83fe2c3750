import CheckedScript.Proofs.Layout
import CheckedScript.Proofs.Renaming.Checking
import CheckedScript.Proofs.Renaming.Reading
import CheckedScript.Proofs.Renaming.Running
import CheckedScript.Proofs.Scanning.LongestMatch

/-!
# Names do not matter, but for one

A renaming replaces the identifiers among the tokens of a source text.  If it keeps
different names apart and leaves the names of native functions and the name `tuple` alone,
then the renamed program is checked and run like the program itself.  The name `tuple` is
no exception by intent: the rules of typing know tuples by that name, and a function can
have it.
-/

namespace CheckedScript

/-- Another name for an identifier; other tokens stay as they are. -/
def Token.rename (rename : String → String) (token : Token) : Token :=
  if token.kind = .identifier then { token with lexeme := rename token.lexeme } else token

/-- The names among some tokens. -/
def identifiers (tokens : List Token) : List String :=
  (tokens.filter (·.kind = .identifier)).map (·.lexeme)

/-- The names of the native functions. -/
def nativeNames : List String :=
  Native.defaults.map (·.key)

/-- The names of the native functions, and the name by which the rules of typing know tuples. -/
def reservedNames : List String :=
  "tuple" :: nativeNames

/-- The names among some tokens become other names.  Different names stay different, and
reserved ones stay as they are. -/
structure IsRenaming (reserved : List String) (tokens : List Token) (rename : String → String) :
    Prop where
  word : ∀ name ∈ identifiers tokens, IsWord (rename name)
  fixed : ∀ name ∈ reserved, rename name = name
  injective : Set.InjOn rename {name | name ∈ identifiers tokens ∨ name ∈ reserved}

/-- What is seen of the end of a check when names are not looked at. -/
inductive CheckResult.Verdict where
  | accepted
  | rejected (phase : Phase) (spots : List (String × Position))
  | faulted
  | exhausted
  deriving DecidableEq

/-- What is seen of the end of a check when names are not looked at. -/
def CheckResult.verdict : CheckResult → CheckResult.Verdict
  | accepted _ => .accepted
  | rejected rejection => .rejected rejection.phase (rejection.diagnostics.map Diagnostic.spot)
  | faulted _ => .faulted
  | exhausted => .exhausted

section Words

theorem isWord_of_lexeme {list : List Text.Cluster} {payload : Option Payload}
    (lexeme : Lexis.Lexeme list .identifier payload) : IsWord (Scanner.joined list) := by
  have parts : ∀ cluster ∈ list, Lexis.WordPart cluster := by
    cases lexeme with
    | identifier letter tail _ => exact List.forall_mem_cons.2 ⟨.inl letter, tail⟩
  intro character member
  rw [Scanner.joined, String.toList_ofList] at member
  obtain ⟨cluster, inside, within⟩ := List.mem_flatten.1 member
  obtain ⟨lone, rfl⟩ := (parts cluster inside).lone
  rw [List.mem_singleton.1 within]
  exact Lexis.isWordPart_iff.2 (parts _ inside)

open Scanner in
/-- Whatever the clusters of a text are, identifiers are words. -/
theorem isWord_scanFrom (position : Position) (list : List Text.Cluster) :
    ∀ token ∈ (scanFrom position list).tokens, token.kind = .identifier →
      IsWord token.lexeme := by
  induction position, list using piecewise with
  | done position =>
      rw [scanFrom]
      simp
  | step position first list inductionHypothesis =>
      rw [← following] at inductionHypothesis
      cases content : (nextPiece first list).content with
      | skipped =>
          rw [scanFrom_skipped content]
          exact inductionHypothesis
      | lexeme kind payload =>
          rw [scanFrom_lexeme content]
          refine List.forall_mem_cons.2 ⟨?_, inductionHypothesis⟩
          rintro rfl
          have takes := Lexis.takes_nextPiece first list
          rw [content] at takes
          generalize (nextPiece first list).tail = tail, (nextPiece first list).rest = rest at takes
          cases takes with
          | lexeme lexeme => exact isWord_of_lexeme lexeme
      | refused cause lexeme =>
          rw [scanFrom_refused content]
          exact inductionHypothesis

theorem isWord_identifier {segmentation : Segmentation} {source : String} {stream : TokenStream}
    (scanned : segmentation.tokenize source = .ok stream) :
    ∀ name ∈ identifiers stream.body, IsWord name := by
  intro name member
  obtain ⟨token, chosen, rfl⟩ := List.mem_map.1 member
  obtain ⟨inside, isName⟩ := List.mem_filter.1 chosen
  unfold Segmentation.tokenize at scanned
  dsimp only at scanned
  split at scanned
  · cases scanned
    exact isWord_scanFrom _ _ token inside (of_decide_eq_true isName)
  · cases scanned

end Words

namespace IsRenaming

variable {segmentation : Segmentation} {source : String} {stream : TokenStream}
  {rename : String → String}

theorem isWord_reserved : ∀ name ∈ reservedNames, IsWord name := by
  decide

/-- The naming that a renaming of the tokens of a source text amounts to. -/
def naming (renames : IsRenaming reservedNames stream.body rename)
    (scanned : segmentation.tokenize source = .ok stream) : Naming where
  names name other :=
    (name ∈ identifiers stream.body ∨ name ∈ reservedNames) ∧ other = rename name
  tokens token other := token ∈ stream.body ∧ other = token.rename rename
  unique := by
    constructor
    · rintro name other _ ⟨first, rfl⟩ ⟨second, same⟩
      exact renames.injective first second same
    · rintro name _ _ ⟨_, rfl⟩ ⟨_, rfl⟩
      rfl
  words := by
    rintro name _ ⟨member | member, rfl⟩
    · exact ⟨isWord_identifier scanned name member, renames.word name member⟩
    · rw [renames.fixed name member]
      exact ⟨isWord_reserved name member, isWord_reserved name member⟩
  tuple := by
    have member : "tuple" ∈ reservedNames := List.mem_cons_self
    rintro name _ ⟨known, rfl⟩
    constructor
    · rintro rfl
      exact renames.fixed _ member
    · intro same
      exact renames.injective known (.inr member) (same.trans (renames.fixed _ member).symm)
  kind := by
    rintro token _ ⟨_, rfl⟩
    unfold Token.rename
    split <;> rfl
  payload := by
    rintro token _ ⟨_, rfl⟩
    unfold Token.rename
    split <;> rfl
  position := by
    rintro token _ ⟨_, rfl⟩
    unfold Token.rename
    split <;> rfl
  lexeme := by
    rintro token _ ⟨member, rfl⟩ isName
    refine ⟨.inl (List.mem_map.2 ⟨token, List.mem_filter.2 ⟨member, ?_⟩, rfl⟩), ?_⟩
    · exact decide_eq_true isName
    · rw [Token.rename, if_pos isName]
  apart := by
    rintro token _ another _ ⟨first, rfl⟩ ⟨second, rfl⟩ same
    have here := List.inj_on_of_nodup_map (nodup_positions_of_tokenize scanned) first second same
    exact ⟨here, congrArg _ here⟩

variable (renames : IsRenaming reservedNames stream.body rename)
  (scanned : segmentation.tokenize source = .ok stream)

theorem tokens_renamed :
    List.Forall₂ (renames.naming scanned).tokens stream.body
      (stream.body.map (Token.rename rename)) :=
  List.forall₂_map_right_iff.2 (List.forall₂_same.2 fun _ member => ⟨member, rfl⟩)

theorem reserved_names {name : String} (reserved : name ∈ reservedNames) :
    (renames.naming scanned).names name name :=
  ⟨.inr reserved, (renames.fixed name reserved).symm⟩

theorem nativesKept (readings : Nat → Float) :
    Check.NativesKept (renames.naming scanned)
      (Native.signatures [.print, .clockReading readings]) := by
  have print : (renames.naming scanned).names "print" "print" :=
    renames.reserved_names scanned (by decide)
  have clock : (renames.naming scanned).names "clock" "clock" :=
    renames.reserved_names scanned (by decide)
  simp only [Check.NativesKept, Native.signatures, List.map_cons, List.map_nil,
    List.forall_mem_cons]
  exact ⟨⟨print, .native print (.cons .displayable .nil) .unit⟩, ⟨clock,
    .native clock .nil .number⟩, nofun⟩

end IsRenaming

section Natives

variable (naming : Naming)

theorem Native.indifferent_print : Native.print.Indifferent naming := by
  rintro values others console other renamed ⟨ticks, before, after, shown, first, second⟩
  refine ⟨.value .unit, ticks, before ++ values, after ++ others, List.rel_append shown renamed,
    ?_, ?_⟩
  · rw [Value.printed_append, ← first]
    rfl
  · rw [Value.printed_append, ← second]
    rfl

theorem Native.indifferent_clockReading (readings : Nat → Float) :
    (Native.clockReading readings).Indifferent naming := by
  rintro values others console other _ ⟨ticks, output⟩
  unfold Native.clockReading
  dsimp only
  rw [ticks]
  exact ⟨.value (.number _), congrArg (· + 1) rfl, output⟩

end Natives

theorem Diagnostic.Renamed.spots {naming : Naming} {diagnostics others : List Diagnostic}
    (renamed : List.Forall₂ (Diagnostic.Renamed naming) diagnostics others) :
    diagnostics.map Diagnostic.spot = others.map Diagnostic.spot := by
  rw [← List.forall₂_eq_eq_eq]
  exact List.rel_map (fun _ _ same => same.spot) renamed

theorem CheckResult.Renamed.verdict_eq {naming : Naming} {result other : CheckResult}
    (renamed : CheckResult.Renamed naming result other) : result.verdict = other.verdict := by
  cases renamed with
  | accepted => rfl
  | @rejected phase _ _ renamed =>
      exact congrArg (Verdict.rejected phase) (Diagnostic.Renamed.spots renamed)
  | faulted => rfl
  | exhausted => rfl

/-- A program and the renamed program print the same and end alike, up to the names of
functions, whether they are checked first or not. -/
theorem Program.run_renamed {naming : Naming} {natives : List Native}
    (indifferent : ∀ native ∈ natives, native.Indifferent naming)
    (kept : Check.NativesKept naming (Native.signatures natives)) (fuel : Nat) (checked : Bool)
    {program other : Program} (renamed : List.Forall₂ (Stmt.Renamed naming) program other) :
    RunResult.Renamed naming (program.run natives fuel checked).1
        (other.run natives fuel checked).1 ∧
      Console.Renamed naming (program.run natives fuel checked).2.console
        (other.run natives fuel checked).2.console := by
  have keys : ∀ native ∈ natives, naming.names native.key native.key := fun native member =>
    (kept _ (List.mem_map_of_mem member)).1
  have ran := Evaluation.Machine.run_renamed indifferent keys fuel renamed
  have silent : Console.Renamed naming (Evaluation.Machine.start natives).console
      (Evaluation.Machine.start natives).console := ⟨rfl, [], [], .nil, rfl, rfl⟩
  cases checked with
  | false => exact ran
  | true =>
      have verdict := Typing.State.check_renamed kept fuel renamed
      unfold Program.run
      simp only [if_true]
      generalize (({} : Typing.State).check fuel (Native.signatures natives) program).1 = result,
        (({} : Typing.State).check fuel (Native.signatures natives) other).1 = second at verdict
      cases verdict with
      | accepted => exact ran
      | rejected same => exact ⟨.rejected rfl (Diagnostic.Renamed.spots same), silent⟩
      | faulted alike => exact ⟨.faulted alike, silent⟩
      | exhausted => exact ⟨.exhausted, silent⟩

/-- The renamed tokens are those of a program, too.  The check accepts the one program if
and only if it accepts the other and finds the same faults at the same places.  Both print
the same and end alike, up to the names of functions, if the output takes all that is
printed: functions are printed with their names. -/
theorem names_do_not_matter {segmentation : Segmentation} {source : String}
    {stream : TokenStream} {program : Program} {rename : String → String}
    (scanned : segmentation.tokenize source = .ok stream)
    (read : Program.read stream.body = .ok program)
    (renames : IsRenaming reservedNames stream.body rename) :
    ∃ other, Program.read (stream.body.map (Token.rename rename)) = .ok other ∧
      ∀ readings fuel,
        let natives := [.print, .clockReading readings]
        (({} : Typing.State).check fuel (Native.signatures natives) program).1.verdict =
            (({} : Typing.State).check fuel (Native.signatures natives) other).1.verdict ∧
          ∀ checked,
            RunResult.Renamed (renames.naming scanned) (program.run natives fuel checked).1
                (other.run natives fuel checked).1 ∧
              Console.Renamed (renames.naming scanned)
                (program.run natives fuel checked).2.console
                (other.run natives fuel checked).2.console := by
  obtain ⟨other, readOther, renamed⟩ :=
    Program.exists_read_renamed (renames.tokens_renamed scanned) read
  refine ⟨other, readOther, fun readings fuel => ?_⟩
  have kept := renames.nativesKept scanned readings
  have indifferent : ∀ native ∈ [Native.print, .clockReading readings],
      native.Indifferent (renames.naming scanned) := by
    simp [Native.indifferent_print, Native.indifferent_clockReading]
  exact ⟨(Typing.State.check_renamed kept fuel renamed).verdict_eq, fun checked =>
    Program.run_renamed indifferent kept fuel checked renamed⟩

section Tuples

/-- What the check says of a program. -/
def Program.verdict (program : Program) (fuel : Nat) : CheckResult.Verdict :=
  (({} : Typing.State).check fuel (Native.signatures Native.defaults) program).1.verdict

/-- The names of a source text and what the check says of it, before and after its names are
replaced. -/
def comparison (source : String) (rename : String → String) (fuel : Nat) :
    Except Rejection (List String × CheckResult.Verdict × CheckResult.Verdict) := do
  let stream ← tokenize source
  let program ← Program.read stream.body
  let other ← Program.read (stream.body.map (Token.rename rename))
  return (identifiers stream.body, program.verdict fuel, other.verdict fuel)

theorem exists_of_bind_eq_ok {ε α β : Type} {first : Except ε α} {next : α → Except ε β}
    {result : β} (equation : (first >>= next) = .ok result) :
    ∃ value, first = .ok value ∧ next value = .ok result := by
  cases first with
  | error => cases equation
  | ok value => exact ⟨value, rfl, equation⟩

theorem exists_of_comparison {source : String} {rename : String → String} {fuel : Nat}
    {names : List String} {first second : CheckResult.Verdict}
    (compared : comparison source rename fuel = .ok (names, first, second)) :
    ∃ stream program other, tokenize source = .ok stream ∧
      Program.read stream.body = .ok program ∧
      Program.read (stream.body.map (Token.rename rename)) = .ok other ∧
      identifiers stream.body = names ∧ program.verdict fuel = first ∧
      other.verdict fuel = second := by
  obtain ⟨stream, scanned, rest⟩ := exists_of_bind_eq_ok compared
  obtain ⟨program, read, rest⟩ := exists_of_bind_eq_ok rest
  obtain ⟨other, readOther, rest⟩ := exists_of_bind_eq_ok rest
  cases rest
  exact ⟨stream, program, other, scanned, read, readOther, rfl, rfl, rfl⟩

/-- A function that is called `g` from now on can still not be assigned a tuple. -/
theorem names_do_not_matter_assigned :
    let source := "fun f() \x7b \"a\" \x7d f = ();"
    let rename := Equiv.swap "f" "g"
    ∃ stream program other, tokenize source = .ok stream ∧
      Program.read stream.body = .ok program ∧ IsRenaming reservedNames stream.body rename ∧
      Program.read (stream.body.map (Token.rename rename)) = .ok other ∧
      program.verdict 100 = .rejected .checking [("T005", ⟨0, 16⟩)] ∧
      other.verdict 100 = .rejected .checking [("T005", ⟨0, 16⟩)] := by
  intro source rename
  have compared : comparison source id 100 = .ok (["f", "f"],
      .rejected .checking [("T005", ⟨0, 16⟩)], .rejected .checking [("T005", ⟨0, 16⟩)]) := by cbv
  obtain ⟨stream, program, _, scanned, read, _, names, verdict, _⟩ :=
    exists_of_comparison compared
  have renames : IsRenaming reservedNames stream.body rename :=
    ⟨by rw [names]; decide, by decide, rename.injective.injOn⟩
  obtain ⟨other, readOther, alike⟩ := names_do_not_matter scanned read renames
  have same : program.verdict 100 = other.verdict 100 :=
    (alike (fun ticks => Float.ofNat (ticks + 1)) 100).1
  exact ⟨stream, program, other, scanned, read, renames, readOther, verdict, same ▸ verdict⟩

/-- The name `tuple` matters, although no native function has it.  A function called so can
be assigned the empty tuple. -/
theorem name_of_tuples_matters :
    ¬ ∀ source stream program rename other fuel, tokenize source = .ok stream →
      Program.read stream.body = .ok program → IsRenaming nativeNames stream.body rename →
      Program.read (stream.body.map (Token.rename rename)) = .ok other →
      program.verdict fuel = other.verdict fuel := by
  intro alike
  have compared : comparison "fun tuple() \x7b \"a\" \x7d tuple = ();" (Equiv.swap "tuple" "f")
      100 = .ok (["tuple", "tuple"], .accepted, .rejected .checking [("T005", ⟨0, 20⟩)]) := by cbv
  obtain ⟨stream, program, other, scanned, read, readOther, names, accepted, rejected⟩ :=
    exists_of_comparison compared
  have renames : IsRenaming nativeNames stream.body (Equiv.swap "tuple" "f") :=
    ⟨by rw [names]; decide, by decide, (Equiv.swap "tuple" "f").injective.injOn⟩
  have same := alike _ _ _ _ _ 100 scanned read renames readOther
  rw [accepted, rejected] at same
  cases same

end Tuples

end CheckedScript
