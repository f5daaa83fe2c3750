import CheckedScript.Proofs.Renaming.Types

/-!
# Messages about renamed programs

A message shows names, be it alone or inside a type.  Each of them ends where no word goes on,
so a message can be read back.  Hence two diagnostics of one program have the same key if and
only if the corresponding diagnostics of the renamed program have.
-/

namespace CheckedScript

/-- No word goes on here. -/
def EndsWord (rest : List Char) : Prop :=
  ∀ character ∈ rest.head?, Scanner.isWordPart [character] = false

@[simp]
theorem endsWord_nil : EndsWord [] := by
  intro character none
  cases none

@[simp]
theorem endsWord_cons {character : Char} {rest : List Char} :
    EndsWord (character :: rest) ↔ Scanner.isWordPart [character] = false := by
  simp [EndsWord]

@[simp]
theorem isWordPart_space : Scanner.isWordPart [' '] = false :=
  rfl

@[simp]
theorem isWordPart_quote : Scanner.isWordPart ['\''] = false :=
  rfl

/-- A word is read up to where no word goes on. -/
theorem IsWord.read {name other : String} (isWord : IsWord name) (otherIsWord : IsWord other)
    {rest others : List Char} (ends : EndsWord rest) (endsOther : EndsWord others)
    (same : name.toList ++ rest = other.toList ++ others) : name = other ∧ rest = others := by
  have taken : ∀ {word : String} {later : List Char}, IsWord word → EndsWord later →
      (word.toList ++ later).takeWhile (fun character => Scanner.isWordPart [character]) =
        word.toList := by
    intro word later parts ends
    rw [List.takeWhile_append_of_pos parts]
    cases later with
    | nil => simp
    | cons character later =>
        rw [List.takeWhile_cons_of_neg (by simp [ends character rfl]), List.append_nil]
  have names : name.toList = other.toList := by
    rw [← taken isWord ends, same, taken otherIsWord endsOther]
  exact ⟨String.toList_injective names, List.append_cancel_left (names ▸ same)⟩

/-- A name is read up to where no word goes on, and the other name likewise. -/
theorem Naming.read {naming : Naming} {name other another further rest others : String}
    (first : naming.names name other) (second : naming.names another further)
    (ends : EndsWord rest.toList) (endsOther : EndsWord others.toList)
    (same : name ++ rest = another ++ others) : other = further ∧ rest = others := by
  rw [← String.toList_inj, String.toList_append, String.toList_append] at same
  obtain ⟨names, later⟩ := (naming.words first).1.read (naming.words second).1 ends endsOther same
  exact ⟨naming.unique.2 first (names ▸ second), String.toList_inj.1 later⟩

namespace Ty

/-- The text of the items of a list behind its first one, up to what follows the list. -/
def behindItem (rest : List Char) : List Ty → List Char
  | [] => ')' :: rest
  | item :: items => ',' :: ' ' :: item.describe.toList ++ behindItem rest items

/-- The text of a list, up to what follows it. -/
def listed (rest : List Char) : List Ty → List Char
  | [] => ')' :: rest
  | item :: items => item.describe.toList ++ behindItem rest items

theorem intercalate_describeAll (items : List Ty) (rest : List Char) :
    [',', ' '].intercalate ((describeAll items).map String.toList) ++ ')' :: rest =
      listed rest items := by
  cases items with
  | nil => rfl
  | cons item items =>
      induction items generalizing item with
      | nil => simp [describeAll, listed, behindItem]
      | cons other items inductionHypothesis =>
          have later := inductionHypothesis other
          simp only [describeAll, List.map_cons, listed, behindItem] at later ⊢
          rw [List.intercalate_cons_cons, List.append_assoc, later, List.append_assoc]
          rfl

theorem describe_tuple_append (items : List Ty) (rest : List Char) :
    (tuple items).describe.toList ++ rest = '(' :: listed rest items := by
  simp [describe, ← intercalate_describeAll]

theorem describe_function_append (name : String) (identifier : Nat) (rest : List Char) :
    (function name identifier).describe.toList ++ rest =
      'f' :: 'u' :: 'n' :: ' ' :: (name.toList ++ rest) := by
  simp [describe]

theorem describe_native_append (name : String) (parameters : List Ty) (result : Ty)
    (rest : List Char) :
    (native name parameters result).describe.toList ++ rest =
      'f' :: 'u' :: 'n' :: '(' ::
        listed (' ' :: '-' :: '>' :: ' ' :: (result.describe.toList ++ rest)) parameters := by
  simp [describe, ← intercalate_describeAll]

theorem endsWord_behindItem (rest : List Char) (items : List Ty) :
    EndsWord (behindItem rest items) := by
  intro character starts
  cases items <;> cases starts <;> rfl

variable {naming : Naming}

/-- No type is shown as nothing, and none starts with a closing parenthesis. -/
theorem Renamed.starts {type other : Ty} (renamed : type.Renamed naming other) (rest : List Char) :
    ∃ first later, type.describe.toList ++ rest = first :: later ∧ first ≠ ')' := by
  cases renamed <;> simp [Ty.describe]

mutual

/-- A type is read up to where no word goes on, and the renamed type is read likewise. -/
theorem Renamed.read {left first right second : Ty} (leftRenamed : left.Renamed naming first)
    (rightRenamed : right.Renamed naming second) {rest others : List Char} (ends : EndsWord rest)
    (endsOther : EndsWord others)
    (same : left.describe.toList ++ rest = right.describe.toList ++ others) :
    first.describe = second.describe ∧ rest = others := by
  cases leftRenamed with
  | tuple items =>
      cases rightRenamed with
      | tuple others =>
          simp only [describe_tuple_append, List.cons.injEq, true_and] at same
          have inside := AreRenamed.read items others same
          exact ⟨by rw [describe, describe, inside.1], inside.2⟩
      | _ => simp [Ty.describe] at same
  | function identifier names =>
      cases rightRenamed with
      | function _ others =>
          simp only [describe_function_append, List.cons.injEq, true_and] at same
          have read := (naming.words names).1.read (naming.words others).1 ends endsOther same
          rw [naming.unique.2 names (read.1 ▸ others)]
          exact ⟨rfl, read.2⟩
      | _ => simp [Ty.describe] at same
  | native names parameters result =>
      cases rightRenamed with
      | native others otherParameters otherResult =>
          simp only [describe_native_append, List.cons.injEq, true_and] at same
          have inside := AreRenamed.read parameters otherParameters same
          have behind := result.read otherResult ends endsOther (by simpa using inside.2)
          exact ⟨by rw [describe, describe, inside.1, behind.1], behind.2⟩
      | _ => simp [Ty.describe] at same
  | number | text | bool | displayable | unknown =>
      cases rightRenamed <;> simp [Ty.describe] at same ⊢
      all_goals exact same

theorem AreRenamed.read {lefts firsts rights seconds : List Ty}
    (leftRenamed : AreRenamed naming lefts firsts)
    (rightRenamed : AreRenamed naming rights seconds) {rest others : List Char}
    (same : listed rest lefts = listed others rights) :
    describeAll firsts = describeAll seconds ∧ rest = others := by
  cases leftRenamed with
  | nil =>
      cases rightRenamed with
      | nil => exact ⟨rfl, List.tail_eq_of_cons_eq same⟩
      | cons right rights =>
          obtain ⟨character, later, starts, different⟩ := right.starts (behindItem others _)
          exact absurd (List.head_eq_of_cons_eq (same.trans starts)).symm different
  | cons left lefts =>
      cases rightRenamed with
      | nil =>
          obtain ⟨character, later, starts, different⟩ := left.starts (behindItem rest _)
          exact absurd (List.head_eq_of_cons_eq (starts.symm.trans same)) different
      | cons right rights =>
          have item := left.read right (endsWord_behindItem rest _) (endsWord_behindItem others _)
            same
          have items := AreRenamed.readBehind lefts rights item.2
          exact ⟨by rw [describeAll, describeAll, item.1, items.1], items.2⟩

theorem AreRenamed.readBehind {lefts firsts rights seconds : List Ty}
    (leftRenamed : AreRenamed naming lefts firsts)
    (rightRenamed : AreRenamed naming rights seconds) {rest others : List Char}
    (same : behindItem rest lefts = behindItem others rights) :
    describeAll firsts = describeAll seconds ∧ rest = others := by
  cases leftRenamed with
  | nil =>
      cases rightRenamed with
      | nil => exact ⟨rfl, List.tail_eq_of_cons_eq same⟩
      | cons right rights => simp [behindItem] at same
  | cons left lefts =>
      cases rightRenamed with
      | nil => simp [behindItem] at same
      | cons right rights =>
          simp only [behindItem, List.cons_append, List.cons.injEq, true_and] at same
          have item := left.read right (endsWord_behindItem rest _) (endsWord_behindItem others _)
            same
          have items := AreRenamed.readBehind lefts rights item.2
          exact ⟨by rw [describeAll, describeAll, item.1, items.1], items.2⟩

end

variable {left first right second : Ty}

theorem Renamed.readText (leftRenamed : left.Renamed naming first)
    (rightRenamed : right.Renamed naming second) {rest others : String}
    (ends : EndsWord rest.toList) (endsOther : EndsWord others.toList)
    (same : left.describe ++ rest = right.describe ++ others) :
    first.describe = second.describe ∧ rest = others := by
  rw [← String.toList_inj, String.toList_append, String.toList_append] at same
  exact (leftRenamed.read rightRenamed ends endsOther same).imp_right String.toList_inj.1

theorem Renamed.describe_eq (leftRenamed : left.Renamed naming first)
    (rightRenamed : right.Renamed naming second) (same : left.describe = right.describe) :
    first.describe = second.describe :=
  (leftRenamed.read rightRenamed endsWord_nil endsWord_nil (by rw [same])).1

end Ty

/-- Causes that a check finds in programs that differ in names only. -/
inductive Cause.Renamed (naming : Naming) : Cause → Cause → Prop
  | operandsMismatch {left first right second : Ty} :
      left.Renamed naming first → right.Renamed naming second →
        Renamed naming (.operandsMismatch left.describe right.describe)
          (.operandsMismatch first.describe second.describe)
  | operandMismatch {operand other : Ty} :
      operand.Renamed naming other →
        Renamed naming (.operandMismatch operand.describe) (.operandMismatch other.describe)
  | initializerMismatch {declared first found second : Ty} :
      declared.Renamed naming first → found.Renamed naming second →
        Renamed naming (.initializerMismatch declared.describe found.describe)
          (.initializerMismatch first.describe second.describe)
  | undefinedName : Renamed naming .undefinedName .undefinedName
  | assignmentMismatch {declared first found second : Ty} :
      declared.Renamed naming first → found.Renamed naming second →
        Renamed naming (.assignmentMismatch declared.describe found.describe)
          (.assignmentMismatch first.describe second.describe)
  | wrongArity {callee other : String} (expected found : Nat) :
      naming.names callee other →
        Renamed naming (.wrongArity callee (toString expected) (toString found))
          (.wrongArity other (toString expected) (toString found))
  | notCallable {found other : Ty} :
      found.Renamed naming other →
        Renamed naming (.notCallable found.describe) (.notCallable other.describe)
  | conditionNotBool {found other : Ty} :
      found.Renamed naming other →
        Renamed naming (.conditionNotBool found.describe) (.conditionNotBool other.describe)
  | boundNotNumber {found other : Ty} :
      found.Renamed naming other →
        Renamed naming (.boundNotNumber found.describe) (.boundNotNumber other.describe)
  | returnOutsideFunction : Renamed naming .returnOutsideFunction .returnOutsideFunction
  | returnMismatch {callee other : String} {expected first found second : Ty} :
      naming.names callee other → expected.Renamed naming first → found.Renamed naming second →
        Renamed naming (.returnMismatch callee expected.describe found.describe)
          (.returnMismatch other first.describe second.describe)
  | unresolvedRecursion {callee other : String} :
      naming.names callee other →
        Renamed naming (.unresolvedRecursion callee) (.unresolvedRecursion other)
  | argumentMismatch {callee other : String} {expected first found second : Ty} :
      naming.names callee other → expected.Renamed naming first → found.Renamed naming second →
        Renamed naming (.argumentMismatch callee expected.describe found.describe)
          (.argumentMismatch other first.describe second.describe)

namespace Cause.Renamed

variable {naming : Naming} {cause other another further : Cause}

theorem code (renamed : cause.Renamed naming other) : cause.code = other.code := by
  cases renamed <;> rfl

theorem symm (renamed : cause.Renamed naming other) : other.Renamed naming.symm cause := by
  cases renamed with
  | operandsMismatch left right => exact .operandsMismatch left.symm right.symm
  | operandMismatch operand => exact .operandMismatch operand.symm
  | initializerMismatch declared found => exact .initializerMismatch declared.symm found.symm
  | undefinedName => exact .undefinedName
  | assignmentMismatch declared found => exact .assignmentMismatch declared.symm found.symm
  | wrongArity expected found names => exact .wrongArity expected found names
  | notCallable found => exact .notCallable found.symm
  | conditionNotBool found => exact .conditionNotBool found.symm
  | boundNotNumber found => exact .boundNotNumber found.symm
  | returnOutsideFunction => exact .returnOutsideFunction
  | returnMismatch names expected found => exact .returnMismatch names expected.symm found.symm
  | unresolvedRecursion names => exact .unresolvedRecursion names
  | argumentMismatch names expected found =>
      exact .argumentMismatch names expected.symm found.symm

/-- Causes that say the same of one token do so when things have other names. -/
theorem message_eq (first : cause.Renamed naming other) (second : another.Renamed naming further)
    (code : cause.code = another.code) {lexeme : String} (renamed : String)
    (same : cause.message lexeme = another.message lexeme) :
    other.message renamed = further.message renamed := by
  unfold message at same ⊢
  cases first with
  | operandsMismatch left right =>
      cases second with
      | operandsMismatch otherLeft otherRight =>
          simp only [String.append_assoc, String.append_right_inj] at same ⊢
          obtain ⟨leftSame, later⟩ := left.readText otherLeft (by simp) (by simp) same
          simp only [String.append_right_inj] at later
          rw [leftSame, (right.readText otherRight (by simp) (by simp) later).1]
      | _ => simp only [Cause.code, String.reduceEq] at code
  | operandMismatch operand =>
      cases second with
      | operandMismatch otherOperand =>
          simp only [String.append_assoc, String.append_right_inj] at same ⊢
          rw [(operand.readText otherOperand (by simp) (by simp) same).1]
      | _ => simp only [Cause.code, String.reduceEq] at code
  | initializerMismatch declared found =>
      cases second with
      | initializerMismatch otherDeclared otherFound =>
          simp only [String.append_assoc, String.append_right_inj] at same ⊢
          obtain ⟨declaredSame, later⟩ := declared.readText otherDeclared (by simp) (by simp) same
          rw [declaredSame, found.describe_eq otherFound ((String.append_right_inj _).1 later)]
      | _ => simp only [Cause.code, String.reduceEq] at code
  | undefinedName =>
      cases second with
      | undefinedName => rfl
      | _ => simp only [Cause.code, String.reduceEq] at code
  | assignmentMismatch declared found =>
      cases second with
      | assignmentMismatch otherDeclared otherFound =>
          simp only [String.append_assoc, String.append_right_inj] at same ⊢
          obtain ⟨foundSame, later⟩ := found.readText otherFound (by simp) (by simp) same
          rw [foundSame, declared.describe_eq otherDeclared ((String.append_right_inj _).1 later)]
      | _ => simp only [Cause.code, String.reduceEq] at code
  | wrongArity expected found names =>
      cases second with
      | wrongArity otherExpected otherFound otherNames =>
          simp only [String.append_assoc, String.append_right_inj] at same ⊢
          obtain ⟨calleeSame, later⟩ := naming.read names otherNames (by simp) (by simp) same
          rw [calleeSame, later]
      | _ => simp only [Cause.code, String.reduceEq] at code
  | notCallable found =>
      cases second with
      | notCallable otherFound =>
          rw [found.describe_eq otherFound ((String.append_right_inj _).1 same)]
      | _ => simp only [Cause.code, String.reduceEq] at code
  | conditionNotBool found =>
      cases second with
      | conditionNotBool otherFound =>
          rw [found.describe_eq otherFound ((String.append_right_inj _).1 same)]
      | _ => simp only [Cause.code, String.reduceEq] at code
  | boundNotNumber found =>
      cases second with
      | boundNotNumber otherFound =>
          rw [found.describe_eq otherFound ((String.append_right_inj _).1 same)]
      | _ => simp only [Cause.code, String.reduceEq] at code
  | returnOutsideFunction =>
      cases second with
      | returnOutsideFunction => rfl
      | _ => simp only [Cause.code, String.reduceEq] at code
  | returnMismatch names expected found =>
      cases second with
      | returnMismatch otherNames otherExpected otherFound =>
          simp only [String.append_assoc, String.append_right_inj] at same ⊢
          obtain ⟨calleeSame, types⟩ := naming.read names otherNames (by simp) (by simp) same
          obtain ⟨expectedSame, later⟩ := expected.readText otherExpected (by simp) (by simp)
            ((String.append_right_inj _).1 types)
          rw [calleeSame, expectedSame,
            found.describe_eq otherFound ((String.append_right_inj _).1 later)]
      | _ => simp only [Cause.code, String.reduceEq] at code
  | unresolvedRecursion names =>
      cases second with
      | unresolvedRecursion otherNames =>
          simp only [String.append_assoc, String.append_right_inj] at same ⊢
          rw [(naming.read names otherNames (by simp) (by simp) same).1]
      | _ => simp only [Cause.code, String.reduceEq] at code
  | argumentMismatch names expected found =>
      cases second with
      | argumentMismatch otherNames otherExpected otherFound =>
          simp only [String.append_assoc, String.append_right_inj] at same ⊢
          obtain ⟨calleeSame, types⟩ := naming.read names otherNames (by simp) (by simp) same
          obtain ⟨expectedSame, later⟩ := expected.readText otherExpected (by simp) (by simp)
            ((String.append_right_inj _).1 types)
          rw [calleeSame, expectedSame,
            found.describe_eq otherFound ((String.append_right_inj _).1 later)]
      | _ => simp only [Cause.code, String.reduceEq] at code

end Cause.Renamed

/-- Diagnostics of two programs that differ in names only. -/
structure Diagnostic.Renamed (naming : Naming) (diagnostic other : Diagnostic) : Prop where
  token : naming.tokens diagnostic.token other.token
  cause : diagnostic.cause.Renamed naming other.cause

namespace Diagnostic.Renamed

variable {naming : Naming} {diagnostic other another further : Diagnostic}

theorem symm (renamed : diagnostic.Renamed naming other) :
    other.Renamed naming.symm diagnostic :=
  ⟨renamed.token, renamed.cause.symm⟩

theorem spot (renamed : diagnostic.Renamed naming other) : diagnostic.spot = other.spot :=
  Prod.ext renamed.cause.code (naming.position renamed.token)

theorem key_eq (first : diagnostic.Renamed naming other) (second : another.Renamed naming further)
    (same : diagnostic.key = another.key) : other.key = further.key := by
  simp only [key, Key.mk.injEq] at same ⊢
  obtain ⟨code, position, message⟩ := same
  obtain ⟨token, otherToken⟩ := naming.apart first.token second.token position
  refine ⟨by rw [← first.cause.code, code, second.cause.code], by rw [otherToken], ?_⟩
  unfold Diagnostic.message at message ⊢
  rw [otherToken]
  exact first.cause.message_eq second.cause code _ (token ▸ message)

/-- Equality of keys is seen from the other side. -/
theorem key_eq_iff (first : diagnostic.Renamed naming other)
    (second : another.Renamed naming further) :
    diagnostic.key = another.key ↔ other.key = further.key :=
  ⟨first.key_eq second, first.symm.key_eq second.symm⟩

end Diagnostic.Renamed

namespace Typing

variable {naming : Naming}

theorem firstRefused?_renamed {parameters others arguments seconds : List Ty}
    (parametersRenamed : Ty.AreRenamed naming parameters others)
    (argumentsRenamed : Ty.AreRenamed naming arguments seconds) :
    Option.Rel (fun refused other => refused.1.Renamed naming other.1 ∧
        refused.2.Renamed naming other.2)
      (firstRefused? parameters arguments) (firstRefused? others seconds) := by
  induction parametersRenamed generalizing arguments seconds with
  | nil => exact .none
  | cons parameter _ inductionHypothesis =>
      cases argumentsRenamed with
      | nil => exact .none
      | cons argument arguments =>
          simp only [firstRefused?, parameter.accepts argument]
          split
          · exact inductionHypothesis arguments
          · exact .some ⟨parameter, argument⟩

/-- A call of a native function has a type in both programs, or the same fault. -/
theorem nativeCallType_renamed {name other : String} {parameters others arguments seconds : List Ty}
    (result second : Ty) (names : naming.names name other)
    (parametersRenamed : Ty.AreRenamed naming parameters others)
    (argumentsRenamed : Ty.AreRenamed naming arguments seconds) :
    nativeCallType name parameters result arguments = .ok result ∧
        nativeCallType other others second seconds = .ok second ∨
      ∃ cause further, nativeCallType name parameters result arguments = .error cause ∧
        nativeCallType other others second seconds = .error further ∧
        cause.Renamed naming further := by
  have refused := firstRefused?_renamed parametersRenamed argumentsRenamed
  unfold nativeCallType
  rw [parametersRenamed.length_eq, argumentsRenamed.length_eq]
  split
  · exact .inr ⟨_, _, rfl, rfl, .wrongArity _ _ names⟩
  · generalize firstRefused? parameters arguments = found, firstRefused? others seconds = further
      at refused
    cases refused with
    | none => exact .inl ⟨rfl, rfl⟩
    | some types => exact .inr ⟨_, _, rfl, rfl, .argumentMismatch names types.1 types.2⟩

/-- A return of a body, in two programs. -/
structure ReturnRenamed (naming : Naming) (returned other : Ty × Token) : Prop where
  type : returned.1.Renamed naming other.1
  token : naming.tokens returned.2 other.2

theorem returnMismatches_renamed {name other : String} {result second : Ty}
    {returns others : List (Ty × Token)} (names : naming.names name other)
    (resultRenamed : result.Renamed naming second)
    (renamed : List.Forall₂ (ReturnRenamed naming) returns others) :
    List.Forall₂ (Diagnostic.Renamed naming) (returnMismatches name result returns)
      (returnMismatches other second others) := by
  refine List.rel_map (fun _ _ returned => ?_) (List.rel_filter (fun _ _ returned => ?_) renamed)
  · exact ⟨returned.token, .returnMismatch names resultRenamed returned.type⟩
  · simp [resultRenamed.compatible returned.type]

end Typing

end CheckedScript
