import CheckedScript.Proofs.Scanning.Lexemes
import Mathlib.Data.List.TakeWhile

/-!
# The scanner takes the longest lexeme

Each piece that the scanner cuts off is what the rules for lexemes say is next: the longest
lexeme, or a blank, a comment or a fault where no lexeme stands.  The rules leave no
choice, so a whole scan gives the tokens and the faults that they determine.
-/

namespace CheckedScript

namespace Lexis

open Text (Cluster)
open Scanner

variable {first : Cluster} {tail list : List Cluster} {kind : Kind} {payload : Option Payload}

theorem Lexeme.ne_nil {taken : List Cluster} (lexeme : Lexeme taken kind payload) : taken ≠ [] := by
  cases lexeme with
  | symbol mark => cases mark <;> exact List.cons_ne_nil _ _
  | keyword word => cases word <;> exact List.cons_ne_nil _ _
  | identifier | text => exact List.cons_ne_nil _ _
  | integer present => exact present
  | fraction => exact List.append_ne_nil_of_right_ne_nil _ (List.cons_ne_nil _ _)

theorem longest_iff :
    Longest (first :: tail) (first :: list) ↔
      ∀ other kind payload, other <+: list → LexemeFrom first other kind payload →
        other.length ≤ tail.length := by
  constructor
  · intro longest other kind payload starts lexeme
    have bound := longest (first :: other) kind payload ((List.prefix_cons_inj first).2 starts)
      (lexeme_iff.2 lexeme)
    simpa using bound
  · intro longest other kind payload starts lexeme
    obtain ⟨head, other, rfl⟩ := List.exists_cons_of_ne_nil lexeme.ne_nil
    obtain ⟨rfl, inner⟩ := List.cons_prefix_cons.1 starts
    simpa using longest other kind payload inner (lexeme_iff.1 lexeme)

theorem unmatched_iff :
    Unmatched (first :: list) ↔
      ∀ other kind payload, other <+: list → ¬ LexemeFrom first other kind payload := by
  constructor
  · intro unmatched other kind payload starts lexeme
    exact unmatched (first :: other) kind payload ((List.prefix_cons_inj first).2 starts)
      (lexeme_iff.2 lexeme)
  · intro unmatched other kind payload starts lexeme
    obtain ⟨head, other, rfl⟩ := List.exists_cons_of_ne_nil lexeme.ne_nil
    obtain ⟨rfl, inner⟩ := List.cons_prefix_cons.1 starts
    exact unmatched other kind payload inner (lexeme_iff.1 lexeme)

section Exclusive

theorem not_letter_of_digit (digit : Digit first) : ¬ Letter first := by
  obtain ⟨character, rfl, low, high⟩ := digit
  rintro ⟨other, same, letter⟩
  cases same
  simp only [Char.le_def, UInt32.le_iff_toNat_le] at low high
  have nine : '9'.val.toNat = 57 := rfl
  rcases letter with ⟨above, _⟩ | ⟨above, _⟩ | rfl
  · have : 'a'.val.toNat ≤ character.val.toNat := above
    have : 'a'.val.toNat = 97 := rfl
    omega
  · have : 'A'.val.toNat ≤ character.val.toNat := above
    have : 'A'.val.toNat = 65 := rfl
    omega
  · have : '_'.val.toNat = 95 := rfl
    omega

/-- A cluster that starts a symbol starts nothing else. -/
theorem SymbolFrom.excludes {mark : Symbol} (symbol : SymbolFrom first tail mark) :
    ¬ Blank first ∧ first ≠ ['#'] ∧ first ≠ ['"'] ∧ ¬ Digit first ∧ ¬ Letter first := by
  rw [← isBlank_iff, ← isDigit_iff, ← isLetter_iff]
  have spells := symbolFrom_iff.1 symbol
  cases mark <;> obtain ⟨rfl, -⟩ := List.cons.inj spells <;> decide

theorem equalSymbols?_of_lone {mark : Symbol} (lone : loneSymbol? first = some mark) :
    equalSymbols? first = none := by
  unfold loneSymbol? at lone
  split at lone <;> cases lone <;> rfl

theorem ne_dot_of_lone {mark : Symbol} (lone : loneSymbol? first = some mark) : first ≠ ['.'] := by
  rintro rfl
  cases lone

theorem ne_dot_of_equal {marks : Symbol × Symbol} (equal : equalSymbols? first = some marks) :
    first ≠ ['.'] := by
  rintro rfl
  cases equal

theorem Blank.excludes (blank : Blank first) : ¬ Digit first ∧ ¬ Letter first ∧ first ≠ ['"'] := by
  rw [← isDigit_iff, ← isLetter_iff]
  rcases blank with _ | _ | _ | _ | _ <;> decide

theorem hash_excludes : ¬ Digit ['#'] ∧ ¬ Letter ['#'] := by
  rw [← isDigit_iff, ← isLetter_iff]
  decide

theorem quote_excludes : ¬ Digit ['"'] ∧ ¬ Letter ['"'] := by
  rw [← isDigit_iff, ← isLetter_iff]
  decide

theorem dot_excludes : ¬ Digit ['.'] ∧ ¬ Letter ['.'] := by
  rw [← isDigit_iff, ← isLetter_iff]
  decide

/-- A lexeme starts with no blank and no comment. -/
theorem LexemeFrom.solid (lexeme : LexemeFrom first tail kind payload) :
    ¬ Blank first ∧ first ≠ ['#'] := by
  cases lexeme with
  | symbol mark => exact ⟨mark.excludes.1, mark.excludes.2.1⟩
  | word letter =>
      refine ⟨fun blank => blank.excludes.2.1 letter, ?_⟩
      rintro rfl
      exact hash_excludes.2 letter
  | number digit =>
      refine ⟨fun blank => blank.excludes.1 digit, ?_⟩
      rintro rfl
      exact hash_excludes.1 digit
  | text quote =>
      subst quote
      exact ⟨fun blank => blank.excludes.2.2 rfl, by decide⟩

theorem LexemeFrom.of_digit (lexeme : LexemeFrom first tail kind payload) (digit : Digit first) :
    NumberTail tail ∧ kind = .number ∧
      payload = some (.number (Decimal.read (first :: tail).flatten)) := by
  cases lexeme with
  | symbol mark => exact absurd digit mark.excludes.2.2.2.1
  | word letter => exact absurd letter (not_letter_of_digit digit)
  | number _ numberTail => exact ⟨numberTail, rfl, rfl⟩
  | text quote => exact absurd (quote ▸ digit) quote_excludes.1

theorem LexemeFrom.of_letter (lexeme : LexemeFrom first tail kind payload) (letter : Letter first) :
    (∀ cluster ∈ tail, WordPart cluster) ∧ kind = wordKind (joined (first :: tail)) ∧
      payload = none := by
  cases lexeme with
  | symbol mark => exact absurd letter mark.excludes.2.2.2.2
  | word _ others => exact ⟨others, rfl, rfl⟩
  | number digit => exact absurd letter (not_letter_of_digit digit)
  | text quote => exact absurd (quote ▸ letter) quote_excludes.2

theorem LexemeFrom.of_quote (lexeme : LexemeFrom ['"'] tail kind payload) :
    ∃ body, tail = body ++ [['"']] ∧ (∀ cluster ∈ body, cluster ≠ ['"']) ∧ kind = .text ∧
      payload = some (.text (joined body)) := by
  cases lexeme with
  | symbol mark => exact absurd rfl mark.excludes.2.2.1
  | word letter => exact absurd letter quote_excludes.2
  | number digit => exact absurd digit quote_excludes.1
  | @text body _ inner => exact ⟨body, rfl, inner, rfl, rfl⟩

theorem LexemeFrom.of_other (lexeme : LexemeFrom first tail kind payload) (noDigit : ¬ Digit first)
    (noLetter : ¬ Letter first) (noQuote : first ≠ ['"']) :
    ∃ mark, SymbolFrom first tail mark ∧ kind = .symbol mark ∧ payload = none := by
  cases lexeme with
  | @symbol _ mark from_ => exact ⟨mark, from_, rfl, rfl⟩
  | word letter => exact absurd letter noLetter
  | number digit => exact absurd digit noDigit
  | text quote => exact absurd quote noQuote

end Exclusive
section Sound

theorem length_le_takeWhile {p : Cluster → Bool} {other list : List Cluster}
    (starts : other <+: list) (holds : ∀ cluster ∈ other, p cluster = true) :
    other.length ≤ (list.takeWhile p).length := by
  obtain ⟨rest, rfl⟩ := starts
  rw [List.takeWhile_append_of_pos holds, List.length_append]
  exact Nat.le_add_right _ _

/-- The piece that the scanner takes up is a longest lexeme if it is one of the lexemes of
its first cluster and none of those is longer. -/
theorem takes_lexeme {rest : List Cluster} (split : tail ++ rest = list)
    (lexeme : LexemeFrom first tail kind payload)
    (longest : ∀ other kind payload, other <+: list → LexemeFrom first other kind payload →
      other.length ≤ tail.length) :
    Takes (first :: tail) rest (.lexeme kind payload) := by
  refine .lexeme (lexeme_iff.2 lexeme) ?_
  rw [List.cons_append, split]
  exact longest_iff.2 longest

theorem takes_loneSymbol {mark : Symbol} (lone : loneSymbol? first = some mark) :
    Takes [first] list (.lexeme (.symbol mark) none) := by
  have symbol : SymbolFrom first [] mark := .lone lone
  obtain ⟨-, -, noQuote, noDigit, noLetter⟩ := symbol.excludes
  refine takes_lexeme (List.nil_append list) (.symbol symbol) ?_
  intro other kind payload _ lexeme
  obtain ⟨_, shape, -, -⟩ := lexeme.of_other noDigit noLetter noQuote
  have noEqual := equalSymbols?_of_lone lone
  cases shape with
  | lone => exact Nat.le_refl _
  | alone equal | withEqual equal => simp [noEqual] at equal
  | dots dot => exact absurd dot (ne_dot_of_lone lone)

theorem takes_equalSymbol {alone withEqual : Symbol}
    (equal : equalSymbols? first = some (alone, withEqual)) :
    let piece := equalPiece alone withEqual list
    Takes (first :: piece.tail) piece.rest piece.content := by
  have symbol : SymbolFrom first [] alone := .alone equal
  obtain ⟨-, -, noQuote, noDigit, noLetter⟩ := symbol.excludes
  have short : ∀ other kind payload, LexemeFrom first other kind payload →
      other = [] ∨ other = [['=']] := by
    intro other kind payload lexeme
    obtain ⟨_, shape, -, -⟩ := lexeme.of_other noDigit noLetter noQuote
    cases shape with
    | lone | alone => exact .inl rfl
    | withEqual => exact .inr rfl
    | dots dot => exact absurd dot (ne_dot_of_equal equal)
  unfold equalPiece
  split
  · next following =>
      refine takes_lexeme rfl (.symbol (.withEqual equal)) ?_
      intro other kind payload _ lexeme
      rcases short _ _ _ lexeme with rfl | rfl
      · exact Nat.zero_le _
      · exact Nat.le_refl _
  · next noEqual =>
      refine takes_lexeme (List.nil_append list) (.symbol symbol) ?_
      rintro other kind payload ⟨rest, rfl⟩ lexeme
      rcases short _ _ _ lexeme with rfl | rfl
      · exact Nat.le_refl _
      · exact absurd rfl (noEqual rest)

theorem takes_dot :
    Takes (['.'] :: (dotPiece list).tail) (dotPiece list).rest (dotPiece list).content := by
  have dots : ∀ other kind payload, LexemeFrom ['.'] other kind payload → other = [['.']] := by
    intro other kind payload lexeme
    obtain ⟨_, shape, -, -⟩ := lexeme.of_other dot_excludes.1 dot_excludes.2 (by decide)
    cases shape with
    | lone lone => cases lone
    | alone equal | withEqual equal => cases equal
    | dots => rfl
  unfold dotPiece
  split
  · next following =>
      refine takes_lexeme rfl (.symbol (.dots rfl)) ?_
      intro other kind payload _ lexeme
      rw [dots _ _ _ lexeme]
  · next noDot =>
      refine .unexpected (fun blank => ?_) (by decide) (by decide) (unmatched_iff.2 ?_)
      · exact absurd (isBlank_iff.2 blank) (by decide)
      · rintro other kind payload ⟨rest, rfl⟩ lexeme
        rw [dots _ _ _ lexeme] at noDot
        exact noDot rest rfl

theorem takes_comment :
    Takes (['#'] :: (commentPiece list).tail) (commentPiece list).rest
      (commentPiece list).content := by
  refine .comment (fun cluster member ends => ?_) fun next found => ?_
  · have passes := List.mem_takeWhile_imp member
    simp [isNewline_iff.2 ends] at passes
  · have stops := List.head?_dropWhile_not (!isNewline ·) list
    change (list.dropWhile (!isNewline ·)).head? = some next at found
    rw [found] at stops
    exact isNewline_iff.1 (by simpa using stops)

theorem quote_of_dropWhile {closing : Cluster} {following : List Cluster}
    (shape : list.dropWhile (fun cluster => decide (cluster ≠ ['"'])) = closing :: following) :
    closing = ['"'] := by
  have stops := List.head?_dropWhile_not (fun cluster : Cluster => decide (cluster ≠ ['"'])) list
  rw [shape] at stops
  simpa using stops

theorem takes_text :
    Takes (['"'] :: (textPiece list).tail) (textPiece list).rest (textPiece list).content := by
  have inner : ∀ cluster ∈ list.takeWhile (fun cluster => decide (cluster ≠ ['"'])),
      cluster ≠ ['"'] := fun cluster member => by simpa using List.mem_takeWhile_imp member
  have whole := List.takeWhile_append_dropWhile
    (p := fun cluster : Cluster => decide (cluster ≠ ['"'])) (l := list)
  unfold textPiece
  split
  · exact .openText inner
  · next closing following shape =>
      have closes := quote_of_dropWhile shape
      subst closes
      refine takes_lexeme (by rw [List.append_assoc, List.singleton_append, ← shape, whole])
        (.text rfl inner) ?_
      rintro other kind payload ⟨rest, rfl⟩ lexeme
      obtain ⟨body, rfl, noQuote, -, -⟩ := lexeme.of_quote
      have same : (body ++ [['"']] ++ rest).takeWhile (fun cluster => decide (cluster ≠ ['"'])) =
          body := by
        rw [List.append_assoc, List.takeWhile_append_of_pos (by simpa using noQuote)]
        simp
      rw [same]

theorem takes_word (letter : Letter first) :
    Takes (first :: (wordPiece first list).tail) (wordPiece first list).rest
      (wordPiece first list).content := by
  refine takes_lexeme (List.takeWhile_append_dropWhile) (.word letter fun cluster member => ?_) ?_
  · exact isWordPart_iff.1 (List.mem_takeWhile_imp member)
  · intro other kind payload starts lexeme
    refine length_le_takeWhile starts fun cluster member => ?_
    exact isWordPart_iff.2 ((lexeme.of_letter letter).1 cluster member)

/-- Digits up to a point are the digits that the rest starts with. -/
theorem span_digits {whole : List Cluster} (rest : List Cluster)
    (digits : ∀ cluster ∈ whole, Digit cluster) :
    (whole ++ ['.'] :: rest).takeWhile isDigit = whole ∧
      (whole ++ ['.'] :: rest).dropWhile isDigit = ['.'] :: rest := by
  have holds : ∀ cluster ∈ whole, isDigit cluster = true := fun cluster member =>
    isDigit_iff.2 (digits cluster member)
  rw [List.takeWhile_append_of_pos holds, List.dropWhile_append_of_pos holds]
  exact ⟨List.append_nil whole, rfl⟩

theorem takeWhile_isDigit (list : List Cluster) :
    ∀ cluster ∈ list.takeWhile isDigit, Digit cluster :=
  fun _ member => isDigit_iff.1 (List.mem_takeWhile_imp member)

theorem length_le_digits {other : List Cluster} (starts : other <+: list)
    (digits : ∀ cluster ∈ other, Digit cluster) :
    other.length ≤ (list.takeWhile isDigit).length :=
  length_le_takeWhile starts fun cluster member => isDigit_iff.2 (digits cluster member)

/-- A number goes on with the digits to come, and with a point and more digits if those
follow. -/
theorem splitNumber_longest (list : List Cluster) :
    NumberTail (splitNumber list).1 ∧
      ∀ other, other <+: list → NumberTail other →
        other.length ≤ (splitNumber list).1.length := by
  have noFraction : (∀ next following, list.dropWhile isDigit = ['.'] :: next :: following →
        ¬ Digit next) →
      ∀ other, other <+: list → NumberTail other →
        other.length ≤ (list.takeWhile isDigit).length := by
    rintro none other starts (digits | ⟨whole, part, rfl, wholeDigits, present, partDigits⟩)
    · exact length_le_digits starts digits
    · obtain ⟨rest, rfl⟩ := starts
      obtain ⟨next, part, rfl⟩ := List.exists_cons_of_ne_nil present
      refine absurd (partDigits next List.mem_cons_self) (none next (part ++ rest) ?_)
      rw [List.append_assoc]
      exact (span_digits _ wholeDigits).2
  unfold splitNumber
  split
  · next next following shape =>
      split
      · next digit =>
          refine ⟨.inr ⟨_, _, rfl, takeWhile_isDigit list, ?_, takeWhile_isDigit _⟩, ?_⟩
          · rw [List.takeWhile_cons, if_pos digit]
            exact List.cons_ne_nil _ _
          · rintro other starts (digits | ⟨whole, part, rfl, wholeDigits, present, partDigits⟩)
            · have bound := length_le_digits starts digits
              simp only [List.length_append]
              omega
            · obtain ⟨rest, rfl⟩ := starts
              rw [List.append_assoc, List.cons_append] at shape ⊢
              obtain ⟨front, behind⟩ := span_digits (part ++ rest) wholeDigits
              obtain ⟨-, same⟩ := List.cons.inj (behind.symm.trans shape)
              have bound := length_le_digits ⟨rest, same⟩ partDigits
              rw [front]
              simp only [List.length_append, List.length_cons]
              omega
      · next noDigit =>
          refine ⟨.inl (takeWhile_isDigit list), noFraction fun next' following' again digit => ?_⟩
          rw [shape] at again
          obtain ⟨rfl, -⟩ := List.cons.inj (List.cons.inj again).2
          exact noDigit (isDigit_iff.2 digit)
  · next noPoint =>
      exact ⟨.inl (takeWhile_isDigit list), noFraction fun next following shape _ =>
        noPoint next following shape⟩

theorem takes_number (digit : Digit first) :
    Takes (first :: (numberPiece first list).tail) (numberPiece first list).rest
      (numberPiece first list).content := by
  obtain ⟨numberTail, longest⟩ := splitNumber_longest list
  refine takes_lexeme (splitNumber_append list) (.number digit numberTail) ?_
  intro other kind payload starts lexeme
  exact longest other starts (lexeme.of_digit digit).1

/-- The scanner takes what the rules say. -/
theorem takes_nextPiece (first : Cluster) (list : List Cluster) :
    Takes (first :: (nextPiece first list).tail) (nextPiece first list).rest
      (nextPiece first list).content := by
  have opens := opens_nextPiece first list
  generalize nextPiece first list = piece at opens
  cases opens with
  | blank blank => exact .blank blank
  | loneSymbol lone => exact takes_loneSymbol lone
  | equalSymbol equal => exact takes_equalSymbol equal
  | dot dot => subst dot; exact takes_dot
  | comment hash => subst hash; exact takes_comment
  | text quote => subst quote; exact takes_text
  | number digit => exact takes_number digit
  | word letter => exact takes_word letter
  | stranger noBlank noLone noEqual noDot noHash noQuote noDigit noLetter =>
      refine .unexpected noBlank noHash noQuote (unmatched_iff.2 ?_)
      intro other kind payload _ lexeme
      obtain ⟨_, shape, -, -⟩ := lexeme.of_other noDigit noLetter noQuote
      cases shape with
      | lone lone => simp [noLone] at lone
      | alone equal | withEqual equal => simp [noEqual] at equal
      | dots dot => exact noDot dot

end Sound
section Unique

theorem SymbolFrom.unique {mark other : Symbol} (one : SymbolFrom first tail mark)
    (another : SymbolFrom first tail other) : mark = other := by
  cases one with
  | lone lone =>
      cases another with
      | lone same => exact Option.some.inj (lone.symm.trans same)
      | alone equal => simp [equalSymbols?_of_lone lone] at equal
  | alone equal =>
      cases another with
      | lone lone => simp [equalSymbols?_of_lone lone] at equal
      | alone same => exact congrArg Prod.fst (Option.some.inj (equal.symm.trans same))
  | withEqual equal =>
      cases another with
      | withEqual same => exact congrArg Prod.snd (Option.some.inj (equal.symm.trans same))
  | dots =>
      cases another with
      | dots => rfl

/-- No lexeme belongs to two classes. -/
theorem Lexeme.unique {taken : List Cluster} {otherKind : Kind} {otherPayload : Option Payload}
    (one : Lexeme taken kind payload) (another : Lexeme taken otherKind otherPayload) :
    kind = otherKind ∧ payload = otherPayload := by
  obtain ⟨first, tail, rfl⟩ := List.exists_cons_of_ne_nil one.ne_nil
  replace one := lexeme_iff.1 one
  replace another := lexeme_iff.1 another
  by_cases digit : Digit first
  · obtain ⟨-, rfl, rfl⟩ := one.of_digit digit
    obtain ⟨-, rfl, rfl⟩ := another.of_digit digit
    exact ⟨rfl, rfl⟩
  by_cases letter : Letter first
  · obtain ⟨-, rfl, rfl⟩ := one.of_letter letter
    obtain ⟨-, rfl, rfl⟩ := another.of_letter letter
    exact ⟨rfl, rfl⟩
  by_cases quote : first = ['"']
  · subst quote
    obtain ⟨body, rfl, -, rfl, rfl⟩ := one.of_quote
    obtain ⟨other, same, -, rfl, rfl⟩ := another.of_quote
    rw [List.append_cancel_right same]
    exact ⟨rfl, rfl⟩
  · obtain ⟨mark, shape, rfl, rfl⟩ := one.of_other digit letter quote
    obtain ⟨other, otherShape, rfl, rfl⟩ := another.of_other digit letter quote
    rw [shape.unique otherShape]
    exact ⟨rfl, rfl⟩

variable {taken rest : List Cluster} {content : Content}

theorem Lexeme.solid (lexeme : Lexeme taken kind payload) (starts : taken <+: first :: list) :
    ¬ Blank first ∧ first ≠ ['#'] := by
  obtain ⟨head, tail, rfl⟩ := List.exists_cons_of_ne_nil lexeme.ne_nil
  obtain ⟨rfl, -⟩ := List.cons_prefix_cons.1 starts
  exact (lexeme_iff.1 lexeme).solid

/-- A text that nothing closes is no lexeme. -/
theorem unmatched_openText {body : List Cluster} (inner : ∀ cluster ∈ body, cluster ≠ ['"']) :
    Unmatched (['"'] :: body) := by
  refine unmatched_iff.2 ?_
  rintro other kind payload ⟨rest, rfl⟩ lexeme
  obtain ⟨front, rfl, -⟩ := lexeme.of_quote
  exact inner ['"'] (by simp) rfl

theorem Takes.of_blank (takes : Takes taken rest content) (same : taken ++ rest = first :: list)
    (blank : Blank first) : taken = [first] ∧ content = .skipped := by
  have hash : ¬ Blank ['#'] := fun blank => absurd (isBlank_iff.2 blank) (by decide)
  cases takes with
  | blank => exact ⟨by rw [(List.cons.inj same).1], rfl⟩
  | comment => exact absurd ((List.cons.inj same).1 ▸ blank) hash
  | lexeme lexeme =>
      exact absurd blank (lexeme.solid (same ▸ List.prefix_append taken rest)).1
  | openText => exact absurd (List.cons.inj same).1.symm blank.excludes.2.2
  | unexpected noBlank => exact absurd ((List.cons.inj same).1 ▸ blank) noBlank

theorem Takes.of_hash (takes : Takes taken rest content) (same : taken ++ rest = ['#'] :: list) :
    ∃ body, taken = ['#'] :: body ∧ (∀ cluster ∈ body, ¬ LineEnd cluster) ∧
      (∀ next ∈ rest.head?, LineEnd next) ∧ content = .skipped := by
  cases takes with
  | blank blank => exact absurd ((List.cons.inj same).1 ▸ isBlank_iff.2 blank) (by decide)
  | @comment body _ inner stops => exact ⟨body, rfl, inner, stops, rfl⟩
  | lexeme lexeme =>
      exact absurd rfl (lexeme.solid (same ▸ List.prefix_append taken rest)).2
  | openText => exact absurd (List.cons.inj same).1 (by decide)
  | unexpected _ noHash => exact absurd (List.cons.inj same).1 noHash

theorem Takes.of_lexeme (takes : Takes taken rest content) {other : List Cluster}
    (lexeme : Lexeme other kind payload) (starts : other <+: taken ++ rest) :
    ∃ kind payload, Lexeme taken kind payload ∧ Longest taken (taken ++ rest) ∧
      content = .lexeme kind payload := by
  cases takes with
  | blank blank => exact absurd blank (lexeme.solid starts).1
  | comment => exact absurd rfl (lexeme.solid starts).2
  | @lexeme _ _ kind payload lexeme longest => exact ⟨kind, payload, lexeme, longest, rfl⟩
  | openText inner =>
      rw [List.append_nil] at starts
      exact absurd lexeme (unmatched_openText inner _ _ _ starts)
  | unexpected _ _ _ unmatched => exact absurd lexeme (unmatched _ _ _ starts)

theorem eq_of_span {α : Type} {p : α → Prop} {first second rest others : List α}
    (same : first ++ rest = second ++ others) (inFirst : ∀ item ∈ first, ¬ p item)
    (inSecond : ∀ item ∈ second, ¬ p item) (stops : ∀ next ∈ rest.head?, p next)
    (stopsOther : ∀ next ∈ others.head?, p next) : first = second := by
  classical
  have span : ∀ front behind : List α, (∀ item ∈ front, ¬ p item) →
      (∀ next ∈ behind.head?, p next) →
      (front ++ behind).takeWhile (fun item => decide (¬ p item)) = front := by
    intro front behind inside stops
    rw [List.takeWhile_append_of_pos (by simpa using inside)]
    cases behind with
    | nil => simp
    | cons next behind => simp [stops next rfl]
  rw [← span first rest inFirst stops, same, span second others inSecond stopsOther]

/-- The rules say of no clusters that two different pieces are cut off next. -/
theorem Takes.unique {otherTaken otherRest : List Cluster} {otherContent : Content}
    (one : Takes taken rest content) (another : Takes otherTaken otherRest otherContent)
    (same : taken ++ rest = otherTaken ++ otherRest) :
    taken = otherTaken ∧ rest = otherRest ∧ content = otherContent := by
  suffices pieces : taken = otherTaken ∧ content = otherContent by
    obtain ⟨rfl, contents⟩ := pieces
    exact ⟨rfl, List.append_cancel_left same, contents⟩
  cases one with
  | blank blank =>
      obtain ⟨rfl, rfl⟩ := another.of_blank same.symm blank
      exact ⟨rfl, rfl⟩
  | comment inner stops =>
      obtain ⟨body, rfl, otherInner, otherStops, rfl⟩ := another.of_hash same.symm
      rw [eq_of_span (List.cons.inj same).2 inner otherInner stops otherStops]
      exact ⟨rfl, rfl⟩
  | lexeme lexeme longest =>
      obtain ⟨_, _, otherLexeme, otherLongest, rfl⟩ :=
        another.of_lexeme lexeme (same ▸ List.prefix_append taken rest)
      have least := longest _ _ _ (same ▸ List.prefix_append otherTaken otherRest) otherLexeme
      have most := otherLongest _ _ _ (same ▸ List.prefix_append taken rest) lexeme
      obtain ⟨rfl, -⟩ := List.append_inj same (Nat.le_antisymm most least)
      obtain ⟨rfl, rfl⟩ := lexeme.unique otherLexeme
      exact ⟨rfl, rfl⟩
  | openText inner =>
      rw [List.append_nil] at same
      cases another with
      | blank blank => exact absurd (List.cons.inj same).1.symm blank.excludes.2.2
      | comment => exact absurd (List.cons.inj same).1 (by decide)
      | lexeme lexeme =>
          exact absurd lexeme (unmatched_openText inner _ _ _ (same ▸ List.prefix_append _ _))
      | openText =>
          rw [List.append_nil] at same
          exact ⟨same, rfl⟩
      | unexpected _ _ noQuote => exact absurd (List.cons.inj same).1.symm noQuote
  | unexpected noBlank noHash noQuote unmatched =>
      cases another with
      | blank blank => exact absurd ((List.cons.inj same).1 ▸ blank) noBlank
      | comment => exact absurd (List.cons.inj same).1 noHash
      | lexeme lexeme =>
          rw [List.singleton_append] at same
          exact absurd lexeme (unmatched _ _ _ (same ▸ List.prefix_append _ _))
      | openText => exact absurd (List.cons.inj same).1 noQuote
      | unexpected =>
          obtain ⟨rfl, -⟩ := List.cons.inj same
          exact ⟨rfl, rfl⟩

end Unique

section Scans

variable {segmentation : Segmentation} {passed list : List Cluster} {tokens : List Token}
  {faults : List Diagnostic}

theorem origin_eq_place (lawful : segmentation.Lawful) : Position.origin = place segmentation [] := by
  rw [place, List.flatten_nil, Segmentation.after, List.rtakeWhile_nil, lawful.clusters_nil]
  rfl

/-- What the scanner makes of the clusters to come follows the rules, and it stops at the
end of the source text. -/
theorem cut_scanFrom (lawful : segmentation.Lawful) (source : List Char) (position : Position)
    (list passed : List Cluster) (cut : segmentation.clusters source = passed ++ list)
    (reached : position = place segmentation passed) :
    Cut segmentation passed list (scanFrom position list).tokens
        (scanFrom position list).diagnostics ∧
      (scanFrom position list).stop = segmentation.after source := by
  induction position, list using piecewise generalizing passed with
  | done position =>
      rw [scanFrom, reached, place, ← lawful.lossless source, cut, List.append_nil]
      exact ⟨.done, rfl⟩
  | step position first list inductionHypothesis =>
      have takes := takes_nextPiece first list
      have split := nextPiece_tail_append_rest first list
      have further : segmentation.clusters source =
          (passed ++ first :: (nextPiece first list).tail) ++ (nextPiece first list).rest := by
        rw [cut, List.append_assoc, List.cons_append, split]
      obtain ⟨later, stops⟩ := inductionHypothesis _ further
        (by rw [reached, place, place, ← foldl_advance_eq_after lawful cut,
          ← foldl_advance_eq_after lawful further, List.foldl_append])
      rw [← following] at later stops
      have shape : scanFrom position (first :: list) =
          { tokens := tokenOf segmentation passed (first :: (nextPiece first list).tail)
              (nextPiece first list).content ++ (following position first list).tokens
            diagnostics := faultOf segmentation passed (nextPiece first list).content ++
              (following position first list).diagnostics
            stop := (following position first list).stop } := by
        cases content : (nextPiece first list).content with
        | skipped => exact scanFrom_skipped content
        | lexeme kind payload => rw [scanFrom_lexeme content, reached]; rfl
        | refused cause lexeme => rw [scanFrom_refused content, reached]; rfl
      have next := Cut.next takes later
      rw [List.cons_append, split] at next
      rw [shape]
      exact ⟨next, stops⟩

theorem Takes.ne_nil {taken rest : List Cluster} {content : Content}
    (takes : Takes taken rest content) : taken ≠ [] := by
  cases takes with
  | lexeme lexeme => exact lexeme.ne_nil
  | blank | comment | openText | unexpected => exact List.cons_ne_nil _ _

theorem Cut.of_takes {taken rest : List Cluster} {content : Content}
    (cut : Cut segmentation passed (taken ++ rest) tokens faults)
    (takes : Takes taken rest content) :
    ∃ laterTokens laterFaults,
      Cut segmentation (passed ++ taken) rest laterTokens laterFaults ∧
      tokens = tokenOf segmentation passed taken content ++ laterTokens ∧
      faults = faultOf segmentation passed content ++ laterFaults := by
  generalize whole : taken ++ rest = list at cut
  cases cut with
  | done => exact absurd (List.append_eq_nil_iff.1 whole).1 takes.ne_nil
  | next other later =>
      obtain ⟨rfl, rfl, rfl⟩ := takes.unique other whole
      exact ⟨_, _, later, rfl, rfl⟩

/-- The rules leave no choice. -/
theorem Cut.unique {otherTokens : List Token} {otherFaults : List Diagnostic}
    (one : Cut segmentation passed list tokens faults)
    (another : Cut segmentation passed list otherTokens otherFaults) :
    otherTokens = tokens ∧ otherFaults = faults := by
  induction one generalizing otherTokens otherFaults with
  | done =>
      generalize nothing : [] = list at another
      cases another with
      | done => exact ⟨rfl, rfl⟩
      | next takes => exact absurd (List.append_eq_nil_iff.1 nothing.symm).1 takes.ne_nil
  | next takes _ inductionHypothesis =>
      obtain ⟨laterTokens, laterFaults, later, rfl, rfl⟩ := another.of_takes takes
      obtain ⟨rfl, rfl⟩ := inductionHypothesis later
      exact ⟨rfl, rfl⟩

end Scans

/-- At each point of a source text the scanner takes the longest lexeme, and every fault is
recorded: it gives the one sequence of tokens and the one sequence of faults that the rules
allow. -/
theorem tokenize_takes_longest_lexemes {segmentation : Segmentation}
    (lawful : segmentation.Lawful) (source : String) :
    ∃ tokens faults,
      (∀ otherTokens otherFaults,
        Cut segmentation [] (segmentation.clusters source.toList) otherTokens otherFaults ↔
          otherTokens = tokens ∧ otherFaults = faults) ∧
      segmentation.tokenize source =
        match faults with
        | [] => .ok
            { body := tokens
              last :=
                { kind := .endOfInput
                  lexeme := ""
                  position := segmentation.after source.toList } }
        | fault :: others => .error { phase := .scanning, diagnostics := fault :: others } := by
  obtain ⟨cut, stop⟩ := cut_scanFrom lawful source.toList Position.origin
    (segmentation.clusters source.toList) [] rfl (origin_eq_place lawful)
  refine ⟨(scan segmentation source).tokens, (scan segmentation source).diagnostics,
    fun otherTokens otherFaults => ⟨fun other => cut.unique other, ?_⟩, ?_⟩
  · rintro ⟨rfl, rfl⟩
    exact cut
  · rw [← stop, Segmentation.tokenize]
    cases recorded : (scan segmentation source).diagnostics with
    | nil => rfl
    | cons fault others => rfl

/-- A word that starts like a keyword, and the longer one of two symbols. -/
theorem tokenize_takes_longest_lexemes_words :
    Segmentation.standard.tokenize "form<==x" =
        .ok
          { body :=
              [{ kind := .identifier, lexeme := "form", position := ⟨0, 0⟩ },
                { kind := .symbol .lessEqual, lexeme := "<=", position := ⟨0, 4⟩ },
                { kind := .symbol .equal, lexeme := "=", position := ⟨0, 6⟩ },
                { kind := .identifier, lexeme := "x", position := ⟨0, 7⟩ }]
            last := { kind := .endOfInput, lexeme := "", position := ⟨0, 8⟩ } } ∧
      ∃! scanned : List Token × List Diagnostic,
        Cut Segmentation.standard [] (spelled "form<==x") scanned.1 scanned.2 := by
  refine ⟨by cbv, ?_⟩
  obtain ⟨tokens, faults, only, -⟩ :=
    tokenize_takes_longest_lexemes Segmentation.standard_lawful "form<==x"
  have parts : Segmentation.standard.clusters "form<==x".toList = spelled "form<==x" := by
    decide
  rw [parts] at only
  exact ⟨(tokens, faults), (only _ _).2 ⟨rfl, rfl⟩, fun other cut =>
    Prod.ext ((only _ _).1 cut).1 ((only _ _).1 cut).2⟩

end Lexis

end CheckedScript
