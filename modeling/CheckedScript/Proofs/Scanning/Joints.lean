import CheckedScript.Proofs.Scanning.LongestMatch

/-!
# Joints of a text

Neither visible characters nor whitespace join each other, the line end of two characters
apart, so every text is cut between them.  A lexeme begins and ends with visible
characters: whitespace next to it changes neither its clusters nor those of the
whitespace.
-/

namespace CheckedScript

namespace Text

/-- The characters from the exclamation mark to the tilde. -/
def Visible (character : Char) : Prop :=
  0x20 < character.toNat ∧ character.toNat < 0x7f

/-- Characters that join no others, apart from line feeds that follow carriage returns. -/
def Solitary (character : Char) : Prop :=
  Visible character ∨ Scanner.isSpace character = true

theorem Solitary.plain_or_control {character : Char} (solitary : Solitary character) :
    IsPlain character ∨ IsControl character := by
  rcases solitary with ⟨above, below⟩ | space
  · exact .inl ⟨above.le, below⟩
  · simp only [Scanner.isSpace, Bool.or_eq_true, decide_eq_true_eq] at space
    rcases space with ((rfl | rfl) | rfl) | rfl
    · exact .inl ⟨by decide, by decide⟩
    · exact .inr (.inl rfl)
    · exact .inr (.inr (.inr rfl))
    · exact .inr (.inr (.inl rfl))

theorem Solitary.parted {last next : Char} (solitaryLast : Solitary last)
    (solitaryNext : Solitary next) (noLineEnd : ¬ (last = '\r' ∧ next = '\n')) :
    Parted last next := by
  refine ⟨noLineEnd, ?_⟩
  rcases solitaryLast.plain_or_control with plainLast | control
  · rcases solitaryNext.plain_or_control with plainNext | control
    · exact .inr (.inr ⟨plainLast, plainNext⟩)
    · exact .inr (.inl control)
  · exact .inl control

end Text

end CheckedScript
