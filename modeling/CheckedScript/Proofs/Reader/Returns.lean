import CheckedScript.Proofs.Reader.Outcome

/-!
# Readers that succeed

A reader that meets what it is meant for consumes it, returns a value and
records nothing.  What stands behind matters only through its first token, which
decides where loops and optional parts end.
-/

namespace CheckedScript

namespace Reader

variable {α β : Type}

/-- A reader consumes exactly the given tokens, returns a value and records
nothing. -/
def Returns (reader : Reader α) (tokens : List Token) (value : α) (rest : List Token) : Prop :=
  ∀ previous diagnostics, ∃ last,
    reader ⟨previous, tokens ++ rest, diagnostics⟩ = .ok value ⟨last, rest, diagnostics⟩

/-- The next token, if there is one, has a kind of which something holds. -/
def Ahead (holds : Kind → Prop) (rest : List Token) : Prop :=
  ∀ token ∈ rest.head?, holds token.kind

theorem ahead_cons {holds : Kind → Prop} {token : Token} {rest : List Token} :
    Ahead holds (token :: rest) ↔ holds token.kind := by
  simp [Ahead]

theorem Ahead.mono {holds implied : Kind → Prop} {rest : List Token} (ahead : Ahead holds rest)
    (implies : ∀ kind, holds kind → implied kind) : Ahead implied rest :=
  fun token member => implies token.kind (ahead token member)

theorem ahead_of_head {holds : Kind → Prop} {rest : List Token} {kind : Kind}
    (head : rest.head?.map (·.kind) = some kind) (here : holds kind) : Ahead holds rest := by
  intro token member
  rw [Option.mem_def.1 member, Option.map_some, Option.some.injEq] at head
  exact head ▸ here

namespace Returns

theorem pure (value : α) (rest : List Token) :
    Returns (Pure.pure value : Reader α) [] value rest :=
  fun previous _ => ⟨previous, rfl⟩

theorem bind {first : Reader α} {next : α → Reader β} {used later rest : List Token}
    {value : α} {result : β} (returns : Returns first used value (later ++ rest))
    (continues : Returns (next value) later result rest) :
    Returns (first >>= next) (used ++ later) result rest := by
  intro previous diagnostics
  obtain ⟨middle, firstEquation⟩ := returns previous diagnostics
  obtain ⟨last, nextEquation⟩ := continues middle diagnostics
  refine ⟨last, ?_⟩
  rw [bind_apply, List.append_assoc, firstEquation]
  exact nextEquation

theorem map {reader : Reader α} {used rest : List Token} {value : α} (change : α → β)
    (returns : Returns reader used value rest) :
    Returns (change <$> reader) used (change value) rest := by
  intro previous diagnostics
  obtain ⟨last, equation⟩ := returns previous diagnostics
  refine ⟨last, ?_⟩
  rw [← bind_pure_comp, bind_apply, equation]
  rfl

/-- What comes next consumes nothing. -/
theorem bindLast {first : Reader α} {next : α → Reader β} {used rest : List Token} {value : α}
    {result : β} (returns : Returns first used value rest)
    (continues : Returns (next value) [] result rest) :
    Returns (first >>= next) used result rest := by
  rw [← List.append_nil used]
  exact bind returns continues

theorem andThen {first : Reader α} {used rest : List Token} {value : α} (result : α → β)
    (returns : Returns first used value rest) :
    Returns (first >>= fun value => Pure.pure (result value)) used (result value) rest :=
  bindLast returns (pure (result value) rest)

theorem acceptWhere? {choose : Kind → Option α} {next : Option (α × Token) → Reader β}
    {token : Token} {chosen : α} {later rest : List Token} {result : β}
    (found : choose token.kind = some chosen)
    (continues : Returns (next (some (chosen, token))) later result rest) :
    Returns (Reader.acceptWhere? choose >>= next) (token :: later) result rest := by
  intro previous diagnostics
  obtain ⟨last, equation⟩ := continues token diagnostics
  refine ⟨last, ?_⟩
  rcases acceptWhere?_apply choose ⟨previous, token :: later ++ rest, diagnostics⟩ with
    ⟨_, _, value, split, same, accepted⟩ | ⟨other, _⟩
  · obtain ⟨rfl, rfl⟩ := List.cons.inj split
    obtain rfl := Option.some.inj (found.symm.trans same)
    rw [bind_apply, accepted]
    exact equation
  · simp [found] at other

theorem skipWhere? {choose : Kind → Option α} {next : Option (α × Token) → Reader β}
    {used rest : List Token} {result : β}
    (other : Ahead (fun kind => choose kind = none) (used ++ rest))
    (continues : Returns (next none) used result rest) :
    Returns (Reader.acceptWhere? choose >>= next) used result rest := by
  intro previous diagnostics
  obtain ⟨last, equation⟩ := continues previous diagnostics
  refine ⟨last, ?_⟩
  rcases acceptWhere?_apply choose ⟨previous, used ++ rest, diagnostics⟩ with
    ⟨token, _, value, split, same, _⟩ | ⟨_, left⟩
  · have shape : used ++ rest = token :: _ := split
    have none := other token (by rw [shape]; rfl)
    simp [none] at same
  · rw [bind_apply, left]
    exact equation

theorem accept? {kind : Kind} {next : Option Token → Reader β} {token : Token}
    {later rest : List Token} {result : β} (same : token.kind = kind)
    (continues : Returns (next (some token)) later result rest) :
    Returns (Reader.accept? kind >>= next) (token :: later) result rest := by
  intro previous diagnostics
  obtain ⟨last, equation⟩ := continues token diagnostics
  refine ⟨last, ?_⟩
  rcases accept?_apply kind ⟨previous, token :: later ++ rest, diagnostics⟩ with
    ⟨_, _, split, _, accepted⟩ | ⟨other, _⟩
  · obtain ⟨rfl, rfl⟩ := List.cons.inj split
    rw [bind_apply, accepted]
    exact equation
  · exact absurd same (other token (by simp))

theorem skip? {kind : Kind} {next : Option Token → Reader β} {used rest : List Token}
    {result : β} (other : Ahead (· ≠ kind) (used ++ rest))
    (continues : Returns (next none) used result rest) :
    Returns (Reader.accept? kind >>= next) used result rest := by
  intro previous diagnostics
  obtain ⟨last, equation⟩ := continues previous diagnostics
  refine ⟨last, ?_⟩
  rcases accept?_apply kind ⟨previous, used ++ rest, diagnostics⟩ with
    ⟨token, _, split, same, _⟩ | ⟨_, left⟩
  · have shape : used ++ rest = token :: _ := split
    exact absurd same (other token (by rw [shape]; rfl))
  · rw [bind_apply, left]
    exact equation

theorem expect {kind : Kind} {next : Token → Reader β} {token : Token} {later rest : List Token}
    {result : β} (same : token.kind = kind) (continues : Returns (next token) later result rest) :
    Returns (Reader.expect kind >>= next) (token :: later) result rest := by
  rw [Reader.expect, bind_assoc]
  exact accept? same continues

theorem expectName {next : Token → Reader β} {token : Token} {later rest : List Token}
    {result : β} (same : token.kind = .identifier)
    (continues : Returns (next token) later result rest) :
    Returns (Reader.expectName >>= next) (token :: later) result rest := by
  rw [Reader.expectName, bind_assoc]
  exact accept? same continues

theorem literal? {next : Option Expr → Reader β} {token : Token} {constant : Constant}
    {later rest : List Token} {result : β} (found : constant? token = some constant)
    (continues : Returns (next (some (.literal constant token))) later result rest) :
    Returns (Reader.literal? >>= next) (token :: later) result rest := by
  intro previous diagnostics
  obtain ⟨last, equation⟩ := continues token diagnostics
  refine ⟨last, ?_⟩
  rcases literal?_apply ⟨previous, token :: later ++ rest, diagnostics⟩ with
    ⟨_, _, value, split, same, accepted⟩ | ⟨other, _⟩
  · obtain ⟨rfl, rfl⟩ := List.cons.inj split
    obtain rfl := Option.some.inj (found.symm.trans same)
    rw [bind_apply, accepted]
    exact equation
  · simp [found] at other

theorem skipLiteral? {next : Option Expr → Reader β} {token : Token} {later rest : List Token}
    {result : β} (other : constant? token = none)
    (continues : Returns (next none) (token :: later) result rest) :
    Returns (Reader.literal? >>= next) (token :: later) result rest := by
  intro previous diagnostics
  obtain ⟨last, equation⟩ := continues previous diagnostics
  refine ⟨last, ?_⟩
  rcases literal?_apply ⟨previous, token :: later ++ rest, diagnostics⟩ with
    ⟨_, _, value, split, same, _⟩ | ⟨_, left⟩
  · obtain ⟨rfl, rfl⟩ := List.cons.inj split
    simp [other] at same
  · rw [bind_apply, left]
    exact equation

/-- The next token is looked at without consuming it. -/
theorem nextKind? {next : Option Kind → Reader β} {used rest : List Token} {result : β}
    (continues : Returns (next ((used ++ rest).head?.map (·.kind))) used result rest) :
    Returns (Reader.nextKind? >>= next) used result rest :=
  continues

theorem nextIs {kind : Kind} {next : Bool → Reader β} {used rest : List Token} {result : β}
    (continues :
      Returns (next (decide ((used ++ rest).head?.map (·.kind) = some kind))) used result rest) :
    Returns (Reader.nextIs kind >>= next) used result rest :=
  continues

theorem get {next : Cursor → Reader β} {used rest : List Token} {result : β}
    (continues : ∀ cursor : Cursor, cursor.rest = used ++ rest →
      Returns (next cursor) used result rest) :
    Returns ((MonadState.get : Reader Cursor) >>= next) used result rest :=
  fun previous diagnostics =>
    continues ⟨previous, used ++ rest, diagnostics⟩ rfl previous diagnostics

theorem attempt {reader : Reader α} {used rest : List Token} {value : α}
    (returns : Returns reader used value rest) :
    Returns (Reader.attempt reader) used (some value) rest := by
  intro previous diagnostics
  obtain ⟨last, equation⟩ := returns previous diagnostics
  exact ⟨last, by rw [Reader.attempt, equation]⟩

end Returns

end Reader

end CheckedScript
