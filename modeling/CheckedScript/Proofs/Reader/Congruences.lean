import CheckedScript.Proofs.Reader.Modes
import CheckedScript.Proofs.Reader.Outcome

/-!
# Readers that are put together alike

A reader is compared with readers that are put together in the same way: with itself under another
bound on the steps, in another mode of recovery, or on other tokens.  A congruence is a relation of
readers that holds of the steps they are put together from and passes to readers in a row.  So it
holds between all readers of expressions and statements and their counterparts.
-/

namespace CheckedScript

namespace Reader

/-- The kinds that stand within statements: all but the semicolon and the end marker. -/
def Inner (kind : Kind) : Prop :=
  kind ≠ .symbol .semicolon ∧ kind ≠ .endOfInput

instance : DecidablePred Inner := fun kind =>
  inferInstanceAs (Decidable (kind ≠ .symbol .semicolon ∧ kind ≠ .endOfInput))

/-- The kinds that stand before the end marker. -/
def Unmarked (kind : Kind) : Prop :=
  kind ≠ .endOfInput

instance : DecidablePred Unmarked := fun kind =>
  inferInstanceAs (Decidable (kind ≠ .endOfInput))

theorem Inner.unmarked {kind : Kind} (inner : Inner kind) : Unmarked kind :=
  inner.2

/-- What is chosen neither for a semicolon nor for an end marker is chosen within statements. -/
theorem inner_of_choice {α : Type} {choose : Kind → Option α} {kind : Kind}
    (semicolon : choose (.symbol .semicolon) = none) (marker : choose .endOfInput = none)
    (found : (choose kind).isSome) : Inner kind := by
  constructor
  · rintro rfl
    simp [semicolon] at found
  · rintro rfl
    simp [marker] at found

theorem inner_of_operator? {level : Tier} {kind : Kind} (found : (level.operator? kind).isSome) :
    Inner kind :=
  inner_of_choice (by cases level <;> rfl) (by cases level <;> rfl) found

theorem inner_of_unaryOperator? {kind : Kind} (found : (unaryOperator? kind).isSome) :
    Inner kind :=
  inner_of_choice rfl rfl found

theorem inner_of_constant? {token : Token} (found : (constant? token).isSome) :
    Inner token.kind := by
  constructor
  · intro same
    rw [constant?, same] at found
    cases found
  · intro same
    rw [constant?, same] at found
    cases found

theorem inner_of_simpleType? {kind : Kind} (found : (simpleType? kind).isSome) : Inner kind :=
  inner_of_choice rfl rfl found

/-- A reader that consumes the next token if it is chosen, and leaves it alone otherwise. -/
def Chooses {α : Type} (choose : Token → Option α) (reader : Reader (Option α)) : Prop :=
  ∀ cursor : Cursor,
    (∃ token rest value, cursor.rest = token :: rest ∧ choose token = some value ∧
        reader cursor = .ok (some value) (cursor.past token rest)) ∨
      ((∀ token ∈ cursor.rest.head?, choose token = none) ∧ reader cursor = .ok none cursor)

theorem acceptWhere?_chooses {α : Type} (choose : Kind → Option α) :
    Chooses (fun token => (choose token.kind).map (·, token)) (acceptWhere? choose) := by
  intro cursor
  rcases acceptWhere?_apply choose cursor with
    ⟨token, rest, value, split, found, equation⟩ | ⟨absent, equation⟩
  · exact .inl ⟨token, rest, _, split, by simp [found], equation⟩
  · exact .inr ⟨by simpa using absent, equation⟩

theorem literal?_chooses :
    Chooses (fun token => (constant? token).map fun value => .literal value token) literal? := by
  intro cursor
  rcases literal?_apply cursor with
    ⟨token, rest, value, split, found, equation⟩ | ⟨absent, equation⟩
  · exact .inl ⟨token, rest, _, split, by simp [found], equation⟩
  · exact .inr ⟨by simpa using absent, equation⟩

/-- A relation of readers that holds of the steps they are put together from, where only tokens of
certain kinds are consumed, and passes to readers in a row. -/
structure Congruence (consumes : Kind → Prop) (Alike : ∀ α : Type, Reader α → Reader α → Prop) :
    Prop where
  pure {α : Type} (value : α) : Alike α (Pure.pure value) (Pure.pure value)
  fail {α : Type} (cause : Cause) (token : Token) :
    Alike α (Reader.fail cause token) (Reader.fail cause token)
  failAfter {α : Type} (cause : Cause) : Alike α (Reader.failAfter cause) (Reader.failAfter cause)
  record (diagnostic : Diagnostic) :
    Alike Unit (modify fun cursor => cursor.record diagnostic)
      (modify fun cursor => cursor.record diagnostic)
  nextIs {kind : Kind} (unmarked : Unmarked kind) :
    Alike Bool (Reader.nextIs kind) (Reader.nextIs kind)
  choice {α : Type} {choose : Token → Option α} {reader : Reader (Option α)}
    (chooses : Chooses choose reader)
    (allowed : ∀ token, (choose token).isSome → consumes token.kind) :
    Alike (Option α) reader reader
  bind {α β : Type} {first second : Reader α} {next following : α → Reader β}
    (alike : Alike α first second) (continues : ∀ value, Alike β (next value) (following value)) :
    Alike β (first >>= next) (second >>= following)

/-- A congruence that does not see the bounds on the steps. -/
structure Unbounded (consumes : Kind → Prop) (Alike : ∀ α : Type, Reader α → Reader α → Prop) :
    Prop extends Congruence consumes Alike where
  inner (kind : Kind) : Inner kind → consumes kind
  ofExhausted {α : Type} (second : Reader α) : Alike α (throw .exhausted) second
  toExhausted {α : Type} {first second : Reader α} :
    Alike α first second → Alike α first (throw .exhausted)
  get {α : Type} {next following : Cursor → Reader α}
    (continues : ∀ cursor start, Alike α (next cursor) (following start)) :
    Alike α (MonadState.get >>= next) (MonadState.get >>= following)

section Steps

variable {consumes : Kind → Prop} {Alike : ∀ α : Type, Reader α → Reader α → Prop} {α β : Type}

namespace Congruence

variable (congruence : Congruence consumes Alike)

include congruence

theorem map {first second : Reader α} (alike : Alike α first second) (change : α → β) :
    Alike β (change <$> first) (change <$> second) := by
  rw [← bind_pure_comp, ← bind_pure_comp]
  exact congruence.bind alike fun value => congruence.pure (change value)

theorem acceptWhere? {choose : Kind → Option α}
    (allowed : ∀ kind, (choose kind).isSome → consumes kind) :
    Alike (Option (α × Token)) (Reader.acceptWhere? choose) (Reader.acceptWhere? choose) :=
  congruence.choice (acceptWhere?_chooses choose) fun token chosen =>
    allowed token.kind (by simpa using chosen)

theorem literal? (allowed : ∀ token, (constant? token).isSome → consumes token.kind) :
    Alike (Option Expr) Reader.literal? Reader.literal? :=
  congruence.choice literal?_chooses fun token chosen => allowed token (by simpa using chosen)

theorem accept? {kind : Kind} (allowed : consumes kind) :
    Alike (Option Token) (Reader.accept? kind) (Reader.accept? kind) := by
  refine congruence.bind (congruence.acceptWhere? fun next chosen => ?_) fun found => ?_
  · split at chosen
    · next same => exact same ▸ allowed
    · cases chosen
  · cases found with
    | none => exact congruence.pure none
    | some found => exact congruence.pure (some found.2)

theorem expect {kind : Kind} (allowed : consumes kind) :
    Alike Token (Reader.expect kind) (Reader.expect kind) := by
  refine congruence.bind (congruence.accept? allowed) fun found => ?_
  cases found with
  | none => exact congruence.failAfter _
  | some token => exact congruence.pure token

theorem expectName (allowed : consumes .identifier) :
    Alike Token Reader.expectName Reader.expectName := by
  refine congruence.bind (congruence.accept? allowed) fun found => ?_
  cases found with
  | none => exact congruence.failAfter _
  | some token => exact congruence.pure token

end Congruence

end Steps

/-- A family of facts about two bounds holds throughout if it holds without steps on the left,
passes from one bound against itself to that bound against none, and survives a further step. -/
theorem bounds_induction {holds : Nat → Nat → Prop} (left : ∀ other, holds 0 other)
    (right : ∀ fuel, holds fuel fuel → holds fuel 0)
    (succ : ∀ fuel other, holds fuel other → holds (fuel + 1) (other + 1)) (fuel other : Nat) :
    holds fuel other := by
  have diagonal : ∀ fuel, holds fuel fuel := by
    intro fuel
    induction fuel with
    | zero => exact left 0
    | succ fuel inductionHypothesis => exact succ _ _ inductionHypothesis
  induction fuel generalizing other with
  | zero => exact left other
  | succ fuel inductionHypothesis =>
      cases other with
      | zero => exact right _ (diagonal _)
      | succ other => exact succ _ _ (inductionHypothesis other)

section Expressions

variable {consumes : Kind → Prop} {Alike : ∀ α : Type, Reader α → Reader α → Prop}
  {fuel other : Nat}

/-- The readers of expressions with one bound are related to those with another bound. -/
structure ExpressionsAlike (Alike : ∀ α : Type, Reader α → Reader α → Prop) (fuel other : Nat) :
    Prop where
  assignment : Alike Expr (assignment fuel) (assignment other)
  tier : ∀ levels, Alike Expr (tier fuel levels) (tier other levels)
  tierRest : ∀ level tighter left,
    Alike Expr (tierRest fuel level tighter left) (tierRest other level tighter left)
  unary : Alike Expr (unary fuel) (unary other)
  callRest : ∀ callee, Alike Expr (callRest fuel callee) (callRest other callee)
  primary : Alike Expr (primary fuel) (primary other)
  listAfter : ∀ opening,
    Alike (List Expr × Token) (listAfter fuel opening) (listAfter other opening)
  listRest : Alike (List Expr) (listRest fuel) (listRest other)

/-- The readers of written types with one bound are related to those with another bound. -/
structure TypesAlike (Alike : ∀ α : Type, Reader α → Reader α → Prop) (fuel other : Nat) :
    Prop where
  typeWithin : Alike WrittenType (typeWithin fuel) (typeWithin other)
  typesWithin : Alike (List WrittenType) (typesWithin fuel) (typesWithin other)

namespace Unbounded

variable (unbounded : Unbounded consumes Alike)

include unbounded

/-- A token that stands within statements may be consumed. -/
theorem acceptInner? {kind : Kind} (inner : Inner kind) :
    Alike (Option Token) (Reader.accept? kind) (Reader.accept? kind) :=
  unbounded.accept? (unbounded.inner kind inner)

theorem expectInner {kind : Kind} (inner : Inner kind) :
    Alike Token (Reader.expect kind) (Reader.expect kind) :=
  unbounded.expect (unbounded.inner kind inner)

theorem name : Alike Token Reader.expectName Reader.expectName :=
  unbounded.expectName (unbounded.inner _ (by decide))

theorem assignment_succ (alike : ExpressionsAlike Alike fuel other) :
    Alike Expr (Reader.assignment (fuel + 1)) (Reader.assignment (other + 1)) := by
  rw [Reader.assignment, Reader.assignment]
  refine unbounded.bind (alike.tier tiers) fun target => ?_
  refine unbounded.bind (unbounded.acceptInner? (by decide)) fun found => ?_
  cases found with
  | none => exact unbounded.pure target
  | some equals =>
      refine unbounded.bind alike.assignment fun value => ?_
      cases target with
      | reference name => exact unbounded.pure _
      | _ => exact unbounded.bind (unbounded.record _) fun _ => unbounded.pure _

theorem tier_succ (alike : ExpressionsAlike Alike fuel other) (levels : List Tier) :
    Alike Expr (Reader.tier (fuel + 1) levels) (Reader.tier (other + 1) levels) := by
  cases levels with
  | nil =>
      rw [Reader.tier, Reader.tier]
      exact alike.unary
  | cons level tighter =>
      rw [Reader.tier, Reader.tier]
      exact unbounded.bind (alike.tier tighter) fun left => alike.tierRest level tighter left

theorem tierRest_succ (alike : ExpressionsAlike Alike fuel other) (level : Tier)
    (tighter : List Tier) (left : Expr) :
    Alike Expr (Reader.tierRest (fuel + 1) level tighter left)
      (Reader.tierRest (other + 1) level tighter left) := by
  rw [Reader.tierRest, Reader.tierRest]
  refine unbounded.bind (unbounded.acceptWhere? fun kind found =>
    unbounded.inner kind (inner_of_operator? found)) fun found => ?_
  cases found with
  | none => exact unbounded.pure left
  | some found =>
      exact unbounded.bind (alike.tier tighter) fun right => alike.tierRest level tighter _

theorem unary_succ (alike : ExpressionsAlike Alike fuel other) :
    Alike Expr (Reader.unary (fuel + 1)) (Reader.unary (other + 1)) := by
  rw [Reader.unary, Reader.unary]
  refine unbounded.bind (unbounded.acceptWhere? fun kind found =>
    unbounded.inner kind (inner_of_unaryOperator? found)) fun found => ?_
  cases found with
  | none => exact unbounded.bind alike.primary fun callee => alike.callRest callee
  | some found => exact unbounded.bind alike.unary fun operand => unbounded.pure _

theorem callRest_succ (alike : ExpressionsAlike Alike fuel other) (callee : Expr) :
    Alike Expr (Reader.callRest (fuel + 1) callee) (Reader.callRest (other + 1) callee) := by
  rw [Reader.callRest, Reader.callRest]
  refine unbounded.bind (unbounded.acceptInner? (by decide)) fun found => ?_
  cases found with
  | none => exact unbounded.pure callee
  | some opening => exact unbounded.bind (alike.listAfter opening) fun list => alike.callRest _

theorem primary_succ (alike : ExpressionsAlike Alike fuel other) :
    Alike Expr (Reader.primary (fuel + 1)) (Reader.primary (other + 1)) := by
  rw [Reader.primary, Reader.primary]
  refine unbounded.bind (unbounded.literal? fun token found =>
    unbounded.inner _ (inner_of_constant? found)) fun constant => ?_
  cases constant with
  | some constant => exact unbounded.pure constant
  | none =>
      refine unbounded.bind (unbounded.acceptInner? (by decide)) fun name => ?_
      cases name with
      | some name => exact unbounded.pure _
      | none =>
          refine unbounded.bind (unbounded.acceptInner? (by decide)) fun found => ?_
          cases found with
          | some opening =>
              exact unbounded.bind (alike.listAfter opening) fun list => unbounded.pure _
          | none => exact unbounded.failAfter _

theorem listAfter_succ (alike : ExpressionsAlike Alike fuel other) (opening : Token) :
    Alike (List Expr × Token) (Reader.listAfter (fuel + 1) opening)
      (Reader.listAfter (other + 1) opening) := by
  rw [Reader.listAfter, Reader.listAfter]
  refine unbounded.bind (unbounded.acceptInner? (by decide)) fun found => ?_
  cases found with
  | some closing => exact unbounded.pure _
  | none =>
      refine unbounded.bind alike.assignment fun first => ?_
      refine unbounded.bind alike.listRest fun others => ?_
      refine unbounded.bind (unbounded.acceptInner? (by decide)) fun found => ?_
      cases found with
      | some closing => exact unbounded.pure _
      | none => exact unbounded.fail _ _

theorem listRest_succ (alike : ExpressionsAlike Alike fuel other) :
    Alike (List Expr) (Reader.listRest (fuel + 1)) (Reader.listRest (other + 1)) := by
  rw [Reader.listRest, Reader.listRest]
  refine unbounded.bind (unbounded.acceptInner? (by decide)) fun found => ?_
  cases found with
  | none => exact unbounded.pure []
  | some comma =>
      refine unbounded.bind alike.assignment fun item => ?_
      exact unbounded.bind alike.listRest fun items => unbounded.pure _

theorem expressions (fuel other : Nat) : ExpressionsAlike Alike fuel other := by
  refine bounds_induction (fun other => ?_) (fun fuel alike => ?_) (fun fuel other alike => ?_)
    fuel other
  · exact
      { assignment := unbounded.ofExhausted _
        tier := fun _ => unbounded.ofExhausted _
        tierRest := fun _ _ _ => unbounded.ofExhausted _
        unary := unbounded.ofExhausted _
        callRest := fun _ => unbounded.ofExhausted _
        primary := unbounded.ofExhausted _
        listAfter := fun _ => unbounded.ofExhausted _
        listRest := unbounded.ofExhausted _ }
  · exact
      { assignment := unbounded.toExhausted alike.assignment
        tier := fun levels => unbounded.toExhausted (alike.tier levels)
        tierRest := fun level tighter left =>
          unbounded.toExhausted (alike.tierRest level tighter left)
        unary := unbounded.toExhausted alike.unary
        callRest := fun callee => unbounded.toExhausted (alike.callRest callee)
        primary := unbounded.toExhausted alike.primary
        listAfter := fun opening => unbounded.toExhausted (alike.listAfter opening)
        listRest := unbounded.toExhausted alike.listRest }
  · exact
      { assignment := unbounded.assignment_succ alike
        tier := unbounded.tier_succ alike
        tierRest := unbounded.tierRest_succ alike
        unary := unbounded.unary_succ alike
        callRest := unbounded.callRest_succ alike
        primary := unbounded.primary_succ alike
        listAfter := unbounded.listAfter_succ alike
        listRest := unbounded.listRest_succ alike }

theorem expression : Alike Expr Reader.expression Reader.expression :=
  let reads (cursor : Cursor) : Reader Expr := assignment (nestingBound cursor.rest.length)
  show Alike Expr (MonadState.get >>= reads) (MonadState.get >>= reads) from
    unbounded.get fun _ _ => (unbounded.expressions _ _).assignment

theorem types_succ (alike : TypesAlike Alike fuel other) :
    TypesAlike Alike (fuel + 1) (other + 1) where
  typeWithin := by
    rw [Reader.typeWithin, Reader.typeWithin]
    refine unbounded.bind (unbounded.acceptWhere? fun kind found =>
      unbounded.inner kind (inner_of_simpleType? found)) fun found => ?_
    cases found with
    | some found => exact unbounded.pure _
    | none =>
        refine unbounded.bind (unbounded.acceptInner? (by decide)) fun found => ?_
        cases found with
        | none => exact unbounded.failAfter _
        | some opening =>
            refine unbounded.bind (unbounded.acceptInner? (by decide)) fun found => ?_
            cases found with
            | some closing => exact unbounded.pure _
            | none =>
                refine unbounded.bind alike.typeWithin fun first => ?_
                refine unbounded.bind alike.typesWithin fun others => ?_
                refine unbounded.bind (unbounded.acceptInner? (by decide)) fun found => ?_
                cases found with
                | some closing => exact unbounded.pure _
                | none => exact unbounded.fail _ _
  typesWithin := by
    rw [Reader.typesWithin, Reader.typesWithin]
    refine unbounded.bind (unbounded.acceptInner? (by decide)) fun found => ?_
    cases found with
    | none => exact unbounded.pure []
    | some comma =>
        refine unbounded.bind alike.typeWithin fun item => ?_
        exact unbounded.bind alike.typesWithin fun items => unbounded.pure _

theorem types (fuel other : Nat) : TypesAlike Alike fuel other := by
  refine @bounds_induction (TypesAlike Alike) (fun _ => ?_) (fun _ alike => ?_)
    (fun _ _ => unbounded.types_succ) fuel other
  · exact ⟨unbounded.ofExhausted _, unbounded.ofExhausted _⟩
  · exact ⟨unbounded.toExhausted alike.typeWithin, unbounded.toExhausted alike.typesWithin⟩

theorem writtenType : Alike WrittenType Reader.writtenType Reader.writtenType :=
  let reads (cursor : Cursor) : Reader WrittenType := typeWithin (nestingBound cursor.rest.length)
  show Alike WrittenType (MonadState.get >>= reads) (MonadState.get >>= reads) from
    unbounded.get fun _ _ => (unbounded.types _ _).typeWithin

end Unbounded

end Expressions

section Stems

/-- What stands before the body of a function: its name and its parameters. -/
def functionHeader : Reader (Token × List Token) := do
  let name ← expectName
  return (name, ← parameters)

/-- What stands before the bounds of a loop: its name and `in`. -/
def forHeader : Reader Token := do
  let name ← expectName
  let _ ← expect (.keyword .inWord)
  return name

/-- What stands before the body of a loop: its name and its bounds. -/
def forStem : Reader (Token × Bounds) := do
  let name ← forHeader
  return (name, ← bounds)

/-- The value of a `return` statement. -/
def returnStem : Reader (Option Expr) := do
  if ← nextIs (.symbol .semicolon) then return none else some <$> expression

/-- What stands before the initializer of a `let` statement: its name, its type and `=`. -/
def letHeader : Reader (Token × Option WrittenType) := do
  let name ← expectName
  let declared ←
    match ← accept? (.symbol .colon) with
    | none => pure none
    | some _ => some <$> writtenType
  match ← accept? (.symbol .equal) with
  | none => fail .missingInitializer name
  | some _ => return (name, declared)

/-- The header and the initializer of a `let` statement. -/
def letStem : Reader Stmt := do
  let (name, declared) ← letHeader
  return .letValue name declared (← expression)

/-- The rest of a `return` statement is its value and a semicolon. -/
theorem returnRest_eq (keyword : Token) :
    returnRest keyword = returnStem >>= fun value =>
      expect (.symbol .semicolon) >>= fun _ => pure (.giveBack keyword value) := by
  rw [returnRest, returnStem, bind_assoc]
  congr
  funext isEmpty
  cases isEmpty <;> rfl

/-- The rest of a `let` statement is its stem and a semicolon. -/
theorem letRest_eq :
    letRest = letStem >>= fun statement =>
      expect (.symbol .semicolon) >>= fun _ => pure statement := by
  have initialized : ∀ (name : Token) (declared : Option WrittenType),
      (do
        match ← accept? (.symbol .equal) with
        | none => Reader.fail .missingInitializer name
        | some _ =>
            let initializer ← expression
            let _ ← expect (.symbol .semicolon)
            return Stmt.letValue name declared initializer) =
      (do
        match ← accept? (.symbol .equal) with
        | none => Reader.fail .missingInitializer name
        | some _ => return (name, declared)) >>= fun header =>
          expression >>= fun value => pure (Stmt.letValue header.1 header.2 value) >>=
            fun statement => expect (.symbol .semicolon) >>= fun _ => pure statement := by
    intro name declared
    rw [bind_assoc]
    congr
    funext found
    cases found with
    | none => rfl
    | some equals => simp only [pure_bind]
  rw [letRest, letStem, letHeader, bind_assoc, bind_assoc]
  simp only [bind_assoc]
  congr
  funext name
  congr
  funext found
  cases found with
  | none => exact initialized name none
  | some colon =>
      dsimp only
      rw [bind_assoc]
      congr
      funext declared
      exact initialized name declared

namespace Unbounded

variable {consumes : Kind → Prop} {Alike : ∀ α : Type, Reader α → Reader α → Prop}
  (unbounded : Unbounded consumes Alike)

include unbounded

theorem namesRest (fuel other : Nat) :
    Alike (List Token) (Reader.namesRest fuel) (Reader.namesRest other) := by
  refine @bounds_induction
    (fun fuel other => Alike (List Token) (Reader.namesRest fuel) (Reader.namesRest other))
    (fun _ => unbounded.ofExhausted _) (fun _ => unbounded.toExhausted) ?_ fuel other
  intro fuel other alike
  rw [Reader.namesRest, Reader.namesRest]
  refine unbounded.bind (unbounded.acceptInner? (by decide)) fun found => ?_
  cases found with
  | none => exact unbounded.pure []
  | some comma =>
      refine unbounded.bind unbounded.name fun name => ?_
      exact unbounded.bind alike fun names => unbounded.pure _

theorem parameters : Alike (List Token) Reader.parameters Reader.parameters := by
  have closes (names : List Token) : Alike (List Token)
      (do let _ ← Reader.expect (.symbol .rightParen); return names)
      (do let _ ← Reader.expect (.symbol .rightParen); return names) :=
    unbounded.bind (unbounded.expectInner (by decide)) fun closing => unbounded.pure names
  refine unbounded.bind (unbounded.expectInner (by decide)) fun opening => ?_
  refine unbounded.bind (unbounded.nextIs (by decide)) fun isClosed => ?_
  cases isClosed with
  | true => exact closes []
  | false =>
      refine unbounded.bind unbounded.name fun first => unbounded.get fun cursor start => ?_
      exact unbounded.bind (unbounded.namesRest _ _) fun others => closes (first :: others)

theorem bounds : Alike Bounds Reader.bounds Reader.bounds := by
  refine unbounded.bind unbounded.expression fun first => ?_
  refine unbounded.bind (unbounded.expectInner (by decide)) fun token => ?_
  refine unbounded.bind unbounded.expression fun second => ?_
  refine unbounded.bind (unbounded.acceptInner? (by decide)) fun found => ?_
  cases found with
  | none => exact unbounded.pure _
  | some _ => exact unbounded.bind unbounded.expression fun third => unbounded.pure _

theorem functionHeader : Alike (Token × List Token) Reader.functionHeader Reader.functionHeader :=
  unbounded.bind unbounded.name fun _ =>
    unbounded.bind unbounded.parameters fun _ => unbounded.pure _

theorem forStem : Alike (Token × Bounds) Reader.forStem Reader.forStem := by
  have header : Alike Token forHeader forHeader :=
    unbounded.bind unbounded.name fun _ =>
      unbounded.bind (unbounded.expectInner (by decide)) fun _ => unbounded.pure _
  exact unbounded.bind header fun _ => unbounded.bind unbounded.bounds fun _ => unbounded.pure _

theorem returnStem : Alike (Option Expr) Reader.returnStem Reader.returnStem := by
  refine unbounded.bind (unbounded.nextIs (by decide)) fun isEmpty => ?_
  cases isEmpty with
  | true => exact unbounded.pure none
  | false => exact unbounded.map unbounded.expression some

theorem letStem : Alike Stmt Reader.letStem Reader.letStem := by
  have initialized (name : Token) (declared : Option WrittenType) :
      Alike (Token × Option WrittenType)
        (do
          match ← Reader.accept? (.symbol .equal) with
          | none => Reader.fail .missingInitializer name
          | some _ => return (name, declared))
        (do
          match ← Reader.accept? (.symbol .equal) with
          | none => Reader.fail .missingInitializer name
          | some _ => return (name, declared)) := by
    refine unbounded.bind (unbounded.acceptInner? (by decide)) fun found => ?_
    cases found with
    | none => exact unbounded.fail _ _
    | some equals => exact unbounded.pure _
  have header : Alike (Token × Option WrittenType) letHeader letHeader := by
    refine unbounded.bind unbounded.name fun name => ?_
    refine unbounded.bind (unbounded.acceptInner? (by decide)) fun found => ?_
    cases found with
    | none => exact initialized name none
    | some colon =>
        exact unbounded.bind (unbounded.map unbounded.writtenType some) fun declared =>
          initialized name declared
  exact unbounded.bind header fun _ =>
    unbounded.bind unbounded.expression fun _ => unbounded.pure _

end Unbounded

end Stems

section Statements

/-- A congruence between the readers of statements in two modes of recovery.  Where the first one
finds no token left, the second one may find an end marker. -/
structure StatementCongruence (mode other : Recovery)
    (Alike : ∀ α : Type, Reader α → Reader α → Prop) : Prop extends Congruence Unmarked Alike where
  nextKind? {α : Type} {next following : Option Kind → Reader α}
    (same : ∀ kind, Alike α (next kind) (following kind))
    (ends : Alike α (next none) (following (some .endOfInput))) :
    Alike α (Reader.nextKind? >>= next) (Reader.nextKind? >>= following)
  attempt {α : Type} {first second : Reader α} (alike : Alike α first second) :
    Alike (Option α) (mode.attempt first) (other.attempt second)
  expression : Alike Expr Reader.expression Reader.expression
  parameters : Alike (List Token) Reader.parameters Reader.parameters
  bounds : Alike Bounds Reader.bounds Reader.bounds
  returnStem : Alike (Option Expr) Reader.returnStem Reader.returnStem
  letStem : Alike Stmt Reader.letStem Reader.letStem

/-- The readers of statements in one mode and with one bound are related to those in another mode
and with another bound. -/
structure StatementsAlike (mode other : Recovery)
    (Alike : ∀ α : Type, Reader α → Reader α → Prop) (fuel bound : Nat) : Prop where
  statement : Alike Stmt (statementBy mode fuel) (statementBy other bound)
  conditional : Alike Stmt (ifBy mode fuel) (ifBy other bound)
  block : Alike Block (blockBy mode fuel) (blockBy other bound)
  items : Alike (List Stmt × Option Expr) (itemsBy mode fuel) (itemsBy other bound)
  item : Alike Item (itemBy mode fuel) (itemBy other bound)

variable {mode other : Recovery} {Alike : ∀ α : Type, Reader α → Reader α → Prop}
  {fuel bound : Nat}

namespace StatementCongruence

variable (congruence : StatementCongruence mode other Alike)

include congruence

theorem expressionStatement :
    Alike Stmt Reader.expressionStatement Reader.expressionStatement :=
  congruence.bind congruence.expression fun _ =>
    congruence.bind (congruence.expect (by decide)) fun _ => congruence.pure _

theorem returnRest (keyword : Token) :
    Alike Stmt (Reader.returnRest keyword) (Reader.returnRest keyword) := by
  rw [returnRest_eq]
  exact congruence.bind congruence.returnStem fun _ =>
    congruence.bind (congruence.expect (by decide)) fun _ => congruence.pure _

theorem letRest : Alike Stmt Reader.letRest Reader.letRest := by
  rw [letRest_eq]
  exact congruence.bind congruence.letStem fun _ =>
    congruence.bind (congruence.expect (by decide)) fun _ => congruence.pure _

theorem statement_succ (alike : StatementsAlike mode other Alike fuel bound) :
    Alike Stmt (statementBy mode (fuel + 1)) (statementBy other (bound + 1)) := by
  rw [statementBy, statementBy]
  refine congruence.nextKind? (fun kind => ?_) congruence.expressionStatement
  split
  · exact congruence.bind (congruence.expect (by decide)) fun _ => congruence.letRest
  · refine congruence.bind (congruence.expect (by decide)) fun _ => ?_
    refine congruence.bind (congruence.expectName (by decide)) fun name => ?_
    refine congruence.bind congruence.parameters fun names => ?_
    exact congruence.bind alike.block fun body => congruence.pure _
  · exact congruence.bind alike.block fun body => congruence.pure _
  · exact alike.conditional
  · refine congruence.bind (congruence.expect (by decide)) fun _ => ?_
    refine congruence.bind congruence.expression fun condition => ?_
    exact congruence.bind alike.block fun body => congruence.pure _
  · refine congruence.bind (congruence.expect (by decide)) fun _ => ?_
    refine congruence.bind (congruence.expectName (by decide)) fun name => ?_
    refine congruence.bind (congruence.expect (by decide)) fun _ => ?_
    refine congruence.bind congruence.bounds fun range => ?_
    exact congruence.bind alike.block fun body => congruence.pure _
  · exact congruence.bind (congruence.expect (by decide)) fun keyword =>
      congruence.returnRest keyword
  · exact congruence.expressionStatement

theorem conditional_succ (alike : StatementsAlike mode other Alike fuel bound) :
    Alike Stmt (ifBy mode (fuel + 1)) (ifBy other (bound + 1)) := by
  rw [ifBy, ifBy]
  refine congruence.bind (congruence.expect (by decide)) fun keyword => ?_
  refine congruence.bind congruence.expression fun condition => ?_
  refine congruence.bind alike.block fun consequent => ?_
  refine congruence.bind (congruence.accept? (by decide)) fun found => ?_
  cases found with
  | none => exact congruence.pure _
  | some elseWord =>
      refine congruence.bind (congruence.nextIs (by decide)) fun isIf => ?_
      cases isIf with
      | true => exact congruence.bind alike.conditional fun alternative => congruence.pure _
      | false => exact congruence.bind alike.block fun alternative => congruence.pure _

theorem block_succ (alike : StatementsAlike mode other Alike fuel bound) :
    Alike Block (blockBy mode (fuel + 1)) (blockBy other (bound + 1)) := by
  rw [blockBy, blockBy]
  refine congruence.bind (congruence.expect (by decide)) fun brace => ?_
  refine congruence.bind alike.items fun items => ?_
  refine congruence.bind (congruence.accept? (by decide)) fun found => ?_
  cases found with
  | none => exact congruence.fail _ _
  | some closing => exact congruence.pure _

theorem items_succ (alike : StatementsAlike mode other Alike fuel bound) :
    Alike (List Stmt × Option Expr) (itemsBy mode (fuel + 1)) (itemsBy other (bound + 1)) := by
  rw [itemsBy, itemsBy]
  refine congruence.nextKind? (fun kind => ?_) (congruence.pure _)
  split
  · exact congruence.pure _
  · exact congruence.pure _
  · exact congruence.pure _
  · refine congruence.bind (congruence.attempt alike.item) fun item => ?_
    split
    · exact alike.items
    · exact congruence.pure _
    · exact congruence.bind alike.items fun items => congruence.pure _

theorem item_succ (alike : StatementsAlike mode other Alike fuel bound) :
    Alike Item (itemBy mode (fuel + 1)) (itemBy other (bound + 1)) := by
  have value : Alike Item
      (do
        let value ← Reader.expression
        if ← Reader.nextIs (.symbol .rightBrace) then
          return .tail value
        else
          let _ ← Reader.expect (.symbol .semicolon)
          return .statement (.expression value))
      (do
        let value ← Reader.expression
        if ← Reader.nextIs (.symbol .rightBrace) then
          return .tail value
        else
          let _ ← Reader.expect (.symbol .semicolon)
          return .statement (.expression value)) := by
    refine congruence.bind congruence.expression fun value => ?_
    refine congruence.bind (congruence.nextIs (by decide)) fun isTail => ?_
    cases isTail with
    | true => exact congruence.pure _
    | false => exact congruence.bind (congruence.expect (by decide)) fun _ => congruence.pure _
  rw [itemBy, itemBy]
  refine congruence.nextKind? (fun kind => ?_) value
  split
  · exact congruence.map alike.statement _
  · exact value

theorem succ (alike : StatementsAlike mode other Alike fuel bound) :
    StatementsAlike mode other Alike (fuel + 1) (bound + 1) where
  statement := congruence.statement_succ alike
  conditional := congruence.conditional_succ alike
  block := congruence.block_succ alike
  items := congruence.items_succ alike
  item := congruence.item_succ alike

theorem statementsBy_succ
    (first : Alike Stmt (fun cursor => statementBy mode (nestingBound cursor.rest.length) cursor)
      (fun cursor => statementBy other (nestingBound cursor.rest.length) cursor))
    (alike : Alike (List Stmt) (statementsBy mode fuel) (statementsBy other bound)) :
    Alike (List Stmt) (statementsBy mode (fuel + 1)) (statementsBy other (bound + 1)) := by
  rw [statementsBy, statementsBy]
  refine congruence.nextKind? (fun kind => ?_) (congruence.pure _)
  split
  · exact congruence.pure []
  · exact congruence.pure []
  · refine congruence.bind (congruence.attempt first) fun found => ?_
    cases found with
    | none => exact alike
    | some statement => exact congruence.bind alike fun list => congruence.pure _

end StatementCongruence

namespace Unbounded

variable (unbounded : Unbounded Unmarked Alike)
  (congruence : StatementCongruence mode other Alike)

include unbounded congruence

theorem statements (fuel bound : Nat) : StatementsAlike mode other Alike fuel bound := by
  refine @bounds_induction (StatementsAlike mode other Alike) (fun _ => ?_) (fun _ alike => ?_)
    (fun _ _ => congruence.succ) fuel bound
  · exact
      { statement := unbounded.ofExhausted _
        conditional := unbounded.ofExhausted _
        block := unbounded.ofExhausted _
        items := unbounded.ofExhausted _
        item := unbounded.ofExhausted _ }
  · exact
      { statement := unbounded.toExhausted alike.statement
        conditional := unbounded.toExhausted alike.conditional
        block := unbounded.toExhausted alike.block
        items := unbounded.toExhausted alike.items
        item := unbounded.toExhausted alike.item }

theorem statementsBy (fuel bound : Nat) :
    Alike (List Stmt) (Reader.statementsBy mode fuel) (Reader.statementsBy other bound) := by
  let reads (mode : Recovery) (cursor : Cursor) : Reader Stmt :=
    statementBy mode (nestingBound cursor.rest.length)
  have first : Alike Stmt (MonadState.get >>= reads mode) (MonadState.get >>= reads other) :=
    unbounded.get fun _ _ => (unbounded.statements congruence _ _).statement
  refine @bounds_induction
    (fun fuel bound =>
      Alike (List Stmt) (Reader.statementsBy mode fuel) (Reader.statementsBy other bound))
    (fun _ => unbounded.ofExhausted _) (fun _ => unbounded.toExhausted)
    (fun _ _ => congruence.statementsBy_succ first) fuel bound

end Unbounded

end Statements

end Reader

end CheckedScript
