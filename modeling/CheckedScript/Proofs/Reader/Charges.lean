import CheckedScript.Proofs.Anchors.Computations
import CheckedScript.Proofs.Charges
import CheckedScript.Proofs.Reader.Marks
import CheckedScript.Proofs.Reader.Sentences

/-!
# What readers record and return

Whatever a reader records or fails for is a fault of reading, also in statements that are
skipped, and the trees it returns are marked.  Both are kept by every step of a reader, so
one walk over the readers shows them together.
-/

namespace CheckedScript

namespace Reader

/-- A reason to stop that is a fault of reading. -/
def Stop.IsCharge : Stop → Prop
  | .failed diagnostic => diagnostic.cause.phase = .parsing
  | .exhausted => True

/-- What is known of a reader: all faults are faults of reading. -/
def charging : Guard Stop Cursor where
  stop := Stop.IsCharge
  state cursor := ∀ diagnostic ∈ cursor.diagnostics, diagnostic.cause.phase = .parsing

section Steps

variable {α : Type} {fits : α → Prop} {cursor : Cursor}

theorem charging_advance (known : charging.state cursor) : charging.state cursor.advance := by
  unfold Cursor.advance
  cases cursor.rest <;> exact known

theorem charging_record (known : charging.state cursor) {diagnostic : Diagnostic}
    (found : diagnostic.cause.phase = .parsing) : charging.state (cursor.record diagnostic) :=
  List.forall_mem_append.2 ⟨known, List.forall_mem_singleton.2 found⟩

theorem charging_resume (known : charging.state cursor) (before : Nat) :
    charging.state (cursor.resume before) := by
  change ∀ diagnostic ∈ (cursor.resume before).diagnostics, _
  rw [Cursor.resume_diagnostics]
  exact known

theorem charges_fail {cause : Cause} (found : cause.phase = .parsing) (token : Token) :
    charging.Keeps fits (fail cause token) :=
  .throw found

theorem charges_failAfter {cause : Cause} (found : cause.phase = .parsing) :
    charging.Keeps fits (failAfter cause) :=
  .get fun _ _ => charges_fail found _

theorem charges_nextKind? : charging.Keeps (fun _ => True) nextKind? :=
  .get fun _ _ => .pure trivial

theorem charges_nextIs (kind : Kind) : charging.Keeps (fun _ => True) (nextIs kind) :=
  charges_nextKind?.bind fun _ _ => .pure trivial

theorem charges_acceptWhere? (choose : Kind → Option α) :
    charging.Keeps (fun found => ∀ pair ∈ found, choose pair.2.kind = some pair.1)
      (acceptWhere? choose) := by
  refine .get fun cursor known => ?_
  cases cursor.rest with
  | nil => exact .pure (by simp)
  | cons token rest =>
      dsimp only
      cases chosen : choose token.kind with
      | none => exact .pure (by simp)
      | some value =>
          refine .bind (.set (charging_advance known)) fun _ _ => .pure fun pair same => ?_
          obtain rfl := Option.some.inj same
          exact chosen

theorem charges_accept? (kind : Kind) :
    charging.Keeps (fun found => ∀ token ∈ found, token.kind = kind) (accept? kind) := by
  refine .bind (charges_acceptWhere? _) fun found known => ?_
  cases found with
  | none => exact .pure (by simp)
  | some pair =>
      have chosen := known pair rfl
      refine .pure fun token same => ?_
      obtain rfl := Option.some.inj same
      simpa using chosen

theorem charges_expect (kind : Kind) :
    charging.Keeps (fun token => token.kind = kind) (expect kind) := by
  refine .bind (charges_accept? kind) fun found known => ?_
  cases found with
  | none => exact charges_failAfter rfl
  | some token => exact .pure (known token rfl)

theorem charges_expectName :
    charging.Keeps (fun token => token.kind = .identifier) expectName := by
  refine .bind (charges_accept? .identifier) fun found known => ?_
  cases found with
  | none => exact charges_failAfter rfl
  | some token => exact .pure (known token rfl)

theorem charges_literal? :
    charging.Keeps (fun found => ∀ expr ∈ found, Expr.Marked expr) literal? := by
  refine .get fun cursor known => ?_
  cases cursor.rest with
  | nil => exact .pure (by simp)
  | cons token rest =>
      dsimp only
      cases denotes : constant? token with
      | none => exact .pure (by simp)
      | some value =>
          refine .bind (.set (charging_advance known)) fun _ _ => .pure fun expr same => ?_
          obtain rfl := Option.some.inj same
          exact denotes

/-- What is recorded of a reader that fails is a fault of reading. -/
theorem charges_attempt {reader : Reader α} (keeps : charging.Keeps fits reader) :
    charging.Keeps (fun found => ∀ value ∈ found, fits value) (attempt reader) := by
  intro cursor known
  have ended := keeps cursor known
  unfold attempt
  cases equation : reader cursor with
  | ok value after =>
      rw [equation] at ended
      exact ⟨by simpa using ended.1, ended.2⟩
  | error stop after =>
      rw [equation] at ended
      cases stop with
      | failed diagnostic =>
          exact ⟨by simp, charging_resume (charging_record ended.2 ended.1) _⟩
      | exhausted => exact ended

end Steps

section Expressions

/-- The readers of expressions charge faults of reading and return marked trees. -/
structure ExpressionsCharge (fuel : Nat) : Prop where
  assignment : charging.Keeps Expr.Marked (assignment fuel)
  tier : ∀ levels, charging.Keeps Expr.Marked (tier fuel levels)
  tierRest : ∀ level tighter left, left.Marked →
    charging.Keeps Expr.Marked (tierRest fuel level tighter left)
  unary : charging.Keeps Expr.Marked (unary fuel)
  callRest : ∀ callee, callee.Marked → charging.Keeps Expr.Marked (callRest fuel callee)
  primary : charging.Keeps Expr.Marked (primary fuel)
  listAfter : ∀ opening, charging.Keeps
    (fun list => Expr.AreMarked list.1 ∧ list.2.kind = .symbol .rightParen)
    (listAfter fuel opening)
  listRest : charging.Keeps Expr.AreMarked (listRest fuel)

namespace ExpressionsCharge

variable {fuel : Nat}

/-- A target that is no name is recorded, and the reader goes on. -/
theorem assignment_succ (charge : ExpressionsCharge fuel) :
    charging.Keeps Expr.Marked (Reader.assignment (fuel + 1)) := by
  refine (charge.tier tiers).bind fun target marked => ?_
  refine (charges_accept? _).bind fun found _ => ?_
  cases found with
  | none => exact .pure marked
  | some equals =>
      refine charge.assignment.bind fun value markedValue => ?_
      have refuses : ∀ result : Expr, result.Marked → charging.Keeps Expr.Marked (do
          modify fun cursor => cursor.record { cause := .invalidTarget, token := equals }
          return result) := fun result markedResult =>
        .bind (.modify fun _ known => charging_record known rfl) fun _ _ => .pure markedResult
      cases target with
      | reference name => exact .pure ⟨marked, markedValue⟩
      | literal | assign | unary | binary | logical | group | tuple | call =>
          exact refuses _ marked

theorem tier_succ (charge : ExpressionsCharge fuel) (levels : List Tier) :
    charging.Keeps Expr.Marked (Reader.tier (fuel + 1) levels) := by
  cases levels with
  | nil => exact charge.unary
  | cons level tighter =>
      exact (charge.tier tighter).bind fun left marked => charge.tierRest level tighter left marked

theorem tierRest_succ (charge : ExpressionsCharge fuel) (level : Tier) (tighter : List Tier)
    (left : Expr) (marked : left.Marked) :
    charging.Keeps Expr.Marked (Reader.tierRest (fuel + 1) level tighter left) := by
  refine (charges_acceptWhere? _).bind fun found known => ?_
  cases found with
  | none => exact .pure marked
  | some pair =>
      exact (charge.tier tighter).bind fun right markedRight =>
        charge.tierRest _ _ _ (marked_apply (known pair rfl) marked markedRight)

theorem unary_succ (charge : ExpressionsCharge fuel) :
    charging.Keeps Expr.Marked (Reader.unary (fuel + 1)) := by
  refine (charges_acceptWhere? _).bind fun found known => ?_
  cases found with
  | none => exact charge.primary.bind fun callee marked => charge.callRest callee marked
  | some pair => exact charge.unary.bind fun operand marked => .pure ⟨known pair rfl, marked⟩

theorem callRest_succ (charge : ExpressionsCharge fuel) (callee : Expr) (marked : callee.Marked) :
    charging.Keeps Expr.Marked (Reader.callRest (fuel + 1) callee) := by
  refine (charges_accept? _).bind fun found _ => ?_
  cases found with
  | none => exact .pure marked
  | some opening =>
      exact (charge.listAfter opening).bind fun list markedList =>
        charge.callRest _ ⟨marked, markedList.2, markedList.1⟩

theorem primary_succ (charge : ExpressionsCharge fuel) :
    charging.Keeps Expr.Marked (Reader.primary (fuel + 1)) := by
  refine charges_literal?.bind fun found known => ?_
  cases found with
  | some constant => exact .pure (known constant rfl)
  | none =>
      refine (charges_accept? _).bind fun found known => ?_
      cases found with
      | some name => exact .pure (known name rfl)
      | none =>
          refine (charges_accept? _).bind fun found _ => ?_
          cases found with
          | some opening =>
              exact (charge.listAfter opening).bind fun list markedList =>
                .pure (marked_parenthesized markedList.1)
          | none => exact charges_failAfter rfl

theorem listAfter_succ (charge : ExpressionsCharge fuel) (opening : Token) :
    charging.Keeps (fun list => Expr.AreMarked list.1 ∧ list.2.kind = .symbol .rightParen)
      (Reader.listAfter (fuel + 1) opening) := by
  refine (charges_accept? _).bind fun found known => ?_
  cases found with
  | some closing => exact .pure ⟨trivial, known closing rfl⟩
  | none =>
      refine charge.assignment.bind fun first marked => ?_
      refine charge.listRest.bind fun others markedOthers => ?_
      refine (charges_accept? _).bind fun found known => ?_
      cases found with
      | some closing => exact .pure ⟨⟨marked, markedOthers⟩, known closing rfl⟩
      | none => exact charges_fail rfl _

theorem listRest_succ (charge : ExpressionsCharge fuel) :
    charging.Keeps Expr.AreMarked (Reader.listRest (fuel + 1)) := by
  refine (charges_accept? _).bind fun found _ => ?_
  cases found with
  | none => exact .pure trivial
  | some comma =>
      exact charge.assignment.bind fun item marked =>
        charge.listRest.bind fun items markedItems => .pure ⟨marked, markedItems⟩

end ExpressionsCharge

theorem expressionsCharge (fuel : Nat) : ExpressionsCharge fuel := by
  induction fuel with
  | zero =>
      constructor
      case assignment | unary | primary | listRest => exact .throw trivial
      case tier | listAfter | callRest | tierRest => intros; exact .throw trivial
  | succ fuel charge =>
      exact
        { assignment := charge.assignment_succ
          tier := charge.tier_succ
          tierRest := charge.tierRest_succ
          unary := charge.unary_succ
          callRest := charge.callRest_succ
          primary := charge.primary_succ
          listAfter := charge.listAfter_succ
          listRest := charge.listRest_succ }

theorem charges_expression : charging.Keeps Expr.Marked expression :=
  fun cursor => (expressionsCharge _).assignment cursor

end Expressions

section Statements

theorem charge_types (fuel : Nat) :
    charging.Keeps (fun _ => True) (typeWithin fuel) ∧
      charging.Keeps (fun _ => True) (typesWithin fuel) := by
  induction fuel with
  | zero => exact ⟨.throw trivial, .throw trivial⟩
  | succ fuel charge =>
      obtain ⟨chargeType, chargeTypes⟩ := charge
      constructor
      · refine (charges_acceptWhere? _).bind fun found _ => ?_
        cases found with
        | some simple => exact .pure trivial
        | none =>
            refine (charges_accept? _).bind fun found _ => ?_
            cases found with
            | none => exact charges_failAfter rfl
            | some opening =>
                refine (charges_accept? _).bind fun found _ => ?_
                cases found with
                | some closing => exact .pure trivial
                | none =>
                    refine chargeType.bind fun _ _ => chargeTypes.bind fun _ _ => ?_
                    refine (charges_accept? _).bind fun found _ => ?_
                    cases found with
                    | some closing => exact .pure trivial
                    | none => exact charges_fail rfl _
      · refine (charges_accept? _).bind fun found _ => ?_
        cases found with
        | none => exact .pure trivial
        | some comma =>
            exact chargeType.bind fun _ _ => chargeTypes.bind fun _ _ => .pure trivial

theorem charges_writtenType : charging.Keeps (fun _ => True) writtenType :=
  fun cursor => (charge_types _).1 cursor

theorem charges_namesRest (fuel : Nat) :
    charging.Keeps (fun names => ∀ name ∈ names, name.kind = .identifier) (namesRest fuel) := by
  induction fuel with
  | zero => exact .throw trivial
  | succ fuel charge =>
      refine (charges_accept? _).bind fun found _ => ?_
      cases found with
      | none => exact .pure (by simp)
      | some comma =>
          exact charges_expectName.bind fun name isName => charge.bind fun names areNames =>
            .pure (List.forall_mem_cons.2 ⟨isName, areNames⟩)

theorem charges_parameters :
    charging.Keeps (fun names => ∀ name ∈ names, name.kind = .identifier) parameters := by
  refine (charges_expect _).bind fun _ _ => (charges_nextIs _).bind fun isEmpty _ => ?_
  have closes : ∀ names : List Token, (∀ name ∈ names, name.kind = .identifier) →
      charging.Keeps (fun names => ∀ name ∈ names, name.kind = .identifier) (do
        let _ ← expect (.symbol .rightParen)
        return names) := fun names areNames =>
    (charges_expect _).bind fun _ _ => .pure areNames
  cases isEmpty with
  | true => exact closes [] (by simp)
  | false =>
      refine charges_expectName.bind fun first isName => .get fun _ _ => ?_
      refine (charges_namesRest _).bind fun others areNames => ?_
      exact closes _ (List.forall_mem_cons.2 ⟨isName, areNames⟩)

/-- What follows the name of a `let` statement and its declared type, if it has one. -/
theorem charges_initialized {name : Token} (isName : name.kind = .identifier)
    (declared : Option WrittenType) :
    charging.Keeps Stmt.Marked (do
      match ← accept? (.symbol .equal) with
      | none => fail .missingInitializer name
      | some _ =>
          let initializer ← expression
          let _ ← expect (.symbol .semicolon)
          return .letValue name declared initializer) := by
  refine (charges_accept? _).bind fun found _ => ?_
  cases found with
  | none => exact charges_fail rfl _
  | some equals =>
      exact charges_expression.bind fun initializer marked =>
        (charges_expect _).bind fun _ _ => .pure ⟨isName, marked⟩

theorem charges_letRest : charging.Keeps Stmt.Marked letRest := by
  refine charges_expectName.bind fun name isName => (charges_accept? _).bind fun colon _ => ?_
  cases colon with
  | none => exact charges_initialized isName none
  | some colon =>
      exact (charges_writtenType.mono fun _ _ => trivial).map.bind fun declared (_ : True) =>
        charges_initialized isName declared

theorem charges_returnRest {keyword : Token} (isWord : keyword.kind = .keyword .returnWord) :
    charging.Keeps Stmt.Marked (returnRest keyword) := by
  refine (charges_nextIs _).bind fun isEmpty _ => ?_
  have closes : ∀ value : Option Expr, (∀ found ∈ value, found.Marked) →
      charging.Keeps Stmt.Marked (do
        let _ ← expect (.symbol .semicolon)
        return .giveBack keyword value) := fun value marked =>
    (charges_expect _).bind fun _ _ => .pure ⟨isWord, marked⟩
  cases isEmpty with
  | true => exact closes none (by simp)
  | false =>
      have charges : charging.Keeps (fun value => ∀ found ∈ value, Expr.Marked found)
          (some <$> expression) :=
        .map (charges_expression.mono fun value marked => by simpa using marked)
      exact charges.bind closes

theorem charges_bounds : charging.Keeps Bounds.Marked bounds := by
  refine charges_expression.bind fun start markedStart => (charges_expect _).bind fun token dots => ?_
  refine charges_expression.bind fun second markedSecond => (charges_accept? _).bind fun found _ => ?_
  cases found with
  | none => exact .pure ⟨dots, markedStart, markedSecond, by simp⟩
  | some other =>
      refine charges_expression.bind fun third markedThird =>
        .pure ⟨dots, markedStart, markedThird, ?_⟩
      simpa using markedSecond

theorem charges_expressionStatement : charging.Keeps Stmt.Marked expressionStatement :=
  charges_expression.bind fun _ marked => (charges_expect _).bind fun _ _ => .pure marked

/-- An item of a block whose tokens are of the kinds that its nodes stand for. -/
def Item.Marked : Item → Prop
  | .statement stmt => stmt.Marked
  | .tail value => value.Marked

/-- The readers of statements charge faults of reading and return marked trees. -/
structure StatementsCharge (fuel : Nat) : Prop where
  statement : charging.Keeps Stmt.Marked (statementWithin fuel)
  conditional : charging.Keeps (fun stmt => stmt.Marked ∧ stmt.isAlternative) (ifWithin fuel)
  block : charging.Keeps Block.Marked (blockWithin fuel)
  items : charging.Keeps
    (fun items => Stmt.AreMarked items.1 ∧ ∀ value ∈ items.2, value.Marked) (itemsWithin fuel)
  item : charging.Keeps Item.Marked (itemWithin fuel)

namespace StatementsCharge

variable {fuel : Nat}

theorem statement_succ (charge : StatementsCharge fuel) :
    charging.Keeps Stmt.Marked (statementWithin (fuel + 1)) := by
  refine charges_nextKind?.bind fun kind _ => ?_
  split
  · exact (charges_expect _).bind fun _ _ => charges_letRest
  · refine (charges_expect _).bind fun _ _ => charges_expectName.bind fun name isName => ?_
    refine charges_parameters.bind fun parameters areNames => charge.block.bind fun body marked => ?_
    exact .pure ⟨isName, areNames, marked⟩
  · exact charge.block.bind fun body marked => .pure marked
  · exact charge.conditional.mono fun _ known => known.1
  · refine (charges_expect _).bind fun keyword isWord => ?_
    refine charges_expression.bind fun condition marked => ?_
    exact charge.block.bind fun body markedBody => .pure ⟨isWord, marked, markedBody⟩
  · refine (charges_expect _).bind fun _ _ => charges_expectName.bind fun name isName => ?_
    refine (charges_expect _).bind fun _ _ => charges_bounds.bind fun bounds marked => ?_
    exact charge.block.bind fun body markedBody => .pure ⟨isName, marked, markedBody⟩
  · exact (charges_expect _).bind fun keyword isWord => charges_returnRest isWord
  · exact charges_expressionStatement

/-- What follows `else` is a conditional or a block. -/
theorem conditional_succ (charge : StatementsCharge fuel) :
    charging.Keeps (fun stmt => stmt.Marked ∧ stmt.isAlternative) (ifWithin (fuel + 1)) := by
  refine (charges_expect _).bind fun keyword isWord => ?_
  refine charges_expression.bind fun condition marked => ?_
  refine charge.block.bind fun consequent markedConsequent => ?_
  refine (charges_accept? _).bind fun found _ => ?_
  cases found with
  | none => exact .pure ⟨⟨isWord, marked, markedConsequent⟩, rfl⟩
  | some word =>
      refine (charges_nextIs _).bind fun again _ => ?_
      cases again with
      | true =>
          exact charge.conditional.bind fun _ other =>
            .pure ⟨⟨isWord, marked, markedConsequent, other⟩, rfl⟩
      | false =>
          exact charge.block.bind fun _ other =>
            .pure ⟨⟨isWord, marked, markedConsequent, other, rfl⟩, rfl⟩

theorem block_succ (charge : StatementsCharge fuel) :
    charging.Keeps Block.Marked (blockWithin (fuel + 1)) := by
  refine (charges_expect _).bind fun brace isBrace => charge.items.bind fun items marked => ?_
  refine (charges_accept? _).bind fun found _ => ?_
  cases found with
  | none => exact charges_fail rfl _
  | some closing => exact .pure ⟨isBrace, marked⟩

theorem items_succ (charge : StatementsCharge fuel) :
    charging.Keeps (fun items => Stmt.AreMarked items.1 ∧ ∀ value ∈ items.2, value.Marked)
      (itemsWithin (fuel + 1)) := by
  refine charges_nextKind?.bind fun kind _ => ?_
  split
  · exact .pure ⟨trivial, by simp⟩
  · exact .pure ⟨trivial, by simp⟩
  · exact .pure ⟨trivial, by simp⟩
  · refine (charges_attempt charge.item).bind fun found known => ?_
    match found with
    | none => exact charge.items
    | some (.tail value) =>
        have marked : value.Marked := known _ rfl
        exact .pure ⟨trivial, by simpa using marked⟩
    | some (.statement stmt) =>
        have marked : stmt.Marked := known _ rfl
        exact charge.items.bind fun items markedItems => .pure ⟨⟨marked, markedItems.1⟩, markedItems.2⟩

theorem item_succ (charge : StatementsCharge fuel) :
    charging.Keeps Item.Marked (itemWithin (fuel + 1)) := by
  refine charges_nextKind?.bind fun kind _ => ?_
  split
  · exact .map charge.statement
  · refine charges_expression.bind fun value marked => (charges_nextIs _).bind fun closes _ => ?_
    cases closes with
    | true => exact .pure marked
    | false => exact (charges_expect _).bind fun _ _ => .pure marked

end StatementsCharge

theorem statementsCharge (fuel : Nat) : StatementsCharge fuel := by
  induction fuel with
  | zero => constructor <;> exact .throw trivial
  | succ fuel charge =>
      exact
        { statement := charge.statement_succ
          conditional := charge.conditional_succ
          block := charge.block_succ
          items := charge.items_succ
          item := charge.item_succ }

theorem charges_statements (fuel : Nat) :
    charging.Keeps Stmt.AreMarked (statements fuel) := by
  induction fuel with
  | zero => exact .throw trivial
  | succ fuel charge =>
      have chargeStatement : charging.Keeps Stmt.Marked statement :=
        fun cursor => (statementsCharge _).statement cursor
      refine charges_nextKind?.bind fun kind _ => ?_
      split
      · exact .pure trivial
      · exact .pure trivial
      · refine (charges_attempt chargeStatement).bind fun found known => ?_
        cases found with
        | none => exact charge
        | some first => exact charge.bind fun others marked => .pure ⟨known first rfl, marked⟩

end Statements

end Reader

end CheckedScript
