import CheckedScript.Proofs.Anchors.Computations
import CheckedScript.Proofs.Anchors.Trees
import CheckedScript.Tree.Reader.Statement

/-!
# What readers take from the tokens

Readers make up no tokens.  The token consumed last is one of those that are read, even
before anything has been consumed, so every diagnostic is charged to one of them, and every
tree that is returned is drawn from them.
-/

namespace CheckedScript

namespace Reader

variable (tokens : List Token)

/-- A cursor over some tokens. -/
structure Cursor.DrawnFrom (cursor : Cursor) : Prop where
  previous : cursor.previous ∈ tokens
  rest : ∀ token ∈ cursor.rest, token ∈ tokens
  diagnostics : ∀ diagnostic ∈ cursor.diagnostics, diagnostic.DrawnFrom tokens

/-- A reason to stop that is charged to one of some tokens. -/
def Stop.DrawnFrom : Stop → Prop
  | .failed diagnostic => diagnostic.DrawnFrom tokens
  | .exhausted => True

/-- What is known of a reader of some tokens. -/
def guard : Guard Stop Cursor where
  stop := Stop.DrawnFrom tokens
  state := Cursor.DrawnFrom tokens

variable {tokens}

namespace Cursor.DrawnFrom

variable {cursor : Cursor}

theorem advance (drawn : cursor.DrawnFrom tokens) : cursor.advance.DrawnFrom tokens := by
  unfold Cursor.advance
  cases shape : cursor.rest with
  | nil => exact drawn
  | cons token rest =>
      obtain ⟨first, others⟩ := List.forall_mem_cons.1 (shape ▸ drawn.rest)
      exact ⟨first, others, drawn.diagnostics⟩

theorem skip (drawn : cursor.DrawnFrom tokens) : cursor.skip.DrawnFrom tokens := by
  unfold Cursor.skip
  split
  · exact drawn
  · exact drawn.advance

theorem record (drawn : cursor.DrawnFrom tokens) {diagnostic : Diagnostic}
    (charged : diagnostic.DrawnFrom tokens) : (cursor.record diagnostic).DrawnFrom tokens :=
  ⟨drawn.previous, drawn.rest, List.forall_mem_append.2
    ⟨drawn.diagnostics, List.forall_mem_singleton.2 charged⟩⟩

theorem dropToBorder {previous : Token} {rest : List Token} (member : previous ∈ tokens)
    (members : ∀ token ∈ rest, token ∈ tokens) :
    (Cursor.dropToBorder previous rest).1 ∈ tokens ∧
      ∀ token ∈ (Cursor.dropToBorder previous rest).2, token ∈ tokens := by
  induction rest generalizing previous with
  | nil => exact ⟨member, members⟩
  | cons token rest inductionHypothesis =>
      obtain ⟨first, others⟩ := List.forall_mem_cons.1 members
      rw [Cursor.dropToBorder]
      split
      · exact ⟨first, others⟩
      · split
        · exact ⟨member, members⟩
        · exact inductionHypothesis first others

theorem resume (drawn : cursor.DrawnFrom tokens) (before : Nat) :
    (cursor.resume before).DrawnFrom tokens := by
  have border := dropToBorder drawn.previous drawn.rest
  unfold Cursor.resume
  have resumed : Cursor.DrawnFrom tokens
      { cursor with
        previous := (Cursor.dropToBorder cursor.previous cursor.rest).1
        rest := (Cursor.dropToBorder cursor.previous cursor.rest).2 } :=
    ⟨border.1, border.2, drawn.diagnostics⟩
  dsimp only
  split
  · exact resumed.skip
  · exact resumed

end Cursor.DrawnFrom

section Steps

variable {α : Type} {fits : α → Prop}

theorem keeps_fail (cause : Cause) {token : Token} (member : token ∈ tokens) :
    (guard tokens).Keeps fits (fail cause token) :=
  .throw member

theorem keeps_failAfter (cause : Cause) : (guard tokens).Keeps fits (failAfter cause) :=
  .get fun _ drawn => keeps_fail cause drawn.previous

theorem keeps_nextKind? : (guard tokens).Keeps (fun _ => True) nextKind? :=
  .get fun _ _ => .pure trivial

theorem keeps_nextIs (kind : Kind) : (guard tokens).Keeps (fun _ => True) (nextIs kind) :=
  keeps_nextKind?.bind fun _ _ => .pure trivial

theorem keeps_acceptWhere? (choose : Kind → Option α) :
    (guard tokens).Keeps
      (fun found => ∀ pair ∈ found, pair.2 ∈ tokens ∧ choose pair.2.kind = some pair.1)
      (acceptWhere? choose) := by
  refine .get fun cursor drawn => ?_
  cases shape : cursor.rest with
  | nil => exact .pure (by simp)
  | cons token rest =>
      have first := (List.forall_mem_cons.1 (shape ▸ drawn.rest)).1
      dsimp only
      cases chosen : choose token.kind with
      | none => exact .pure (by simp)
      | some value =>
          refine .bind (.set drawn.advance) fun _ _ => .pure fun pair same => ?_
          obtain rfl := Option.some.inj same
          exact ⟨first, chosen⟩

theorem keeps_accept? (kind : Kind) :
    (guard tokens).Keeps (fun found => ∀ token ∈ found, token ∈ tokens ∧ token.kind = kind)
      (accept? kind) := by
  refine .bind (keeps_acceptWhere? _) fun found known => ?_
  cases found with
  | none => exact .pure (by simp)
  | some pair =>
      obtain ⟨member, chosen⟩ := known pair rfl
      refine .pure fun token same => ?_
      obtain rfl := Option.some.inj same
      exact ⟨member, by simpa using chosen⟩

theorem keeps_expect (kind : Kind) :
    (guard tokens).Keeps (fun token => token ∈ tokens ∧ token.kind = kind) (expect kind) := by
  refine .bind (keeps_accept? kind) fun found known => ?_
  cases found with
  | none => exact keeps_failAfter _
  | some token => exact .pure (known token rfl)

theorem keeps_expectName : (guard tokens).Keeps (Token.IsNameOf tokens) expectName := by
  refine .bind (keeps_accept? .identifier) fun found known => ?_
  cases found with
  | none => exact keeps_failAfter _
  | some token => exact .pure (known token rfl)

theorem keeps_literal? :
    (guard tokens).Keeps (fun found => ∀ expr ∈ found, expr.DrawnFrom tokens) literal? := by
  refine .get fun cursor drawn => ?_
  cases shape : cursor.rest with
  | nil => exact .pure (by simp)
  | cons token rest =>
      have first := (List.forall_mem_cons.1 (shape ▸ drawn.rest)).1
      dsimp only
      cases constant? token with
      | none => exact .pure (by simp)
      | some value =>
          refine .bind (.set drawn.advance) fun _ _ => .pure fun expr same => ?_
          obtain rfl := Option.some.inj same
          exact first

/-- What is recorded of a reader that fails is charged to one of the tokens. -/
theorem keeps_attempt {reader : Reader α} (keeps : (guard tokens).Keeps fits reader) :
    (guard tokens).Keeps (fun found => ∀ value ∈ found, fits value) (attempt reader) := by
  intro cursor drawn
  have ended := keeps cursor drawn
  unfold attempt
  cases equation : reader cursor with
  | ok value after =>
      rw [equation] at ended
      refine ⟨fun other same => ?_, ended.2⟩
      obtain rfl := Option.some.inj same
      exact ended.1
  | error stop after =>
      rw [equation] at ended
      cases stop with
      | failed diagnostic => exact ⟨by simp, (ended.2.record ended.1).resume _⟩
      | exhausted => exact ended

end Steps
section Expressions

theorem drawnFrom_parenthesized {items : List Expr} (drawn : Expr.AreDrawnFrom tokens items) :
    (parenthesized items).DrawnFrom tokens := by
  match items with
  | [] => exact drawn
  | [item] => exact drawn.1
  | _ :: _ :: _ => exact drawn

theorem drawnFrom_apply {operator : InnerOperator} {token : Token} {left right : Expr}
    (member : token ∈ tokens) (first : left.DrawnFrom tokens) (second : right.DrawnFrom tokens) :
    (operator.apply token left right).DrawnFrom tokens := by
  cases operator <;> exact ⟨member, first, second⟩

variable (tokens)

/-- The readers of expressions make up no tokens. -/
structure ExpressionsKeep (fuel : Nat) : Prop where
  assignment : (guard tokens).Keeps (Expr.DrawnFrom tokens) (assignment fuel)
  tier : ∀ levels, (guard tokens).Keeps (Expr.DrawnFrom tokens) (tier fuel levels)
  tierRest : ∀ level tighter left, left.DrawnFrom tokens →
    (guard tokens).Keeps (Expr.DrawnFrom tokens) (tierRest fuel level tighter left)
  unary : (guard tokens).Keeps (Expr.DrawnFrom tokens) (unary fuel)
  callRest : ∀ callee, callee.DrawnFrom tokens →
    (guard tokens).Keeps (Expr.DrawnFrom tokens) (callRest fuel callee)
  primary : (guard tokens).Keeps (Expr.DrawnFrom tokens) (primary fuel)
  listAfter : ∀ opening ∈ tokens, (guard tokens).Keeps
    (fun list => Expr.AreDrawnFrom tokens list.1 ∧ list.2 ∈ tokens) (listAfter fuel opening)
  listRest : (guard tokens).Keeps (Expr.AreDrawnFrom tokens) (listRest fuel)

variable {tokens} {fuel : Nat}

theorem keeps_assignment_succ (keep : ExpressionsKeep tokens fuel) :
    (guard tokens).Keeps (Expr.DrawnFrom tokens) (assignment (fuel + 1)) := by
  refine (keep.tier tiers).bind fun target drawn => ?_
  refine (keeps_accept? _).bind fun found known => ?_
  cases found with
  | none => exact .pure drawn
  | some equals =>
      refine keep.assignment.bind fun value drawnValue => ?_
      have refuses : ∀ result : Expr, result.DrawnFrom tokens →
          (guard tokens).Keeps (Expr.DrawnFrom tokens) (do
            modify fun cursor => cursor.record { cause := .invalidTarget, token := equals }
            return result) := fun result drawnResult =>
        .bind (.modify fun _ drawnCursor => drawnCursor.record (known equals rfl).1)
          fun _ _ => .pure drawnResult
      cases target with
      | reference name => exact .pure ⟨drawn, drawnValue⟩
      | literal | assign | unary | binary | logical | group | tuple | call =>
          exact refuses _ drawn

theorem keeps_tier_succ (keep : ExpressionsKeep tokens fuel) (levels : List Tier) :
    (guard tokens).Keeps (Expr.DrawnFrom tokens) (tier (fuel + 1) levels) := by
  cases levels with
  | nil => exact keep.unary
  | cons level tighter =>
      exact (keep.tier tighter).bind fun left drawn => keep.tierRest level tighter left drawn

theorem keeps_tierRest_succ (keep : ExpressionsKeep tokens fuel) (level : Tier)
    (tighter : List Tier) (left : Expr) (drawn : left.DrawnFrom tokens) :
    (guard tokens).Keeps (Expr.DrawnFrom tokens) (tierRest (fuel + 1) level tighter left) := by
  refine (keeps_acceptWhere? _).bind fun found known => ?_
  cases found with
  | none => exact .pure drawn
  | some pair =>
      refine (keep.tier tighter).bind fun right drawnRight => ?_
      exact keep.tierRest _ _ _ (drawnFrom_apply (known pair rfl).1 drawn drawnRight)

theorem keeps_unary_succ (keep : ExpressionsKeep tokens fuel) :
    (guard tokens).Keeps (Expr.DrawnFrom tokens) (unary (fuel + 1)) := by
  refine (keeps_acceptWhere? _).bind fun found known => ?_
  cases found with
  | none => exact keep.primary.bind fun callee drawn => keep.callRest callee drawn
  | some pair =>
      exact keep.unary.bind fun operand drawn => .pure ⟨(known pair rfl).1, drawn⟩

theorem keeps_callRest_succ (keep : ExpressionsKeep tokens fuel) (callee : Expr)
    (drawn : callee.DrawnFrom tokens) :
    (guard tokens).Keeps (Expr.DrawnFrom tokens) (callRest (fuel + 1) callee) := by
  refine (keeps_accept? _).bind fun found known => ?_
  cases found with
  | none => exact .pure drawn
  | some opening =>
      refine (keep.listAfter opening (known opening rfl).1).bind fun list drawnList => ?_
      exact keep.callRest _ ⟨drawn, drawnList.2, drawnList.1⟩

theorem keeps_primary_succ (keep : ExpressionsKeep tokens fuel) :
    (guard tokens).Keeps (Expr.DrawnFrom tokens) (primary (fuel + 1)) := by
  refine keeps_literal?.bind fun found known => ?_
  cases found with
  | some constant => exact .pure (known constant rfl)
  | none =>
      refine (keeps_accept? _).bind fun found known => ?_
      cases found with
      | some name => exact .pure (known name rfl)
      | none =>
          refine (keeps_accept? _).bind fun found known => ?_
          cases found with
          | some opening =>
              refine (keep.listAfter opening (known opening rfl).1).bind fun list drawnList => ?_
              exact .pure (drawnFrom_parenthesized drawnList.1)
          | none => exact keeps_failAfter _

theorem keeps_listAfter_succ (keep : ExpressionsKeep tokens fuel) (opening : Token)
    (member : opening ∈ tokens) :
    (guard tokens).Keeps (fun list => Expr.AreDrawnFrom tokens list.1 ∧ list.2 ∈ tokens)
      (listAfter (fuel + 1) opening) := by
  refine (keeps_accept? _).bind fun found known => ?_
  cases found with
  | some closing => exact .pure ⟨trivial, (known closing rfl).1⟩
  | none =>
      refine keep.assignment.bind fun first drawn => ?_
      refine keep.listRest.bind fun others drawnOthers => ?_
      refine (keeps_accept? _).bind fun found known => ?_
      cases found with
      | some closing => exact .pure ⟨⟨drawn, drawnOthers⟩, (known closing rfl).1⟩
      | none => exact keeps_fail _ member

theorem keeps_listRest_succ (keep : ExpressionsKeep tokens fuel) :
    (guard tokens).Keeps (Expr.AreDrawnFrom tokens) (listRest (fuel + 1)) := by
  refine (keeps_accept? _).bind fun found _ => ?_
  cases found with
  | none => exact .pure trivial
  | some comma =>
      exact keep.assignment.bind fun item drawn =>
        keep.listRest.bind fun items drawnItems => .pure ⟨drawn, drawnItems⟩

theorem expressionsKeep (tokens : List Token) (fuel : Nat) : ExpressionsKeep tokens fuel := by
  induction fuel with
  | zero =>
      constructor
      case assignment | unary | primary | listRest => exact .throw trivial
      case tier | listAfter | callRest | tierRest => intros; exact .throw trivial
  | succ fuel keep =>
      exact
        { assignment := keeps_assignment_succ keep
          tier := keeps_tier_succ keep
          tierRest := keeps_tierRest_succ keep
          unary := keeps_unary_succ keep
          callRest := keeps_callRest_succ keep
          primary := keeps_primary_succ keep
          listAfter := keeps_listAfter_succ keep
          listRest := keeps_listRest_succ keep }

theorem keeps_expression : (guard tokens).Keeps (Expr.DrawnFrom tokens) expression :=
  fun cursor => (expressionsKeep tokens _).assignment cursor

end Expressions

section Statements

theorem keep_types (fuel : Nat) :
    (guard tokens).Keeps (fun _ => True) (typeWithin fuel) ∧
      (guard tokens).Keeps (fun _ => True) (typesWithin fuel) := by
  induction fuel with
  | zero => exact ⟨.throw trivial, .throw trivial⟩
  | succ fuel keep =>
      obtain ⟨keepType, keepTypes⟩ := keep
      constructor
      · refine (keeps_acceptWhere? _).bind fun found _ => ?_
        cases found with
        | some simple => exact .pure trivial
        | none =>
            refine (keeps_accept? _).bind fun found known => ?_
            cases found with
            | none => exact keeps_failAfter _
            | some opening =>
                refine (keeps_accept? _).bind fun found _ => ?_
                cases found with
                | some closing => exact .pure trivial
                | none =>
                    refine keepType.bind fun _ _ => keepTypes.bind fun _ _ => ?_
                    refine (keeps_accept? _).bind fun found _ => ?_
                    cases found with
                    | some closing => exact .pure trivial
                    | none => exact keeps_fail _ (known opening rfl).1
      · refine (keeps_accept? _).bind fun found _ => ?_
        cases found with
        | none => exact .pure trivial
        | some comma => exact keepType.bind fun _ _ => keepTypes.bind fun _ _ => .pure trivial

theorem keeps_writtenType : (guard tokens).Keeps (fun _ => True) writtenType :=
  fun cursor => (keep_types _).1 cursor

theorem keeps_namesRest (fuel : Nat) :
    (guard tokens).Keeps (fun names => ∀ name ∈ names, name.IsNameOf tokens) (namesRest fuel) := by
  induction fuel with
  | zero => exact .throw trivial
  | succ fuel keep =>
      refine (keeps_accept? _).bind fun found _ => ?_
      cases found with
      | none => exact .pure (by simp)
      | some comma =>
          exact keeps_expectName.bind fun name isName => keep.bind fun names areNames =>
            .pure (List.forall_mem_cons.2 ⟨isName, areNames⟩)

theorem keeps_parameters :
    (guard tokens).Keeps (fun names => ∀ name ∈ names, name.IsNameOf tokens) parameters := by
  refine (keeps_expect _).bind fun _ _ => (keeps_nextIs _).bind fun isEmpty _ => ?_
  have closes : ∀ names : List Token, (∀ name ∈ names, name.IsNameOf tokens) →
      (guard tokens).Keeps (fun names => ∀ name ∈ names, name.IsNameOf tokens) (do
        let _ ← expect (.symbol .rightParen)
        return names) := fun names areNames =>
    (keeps_expect _).bind fun _ _ => .pure areNames
  cases isEmpty with
  | true => exact closes [] (by simp)
  | false =>
      refine keeps_expectName.bind fun first isName => .get fun _ _ => ?_
      refine (keeps_namesRest _).bind fun others areNames => ?_
      exact closes _ (List.forall_mem_cons.2 ⟨isName, areNames⟩)

/-- What follows the name of a `let` statement and its declared type, if it has one. -/
theorem keeps_initialized {name : Token} (isName : name.IsNameOf tokens)
    (declared : Option WrittenType) :
    (guard tokens).Keeps (Stmt.DrawnFrom tokens) (do
      match ← accept? (.symbol .equal) with
      | none => fail .missingInitializer name
      | some _ =>
          let initializer ← expression
          let _ ← expect (.symbol .semicolon)
          return .letValue name declared initializer) := by
  refine (keeps_accept? _).bind fun found _ => ?_
  cases found with
  | none => exact keeps_fail _ isName.1
  | some equals =>
      exact keeps_expression.bind fun initializer drawn =>
        (keeps_expect _).bind fun _ _ => .pure ⟨isName, drawn⟩

theorem keeps_letRest : (guard tokens).Keeps (Stmt.DrawnFrom tokens) letRest := by
  refine keeps_expectName.bind fun name isName => (keeps_accept? _).bind fun colon _ => ?_
  cases colon with
  | none => exact keeps_initialized isName none
  | some colon =>
      exact (keeps_writtenType.mono fun _ _ => trivial).map.bind fun declared (_ : True) =>
        keeps_initialized isName declared

theorem keeps_returnRest {keyword : Token} (member : keyword ∈ tokens) :
    (guard tokens).Keeps (Stmt.DrawnFrom tokens) (returnRest keyword) := by
  refine (keeps_nextIs _).bind fun isEmpty _ => ?_
  have closes : ∀ value : Option Expr, (∀ found ∈ value, found.DrawnFrom tokens) →
      (guard tokens).Keeps (Stmt.DrawnFrom tokens) (do
        let _ ← expect (.symbol .semicolon)
        return .giveBack keyword value) := fun value drawn =>
    (keeps_expect _).bind fun _ _ => .pure ⟨member, drawn⟩
  cases isEmpty with
  | true => exact closes none (by simp)
  | false =>
      have keeps : (guard tokens).Keeps (fun value => ∀ found ∈ value, Expr.DrawnFrom tokens found)
          (some <$> expression) := .map (keeps_expression.mono fun value drawn => by simpa using drawn)
      exact keeps.bind closes

theorem keeps_bounds : (guard tokens).Keeps (Bounds.DrawnFrom tokens) bounds := by
  refine keeps_expression.bind fun start drawnStart => (keeps_expect _).bind fun token known => ?_
  refine keeps_expression.bind fun second drawnSecond => (keeps_accept? _).bind fun found _ => ?_
  cases found with
  | none => exact .pure ⟨known.1, drawnStart, drawnSecond, by simp⟩
  | some dots =>
      refine keeps_expression.bind fun third drawnThird => .pure ⟨known.1, drawnStart, drawnThird, ?_⟩
      simpa using drawnSecond

theorem keeps_expressionStatement :
    (guard tokens).Keeps (Stmt.DrawnFrom tokens) expressionStatement :=
  keeps_expression.bind fun _ drawn => (keeps_expect _).bind fun _ _ => .pure drawn

/-- An item of a block over some tokens. -/
def Item.DrawnFrom (tokens : List Token) : Item → Prop
  | .statement stmt => stmt.DrawnFrom tokens
  | .tail value => value.DrawnFrom tokens

variable (tokens)

/-- The readers of statements make up no tokens. -/
structure StatementsKeep (fuel : Nat) : Prop where
  statement : (guard tokens).Keeps (Stmt.DrawnFrom tokens) (statementWithin fuel)
  conditional : (guard tokens).Keeps (Stmt.DrawnFrom tokens) (ifWithin fuel)
  block : (guard tokens).Keeps (Block.DrawnFrom tokens) (blockWithin fuel)
  items : (guard tokens).Keeps
    (fun items => Stmt.AreDrawnFrom tokens items.1 ∧ ∀ value ∈ items.2, value.DrawnFrom tokens)
    (itemsWithin fuel)
  item : (guard tokens).Keeps (Item.DrawnFrom tokens) (itemWithin fuel)

variable {tokens} {fuel : Nat}

theorem keeps_statement_succ (keep : StatementsKeep tokens fuel) :
    (guard tokens).Keeps (Stmt.DrawnFrom tokens) (statementWithin (fuel + 1)) := by
  refine keeps_nextKind?.bind fun kind _ => ?_
  split
  · exact (keeps_expect _).bind fun _ _ => keeps_letRest
  · refine (keeps_expect _).bind fun _ _ => keeps_expectName.bind fun name isName => ?_
    refine keeps_parameters.bind fun parameters areNames => keep.block.bind fun body drawn => ?_
    exact .pure ⟨isName, areNames, drawn⟩
  · exact keep.block.bind fun body drawn => .pure drawn
  · exact keep.conditional
  · refine (keeps_expect _).bind fun keyword known => keeps_expression.bind fun condition drawn => ?_
    exact keep.block.bind fun body drawnBody => .pure ⟨known.1, drawn, drawnBody⟩
  · refine (keeps_expect _).bind fun _ _ => keeps_expectName.bind fun name isName => ?_
    refine (keeps_expect _).bind fun _ _ => keeps_bounds.bind fun bounds drawn => ?_
    exact keep.block.bind fun body drawnBody => .pure ⟨isName, drawn, drawnBody⟩
  · exact (keeps_expect _).bind fun keyword known => keeps_returnRest known.1
  · exact keeps_expressionStatement

theorem keeps_if_succ (keep : StatementsKeep tokens fuel) :
    (guard tokens).Keeps (Stmt.DrawnFrom tokens) (ifWithin (fuel + 1)) := by
  refine (keeps_expect _).bind fun keyword known => keeps_expression.bind fun condition drawn => ?_
  refine keep.block.bind fun consequent drawnConsequent => (keeps_accept? _).bind fun found _ => ?_
  cases found with
  | none => exact .pure ⟨known.1, drawn, drawnConsequent⟩
  | some word =>
      refine (keeps_nextIs _).bind fun again _ => ?_
      cases again with
      | true =>
          exact keep.conditional.bind fun _ drawnOther =>
            .pure ⟨known.1, drawn, drawnConsequent, drawnOther⟩
      | false =>
          exact keep.block.bind fun _ drawnOther =>
            .pure ⟨known.1, drawn, drawnConsequent, drawnOther⟩

theorem keeps_block_succ (keep : StatementsKeep tokens fuel) :
    (guard tokens).Keeps (Block.DrawnFrom tokens) (blockWithin (fuel + 1)) := by
  refine (keeps_expect _).bind fun brace known => keep.items.bind fun items drawn => ?_
  refine (keeps_accept? _).bind fun found _ => ?_
  cases found with
  | none => exact keeps_fail _ known.1
  | some closing => exact .pure ⟨known.1, drawn⟩

theorem keeps_items_succ (keep : StatementsKeep tokens fuel) :
    (guard tokens).Keeps
      (fun items => Stmt.AreDrawnFrom tokens items.1 ∧ ∀ value ∈ items.2, value.DrawnFrom tokens)
      (itemsWithin (fuel + 1)) := by
  refine keeps_nextKind?.bind fun kind _ => ?_
  split
  · exact .pure ⟨trivial, by simp⟩
  · exact .pure ⟨trivial, by simp⟩
  · exact .pure ⟨trivial, by simp⟩
  · refine (keeps_attempt keep.item).bind fun found known => ?_
    match found with
    | none => exact keep.items
    | some (.tail value) =>
        have drawn : value.DrawnFrom tokens := known _ rfl
        exact .pure ⟨trivial, by simpa using drawn⟩
    | some (.statement stmt) =>
        have drawn : stmt.DrawnFrom tokens := known _ rfl
        exact keep.items.bind fun items drawnItems => .pure ⟨⟨drawn, drawnItems.1⟩, drawnItems.2⟩

theorem keeps_item_succ (keep : StatementsKeep tokens fuel) :
    (guard tokens).Keeps (Item.DrawnFrom tokens) (itemWithin (fuel + 1)) := by
  refine keeps_nextKind?.bind fun kind _ => ?_
  split
  · exact .map keep.statement
  · refine keeps_expression.bind fun value drawn => (keeps_nextIs _).bind fun closes _ => ?_
    cases closes with
    | true => exact .pure drawn
    | false => exact (keeps_expect _).bind fun _ _ => .pure drawn

theorem statementsKeep (tokens : List Token) (fuel : Nat) : StatementsKeep tokens fuel := by
  induction fuel with
  | zero => constructor <;> exact .throw trivial
  | succ fuel keep =>
      exact
        { statement := keeps_statement_succ keep
          conditional := keeps_if_succ keep
          block := keeps_block_succ keep
          items := keeps_items_succ keep
          item := keeps_item_succ keep }

theorem keeps_statements (fuel : Nat) :
    (guard tokens).Keeps (Stmt.AreDrawnFrom tokens) (statements fuel) := by
  induction fuel with
  | zero => exact .throw trivial
  | succ fuel keep =>
      have keepStatement : (guard tokens).Keeps (Stmt.DrawnFrom tokens) statement :=
        fun cursor => (statementsKeep tokens _).statement cursor
      refine keeps_nextKind?.bind fun kind _ => ?_
      split
      · exact .pure trivial
      · exact .pure trivial
      · refine (keeps_attempt keepStatement).bind fun found known => ?_
        cases found with
        | none => exact keep
        | some first => exact keep.bind fun others drawn => .pure ⟨known first rfl, drawn⟩

end Statements

end Reader

/-- A program is drawn from the tokens it is read from, and so are the faults for which it
is refused. -/
theorem Program.read_drawnFrom (tokens : List Token) :
    match Program.read tokens with
    | .ok program => Stmt.AreDrawnFrom tokens program
    | .error rejection => ∀ diagnostic ∈ rejection.diagnostics, diagnostic.DrawnFrom tokens := by
  cases tokens with
  | nil => exact trivial
  | cons first rest =>
      have start : Reader.Cursor.DrawnFrom (first :: rest)
          { previous := first, rest := first :: rest } :=
        ⟨List.mem_cons_self, fun _ member => member, by simp⟩
      have ended := Reader.keeps_statements ((first :: rest).length + 1) _ start
      rw [Program.read]
      cases equation : Reader.statements ((first :: rest).length + 1)
          { previous := first, rest := first :: rest } with
      | ok program cursor =>
          rw [equation] at ended
          dsimp only
          cases cursor.diagnostics.isEmpty with
          | true => exact ended.1
          | false => exact ended.2.diagnostics
      | error stop cursor =>
          rw [equation] at ended
          exact ended.2.diagnostics

end CheckedScript
