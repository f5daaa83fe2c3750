import CheckedScript.Proofs.Moving.Computations
import CheckedScript.Proofs.Moving.Trees
import CheckedScript.Tree.Reader.Statement

/-!
# Reading moved tokens

Readers look at kinds, lexemes and constants only, and never at positions.  Reading
moved tokens gives the moved tree, and records the moved diagnostics.
-/

namespace CheckedScript

namespace Reader

variable (moved : Position → Position)

namespace Cursor

/-- A cursor with moved tokens. -/
def move (cursor : Cursor) : Cursor where
  previous := cursor.previous.move moved
  rest := cursor.rest.map (Token.move moved)
  diagnostics := cursor.diagnostics.map (Diagnostic.move moved)

theorem record_move (cursor : Cursor) (diagnostic : Diagnostic) :
    (cursor.move moved).record (diagnostic.move moved) = (cursor.record diagnostic).move moved := by
  simp [record, move]

theorem advance_move (cursor : Cursor) :
    (cursor.move moved).advance = cursor.advance.move moved := by
  obtain ⟨previous, rest, diagnostics⟩ := cursor
  cases rest <;> rfl

theorem skip_move (cursor : Cursor) : (cursor.move moved).skip = cursor.skip.move moved := by
  have same : (cursor.move moved).rest.head?.any (·.kind = .endOfInput) =
      cursor.rest.head?.any (·.kind = .endOfInput) := by
    unfold move
    cases cursor.rest <;> rfl
  unfold skip
  rw [same, advance_move]
  split <;> rfl

theorem dropToBorder_move (previous : Token) (rest : List Token) :
    dropToBorder (previous.move moved) (rest.map (Token.move moved)) =
      ((dropToBorder previous rest).1.move moved,
        (dropToBorder previous rest).2.map (Token.move moved)) := by
  induction rest generalizing previous with
  | nil => rfl
  | cons token rest inductionHypothesis =>
      simp only [List.map_cons, dropToBorder, Token.kind_move, inductionHypothesis]
      split
      · rfl
      · split <;> rfl

theorem resume_move (before : Nat) (cursor : Cursor) :
    resume before (cursor.move moved) = (resume before cursor).move moved := by
  simp only [resume, move, dropToBorder_move, List.length_map]
  split
  · exact skip_move moved
      { cursor with
        previous := (dropToBorder cursor.previous cursor.rest).1
        rest := (dropToBorder cursor.previous cursor.rest).2 }
  · rfl

end Cursor

/-- A reason to stop with moved tokens. -/
def Stop.move : Stop → Stop
  | failed diagnostic => failed (diagnostic.move moved)
  | exhausted => exhausted

/-- All tokens are moved. -/
def motion : Motion Stop Cursor where
  stop := Stop.move moved
  state := Cursor.move moved
  admits _ := True

section Primitives

variable {α β : Type} {value : α → β}

theorem moves_exhausted : (motion moved).Moves value (throw .exhausted) (throw .exhausted) :=
  .throw rfl

theorem moves_fail (cause : Cause) (token : Token) :
    (motion moved).Moves value (fail cause token) (fail cause (token.move moved)) :=
  .throw rfl

theorem moves_failAfter (cause : Cause) :
    (motion moved).Moves value (failAfter cause) (failAfter cause) :=
  fun cursor admits => .get (moves_fail moved cause cursor.previous cursor admits)

theorem moves_nextKind? : (motion moved).Moves id nextKind? nextKind? := by
  rintro ⟨previous, rest, diagnostics⟩ admits
  refine .get (.pure admits ?_)
  cases rest <;> rfl

theorem moves_nextIs (kind : Kind) : (motion moved).Moves id (nextIs kind) (nextIs kind) :=
  (moves_nextKind? moved).bind fun _ => .pure rfl

theorem moves_acceptWhere? (choose : Kind → Option α) :
    (motion moved).Moves (Option.map (Prod.map id (Token.move moved))) (acceptWhere? choose)
      (acceptWhere? choose) := by
  rintro ⟨previous, rest, diagnostics⟩ admits
  refine .get ?_
  cases rest with
  | nil => exact .pure admits rfl
  | cons token rest =>
      simp only [motion, Cursor.move, List.map_cons, Token.kind_move]
      cases choose token.kind with
      | none => exact .pure trivial rfl
      | some chosen =>
          refine Motion.Carries.bind (.set trivial rfl) fun _ _ _ _ => ?_
          exact .pure trivial rfl

theorem moves_accept? (kind : Kind) :
    (motion moved).Moves (Option.map (Token.move moved)) (accept? kind) (accept? kind) := by
  refine (moves_acceptWhere? moved _).bind fun found => ?_
  cases found <;> exact .pure rfl

theorem moves_expect (kind : Kind) :
    (motion moved).Moves (Token.move moved) (expect kind) (expect kind) := by
  refine (moves_accept? moved kind).bind fun found => ?_
  cases found with
  | none => exact moves_failAfter moved _
  | some token => exact .pure rfl

theorem moves_expectName : (motion moved).Moves (Token.move moved) expectName expectName := by
  refine (moves_accept? moved .identifier).bind fun found => ?_
  cases found with
  | none => exact moves_failAfter moved _
  | some token => exact .pure rfl

theorem moves_attempt {first : Reader α} {second : Reader β}
    (moves : (motion moved).Moves value first second) :
    (motion moved).Moves (Option.map value) (attempt first) (attempt second) := by
  intro cursor admits
  have carries := moves cursor admits
  unfold Motion.Carries at carries ⊢
  unfold attempt
  match equation : first cursor with
  | .ok found after =>
      rw [equation] at carries
      rw [carries.1]
      exact ⟨rfl, trivial⟩
  | .error (.failed diagnostic) after =>
      rw [equation] at carries
      rw [carries.1]
      refine ⟨?_, trivial⟩
      simp only [motion, Stop.move, Cursor.record_move, Cursor.resume_move]
      simp [Cursor.move]
  | .error .exhausted after =>
      rw [equation] at carries
      rw [carries.1]
      exact ⟨rfl, trivial⟩

theorem constant?_move (token : Token) : constant? (token.move moved) = constant? token := by
  simp [constant?]

theorem moves_literal? :
    (motion moved).Moves (Option.map (Expr.move moved)) literal? literal? := by
  rintro ⟨previous, rest, diagnostics⟩ admits
  refine .get ?_
  cases rest with
  | nil => exact .pure admits rfl
  | cons token rest =>
      simp only [motion, Cursor.move, List.map_cons, constant?_move]
      cases constant? token with
      | none => exact .pure trivial rfl
      | some chosen =>
          refine Motion.Carries.bind (.set trivial rfl) fun _ _ _ _ => ?_
          exact .pure trivial rfl

end Primitives

theorem parenthesized_move (items : List Expr) :
    parenthesized (items.map (Expr.move moved)) = (parenthesized items).move moved := by
  match items with
  | [] => rfl
  | [item] => rfl
  | first :: second :: items => simp [parenthesized, Expr.move]

theorem apply_move (operator : InnerOperator) (token : Token) (left right : Expr) :
    operator.apply (token.move moved) (left.move moved) (right.move moved) =
      (operator.apply token left right).move moved := by
  cases operator <;> rfl

/-- The readers of expressions with a bound on their nesting. -/
structure ExpressionsMove (fuel : Nat) : Prop where
  assignment : (motion moved).Moves (Expr.move moved) (assignment fuel) (assignment fuel)
  tier : ∀ levels, (motion moved).Moves (Expr.move moved) (tier fuel levels) (tier fuel levels)
  tierRest : ∀ level tighter left,
    (motion moved).Moves (Expr.move moved) (tierRest fuel level tighter left)
      (tierRest fuel level tighter (left.move moved))
  unary : (motion moved).Moves (Expr.move moved) (unary fuel) (unary fuel)
  callRest : ∀ callee,
    (motion moved).Moves (Expr.move moved) (callRest fuel callee)
      (callRest fuel (callee.move moved))
  primary : (motion moved).Moves (Expr.move moved) (primary fuel) (primary fuel)
  listAfter : ∀ opening,
    (motion moved).Moves (Prod.map (List.map (Expr.move moved)) (Token.move moved))
      (listAfter fuel opening) (listAfter fuel (opening.move moved))
  listRest : (motion moved).Moves (List.map (Expr.move moved)) (listRest fuel) (listRest fuel)

namespace ExpressionsMove

variable {moved} {fuel : Nat}

theorem assignment_succ (all : ExpressionsMove moved fuel) :
    (motion moved).Moves (Expr.move moved) (Reader.assignment (fuel + 1))
      (Reader.assignment (fuel + 1)) := by
  rw [Reader.assignment]
  refine (all.tier tiers).bind fun target => ?_
  refine (moves_accept? moved _).bind fun equals => ?_
  cases equals with
  | none => exact .pure rfl
  | some equals =>
      refine all.assignment.bind fun value => ?_
      have recorded : (motion moved).Moves (Expr.move moved)
          (do
            modify fun cursor => cursor.record { cause := .invalidTarget, token := equals }
            return target)
          (do
            modify fun cursor =>
              cursor.record { cause := .invalidTarget, token := equals.move moved }
            return target.move moved) := by
        intro cursor admits
        refine (Motion.Carries.modify trivial ?_).bind fun _ _ _ _ => .pure trivial rfl
        exact Cursor.record_move moved cursor { cause := .invalidTarget, token := equals }
      cases target with
      | reference name => exact .pure rfl
      | literal _ _ | assign _ _ | unary _ _ _ | binary _ _ _ _ | logical _ _ _ _ | group _
      | tuple _ | call _ _ _ => exact recorded

theorem tier_succ (all : ExpressionsMove moved fuel) (levels : List Tier) :
    (motion moved).Moves (Expr.move moved) (Reader.tier (fuel + 1) levels)
      (Reader.tier (fuel + 1) levels) := by
  cases levels with
  | nil => exact all.unary
  | cons level tighter =>
      rw [Reader.tier]
      exact (all.tier tighter).bind fun left => all.tierRest level tighter left

theorem tierRest_succ (all : ExpressionsMove moved fuel) (level : Tier) (tighter : List Tier)
    (left : Expr) :
    (motion moved).Moves (Expr.move moved) (Reader.tierRest (fuel + 1) level tighter left)
      (Reader.tierRest (fuel + 1) level tighter (left.move moved)) := by
  rw [Reader.tierRest, Reader.tierRest]
  refine (moves_acceptWhere? moved level.operator?).bind fun found => ?_
  cases found with
  | none => exact .pure rfl
  | some found =>
      obtain ⟨operator, token⟩ := found
      refine (all.tier tighter).bind fun right => ?_
      simp only [id_eq, apply_move]
      exact all.tierRest level tighter _

theorem unary_succ (all : ExpressionsMove moved fuel) :
    (motion moved).Moves (Expr.move moved) (Reader.unary (fuel + 1)) (Reader.unary (fuel + 1)) := by
  rw [Reader.unary]
  refine (moves_acceptWhere? moved unaryOperator?).bind fun found => ?_
  cases found with
  | none => exact all.primary.bind fun callee => all.callRest callee
  | some found => exact all.unary.bind fun operand => .pure rfl

theorem callRest_succ (all : ExpressionsMove moved fuel) (callee : Expr) :
    (motion moved).Moves (Expr.move moved) (Reader.callRest (fuel + 1) callee)
      (Reader.callRest (fuel + 1) (callee.move moved)) := by
  rw [Reader.callRest, Reader.callRest]
  refine (moves_accept? moved _).bind fun found => ?_
  cases found with
  | none => exact .pure rfl
  | some opening =>
      refine (all.listAfter opening).bind fun ⟨arguments, closing⟩ => ?_
      have carried := all.callRest (.call callee closing arguments)
      rwa [Expr.move, Expr.moveAll_eq_map] at carried

theorem primary_succ (all : ExpressionsMove moved fuel) :
    (motion moved).Moves (Expr.move moved) (Reader.primary (fuel + 1))
      (Reader.primary (fuel + 1)) := by
  rw [Reader.primary]
  refine (moves_literal? moved).bind fun constant => ?_
  cases constant with
  | some constant => exact .pure rfl
  | none =>
      refine (moves_accept? moved _).bind fun name => ?_
      cases name with
      | some name => exact .pure rfl
      | none =>
          refine (moves_accept? moved _).bind fun opening => ?_
          cases opening with
          | none => exact moves_failAfter moved _
          | some opening =>
              exact (all.listAfter opening).bind fun ⟨items, _⟩ =>
                .pure (parenthesized_move moved items)

theorem listAfter_succ (all : ExpressionsMove moved fuel) (opening : Token) :
    (motion moved).Moves (Prod.map (List.map (Expr.move moved)) (Token.move moved))
      (Reader.listAfter (fuel + 1) opening) (Reader.listAfter (fuel + 1) (opening.move moved)) := by
  rw [Reader.listAfter, Reader.listAfter]
  refine (moves_accept? moved _).bind fun closing => ?_
  cases closing with
  | some closing => exact .pure rfl
  | none =>
      refine all.assignment.bind fun first => ?_
      refine all.listRest.bind fun others => ?_
      refine (moves_accept? moved _).bind fun closing => ?_
      cases closing with
      | some closing => exact .pure rfl
      | none => exact moves_fail moved _ opening

theorem listRest_succ (all : ExpressionsMove moved fuel) :
    (motion moved).Moves (List.map (Expr.move moved)) (Reader.listRest (fuel + 1))
      (Reader.listRest (fuel + 1)) := by
  rw [Reader.listRest]
  refine (moves_accept? moved _).bind fun comma => ?_
  cases comma with
  | none => exact .pure rfl
  | some _ =>
      refine all.assignment.bind fun item => ?_
      exact all.listRest.bind fun items => .pure rfl

end ExpressionsMove

theorem expressionsMove (fuel : Nat) : ExpressionsMove moved fuel := by
  induction fuel with
  | zero =>
      exact
        { assignment := moves_exhausted moved
          tier := fun _ => moves_exhausted moved
          tierRest := fun _ _ _ => moves_exhausted moved
          unary := moves_exhausted moved
          callRest := fun _ => moves_exhausted moved
          primary := moves_exhausted moved
          listAfter := fun _ => moves_exhausted moved
          listRest := moves_exhausted moved }
  | succ fuel all =>
      exact
        { assignment := all.assignment_succ
          tier := all.tier_succ
          tierRest := all.tierRest_succ
          unary := all.unary_succ
          callRest := all.callRest_succ
          primary := all.primary_succ
          listAfter := all.listAfter_succ
          listRest := all.listRest_succ }

theorem moves_expression : (motion moved).Moves (Expr.move moved) expression expression := by
  intro cursor admits
  have carries := (expressionsMove moved (nestingBound cursor.rest.length)).assignment cursor admits
  unfold Motion.Carries expression at *
  simpa [motion, Cursor.move] using carries

/-- A written type holds no tokens. -/
theorem moves_types (fuel : Nat) :
    (motion moved).Moves id (typeWithin fuel) (typeWithin fuel) ∧
      (motion moved).Moves id (typesWithin fuel) (typesWithin fuel) := by
  induction fuel with
  | zero => exact ⟨moves_exhausted moved, moves_exhausted moved⟩
  | succ fuel inductionHypothesis =>
      obtain ⟨type, types⟩ := inductionHypothesis
      constructor
      · rw [typeWithin]
        refine (moves_acceptWhere? moved simpleType?).bind fun simple => ?_
        cases simple with
        | some simple => exact .pure rfl
        | none =>
            refine (moves_accept? moved _).bind fun opening => ?_
            cases opening with
            | none => exact moves_failAfter moved _
            | some opening =>
                refine (moves_accept? moved _).bind fun closing => ?_
                cases closing with
                | some _ => exact .pure rfl
                | none =>
                    refine type.bind fun first => types.bind fun others => ?_
                    refine (moves_accept? moved _).bind fun closing => ?_
                    cases closing with
                    | some _ => exact .pure rfl
                    | none => exact moves_fail moved _ opening
      · rw [typesWithin]
        refine (moves_accept? moved _).bind fun comma => ?_
        cases comma with
        | none => exact .pure rfl
        | some _ => exact type.bind fun item => types.bind fun items => .pure rfl

theorem moves_writtenType : (motion moved).Moves id writtenType writtenType := by
  intro cursor admits
  have carries := (moves_types moved (nestingBound cursor.rest.length)).1 cursor admits
  unfold Motion.Carries writtenType at *
  simpa [motion, Cursor.move] using carries

theorem moves_namesRest (fuel : Nat) :
    (motion moved).Moves (List.map (Token.move moved)) (namesRest fuel) (namesRest fuel) := by
  induction fuel with
  | zero => exact moves_exhausted moved
  | succ fuel inductionHypothesis =>
      rw [namesRest]
      refine (moves_accept? moved _).bind fun comma => ?_
      cases comma with
      | none => exact .pure rfl
      | some _ =>
          refine (moves_expectName moved).bind fun name => ?_
          exact inductionHypothesis.bind fun names => .pure rfl

theorem moves_parameters :
    (motion moved).Moves (List.map (Token.move moved)) parameters parameters := by
  refine (moves_expect moved _).bind fun _ => ?_
  refine (moves_nextIs moved _).bind fun closes => ?_
  cases closes with
  | true => exact (moves_expect moved _).bind fun _ => .pure rfl
  | false =>
      simp only [id_eq, Bool.false_eq_true, if_false, pure_bind]
      refine (moves_expectName moved).bind fun first cursor admits => Motion.Carries.get ?_
      rw [show ((motion moved).state cursor).rest.length = cursor.rest.length from List.length_map _]
      refine (moves_namesRest moved _).bind (fun others => ?_) cursor admits
      exact (moves_expect moved _).bind fun _ => .pure rfl

/-- The rest of a `let` statement behind its declared type. -/
def initializerRest (name : Token) (declared : Option WrittenType) : Reader Stmt := do
  match ← accept? (.symbol .equal) with
  | none => fail .missingInitializer name
  | some _ =>
      let initializer ← expression
      let _ ← expect (.symbol .semicolon)
      return .letValue name declared initializer

theorem moves_initializerRest (name : Token) (declared : Option WrittenType) :
    (motion moved).Moves (Stmt.move moved) (initializerRest name declared)
      (initializerRest (name.move moved) declared) := by
  refine (moves_accept? moved _).bind fun equals => ?_
  cases equals with
  | none => exact moves_fail moved _ name
  | some _ =>
      refine (moves_expression moved).bind fun initializer => ?_
      exact (moves_expect moved _).bind fun _ => .pure rfl

theorem moves_letRest : (motion moved).Moves (Stmt.move moved) letRest letRest := by
  refine (moves_expectName moved).bind fun name => ?_
  refine (moves_accept? moved _).bind fun colon => ?_
  cases colon with
  | none => exact moves_initializerRest moved name none
  | some _ =>
      have written : (motion moved).Moves id (some <$> writtenType) (some <$> writtenType) :=
        (moves_writtenType moved).map fun _ => rfl
      exact written.bind (moves_initializerRest moved name)

theorem moves_returnRest (keyword : Token) :
    (motion moved).Moves (Stmt.move moved) (returnRest keyword)
      (returnRest (keyword.move moved)) := by
  refine (moves_nextIs moved _).bind fun ends => ?_
  cases ends with
  | true => exact (moves_expect moved _).bind fun _ => .pure rfl
  | false =>
      simp only [id_eq, Bool.false_eq_true, if_false]
      have given : (motion moved).Moves (Option.map (Expr.move moved)) (some <$> expression)
          (some <$> expression) := (moves_expression moved).map fun _ => rfl
      exact given.bind fun value => (moves_expect moved _).bind fun _ => .pure rfl

theorem moves_bounds : (motion moved).Moves (Bounds.move moved) bounds bounds := by
  refine (moves_expression moved).bind fun start => ?_
  refine (moves_expect moved _).bind fun token => ?_
  refine (moves_expression moved).bind fun second => ?_
  refine (moves_accept? moved _).bind fun dots => ?_
  cases dots with
  | none => exact .pure rfl
  | some _ => exact (moves_expression moved).bind fun third => .pure rfl

theorem moves_expressionStatement :
    (motion moved).Moves (Stmt.move moved) expressionStatement expressionStatement := by
  refine (moves_expression moved).bind fun value => ?_
  exact (moves_expect moved _).bind fun _ => .pure rfl

/-- What stands in a block, with moved tokens. -/
def Item.move : Item → Item
  | .statement found => .statement (found.move moved)
  | .tail value => .tail (value.move moved)

/-- The readers of statements with a bound on their nesting. -/
structure StatementsMove (fuel : Nat) : Prop where
  statement : (motion moved).Moves (Stmt.move moved) (statementWithin fuel) (statementWithin fuel)
  conditional : (motion moved).Moves (Stmt.move moved) (ifWithin fuel) (ifWithin fuel)
  block : (motion moved).Moves (Block.move moved) (blockWithin fuel) (blockWithin fuel)
  items : (motion moved).Moves
    (Prod.map (List.map (Stmt.move moved)) (Option.map (Expr.move moved))) (itemsWithin fuel)
    (itemsWithin fuel)
  item : (motion moved).Moves (Item.move moved) (itemWithin fuel) (itemWithin fuel)

namespace StatementsMove

variable {moved} {fuel : Nat}

theorem statement_succ (all : StatementsMove moved fuel) :
    (motion moved).Moves (Stmt.move moved) (statementWithin (fuel + 1))
      (statementWithin (fuel + 1)) := by
  rw [statementWithin]
  refine (moves_nextKind? moved).bind fun kind => ?_
  dsimp only [id_eq]
  split
  · exact (moves_expect moved _).bind fun _ => moves_letRest moved
  · refine (moves_expect moved _).bind fun _ => ?_
    refine (moves_expectName moved).bind fun name => ?_
    refine (moves_parameters moved).bind fun names => ?_
    exact all.block.bind fun body => .pure rfl
  · exact all.block.bind fun body => .pure rfl
  · exact all.conditional
  · refine (moves_expect moved _).bind fun keyword => ?_
    refine (moves_expression moved).bind fun condition => ?_
    exact all.block.bind fun body => .pure rfl
  · refine (moves_expect moved _).bind fun _ => ?_
    refine (moves_expectName moved).bind fun name => ?_
    refine (moves_expect moved _).bind fun _ => ?_
    refine (moves_bounds moved).bind fun range => ?_
    exact all.block.bind fun body => .pure rfl
  · exact (moves_expect moved _).bind fun keyword => moves_returnRest moved keyword
  · exact moves_expressionStatement moved

theorem conditional_succ (all : StatementsMove moved fuel) :
    (motion moved).Moves (Stmt.move moved) (ifWithin (fuel + 1)) (ifWithin (fuel + 1)) := by
  rw [ifWithin]
  refine (moves_expect moved _).bind fun keyword => ?_
  refine (moves_expression moved).bind fun condition => ?_
  refine all.block.bind fun consequent => ?_
  refine (moves_accept? moved _).bind fun alternative => ?_
  cases alternative with
  | none => exact .pure rfl
  | some _ =>
      refine (moves_nextIs moved _).bind fun chained => ?_
      cases chained with
      | true => exact all.conditional.bind fun other => .pure rfl
      | false => exact all.block.bind fun other => .pure rfl

theorem block_succ (all : StatementsMove moved fuel) :
    (motion moved).Moves (Block.move moved) (blockWithin (fuel + 1)) (blockWithin (fuel + 1)) := by
  rw [blockWithin]
  refine (moves_expect moved _).bind fun brace => ?_
  refine all.items.bind fun ⟨statements, tail⟩ => ?_
  refine (moves_accept? moved _).bind fun closing => ?_
  cases closing with
  | none => exact moves_fail moved _ brace
  | some _ => exact .pure (by simp [Block.move])

theorem items_succ (all : StatementsMove moved fuel) :
    (motion moved).Moves (Prod.map (List.map (Stmt.move moved)) (Option.map (Expr.move moved)))
      (itemsWithin (fuel + 1)) (itemsWithin (fuel + 1)) := by
  rw [itemsWithin]
  refine (moves_nextKind? moved).bind fun kind => ?_
  dsimp only [id_eq]
  split
  · exact .pure rfl
  · exact .pure rfl
  · exact .pure rfl
  · refine (moves_attempt moved all.item).bind fun item => ?_
    match item with
    | none => exact all.items
    | some (.tail value) => exact .pure rfl
    | some (.statement statement) =>
        exact all.items.bind fun ⟨statements, tail⟩ => .pure rfl

theorem item_succ (all : StatementsMove moved fuel) :
    (motion moved).Moves (Item.move moved) (itemWithin (fuel + 1)) (itemWithin (fuel + 1)) := by
  rw [itemWithin]
  refine (moves_nextKind? moved).bind fun kind => ?_
  dsimp only [id_eq]
  split
  · exact all.statement.map fun _ => rfl
  · refine (moves_expression moved).bind fun value => ?_
    refine (moves_nextIs moved _).bind fun ends => ?_
    cases ends with
    | true => exact .pure rfl
    | false => exact (moves_expect moved _).bind fun _ => .pure rfl

end StatementsMove

theorem statementsMove (fuel : Nat) : StatementsMove moved fuel := by
  induction fuel with
  | zero =>
      exact
        { statement := moves_exhausted moved
          conditional := moves_exhausted moved
          block := moves_exhausted moved
          items := moves_exhausted moved
          item := moves_exhausted moved }
  | succ fuel all =>
      exact
        { statement := all.statement_succ
          conditional := all.conditional_succ
          block := all.block_succ
          items := all.items_succ
          item := all.item_succ }

theorem moves_statement : (motion moved).Moves (Stmt.move moved) statement statement := by
  intro cursor admits
  have carries := (statementsMove moved (nestingBound cursor.rest.length)).statement cursor admits
  unfold Motion.Carries statement at *
  simpa [motion, Cursor.move] using carries

theorem moves_statements (fuel : Nat) :
    (motion moved).Moves (List.map (Stmt.move moved)) (statements fuel) (statements fuel) := by
  induction fuel with
  | zero => exact moves_exhausted moved
  | succ fuel inductionHypothesis =>
      rw [statements]
      refine (moves_nextKind? moved).bind fun kind => ?_
      dsimp only [id_eq]
      split
      · exact .pure rfl
      · exact .pure rfl
      · refine (moves_attempt moved (moves_statement moved)).bind fun first => ?_
        cases first with
        | none => exact inductionHypothesis
        | some first => exact inductionHypothesis.bind fun others => .pure rfl

end Reader

/-- A program with moved tokens. -/
def Program.move (moved : Position → Position) (program : Program) : Program :=
  program.map (Stmt.move moved)

/-- Moved tokens are read as the moved program, or refused with the moved faults. -/
theorem Program.read_move (moved : Position → Position) (tokens : List Token) :
    Program.read (tokens.map (Token.move moved)) =
      match Program.read tokens with
      | .ok program => .ok (program.move moved)
      | .error rejection => .error (rejection.move moved) := by
  cases tokens with
  | nil => rfl
  | cons first rest =>
      rw [Program.read, List.map_cons, Program.read, List.length_cons, List.length_cons,
        List.length_map]
      generalize rest.length + 1 + 1 = fuel
      have carries := Reader.moves_statements moved fuel
        { previous := first, rest := first :: rest } trivial
      unfold Motion.Carries at carries
      match equation : Reader.statements fuel { previous := first, rest := first :: rest } with
      | .ok program cursor =>
          rw [equation] at carries
          have same : Reader.statements fuel
              { previous := first.move moved
                rest := first.move moved :: rest.map (Token.move moved) } =
              .ok (program.map (Stmt.move moved)) (cursor.move moved) := carries.1
          rw [same]
          cases clean : cursor.diagnostics with
          | nil => simp [Reader.Cursor.move, clean, Program.move]
          | cons diagnostic diagnostics => simp [Reader.Cursor.move, clean, Rejection.move]
      | .error stop cursor =>
          rw [equation] at carries
          have same : Reader.statements fuel
              { previous := first.move moved
                rest := first.move moved :: rest.map (Token.move moved) } =
              .error (stop.move moved) (cursor.move moved) := carries.1
          rw [same]
          rfl

end CheckedScript
