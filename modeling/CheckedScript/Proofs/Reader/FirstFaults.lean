import CheckedScript.Proofs.Reader.Endings

/-!
# The first fault

A fault is the first one if nothing but invalid targets has been recorded when it ends a visit.
Where reading records anything else, there is a first fault, and it is where reading without
recovery stops.
-/

namespace CheckedScript

namespace Reader

variable {α β : Type}

/-- A visit ends with a fault, and nothing but invalid targets has been recorded before. -/
def FirstFault (tokens : List Token) (diagnostic : Diagnostic) (after : Cursor) : Prop :=
  ∃ visit, Visited tokens visit ∧ visit.result = .error (.failed diagnostic) after ∧ Clean after

section Stopping

theorem Task.grows (task : Task) (mode : Recovery) (fuel : Nat) :
    Grows (task.readerBy mode fuel) := by
  cases task with
  | statements => exact .statements mode fuel
  | statement => exact .statement mode fuel
  | conditional => exact .conditional mode fuel
  | block => exact .block mode fuel
  | items => exact .items mode fuel
  | item => exact .item mode fuel
  | assignment => exact .of_local (localExpressions fuel fuel).assignment
  | tier levels => exact .of_local ((localExpressions fuel fuel).tier levels)
  | tierRest level tighter left =>
      exact .of_local ((localExpressions fuel fuel).tierRest level tighter left)
  | unary => exact .of_local (localExpressions fuel fuel).unary
  | callRest callee => exact .of_local ((localExpressions fuel fuel).callRest callee)
  | primary => exact .of_local (localExpressions fuel fuel).primary
  | listAfter opening => exact .of_local ((localExpressions fuel fuel).listAfter opening)
  | listRest => exact .of_local (localExpressions fuel fuel).listRest

/-- A visit that ends with nothing but invalid targets recorded ends in the same way without
recovery. -/
theorem Visit.agree {visit : Visit} {outcome : Except Cause visit.task.Value} {last : Cursor}
    (finishes : Finishes visit.result outcome last) (clean : Clean last) :
    visit.task.readerBy .stopping visit.fuel visit.cursor = visit.result := by
  obtain ⟨fuel, cursor, task⟩ := visit
  rw [Visit.result, ← Task.readerBy_resuming] at finishes ⊢
  have follows := followsStatements fuel
  have reaches := statementReaches fuel
  cases task with
  | statements =>
      exact (statementsBy_follows fuel).agree (statementsBy_reaches fuel cursor) finishes clean
  | statement => exact follows.statement.agree (reaches.statement cursor) finishes clean
  | conditional => exact follows.conditional.agree (reaches.conditional cursor) finishes clean
  | block => exact follows.block.agree (reaches.block cursor) finishes clean
  | items => exact follows.items.agree (reaches.items cursor) finishes clean
  | item => exact follows.item.agree (item_reaches fuel cursor) finishes clean
  | _ => rfl

/-- Reading without recovery stops where a visit stops without recovery. -/
theorem Visited.stops {tokens : List Token} {visit : Visit} (visited : Visited tokens visit)
    {diagnostic : Diagnostic} {after : Cursor} (clean : Clean after)
    (failed : visit.task.readerBy .stopping visit.fuel visit.cursor =
      .error (.failed diagnostic) after) :
    ∃ first rest, tokens = first :: rest ∧
      statementsBy .stopping (tokens.length + 1) ⟨first, tokens, []⟩ =
        .error (.failed diagnostic) after := by
  induction visited with
  | @start first rest => exact ⟨first, rest, rfl, failed⟩
  | @call _ visit called visited calls inductionHypothesis =>
      have grown := called.task.grows .stopping called.fuel _ _ _ (.of_failed failed)
      have cleanBefore : Clean called.cursor :=
        fun diagnostic member => clean diagnostic (grown.subset member)
      exact inductionHypothesis ((calls.leads .stopping fun _ => cleanBefore).fails failed)

/-- At the first fault, reading without recovery stops. -/
theorem FirstFault.stops {tokens : List Token} {diagnostic : Diagnostic} {after : Cursor}
    (fault : FirstFault tokens diagnostic after) :
    ∃ first rest, tokens = first :: rest ∧
      statementsBy .stopping (tokens.length + 1) ⟨first, tokens, []⟩ =
        .error (.failed diagnostic) after := by
  obtain ⟨visit, visited, failed, clean⟩ := fault
  exact visited.stops clean ((Visit.agree (.of_failed failed) clean).trans failed)

end Stopping

/-- A run that begins with nothing but invalid targets recorded ends so, unless there is a first
fault. -/
def Traced (tokens : List Token) (reader : Reader α) (cursor : Cursor) : Prop :=
  Clean cursor → ∀ outcome last, Finishes (reader cursor) outcome last →
    Clean last ∨ ∃ diagnostic after, FirstFault tokens diagnostic after

namespace Traced

variable {tokens : List Token} {cursor : Cursor}

/-- A reader that records nothing but invalid targets. -/
theorem ofReaches {reader : Reader α} {phrase : List Token → Prop}
    (reaches : Reaches cursor phrase (reader cursor)) : Traced tokens reader cursor := by
  intro clean outcome last finishes
  have noted : Noted cursor last := by
    generalize reader cursor = result at reaches finishes
    cases finishes with
    | ok => exact reaches.1
    | failed => exact reaches.1
  obtain ⟨new, recorded, targets⟩ := noted
  refine .inl fun diagnostic member => ?_
  rw [recorded, List.mem_append] at member
  exact member.elim (clean diagnostic) (targets diagnostic)

theorem ofQuiet {reader : Reader α} (reaches : Reaches cursor (fun _ => True) (reader cursor)) :
    Traced tokens reader cursor :=
  ofReaches reaches

theorem pure (value : α) : Traced tokens (Pure.pure value : Reader α) cursor :=
  ofQuiet (.pure trivial)

theorem expect (kind : Kind) : Traced tokens (Reader.expect kind) cursor := by
  rw [← bind_pure (Reader.expect kind)]
  exact ofQuiet (.expect ⟨[], trivial⟩ fun _ _ _ => .pure trivial)

theorem expectName : Traced tokens Reader.expectName cursor := by
  rw [← bind_pure Reader.expectName]
  exact ofQuiet (.expectName ⟨[], trivial⟩ fun _ _ _ => .pure trivial)

theorem accept? (kind : Kind) : Traced tokens (Reader.accept? kind) cursor := by
  rw [← bind_pure (Reader.accept? kind)]
  exact ofQuiet (.accept? (fun _ _ _ => .pure trivial) (.pure trivial))

theorem expression : Traced tokens Reader.expression cursor :=
  ofReaches (expression_reaches cursor)

theorem nextKind? {next : Option Kind → Reader β}
    (traced : Traced tokens (next (cursor.rest.head?.map (·.kind))) cursor) :
    Traced tokens (Reader.nextKind? >>= next) cursor :=
  traced

theorem nextIs {kind : Kind} {next : Bool → Reader β}
    (traced : Traced tokens (next (decide (cursor.rest.head?.map (·.kind) = some kind))) cursor) :
    Traced tokens (Reader.nextIs kind >>= next) cursor :=
  traced

theorem bind {first : Reader α} {next : α → Reader β} (traced : Traced tokens first cursor)
    (continues : ∀ value middle, first cursor = .ok value middle →
      Traced tokens (next value) middle) : Traced tokens (first >>= next) cursor := by
  intro clean outcome last finishes
  rcases finishes.bind_cases with ⟨value, middle, returns, finishes⟩ | ⟨cause, rfl, failed⟩
  · rcases traced clean _ _ returns with cleanMiddle | fault
    · generalize shape : first cursor = result at returns
      cases returns
      exact continues value middle shape cleanMiddle _ _ finishes
    · exact .inr fault
  · exact traced clean _ _ failed

theorem map {reader : Reader α} {change : α → β} (traced : Traced tokens reader cursor) :
    Traced tokens (change <$> reader) cursor := by
  rw [← bind_pure_comp]
  exact traced.bind fun _ _ _ => .pure _

/-- The reader of a visit may be attempted, since its first fault is a first fault. -/
theorem attempt {reader : Reader α} (traced : Traced tokens reader cursor)
    (raised : ∀ diagnostic after, reader cursor = .error (.failed diagnostic) after → Clean after →
      FirstFault tokens diagnostic after) : Traced tokens (Reader.attempt reader) cursor := by
  intro clean outcome last finishes
  rw [Reader.attempt] at finishes
  cases shape : reader cursor with
  | ok value after =>
      rw [shape] at finishes
      cases finishes
      exact traced clean _ _ (.of_ok shape)
  | error stop after =>
      rw [shape] at finishes
      cases stop with
      | exhausted => cases finishes
      | failed diagnostic =>
          rcases traced clean _ _ (.of_failed shape) with cleanAfter | fault
          · exact .inr ⟨diagnostic, after, raised diagnostic after shape cleanAfter⟩
          · exact .inr fault

end Traced

theorem Cursor.Opens.of_head {cursor : Cursor} {kind : Kind}
    (head : cursor.rest.head?.map (·.kind) = some kind) :
    ∃ token rest, cursor.Opens kind token rest := by
  obtain ⟨token, rest, split, same⟩ := Cursor.exists_cons_of_head head
  exact ⟨token, rest, split, same⟩

theorem Cursor.Opens.of_accept? {cursor middle : Cursor} {kind : Kind} {token : Token}
    (accepted : Reader.accept? kind cursor = .ok (some token) middle) :
    ∃ rest, cursor.Opens kind token rest ∧ middle = cursor.past token rest := by
  rcases accept?_apply kind cursor with ⟨first, rest, split, same, equation⟩ | ⟨_, equation⟩
  · cases equation.symm.trans accepted
    exact ⟨rest, ⟨split, same⟩, rfl⟩
  · cases equation.symm.trans accepted

theorem Cursor.Opens.of_expect {cursor middle : Cursor} {kind : Kind} {token : Token}
    (returns : Reader.expect kind cursor = .ok token middle) :
    ∃ rest, cursor.Opens kind token rest ∧ middle = cursor.past token rest := by
  rw [Reader.expect] at returns
  obtain ⟨found, between, accepted, returns⟩ := bind_eq_ok returns
  cases found with
  | none => cases returns
  | some token =>
      cases returns
      exact of_accept? accepted

/-- The readers of statements, where they are visited. -/
structure TracedStatements (tokens : List Token) (fuel : Nat) : Prop where
  statement : ∀ cursor, Visited tokens ⟨fuel, cursor, .statement⟩ →
    Traced tokens (statementWithin fuel) cursor
  conditional : ∀ cursor, Visited tokens ⟨fuel, cursor, .conditional⟩ →
    Traced tokens (ifWithin fuel) cursor
  block : ∀ cursor, Visited tokens ⟨fuel, cursor, .block⟩ → Traced tokens (blockWithin fuel) cursor
  items : ∀ cursor, Visited tokens ⟨fuel, cursor, .items⟩ → Traced tokens (itemsWithin fuel) cursor
  item : ∀ cursor, Visited tokens ⟨fuel, cursor, .item⟩ → Traced tokens (itemWithin fuel) cursor

namespace TracedStatements

variable {tokens : List Token} {fuel : Nat} {cursor : Cursor}

theorem statement_succ (traced : TracedStatements tokens fuel)
    (visited : Visited tokens ⟨fuel + 1, cursor, .statement⟩) :
    Traced tokens (statementWithin (fuel + 1)) cursor := by
  rw [statementWithin]
  refine .nextKind? ?_
  generalize shape : cursor.rest.head?.map (·.kind) = head
  split
  · refine (Traced.expect _).bind fun keyword middle returns => ?_
    obtain ⟨rest, opens, rfl⟩ := Cursor.Opens.of_expect returns
    exact .ofReaches (letRest_reaches _ opens.same)
  · refine (Traced.expect _).bind fun keyword middle returns => ?_
    obtain ⟨rest, opens, rfl⟩ := Cursor.Opens.of_expect returns
    refine Traced.expectName.bind fun name between named => ?_
    refine (Traced.ofReaches (parameters_reaches _)).bind fun names last listed => ?_
    have header : functionHeader (cursor.past keyword rest) = .ok (name, names) last := by
      rw [functionHeader, bind_apply, named]
      dsimp only
      rw [bind_apply, listed]
      rfl
    exact (traced.block _ (visited.call (.functionBody opens header))).bind fun _ _ _ => .pure _
  · obtain ⟨brace, rest, opens⟩ := Cursor.Opens.of_head shape
    exact (traced.block _ (visited.call (.block opens))).bind fun _ _ _ => .pure _
  · obtain ⟨keyword, rest, opens⟩ := Cursor.Opens.of_head shape
    exact traced.conditional _ (visited.call (.conditional opens))
  · refine (Traced.expect _).bind fun keyword middle returns => ?_
    obtain ⟨rest, opens, rfl⟩ := Cursor.Opens.of_expect returns
    refine Traced.expression.bind fun condition after tested => ?_
    exact (traced.block _ (visited.call (.whileBody opens tested))).bind fun _ _ _ => .pure _
  · refine (Traced.expect _).bind fun keyword middle returns => ?_
    obtain ⟨rest, opens, rfl⟩ := Cursor.Opens.of_expect returns
    refine Traced.expectName.bind fun name between named => ?_
    refine (Traced.expect _).bind fun word last isIn => ?_
    have header : forHeader (cursor.past keyword rest) = .ok name last := by
      rw [forHeader, bind_apply, named]
      dsimp only
      rw [bind_apply, isIn]
      rfl
    refine (Traced.ofReaches (bounds_reaches _)).bind fun range after bounded => ?_
    exact (traced.block _ (visited.call (.forBody opens header bounded))).bind fun _ _ _ => .pure _
  · refine (Traced.expect _).bind fun keyword middle returns => ?_
    obtain ⟨rest, opens, rfl⟩ := Cursor.Opens.of_expect returns
    exact .ofReaches (returnRest_reaches _ opens.same)
  · exact .ofReaches (expressionStatement_reaches cursor)

theorem conditional_succ (traced : TracedStatements tokens fuel)
    (visited : Visited tokens ⟨fuel + 1, cursor, .conditional⟩) :
    Traced tokens (ifWithin (fuel + 1)) cursor := by
  rw [ifWithin]
  refine (Traced.expect _).bind fun keyword middle returns => ?_
  obtain ⟨rest, opens, rfl⟩ := Cursor.Opens.of_expect returns
  refine Traced.expression.bind fun condition between tested => ?_
  refine (traced.block _ (visited.call (.ifConsequent opens tested))).bind fun consequent after held => ?_
  refine (Traced.accept? _).bind fun found last accepted => ?_
  cases found with
  | none => exact .pure _
  | some elseWord =>
      obtain ⟨later, isElse, rfl⟩ := Cursor.Opens.of_accept? accepted
      refine .nextIs ?_
      split
      · rename_i isIf
        obtain ⟨next, others, isIf⟩ := Cursor.Opens.of_head (of_decide_eq_true isIf)
        have called := visited.call (.elseConditional opens tested held isElse isIf)
        exact (traced.conditional _ called).bind fun _ _ _ => .pure _
      · rename_i noIf
        have called := visited.call (.elseBlock opens tested held isElse
          fun same => noIf (decide_eq_true same))
        exact (traced.block _ called).bind fun _ _ _ => .pure _

theorem block_succ (traced : TracedStatements tokens fuel)
    (visited : Visited tokens ⟨fuel + 1, cursor, .block⟩) :
    Traced tokens (blockWithin (fuel + 1)) cursor := by
  rw [blockWithin]
  refine (Traced.expect _).bind fun brace middle returns => ?_
  obtain ⟨rest, opens, rfl⟩ := Cursor.Opens.of_expect returns
  refine (traced.items _ (visited.call (.braces opens))).bind fun items after _ => ?_
  refine (Traced.accept? _).bind fun found last _ => ?_
  cases found with
  | none => exact .ofQuiet (.fail (by simp) ⟨[], trivial⟩)
  | some closing => exact .pure _

theorem items_succ (traced : TracedStatements tokens fuel)
    (visited : Visited tokens ⟨fuel + 1, cursor, .items⟩) :
    Traced tokens (itemsWithin (fuel + 1)) cursor := by
  rw [itemsWithin]
  refine .nextKind? ?_
  generalize shape : cursor.rest.head?.map (·.kind) = head
  split
  · exact .pure _
  · exact .pure _
  · exact .pure _
  · next kind noMarker noBrace =>
    obtain ⟨token, rest, opens⟩ := Cursor.Opens.of_head shape
    have noMarker : token.kind ≠ .endOfInput := fun same => noMarker (opens.same.symm.trans same)
    have noBrace : token.kind ≠ .symbol .rightBrace :=
      fun same => noBrace (opens.same.symm.trans same)
    have item := visited.call (.item opens.split noMarker noBrace)
    have attempted := (traced.item _ item).attempt fun diagnostic after failed clean =>
      ⟨_, item, failed, clean⟩
    refine attempted.bind fun found middle returns => ?_
    have items (noTail : ∀ value, found ≠ some (.tail value)) := traced.items _
      (visited.call (.otherItems opens.split noMarker noBrace returns noTail))
    cases found with
    | none => exact items fun _ same => by cases same
    | some item =>
        cases item with
        | tail value => exact .pure _
        | statement statement =>
            exact (items fun _ same => by cases same).bind fun _ _ _ => .pure _

theorem item_succ (traced : TracedStatements tokens fuel)
    (visited : Visited tokens ⟨fuel + 1, cursor, .item⟩) :
    Traced tokens (itemWithin (fuel + 1)) cursor := by
  rw [itemWithin]
  refine .nextKind? ?_
  split
  · next opens =>
    obtain ⟨kind, head, opens⟩ := (Option.any_eq_true _ _).1 opens
    obtain ⟨token, rest, shape⟩ := Cursor.Opens.of_head head
    exact (traced.statement _
      (visited.call (.itemStatement shape.split (shape.same ▸ opens)))).map
  · refine Traced.expression.bind fun value middle _ => .nextIs ?_
    split
    · exact .pure _
    · exact (Traced.expect _).bind fun _ _ _ => .pure _

end TracedStatements

theorem tracedStatements (tokens : List Token) (fuel : Nat) : TracedStatements tokens fuel := by
  induction fuel with
  | zero =>
      have exhausted {γ : Type} {cursor : Cursor} :
          Traced tokens (throw .exhausted : Reader γ) cursor := fun _ _ _ finishes => nomatch finishes
      exact ⟨fun _ _ => exhausted, fun _ _ => exhausted, fun _ _ => exhausted, fun _ _ => exhausted,
        fun _ _ => exhausted⟩
  | succ fuel traced =>
      exact
        { statement := fun _ => traced.statement_succ
          conditional := fun _ => traced.conditional_succ
          block := fun _ => traced.block_succ
          items := fun _ => traced.items_succ
          item := fun _ => traced.item_succ }

theorem statements_traced {tokens : List Token} (fuel : Nat) (cursor : Cursor)
    (visited : Visited tokens ⟨fuel, cursor, .statements⟩) :
    Traced tokens (statements fuel) cursor := by
  induction fuel generalizing cursor with
  | zero => exact fun _ _ _ finishes => nomatch finishes
  | succ fuel inductionHypothesis =>
      rw [statements]
      refine .nextKind? ?_
      generalize shape : cursor.rest.head?.map (·.kind) = head
      split
      · exact .pure _
      · exact .pure _
      · next kind noMarker =>
        obtain ⟨token, rest, opens⟩ := Cursor.Opens.of_head shape
        have noMarker : token.kind ≠ .endOfInput := fun same => noMarker (opens.same.symm.trans same)
        have first := visited.call (.first opens.split noMarker)
        have traced : Traced tokens statement cursor := by
          intro clean outcome last finishes
          rw [statement] at finishes
          exact (tracedStatements tokens _).statement _ first clean _ _ finishes
        have raised (diagnostic : Diagnostic) (after : Cursor)
            (failed : statement cursor = .error (.failed diagnostic) after) (clean : Clean after) :
            FirstFault tokens diagnostic after := by
          rw [statement] at failed
          exact ⟨_, first, failed, clean⟩
        refine (traced.attempt raised).bind fun found middle returns => ?_
        have others := inductionHypothesis middle
          (visited.call (.others opens.split noMarker returns))
        cases found with
        | none => exact others
        | some first => exact others.bind fun _ _ _ => .pure _

/-- Where a reading records anything but invalid targets, there is a first fault. -/
theorem exists_firstFault {tokens : List Token} {diagnostics : List Diagnostic}
    (ends : EndsWith tokens diagnostics) {diagnostic : Diagnostic} (member : diagnostic ∈ diagnostics)
    (proper : diagnostic.cause ≠ .invalidTarget) :
    ∃ diagnostic after, FirstFault tokens diagnostic after := by
  obtain ⟨first, rest, program, last, rfl, equation, rfl⟩ := ends
  rcases statements_traced _ _ .start (fun _ none => nomatch none) _ _ (.of_ok equation) with
    clean | fault
  · exact absurd (clean diagnostic member) proper
  · exact fault

end Reader

end CheckedScript
