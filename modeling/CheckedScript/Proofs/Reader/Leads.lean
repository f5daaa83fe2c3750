import CheckedScript.Proofs.Reader.StatementViability
import CheckedScript.Proofs.Reader.Visits

/-!
# A caller runs what it calls

In either mode, the run of a caller is the run of what it calls, where it is called, and then
something else, which takes back nothing that was recorded.  A call to a statement or to an item of
a block is an attempt.  Without recovery this holds as long as nothing but invalid targets has been
recorded, since only then have the readers before the call gone the same way.
-/

namespace CheckedScript

namespace Reader

variable {α β γ : Type}

/-- What was recorded before stays. -/
def Grows (reader : Reader α) : Prop :=
  ∀ (cursor : Cursor) (outcome : Except Cause α) (after : Cursor),
    Finishes (reader cursor) outcome after → cursor.diagnostics <+: after.diagnostics

namespace Grows

theorem of_local {consumes : Kind → Prop} {reader : Reader α}
    (isLocal : Local consumes reader reader) : Grows reader :=
  (Follows.ofLocal isLocal).grows

theorem pure (value : α) : Grows (Pure.pure value : Reader α) :=
  of_local (Local.pure value : Local Inner _ _)

theorem bind {first : Reader α} {next : α → Reader β} (grows : Grows first)
    (continues : ∀ value, Grows (next value)) : Grows (first >>= next) := by
  intro cursor outcome after finishes
  rcases finishes.bind_cases with ⟨value, middle, returns, finishes⟩ | ⟨cause, rfl, failed⟩
  · exact (grows _ _ _ returns).trans (continues value _ _ _ finishes)
  · exact grows _ _ _ failed

theorem expect (kind : Kind) : Grows (Reader.expect kind) :=
  of_local (Local.congruence.expect trivial : Local (fun _ => True) _ _)

theorem accept? (kind : Kind) : Grows (Reader.accept? kind) :=
  of_local (Local.congruence.accept? trivial : Local (fun _ => True) _ _)

theorem nextIs (kind : Kind) : Grows (Reader.nextIs kind) :=
  of_local (Local.nextIs kind : Local Inner _ _)

theorem expression : Grows Reader.expression :=
  of_local expression_local

/-- What an assignment does once its value has been read. -/
theorem assigned (target : Expr) (equals : Token) (value : Expr) :
    Grows (match target with
      | .reference name => Pure.pure (Expr.assign name value)
      | _ => do
          modify fun cursor => cursor.record { cause := .invalidTarget, token := equals }
          return target) := by
  split
  · exact .pure _
  · exact (of_local (Local.record _ : Local Inner _ _)).bind fun _ => .pure _

variable (mode : Recovery) (fuel : Nat)

theorem assignment : Grows (Reader.assignment fuel) :=
  of_local (localExpressions fuel fuel).assignment

theorem operators (level : Tier) (tighter : List Tier) (left : Expr) :
    Grows (Reader.tierRest fuel level tighter left) :=
  of_local ((localExpressions fuel fuel).tierRest level tighter left)

theorem calls (callee : Expr) : Grows (Reader.callRest fuel callee) :=
  of_local ((localExpressions fuel fuel).callRest callee)

theorem list : Grows (Reader.listRest fuel) :=
  of_local (localExpressions fuel fuel).listRest

theorem statement : Grows (statementBy mode fuel) := by
  cases mode with
  | resuming => exact (followsStatements fuel).statement.grows
  | stopping => exact of_local (localStatements fuel fuel).statement

theorem item : Grows (itemBy mode fuel) := by
  cases mode with
  | resuming => exact (followsStatements fuel).item.grows
  | stopping => exact of_local (localStatements fuel fuel).item

theorem block : Grows (blockBy mode fuel) := by
  cases mode with
  | resuming => exact (followsStatements fuel).block.grows
  | stopping => exact of_local (localStatements fuel fuel).block

theorem conditional : Grows (ifBy mode fuel) := by
  cases mode with
  | resuming => exact (followsStatements fuel).conditional.grows
  | stopping => exact of_local (localStatements fuel fuel).conditional

theorem items : Grows (itemsBy mode fuel) := by
  cases mode with
  | resuming => exact (followsStatements fuel).items.grows
  | stopping => exact of_local (localStatements fuel fuel).items

theorem statements : Grows (statementsBy mode fuel) := by
  cases mode with
  | resuming => exact (statementsBy_follows fuel).grows
  | stopping => exact of_local (statementsBy_local fuel fuel)

end Grows

/-- A run from a cursor is the run of another reader from where that is called, or an attempt at
it, and then something else. -/
inductive Leads (mode : Recovery) (outer : Reader α) (cursor : Cursor) (inner : Reader β)
    (middle : Cursor) : Prop
  | plain (next : β → Reader α) :
      (∀ value, Grows (next value)) → outer cursor = (inner >>= next) middle →
      Leads mode outer cursor inner middle
  | attempted (next : Option β → Reader α) :
      (∀ value, Grows (next value)) → outer cursor = (mode.attempt inner >>= next) middle →
      Leads mode outer cursor inner middle

theorem Recovery.attempt_congr {mode : Recovery} {reader other : Reader α} {cursor : Cursor}
    (same : reader cursor = other cursor) : mode.attempt reader cursor = mode.attempt other cursor := by
  cases mode with
  | resuming => rw [attempt, attempt, Reader.attempt, Reader.attempt, same]
  | stopping =>
      rw [attempt, attempt, ← bind_pure_comp, ← bind_pure_comp, bind_apply, bind_apply, same]

namespace Leads

variable {mode : Recovery} {cursor between middle : Cursor}

theorem whole (reader : Reader α) : Leads mode reader cursor reader cursor :=
  .plain Pure.pure .pure (by rw [bind_pure])

theorem first {inner : Reader β} {next : β → Reader α} (grows : ∀ value, Grows (next value)) :
    Leads mode (inner >>= next) cursor inner cursor :=
  .plain next grows rfl

theorem attempt {inner : Reader β} {next : Option β → Reader α}
    (grows : ∀ value, Grows (next value)) :
    Leads mode (mode.attempt inner >>= next) cursor inner cursor :=
  .attempted next grows rfl

/-- A reader that does the same from here as another one does from there. -/
theorem same {outer other : Reader α} {inner : Reader β} (equation : outer cursor = other between)
    (leads : Leads mode other between inner middle) : Leads mode outer cursor inner middle := by
  cases leads with
  | plain next grows continues => exact .plain next grows (equation.trans continues)
  | attempted next grows continues => exact .attempted next grows (equation.trans continues)

/-- A call behind a reader that returns. -/
theorem behind {first : Reader γ} {next : γ → Reader α} {inner : Reader β} {value : γ}
    (returns : first cursor = .ok value between)
    (leads : Leads mode (next value) between inner middle) :
    Leads mode (first >>= next) cursor inner middle :=
  .same (by rw [bind_apply, returns]) leads

/-- A call within a reader that another reader follows. -/
theorem bind {outer : Reader γ} {inner : Reader β} {next : γ → Reader α}
    (leads : Leads mode outer cursor inner middle) (grows : ∀ value, Grows (next value)) :
    Leads mode (outer >>= next) cursor inner middle := by
  cases leads with
  | plain continued growing same =>
      refine .plain (fun value => continued value >>= next) (fun value => (growing value).bind grows) ?_
      rw [← bind_assoc, bind_apply, same, bind_apply (inner >>= continued)]
  | attempted continued growing same =>
      refine .attempted (fun value => continued value >>= next)
        (fun value => (growing value).bind grows) ?_
      rw [← bind_assoc, bind_apply, same, bind_apply (mode.attempt inner >>= continued)]

theorem map {outer : Reader γ} {inner : Reader β} {change : γ → α}
    (leads : Leads mode outer cursor inner middle) :
    Leads mode (change <$> outer) cursor inner middle := by
  rw [← bind_pure_comp]
  exact leads.bind fun value => .pure _

theorem expression :
    Leads mode Reader.expression cursor (assignment (nestingBound cursor.rest.length)) cursor :=
  .plain Pure.pure .pure (by rw [bind_pure, Reader.expression])

end Leads

section Steps

variable {cursor : Cursor} {token : Token} {rest : List Token} {kind : Kind}

theorem Cursor.Opens.nextKind? (opens : cursor.Opens kind token rest) :
    Reader.nextKind? cursor = .ok (some kind) cursor := by
  rw [← opens.same]
  exact congrArg (fun tokens : List Token =>
    EStateM.Result.ok (tokens.head?.map (·.kind)) cursor) opens.split

theorem Cursor.Opens.head (opens : cursor.Opens kind token rest) :
    cursor.rest.head?.map (·.kind) = some kind := by
  rw [opens.split, List.head?_cons, Option.map_some, opens.same]

theorem Cursor.Opens.accept? (opens : cursor.Opens kind token rest) :
    Reader.accept? kind cursor = .ok (some token) (cursor.past token rest) := by
  rcases accept?_apply kind cursor with ⟨first, others, found, _, equation⟩ | ⟨other, _⟩
  · rw [opens.split] at found
    obtain ⟨rfl, rfl⟩ := List.cons.inj found
    exact equation
  · exact absurd opens.same (other token (by simp [opens.split]))

theorem Cursor.Opens.expect (opens : cursor.Opens kind token rest) :
    Reader.expect kind cursor = .ok token (cursor.past token rest) := by
  rw [Reader.expect, bind_apply, opens.accept?]
  rfl

theorem Cursor.Opens.nextIs (opens : cursor.Opens kind token rest) :
    Reader.nextIs kind cursor = .ok true cursor :=
  congrArg (EStateM.Result.ok · cursor) (decide_eq_true opens.head)

theorem nextIs_other (other : cursor.rest.head?.map (·.kind) ≠ some kind) :
    nextIs kind cursor = .ok false cursor :=
  congrArg (EStateM.Result.ok · cursor) (decide_eq_false other)

theorem accept?_other (other : ∀ token ∈ cursor.rest.head?, token.kind ≠ kind) :
    accept? kind cursor = .ok none cursor := by
  rcases accept?_apply kind cursor with ⟨first, others, found, same, _⟩ | ⟨_, equation⟩
  · exact absurd same (other first (by simp [found]))
  · exact equation

theorem acceptWhere?_some {choose : Kind → Option α} {chosen : α}
    (split : cursor.rest = token :: rest) (found : choose token.kind = some chosen) :
    acceptWhere? choose cursor = .ok (some (chosen, token)) (cursor.past token rest) := by
  rcases acceptWhere?_apply choose cursor with ⟨first, others, value, same, has, equation⟩ | ⟨other, _⟩
  · rw [split] at same
    obtain ⟨rfl, rfl⟩ := List.cons.inj same
    cases found.symm.trans has
    exact equation
  · have absent := other token (by simp [split])
    rw [found] at absent
    cases absent

theorem acceptWhere?_none {choose : Kind → Option α}
    (other : ∀ token ∈ cursor.rest.head?, choose token.kind = none) :
    acceptWhere? choose cursor = .ok none cursor := by
  rcases acceptWhere?_apply choose cursor with ⟨first, others, value, same, has, _⟩ | ⟨_, equation⟩
  · have absent := other first (by simp [same])
    rw [has] at absent
    cases absent
  · exact equation

theorem literal?_other (other : ∀ token ∈ cursor.rest.head?, constant? token = none) :
    literal? cursor = .ok none cursor := by
  rcases literal?_apply cursor with ⟨first, others, value, same, has, _⟩ | ⟨_, equation⟩
  · have absent := other first (by simp [same])
    rw [has] at absent
    cases absent
  · exact equation

end Steps

/-- Nothing but invalid targets has been recorded. -/
def Clean (cursor : Cursor) : Prop :=
  ∀ diagnostic ∈ cursor.diagnostics, diagnostic.cause = .invalidTarget

/-- A run with recovery that ends with nothing but invalid targets recorded is a run without. -/
theorem Follows.agree {stopping resuming : Reader α} {phrase : List Token → Prop}
    {outcome : Except Cause α} {cursor last : Cursor} (follows : Follows stopping resuming)
    (reaches : Reaches cursor phrase (stopping cursor))
    (finishes : Finishes (resuming cursor) outcome last) (clean : Clean last) :
    stopping cursor = resuming cursor := by
  refine follows.same finishes fun diagnostic after failed recorded => ?_
  rw [failed] at reaches
  exact reaches.2.1 (clean diagnostic (recorded.subset (by simp)))

theorem Follows.ok (readers : Recovery → Reader α) {phrase : List Token → Prop} {value : α}
    {cursor middle : Cursor} (follows : Follows (readers .stopping) (readers .resuming))
    (reaches : Reaches cursor phrase (readers .stopping cursor))
    (returns : readers .resuming cursor = .ok value middle) {mode : Recovery}
    (clean : mode = .stopping → Clean middle) : readers mode cursor = .ok value middle := by
  cases mode with
  | resuming => exact returns
  | stopping => exact (follows.agree reaches (.of_ok returns) (clean rfl)).trans returns

theorem item_reaches (fuel : Nat) (cursor : Cursor) :
    Reaches cursor (fun _ => True) (itemBy .stopping fuel cursor) := by
  rw [← bind_pure (itemBy .stopping fuel)]
  exact (statementReaches fuel).item _ _ cursor ⟨[], fun _ _ => trivial⟩
    (fun _ _ => .pure fun _ _ => trivial) fun _ _ => .pure fun _ _ => trivial

/-- The reader that carries out a task in a mode. -/
def Task.readerBy (mode : Recovery) : (task : Task) → Nat → Reader task.Value
  | statements => statementsBy mode
  | statement => statementBy mode
  | conditional => ifBy mode
  | block => blockBy mode
  | items => itemsBy mode
  | item => itemBy mode
  | assignment => Task.assignment.reader
  | tier levels => (Task.tier levels).reader
  | tierRest level tighter left => (Task.tierRest level tighter left).reader
  | unary => Task.unary.reader
  | callRest callee => (Task.callRest callee).reader
  | primary => Task.primary.reader
  | listAfter opening => (Task.listAfter opening).reader
  | listRest => Task.listRest.reader

theorem Task.readerBy_resuming (task : Task) (fuel : Nat) :
    task.readerBy .resuming fuel = task.reader fuel := by
  cases task with
  | statements => exact statementsBy_resuming fuel
  | statement => exact (resuming fuel).statement
  | conditional => exact (resuming fuel).conditional
  | block => exact (resuming fuel).block
  | items => exact (resuming fuel).items
  | item => exact (resuming fuel).item
  | _ => rfl

/-- The run of a caller is the run of what it calls, or an attempt at it, and then something
else. -/
def Visit.Leads (mode : Recovery) (caller callee : Visit) : Prop :=
  Reader.Leads mode (caller.task.readerBy mode caller.fuel) caller.cursor
    (callee.task.readerBy mode callee.fuel) callee.cursor

section Callers

variable {mode : Recovery} {fuel : Nat} {cursor : Cursor} {callee : Visit}

/-- Behind the header of a loop over numbers stand its bounds and its body. -/
theorem statementBy_for {middle : Cursor} {keyword name : Token} {rest : List Token}
    (opens : cursor.Opens (.keyword .forWord) keyword rest)
    (header : forHeader (cursor.past keyword rest) = .ok name middle) :
    statementBy mode (fuel + 1) cursor =
      (bounds >>= fun range => blockBy mode fuel >>= fun body =>
        pure (.forLoop name range body)) middle := by
  obtain ⟨_, between, named, header⟩ := bind_eq_ok header
  obtain ⟨word, _, isIn, ended⟩ := bind_eq_ok header
  cases ended
  rw [statementBy, bind_apply, opens.nextKind?]
  dsimp only
  rw [bind_apply, opens.expect]
  dsimp only
  rw [bind_apply, named]
  dsimp only
  rw [bind_apply, isIn]

/-- What opens no statement is the value of one. -/
theorem statementBy_value
    (other : ∀ token ∈ cursor.rest.head?, opensStatement token.kind = false) :
    statementBy mode (fuel + 1) cursor = expressionStatement cursor := by
  have closed : ∀ kind, cursor.rest.head?.map (·.kind) = some kind → opensStatement kind = false := by
    intro kind head
    obtain ⟨token, member, rfl⟩ := Option.map_eq_some_iff.1 head
    exact other token member
  rw [statementBy, nextKind?_bind]
  generalize cursor.rest.head?.map (·.kind) = head at closed
  split
  all_goals first
    | rfl
    | cases closed _ rfl

theorem statement_leads (calls : (⟨fuel + 1, cursor, .statement⟩ : Visit).Calls callee) :
    Visit.Leads mode ⟨fuel + 1, cursor, .statement⟩ callee := by
  change Leads mode (statementBy mode (fuel + 1)) cursor _ _
  have body (make : Block → Stmt) : Grows (make <$> blockBy mode fuel) := by
    rw [← bind_pure_comp]
    exact (Grows.block mode fuel).bind fun _ => .pure _
  cases calls with
  | initializer opens header =>
      rw [statementBy]
      refine .behind opens.nextKind? (.behind opens.expect ?_)
      rw [letRest_eq, letStem]
      refine .bind (.behind header ?_) fun _ => (Grows.expect _).bind fun _ => .pure _
      exact Leads.expression.bind fun _ => .pure _
  | functionBody opens header =>
      obtain ⟨name, between, named, header⟩ := bind_eq_ok header
      obtain ⟨names, last, listed, ended⟩ := bind_eq_ok header
      cases ended
      rw [statementBy]
      refine .behind opens.nextKind? (.behind opens.expect (.behind named (.behind listed ?_)))
      exact .first fun _ => .pure _
  | block opens =>
      rw [statementBy]
      exact .behind opens.nextKind? (.first fun _ => .pure _)
  | conditional opens =>
      rw [statementBy]
      exact .behind opens.nextKind? (.whole _)
  | whileCondition opens =>
      rw [statementBy]
      refine .behind opens.nextKind? (.behind opens.expect ?_)
      exact Leads.expression.bind fun _ => (Grows.block mode fuel).bind fun _ => .pure _
  | whileBody opens condition =>
      rw [statementBy]
      refine .behind opens.nextKind? (.behind opens.expect (.behind condition ?_))
      exact .first fun _ => .pure _
  | forStart opens header =>
      refine .same (statementBy_for opens header) (.bind ?_ fun _ => body _)
      rw [bounds]
      refine Leads.expression.bind fun _ => (Grows.expect _).bind fun _ => Grows.expression.bind fun _ => ?_
      refine (Grows.accept? _).bind fun found => ?_
      cases found with
      | none => exact .pure _
      | some _ => exact Grows.expression.bind fun _ => .pure _
  | forStop opens header start dots =>
      refine .same (statementBy_for opens header) (.bind ?_ fun _ => body _)
      rw [bounds]
      refine .behind start (.behind dots.expect (Leads.expression.bind fun _ => ?_))
      refine (Grows.accept? _).bind fun found => ?_
      cases found with
      | none => exact .pure _
      | some _ => exact Grows.expression.bind fun _ => .pure _
  | forLast opens header start dots stop more =>
      refine .same (statementBy_for opens header) (.bind ?_ fun _ => body _)
      rw [bounds]
      refine .behind start (.behind dots.expect (.behind stop (.behind more.accept? ?_)))
      exact Leads.expression.bind fun _ => .pure _
  | forBody opens header range =>
      exact .same (statementBy_for opens header) (.behind range (.first fun _ => .pure _))
  | returned opens value =>
      rw [statementBy]
      refine .behind opens.nextKind? (.behind opens.expect ?_)
      rw [returnRest_eq, returnStem]
      refine .bind ?_ fun _ => (Grows.expect _).bind fun _ => .pure _
      exact .behind (nextIs_other value)
        Leads.expression.map
  | value other =>
      refine .same (statementBy_value other) ?_
      exact Leads.expression.bind fun _ => (Grows.expect _).bind fun _ => .pure _

/-- What follows the block of a conditional only adds diagnostics. -/
theorem grows_alternative (keyword : Token) (condition : Expr) (consequent : Block)
    (found : Option Token) :
    Grows (match found with
      | none => pure (Stmt.ifThen keyword condition consequent)
      | some _ => do
          if ← nextIs (.keyword .ifWord) then
            return Stmt.ifElse keyword condition consequent (← ifBy mode fuel)
          else
            return Stmt.ifElse keyword condition consequent (.block (← blockBy mode fuel))) := by
  cases found with
  | none => exact .pure _
  | some _ =>
      refine (Grows.nextIs _).bind fun isIf => ?_
      cases isIf with
      | true => exact (Grows.conditional mode fuel).bind fun _ => .pure _
      | false => exact (Grows.block mode fuel).bind fun _ => .pure _

theorem conditional_leads (clean : mode = .stopping → Clean callee.cursor)
    (calls : (⟨fuel + 1, cursor, .conditional⟩ : Visit).Calls callee) :
    Visit.Leads mode ⟨fuel + 1, cursor, .conditional⟩ callee := by
  change Leads mode (ifBy mode (fuel + 1)) cursor _ _
  rw [ifBy]
  cases calls with
  | ifCondition opens =>
      refine .behind opens.expect (Leads.expression.bind fun _ => ?_)
      exact (Grows.block mode fuel).bind fun _ => (Grows.accept? _).bind fun _ =>
        grows_alternative _ _ _ _
  | ifConsequent opens condition =>
      refine .behind opens.expect (.behind condition (.first fun _ => ?_))
      exact (Grows.accept? _).bind fun _ => grows_alternative _ _ _ _
  | elseConditional opens condition consequent isElse isIf =>
      have consequent := Follows.ok (blockBy · fuel) (followsStatements fuel).block
        ((statementReaches fuel).block _) ((congrFun (resuming fuel).block _).trans consequent) clean
      refine .behind opens.expect (.behind condition (.behind consequent (.behind isElse.accept? ?_)))
      exact .behind isIf.nextIs
        (.first fun _ => .pure _)
  | elseBlock opens condition consequent isElse other =>
      have consequent := Follows.ok (blockBy · fuel) (followsStatements fuel).block
        ((statementReaches fuel).block _) ((congrFun (resuming fuel).block _).trans consequent) clean
      refine .behind opens.expect (.behind condition (.behind consequent (.behind isElse.accept? ?_)))
      exact .behind (nextIs_other other)
        (.first fun _ => .pure _)

theorem block_leads (calls : (⟨fuel + 1, cursor, .block⟩ : Visit).Calls callee) :
    Visit.Leads mode ⟨fuel + 1, cursor, .block⟩ callee := by
  change Leads mode (blockBy mode (fuel + 1)) cursor _ _
  rw [blockBy]
  cases calls with
  | braces opens =>
      refine .behind opens.expect (.first fun _ => (Grows.accept? _).bind fun found => ?_)
      cases found with
      | none => exact .of_local (Local.fail _ _ : Local Inner _ _)
      | some _ => exact .pure _

/-- What a block is read on with behind one of its items. -/
def itemsAfter (mode : Recovery) (fuel : Nat) : Option Item → Reader (List Stmt × Option Expr)
  | none => itemsBy mode fuel
  | some (.tail value) => pure ([], some value)
  | some (.statement statement) => do
      let (statements, tail) ← itemsBy mode fuel
      return (statement :: statements, tail)

theorem items_leads (clean : mode = .stopping → Clean callee.cursor)
    (calls : (⟨fuel + 1, cursor, .items⟩ : Visit).Calls callee) :
    Visit.Leads mode ⟨fuel + 1, cursor, .items⟩ callee := by
  change Leads mode (itemsBy mode (fuel + 1)) cursor _ _
  have present {token : Token} {rest : List Token} (split : cursor.rest = token :: rest)
      (noMarker : token.kind ≠ .endOfInput) (noBrace : token.kind ≠ .symbol .rightBrace) :
      itemsBy mode (fuel + 1) cursor =
        (mode.attempt (itemBy mode fuel) >>= itemsAfter mode fuel) cursor := by
    rw [itemsBy, nextKind?_bind]
    have head : cursor.rest.head?.map (·.kind) = some token.kind := by simp [split]
    generalize cursor.rest.head?.map (·.kind) = kind at head
    split
    · cases head
    · exact absurd (Option.some.inj head).symm noMarker
    · exact absurd (Option.some.inj head).symm noBrace
    · rfl
  cases calls with
  | item split noMarker noBrace =>
      refine .same (present split noMarker noBrace) (.attempt fun found => ?_)
      cases found with
      | none => exact .items mode fuel
      | some item =>
          cases item with
          | tail value => exact .pure _
          | statement statement => exact (Grows.items mode fuel).bind fun _ => .pure _
  | @otherItems _ _ _ _ _ found split noMarker noBrace attempted noTail =>
      have resumed : Reader.attempt (itemBy .resuming fuel) _ = .ok found _ :=
        (resuming fuel).item ▸ attempted
      have attempted := Follows.ok (fun mode => mode.attempt (itemBy mode fuel))
        (followsStatements fuel).item.attempt ((item_reaches fuel _).map some) resumed clean
      refine .same (present split noMarker noBrace) (.behind attempted ?_)
      cases found with
      | none => exact .whole _
      | some item =>
          cases item with
          | tail value => exact absurd rfl (noTail value)
          | statement statement => exact .first fun _ => .pure _

theorem item_leads (calls : (⟨fuel + 1, cursor, .item⟩ : Visit).Calls callee) :
    Visit.Leads mode ⟨fuel + 1, cursor, .item⟩ callee := by
  change Leads mode (itemBy mode (fuel + 1)) cursor _ _
  rw [itemBy]
  cases calls with
  | itemStatement split opens =>
      refine .same (nextKind?_bind _ _) ?_
      simp only [split, List.head?_cons, Option.map_some, Option.any_some, opens, if_true]
      exact Leads.map (.whole _)
  | itemValue other =>
      refine .same (nextKind?_bind _ _) ?_
      have noOpening : (cursor.rest.head?.map (·.kind)).any opensStatement = false := by
        cases shape : cursor.rest with
        | nil => rfl
        | cons token rest => simpa using other token (by simp [shape])
      simp only [noOpening]
      refine Leads.expression.bind fun value => (Grows.nextIs _).bind fun isTail => ?_
      cases isTail with
      | true => exact .pure _
      | false => exact (Grows.expect _).bind fun _ => .pure _

/-- What a program is read on with behind one of its statements. -/
def statementsAfter (mode : Recovery) (fuel : Nat) : Option Stmt → Reader (List Stmt)
  | none => statementsBy mode fuel
  | some first => return first :: (← statementsBy mode fuel)

theorem statements_leads (clean : mode = .stopping → Clean callee.cursor)
    (calls : (⟨fuel + 1, cursor, .statements⟩ : Visit).Calls callee) :
    Visit.Leads mode ⟨fuel + 1, cursor, .statements⟩ callee := by
  change Leads mode (statementsBy mode (fuel + 1)) cursor _ _
  -- The bound on the nesting of a statement is taken from the tokens that are left.
  let reads (mode : Recovery) : Reader Stmt := fun cursor =>
    statementBy mode (nestingBound cursor.rest.length) cursor
  have present {token : Token} {rest : List Token} (split : cursor.rest = token :: rest)
      (noMarker : token.kind ≠ .endOfInput) :
      statementsBy mode (fuel + 1) cursor =
        (mode.attempt (reads mode) >>= statementsAfter mode fuel) cursor := by
    rw [statementsBy, nextKind?_bind]
    have head : cursor.rest.head?.map (·.kind) = some token.kind := by simp [split]
    generalize cursor.rest.head?.map (·.kind) = kind at head
    split
    · cases head
    · exact absurd (Option.some.inj head).symm noMarker
    · rfl
  have grows (found : Option Stmt) : Grows (statementsAfter mode fuel found) := by
    cases found with
    | none => exact .statements mode fuel
    | some first => exact (Grows.statements mode fuel).bind fun _ => .pure _
  cases calls with
  | first split noMarker =>
      have alike : mode.attempt (reads mode) cursor =
          mode.attempt (statementBy mode (nestingBound cursor.rest.length)) cursor :=
        Recovery.attempt_congr rfl
      refine .attempted _ grows ((present split noMarker).trans ?_)
      rw [bind_apply, alike]
      exact (bind_apply _ _ _).symm
  | @others _ _ _ _ _ found split noMarker attempted =>
      have follows : Follows (some <$> reads .stopping) (attempt (reads .resuming)) :=
        .attempt (.measured fun fuel => (followsStatements fuel).statement)
      have reaches : Reaches cursor Grammar.Loose.Statement (reads .stopping cursor) :=
        (statementReaches _).statement cursor
      have attempted := Follows.ok (fun mode => mode.attempt (reads mode)) follows
        (reaches.map some) (by simp only [reads, (resuming _).statement]; exact attempted) clean
      refine .same (present split noMarker) (.behind attempted ?_)
      cases found with
      | none => exact .whole _
      | some first => exact .first fun _ => .pure _

theorem assignment_leads (calls : (⟨fuel + 1, cursor, .assignment⟩ : Visit).Calls callee) :
    Visit.Leads mode ⟨fuel + 1, cursor, .assignment⟩ callee := by
  change Leads mode (assignment (fuel + 1)) cursor _ _
  rw [assignment]
  cases calls with
  | target =>
      refine .first fun target => (Grows.accept? _).bind fun found => ?_
      cases found with
      | none => exact .pure _
      | some equals => exact (Grows.assignment fuel).bind fun value => .assigned _ _ _
  | assigned target equals =>
      exact .behind target (.behind equals.accept? (.first fun value => .assigned _ _ _))

theorem tier_leads {levels : List Tier}
    (calls : (⟨fuel + 1, cursor, .tier levels⟩ : Visit).Calls callee) :
    Visit.Leads mode ⟨fuel + 1, cursor, .tier levels⟩ callee := by
  change Leads mode (tier (fuel + 1) levels) cursor _ _
  cases calls with
  | tightest => exact .whole (unary fuel)
  | left => exact .first fun _ => Grows.operators fuel _ _ _
  | operators left => exact .behind left (.whole _)

theorem tierRest_leads {level : Tier} {tighter : List Tier} {left : Expr}
    (calls : (⟨fuel + 1, cursor, .tierRest level tighter left⟩ : Visit).Calls callee) :
    Visit.Leads mode ⟨fuel + 1, cursor, .tierRest level tighter left⟩ callee := by
  change Leads mode (tierRest (fuel + 1) level tighter left) cursor _ _
  cases calls with
  | right split operator =>
      exact .behind (acceptWhere?_some split operator) (.first fun _ => Grows.operators fuel _ _ _)
  | otherOperators split operator right =>
      exact .behind (acceptWhere?_some split operator) (.behind right (.whole _))

theorem unary_leads (calls : (⟨fuel + 1, cursor, .unary⟩ : Visit).Calls callee) :
    Visit.Leads mode ⟨fuel + 1, cursor, .unary⟩ callee := by
  change Leads mode (unary (fuel + 1)) cursor _ _
  rw [unary]
  cases calls with
  | operand split operator =>
      exact .behind (acceptWhere?_some split operator) (.first fun _ => .pure _)
  | primary other =>
      exact .behind (acceptWhere?_none other) (.first fun _ => Grows.calls fuel _)
  | calls other callee =>
      exact .behind (acceptWhere?_none other) (.behind callee (.whole _))

theorem callRest_leads {called : Expr}
    (calls : (⟨fuel + 1, cursor, .callRest called⟩ : Visit).Calls callee) :
    Visit.Leads mode ⟨fuel + 1, cursor, .callRest called⟩ callee := by
  change Leads mode (callRest (fuel + 1) called) cursor _ _
  rw [callRest]
  cases calls with
  | arguments opens => exact .behind opens.accept? (.first fun _ => Grows.calls fuel _)
  | otherCalls opens arguments => exact .behind opens.accept? (.behind arguments (.whole _))

theorem primary_leads (calls : (⟨fuel + 1, cursor, .primary⟩ : Visit).Calls callee) :
    Visit.Leads mode ⟨fuel + 1, cursor, .primary⟩ callee := by
  change Leads mode (primary (fuel + 1)) cursor _ _
  rw [primary]
  cases calls with
  | parentheses opens =>
      refine .behind (literal?_other fun token member => ?_) ?_
      · rw [opens.split] at member
        cases member
        simp [constant?, opens.same]
      refine .behind (accept?_other fun token member => ?_) ?_
      · rw [opens.split] at member
        cases member
        simp [opens.same]
      exact .behind opens.accept? (.first fun _ => .pure _)

/-- What follows the items of a list only adds diagnostics. -/
theorem grows_closing (opening : Token) (items : List Expr) :
    Grows (do
      match ← accept? (.symbol .rightParen) with
      | some closing => return (items, closing)
      | none => fail .unterminatedParenthesis opening) := by
  refine (Grows.accept? _).bind fun found => ?_
  cases found with
  | none => exact .of_local (Local.fail _ _ : Local Inner _ _)
  | some _ => exact .pure _

theorem listAfter_leads {opening : Token}
    (calls : (⟨fuel + 1, cursor, .listAfter opening⟩ : Visit).Calls callee) :
    Visit.Leads mode ⟨fuel + 1, cursor, .listAfter opening⟩ callee := by
  change Leads mode (listAfter (fuel + 1) opening) cursor _ _
  rw [listAfter]
  cases calls with
  | firstOfList other =>
      exact .behind (accept?_other other)
        (.first fun _ => (Grows.list fuel).bind fun _ => grows_closing _ _)
  | othersOfList other item =>
      exact .behind (accept?_other other) (.behind item (.first fun _ => grows_closing _ _))

theorem listRest_leads (calls : (⟨fuel + 1, cursor, .listRest⟩ : Visit).Calls callee) :
    Visit.Leads mode ⟨fuel + 1, cursor, .listRest⟩ callee := by
  change Leads mode (listRest (fuel + 1)) cursor _ _
  rw [listRest]
  cases calls with
  | nextOfList opens => exact .behind opens.accept? (.first fun _ => (Grows.list fuel).bind fun _ => .pure _)
  | restOfList opens item =>
      exact .behind opens.accept? (.behind item (.first fun _ => .pure _))

end Callers

/-- What a caller does is made of what it calls. -/
theorem Visit.Calls.leads {caller callee : Visit} (calls : caller.Calls callee) (mode : Recovery)
    (clean : mode = .stopping → Clean callee.cursor) : Visit.Leads mode caller callee := by
  obtain ⟨fuel, cursor, task⟩ := caller
  cases fuel with
  | zero => cases calls
  | succ fuel =>
      cases task with
      | statements => exact statements_leads clean calls
      | statement => exact statement_leads calls
      | conditional => exact conditional_leads clean calls
      | block => exact block_leads calls
      | items => exact items_leads clean calls
      | item => exact item_leads calls
      | assignment => exact assignment_leads calls
      | tier levels => exact tier_leads calls
      | tierRest level tighter left => exact tierRest_leads calls
      | unary => exact unary_leads calls
      | callRest called => exact callRest_leads calls
      | primary => exact primary_leads calls
      | listAfter opening => exact listAfter_leads calls
      | listRest => exact listRest_leads calls

/-- What a caller that comes to an end calls has come to an end as well, and what has been recorded
there stays. -/
theorem Visit.Calls.finishes {caller callee : Visit} (calls : caller.Calls callee)
    {outcome : Except Cause caller.task.Value} {last : Cursor}
    (finishes : Finishes caller.result outcome last) :
    ∃ result after, Finishes callee.result result after ∧
      after.diagnostics <+: last.diagnostics := by
  have leads := calls.leads .resuming nofun
  simp only [Visit.Leads, Task.readerBy_resuming] at leads
  cases leads with
  | plain next grows equation =>
      rw [Visit.result, equation] at finishes
      rcases finishes.bind_cases with ⟨value, middle, returns, continues⟩ | ⟨cause, _, failed⟩
      · exact ⟨_, middle, returns, grows value _ _ _ continues⟩
      · exact ⟨_, last, failed, List.prefix_refl _⟩
  | attempted next grows equation =>
      rw [Visit.result, equation] at finishes
      rcases finishes.bind_cases with ⟨value, middle, returns, continues⟩ | ⟨cause, _, failed⟩
      · obtain ⟨result, after, finishes, kept⟩ := returns.of_attempt
        exact ⟨result, after, finishes, kept.trans (grows value _ _ _ continues)⟩
      · exact failed.of_attempt

/-- A fault of what is called is passed on or recorded. -/
theorem Visit.Calls.reports {caller callee : Visit} (calls : caller.Calls callee)
    {diagnostic : Diagnostic} {after : Cursor}
    (failed : callee.result = .error (.failed diagnostic) after) :
    caller.result = .error (.failed diagnostic) after ∨
      ∀ outcome last, Finishes caller.result outcome last →
        after.diagnostics ++ [diagnostic] <+: last.diagnostics := by
  have leads := calls.leads .resuming nofun
  simp only [Visit.Leads, Task.readerBy_resuming] at leads
  rw [Visit.result] at failed
  cases leads with
  | plain next grows equation => exact .inl (by rw [Visit.result, equation, bind_apply, failed])
  | attempted next grows equation =>
      refine .inr fun outcome last finishes => ?_
      rw [Visit.result, equation, bind_apply, Recovery.attempt, attempt, failed] at finishes
      have kept := grows none _ _ _ finishes
      rwa [Cursor.resume_diagnostics] at kept

/-- Without recovery a caller fails where what it calls fails. -/
theorem Visit.Leads.fails {caller callee : Visit} (leads : Visit.Leads .stopping caller callee)
    {stop : Stop} {after : Cursor}
    (failed : callee.task.readerBy .stopping callee.fuel callee.cursor = .error stop after) :
    caller.task.readerBy .stopping caller.fuel caller.cursor = .error stop after := by
  cases leads with
  | plain next grows equation => rw [equation, bind_apply, failed]
  | attempted next grows equation => rw [equation, Recovery.stopping_bind, bind_apply, failed]

end Reader

end CheckedScript
