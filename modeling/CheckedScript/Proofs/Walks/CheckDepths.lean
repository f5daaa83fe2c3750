import CheckedScript.Proofs.Walks.Bodies
import CheckedScript.Proofs.Walks.Courses
import CheckedScript.Proofs.Walks.Entries

/-!
# The depths of the frames of a check

A check makes frames where a run makes them, so its frames, too, are as deep as the places
that are visited in them.  The body of a function is checked when it is called, in a frame
inside the one that the function closes over; the state remembers the place of the body and
that frame together, and they go on to fit each other because frames never move.
-/

namespace CheckedScript

namespace Typing

open Check Scopes

variable (program : Program)

/-- A declared function closes over a frame one deeper than the function statement. -/
def DeclaredFunction.StandsIn (scopes : Scopes Ty) (function : DeclaredFunction) : Prop :=
  ∃ place depth, function.place = place.child 0 ∧
    program.nodeAt? place =
      some (.statement (.function function.name function.parameters function.body), depth) ∧
    function.closure < scopes.frames.size ∧ scopes.depth function.closure = depth + 1

/-- A state all of whose functions are as deep as their places. -/
def State.Placed (state : State) : Prop :=
  ∀ (identifier : Nat) (function : DeclaredFunction),
    state.functions[identifier]? = some function → function.StandsIn program state.scopes

/-- What checks of parts of a program do: no frame moves, and functions stand where their
closures are. -/
def course : Course Stop State where
  later before after := before.scopes.Grown after.scopes
  state := State.Placed program
  stop _ _ := True
  refl _ := .refl _
  trans := .trans

/-- A check that begins in a state ends with what is known of checks. -/
abbrev Lasts {α : Type} (state : State) (result : EStateM.Result Stop State α) : Prop :=
  (course program).Ends state (fun _ _ => True) result

/-- The parts of a task stand where the tree has them, at a given depth. -/
def Task.StandsAt (depth : Nat) : Task → Prop
  | .expression place expr => program.nodeAt? place = some (.expression expr, depth)
  | .expressions place step exprs => ∀ index expr, exprs[index]? = some expr →
      program.nodeAt? (place.child (step + index)) = some (.expression expr, depth)
  | .statement place stmt => program.nodeAt? place = some (.statement stmt, depth)
  | .statements place step stmts => ∀ index stmt, stmts[index]? = some stmt →
      program.nodeAt? (place.child (step + index)) = some (.statement stmt, depth)
  | .block place inner => ∀ index part, inner.parts[index]? = some part →
      program.nodeAt? (place.child index) = some (part, depth + 1)

/-- A state and a frame in it that is as deep as the place of a task. -/
structure State.Seats (state : State) (frame : FrameId) (task : Task) : Prop where
  placed : state.Placed program
  present : frame < state.next
  stands : task.StandsAt program (state.scopes.depth frame)

/-- A state and a frame in it that is as deep as the parts of a block. -/
structure State.Houses (state : State) (frame : FrameId) (place : Place) (body : Block) : Prop where
  placed : state.Placed program
  present : frame < state.next
  stands : ∀ index part, body.parts[index]? = some part →
    program.nodeAt? (place.child index) = some (part, state.scopes.depth frame)

variable {program} {state after : State}

theorem DeclaredFunction.StandsIn.grown {scopes later : Scopes Ty} {function : DeclaredFunction}
    (stands : function.StandsIn program scopes) (grown : scopes.Grown later) :
    function.StandsIn program later := by
  obtain ⟨place, depth, same, found, present, closure⟩ := stands
  exact ⟨place, depth, same, found, Nat.lt_of_lt_of_le present grown.size,
    (grown.depth present).trans closure⟩

/-- The body of a function stands in the frame that the function closes over. -/
theorem DeclaredFunction.StandsIn.body {scopes : Scopes Ty} {function : DeclaredFunction}
    (stands : function.StandsIn program scopes) :
    function.closure < scopes.frames.size ∧
      program.nodeAt? function.place =
        some (.block function.body, scopes.depth function.closure) := by
  obtain ⟨place, depth, same, found, present, closure⟩ := stands
  rw [same, closure]
  exact ⟨present, Program.nodeAt?_child found rfl⟩

/-- More frames and the same functions. -/
theorem State.Placed.congr (placed : state.Placed program)
    (grown : state.scopes.Grown after.scopes) (same : after.functions = state.functions) :
    after.Placed program := by
  intro identifier function found
  rw [same] at found
  exact (placed identifier function found).grown grown

theorem State.Placed.report (placed : state.Placed program) (diagnostic : Diagnostic) :
    (state.report diagnostic).Placed program ∧
      state.scopes.Grown (state.report diagnostic).scopes := by
  unfold State.report
  split
  · exact ⟨placed, .refl _⟩
  · exact ⟨placed.congr (.refl _) rfl, .refl _⟩

theorem State.Placed.addReturn (placed : state.Placed program) (type : Ty) (keyword : Token) :
    (state.addReturn type keyword).Placed program ∧
      state.scopes.Grown (state.addReturn type keyword).scopes := by
  unfold State.addReturn
  cases state.activations with
  | nil => exact ⟨placed, .refl _⟩
  | cons => exact ⟨placed.congr (.refl _) rfl, .refl _⟩

theorem State.Placed.reports (placed : state.Placed program) (diagnostics : List Diagnostic) :
    (diagnostics.foldl State.report state).Placed program ∧
      state.scopes.Grown (diagnostics.foldl State.report state).scopes := by
  induction diagnostics generalizing state with
  | nil => exact ⟨placed, .refl _⟩
  | cons diagnostic diagnostics inductionHypothesis =>
      obtain ⟨reported, grown⟩ := placed.report diagnostic
      obtain ⟨others, further⟩ := inductionHypothesis reported
      exact ⟨others, grown.trans further⟩

/-- What is remembered of a function beside its declaration does not matter. -/
theorem State.Placed.setInstance (placed : state.Placed program) (identifier : Nat)
    (key : InstanceKey) (result : Ty) : (state.setInstance identifier key result).Placed program := by
  intro other function found
  rw [State.setInstance, Array.getElem?_modify] at found
  split at found
  · cases shape : state.functions[other]? with
    | none =>
        rw [shape] at found
        cases found
    | some before =>
        rw [shape] at found
        cases found
        exact placed other before shape
  · exact placed other function found

/-- A function is declared where the function statement stands. -/
theorem State.Seats.declare {frame : FrameId} {place : Place} {name : Token}
    {parameters : List Token} {body : Block}
    (seats : state.Seats program frame (.statement place (.function name parameters body))) :
    (state.declare frame (place.child 0) name parameters body).Placed program ∧
      state.scopes.Grown (state.declare frame (place.child 0) name parameters body).scopes := by
  have grown : state.scopes.Grown
      (state.declare frame (place.child 0) name parameters body).scopes :=
    (Grown.nest _ _).trans (.define _ _ _ _)
  refine ⟨fun identifier function found => ?_, grown⟩
  have pushed : (state.functions.push
      { name := name, parameters := parameters, body := body, place := place.child 0,
        closure := state.next, instances := [] })[identifier]? = some function := found
  rw [Array.getElem?_push] at pushed
  split at pushed
  · cases pushed
    have new : state.next < (state.nested frame).scopes.frames.size := by
      simp [State.nested, State.next]
    have further : (state.nested frame).scopes.Grown
        (state.declare frame (place.child 0) name parameters body).scopes := .define _ _ _ _
    refine ⟨place, state.scopes.depth frame, rfl, seats.stands,
      Nat.lt_of_lt_of_le new further.size, ?_⟩
    exact (further.depth new).trans (depth_nest state.scopes frame)
  · exact (seats.placed identifier function pushed).grown grown

section Seats

variable {frame : FrameId} {place : Place} {task : Task}

/-- A place in the same frame, later. -/
theorem State.Seats.later {other : Task} (seats : state.Seats program frame task)
    (grown : state.scopes.Grown after.scopes) (placed : after.Placed program)
    (stands : task.StandsAt program (state.scopes.depth frame) →
      other.StandsAt program (state.scopes.depth frame)) :
    after.Seats program frame other where
  placed := placed
  present := Nat.lt_of_lt_of_le seats.present grown.size
  stands := by
    rw [grown.depth seats.present]
    exact stands seats.stands

theorem State.next_nested (state : State) (frame : FrameId) :
    state.next < (state.nested frame).next := by
  simp [State.nested, State.next]

theorem standsAt_block {depth : Nat} {body : Block}
    (found : program.nodeAt? place = some (.block body, depth)) :
    (Task.block place body).StandsAt program depth :=
  fun _ _ isPart => Program.nodeAt?_inside found isPart

theorem State.Placed.nested (placed : state.Placed program) (frame : FrameId) :
    (state.nested frame).Placed program :=
  placed.congr (.nest _ _) rfl

/-- The parts of a block are checked in a frame of their own. -/
theorem State.Seats.inside {body : Block} (seats : state.Seats program frame (.block place body)) :
    (state.nested frame).Houses program state.next place body where
  placed := seats.placed.nested frame
  present := state.next_nested frame
  stands := by
    have depth : (state.nested frame).scopes.depth state.next = state.scopes.depth frame + 1 :=
      depth_nest state.scopes frame
    rw [depth]
    exact seats.stands

/-- The body of a function is checked in a frame inside the one that it closes over. -/
theorem State.Placed.entered {identifier : Nat} {function : DeclaredFunction}
    (placed : state.Placed program) (found : state.functions[identifier]? = some function)
    (arguments : List Ty) :
    (AllKeep.entered state function arguments).Houses program state.next function.place
      function.body where
  placed := placed.congr ((Grown.nest _ _).trans (.defineAll _ _ _)) rfl
  present := by simp [AllKeep.entered, State.next]
  stands index part isPart := by
    obtain ⟨_, block⟩ := (placed identifier function found).body
    have depth : (AllKeep.entered state function arguments).scopes.depth state.next =
        state.scopes.depth function.closure + 1 :=
      ((Grown.defineAll _ _ _).depth (state.next_nested function.closure)).trans
        (depth_nest state.scopes function.closure)
    rw [depth]
    exact Program.nodeAt?_inside block isPart

theorem State.Houses.later {body : Block} (houses : state.Houses program frame place body)
    (grown : state.scopes.Grown after.scopes) (placed : after.Placed program) :
    after.Houses program frame place body where
  placed := placed
  present := Nat.lt_of_lt_of_le houses.present grown.size
  stands := by
    rw [grown.depth houses.present]
    exact houses.stands

theorem State.Houses.statements {body : Block} (houses : state.Houses program frame place body) :
    state.Seats program frame (.statements place 0 body.statements) where
  placed := houses.placed
  present := houses.present
  stands index stmt found := by
    obtain ⟨brace, statements, tail⟩ := body
    rw [Nat.zero_add]
    exact houses.stands index _ (Block.parts_statement found)

theorem State.Houses.tail {body : Block} {tail : Expr}
    (houses : state.Houses program frame place body) (found : body.tail = some tail) :
    state.Seats program frame (.expression (place.child body.statements.length) tail) where
  placed := houses.placed
  present := houses.present
  stands := by
    obtain ⟨brace, statements, _⟩ := body
    cases found
    exact houses.stands _ _ Block.parts_tail

/-- The body of a loop over numbers is checked in a frame of the loop variable. -/
theorem State.Seats.turn {token : Token} {bounds : Bounds} {body : Block}
    (seats : state.Seats program frame (.statement place (.forLoop token bounds body)))
    (name : String) :
    (state.turn frame name).Seats program state.next (.block (place.child 3) body) where
  placed := seats.placed.congr ((Grown.nest _ _).trans (.defineAll _ _ _)) rfl
  present := by simp [State.turn, State.nested, State.next]
  stands := by
    have depth : (state.turn frame name).scopes.depth state.next = state.scopes.depth frame + 1 :=
      ((Grown.defineAll _ _ _).depth (state.next_nested frame)).trans (depth_nest state.scopes frame)
    rw [depth]
    exact standsAt_block (Program.nodeAt?_child seats.stands rfl)

end Seats

section Steps

variable {α : Type} {frame : FrameId}

theorem lasts_fail (cause : Cause) (token : Token) (placed : state.Placed program) :
    Lasts program state ((fail cause token : Check α) state) :=
  .throw placed trivial

theorem lasts_report (cause : Cause) (token : Token) (placed : state.Placed program) :
    Lasts program state (report cause token state) := by
  obtain ⟨reported, grown⟩ := placed.report { cause := cause, token := token }
  exact ⟨grown, reported, trivial⟩

theorem lasts_reporting {check : Check α} (lasts : Lasts program state (check state)) :
    Lasts program state (reporting check state) := by
  refine (Course.Ends.reporting (fun diagnostic after placed _ => ?_) lasts).mono
    fun _ _ _ => trivial
  exact (State.Placed.report placed diagnostic).symm

theorem lasts_onFailure {check : Check α} {change : State → State}
    (lasts : Lasts program state (check state))
    (changes : ∀ after : State, after.scopes.Grown (change after).scopes ∧
      (change after).functions = after.functions) :
    Lasts program state (onFailure check change state) := by
  refine Course.Ends.onFailure (fun stop after placed _ => ?_) lasts
  obtain ⟨grown, same⟩ := changes after
  exact ⟨grown, State.Placed.congr placed grown same, trivial⟩

theorem lasts_lookup? (name : String) (placed : state.Placed program) :
    Lasts program state (lookup? frame name state) :=
  ⟨.refl _, placed, trivial⟩

theorem lasts_bind (name : String) (type : Ty) (placed : state.Placed program) :
    Lasts program state (Check.bind frame name type state) :=
  ⟨.define _ _ _ _, placed.congr (.define _ _ _ _) rfl, trivial⟩

end Steps

/-- Checks of parts of a program end with what is known of checks. -/
structure ChecksLast (program : Program) (fuel : Nat) : Prop where
  typeOf : ∀ frame place expr (state : State), state.Placed program →
    Lasts program state (typeOf fuel frame place expr state)
  typesOf : ∀ frame place step exprs (state : State), state.Placed program →
    Lasts program state (typesOf fuel frame place step exprs state)
  infer : ∀ frame place expr (state : State), state.Placed program →
    Lasts program state (infer fuel frame place expr state)
  callType : ∀ callee arguments paren (state : State), state.Placed program →
    Lasts program state (callType fuel callee arguments paren state)
  instantiate : ∀ name identifier arguments anchor (state : State), state.Placed program →
    Lasts program state (instantiate fuel name identifier arguments anchor state)
  checkBody : ∀ identifier arguments (function : DeclaredFunction) frame (state : State),
    state.Houses program frame function.place function.body →
    Lasts program state (checkBody fuel identifier arguments function frame state)
  checkStmt : ∀ frame place stmt (state : State),
    state.Seats program frame (.statement place stmt) →
    Lasts program state (checkStmt fuel frame place stmt state)
  checkLet : ∀ frame place name declared initializer (state : State), state.Placed program →
    Lasts program state (checkLet fuel frame place name declared initializer state)
  checkAll : ∀ frame place step stmts (state : State),
    state.Seats program frame (.statements place step stmts) →
    Lasts program state (checkAll fuel frame place step stmts state)
  checkBlock : ∀ frame place body (state : State),
    state.Seats program frame (.block place body) →
    Lasts program state (checkBlock fuel frame place body state)
  checkCondition : ∀ frame place keyword condition (state : State), state.Placed program →
    Lasts program state (checkCondition fuel frame place keyword condition state)
  checkBound : ∀ frame place token bound (state : State), state.Placed program →
    Lasts program state (checkBound fuel frame place token bound state)

namespace ChecksLast

variable {fuel : Nat} {frame : FrameId} {place : Place}

theorem typeOf_succ (last : ChecksLast program fuel) (expr : Expr) (placed : state.Placed program) :
    Lasts program state (Check.typeOf (fuel + 1) frame place expr state) :=
  (last.infer _ _ _ _ placed).bind fun _ _ _ _ placed _ =>
    ⟨.refl _, placed.congr (.refl _) rfl, trivial⟩

theorem typesOf_succ (last : ChecksLast program fuel) (step : Nat) (exprs : List Expr)
    (placed : state.Placed program) :
    Lasts program state (Check.typesOf (fuel + 1) frame place step exprs state) := by
  cases exprs with
  | nil => exact .pure placed trivial
  | cons expr exprs =>
      exact (last.typeOf _ _ _ _ placed).bind fun _ _ _ _ placed _ =>
        (last.typesOf _ _ _ _ _ placed).bind fun _ _ _ _ placed _ => .pure placed trivial

theorem infer_succ (last : ChecksLast program fuel) (expr : Expr) (placed : state.Placed program) :
    Lasts program state (Check.infer (fuel + 1) frame place expr state) := by
  cases expr with
  | literal value token => exact .pure placed trivial
  | reference name =>
      refine (lasts_lookup? _ placed).bind fun found _ _ _ placed _ => ?_
      cases found with
      | some type => exact .pure placed trivial
      | none => exact lasts_fail _ _ placed
  | assign name value =>
      refine (last.typeOf _ _ _ _ placed).bind fun found _ _ _ placed _ =>
        (lasts_lookup? _ placed).bind fun declared _ _ _ placed _ => ?_
      cases declared with
      | none => exact lasts_fail _ _ placed
      | some declared =>
          dsimp only
          split
          · exact .pure placed trivial
          · exact lasts_fail _ _ placed
  | group inner => exact last.typeOf _ _ _ _ placed
  | tuple items =>
      exact (last.typesOf _ _ _ _ _ placed).bind fun _ _ _ _ placed _ => .pure placed trivial
  | unary operator token operand =>
      refine (last.typeOf _ _ _ _ placed).bind fun found _ _ _ placed _ => ?_
      cases unaryType? operator found with
      | some result => exact .pure placed trivial
      | none => exact lasts_fail _ _ placed
  | binary operator token left right =>
      refine (last.typeOf _ _ _ _ placed).bind fun first _ _ _ placed _ =>
        (last.typeOf _ _ _ _ placed).bind fun second _ _ _ placed _ => ?_
      cases binaryType? operator first second with
      | some result => exact .pure placed trivial
      | none => exact lasts_fail _ _ placed
  | logical operator token left right =>
      refine (last.typeOf _ _ _ _ placed).bind fun first _ _ _ placed _ =>
        (last.typeOf _ _ _ _ placed).bind fun second _ _ _ placed _ => ?_
      split
      · exact .pure placed trivial
      · exact lasts_fail _ _ placed
  | call callee paren arguments =>
      exact (last.typeOf _ _ _ _ placed).bind fun _ _ _ _ placed _ =>
        (last.typesOf _ _ _ _ _ placed).bind fun _ _ _ _ placed _ =>
          last.callType _ _ _ _ placed

theorem callType_succ (last : ChecksLast program fuel) (callee : Ty) (arguments : List Ty)
    (paren : Token) (placed : state.Placed program) :
    Lasts program state (Check.callType (fuel + 1) callee arguments paren state) := by
  cases callee with
  | native name parameters result =>
      unfold Check.callType
      dsimp only
      cases nativeCallType name parameters result arguments with
      | ok type => exact .pure placed trivial
      | error cause => exact lasts_fail _ _ placed
  | function name identifier =>
      refine Course.Ends.get ((Course.Ends.orFault placed fun _ _ => trivial).bind fun expected _ _ _ placed _ => ?_)
      split
      · exact last.instantiate _ _ _ _ _ placed
      · exact lasts_fail _ _ placed
  | unknown => exact .pure placed trivial
  | bareNative => exact .throw placed trivial
  | number | text | bool | tuple | displayable => exact lasts_fail _ _ placed

/-- The body of a function is checked in a frame inside the one that it closes over. -/
theorem instantiate_succ (last : ChecksLast program fuel) (name : String) (identifier : Nat)
    (arguments : List Ty) (anchor : Token) (placed : state.Placed program) :
    Lasts program state
      (Check.instantiate (fuel + 1) name identifier arguments anchor state) := by
  refine Course.Ends.get ((Course.Ends.orFault placed fun _ _ => trivial).bind fun function middle _ _ placed same => ?_)
  obtain ⟨declared, rfl⟩ := same
  dsimp only
  cases function.instances.get? (arguments, state.generation) with
  | some result => exact .pure placed trivial
  | none =>
  dsimp only
  cases state.activations.find? fun activation =>
      activation.function = identifier && activation.arguments = arguments with
  | some activation =>
      obtain ⟨_, _, returns⟩ := activation
      cases returns with
      | cons first others => exact .pure placed trivial
      | nil =>
          dsimp only
          split
          · exact .pure placed trivial
          · exact lasts_fail _ _ placed
  | none =>
  dsimp only
  split
  · exact lasts_fail _ _ placed
  have grown : state.scopes.Grown (AllKeep.entered state function arguments).scopes :=
    (Grown.nest _ _).trans (.defineAll _ _ _)
  have checked := last.checkBody identifier arguments function state.next _
    (placed.entered (declaration_eq_ok.1 declared) arguments)
  refine (Course.Ends.bind checked fun results after _ _ placed _ => ?_).since grown
  obtain ⟨reported, further⟩ :=
    placed.reports (returnMismatches name (chooseResult (results.map (·.1))) results)
  exact ⟨further, reported.setInstance _ _ _, trivial⟩

theorem checkBody_succ (last : ChecksLast program fuel) (identifier : Nat) (arguments : List Ty)
    {function : DeclaredFunction}
    (houses : state.Houses program frame function.place function.body) :
    Lasts program state
      (Check.checkBody (fuel + 1) identifier arguments function frame state) := by
  let begun : State :=
    { state with
      activations := { function := identifier, arguments := arguments, returns := [] } ::
        state.activations }
  have begins : begun.Houses program frame function.place function.body :=
    ⟨houses.placed.congr (.refl _) rfl, houses.present, houses.stands⟩
  have through : Lasts program begun (AllKeep.throughBody fuel function frame begun) := by
    have checked := last.checkAll _ _ _ _ _ begins.statements
    refine checked.bind fun _ middle _ _ placed _ => ?_
    cases function.body.tail with
    | none => exact .pure placed trivial
    | some tail => exact lasts_reporting (last.typeOf _ _ _ _ placed)
  rw [AllKeep.checkBody_apply]
  cases equation : AllKeep.throughBody fuel function frame begun with
  | ok fallThrough after =>
      rw [equation] at through
      obtain ⟨grown, placed, _⟩ := through
      exact ⟨grown, placed.congr (.refl _) rfl, trivial⟩
  | error stop after =>
      rw [equation] at through
      exact through

theorem checkStmt_succ (last : ChecksLast program fuel) {stmt : Stmt}
    (seats : state.Seats program frame (.statement place stmt)) :
    Lasts program state (Check.checkStmt (fuel + 1) frame place stmt state) := by
  have placed := seats.placed
  cases stmt with
  | expression value => exact last.typeOf _ _ _ _ placed
  | letValue name declared initializer =>
      exact (last.checkLet _ _ _ _ _ _ placed).bind fun _ _ _ _ placed _ => .pure placed trivial
  | block body =>
      refine last.checkBlock _ _ _ _ (seats.later (.refl _) placed fun stands index part isPart => ?_)
      refine Program.nodeAt?_child stands ?_
      rw [Node.part?, Stmt.part?, isPart]
      rfl
  | ifThen keyword condition consequent =>
      refine (last.checkCondition _ _ _ _ _ placed).bind fun _ _ _ grown placed _ => ?_
      have block := last.checkBlock _ (place.child 1) consequent _
        (seats.later grown placed fun stands => standsAt_block (Program.nodeAt?_step stands rfl))
      exact block.bind fun _ _ _ _ placed _ => .pure placed trivial
  | ifElse keyword condition consequent alternative =>
      refine (last.checkCondition _ _ _ _ _ placed).bind fun _ _ _ grown placed _ => ?_
      have block := last.checkBlock _ (place.child 1) consequent _
        (seats.later grown placed fun stands => standsAt_block (Program.nodeAt?_step stands rfl))
      refine block.bind fun _ _ _ further placed _ => ?_
      have other := last.checkStmt _ (place.child 2) alternative _
        (seats.later (grown.trans further) placed fun stands => Program.nodeAt?_step stands rfl)
      exact other.bind fun _ _ _ _ placed _ => .pure placed trivial
  | whileLoop keyword condition body =>
      refine (last.checkCondition _ _ _ _ _ placed).bind fun _ _ _ grown placed _ => ?_
      have block := last.checkBlock _ (place.child 1) body _
        (seats.later grown placed fun stands => standsAt_block (Program.nodeAt?_step stands rfl))
      exact block.bind fun _ _ _ _ placed _ => .pure placed trivial
  | forLoop name bounds body =>
      have turns (after : State) (grown : state.scopes.Grown after.scopes)
          (placed : after.Placed program) :
          Lasts program after ((do
            Check.checkBound fuel frame (place.child 2) bounds.token bounds.stop
            let inner ← nest frame
            define inner [(name.lexeme, .number)]
            let _ ← Check.checkBlock fuel inner (place.child 3) body
            return Ty.unit : Check Ty) after) := by
        refine (last.checkBound _ _ _ _ _ placed).bind fun _ final _ further placed _ => ?_
        have seated := seats.later (grown.trans further) placed fun stands => stands
        have turned := seated.turn name.lexeme
        have block := last.checkBlock _ (place.child 3) body _ turned
        refine (Course.Ends.bind block fun _ _ _ _ placed _ => .pure placed trivial).since ?_
        exact (Grown.nest _ _).trans (.defineAll _ _ _)
      refine (last.checkBound _ _ _ _ _ placed).bind fun _ middle _ grown placed _ => ?_
      cases bounds.step with
      | none => exact turns middle grown placed
      | some step =>
          exact (last.checkBound _ _ _ _ _ placed).bind fun _ after _ further placed _ =>
            turns after (grown.trans further) placed
  | function name parameters body =>
      obtain ⟨declared, grown⟩ := seats.declare
      exact ⟨grown, declared, trivial⟩
  | giveBack keyword value =>
      refine Course.Ends.get ?_
      dsimp only
      split
      · exact lasts_fail _ _ placed
      · have returned (type : Ty) (after : State) (placed : after.Placed program) :
            Lasts program after ((do
              modify fun state => state.addReturn type keyword
              return Ty.unit : Check Ty) after) := by
          obtain ⟨added, grown⟩ := placed.addReturn type keyword
          exact ⟨grown, added, trivial⟩
        cases value with
        | none => exact returned .unit state placed
        | some value =>
            exact (last.typeOf _ _ _ _ placed).bind fun type after _ _ placed _ =>
              returned type after placed

theorem checkLet_succ (last : ChecksLast program fuel) (name : Token) (declared : Option Ty)
    (initializer : Expr) (placed : state.Placed program) :
    Lasts program state
      (Check.checkLet (fuel + 1) frame place name declared initializer state) := by
  cases declared with
  | none =>
      exact (last.typeOf _ _ _ _ placed).bind fun found _ _ _ placed _ =>
        lasts_bind _ found placed
  | some type =>
      have typed : Lasts program state
          (onFailure (Check.typeOf fuel frame (place.child 0) initializer)
            (fun state => state.bind frame name.lexeme type) state) :=
        lasts_onFailure (last.typeOf _ _ _ _ placed) fun _ => ⟨.define _ _ _ _, rfl⟩
      refine typed.bind fun found _ _ _ placed _ =>
        (lasts_bind _ type placed).bind fun _ _ _ _ placed _ => ?_
      split
      · exact lasts_fail _ _ placed
      · exact .pure placed trivial

theorem checkAll_succ (last : ChecksLast program fuel) {step : Nat} {stmts : List Stmt}
    (seats : state.Seats program frame (.statements place step stmts)) :
    Lasts program state (Check.checkAll (fuel + 1) frame place step stmts state) := by
  have placed := seats.placed
  cases stmts with
  | nil => exact .pure placed trivial
  | cons stmt stmts =>
      have first := last.checkStmt _ (place.child step) stmt _
        (seats.later (.refl _) placed fun stands => stands 0 stmt rfl)
      refine (lasts_reporting first).bind fun _ _ _ grown placed _ => ?_
      refine last.checkAll _ _ _ _ _ (seats.later grown placed fun stands index other found => ?_)
      rw [Nat.add_assoc, Nat.add_comm 1]
      exact stands (index + 1) other found

theorem checkBlock_succ (last : ChecksLast program fuel) {body : Block}
    (seats : state.Seats program frame (.block place body)) :
    Lasts program state (Check.checkBlock (fuel + 1) frame place body state) := by
  obtain ⟨brace, statements, tail⟩ := body
  have checked := last.checkAll _ _ _ _ _ seats.inside.statements
  refine (checked.bind fun _ middle _ _ placed _ => ?_).since (Grown.nest _ _)
  cases tail with
  | none => exact .pure placed trivial
  | some tail =>
      refine (lasts_reporting (last.typeOf _ _ _ _ placed)).bind fun type _ _ _ placed _ => ?_
      cases type with
      | some type => exact .pure placed trivial
      | none => exact .throw placed trivial

theorem checkCondition_succ (last : ChecksLast program fuel) (keyword : Token) (condition : Expr)
    (placed : state.Placed program) :
    Lasts program state
      (Check.checkCondition (fuel + 1) frame place keyword condition state) := by
  refine (lasts_reporting (last.typeOf _ _ _ _ placed)).bind fun found _ _ _ placed _ => ?_
  cases found with
  | none => exact .pure placed trivial
  | some found =>
      dsimp only
      split
      · exact lasts_report _ _ placed
      · exact .pure placed trivial

theorem checkBound_succ (last : ChecksLast program fuel) (token : Token) (bound : Expr)
    (placed : state.Placed program) :
    Lasts program state (Check.checkBound (fuel + 1) frame place token bound state) := by
  refine (last.typeOf _ _ _ _ placed).bind fun found _ _ _ placed _ => ?_
  split
  · exact lasts_fail _ _ placed
  · exact .pure placed trivial

end ChecksLast

theorem checksLast (program : Program) (fuel : Nat) : ChecksLast program fuel := by
  induction fuel with
  | zero =>
      exact
        { typeOf := fun _ _ _ _ placed => .throw placed trivial
          typesOf := fun _ _ _ _ _ placed => .throw placed trivial
          infer := fun _ _ _ _ placed => .throw placed trivial
          callType := fun _ _ _ _ placed => .throw placed trivial
          instantiate := fun _ _ _ _ _ placed => .throw placed trivial
          checkBody := fun _ _ _ _ _ houses => .throw houses.placed trivial
          checkStmt := fun _ _ _ _ seats => .throw seats.placed trivial
          checkLet := fun _ _ _ _ _ _ placed => .throw placed trivial
          checkAll := fun _ _ _ _ _ seats => .throw seats.placed trivial
          checkBlock := fun _ _ _ _ seats => .throw seats.placed trivial
          checkCondition := fun _ _ _ _ _ placed => .throw placed trivial
          checkBound := fun _ _ _ _ _ placed => .throw placed trivial }
  | succ fuel last =>
      exact
        { typeOf := fun _ _ expr _ => last.typeOf_succ expr
          typesOf := fun _ _ step exprs _ => last.typesOf_succ step exprs
          infer := fun _ _ expr _ => last.infer_succ expr
          callType := fun callee arguments paren _ => last.callType_succ callee arguments paren
          instantiate := fun name identifier arguments anchor _ =>
            last.instantiate_succ name identifier arguments anchor
          checkBody := fun identifier arguments _ _ _ =>
            last.checkBody_succ identifier arguments
          checkStmt := fun _ _ _ _ => last.checkStmt_succ
          checkLet := fun _ _ name declared initializer _ =>
            last.checkLet_succ name declared initializer
          checkAll := fun _ _ _ _ _ => last.checkAll_succ
          checkBlock := fun _ _ _ _ => last.checkBlock_succ
          checkCondition := fun _ _ keyword condition _ =>
            last.checkCondition_succ keyword condition
          checkBound := fun _ _ token bound _ => last.checkBound_succ token bound }

section Visits

variable {fuel : Nat} {frame : FrameId} {place : Place}

/-- The step of a loop, if it is written, is checked between the bounds. -/
theorem StepChecked.later {token : Token} {step : Option Expr}
    (checked : StepChecked fuel frame place token step state after)
    (placed : state.Placed program) :
    state.scopes.Grown after.scopes ∧ after.Placed program := by
  cases checked with
  | absent => exact ⟨.refl _, placed⟩
  | written equation =>
      obtain ⟨grown, placed, _⟩ :=
        ((checksLast program fuel).checkBound _ _ _ _ _ placed).of_ok equation
      exact ⟨grown, placed⟩

theorem standsAt_parts {depth step : Nat} {expr : Expr} {exprs : List Expr}
    (found : program.nodeAt? place = some (.expression expr, depth))
    (are : ∀ index part, exprs[index]? = some part → expr.parts[step + index]? = some part) :
    (Task.expressions place step exprs).StandsAt program depth :=
  fun index part isPart => Program.nodeAt?_part found (are index part isPart)

/-- A step of the walk of a check keeps frames as deep as places. -/
theorem Visit.Calls.seats {visit called : Visit} (calls : visit.Calls called)
    (seats : visit.state.Seats program visit.frame visit.task) :
    called.state.Seats program called.frame called.task := by
  have last := checksLast program
  have placed := seats.placed
  cases calls with
  | assigned | inner | operand | left | logicalLeft | callee =>
      exact seats.later (.refl _) placed fun stands => Program.nodeAt?_part stands rfl
  | items =>
      refine seats.later (.refl _) placed fun stands =>
        standsAt_parts stands fun index part isPart => ?_
      rw [Nat.zero_add]
      exact isPart
  | right equation | logicalRight equation =>
      obtain ⟨grown, placed, _⟩ := ((last _).typeOf _ _ _ _ placed).of_ok equation
      exact seats.later grown placed fun stands => Program.nodeAt?_part stands rfl
  | arguments equation =>
      obtain ⟨grown, placed, _⟩ := ((last _).typeOf _ _ _ _ placed).of_ok equation
      refine seats.later grown placed fun stands =>
        standsAt_parts stands fun index part isPart => ?_
      rw [Nat.add_comm]
      exact isPart
  | item => exact seats.later (.refl _) placed fun stands => stands 0 _ rfl
  | otherItems equation =>
      obtain ⟨grown, placed, _⟩ := ((last _).typeOf _ _ _ _ placed).of_ok equation
      refine seats.later grown placed fun stands index part found => ?_
      rw [Nat.add_assoc, Nat.add_comm 1]
      exact stands (index + 1) part found
  | value | initializer | ifCondition | elseCondition | whileCondition | forStart | returned =>
      exact seats.later (.refl _) placed fun stands => Program.nodeAt?_step stands rfl
  | block =>
      refine seats.later (.refl _) placed fun stands index part isPart =>
        Program.nodeAt?_child stands ?_
      rw [Node.part?, Stmt.part?, isPart]
      rfl
  | ifConsequent equation | elseConsequent equation | whileBody equation =>
      obtain ⟨grown, placed, _⟩ := ((last _).checkCondition _ _ _ _ _ placed).of_ok equation
      exact seats.later grown placed fun stands =>
        standsAt_block (Program.nodeAt?_step stands rfl)
  | @alternative fuel frame state middle _ place keyword test inner _ _ condition consequent =>
      obtain ⟨grown, placed, _⟩ := ((last _).checkCondition _ _ _ _ _ placed).of_ok condition
      have block := (last fuel).checkBlock frame (place.child 1) inner _
        (seats.later grown placed fun stands =>
          standsAt_block (Program.nodeAt?_step stands rfl))
      obtain ⟨further, placed, _⟩ := block.of_ok consequent
      exact seats.later (grown.trans further) placed fun stands => Program.nodeAt?_step stands rfl
  | forStep equation shape =>
      obtain ⟨grown, placed, _⟩ := ((last _).checkBound _ _ _ _ _ placed).of_ok equation
      refine seats.later grown placed fun stands => Program.nodeAt?_step stands ?_
      rw [Stmt.part?, shape]
      rfl
  | forStop equation checked =>
      obtain ⟨grown, placed, _⟩ := ((last _).checkBound _ _ _ _ _ placed).of_ok equation
      obtain ⟨further, placed⟩ := checked.later placed
      exact seats.later (grown.trans further) placed fun stands => Program.nodeAt?_step stands rfl
  | forBody start checked stop =>
      obtain ⟨grown, placed, _⟩ := ((last _).checkBound _ _ _ _ _ placed).of_ok start
      obtain ⟨further, placed⟩ := checked.later placed
      obtain ⟨final, placed, _⟩ := ((last _).checkBound _ _ _ _ _ placed).of_ok stop
      exact (seats.later ((grown.trans further).trans final) placed fun stands => stands).turn _
  | blockStatements => exact seats.inside.statements
  | blockTail equation =>
      have inside := seats.inside
      obtain ⟨grown, placed, _⟩ := ((last _).checkAll _ _ _ _ _ inside.statements).of_ok equation
      exact (inside.later grown placed).tail rfl
  | first => exact seats.later (.refl _) placed fun stands => stands 0 _ rfl
  | @others fuel frame _ _ place step stmt _ _ equation =>
      have first := (last fuel).checkStmt frame (place.child step) stmt _
        (seats.later (.refl _) placed fun stands => stands 0 _ rfl)
      obtain ⟨grown, placed, _⟩ := (lasts_reporting first).of_ok equation
      refine seats.later grown placed fun stands index stmt found => ?_
      rw [Nat.add_assoc, Nat.add_comm 1]
      exact stands (index + 1) stmt found

theorem BodyVisit.seats {identifier : Nat} {arguments : List Ty} {visit : Visit}
    (inside : BodyVisit fuel state identifier arguments visit) (placed : state.Placed program) :
    visit.state.Seats program visit.frame visit.task := by
  have begins {function : DeclaredFunction} (opens : state.Opens identifier arguments function) :
      (state.begun function identifier arguments).Houses program state.next function.place
        function.body := by
    have entered := placed.entered opens.found arguments
    exact ⟨entered.placed.congr (.refl _) rfl, entered.present, entered.stands⟩
  cases inside with
  | statements opens => exact (begins opens).statements
  | tail opens equation found =>
      have begun := begins opens
      obtain ⟨grown, placed, _⟩ :=
        ((checksLast program fuel).checkAll _ _ _ _ _ begun.statements).of_ok equation
      exact (begun.later grown placed).tail found

theorem lasts_checkStatements {step : Nat} {stmts : List Stmt} (type : Ty)
    (seats : state.Seats program frame (.statements place step stmts)) :
    Lasts program state (checkStatements fuel frame place step type stmts state) := by
  induction stmts generalizing step type state with
  | nil => exact .pure seats.placed trivial
  | cons stmt stmts inductionHypothesis =>
      have placed := seats.placed
      have first := (checksLast program fuel).checkStmt frame (place.child step) stmt _
        (seats.later (.refl _) placed fun stands => stands 0 stmt rfl)
      refine (lasts_reporting first).bind fun found _ _ grown placed _ =>
        inductionHypothesis _ (seats.later grown placed fun stands index other isOther => ?_)
      rw [Nat.add_assoc, Nat.add_comm 1]
      exact stands (index + 1) other isOther

end Visits

section Program

variable {natives : Bindings Signature} {bound : Nat} {before after : List Stmt}

/-- The first statements of a program, before they are checked. -/
theorem seats_start (natives : Bindings Signature) (split : program = before ++ after) :
    (State.start natives).Seats program 0 (.statements (Place.root 0) 0 before) where
  placed identifier function found := by
    have none : (State.start natives).functions[identifier]? = none := rfl
    rw [none] at found
    cases found
  present := (stands_start natives).present
  stands index stmt found := by
    have depth : (State.start natives).scopes.depth 0 = 0 := by
      rw [Scopes.depth, State.start, ancestors_defineAll]
      rfl
    have present := (List.getElem?_eq_some_iff.1 found).1
    have top : program[index]? = some stmt := by
      rw [split, List.getElem?_append_left present, found]
    rw [Nat.zero_add, depth]
    exact Program.nodeAt?_top top

theorem Uncalled.placed {fuel identifier : Nat}
    (uncalled : Uncalled natives bound program fuel identifier state) : state.Placed program := by
  induction uncalled with
  | start equation =>
      have seats := seats_start natives (List.append_nil program).symm
      exact ((lasts_checkStatements .unit seats).of_ok equation).2.1
  | reached _ _ _ placed => exact placed
  | checked _ _ _ equation placed =>
      exact ((lasts_reporting ((checksLast program _).instantiate _ _ _ _ _ placed)).of_ok
        equation).2.1

/-- Every visit of a check is in a frame as deep as its place. -/
theorem Reaches.seats {visit : Visit} (reaches : Reaches natives bound program visit) :
    visit.state.Seats program visit.frame visit.task := by
  induction reaches with
  | @top before after stmt type state split equation =>
      have seats := seats_start natives split
      obtain ⟨grown, placed, _⟩ := (lasts_checkStatements .unit seats).of_ok equation
      have all : (State.start natives).Seats program 0 (.statements (Place.root 0) 0 program) :=
        seats_start natives (List.append_nil program).symm
      refine all.later grown placed fun stands => ?_
      have stood := stands before.length stmt (by simp [split])
      rw [Nat.zero_add] at stood
      exact stood
  | part _ calls seats => exact calls.seats seats
  | call _ callee arguments _ inside seats =>
      have last := checksLast program
      obtain ⟨_, placed, _⟩ := ((last _).typeOf _ _ _ _ seats.placed).of_ok callee
      obtain ⟨_, placed, _⟩ := ((last _).typesOf _ _ _ _ _ placed).of_ok arguments
      exact inside.seats placed
  | uncalled uncalled _ _ inside => exact inside.seats uncalled.placed

end Program

end Typing

end CheckedScript
