import CheckedScript.Proofs.Walks.Knowledge

/-!
# Recursive calls

A call that is met while the same call is being checked has the type of the first return met
so far.  The body in progress that answers it belongs to a call around it.  From then on, as
long as that body is in progress, its returns only grow at their end, so if the first one is
known, its type is what the call around comes to give back.
-/

namespace CheckedScript

namespace Typing

open Check

section Bodies

variable {before after : List Activation}

/-- A body in progress was in progress before, with fewer returns. -/
theorem Appended.split (appended : Appended before after) {front rest : List Activation}
    {activation : Activation} (split : after = front ++ activation :: rest) :
    ∃ front' former, before = front' ++ former :: rest ∧
      former.function = activation.function ∧ former.arguments = activation.arguments := by
  match before, after, appended with
  | [], [], _ =>
      cases front <;> cases split
  | first :: others, _ :: _, ⟨function, arguments, _, rfl⟩ =>
      cases front with
      | nil =>
          cases split
          exact ⟨[], first, rfl, function, arguments⟩
      | cons other front =>
          cases split
          exact ⟨first :: front, activation, rfl, rfl, rfl⟩

end Bodies

section Calls

variable {fuel : Nat} {frame : FrameId} {place : Place} {state after : State}

theorem StepChecked.appended {token : Token} {step : Option Expr}
    (checked : StepChecked fuel frame place token step state after) :
    Appended state.activations after.activations := by
  cases checked with
  | absent => exact .refl _
  | written equation => exact (((allKeep fuel).checkBound _ _ _ _ _).effect equation).activations

/-- On the walk over a tree the same bodies stay in progress. -/
theorem Visit.Calls.appended {visit called : Visit} (calls : visit.Calls called)
    (stands : visit.state.Stands visit.frame) :
    Appended visit.state.activations called.state.activations := by
  cases calls with
  | assigned | inner | items | operand | left | logicalLeft | callee | item | value | initializer
  | block | ifCondition | elseCondition | whileCondition | forStart | returned | first
  | blockStatements =>
      exact .refl _
  | right equation | logicalRight equation | arguments equation | otherItems equation =>
      exact (((allKeep _).typeOf _ _ _ _).effect equation).activations
  | ifConsequent equation | elseConsequent equation | whileBody equation =>
      exact (((allKeep _).checkCondition _ _ _ _ _).effect equation).activations
  | alternative condition consequent =>
      have effect := ((allKeep _).checkCondition _ _ _ _ _).effect condition
      exact effect.activations.trans
        (((allKeep _).checkBlock _ _ _ _ (effect.stands stands).present).effect
          consequent).activations
  | forStep equation _ => exact (((allKeep _).checkBound _ _ _ _ _).effect equation).activations
  | forStop equation checked =>
      exact (((allKeep _).checkBound _ _ _ _ _).effect equation).activations.trans checked.appended
  | forBody start checked stop =>
      have early := (((allKeep _).checkBound _ _ _ _ _).effect start).activations
      exact (early.trans checked.appended).trans
        (((allKeep _).checkBound _ _ _ _ _).effect stop).activations
  | blockTail equation =>
      exact (((allKeep _).checkAll _ _ _ _ _ stands.nested.present).effect equation).activations
  | others equation =>
      exact (((allKeep _).checkStmt _ _ _ _ stands.present).reporting.effect equation).activations

/-- A part of the work leaves the same bodies in progress, or it is the body of a call. -/
theorem Part.Calls.appended {part called : Part} (calls : part.Calls called)
    (stands : part.Stands) :
    Appended part.state.activations called.state.activations ∨
      ∃ fuel state name identifier arguments anchor function,
        part = .call (fuel + 2) state name identifier arguments anchor ∧
        state.Opens identifier arguments function ∧
        Appended ({ function := identifier, arguments := arguments, returns := [] } ::
          state.activations) called.state.activations := by
  cases calls with
  | walk calls _ => exact .inl (calls.appended stands)
  | request callee arguments _ =>
      exact .inl ((((allKeep _).typeOf _ _ _ _).effect callee).activations.trans
        (((allKeep _).typesOf _ _ _ _ _).effect arguments).activations)
  | body inside =>
      cases inside with
      | statements opens => exact .inr ⟨_, _, _, _, _, _, _, rfl, opens, .refl _⟩
      | tail opens equation _ =>
          have present := (opens.stands stands).present
          exact .inr ⟨_, _, _, _, _, _, _, rfl, opens,
            (((allKeep _).checkAll _ _ _ _ _ present).effect equation).activations⟩
  | first | unreached | reached | statements => exact .inl (.refl _)
  | others equation =>
      exact .inl
        (((allKeep _).checkStmt _ _ _ _ stands.present).reporting.effect equation).activations
  | otherUncalled _ _ equation =>
      exact .inl (((allKeep _).instantiate _ _ _ _ _).reporting.effect equation).activations
  | uncalled equation =>
      have effect := checkStatements_effect (State.stands_opened stands _).present equation
      exact .inl effect.activations
  | otherPrograms equation =>
      obtain ⟨middle, statements, uncalled⟩ := checkProgram_eq_ok equation
      have early := checkStatements_effect (State.stands_opened stands _).present statements
      exact .inl (early.activations.trans (checkUncalled_effect uncalled).activations)

/-- Every body in progress is the body of a call around. -/
theorem Part.Reaches.enclosed {root part : Part} (reaches : root.Reaches part)
    (stands : root.Stands) (idle : root.state.activations = []) {front rest : List Activation}
    {activation : Activation} (split : part.state.activations = front ++ activation :: rest) :
    ∃ fuel start name anchor function,
      root.Reaches (.call (fuel + 2) start name activation.function activation.arguments anchor) ∧
      start.Opens activation.function activation.arguments function ∧ start.activations = rest ∧
      Relation.TransGen Part.Calls
        (.call (fuel + 2) start name activation.function activation.arguments anchor) part := by
  induction reaches generalizing front activation with
  | refl =>
      rw [idle] at split
      cases front <;> cases split
  | @tail middle part earlier calls inductionHypothesis =>
      rcases calls.appended (Part.Reaches.stands earlier stands) with appended |
        ⟨fuel, state, name, identifier, arguments, anchor, function, rfl, opens, appended⟩
      · obtain ⟨front', former, split, function, arguments⟩ := appended.split split
        obtain ⟨fuel, start, name, anchor, declared, reaches, opens, same, inside⟩ :=
          inductionHypothesis split
        rw [function, arguments] at reaches opens inside
        exact ⟨fuel, start, name, anchor, declared, reaches, opens, same, inside.tail calls⟩
      · obtain ⟨front', former, split, sameFunction, sameArguments⟩ := appended.split split
        cases front' with
        | nil =>
            cases split
            dsimp only at sameFunction sameArguments
            subst sameFunction sameArguments
            exact ⟨fuel, state, name, anchor, function, earlier, opens, rfl, .single calls⟩
        | cons first front' =>
            obtain ⟨_, split⟩ := List.cons.inj split
            obtain ⟨fuel, start, name, anchor, declared, reaches, opens, same, inside⟩ :=
              inductionHypothesis split
            rw [sameFunction, sameArguments] at reaches opens inside
            exact ⟨fuel, start, name, anchor, declared, reaches, opens, same, inside.tail calls⟩

end Calls

/-- As long as the body around given ones is in progress, its returns only grow at their
end. -/
def growth (rest : List Activation) : Course Stop State where
  later before after := ∀ front activation, before.activations = front ++ activation :: rest →
    ∃ further grown, after.activations = further ++ grown :: rest ∧
      activation.returns <+: grown.returns
  state state := ∃ front activation, state.activations = front ++ activation :: rest
  stop _ _ := True
  refl _ front activation split := ⟨front, activation, split, List.prefix_refl _⟩
  trans first second front activation split := by
    obtain ⟨middle, grown, split, more⟩ := first front activation split
    obtain ⟨last, grown, split, further⟩ := second middle grown split
    exact ⟨last, grown, split, more.trans further⟩

section Growth

variable {rest : List Activation} {state after : State}

/-- The same bodies stay in progress. -/
theorem growth_of_same (known : (growth rest).state state)
    (same : after.activations = state.activations) : (growth rest).Steps state after := by
  refine ⟨fun front activation split => ⟨front, activation, same ▸ split, List.prefix_refl _⟩, ?_⟩
  obtain ⟨front, activation, split⟩ := known
  exact ⟨front, activation, same ▸ split⟩

/-- Another body is entered. -/
theorem growth_of_begun (known : (growth rest).state state) {activation : Activation}
    (entered : after.activations = activation :: state.activations) :
    (growth rest).Steps state after := by
  refine ⟨fun front around split =>
    ⟨activation :: front, around, by rw [entered, split]; rfl, List.prefix_refl _⟩, ?_⟩
  obtain ⟨front, around, split⟩ := known
  exact ⟨activation :: front, around, by rw [entered, split]; rfl⟩

theorem growth_of_addReturn (known : (growth rest).state state) (type : Ty) (keyword : Token) :
    (growth rest).Steps state (state.addReturn type keyword) := by
  -- The innermost body is the one around the given ones, or it is within that one.
  have step : ∀ front activation, state.activations = front ++ activation :: rest →
      ∃ further grown, (state.addReturn type keyword).activations = further ++ grown :: rest ∧
        activation.returns <+: grown.returns := by
    intro front activation split
    unfold State.addReturn
    cases front with
    | nil =>
        rw [split]
        exact ⟨[], _, rfl, List.prefix_append _ _⟩
    | cons first front =>
        rw [split]
        exact ⟨_ :: front, activation, rfl, List.prefix_refl _⟩
  refine ⟨step, ?_⟩
  obtain ⟨front, activation, split⟩ := known
  obtain ⟨further, grown, split, _⟩ := step front activation split
  exact ⟨further, grown, split⟩

/-- A body that was entered within the one around the given ones is left. -/
theorem growth_of_left {before : State} (known : (growth rest).state before)
    {activation : Activation} (appended : Appended (activation :: before.activations)
      state.activations) :
    (growth rest).Steps state { state with activations := state.activations.tail } := by
  obtain ⟨front, around, split⟩ := known
  have left : state.activations.tail = before.activations := by
    match state.activations, appended with
    | _ :: _, ⟨_, _, _, same⟩ => exact same.symm
  refine ⟨fun further grown isSplit => ?_, front, around, left.trans split⟩
  match shape : state.activations, appended with
  | other :: others, ⟨_, _, _, same⟩ =>
      rw [shape, ← same, split, ← List.cons_append] at isSplit
      obtain ⟨_, sameAround⟩ := List.append_inj' isSplit rfl
      cases sameAround
      refine ⟨front, around, ?_, List.prefix_refl _⟩
      rw [← split, same]
      rfl

/-- No step of a checker takes a return away from a body in progress. -/
theorem discipline_growth (rest : List Activation) :
    Discipline (fun _ => True) (growth rest) (fun _ => True) where
  toVariety := .any _
  closed _ _ _ _ := trivial
  stops _ _ := trivial
  report diagnostic known := by
    unfold State.report
    split
    · exact growth_of_same known rfl
    · exact growth_of_same known rfl
  note _ _ known _ := growth_of_same known rfl
  bind _ _ _ _ known _ := growth_of_same known rfl
  declare _ known := growth_of_same known rfl
  addReturn keyword known _ := growth_of_addReturn known _ keyword
  nested _ known := growth_of_same known rfl
  turn _ _ known := growth_of_same known rfl
  enter _ _ known _ := ⟨growth_of_same known rfl, growth_of_begun known rfl⟩
  leave _ _ known effect _ _ := growth_of_left known effect.activations
  remember _ _ _ _ known _ _ _ _ _ := growth_of_same known rfl

end Growth

/-- The first of several types, if it is known, is the one that a function gives back. -/
theorem chooseResult_of_known {type : Ty} {types : List Ty} (known : type.isKnown = true) :
    chooseResult (type :: types) = type := by
  rw [chooseResult, List.find?_cons_of_pos (by rw [Ty.hasUnknown_of_isKnown known]; rfl)]

section Results

variable {fuel : Nat} {start : State} {name : String} {identifier : Nat}
  {arguments : List Ty} {anchor : Token} {function : DeclaredFunction}

theorem State.prefix_collected (state : State) (function : DeclaredFunction)
    (fallThrough : Option Ty) :
    (state.activations.head?.map (·.returns)).getD [] <+: state.collected function fallThrough := by
  unfold State.collected
  cases fallThrough with
  | none => exact List.prefix_refl _
  | some type =>
      dsimp only
      split
      · exact List.prefix_refl _
      · exact List.prefix_append _ _

/-- A call for which a body is checked to its end gives back what its returns lead to. -/
theorem State.Opens.instantiate_ok {fallThrough : Option Ty} {last : State}
    (opens : start.Opens identifier arguments function)
    (through : AllKeep.throughBody fuel function start.next
      (start.begun function identifier arguments) = .ok fallThrough last) :
    instantiate (fuel + 2) name identifier arguments anchor start =
      let returns := last.collected function fallThrough
      let result := chooseResult (returns.map (·.1))
      .ok result (((returnMismatches name result returns).foldl State.report
        { last with activations := last.activations.tail }).setInstance identifier
          (arguments, start.generation) result) := by
  have body := checkBody_entered fuel start identifier arguments function
  rw [through] at body
  rw [instantiate_new name anchor opens.found opens.unknown opens.idle opens.few,
    show checkBody (fuel + 1) identifier arguments function start.scopes.frames.size _ = _ from
      body]

theorem State.Opens.instantiate_error {stop : Stop} {last : State}
    (opens : start.Opens identifier arguments function)
    (through : AllKeep.throughBody fuel function start.next
      (start.begun function identifier arguments) = .error stop last) :
    instantiate (fuel + 2) name identifier arguments anchor start = .error stop last := by
  have body := checkBody_entered fuel start identifier arguments function
  rw [through] at body
  rw [instantiate_new name anchor opens.found opens.unknown opens.idle opens.few,
    show checkBody (fuel + 1) identifier arguments function start.scopes.frames.size _ = _ from
      body]

/-- What a call comes to give back is the type of the first return that is met in its body,
if that one is known. -/
theorem State.Opens.result {after passed : State} {type : Ty}
    (opens : start.Opens identifier arguments function)
    (ends : (Part.call (fuel + 2) start name identifier arguments anchor).Ends after)
    (inside : (Part.call (fuel + 2) start name identifier arguments anchor).PassesInside passed)
    {front : List Activation} {activation : Activation}
    (split : passed.activations = front ++ activation :: start.activations) {token : Token}
    {others : List (Ty × Token)} (returns : activation.returns = (type, token) :: others)
    (known : type.isKnown = true) :
    after.instance? identifier (arguments, start.generation) = some type := by
  have begun : (growth start.activations).state (start.begun function identifier arguments) :=
    ⟨[], _, rfl⟩
  have discipline := discipline_growth start.activations
  have onward : ∀ ⦃called⦄,
      (Part.call (fuel + 2) start name identifier arguments anchor).Calls called → True :=
    fun _ _ => trivial
  have tells := (discipline.checksTell fuel).throughBody discipline onward opens begun
  have recovers := AllKeep.throughBody_recovers fuel function start.next
    (start.begun function identifier arguments)
  have keeps := AllKeep.throughBody_keeps (allKeep fuel) function start.next
    (start.begun function identifier arguments) (by simp [State.begun, AllKeep.entered, State.next])
  unfold Keeps at keeps
  change Leaves (instantiate _ _ _ _ _ _) after at ends
  cases equation : AllKeep.throughBody fuel function start.next
      (start.begun function identifier arguments) with
  | error stop last =>
      rw [opens.instantiate_error equation] at ends
      rw [equation] at recovers
      cases stop with
      | failed | reported => exact recovers.elim
      | faulted | exhausted => cases ends
  | ok fallThrough last =>
      rw [opens.instantiate_ok equation] at ends
      rw [equation] at keeps tells
      cases ends
      obtain ⟨further, grown, isLast, more⟩ :=
        tells.leads passed last inside .value front activation split
      have appended := Effect.activations keeps
      -- The bodies that were entered within have all been left.
      have alone : further = [] := by
        rw [isLast] at appended
        cases further with
        | nil => rfl
        | cons first further =>
            obtain ⟨_, _, _, same⟩ := appended
            have length := congrArg List.length same
            simp at length
            omega
      have first : ∃ others, last.collected function fallThrough = (type, token) :: others := by
        have grew := more.trans (show grown.returns <+: _ by
          simpa [isLast, alone] using last.prefix_collected function fallThrough)
        obtain ⟨further, same⟩ := grew
        rw [returns, List.cons_append] at same
        exact ⟨_, same.symm⟩
      obtain ⟨others, isFirst⟩ := first
      obtain ⟨declared, isDeclared, _⟩ := Effect.declarations keeps identifier function opens.found
      have functions := (AllKeep.functions_reports (returnMismatches name
        (chooseResult ((last.collected function fallThrough).map (·.1)))
        (last.collected function fallThrough))
        { last with activations := last.activations.tail }).1
      rw [Effect.instance?_setInstance _ _ _ _ _ _ (functions ▸ isDeclared), if_pos ⟨rfl, rfl⟩,
        isFirst, List.map_cons, chooseResult_of_known known]

end Results

/-- A call that is met while the same call is being checked, which has the type of the first
return met so far. -/
structure State.Recurs (state : State) (identifier : Nat) (arguments : List Ty)
    (activation : Activation) (type : Ty) : Prop where
  unknown : ∃ function, state.functions[identifier]? = some function ∧
    function.instances.get? (arguments, state.generation) = none
  active : (state.activations.find? fun activation =>
    activation.function = identifier && activation.arguments = arguments) = some activation
  first : ∃ token others, activation.returns = (type, token) :: others

theorem State.Recurs.instantiate_eq {state : State} {identifier : Nat} {arguments : List Ty}
    {activation : Activation} {type : Ty}
    (recurs : state.Recurs identifier arguments activation type)
    (fuel : Nat) (name : String) (anchor : Token) :
    instantiate (fuel + 1) name identifier arguments anchor state = .ok type state := by
  obtain ⟨⟨function, found, unknown⟩, active, token, others, returns⟩ := recurs
  have declared : declaration state.functions name identifier = .ok function :=
    declaration_eq_ok.2 found
  rw [instantiate]
  change (orFault (declaration state.functions name identifier) >>= _) state = _
  rw [declared]
  change EStateM.bind (pure function) _ state = _
  dsimp only [EStateM.bind, pure, EStateM.pure]
  rw [unknown, active]
  dsimp only
  rw [returns]
  rfl

/-- While the statements of a program are checked, all types that are kept are known, and so
are the types that functions are called with.  A call that is met while the same call is
being checked, and that has the type of the first return met so far, is within a call of the
same function for the same types whose body is in progress, and that type is what this call
comes to be remembered with. -/
theorem statements_keep_types_known (bound : Nat) (program : Program) :
    let root := Part.statementsOf bound (Native.signatures Native.defaults) program
    (∀ state, root.Passes state → state.Known) ∧
    (∀ fuel state name identifier arguments anchor,
      root.Reaches (.call fuel state name identifier arguments anchor) →
        ∀ type ∈ arguments, type.isKnown = true) ∧
    ∀ fuel state name identifier arguments anchor activation type,
      root.Reaches (.call (fuel + 1) state name identifier arguments anchor) →
      state.Recurs identifier arguments activation type →
      instantiate (fuel + 1) name identifier arguments anchor state = .ok type state ∧
      ∃ around start outer paren function,
        root.Reaches (.call (around + 2) start outer identifier arguments paren) ∧
        start.Opens identifier arguments function ∧
        (∃ front, state.activations = front ++ activation :: start.activations) ∧
        ∀ after, (Part.call (around + 2) start outer identifier arguments paren).Ends after →
          after.instance? identifier (arguments, start.generation) = some type := by
  intro root
  have natives : ∀ native ∈ Native.signatures Native.defaults,
      native.2.type.isKnown = true := by
    decide
  refine ⟨fun state passes => Part.Passes.known natives passes,
    fun fuel state name identifier arguments anchor reaches =>
      Part.Reaches.known_arguments natives reaches, ?_⟩
  intro fuel state name identifier arguments anchor activation type reaches recurs
  refine ⟨recurs.instantiate_eq fuel name anchor, ?_⟩
  obtain ⟨-, active, token, others, returns⟩ := recurs
  have member := List.mem_of_find?_eq_some active
  have isKnown : type.isKnown = true := by
    have known : state.Known := Part.Passes.known natives ⟨_, reaches, .inl rfl⟩
    exact known.returns activation member (type, token) (returns ▸ List.mem_cons_self)
  obtain ⟨front, rest, split⟩ := List.append_of_mem member
  obtain ⟨around, start, outer, paren, function, earlier, opens, same, inside⟩ :=
    Part.Reaches.enclosed reaches (State.stands_opened (.nil _) _) rfl split
  have found := List.find?_some active
  simp only [Bool.and_eq_true, decide_eq_true_eq] at found
  obtain ⟨rfl, rfl⟩ := found
  refine ⟨around, start, outer, paren, function, earlier, opens, ⟨front, same ▸ split⟩, ?_⟩
  intro after ends
  obtain ⟨next, calls, further⟩ := Relation.TransGen.head'_iff.1 inside
  exact opens.result ends ⟨next, calls, _, further, .inl rfl⟩ (same ▸ split) returns isKnown

/-- The program `fun f(n) { if n { return n; } f(n) } f(true);`. -/
def answeredEarly : Program :=
  let word (lexeme : String) (column : Nat) : Token :=
    { kind := .identifier, lexeme := lexeme, position := ⟨0, column⟩ }
  let sign (symbol : Symbol) (column : Nat) : Token :=
    { kind := .symbol symbol, lexeme := symbol.spelling, position := ⟨0, column⟩ }
  let reserved (keyword : Keyword) (column : Nat) : Token :=
    { kind := .keyword keyword, lexeme := keyword.spelling, position := ⟨0, column⟩ }
  let branch : Block := .mk (sign .leftBrace 17)
    [.giveBack (reserved .returnWord 19) (some (.reference (word "n" 26)))] none
  let again : Expr := .call (.reference (word "f" 31)) (sign .rightParen 34)
    [.reference (word "n" 33)]
  [.function (word "f" 4) [word "n" 6] (.mk (sign .leftBrace 9)
      [.ifThen (reserved .ifWord 12) (.reference (word "n" 15)) branch] (some again)),
    .expression (.call (.reference (word "f" 38)) (sign .rightParen 44)
      [.literal (.bool true) (reserved .trueWord 40)])]

theorem statements_keep_types_known_answeredEarly :
    let root := Part.statementsOf 20 (Native.signatures Native.defaults) answeredEarly
    (∃ after, root.Ends after) ∧
    ∃ fuel state name anchor activation,
      root.Reaches (.call (fuel + 1) state name 0 [.bool] anchor) ∧
      state.Recurs 0 [.bool] activation .bool ∧
      ∃ around start outer paren function,
        root.Reaches (.call (around + 2) start outer 0 [.bool] paren) ∧
        start.Opens 0 [.bool] function ∧
        (∃ front, state.activations = front ++ activation :: start.activations) ∧
        ∀ after, (Part.call (around + 2) start outer 0 [.bool] paren).Ends after →
          after.instance? 0 ([.bool], start.generation) = some .bool := by
  intro root
  have checked : root.Reaches (.visit ⟨20, _, _, .statement _ _⟩) :=
    (Relation.ReflTransGen.single (.others rfl)).tail .first
  have called : root.Reaches (.call 16 _ _ 0 [.bool] _) :=
    (checked.tail (.walk .value rfl)).tail (.request rfl rfl rfl)
  have again : root.Reaches (.call 11 _ _ 0 [.bool] _) :=
    (called.tail (.body (.tail ⟨rfl, rfl, rfl, by decide⟩ rfl rfl))).tail (.request rfl rfl rfl)
  exact ⟨⟨_, .value⟩, 10, _, _, _, _, again, ⟨⟨_, rfl, rfl⟩, rfl, _, _, rfl⟩,
    ((statements_keep_types_known 20 answeredEarly).2.2 10 _ _ _ _ _ _ _ again
      ⟨⟨_, rfl, rfl⟩, rfl, _, _, rfl⟩).2⟩

end Typing

end CheckedScript
