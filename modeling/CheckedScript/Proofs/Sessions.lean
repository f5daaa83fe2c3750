import CheckedScript.Proofs.Moving.Checking
import CheckedScript.Proofs.Typing.Bounds
import CheckedScript.Proofs.Typing.Rest
import CheckedScript.Run

/-!
# One checker for several programs

A checker that has come to its verdict on a program is at rest.  When it goes on to
the next program, the check goes the way of the check by a new checker, put behind
everything that has been checked before.  So the verdict, the diagnostics and the
types of a program do not depend on the programs before it, except that a rejection
holds for all later programs, and that no diagnostic is reported twice.
-/

namespace CheckedScript

namespace Diagnostic

/-- The diagnostics without those whose key has occurred before. -/
def dropRepeated (diagnostics : List Diagnostic) : List Diagnostic :=
  diagnostics.eraseDupsBy fun later earlier => later.key = earlier.key

theorem dropRepeated_cons (diagnostic : Diagnostic) (diagnostics : List Diagnostic) :
    dropRepeated (diagnostic :: diagnostics) =
      diagnostic :: dropRepeated (diagnostics.filter (·.key ≠ diagnostic.key)) := by
  rw [dropRepeated, List.eraseDupsBy_cons]
  simp [dropRepeated]

theorem dropRepeated_eq_nil {diagnostics : List Diagnostic} :
    dropRepeated diagnostics = [] ↔ diagnostics = [] := by
  cases diagnostics with
  | nil => simp [dropRepeated]
  | cons diagnostic diagnostics => simp [dropRepeated_cons]

theorem dropRepeated_of_nodup {diagnostics : List Diagnostic}
    (apart : (diagnostics.map key).Nodup) : dropRepeated diagnostics = diagnostics := by
  induction diagnostics with
  | nil => rfl
  | cons diagnostic diagnostics inductionHypothesis =>
      obtain ⟨new, apart⟩ := List.nodup_cons.1 apart
      have all : diagnostics.filter (·.key ≠ diagnostic.key) = diagnostics := by
        refine List.filter_eq_self.2 fun later member => decide_eq_true fun same => new ?_
        exact List.mem_map.2 ⟨later, member, same⟩
      rw [dropRepeated_cons, all, inductionHypothesis apart]

/-- Of diagnostics that differ from each other, those with new keys are kept. -/
theorem dropRepeated_append (first : List Diagnostic) {second : List Diagnostic}
    (apart : (second.map key).Nodup) :
    dropRepeated (first ++ second) = dropRepeated first ++
      second.filter fun later => !(dropRepeated first).any fun known => known.key = later.key := by
  match first with
  | [] =>
      rw [List.nil_append, dropRepeated_of_nodup apart]
      exact (List.filter_eq_self.2 fun _ _ => rfl).symm
  | diagnostic :: first =>
      have apartStill : ((second.filter (·.key ≠ diagnostic.key)).map key).Nodup :=
        apart.sublist (List.filter_sublist.map key)
      have rest := dropRepeated_append (first.filter (·.key ≠ diagnostic.key)) apartStill
      rw [List.cons_append, dropRepeated_cons, dropRepeated_cons, List.filter_append, rest,
        List.cons_append, List.filter_filter]
      congr 3
      funext later
      by_cases same : later.key = diagnostic.key <;> simp [same, eq_comm]
termination_by first.length
decreasing_by
  exact Nat.lt_succ_of_le (List.length_filter_le _ _)

end Diagnostic

namespace Typing

namespace Place

theorem getLast?_raiseLast (offset : Nat) (steps : List Nat) :
    (raiseLast offset steps).getLast? = steps.getLast?.map (· + offset) := by
  fun_induction raiseLast offset steps with
  | case1 => rfl
  | case2 program => rfl
  | case3 step next steps inductionHypothesis =>
      cases raised : raiseLast offset (next :: steps) with
      | nil => cases steps <;> cases raised
      | cons other others =>
          rw [List.getLast?_cons_cons, List.getLast?_cons_cons, ← inductionHypothesis, raised]

/-- Raised places lie in later programs. -/
theorem not_within_raise (offset : Nat) (place : Place) : ¬ (place.raise offset).Within offset := by
  rintro ⟨program, last, lower⟩
  rw [raise, getLast?_raiseLast] at last
  obtain ⟨former, _, rfl⟩ := Option.map_eq_some_iff.1 last
  omega

end Place

namespace State

/-- A check has come to its end: no body is in progress, every function has been
reached, and all notes are about the programs so far. -/
structure AtRest (state : State) : Prop where
  idle : state.activations = []
  reached : ∀ identifier < state.functions.size, state.Reached identifier
  tidy : state.Tidy state.programs

/-- A new checker. -/
theorem AtRest.new : ({} : State).AtRest where
  idle := rfl
  reached _ lower := absurd lower (Nat.not_lt_zero _)
  tidy := .new

variable {front : State}

theorem AtRest.unnoted (rest : front.AtRest) (place : Place) :
    front.types.get? (place.raise front.programs) = none := by
  cases found : front.types.get? (place.raise front.programs) with
  | none => rfl
  | some note => exact absurd (rest.tidy.types _ note found) (Place.not_within_raise _ place)

/-- The next check is put behind those that have come to their end. -/
def AtRest.relocation (rest : front.AtRest) : Relocation where
  moved := id
  injective := Function.injective_id
  front := front
  unnoted place _ := rest.unnoted place
  limit := 1

/-- Checking goes on from the state that was left. -/
theorem AtRest.relocation_state_new (rest : front.AtRest) : rest.relocation.state {} = front := by
  obtain ⟨scopes, diagnostics, types, functions, activations, generation, programs⟩ := front
  obtain rfl : activations = [] := rest.idle
  simp [Relocation.state, Relocation.diagnostics, Scopes.behind, relocation]

end State

end Typing

namespace Check

open Typing

variable {fuel : Nat} {natives : Bindings Signature} {program : Program} {type : Ty}
  {front after : State}

theorem checkProgram_eq_ok (equation : checkProgram fuel natives program front = .ok type after) :
    ∃ middle, checkTop fuel natives program front = .ok type middle ∧
      checkUncalled fuel 0 middle = .ok () after := by
  rw [checkProgram_eq] at equation
  obtain ⟨found, middle, top, rest⟩ := bind_eq_ok equation
  obtain ⟨_, last, uncalled, rest⟩ := bind_eq_ok rest
  obtain ⟨rfl, rfl⟩ := pure_eq_ok rest
  exact ⟨middle, top, uncalled⟩

theorem checkProgram_of_eq_ok {middle : State}
    (top : checkTop fuel natives program front = .ok type middle)
    (uncalled : checkUncalled fuel 0 middle = .ok () after) :
    checkProgram fuel natives program front = .ok type after := by
  rw [checkProgram_eq, bind_apply, top]
  change (checkUncalled fuel 0 >>= _) middle = _
  rw [bind_apply, uncalled]
  rfl

theorem extends_checkTop (fuel : Nat) (natives : Bindings Signature) (program : Program) :
    Extends (checkTop fuel natives program) (checkTop (fuel + 1) natives program) :=
  (Extends.refl _).bind fun _ => (Extends.refl _).bind fun _ => extends_checkStatements fuel _ _ _ _ _

/-- A check that succeeds goes on to succeed under larger bounds. -/
theorem Extends.eq_ok {α : Type} {first second : Check α} (ends : Extends first second) {value : α}
    {before after : State} (equation : first before = .ok value after) :
    second before = .ok value after := by
  rcases ends before with ⟨last, used⟩ | same
  · rw [used] at equation
    cases equation
  · rw [same, equation]

theorem idle_of_checkTop (idle : front.activations = [])
    (equation : checkTop fuel natives program front = .ok type after) : after.activations = [] := by
  have statements : checkStatements fuel front.scopes.frames.size (Place.root front.programs) 0
      .unit program (front.opened natives) = .ok type after := equation
  refine (checkStatements_effect ?_ statements).idle idle
  simp [State.opened, Scopes.addRoot, Scopes.add]

theorem tidy_of_checkProgram (tidy : front.Tidy front.programs)
    (equation : checkProgram fuel natives program front = .ok type after) :
    after.Tidy (front.programs + 1) := by
  obtain ⟨middle, top, uncalled⟩ := checkProgram_eq_ok equation
  let relocation := Relocation.ofMove Function.injective_id (front.programs + 1)
  have carries := moves_checkTop relocation fuel (fun _ _ => Ty.rename_id _) program
    (tidy.opened natives)
  have tidyMiddle := (carries.eq_ok top).2
  exact ((moves_checkUncalled relocation fuel 0 middle tidyMiddle).eq_ok uncalled).2

theorem atRest_of_checkProgram (rest : front.AtRest)
    (equation : checkProgram fuel natives program front = .ok type after) :
    after.AtRest ∧ after.programs = front.programs + 1 := by
  obtain ⟨middle, top, uncalled⟩ := checkProgram_eq_ok equation
  have idle := idle_of_checkTop rest.idle top
  have tidy := tidy_of_checkProgram rest.tidy equation
  refine ⟨⟨(checkUncalled_effect uncalled).idle idle, fun identifier declared => ?_, ?_⟩,
    tidy.programs⟩
  · exact reached_of_checkUncalled idle uncalled (Nat.zero_le identifier) declared
  · rw [tidy.programs]
    exact tidy

section Behind

variable (rest : front.AtRest)

/-- Functions of earlier programs stay reached. -/
theorem reached_behind (state : State) {identifier : Nat}
    (earlier : identifier < front.functions.size) :
    (rest.relocation.state state).Reached identifier := by
  obtain ⟨function, found, present⟩ := State.reached_iff.1 (rest.reached identifier earlier)
  refine State.reached_iff.2 ⟨function, ?_, present⟩
  change (front.functions ++ _)[identifier]? = _
  rw [Array.getElem?_append_left earlier, found]

variable (closed : ∀ native ∈ natives, native.2.type.isClosed = true)

include closed in
theorem carries_checkTop (fuel : Nat) (program : Program) :
    rest.relocation.motion.Carries rest.relocation.type {} (checkTop fuel natives program)
      (checkTop fuel natives program) := by
  have carries := moves_checkTop rest.relocation fuel
    (fun native member => rest.relocation.type_of_isClosed (closed native member)) program
    (State.Tidy.new.opened natives)
  have same : program.map (Stmt.move rest.relocation.moved) = program :=
    (List.map_congr_left fun stmt _ => stmt.move_id).trans (List.map_id program)
  rwa [same] at carries

include closed in
/-- What a new checker finds, a checker at rest finds too, behind what it has found
before. -/
theorem checkProgram_behind (equation : checkProgram fuel natives program {} = .ok type after) :
    checkProgram (fuel + front.functions.size) natives program front =
      .ok (rest.relocation.type type) (rest.relocation.state after) := by
  obtain ⟨middle, top, uncalled⟩ := checkProgram_eq_ok equation
  obtain ⟨topBehind, tidy⟩ := (carries_checkTop rest closed fuel program).eq_ok top
  have uncalledBehind :=
    ((moves_checkUncalled rest.relocation fuel 0 middle tidy).eq_ok uncalled).1
  dsimp only [Relocation.motion] at topBehind uncalledBehind
  rw [rest.relocation_state_new] at topBehind
  refine checkProgram_of_eq_ok
    ((Extends.of_le (extends_checkTop · natives program) (Nat.le_add_right _ _)).eq_ok topBehind) ?_
  rw [checkUncalled_skip fuel fun other _ earlier =>
    reached_behind rest middle (Nat.zero_add front.functions.size ▸ earlier)]
  exact uncalledBehind

include closed in
/-- A checker at rest finds nothing else. -/
theorem exists_new_of_checkProgram
    (equation : checkProgram fuel natives program front = .ok type after) :
    ∃ found last, checkProgram fuel natives program {} = .ok found last ∧
      type = rest.relocation.type found ∧ after = rest.relocation.state last := by
  obtain ⟨middleBehind, topBehind, uncalledBehind⟩ := checkProgram_eq_ok equation
  have carries := carries_checkTop rest closed fuel program
  have start : rest.relocation.motion.state {} = front := rest.relocation_state_new
  obtain ⟨found, middle, top, rfl, rfl, tidy⟩ := carries.of_eq_ok (start ▸ topBehind)
  obtain ⟨left, rfl, uncalledLeft⟩ := checkUncalled_eq_ok_of_reached
    (fun other _ earlier =>
      reached_behind rest middle (Nat.zero_add front.functions.size ▸ earlier)) uncalledBehind
  have moves := moves_checkUncalled rest.relocation left 0 middle tidy
  obtain ⟨_, last, uncalled, _, rfl, _⟩ := moves.of_eq_ok uncalledLeft
  refine ⟨found, last, checkProgram_of_eq_ok top ?_, rfl, rfl⟩
  exact (Extends.of_le (extends_checkUncalled · 0) (Nat.le_add_right _ _)).eq_ok uncalled

end Behind

theorem extends_checkProgram (fuel : Nat) (natives : Bindings Signature) (program : Program) :
    Extends (checkProgram fuel natives program) (checkProgram (fuel + 1) natives program) := by
  rw [checkProgram_eq, checkProgram_eq]
  exact (extends_checkTop fuel natives program).bind fun _ =>
    (extends_checkUncalled fuel 0).bind fun _ => .refl _

/-- The bound has no influence on what a check finds. -/
theorem checkProgram_unique {other : Nat} {otherType : Ty} {otherAfter : State}
    (equation : checkProgram fuel natives program front = .ok type after)
    (otherEquation : checkProgram other natives program front = .ok otherType otherAfter) :
    type = otherType ∧ after = otherAfter := by
  have first := (Extends.of_le (extends_checkProgram · natives program)
    (Nat.le_max_left fuel other)).eq_ok equation
  have second := (Extends.of_le (extends_checkProgram · natives program)
    (Nat.le_max_right fuel other)).eq_ok otherEquation
  cases first.symm.trans second
  exact ⟨rfl, rfl⟩

end Check

/-- The diagnostics of a rejection. -/
def CheckResult.diagnostics : CheckResult → List Diagnostic
  | rejected rejection => rejection.diagnostics
  | _ => []

namespace Typing

open Check

/-- The verdict on a program that has been checked up to its end. -/
def State.verdict (state : State) (type : Ty) : CheckResult :=
  if state.diagnostics.isEmpty then
    .accepted type
  else
    .rejected { phase := .checking, diagnostics := state.diagnostics }

/-- A checker comes to accept or reject a program. -/
def State.Decides (state : State) (natives : Bindings Signature) (program : Program)
    (result : CheckResult) (after : State) : Prop :=
  (∃ fuel, state.check fuel natives program = (result, after)) ∧
    ((∃ type, result = .accepted type) ∨ ∃ rejection, result = .rejected rejection)

/-- The diagnostics that a new checker reports for a program. -/
def Reports (natives : Bindings Signature) (program : Program) (diagnostics : List Diagnostic) :
    Prop :=
  ∃ result after, ({} : State).Decides natives program result after ∧
    result.diagnostics = diagnostics

/-- The states of a checker that comes to a verdict on one program after the other. -/
inductive Session (natives : Bindings Signature) : List Program → State → Prop where
  | start : Session natives [] {}
  | next {programs : List Program} {state after : State} {program : Program}
      {result : CheckResult} (session : Session natives programs state)
      (decides : state.Decides natives program result after) :
      Session natives (programs ++ [program]) after

variable {natives : Bindings Signature} {program : Program} {result : CheckResult}
  {front after : State}

namespace State

@[simp]
theorem diagnostics_verdict (state : State) (type : Ty) :
    (state.verdict type).diagnostics = state.diagnostics := by
  unfold verdict
  split
  · next empty => exact (List.isEmpty_iff.1 empty).symm
  · rfl

theorem verdict_eq_accepted {state : State} {type found : Ty} :
    state.verdict type = .accepted found ↔ state.diagnostics = [] ∧ type = found := by
  unfold verdict
  split <;> simp_all

theorem verdict_eq_rejected {state : State} {type : Ty} {rejection : Rejection} :
    state.verdict type = .rejected rejection ↔
      state.diagnostics ≠ [] ∧
        rejection = { phase := .checking, diagnostics := state.diagnostics } := by
  unfold verdict
  split
  · next empty => simp [List.isEmpty_iff.1 empty]
  · next reported =>
      have reported : state.diagnostics ≠ [] := fun none => reported (List.isEmpty_iff.2 none)
      simp [reported, eq_comm (a := rejection)]

theorem check_of_eq_ok {fuel : Nat} {type : Ty}
    (equation : checkProgram fuel natives program front = .ok type after) :
    front.check fuel natives program = (after.verdict type, after) := by
  unfold State.check verdict
  rw [equation]
  dsimp only
  split <;> rfl

theorem decides_iff :
    front.Decides natives program result after ↔
      ∃ fuel type, checkProgram fuel natives program front = .ok type after ∧
        result = after.verdict type := by
  constructor
  · rintro ⟨⟨fuel, checked⟩, verdict⟩
    match equation : checkProgram fuel natives program front with
    | .ok type last =>
        rw [check_of_eq_ok equation] at checked
        obtain ⟨rfl, rfl⟩ := Prod.mk.inj checked
        exact ⟨fuel, type, equation, rfl⟩
    | .error stop last =>
        unfold State.check at checked
        rw [equation] at checked
        cases stop <;> cases checked <;> rcases verdict with ⟨_, same⟩ | ⟨_, same⟩ <;> cases same
  · rintro ⟨fuel, type, equation, rfl⟩
    refine ⟨⟨fuel, check_of_eq_ok equation⟩, ?_⟩
    unfold verdict
    split
    · exact .inl ⟨type, rfl⟩
    · exact .inr ⟨_, rfl⟩

theorem Decides.unique {other : CheckResult} {otherAfter : State}
    (decides : front.Decides natives program result after)
    (otherDecides : front.Decides natives program other otherAfter) :
    result = other ∧ after = otherAfter := by
  obtain ⟨fuel, type, equation, rfl⟩ := decides_iff.1 decides
  obtain ⟨otherFuel, otherType, otherEquation, rfl⟩ := decides_iff.1 otherDecides
  obtain ⟨rfl, rfl⟩ := checkProgram_unique equation otherEquation
  exact ⟨rfl, rfl⟩

end State

theorem rightUnique_reports (natives : Bindings Signature) :
    Relator.RightUnique (Reports natives) := by
  rintro program _ _ ⟨result, after, decides, rfl⟩ ⟨other, otherAfter, otherDecides, rfl⟩
  rw [(decides.unique otherDecides).1]

/-- A program for which something is reported is rejected. -/
theorem Reports.rejected_iff {diagnostics : List Diagnostic}
    (reports : Reports natives program diagnostics) :
    (∃ rejection after, ({} : State).Decides natives program (.rejected rejection) after) ↔
      diagnostics ≠ [] := by
  obtain ⟨result, after, decides, rfl⟩ := reports
  obtain ⟨fuel, type, equation, rfl⟩ := State.decides_iff.1 decides
  rw [State.diagnostics_verdict]
  constructor
  · rintro ⟨rejection, last, rejects⟩
    exact (State.verdict_eq_rejected.1 (decides.unique rejects).1).1
  · intro reported
    rw [State.verdict_eq_rejected.2 ⟨reported, rfl⟩] at decides
    exact ⟨_, after, decides⟩

section Steps

variable (closed : ∀ native ∈ natives, native.2.type.isClosed = true)

include closed in
/-- A checker at rest comes to a verdict where a new checker does. -/
theorem State.AtRest.decides_iff_new (rest : front.AtRest) :
    (∃ result after, front.Decides natives program result after) ↔
      ∃ result after, ({} : State).Decides natives program result after := by
  simp only [State.decides_iff]
  constructor
  · rintro ⟨result, after, fuel, type, equation, _⟩
    obtain ⟨found, last, equation, _⟩ := exists_new_of_checkProgram rest closed equation
    exact ⟨_, last, fuel, found, equation, rfl⟩
  · rintro ⟨result, last, fuel, found, equation, _⟩
    exact ⟨_, _, _, _, checkProgram_behind rest closed equation, rfl⟩

/-- Only new diagnostics are added. -/
theorem State.AtRest.diagnostics_relocation (rest : front.AtRest) {last : State}
    {earlier : List Diagnostic} (before : front.diagnostics = Diagnostic.dropRepeated earlier)
    (apart : (last.diagnostics.map Diagnostic.key).Nodup) :
    (rest.relocation.state last).diagnostics =
      Diagnostic.dropRepeated (earlier ++ last.diagnostics) := by
  rw [Diagnostic.dropRepeated_append earlier apart, ← before]
  have same : last.diagnostics.map (Diagnostic.move id) = last.diagnostics :=
    List.map_id last.diagnostics
  change front.diagnostics ++ (last.diagnostics.map (Diagnostic.move id)).filter _ = _
  rw [same]
  rfl

/-- What is known of a checker between two programs: it is at rest, and its diagnostics
are those that new checkers report. -/
structure Accounted (natives : Bindings Signature) (programs : List Program)
    (reports : List (List Diagnostic)) (state : State) : Prop where
  rest : state.AtRest
  length : state.programs = programs.length
  reported : List.Forall₂ (Reports natives) programs reports
  diagnostics : state.diagnostics = Diagnostic.dropRepeated reports.flatten

variable {programs : List Program} {reports : List (List Diagnostic)}

include closed in
/-- One step of a session. -/
theorem Accounted.next (accounted : Accounted natives programs reports front)
    (decides : front.Decides natives program result after) :
    ∃ found last, ({} : State).Decides natives program (last.verdict found) last ∧
      after = accounted.rest.relocation.state last ∧
      result = after.verdict (accounted.rest.relocation.type found) ∧
      Accounted natives (programs ++ [program]) (reports ++ [last.diagnostics]) after := by
  obtain ⟨fuel, type, equation, rfl⟩ := State.decides_iff.1 decides
  obtain ⟨found, last, new, rfl, rfl⟩ := exists_new_of_checkProgram accounted.rest closed equation
  obtain ⟨rest, number⟩ := atRest_of_checkProgram accounted.rest equation
  have apart := (atRest_of_checkProgram .new new).1.tidy.apart
  have decidesNew : ({} : State).Decides natives program (last.verdict found) last :=
    State.decides_iff.2 ⟨fuel, found, new, rfl⟩
  refine ⟨found, last, decidesNew, rfl, rfl, rest, ?_, ?_, ?_⟩
  · rw [number, accounted.length, List.length_append]
    rfl
  · refine List.rel_append accounted.reported (.cons ⟨_, last, decidesNew, ?_⟩ .nil)
    exact last.diagnostics_verdict found
  · rw [accounted.rest.diagnostics_relocation accounted.diagnostics apart, List.flatten_append,
      List.flatten_singleton]

include closed in
/-- A whole session. -/
theorem Session.accounted {state : State} (session : Session natives programs state) :
    ∃ reports, Accounted natives programs reports state := by
  induction session with
  | start => exact ⟨[], .new, rfl, .nil, rfl⟩
  | next _ decides inductionHypothesis =>
      obtain ⟨reports, accounted⟩ := inductionHypothesis
      obtain ⟨found, last, _, _, _, accountedAfter⟩ := accounted.next closed decides
      exact ⟨_, accountedAfter⟩

end Steps

/-- The notes on a program stand behind those on the programs before. -/
theorem State.AtRest.get?_types_relocation (rest : front.AtRest) (last : State) (place : Place) :
    (rest.relocation.state last).types.get? (place.raise front.programs) =
      (last.types.get? place).map (Prod.map id rest.relocation.type) := by
  have changed := Table.get?_change (Place.raise_injective front.programs)
    (Prod.map (Expr.move rest.relocation.moved) rest.relocation.type) last.types place
  have same : Expr.move rest.relocation.moved = id := Expr.move_id_eq
  refine (Table.get?_append (rest.unnoted place) _).trans (changed.trans ?_)
  rw [same]

/-- Something is reported for programs one of which is rejected. -/
theorem flatten_reports_ne_nil_iff {programs : List Program} {reports : List (List Diagnostic)}
    (reported : List.Forall₂ (Reports natives) programs reports) :
    reports.flatten ≠ [] ↔ ∃ program ∈ programs, ∃ rejection last,
      ({} : State).Decides natives program (.rejected rejection) last := by
  induction reported with
  | nil => simp
  | cons first _ inductionHypothesis =>
      rw [List.flatten_cons, ne_eq, List.append_eq_nil_iff, Classical.not_and_iff_not_or_not,
        ← ne_eq, ← ne_eq, inductionHypothesis, ← first.rejected_iff]
      simp only [List.mem_cons, exists_eq_or_imp]

/-- The verdict on a program does not depend on the programs that the checker has seen
before, except that it rejects everything once one of them is rejected.  The diagnostics
are then those of all programs, each one once.  A program that is accepted has the types
that a new checker finds, in which the functions have other identifiers. -/
theorem Session.independent_of_history
    (closed : ∀ native ∈ natives, native.2.type.isClosed = true) {programs : List Program}
    {state : State} (session : Session natives programs state) (program : Program) :
    ((∃ result after, state.Decides natives program result after) ↔
      ∃ result after, ({} : State).Decides natives program result after) ∧
    ∀ result after, state.Decides natives program result after →
      ((∃ rejection, result = .rejected rejection) ↔
        ∃ earlier ∈ programs ++ [program], ∃ rejection last,
          ({} : State).Decides natives earlier (.rejected rejection) last) ∧
      (∀ rejection, result = .rejected rejection →
        ∃ reports, (∀ other, List.Forall₂ (Reports natives) (programs ++ [program]) other ↔
            other = reports) ∧
          rejection =
            { phase := .checking, diagnostics := Diagnostic.dropRepeated reports.flatten }) ∧
      ∀ type, result = .accepted type →
        ∃ found last renamed, ({} : State).Decides natives program (.accepted found) last ∧
          renamed.Injective ∧ type = found.rename renamed ∧
          ∀ place : Place, after.types.get? (place.raise programs.length) =
            (last.types.get? place).map (Prod.map id (Ty.rename renamed)) := by
  obtain ⟨reports, accounted⟩ := session.accounted closed
  refine ⟨accounted.rest.decides_iff_new closed, fun result after decides => ?_⟩
  obtain ⟨found, last, new, same, rfl, accountedAfter⟩ := accounted.next closed decides
  refine ⟨?_, fun rejection rejected => ?_, fun type accepted => ?_⟩
  · rw [← flatten_reports_ne_nil_iff accountedAfter.reported, ne_eq,
      ← Diagnostic.dropRepeated_eq_nil, ← accountedAfter.diagnostics]
    simp [State.verdict_eq_rejected]
  · refine ⟨_, fun other => ⟨fun reported => ?_, fun same => same ▸ accountedAfter.reported⟩, ?_⟩
    · exact List.right_unique_forall₂' (rightUnique_reports natives) reported
        accountedAfter.reported
    · rw [← accountedAfter.diagnostics]
      exact (State.verdict_eq_rejected.1 rejected).2
  · obtain ⟨none, rfl⟩ := State.verdict_eq_accepted.1 accepted
    refine ⟨found, last, accounted.rest.relocation.identifier, ?_,
      accounted.rest.relocation.identifier_injective, rfl, ?_⟩
    · have all := Diagnostic.dropRepeated_eq_nil.1 (accountedAfter.diagnostics.symm.trans none)
      have clean : last.diagnostics = [] := List.flatten_eq_nil_iff.1 all _ (by simp)
      rwa [State.verdict_eq_accepted.2 ⟨clean, rfl⟩] at new
    · rw [← accounted.length, same]
      exact accounted.rest.get?_types_relocation last

/-- Behind a program that uses an undefined name, a program without statements is
rejected, and so is the same program once more; the diagnostic is reported once. -/
theorem Session.independent_of_history_undefinedName :
    let natives := Native.signatures Native.defaults
    let name : Token := { kind := .identifier, lexeme := "x", position := ⟨0, 0⟩ }
    let diagnostic : Diagnostic := { cause := .undefinedName, token := name }
    let first : Program := [.expression (.reference name)]
    (∀ native ∈ natives, native.2.type.isClosed = true) ∧
      ∃ state, Session natives [first] state ∧ ∀ program ∈ [[], first], ∃ after,
        state.Decides natives program
          (.rejected { phase := .checking, diagnostics := [diagnostic] }) after := by
  intro natives name diagnostic first
  have closed : ∀ native ∈ natives, native.2.type.isClosed = true := by decide
  have rejects : ({} : State).Decides natives first
      (.rejected { phase := .checking, diagnostics := [diagnostic] })
      (({} : State).check 4 natives first).2 :=
    ⟨⟨4, rfl⟩, .inr ⟨_, rfl⟩⟩
  have accepts : ({} : State).Decides natives [] (.accepted .unit)
      (({} : State).check 4 natives []).2 :=
    ⟨⟨4, rfl⟩, .inl ⟨_, rfl⟩⟩
  have session : Session natives [first] (({} : State).check 4 natives first).2 :=
    .next .start rejects
  refine ⟨closed, _, session, fun program member => ?_⟩
  obtain ⟨decided, decides⟩ := session.independent_of_history closed program
  have alone : ∃ result after, ({} : State).Decides natives program result after ∧
      Diagnostic.dropRepeated ([diagnostic] ++ result.diagnostics) = [diagnostic] := by
    simp only [List.mem_cons, List.not_mem_nil, or_false] at member
    rcases member with rfl | rfl
    · exact ⟨_, _, accepts, rfl⟩
    · exact ⟨_, _, rejects, rfl⟩
  obtain ⟨fresh, last, new, repeated⟩ := alone
  obtain ⟨result, after, decidesNow⟩ := decided.2 ⟨fresh, last, new⟩
  obtain ⟨rejected, diagnostics, _⟩ := decides result after decidesNow
  obtain ⟨rejection, rfl⟩ := rejected.2 ⟨first, by simp, _, _, rejects⟩
  obtain ⟨reports, exactly, rfl⟩ := diagnostics rejection rfl
  have reported : [[diagnostic], fresh.diagnostics] = reports :=
    (exactly _).1 (.cons ⟨_, _, rejects, rfl⟩ (.cons ⟨_, _, new, rfl⟩ .nil))
  refine ⟨after, ?_⟩
  rw [← reported] at decidesNow
  have flat : [[diagnostic], fresh.diagnostics].flatten = [diagnostic] ++ fresh.diagnostics := by
    simp
  rwa [flat, repeated] at decidesNow

end Typing

end CheckedScript
