import CheckedScript.Proofs.Typing.CheckEffect

/-!
# What a check has reached

A function has been reached once the result of one of its instances is known.  When
a program has been checked no body is in progress any more, and every function that
has been declared on the way has been reached: the last part of the check goes over
all of them, and a body that is checked outside of all others always comes to its
end.
-/

namespace CheckedScript

theorem Table.exists_get? {κ α : Type} [DecidableEq κ] {table : Table κ α}
    (present : table.isEmpty = false) : ∃ key value, table.get? key = some value := by
  match table, present with
  | (key, value) :: table, _ => exact ⟨key, value, if_pos rfl⟩

namespace Typing

namespace State

/-- A function has been checked for some arguments. -/
def Reached (state : State) (identifier : Nat) : Prop :=
  ∃ key result, state.instance? identifier key = some result

variable {state : State} {identifier : Nat}

theorem reached_iff :
    state.Reached identifier ↔
      ∃ function, state.functions[identifier]? = some function ∧
        function.instances.isEmpty = false := by
  constructor
  · rintro ⟨key, result, found⟩
    obtain ⟨function, declared, known⟩ := Option.bind_eq_some_iff.1 found
    refine ⟨function, declared, ?_⟩
    cases instances : function.instances with
    | nil =>
        rw [instances] at known
        cases known
    | cons entry entries => rfl
  · rintro ⟨function, declared, present⟩
    obtain ⟨key, result, known⟩ := Table.exists_get? present
    exact ⟨key, result, Option.bind_eq_some_iff.2 ⟨function, declared, known⟩⟩

theorem reached_setInstance {function : DeclaredFunction}
    (found : state.functions[identifier]? = some function) (key : InstanceKey) (result : Ty) :
    (state.setInstance identifier key result).Reached identifier := by
  refine ⟨key, result, ?_⟩
  rw [Effect.instance?_setInstance state identifier identifier key key result found,
    if_pos ⟨rfl, rfl⟩]

end State

theorem Effect.reached {footprint : Footprint} {before after : State} {identifier : Nat}
    (effect : Effect footprint before after) (reached : before.Reached identifier) :
    after.Reached identifier := by
  obtain ⟨key, result, found⟩ := reached
  exact ⟨key, result, effect.instances identifier key result found⟩

theorem Effect.idle {footprint : Footprint} {before after : State}
    (effect : Effect footprint before after) (idle : before.activations = []) :
    after.activations = [] := by
  have appended := effect.activations
  rw [idle] at appended
  cases activations : after.activations with
  | nil => rfl
  | cons activation rest =>
      rw [activations] at appended
      exact appended.elim

end Typing

namespace Check

open Typing

variable {fuel identifier : Nat} {state before after : State}

theorem recovers_checkBody (fuel identifier : Nat) (arguments : List Ty)
    (function : DeclaredFunction) (frame : FrameId) (state : State) :
    Recovers (checkBody fuel identifier arguments function frame state) := by
  cases fuel with
  | zero => trivial
  | succ fuel =>
      rw [AllKeep.checkBody_apply]
      have recovers := AllKeep.throughBody_recovers fuel function frame
        { state with
          activations := { function := identifier, arguments := arguments, returns := [] } ::
            state.activations }
      generalize AllKeep.throughBody fuel function frame _ = result at recovers ⊢
      cases result with
      | ok results after => trivial
      | error stop after =>
          cases stop with
          | failed _ | reported => exact recovers.elim
          | faulted _ | exhausted => trivial

/-- A new instance that is not in progress is checked, as long as few enough bodies of
its function are. -/
theorem instantiate_new {function : DeclaredFunction} {arguments : List Ty} (name : String)
    (anchor : Token) (found : state.functions[identifier]? = some function)
    (unknown : function.instances.get? (arguments, state.generation) = none)
    (idle : (state.activations.find? fun activation =>
      activation.function = identifier && activation.arguments = arguments) = none)
    (few : (state.activations.countP fun activation => activation.function = identifier) <
      nestingLimit) :
    instantiate (fuel + 1) name identifier arguments anchor state =
      match checkBody fuel identifier arguments function state.scopes.frames.size
        (AllKeep.entered state function arguments) with
      | .ok results after =>
          let result := chooseResult (results.map (·.1))
          .ok result (((returnMismatches name result results).foldl State.report after).setInstance
            identifier (arguments, state.generation) result)
      | .error stop after => .error stop after := by
  have declared : declaration state.functions name identifier = .ok function :=
    declaration_eq_ok.2 found
  rw [instantiate]
  change (orFault (declaration state.functions name identifier) >>= _) state = _
  rw [declared]
  change EStateM.bind (pure function) _ state = _
  dsimp only [EStateM.bind, pure, EStateM.pure]
  rw [unknown, idle]
  dsimp only
  rw [if_neg (Nat.not_le_of_lt few)]
  change (checkBody fuel identifier arguments function state.scopes.frames.size >>= _)
    (AllKeep.entered state function arguments) = _
  rw [bind_apply]
  cases checkBody fuel identifier arguments function state.scopes.frames.size
    (AllKeep.entered state function arguments) <;> rfl

/-- A function that is checked outside of all bodies is reached, whatever is wrong in
its body. -/
theorem reached_of_reporting_instantiate {function : DeclaredFunction} {arguments : List Ty}
    {name : String} {anchor : Token} {result : Option Ty} (idle : before.activations = [])
    (found : before.functions[identifier]? = some function)
    (new : function.instances.isEmpty = true)
    (equation : reporting (instantiate fuel name identifier arguments anchor) before =
      .ok result after) :
    after.Reached identifier := by
  cases fuel with
  | zero => cases equation
  | succ fuel =>
      have unknown : function.instances.get? (arguments, before.generation) = none := by
        rw [List.isEmpty_iff.1 new]
        rfl
      have present : before.scopes.frames.size <
          (AllKeep.entered before function arguments).scopes.frames.size := by
        simp [AllKeep.entered]
      have recovers := recovers_checkBody fuel identifier arguments function
        before.scopes.frames.size (AllKeep.entered before function arguments)
      have keeps := ((allKeep fuel).checkBody identifier arguments function
        before.scopes.frames.size (AllKeep.entered before function arguments) present).1
      unfold reporting Keeps at *
      rw [instantiate_new name anchor found unknown (by simp [idle]) (by simp [idle, nestingLimit])]
        at equation
      generalize checkBody fuel identifier arguments function before.scopes.frames.size
        (AllKeep.entered before function arguments) = ended at recovers keeps equation
      cases ended with
      | ok results middle =>
          cases equation
          obtain ⟨later, foundLater, _⟩ := Effect.declarations keeps identifier function found
          exact State.reached_setInstance
            ((AllKeep.functions_reports _ middle).1.symm ▸ foundLater) _ _
      | error stop middle =>
          cases stop with
          | failed _ | reported => exact recovers.elim
          | faulted _ | exhausted => cases equation

theorem checkUncalled_effect (equation : checkUncalled fuel identifier before = .ok () after) :
    Effect .nothing before after := by
  induction fuel generalizing identifier before with
  | zero => cases equation
  | succ fuel inductionHypothesis =>
      rw [checkUncalled] at equation
      obtain ⟨state, middle, got, rest⟩ := bind_eq_ok equation
      cases got
      cases found : before.functions[identifier]? with
      | none =>
          rw [found] at rest
          obtain ⟨_, rfl⟩ := pure_eq_ok rest
          exact .rest before
      | some function =>
          rw [found] at rest
          dsimp only at rest
          split at rest
          · obtain ⟨result, middle, checked, rest⟩ := bind_eq_ok rest
            have first := ((allKeep fuel).instantiate _ _ _ _ before).reporting.effect checked
            exact first.trans (inductionHypothesis rest)
          · exact inductionHypothesis rest

/-- All functions from a given one on are reached, those declared on the way too. -/
theorem reached_of_checkUncalled (idle : before.activations = [])
    (equation : checkUncalled fuel identifier before = .ok () after) {other : Nat}
    (later : identifier ≤ other) (declared : other < after.functions.size) :
    after.Reached other := by
  induction fuel generalizing identifier before with
  | zero => cases equation
  | succ fuel inductionHypothesis =>
      rw [checkUncalled] at equation
      obtain ⟨state, middle, got, rest⟩ := bind_eq_ok equation
      cases got
      cases found : before.functions[identifier]? with
      | none =>
          rw [found] at rest
          obtain ⟨_, rfl⟩ := pure_eq_ok rest
          have size := Array.getElem?_eq_none_iff.1 found
          omega
      | some function =>
          rw [found] at rest
          dsimp only at rest
          -- The function itself is reached now, and stays so; the others come later.
          have onward : ∀ {middle : State}, middle.activations = [] →
              middle.Reached identifier →
              checkUncalled fuel (identifier + 1) middle = .ok () after → after.Reached other := by
            intro middle idle reached equation
            rcases Nat.eq_or_lt_of_le later with rfl | further
            · exact (checkUncalled_effect equation).reached reached
            · exact inductionHypothesis idle equation further
          split at rest
          · next new =>
              obtain ⟨result, middle, checked, rest⟩ := bind_eq_ok rest
              have effect := ((allKeep fuel).instantiate _ _ _ _ before).reporting.effect checked
              exact onward (effect.idle idle)
                (reached_of_reporting_instantiate idle found new checked) rest
          · next present =>
              exact onward idle (State.reached_iff.2 ⟨function, found, by simpa using present⟩) rest

/-- A function that has been reached is not checked again. -/
theorem checkUncalled_of_reached (fuel : Nat) (reached : state.Reached identifier) :
    checkUncalled (fuel + 1) identifier state = checkUncalled fuel (identifier + 1) state := by
  obtain ⟨function, found, present⟩ := State.reached_iff.1 reached
  rw [checkUncalled, get_bind_apply, found]
  dsimp only
  rw [if_neg (by simp [present])]

theorem checkUncalled_skip (fuel : Nat) {count : Nat}
    (reached : ∀ other, identifier ≤ other → other < identifier + count → state.Reached other) :
    checkUncalled (fuel + count) identifier state =
      checkUncalled fuel (identifier + count) state := by
  induction count generalizing identifier with
  | zero => rfl
  | succ count inductionHypothesis =>
      rw [← Nat.add_assoc, checkUncalled_of_reached _ (reached identifier (by omega) (by omega)),
        inductionHypothesis fun other lower upper => reached other (by omega) (by omega),
        Nat.add_right_comm, Nat.add_assoc]

/-- Going over functions that have been reached takes its share of the bound. -/
theorem checkUncalled_eq_ok_of_reached {count : Nat}
    (reached : ∀ other, identifier ≤ other → other < identifier + count → state.Reached other)
    (equation : checkUncalled fuel identifier state = .ok () after) :
    ∃ left, fuel = left + count ∧
      checkUncalled left (identifier + count) state = .ok () after := by
  induction count generalizing fuel identifier with
  | zero => exact ⟨fuel, rfl, equation⟩
  | succ count inductionHypothesis =>
      cases fuel with
      | zero => cases equation
      | succ fuel =>
          rw [checkUncalled_of_reached _ (reached identifier (by omega) (by omega))] at equation
          obtain ⟨left, rfl, rest⟩ := inductionHypothesis
            (fun other lower upper => reached other (by omega) (by omega)) equation
          rw [Nat.add_right_comm, Nat.add_assoc] at rest
          exact ⟨left, rfl, rest⟩

end Check

end CheckedScript
