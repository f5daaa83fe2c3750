import CheckedScript.Proofs.Typing.CheckEffect
import Mathlib

/-!
# Flat programs

In a flat program no function is declared in the body of another one, so its check makes
only as many functions as the program declares.  Then the bodies in progress are at most
`nestingLimit` times as many, since that is how many bodies of one function may be in
progress.
-/

namespace CheckedScript

mutual

/-- The number of functions declared in a statement, also in the bodies of others. -/
def Stmt.functionCount : Stmt → Nat
  | .block body => body.functionCount
  | .ifThen _ _ consequent => consequent.functionCount
  | .ifElse _ _ consequent alternative => consequent.functionCount + alternative.functionCount
  | .whileLoop _ _ body => body.functionCount
  | .forLoop _ _ body => body.functionCount
  | .function _ _ body => body.functionCount + 1
  | _ => 0

def Block.functionCount : Block → Nat
  | .mk _ statements _ => Stmt.functionCounts statements

def Stmt.functionCounts : List Stmt → Nat
  | [] => 0
  | statement :: statements => statement.functionCount + Stmt.functionCounts statements

end

mutual

/-- Whether no function is declared in the body of another one. -/
def Stmt.isFlat : Stmt → Bool
  | .block body => body.isFlat
  | .ifThen _ _ consequent => consequent.isFlat
  | .ifElse _ _ consequent alternative => consequent.isFlat && alternative.isFlat
  | .whileLoop _ _ body => body.isFlat
  | .forLoop _ _ body => body.isFlat
  | .function _ _ body => body.isPlain
  | _ => true

def Block.isFlat : Block → Bool
  | .mk _ statements _ => Stmt.areFlat statements

def Stmt.areFlat : List Stmt → Bool
  | [] => true
  | statement :: statements => statement.isFlat && Stmt.areFlat statements

end

theorem Stmt.areFlat_append (first second : List Stmt) :
    Stmt.areFlat (first ++ second) = (Stmt.areFlat first && Stmt.areFlat second) := by
  induction first with
  | nil => rfl
  | cons stmt first inductionHypothesis =>
      simp [Stmt.areFlat, inductionHypothesis, Bool.and_assoc]

theorem Stmt.functionCounts_append (first second : List Stmt) :
    Stmt.functionCounts (first ++ second) =
      Stmt.functionCounts first + Stmt.functionCounts second := by
  induction first with
  | nil => simp [Stmt.functionCounts]
  | cons stmt first inductionHypothesis =>
      simp [Stmt.functionCounts, inductionHypothesis, Nat.add_assoc]

theorem Stmt.sizeOf_le_append (first second : List Stmt) :
    sizeOf first ≤ sizeOf (first ++ second) := by
  induction first with
  | nil =>
      cases second with
      | nil => exact Nat.le_refl _
      | cons stmt second =>
          rw [List.nil_append, List.nil.sizeOf_spec, List.cons.sizeOf_spec]
          omega
  | cons stmt first inductionHypothesis => simpa using inductionHypothesis

mutual

theorem Stmt.isFlat_of_isPlain (stmt : Stmt) (plain : stmt.isPlain = true) :
    stmt.isFlat = true ∧ stmt.functionCount = 0 := by
  cases stmt with
  | expression _ | letValue _ _ _ | giveBack _ _ => exact ⟨rfl, rfl⟩
  | block body | ifThen _ _ body | whileLoop _ _ body | forLoop _ _ body =>
      exact body.isFlat_of_isPlain plain
  | ifElse _ _ consequent alternative =>
      obtain ⟨plainFirst, plainOther⟩ := Bool.and_eq_true_iff.1 plain
      obtain ⟨flat, none⟩ := consequent.isFlat_of_isPlain plainFirst
      obtain ⟨flatOther, noneOther⟩ := alternative.isFlat_of_isPlain plainOther
      simp [Stmt.isFlat, Stmt.functionCount, flat, none, flatOther, noneOther]
  | function _ _ _ => cases plain

theorem Block.isFlat_of_isPlain (body : Block) (plain : body.isPlain = true) :
    body.isFlat = true ∧ body.functionCount = 0 := by
  obtain ⟨_, statements, _⟩ := body
  exact Stmt.areFlat_of_arePlain statements plain

theorem Stmt.areFlat_of_arePlain (stmts : List Stmt) (plain : Stmt.arePlain stmts = true) :
    Stmt.areFlat stmts = true ∧ Stmt.functionCounts stmts = 0 := by
  cases stmts with
  | nil => exact ⟨rfl, rfl⟩
  | cons stmt stmts =>
      obtain ⟨plainFirst, plainOthers⟩ := Bool.and_eq_true_iff.1 plain
      obtain ⟨flat, none⟩ := stmt.isFlat_of_isPlain plainFirst
      obtain ⟨flatOthers, noneOthers⟩ := Stmt.areFlat_of_arePlain stmts plainOthers
      simp [Stmt.areFlat, Stmt.functionCounts, flat, none, flatOthers, noneOthers]

end

namespace Typing

/-- The functions whose bodies are in progress, the innermost first. -/
def State.running (state : State) : List Nat :=
  state.activations.map (·.function)

/-- Of no function are more bodies in progress than may be. -/
structure Capped (limit : Nat) (running : List Nat) : Prop where
  lower : ∀ identifier ∈ running, identifier < limit
  few : ∀ identifier, running.count identifier ≤ nestingLimit

theorem Capped.nil (limit : Nat) : Capped limit [] where
  lower _ member := absurd member List.not_mem_nil
  few _ := Nat.zero_le _

/-- One more body is in progress. -/
theorem Capped.cons {limit : Nat} {running : List Nat} (capped : Capped limit running)
    {identifier : Nat} (lower : identifier < limit)
    (few : running.count identifier < nestingLimit) : Capped limit (identifier :: running) where
  lower := by
    intro other member
    rcases List.mem_cons.1 member with rfl | member
    · exact lower
    · exact capped.lower other member
  few := by
    intro other
    by_cases same : identifier = other
    · subst same
      rw [List.count_cons_self]
      exact few
    · rw [List.count_cons_of_ne same]
      exact capped.few other

/-- A body may be entered as long as few enough bodies of its function are in progress. -/
theorem Capped.entered {limit : Nat} {running : List Nat} (capped : Capped limit running)
    {state : State} (same : state.running = running) (functions : state.functions.size ≤ limit)
    {identifier : Nat} {function : DeclaredFunction}
    (found : state.functions[identifier]? = some function)
    (few : (state.activations.countP fun activation => activation.function = identifier) <
      nestingLimit) : Capped limit (identifier :: running) := by
  apply capped.cons
  · exact Nat.lt_of_lt_of_le (Array.getElem?_eq_some_iff.1 found).1 functions
  · rw [← same, State.running, List.count, List.countP_map]
    exact few

theorem Capped.mono {limit larger : Nat} {running : List Nat} (capped : Capped limit running)
    (le : limit ≤ larger) : Capped larger running where
  lower identifier member := Nat.lt_of_lt_of_le (capped.lower identifier member) le
  few := capped.few

/-- So many bodies can be in progress at once. -/
theorem Capped.length_le {limit : Nat} {running : List Nat} (capped : Capped limit running) :
    running.length ≤ nestingLimit * limit := by
  have inside : running.toFinset ⊆ Finset.range limit := by
    intro identifier member
    exact Finset.mem_range.2 (capped.lower identifier (List.mem_toFinset.1 member))
  calc running.length
      = ∑ identifier ∈ running.toFinset, running.count identifier :=
        (List.sum_toFinset_count_eq_length running).symm
    _ ≤ running.toFinset.card • nestingLimit :=
        Finset.sum_le_card_nsmul _ _ _ fun identifier _ => capped.few identifier
    _ ≤ limit * nestingLimit := by
        rw [smul_eq_mul]
        exact Nat.mul_le_mul_right _ ((Finset.card_le_card inside).trans_eq (Finset.card_range limit))
    _ = nestingLimit * limit := Nat.mul_comm _ _

/-- What the bound has to leave for the bodies that may still be entered. -/
def reserve (limit size : Nat) (running : List Nat) : Nat :=
  (nestingLimit * limit - running.length) * (2 * size + 1)

/-- Every body that is entered uses up a part of the reserve. -/
theorem reserve_cons {limit : Nat} (size : Nat) {running : List Nat} {identifier : Nat}
    (capped : Capped limit (identifier :: running)) :
    reserve limit size running = reserve limit size (identifier :: running) + (2 * size + 1) := by
  have length := capped.length_le
  rw [List.length_cons] at length
  have room : nestingLimit * limit - running.length =
      nestingLimit * limit - (running.length + 1) + 1 := by
    omega
  rw [reserve, reserve, List.length_cons, room, Nat.add_mul, Nat.one_mul]

/-- There are few functions, no body of them declares another one, and the bodies in
progress are given. -/
structure State.Bounded (limit size : Nat) (running : List Nat) (state : State) : Prop where
  running : state.running = running
  functions : state.functions.size ≤ limit
  bodies : ∀ (identifier : Nat) (function : DeclaredFunction),
    state.functions[identifier]? = some function →
      function.body.isPlain = true ∧ sizeOf function.body ≤ size

namespace State.Bounded

variable {limit size : Nat} {running : List Nat} {state after : State}

theorem congr (bounded : state.Bounded limit size running)
    (functions : after.functions = state.functions) (same : after.running = state.running) :
    after.Bounded limit size running where
  running := same.trans bounded.running
  functions := functions ▸ bounded.functions
  bodies := functions ▸ bounded.bodies

theorem reports (bounded : state.Bounded limit size running) (diagnostics : List Diagnostic) :
    (diagnostics.foldl State.report state).Bounded limit size running := by
  obtain ⟨functions, activations⟩ := Check.AllKeep.functions_reports diagnostics state
  apply bounded.congr functions
  rw [State.running, State.running, activations]

theorem addReturn (bounded : state.Bounded limit size running) (type : Ty) (keyword : Token) :
    (state.addReturn type keyword).Bounded limit size running := by
  unfold State.addReturn
  split
  · exact bounded
  · next activation activations shape =>
      refine bounded.congr rfl ?_
      rw [State.running, State.running, shape]
      rfl

theorem setInstance (bounded : state.Bounded limit size running) (identifier : Nat)
    (key : InstanceKey) (result : Ty) :
    (state.setInstance identifier key result).Bounded limit size running where
  running := bounded.running
  functions := by
    rw [State.setInstance, Array.size_modify]
    exact bounded.functions
  bodies := by
    intro other function found
    rw [State.setInstance, Array.getElem?_modify] at found
    split at found
    · obtain ⟨old, wasFound, rfl⟩ := Option.map_eq_some_iff.1 found
      exact bounded.bodies other old wasFound
    · exact bounded.bodies other function found

theorem declare (bounded : state.Bounded limit size running) (few : state.functions.size < limit)
    (frame : FrameId) (place : Place) (name : Token) (parameters : List Token) {body : Block}
    (plain : body.isPlain = true) (small : sizeOf body ≤ size) :
    (state.declare frame place name parameters body).Bounded limit size running where
  running := bounded.running
  functions := by
    change (state.functions.push _).size ≤ limit
    rw [Array.size_push]
    exact few
  bodies := by
    intro other function found
    change (state.functions.push _)[other]? = some function at found
    rw [Array.getElem?_push] at found
    split at found
    · obtain rfl := Option.some.inj found
      exact ⟨plain, small⟩
    · exact bounded.bodies other function found

end State.Bounded

end Typing

end CheckedScript
