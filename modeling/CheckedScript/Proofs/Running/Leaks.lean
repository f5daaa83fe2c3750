import CheckedScript.Proofs.Running.Reachable
import CheckedScript.Proofs.Running.Upkeep

/-!
# The names that a run leaves behind

A statement binds at most one name in the frame it stands in, and none in any other frame
that was there before.  The proof opens some frames to declarations, those to be made
included.  Whatever is executed in an open frame, and whatever declares nothing by itself
in any other one, leaves the names of all other frames as they were: assignments write to
frames that have the name already.
-/

namespace CheckedScript

namespace Scopes

variable {scopes start : Scopes Value} {frame other : FrameId} {name defined : String}

theorem has_define (present : frame < scopes.frames.size) (value : Value) :
    (scopes.define frame defined value).has other name = true ↔
      scopes.has other name = true ∨ other = frame ∧ defined = name := by
  unfold has
  rw [bindings_define scopes present]
  by_cases same : frame = other
  · subst same
    rw [if_pos rfl, Table.get?_set]
    by_cases found : defined = name <;> simp [found]
  · simp [if_neg same, Ne.symm same]

theorem has_define_of_size_le (absent : scopes.frames.size ≤ frame) (value : Value) :
    (scopes.define frame defined value).has other name = scopes.has other name := by
  unfold has
  rw [bindings_define_of_size_le scopes absent]

theorem has_defineAll (present : frame < scopes.frames.size) (bindings : Bindings Value) :
    (scopes.defineAll frame bindings).has frame name = true ↔
      scopes.has frame name = true ∨ ∃ binding ∈ bindings, binding.1 = name := by
  induction bindings generalizing scopes with
  | nil => simp [defineAll]
  | cons binding bindings inductionHypothesis =>
      have grown : frame < (scopes.define frame binding.1 binding.2).frames.size := by
        simpa using present
      refine (inductionHypothesis grown).trans ?_
      rw [has_define present, List.exists_mem_cons_iff, or_assoc]
      simp

/-- Scopes in which the frames that earlier ones had bind the same names, but for a frame
that has gained some. -/
structure Gains (frame : FrameId) (gained : String → Prop) (start scopes : Scopes Value) :
    Prop where
  size : start.frames.size ≤ scopes.frames.size
  names : ∀ other < start.frames.size, ∀ name,
    scopes.has other name = true ↔
      start.has other name = true ∨ other = frame ∧ gained name

namespace Gains

variable {gained further : String → Prop} {last : Scopes Value}

theorem refl (frame : FrameId) (scopes : Scopes Value) :
    Gains frame (fun _ => False) scopes scopes where
  size := Nat.le_refl _
  names _ _ _ := by simp

theorem trans (early : Gains frame gained start scopes) (late : Gains frame further scopes last) :
    Gains frame (fun name => gained name ∨ further name) start last where
  size := Nat.le_trans early.size late.size
  names other present name := by
    rw [late.names other (Nat.lt_of_lt_of_le present early.size) name,
      early.names other present name, or_assoc, and_or_left]

theorem congr (gains : Gains frame gained start scopes)
    (same : ∀ name, gained name ↔ further name) : Gains frame further start scopes where
  size := gains.size
  names other present name := by rw [gains.names other present name, same name]

theorem define (scopes : Scopes Value) (frame : FrameId) (defined : String) (value : Value) :
    Gains frame (fun name => defined = name) scopes (scopes.define frame defined value) where
  size := by simp
  names other present name := by
    rcases Nat.lt_or_ge frame scopes.frames.size with here | absent
    · exact has_define here value
    · have different : other ≠ frame := Nat.ne_of_lt (Nat.lt_of_lt_of_le present absent)
      simp [has_define_of_size_le absent, different]

end Gains

/-- Scopes that bind the same names as earlier ones outside of the frames that are open to
declarations. -/
structure Spared (isOpen : FrameId → Prop) (start scopes : Scopes Value) : Prop where
  size : start.frames.size ≤ scopes.frames.size
  fresh : ∀ frame, scopes.frames.size ≤ frame → isOpen frame
  names : ∀ frame name, ¬ isOpen frame → scopes.has frame name = start.has frame name

namespace Spared

variable {isOpen : FrameId → Prop}

/-- Only the frames to be made are open. -/
theorem refl (scopes : Scopes Value) :
    Spared (fun frame => scopes.frames.size ≤ frame) scopes scopes where
  size := Nat.le_refl _
  fresh _ absent := absent
  names _ _ _ := rfl

theorem nest (spared : Spared isOpen start scopes) (frame : FrameId) :
    Spared isOpen start (scopes.nest frame).2 where
  size := Nat.le_trans spared.size (by simp)
  fresh other absent := by
    rw [size_frames_nest] at absent
    exact spared.fresh other (Nat.le_of_succ_le absent)
  names other name closed := by
    have present : other < scopes.frames.size :=
      Nat.lt_of_not_le fun absent => closed (spared.fresh other absent)
    rw [has, bindings_nest_of_lt scopes frame present]
    exact spared.names other name closed

/-- A write to an open frame, or under a name that the frame has already. -/
theorem define (spared : Spared isOpen start scopes)
    (allowed : isOpen frame ∨ scopes.has frame defined = true) (value : Value) :
    Spared isOpen start (scopes.define frame defined value) where
  size := by simpa using spared.size
  fresh other absent := spared.fresh other (by simpa using absent)
  names other name closed := by
    rw [← spared.names other name closed]
    rcases Nat.lt_or_ge frame scopes.frames.size with present | absent
    · rw [Bool.eq_iff_iff, has_define present]
      refine or_iff_left_of_imp ?_
      rintro ⟨rfl, rfl⟩
      exact allowed.resolve_left closed
    · exact has_define_of_size_le absent value

theorem defineAll (spared : Spared isOpen start scopes) (opened : isOpen frame)
    (bindings : Bindings Value) : Spared isOpen start (scopes.defineAll frame bindings) := by
  induction bindings generalizing scopes with
  | nil => exact spared
  | cons binding bindings inductionHypothesis =>
      exact inductionHypothesis (spared.define (.inl opened) binding.2)

end Spared

end Scopes

namespace Sparing

open Evaluation Eval Scopes

variable {isOpen : FrameId → Prop} {start : Scopes Value} {natives : List Native}

/-- A computation that declares names in open frames only. -/
abbrev Spares {α : Type} (isOpen : FrameId → Prop) (start : Scopes Value)
    (computation : Eval α) : Prop :=
  Upholds (fun machine => Spared isOpen start machine.scopes) computation

theorem keeps_nest (frame : FrameId) :
    (upholding fun machine => Spared isOpen start machine.scopes).Keeps isOpen (nest frame) :=
  fun _ spared => ⟨spared.fresh _ (Nat.le_refl _), spared.nest frame⟩

/-- An assignment writes to a frame that has the name. -/
theorem spares_assign (frame : FrameId) (name : String) (value : Value) :
    Spares isOpen start (assign frame name value) := by
  intro machine spared
  unfold assign
  dsimp only
  split
  · next owner owns =>
      have bound : machine.scopes.has owner name = true :=
        List.find?_some (p := fun candidate => machine.scopes.has candidate name) owns
      exact ⟨trivial, Spared.define spared (.inr bound) value⟩
  · exact ⟨trivial, spared⟩

theorem spares_callNative (native : Native) (arguments : List Value) (paren : Token) :
    Spares isOpen start (callNative native arguments paren) := by
  rintro ⟨scopes, console⟩ spared
  unfold callNative
  cases ended : (native.run arguments console).1 with
  | value | failed | aborted =>
      simp only [ended]
      exact ⟨trivial, spared⟩

/-- Runs declare names in open frames only. -/
theorem runsSpare (isOpen : FrameId → Prop) (start : Scopes Value) (natives : List Native) :
    ∀ fuel, RunsUphold (fun machine => Spared isOpen start machine.scopes) isOpen natives fuel :=
  runsUphold
    { nest := keeps_nest
      define := fun _ bindings opened _ spared => ⟨trivial, spared.defineAll opened bindings⟩
      assign := spares_assign
      callNative := fun native _ => spares_callNative native }

end Sparing

/-- The name that a statement declares in the frame it stands in. -/
def Stmt.declared? : Stmt → Option String
  | .letValue name _ _ | .function name _ _ => some name.lexeme
  | _ => none

namespace Evaluation

open Eval Scopes Sparing

/-- Whether a computation comes to its end without a reason to stop before. -/
def Machine.completes {α : Type} (machine : Machine) (computation : Eval α) : Bool :=
  match computation machine with
  | .ok _ _ => true
  | .error _ _ => false

namespace Machine

variable {α β : Type} {machine last : Machine} {computation : Eval α} {value : α} {stop : Stop}

theorem after_of_eq_ok (equation : computation machine = .ok value last) :
    machine.after computation = last := by
  rw [after, equation]

theorem after_of_eq_error (equation : computation machine = .error stop last) :
    machine.after computation = last := by
  rw [after, equation]

theorem completes_of_eq_ok (equation : computation machine = .ok value last) :
    machine.completes computation = true := by
  rw [completes, equation]

theorem completes_of_eq_error (equation : computation machine = .error stop last) :
    machine.completes computation = false := by
  rw [completes, equation]

theorem after_bind_of_eq_ok (equation : computation machine = .ok value last)
    (next : α → Eval β) : machine.after (computation >>= next) = last.after (next value) := by
  rw [after, after, bind_apply, equation]

theorem after_bind_of_eq_error (equation : computation machine = .error stop last)
    (next : α → Eval β) : machine.after (computation >>= next) = last := by
  rw [after, bind_apply, equation]

theorem completes_bind_of_eq_ok (equation : computation machine = .ok value last)
    (next : α → Eval β) :
    machine.completes (computation >>= next) = last.completes (next value) := by
  rw [completes, completes, bind_apply, equation]

theorem completes_bind_of_eq_error (equation : computation machine = .error stop last)
    (next : α → Eval β) : machine.completes (computation >>= next) = false := by
  rw [completes, bind_apply, equation]

end Machine

/-- The statements that are completed when a program is executed: those before the one that
stops it. -/
def Machine.completed (natives : List Native) (fuel : Nat) (frame : FrameId) :
    Machine → List Stmt → List Stmt
  | _, [] => []
  | machine, stmt :: stmts =>
      let execution := execute natives fuel frame stmt
      if machine.completes execution then
        stmt :: (machine.after execution).completed natives fuel frame stmts
      else
        []

/-- A machine that is about to run a program: nothing has been written. -/
def Machine.ready (machine : Machine) : Machine :=
  { machine with console := { machine.console with output := "" } }

/-- A machine after a session of programs run on it one after the other, with the statements
of theirs that were completed.  A run that was stopped does not end the session. -/
inductive Session (natives : List Native) : List Stmt → Machine → Prop where
  | start : Session natives [] (Machine.start natives)
  | run {completed : List Stmt} {machine : Machine} (session : Session natives completed machine)
      (fuel : Nat) {program : Program} (shaped : Stmt.areShaped program = true) :
      Session natives
        (completed ++ machine.ready.completed natives fuel Machine.root program)
        (machine.run natives fuel program).2

variable {natives : List Native} {fuel : Nat} {frame : FrameId}

theorem gains_of_spares {α : Type} {machine : Machine} {computation : Eval α}
    (spares : Spares (fun frame => machine.scopes.frames.size ≤ frame) machine.scopes computation)
    (frame : FrameId) :
    Gains frame (fun _ => False) machine.scopes (machine.after computation).scopes := by
  have ended := spares machine (Spared.refl machine.scopes)
  have spared : Spared (fun frame => machine.scopes.frames.size ≤ frame) machine.scopes
      (machine.after computation).scopes := by
    unfold Machine.after
    cases equation : computation machine with
    | ok value after =>
        rw [equation] at ended
        exact ended.2
    | error stop after =>
        rw [equation] at ended
        exact ended.2
  refine ⟨spared.size, fun other present name => ?_⟩
  rw [spared.names other name (Nat.not_le.2 present)]
  simp

/-- What is bound once its value has been found. -/
theorem gains_declaration {α : Type} {machine : Machine} {first : Eval α}
    (spares : Spares (fun frame => machine.scopes.frames.size ≤ frame) machine.scopes first)
    (frame : FrameId) (name : String) (bound : α → Value) :
    let declaration : Eval Value := do
      let found ← first
      define frame [(name, bound found)]
      return .unit
    Gains frame (fun other => name = other ∧ machine.completes declaration = true)
      machine.scopes (machine.after declaration).scopes := by
  intro declaration
  have early := gains_of_spares spares frame
  cases equation : first machine with
  | ok found last =>
      rw [Machine.after_of_eq_ok equation] at early
      rw [Machine.after_bind_of_eq_ok equation, Machine.completes_bind_of_eq_ok equation]
      exact (early.trans (Gains.define last.scopes frame name (bound found))).congr fun _ =>
        ⟨fun gained => ⟨gained.resolve_left id, rfl⟩, fun gained => .inr gained.1⟩
  | error stop last =>
      rw [Machine.after_of_eq_error equation] at early
      rw [Machine.after_bind_of_eq_error equation, Machine.completes_bind_of_eq_error equation]
      exact early.congr (by simp)

/-- A statement adds to the names of its own frame the one it declares, if it is completed. -/
theorem gains_execute (machine : Machine) (fuel : Nat) (frame : FrameId) {stmt : Stmt}
    (shaped : stmt.isShaped = true) :
    let execution := execute natives fuel frame stmt
    Gains frame (fun name => stmt.declared? = some name ∧ machine.completes execution = true)
      machine.scopes (machine.after execution).scopes := by
  have undeclaring (still : stmt.declares = false) (nameless : stmt.declared? = none) :
      let execution := execute natives fuel frame stmt
      Gains frame (fun name => stmt.declared? = some name ∧ machine.completes execution = true)
        machine.scopes (machine.after execution).scopes :=
    (gains_of_spares ((runsSpare _ _ natives fuel).execute frame stmt (.inr still)) frame).congr
      (by simp [nameless])
  cases fuel with
  | zero =>
      exact (Gains.refl frame machine.scopes).congr fun _ => iff_of_false id nofun
  | succ fuel =>
      cases stmt with
      | letValue name declared initializer =>
          refine (gains_declaration ((runsSpare _ _ natives fuel).evaluate frame initializer)
            frame name.lexeme id).congr fun other => ?_
          rw [Stmt.declared?, Option.some.injEq]
          rfl
      | function name parameters body =>
          refine (gains_declaration (Guard.Keeps.mono (keeps_nest frame) fun _ _ => trivial)
            frame name.lexeme fun closure => .function
              { name := name.lexeme, parameters := parameters.map (·.lexeme)
                body := body, frame := closure }).congr fun other => ?_
          rw [Stmt.declared?, Option.some.injEq]
          rfl
      | ifElse keyword condition consequent alternative =>
          simp only [Stmt.isShaped, Bool.and_eq_true, Bool.not_eq_true'] at shaped
          exact undeclaring shaped.2 rfl
      | expression | block | ifThen | whileLoop | forLoop | giveBack =>
          exact undeclaring rfl rfl

/-- What a run adds to the names of the frame in which it executes its statements. -/
theorem gains_executeProgram (fuel : Nat) (frame : FrameId) {program : List Stmt}
    (shaped : Stmt.areShaped program = true) (last : Value) (machine : Machine) :
    Gains frame
      (fun name => ∃ stmt ∈ machine.completed natives fuel frame program,
        stmt.declared? = some name)
      machine.scopes (machine.after (executeProgram natives fuel frame last program)).scopes := by
  induction program generalizing last machine with
  | nil => exact (Gains.refl frame machine.scopes).congr (by simp [Machine.completed])
  | cons stmt stmts inductionHypothesis =>
      obtain ⟨first, others⟩ := Bool.and_eq_true_iff.1 shaped
      have early : Gains frame
          (fun name => stmt.declared? = some name ∧
            machine.completes (execute natives fuel frame stmt) = true)
          machine.scopes (machine.after (execute natives fuel frame stmt)).scopes :=
        gains_execute machine fuel frame first
      unfold Machine.completed executeProgram
      cases equation : execute natives fuel frame stmt machine with
      | ok value after =>
          rw [Machine.after_bind_of_eq_ok equation]
          simp only [Machine.completes_of_eq_ok equation, Machine.after_of_eq_ok equation]
            at early ⊢
          exact (early.trans (inductionHypothesis others value after)).congr (by simp)
      | error stop after =>
          rw [Machine.after_bind_of_eq_error equation]
          simp only [Machine.completes_of_eq_error equation, Machine.after_of_eq_error equation]
            at early ⊢
          exact early.congr (by simp)

theorem Machine.run_snd (machine : Machine) (natives : List Native) (fuel : Nat)
    (program : Program) :
    (machine.run natives fuel program).2 =
      machine.ready.after (executeProgram natives fuel root .unit program) := by
  unfold run ready
  dsimp only
  cases equation : executeProgram natives fuel root .unit program
      { machine with console := { machine.console with output := "" } } with
  | ok value last => rw [after_of_eq_ok equation]
  | error stop last =>
      rw [after_of_eq_error equation]
      cases stop <;> rfl

theorem Session.names {completed : List Stmt} {machine : Machine}
    (session : Session natives completed machine) :
    Gains Machine.root
      (fun name => ∃ stmt ∈ completed, stmt.declared? = some name)
      (Machine.start natives).scopes machine.scopes := by
  induction session with
  | start => exact (Gains.refl _ _).congr (by simp)
  | @run completed machine _ fuel program shaped inductionHypothesis =>
      rw [Machine.run_snd]
      refine (inductionHypothesis.trans
        (gains_executeProgram fuel Machine.root shaped .unit machine.ready)).congr fun name => ?_
      simp only [List.mem_append, or_and_right, exists_or]

theorem Machine.has_start (natives : List Native) (name : String) :
    (start natives).scopes.has root name = true ↔ ∃ native ∈ natives, native.key = name := by
  have present : root < (Scopes.root : Scopes Value).frames.size := Nat.zero_lt_one
  unfold start
  rw [has_defineAll present]
  simp [Scopes.has, Scopes.root, Scopes.addRoot, Scopes.add, Scopes.bindings, root, Table.get?]

/-- No declaration leaks.  However a statement ends, the frames that were there before keep
their names, and only its own frame gets another one, the one that the statement declares,
if it is completed.  After a session the global names are those of the native functions and
those that the completed statements of the programs declare. -/
theorem names_after_declarations (natives : List Native) :
    (∀ (machine : Machine) (fuel : Nat) (frame : FrameId) (stmt : Stmt), stmt.isShaped = true →
      let execution := execute natives fuel frame stmt
      ∀ other < machine.scopes.frames.size, ∀ name,
        (machine.after execution).scopes.has other name = true ↔
          machine.scopes.has other name = true ∨
            other = frame ∧ stmt.declared? = some name ∧ machine.completes execution = true) ∧
    ∀ (completed : List Stmt) (machine : Machine), Session natives completed machine →
      ∀ name, machine.scopes.has Machine.root name = true ↔
        (∃ native ∈ natives, native.key = name) ∨
          ∃ stmt ∈ completed, stmt.declared? = some name := by
  constructor
  · intro machine fuel frame stmt shaped execution other present name
    exact (gains_execute machine fuel frame shaped).names other present name
  · intro completed machine session name
    have present : Machine.root < (Machine.start natives).scopes.frames.size := by
      unfold Machine.start
      rw [size_frames_defineAll]
      exact Nat.zero_lt_one
    rw [session.names.names _ present, Machine.has_start]
    simp

/-- What a block declares is gone after it, and what stands behind a `return` is never
declared. -/
theorem names_after_declarations_escaped :
    let token (lexeme : String) : Token := ⟨.identifier, lexeme, .origin, none⟩
    let declaration (name : String) : Stmt :=
      .letValue (token name) none (.literal (.bool true) (token "true"))
    let block : Stmt := .block (.mk (token "\x7b") [declaration "inner"] none)
    let program : Program :=
      [declaration "outer", block, .giveBack (token "return") none, declaration "late"]
    let machine := Machine.start Native.defaults
    let after := (machine.run Native.defaults 9 program).2
    (∀ name,
      (machine.after (execute Native.defaults 9 Machine.root block)).scopes.has
          Machine.root name = true ↔
        machine.scopes.has Machine.root name = true) ∧
    ∀ name, after.scopes.has Machine.root name = true ↔
      (∃ native ∈ Native.defaults, native.key = name) ∨ name = "outer" := by
  intro token declaration block program machine after
  obtain ⟨ofStatement, ofSession⟩ := names_after_declarations Native.defaults
  constructor
  · intro name
    refine (ofStatement machine 9 Machine.root block rfl Machine.root (by decide) name).trans ?_
    simp [block, Stmt.declared?]
  · intro name
    have completed : machine.ready.completed Native.defaults 9 Machine.root program =
        [declaration "outer", block] := rfl
    have shaped : Stmt.areShaped program = true := rfl
    have session : Session Native.defaults [declaration "outer", block] after :=
      completed ▸ .run .start 9 shaped
    refine (ofSession _ after session name).trans ?_
    simp [declaration, block, Stmt.declared?, token, eq_comm]

end Evaluation

end CheckedScript
