import CheckedScript.Proofs.Charges
import CheckedScript.Proofs.Layout
import CheckedScript.Proofs.Sessions
import CheckedScript.Proofs.Soundness.TopLevel
import CheckedScript.Proofs.Walks.Coverage
import CheckedScript.Proofs.Walks.Freshness
import CheckedScript.Proofs.Walks.Recorded

/-!
# Accepted programs run safely

A program is level if its functions are declared by its own statements only, and none of them
is called `tuple`.  A level program that a checker has accepted runs to a value, or commits a
fault that only running can find, or runs out of steps.

Neither restriction can be dropped.  A function that is declared in the body of another one may
refer to a name that an early return has skipped, and a function that is called `tuple` may be
replaced by an empty tuple.
-/

namespace CheckedScript

open Typing Evaluation

/-- Whether functions are declared by a statement itself only, and not called `tuple`. -/
def Stmt.isLevel : Stmt → Bool
  | .function name _ body => name.lexeme ≠ "tuple" && body.isPlain
  | stmt => stmt.isPlain

/-- Native functions that are found under their names and keep their types. -/
structure Native.Reliable (natives : List Native) : Prop where
  kept : ∀ native ∈ natives, Native.find? natives native.key = some native
  proper : ∀ native ∈ natives, native.signature.result.isProper = true
  keepTypes : Native.KeepTypes natives

/-- The function values of the declarations so far, in order. -/
def MadeBy (declared : List Closure) (closure : Closure) (name : String) (identifier : Nat) :
    Prop :=
  declared[identifier]? = some closure ∧ closure.name = name

/-- The global names have values of the types that are known of them. -/
def Accords (natives : List Native) (closures : Closure → String → Nat → Prop) (view : View)
    (scopes : Scopes Value) : Prop :=
  ∀ name type, view name = some type → ∃ value, scopes.get? 0 name = some value ∧
    Inhabits natives closures type value

section Accords

variable {natives : List Native} {closures : Closure → String → Nat → Prop} {view : View}
  {scopes : Scopes Value}

theorem Accords.define (accords : Accords natives closures view scopes)
    (rooted : 0 < scopes.frames.size) {type : Ty} {value : Value}
    (inhabits : Inhabits natives closures type value) (name : String) :
    Accords natives closures (view.bind name type) (scopes.define 0 name value) := by
  intro sought known found
  unfold View.bind at found
  split at found
  · next same =>
      cases found
      exact ⟨value, same ▸ Scopes.get?_define_self scopes rooted name value, inhabits⟩
  · next different =>
      rw [Scopes.get?_define_of_ne scopes rooted 0 different]
      exact accords sought known found

/-- The native functions are bound one after the other. -/
theorem Accords.defineAll (accords : Accords natives closures view scopes)
    (rooted : 0 < scopes.frames.size) {list : List Native}
    (kept : ∀ native ∈ list, Native.find? natives native.key = some native) :
    Accords natives closures
      (view.bindAll (list.map fun native => (native.key, native.signature.type)))
      (scopes.defineAll 0 (list.map fun native => (native.key, native.value))) := by
  induction list generalizing view scopes with
  | nil => exact accords
  | cons native list inductionHypothesis =>
      obtain ⟨found, others⟩ := List.forall_mem_cons.1 kept
      exact inductionHypothesis
        (accords.define rooted (Inhabits.native_iff.2 ⟨native, native.key, rfl, found, rfl⟩)
          native.key) (by simpa using rooted) others

end Accords

/-- What a checker and a run have in common between two statements of a program. -/
structure Aligned (natives : List Native) (since : Nat) (declared : List Closure) (state : State)
    (scopes : Scopes Value) : Prop where
  level : state.Level
  ready : state.Ready since state.next
  grounded : Grounded declared scopes
  size : declared.length = state.functions.size
  code : ∀ (identifier : Nat) (closure : Closure), declared[identifier]? = some closure →
    ∃ function, state.functions[identifier]? = some function ∧
      function.parameters.map (·.lexeme) = closure.parameters ∧ function.body = closure.body
  named : ∀ closure ∈ declared, closure.name ≠ "tuple"
  accords : Accords natives (MadeBy declared) (state.view 0) scopes

/-- The setting of a statement of a program: all calls that the checker knows of may be made. -/
def settingOf (natives : List Native) (since : Nat) (declared : List Closure) (state : State)
    (scopes : Scopes Value) : Setting where
  natives := natives
  world := state.world since
  closures := MadeBy declared
  base := scopes.frames.size

/-- Only the types of the global names are stored. -/
def ground (view : View) : Store :=
  fun frame name => if frame = 0 then view name else none

namespace Aligned

variable {natives : List Native} {since : Nat} {declared : List Closure} {state : State}
  {scopes : Scopes Value}

theorem owner? (aligned : Aligned natives since declared state scopes) {name : String} {type : Ty}
    (known : state.view 0 name = some type) : scopes.owner? 0 name = some 0 := by
  obtain ⟨value, bound, _⟩ := aligned.accords name type known
  rw [Scopes.get?_zero aligned.grounded.ordered] at bound
  rw [Scopes.owner?, Scopes.path_zero aligned.grounded.ordered]
  exact List.find?_cons_of_pos (Scopes.has_of_bound bound)

theorem sees (aligned : Aligned natives since declared state scopes) :
    (ground (state.view 0)).Sees scopes (state.view 0) 0 :=
  ⟨aligned.grounded.rooted, fun _ _ known => ⟨0, aligned.owner? known, known⟩⟩

theorem fits (aligned : Aligned natives since declared state scopes) :
    (settingOf natives since declared state scopes).Fits (ground (state.view 0)) scopes where
  ordered := aligned.grounded.ordered
  present := Nat.le_refl _
  typed frame name type stored := by
    unfold ground at stored
    split at stored
    · next here =>
        subst here
        rw [← Scopes.get?_zero aligned.grounded.ordered]
        exact aligned.accords name type stored
    · cases stored
  sees closure name identifier closes := by
    have member := List.mem_of_getElem? closes.1
    obtain ⟨function, found, _⟩ := aligned.code identifier closure closes.1
    refine ⟨aligned.grounded.made closure member, fun sought type known => ⟨0, ?_, ?_⟩⟩
    · rw [show (settingOf natives since declared state scopes).world.view identifier =
        state.view 0 from aligned.level.view_world found] at known
      rw [← aligned.owner? known, Scopes.owner?, Scopes.path,
        aligned.grounded.inside closure member, List.find?_cons_of_neg]
      · rfl
      · rw [aligned.grounded.empty closure member sought]
        exact Bool.false_ne_true
    · rw [show (settingOf natives since declared state scopes).world.view identifier =
        state.view 0 from aligned.level.view_world found] at known
      exact known

theorem sound (aligned : Aligned natives since declared state scopes)
    (reliable : Native.Reliable natives) :
    (settingOf natives since declared state scopes).Sound where
  closed := aligned.ready.closed aligned.level.idle
  natives key native found := reliable.keepTypes _ key native found
  named closure _ closes := aligned.named closure (List.mem_of_getElem? closes.1) closes.2
  code closure name identifier closes := by
    obtain ⟨function, found, parameters, body⟩ := aligned.code identifier closure closes.1
    exact Option.map_eq_some_iff.2 ⟨function, found, by rw [parameters, body]⟩
  below closure _ _ closes := aligned.grounded.made closure (List.mem_of_getElem? closes.1)

/-- A check that declares neither names nor functions. -/
theorem checked (aligned : Aligned natives since declared state scopes) {footprint : Footprint}
    {after : State} (effect : Effect footprint state after)
    (quiet : ∀ frame, ¬ footprint.frames frame)
    (size : after.functions.size = state.functions.size)
    (ready : after.Ready since state.next) : Aligned natives since declared after scopes where
  level := aligned.level.quiet aligned.ready.wellFormed effect quiet size
  ready := ready.raise
  grounded := aligned.grounded
  size := aligned.size.trans size.symm
  code identifier closure made := by
    obtain ⟨function, found, parameters, body⟩ := aligned.code identifier closure made
    obtain ⟨later, isLater, _, sameParameters, sameBody, _⟩ :=
      effect.declarations identifier function found
    exact ⟨later, isLater, by rw [sameParameters, parameters], by rw [sameBody, body]⟩
  named := aligned.named
  accords := by
    rw [effect.view aligned.ready.wellFormed aligned.level.rooted fun frame _ => quiet frame]
    exact aligned.accords

/-- A part of a run that declares nothing. -/
theorem ran (aligned : Aligned natives since declared state scopes) {last : Scopes Value}
    (kept : scopes.Kept (fun frame => scopes.frames.size ≤ frame) last)
    (shows : (settingOf natives since declared state scopes).Shows (ground (state.view 0)) 0
      (state.view 0) last) : Aligned natives since declared state last := by
  obtain ⟨other, _, fits, sees⟩ := shows
  exact { aligned with
    grounded := aligned.grounded.kept kept fits.ordered
    accords := fun name type known => fits.get? sees known }

/-- A global name is declared. -/
theorem bind (aligned : Aligned natives since declared state scopes) {type : Ty} {value : Value}
    (isProper : type.isProper = true) (inhabits : Inhabits natives (MadeBy declared) type value)
    (name : String) :
    ∃ later, Aligned natives later declared (state.bind 0 name type)
      (scopes.define 0 name value) := by
  obtain ⟨later, ready⟩ := aligned.ready.bind aligned.level name isProper
  refine ⟨later, { aligned with
    level := aligned.level.bind aligned.ready.wellFormed name type
    ready := ready.raise
    grounded := aligned.grounded.define name value
    accords := ?_ }⟩
  rw [State.view_bind aligned.level.rooted]
  exact aligned.accords.define aligned.grounded.rooted inhabits name

/-- A function is made, which nothing refers to yet. -/
theorem hoist (aligned : Aligned natives since declared state scopes) {place : Place}
    {name : Token} {parameters : List Token} {body : Block} (plain : body.isPlain = true)
    (shaped : body.isShaped = true) {closure : Closure} (named : closure.name ≠ "tuple")
    (same : parameters.map (·.lexeme) = closure.parameters ∧ body = closure.body)
    (frame : closure.frame = scopes.frames.size) :
    Aligned natives since (declared ++ [closure]) (state.hoist place name parameters body)
      (scopes.nest 0).2 where
  level := aligned.level.hoist aligned.ready.wellFormed
  ready := aligned.ready.hoist aligned.level plain shaped
  grounded := aligned.grounded.nest frame
  size := by simp [State.hoist, aligned.size]
  code identifier other made := by
    rcases Nat.lt_or_ge identifier declared.length with lower | upper
    · rw [List.getElem?_append_left lower] at made
      obtain ⟨function, found, isSame⟩ := aligned.code identifier other made
      exact ⟨function, State.getElem?_hoist found, isSame⟩
    · rw [List.getElem?_append_right upper, List.getElem?_singleton] at made
      split at made
      · next first =>
          cases made
          obtain rfl : identifier = state.functions.size := by
            rw [← aligned.size]
            exact Nat.le_antisymm (Nat.le_of_sub_eq_zero first) upper
          exact ⟨_, Array.getElem?_push_size, same⟩
      · cases made
  named := List.forall_mem_append.2 ⟨aligned.named, List.forall_mem_singleton.2 named⟩
  accords := by
    rw [State.view_hoist aligned.ready.wellFormed aligned.level.rooted]
    intro sought type known
    obtain ⟨value, bound, inhabits⟩ := aligned.accords sought type known
    refine ⟨value, ?_, inhabits.mono fun other called identifier made => ⟨?_, made.2⟩⟩
    · rw [← bound]
      exact Scopes.get?_nest_of_lt aligned.grounded.ordered 0 aligned.grounded.rooted sought
    · rw [List.getElem?_append_left (List.getElem?_eq_some_iff.1 made.1).1]
      exact made.1

end Aligned

/-- A checker and a run are aligned, with some functions declared so far. -/
def Aligns (natives : List Native) (state : State) (machine : Machine) : Prop :=
  ∃ since declared, Aligned natives since declared state machine.scopes

section Statements

variable {natives : List Native} {since : Nat} {declared : List Closure} {state after : State}
  {machine : Machine} {bound fuel : Nat} {place : Place} {stmt : Stmt} {type : Ty}

/-- What a part of a run gives back in two ways, it gives back in both. -/
theorem Eval.Safe.and {α : Type} {good : α → Machine → Prop}
    {returned other : Value → Machine → Prop} {result : EStateM.Result Evaluation.Stop Machine α}
    (first : Eval.Safe good returned result) (second : Eval.Safe good other result) :
    Eval.Safe good (fun value last => returned value last ∧ other value last) result := by
  cases result with
  | ok value last => exact first
  | error stop last =>
      cases stop with
      | returned value => exact ⟨first, second⟩
      | failed | exhausted | faulted | aborted => exact first

namespace Aligned

/-- A statement that may not declare anything.  No value is given back, since it would have to
be of every type. -/
theorem execute_quiet (aligned : Aligned natives since declared state machine.scopes)
    (reliable : Native.Reliable natives)
    (checked : Check.checkStmt bound 0 place stmt state = .ok type after)
    (clean : after.diagnostics = []) (plain : stmt.isPlain = true) (shaped : stmt.isShaped = true)
    (quiet : stmt.declares = false) :
    Eval.Safe (fun _ last => Aligns natives after last) (fun _ _ => False)
      (Eval.execute natives fuel 0 stmt machine) := by
  have rooted := aligned.level.rooted
  have effect := ((Check.allKeep bound).checkStmt 0 place stmt state rooted).effect checked
  have none : ∀ frame, ¬ (Footprint.statement 0 place stmt).frames frame :=
    fun _ inside => absurd inside.2 (Bool.eq_false_iff.1 quiet)
  have size := (((discipline_properness state.next).checksTell bound).checkStmt plain
    aligned.ready.proper).ends.of_ok checked
  obtain ⟨ready, accepts⟩ := (Check.allDerive since state.next bound).checkStmt checked
    aligned.ready rooted plain shaped
    (fun declares => absurd declares (Bool.eq_false_iff.1 quiet)) clean
  have later := aligned.checked effect none size.1 ready
  have same := effect.view aligned.ready.wellFormed rooted fun frame _ => none frame
  have runs : ∀ result : Ty, result.isDefinite = true →
      Eval.Safe (fun _ last => Aligns natives after last)
        (fun value _ => Inhabits natives (MadeBy declared) result value)
        (Eval.execute natives fuel 0 stmt machine) := by
    intro result definite
    have idle : Check.Admits result after.met := by
      rw [State.met, later.level.idle]
      exact List.forall_mem_nil _
    obtain ⟨view, _, accepted⟩ := accepts _ (.refl _) result idle (after.view 0) (same ▸ .refl _)
    obtain rfl := accepted.view_eq quiet
    exact ((Eval.allSafe (later.sound reliable) fuel).execute accepted definite later.fits
      later.sees fun declares => absurd declares (Bool.eq_false_iff.1 quiet)).mono
      (fun value last equation shows => ⟨since, declared, later.ran
        (((Eval.runsKeepScopes _ machine.scopes natives fuel).execute 0 stmt (.inr quiet)).of_eq_ok
          (.refl machine.scopes) equation) shows⟩)
      fun value last gives => gives.1
  refine ((runs .number rfl).and (runs .text rfl)).mono (fun _ _ _ aligns => aligns)
    fun value _ both => ?_
  obtain ⟨number, rfl⟩ := Inhabits.number_iff.1 both.1
  exact both.2

/-- A declaration of a name.  If it is declared anew, all functions are checked again. -/
theorem execute_letValue (aligned : Aligned natives since declared state machine.scopes)
    (reliable : Native.Reliable natives) {name : Token} {written : Option WrittenType}
    {initializer : Expr}
    (checked : Check.checkStmt bound 0 place (.letValue name written initializer) state =
      .ok type after) (clean : after.diagnostics = []) :
    Eval.Safe (fun _ last => Aligns natives after last) (fun _ _ => False)
      (Eval.execute natives fuel 0 (.letValue name written initializer) machine) := by
  cases bound with
  | zero => cases checked
  | succ bound =>
    cases fuel with
    | zero => trivial
    | succ fuel =>
      rw [Check.checkStmt] at checked
      obtain ⟨_, last, bound, rest⟩ := bind_eq_ok checked
      obtain ⟨_, rfl⟩ := pure_eq_ok rest
      obtain ⟨left, found, known, middle, _, typed, rfl, binding⟩ := Check.checkLet_eq_ok bound
      have rooted := aligned.level.rooted
      obtain ⟨ready, types⟩ := (Check.allDerive since state.next left).typeOf typed aligned.ready
        rooted clean
      have size := (((discipline_properness state.next).checksTell left).typeOf trivial
        aligned.ready.proper).ends.of_ok typed
      have effect := Check.AllDerive.effect_typeOf typed
      have same := effect.view aligned.ready.wellFormed rooted fun _ _ none => none
      have later := aligned.checked effect (fun _ none => none) size.1 ready
      have sound := later.sound reliable
      rw [Eval.execute]
      refine Eval.Safe.bind ((Eval.allSafe sound fuel).evaluate
        (types _ (.refl _) (middle.view 0) (same ▸ .refl _)) later.fits later.sees)
        fun value last equation gives => ?_
      have kept := ((Eval.runsKeepScopes _ machine.scopes natives fuel).evaluate 0
        initializer).of_eq_ok (.refl machine.scopes) equation
      have ran := later.ran kept (gives.2.shows (later.sees.onward later.grounded.ordered kept))
      exact (ran.bind (Check.AllDerive.isProper_declared size.2.2 binding)
        (Eval.AllSafe.belongs_declared sound gives.1 binding) name.lexeme).imp
        fun since aligned => ⟨declared, aligned⟩

/-- A declaration of a function. -/
theorem execute_function (aligned : Aligned natives since declared state machine.scopes)
    {name : Token} {parameters : List Token} {body : Block}
    (checked : Check.checkStmt bound 0 place (.function name parameters body) state =
      .ok type after) (level : (Stmt.function name parameters body).isLevel = true)
    (shaped : body.isShaped = true) :
    Eval.Safe (fun _ last => Aligns natives after last) (fun _ _ => False)
      (Eval.execute natives fuel 0 (.function name parameters body) machine) := by
  cases bound with
  | zero => cases checked
  | succ bound =>
    cases fuel with
    | zero => trivial
    | succ fuel =>
      obtain ⟨named, plain⟩ := Bool.and_eq_true_iff.1 level
      cases checked
      let closure : Closure :=
        { name := name.lexeme, parameters := parameters.map (·.lexeme), body := body
          frame := machine.scopes.frames.size }
      have made : Aligned natives since (declared ++ [closure])
          (state.hoist (place.child 0) name parameters body) (machine.scopes.nest 0).2 :=
        aligned.hoist plain shaped (of_decide_eq_true named) ⟨rfl, rfl⟩ rfl
      have newest : MadeBy (declared ++ [closure]) closure name.lexeme state.functions.size :=
        ⟨by rw [← aligned.size, List.getElem?_concat_length], rfl⟩
      have isProper : (Ty.function name.lexeme state.functions.size).isProper = true := named
      exact (made.bind isProper (Inhabits.function_iff.2 ⟨closure, rfl, newest⟩) name.lexeme).imp
        fun since aligned => ⟨_, aligned⟩

/-- A statement that is level is executed safely, and keeps the checker and the run aligned. -/
theorem execute (aligned : Aligned natives since declared state machine.scopes)
    (reliable : Native.Reliable natives)
    (checked : Check.checkStmt bound 0 place stmt state = .ok type after)
    (clean : after.diagnostics = []) (level : stmt.isLevel = true) (shaped : stmt.isShaped = true) :
    Eval.Safe (fun _ last => Aligns natives after last) (fun _ _ => False)
      (Eval.execute natives fuel 0 stmt machine) := by
  cases stmt with
  | expression | block | ifThen | whileLoop | forLoop | giveBack =>
      exact aligned.execute_quiet reliable checked clean level shaped rfl
  | ifElse keyword condition consequent alternative =>
      have quiet : alternative.declares = false := by
        simpa using (Bool.and_eq_true_iff.1 shaped).2
      exact aligned.execute_quiet reliable checked clean level shaped quiet
  | letValue name written initializer =>
      exact aligned.execute_letValue reliable checked clean
  | function name parameters body => exact aligned.execute_function checked level shaped

/-- One statement after the other. -/
theorem executeProgram {first : Ty} {step : Nat} {last : Value} {stmts : List Stmt}
    (aligned : Aligned natives since declared state machine.scopes)
    (reliable : Native.Reliable natives)
    (checked : Check.checkStatements bound 0 place step first stmts state = .ok type after)
    (clean : after.diagnostics = []) (level : stmts.all Stmt.isLevel = true)
    (shaped : Stmt.areShaped stmts = true) :
    Eval.Safe (fun _ _ => True) (fun _ _ => False)
      (Eval.executeProgram natives fuel 0 last stmts machine) := by
  induction stmts generalizing state machine since declared first step last with
  | nil => trivial
  | cons stmt stmts inductionHypothesis =>
      rw [Check.checkStatements] at checked
      obtain ⟨reported, middle, early, rest⟩ := bind_eq_ok checked
      obtain ⟨levelFirst, levelOthers⟩ := Bool.and_eq_true_iff.1 level
      obtain ⟨shapedFirst, shapedOthers⟩ := Bool.and_eq_true_iff.1 shaped
      have keeps := (Check.allKeep bound).checkStmt 0 (place.child step) stmt state
        aligned.level.rooted
      have rooted := Nat.lt_of_lt_of_le aligned.level.rooted
        (keeps.reporting.effect early).grown.size
      have cleanMiddle := (Check.checkStatements_effect rooted rest).clean clean
      obtain ⟨found, rfl, checkedFirst⟩ := Check.reporting_eq_ok keeps early cleanMiddle
      rw [Eval.executeProgram]
      refine Eval.Safe.bind
        (aligned.execute reliable checkedFirst cleanMiddle levelFirst shapedFirst)
        fun value next _ aligns => ?_
      obtain ⟨_, _, alignedNext⟩ := aligns
      exact inductionHypothesis alignedNext rest levelOthers shapedOthers

/-- At the beginning there are the native functions. -/
theorem start (reliable : Native.Reliable natives) :
    Aligned natives 0 [] (({} : State).opened (Native.signatures natives))
      (Machine.start natives).scopes where
  level :=
    { idle := rfl
      rooted := (@State.stands_opened {} (.nil _) (Native.signatures natives)).present
      empty := fun _ member => absurd member (Array.not_mem_empty _)
      inside := fun _ member => absurd member (Array.not_mem_empty _) }
  ready :=
    { wellFormed := (State.Sound.new.opened (Native.signatures natives)).1.toWellFormed
      proper :=
        { bound := by
            have root : (({} : State).scopes.addRoot.2).All fun type => type.isProper = true :=
              Scopes.All.add (fun _ member => absurd member (Array.not_mem_empty _)) _
            refine root.defineAll _ fun binding member => ?_
            obtain ⟨signature, isSignature, rfl⟩ := List.mem_map.1 member
            obtain ⟨native, isNative, rfl⟩ := List.mem_map.1 isSignature
            exact reliable.proper native isNative
          returns := List.forall_mem_nil _
          instances := fun _ member => absurd member (Array.not_mem_empty _)
          bodies := fun _ member => absurd member (Array.not_mem_empty _) }
      present := Nat.le_refl _
      begun := Nat.le_refl _
      dated := fun known => by cases known
      justified := fun _ known => by cases known }
  grounded :=
    { ordered := ordered_root.defineAll _ _
      rooted := by simp [Machine.start, Scopes.root, Scopes.addRoot, Scopes.add]
      made := List.forall_mem_nil _
      empty := List.forall_mem_nil _
      inside := List.forall_mem_nil _ }
  size := rfl
  code _ _ made := by cases made
  named := List.forall_mem_nil _
  accords := by
    have empty : Accords natives (MadeBy []) ((Scopes.root : Scopes Ty).get? 0)
        (Scopes.root : Scopes Value) := fun _ _ found => by cases found
    have bound := empty.defineAll Nat.zero_lt_one reliable.kept
    rw [← Scopes.get?_defineAll _ Nat.zero_lt_one] at bound
    have same : (({} : State).opened (Native.signatures natives)).view 0 =
        (Scopes.root.defineAll 0
          (natives.map fun native => (native.key, native.signature.type))).get? 0 := by
      unfold State.opened State.view Native.signatures
      rw [List.map_map]
      rfl
    rw [same]
    exact bound

end Aligned

end Statements

/-- A run that ends as the runs of accepted programs should: with a value, or with one fault
that only running can find, or not within the bound on its steps. -/
def RunResult.IsSafe : RunResult → Prop
  | .value _ | .exhausted => True
  | .rejected rejection => ∃ diagnostic, diagnostic.cause.code ∈ Phase.codes .running ∧
      rejection = { phase := .running, diagnostics := [diagnostic] }
  | .faulted _ | .aborted _ => False

theorem Native.reliable_library (write : Writing) (readings : Nat → Float) :
    Native.Reliable [.printTo write, .clockReading readings] where
  kept native member := by
    rcases List.mem_cons.1 member with rfl | member
    · rfl
    · rw [List.mem_singleton.1 member]
      rfl
  proper native member := by
    rcases List.mem_cons.1 member with rfl | member
    · rfl
    · rw [List.mem_singleton.1 member]
      rfl
  keepTypes := Native.keepTypes_library write readings

/-- A program that is run safely ends as it should. -/
theorem Eval.Safe.isSafe {natives : List Native} {fuel : Nat} {program : Program}
    {machine : Machine}
    (safe : Eval.Safe (fun _ _ => True) (fun _ _ => False)
      (Eval.executeProgram natives fuel Machine.root .unit program
        { machine with console := { machine.console with output := "" } })) :
    (machine.run natives fuel program).1.IsSafe := by
  unfold Machine.run
  dsimp only
  split
  · trivial
  · next ended =>
      rw [ended] at safe
      exact safe
  · next diagnostic last ended =>
      rw [ended] at safe
      exact ⟨diagnostic, (show diagnostic.cause.phase = .running from safe) ▸
        diagnostic.cause.code_mem_codes, rfl⟩
  · next ended =>
      rw [ended] at safe
      exact safe
  · next ended =>
      rw [ended] at safe
      exact safe
  · trivial

/-- What can be read is shaped as programs are. -/
theorem Program.areShaped_of_parse {segmentation : Segmentation} {source : String}
    {program : Program} (parsed : segmentation.parse source = .ok program) :
    Stmt.areShaped program = true := by
  obtain ⟨stream, _, read⟩ := Segmentation.exists_of_parse_eq_ok parsed
  exact Program.areShaped_of_read read

/-- Type soundness of level programs.  If a checker accepts a program whose functions are
declared at its top only, none of them called `tuple`, then no run of the program comes to a
state that checking should rule out, whatever the output refuses and whatever the clock
shows. -/
theorem accepted_level_programs_run_safely {segmentation : Segmentation} {source : String}
    {program : Program} {bound : Nat} {type : Ty} (write : Writing) (readings : Nat → Float)
    (fuel : Nat) (parsed : segmentation.parse source = .ok program)
    (level : program.all Stmt.isLevel = true)
    (accepted : (({} : State).check bound
      (Native.signatures [.printTo write, .clockReading readings]) program).1 = .accepted type) :
    ((Machine.start [.printTo write, .clockReading readings]).run
      [.printTo write, .clockReading readings] fuel program).1.IsSafe := by
  have reliable := Native.reliable_library write readings
  generalize ([.printTo write, .clockReading readings] : List Native) = natives
    at accepted reliable ⊢
  obtain ⟨checked, clean⟩ := State.check_eq_accepted (Prod.ext accepted rfl)
  obtain ⟨middle, statements, uncalled⟩ := Check.checkProgram_eq_ok checked
  exact Eval.Safe.isSafe (Aligned.executeProgram (Aligned.start reliable) reliable statements
    ((Check.checkUncalled_effect uncalled).clean clean) level
    (Program.areShaped_of_parse parsed))

/-- How a source text fares when it is read, checked and run: its type if it is accepted, and
the fault that its run comes to. -/
def trial (source : String) (fuel : Nat) : Except Rejection (Option Ty × Option Fault) := do
  let program ← Program.ofSource source
  let natives := Native.defaults
  return (
    match (({} : Typing.State).check fuel (Native.signatures natives) program).1 with
    | .accepted type => some type
    | _ => none,
    match ((Evaluation.Machine.start natives).run natives fuel program).1 with
    | .faulted fault => some fault
    | _ => none)

/-- A function that calls itself and returns early. -/
def earlyReturn : String :=
  "fun f(b) \x7b if b \x7b return \"a\"; \x7d f(true) \x7d let s = f(false); print(s + s);"

theorem accepted_level_programs_run_safely_earlyReturn :
    let refuses : Writing := fun _ console => (some "closed", console)
    ∃ (program : Program) (type : Ty), Segmentation.standard.parse earlyReturn = .ok program ∧
      program.all Stmt.isLevel = true ∧
      (({} : State).check 40 (Native.signatures [.printTo refuses, .clockReading fun _ => 0])
        program).1 = .accepted type ∧
      ((Machine.start [.printTo refuses, .clockReading fun _ => 0]).run
        [.printTo refuses, .clockReading fun _ => 0] 40 program).1.IsSafe := by
  intro refuses
  have fares : trial earlyReturn 40 = .ok (some .unit, none) := by cbv
  have levels : (Segmentation.standard.parse earlyReturn).map (·.all Stmt.isLevel) =
      .ok true := by cbv
  unfold trial Program.ofSource at fares
  cases read : Segmentation.standard.parse earlyReturn with
  | error rejection =>
      rw [read] at fares
      cases fares
  | ok program =>
      rw [read] at fares levels
      have level := Except.ok.inj levels
      have accepted := (Prod.mk.inj (Except.ok.inj fares)).1
      split at accepted
      · next type checked =>
          exact ⟨program, type, rfl, level, checked, accepted_level_programs_run_safely refuses
            (fun _ => 0) 40 read level checked⟩
      · cases accepted

/-- Where a function is declared in the body of another one, a run may fault.  All calls of a
function share the frame that its body is checked in, so a name counts as defined even where an
early return skips its definition. -/
theorem accepted_programs_can_fault :
    ¬ ∀ (source : String) (program : Program) (bound fuel : Nat) (type : Ty) (fault : Fault),
      Program.ofSource source = .ok program →
      (({} : Typing.State).check bound (Native.signatures Native.defaults) program).1 =
        .accepted type →
      ((Evaluation.Machine.start Native.defaults).run Native.defaults fuel program).1 ≠
        .faulted fault := by
  intro sound
  obtain ⟨source, fares⟩ : ∃ source, trial source 100 = .ok (some .text, some (.unbound "x")) :=
    ⟨"fun f(c) \x7b fun g() \x7b x \x7d if c \x7b return g; \x7d let x = \"s\"; g \x7d f(true)();",
      by cbv⟩
  unfold trial at fares
  cases read : Program.ofSource source with
  | error rejection =>
      rw [read] at fares
      cases fares
  | ok program =>
      rw [read] at fares
      obtain ⟨accepted, faulted⟩ := Prod.mk.inj (Except.ok.inj fares)
      split at accepted
      · next type checked =>
          split at faulted
          · next fault ran => exact sound _ _ _ _ _ _ read checked ran
          · cases faulted
      · cases accepted

end CheckedScript
