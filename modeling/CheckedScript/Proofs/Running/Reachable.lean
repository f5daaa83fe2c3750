import CheckedScript.Proofs.Frames
import CheckedScript.Proofs.Running.Closures
import Mathlib.Logic.Relation

/-!
# What a run can reach

A frame leads to its ancestors and to the frames of the functions bound in it.  Whatever is
executed in a frame changes bindings only in frames that it leads to, directly or not, and
in frames made meanwhile.  The proof divides all frames, those to be made included, into an
inside and an outside.  The inside is chosen once and for all: no lead goes out of it, and
every value that the run gets hold of has its closures there, also one that no variable
holds any more.
-/

namespace CheckedScript

namespace Scopes

/-- The frames that a frame leads to directly. -/
inductive Leads (scopes : Scopes Value) (frame : FrameId) : FrameId → Prop
  /-- Names are looked for in the ancestors. -/
  | outward {outer : FrameId} : outer ∈ scopes.ancestors frame → Leads scopes frame outer
  /-- A function can be called wherever it is bound. -/
  | bound {name : String} {value : Value} {closure : Closure} :
      (scopes.bindings frame).get? name = some value → closure ∈ value.closures →
        Leads scopes frame closure.frame

/-- The frames that a frame leads to, directly or not, and the frame itself. -/
def Reaches (scopes : Scopes Value) : FrameId → FrameId → Prop :=
  Relation.ReflTransGen scopes.Leads

/-- Scopes in which everything is as it was in earlier ones outside of certain frames, and
in which nothing inside leads there. -/
structure Confined (inside : FrameId → Prop) (start scopes : Scopes Value) : Prop where
  fresh : ∀ frame, scopes.frames.size ≤ frame → inside frame
  closed : ∀ frame other, inside frame → scopes.Leads frame other → inside other
  untouched : ∀ frame, ¬ inside frame → scopes.bindings frame = start.bindings frame

/-- A value that refers to frames inside only. -/
def Inside (inside : FrameId → Prop) (value : Value) : Prop :=
  value.Holds fun closure => inside closure.frame

theorem bindings_define_of_size_le (scopes : Scopes Value) {frame : FrameId}
    (absent : scopes.frames.size ≤ frame) (other : FrameId) (name : String) (value : Value) :
    (scopes.define frame name value).bindings other = scopes.bindings other := by
  unfold bindings define
  rw [Array.getElem?_modify]
  by_cases same : frame = other
  · subst same
    simp [absent]
  · simp [same]

/-- A write adds the closures of the value written, and no other lead. -/
theorem Leads.of_define {scopes : Scopes Value} {target frame other : FrameId} {name : String}
    {value : Value} (leads : (scopes.define target name value).Leads frame other) :
    scopes.Leads frame other ∨
      frame = target ∧ ∃ closure ∈ value.closures, closure.frame = other := by
  cases leads with
  | outward member =>
      rw [ancestors_define] at member
      exact .inl (.outward member)
  | @bound defined found closure bound member =>
      rcases Nat.lt_or_ge target scopes.frames.size with present | absent
      · rw [bindings_define scopes present] at bound
        split at bound
        · next same =>
            rw [Table.get?_set] at bound
            split at bound
            · cases bound
              exact .inr ⟨same.symm, closure, member, rfl⟩
            · exact .inl (.bound (same ▸ bound) member)
        · exact .inl (.bound bound member)
      · rw [bindings_define_of_size_le scopes absent] at bound
        exact .inl (.bound bound member)

/-- A new frame leads outward only, and the other frames lead where they did. -/
theorem Leads.of_nest {scopes : Scopes Value} {outer frame other : FrameId}
    (leads : (scopes.nest outer).2.Leads frame other) :
    scopes.Leads frame other ∨ frame = scopes.frames.size ∧ other ∈ scopes.path outer := by
  rcases Nat.lt_trichotomy frame scopes.frames.size with lower | rfl | higher
  · cases leads with
    | outward member =>
        rw [ancestors_nest_of_lt scopes outer lower] at member
        exact .inl (.outward member)
    | bound bound member =>
        rw [bindings_nest_of_lt scopes outer lower] at bound
        exact .inl (.bound bound member)
  · cases leads with
    | outward member =>
        have new := ancestors_nest scopes outer
        rw [fst_nest] at new
        rw [new] at member
        exact .inr ⟨rfl, member⟩
    | bound bound member =>
        have empty := bindings_nest scopes outer
        rw [fst_nest] at empty
        rw [empty] at bound
        cases bound
  · have absent : (scopes.nest outer).2.frames.size ≤ frame := by
      rw [size_frames_nest]
      exact higher
    cases leads with
    | outward member =>
        rw [ancestors_of_size_le _ absent] at member
        cases member
    | bound bound member =>
        have empty : (scopes.nest outer).2.bindings frame = [] := by
          unfold bindings
          rw [Array.getElem?_eq_none absent]
        rw [empty] at bound
        cases bound

namespace Confined

variable {inside : FrameId → Prop} {start scopes : Scopes Value} {frame : FrameId}

/-- Everything that a frame reaches, and everything that is not there yet, is a possible
inside. -/
theorem of_reaches (start : Scopes Value) (frame : FrameId) :
    Confined (fun other => start.Reaches frame other ∨ start.frames.size ≤ other) start start where
  fresh _ absent := .inr absent
  closed := by
    rintro other further (reached | absent) leads
    · exact .inl (reached.tail leads)
    · cases leads with
      | outward member =>
          rw [ancestors_of_size_le start absent] at member
          cases member
      | bound bound member =>
          unfold bindings at bound
          rw [Array.getElem?_eq_none absent] at bound
          cases bound
  untouched _ _ := rfl

theorem of_mem_path (confined : Confined inside start scopes) (isInside : inside frame)
    {other : FrameId} (member : other ∈ scopes.path frame) : inside other := by
  rcases List.mem_cons.1 member with rfl | outer
  · exact isInside
  · exact confined.closed frame other isInside (.outward outer)

theorem get? (confined : Confined inside start scopes) (isInside : inside frame) {name : String}
    {value : Value} (found : scopes.get? frame name = some value) : Inside inside value := by
  obtain ⟨owner, member, bound⟩ := List.exists_of_findSome?_eq_some found
  exact fun closure carried =>
    confined.closed owner closure.frame (confined.of_mem_path isInside member) (.bound bound carried)

theorem nest (confined : Confined inside start scopes) (isInside : inside frame) :
    Confined inside start (scopes.nest frame).2 where
  fresh other absent := by
    rw [size_frames_nest] at absent
    exact confined.fresh other (Nat.le_of_succ_le absent)
  closed other further otherInside leads := by
    rcases leads.of_nest with old | ⟨-, member⟩
    · exact confined.closed other further otherInside old
    · exact confined.of_mem_path isInside member
  untouched other outside := by
    have present : other < scopes.frames.size :=
      Nat.lt_of_not_le fun absent => outside (confined.fresh other absent)
    rw [bindings_nest_of_lt scopes frame present]
    exact confined.untouched other outside

theorem define (confined : Confined inside start scopes) (isInside : inside frame) (name : String)
    {value : Value} (fits : Inside inside value) :
    Confined inside start (scopes.define frame name value) where
  fresh other absent := confined.fresh other (by simpa using absent)
  closed other further otherInside leads := by
    rcases leads.of_define with old | ⟨-, closure, carried, rfl⟩
    · exact confined.closed other further otherInside old
    · exact fits closure carried
  untouched other outside := by
    have different : frame ≠ other := fun same => outside (same ▸ isInside)
    have kept : (scopes.define frame name value).bindings other = scopes.bindings other := by
      rcases Nat.lt_or_ge frame scopes.frames.size with present | absent
      · rw [bindings_define scopes present, if_neg different]
      · exact bindings_define_of_size_le scopes absent other name value
    rw [kept]
    exact confined.untouched other outside

theorem defineAll (confined : Confined inside start scopes) (isInside : inside frame)
    {bindings : Bindings Value} (fits : ∀ binding ∈ bindings, Inside inside binding.2) :
    Confined inside start (scopes.defineAll frame bindings) := by
  induction bindings generalizing scopes with
  | nil => exact confined
  | cons binding bindings inductionHypothesis =>
      obtain ⟨first, others⟩ := List.forall_mem_cons.1 fits
      exact inductionHypothesis (confined.define isInside binding.1 first) others

end Confined

end Scopes

namespace Confinement

open Evaluation Eval Scopes

variable {inside : FrameId → Prop} {start : Scopes Value} {natives : List Native}

/-- A reason to stop that gives back nothing but what is inside. -/
def Stops (inside : FrameId → Prop) : Stop → Prop
  | .returned value => Inside inside value
  | .failed _ | .faulted _ | .aborted _ | .exhausted => True

/-- What is known of a run inside of certain frames. -/
def confining (inside : FrameId → Prop) (start : Scopes Value) : Guard Stop Machine where
  stop := Stops inside
  state machine := Confined inside start machine.scopes

section Steps

variable {frame : FrameId} {α : Type} {fits : α → Prop}

theorem keeps_orStop {result : Except Stop α} (bare : Bare fits result) :
    (confining inside start).Keeps fits (orStop result) := by
  cases result with
  | ok value => exact .pure bare
  | error stop =>
      refine .throw ?_
      cases stop with
      | returned value => exact bare.elim
      | failed | faulted | aborted | exhausted => exact trivial

/-- The values of operators carry no closures at all. -/
theorem keeps_plain {result : Except Stop Value} (bare : Bare (fun value => value.closures = []) result) :
    (confining inside start).Keeps (Inside inside) (orStop result) :=
  (keeps_orStop bare).mono fun _ plain => Value.holds_of_closures_eq_nil plain

theorem keeps_nest (isInside : inside frame) :
    (confining inside start).Keeps inside (nest frame) := fun _ confined =>
  ⟨confined.fresh _ (Nat.le_refl _), confined.nest isInside⟩

theorem keeps_define (isInside : inside frame) {bindings : Bindings Value}
    (fits : ∀ binding ∈ bindings, Inside inside binding.2) :
    (confining inside start).Keeps (fun _ => True) (define frame bindings) :=
  fun _ confined => ⟨trivial, confined.defineAll isInside fits⟩

theorem keeps_lookup (isInside : inside frame) (name : String) :
    (confining inside start).Keeps (Inside inside) (lookup frame name) := by
  refine .get fun machine confined => ?_
  cases found : machine.scopes.get? frame name with
  | some value => exact .pure (Confined.get? confined isInside found)
  | none => exact .throw trivial

theorem keeps_assign (isInside : inside frame) (name : String) {value : Value}
    (fits : Inside inside value) :
    (confining inside start).Keeps (fun _ => True) (assign frame name value) := by
  intro machine confined
  unfold assign
  dsimp only
  split
  · next owner owns =>
      have member := List.mem_of_find?_eq_some owns
      exact ⟨trivial, Confined.define confined (Confined.of_mem_path confined isInside member) name fits⟩
  · exact ⟨trivial, confined⟩

theorem keeps_catchReturn {body : Eval Value}
    (keeps : (confining inside start).Keeps (Inside inside) body) :
    (confining inside start).Keeps (Inside inside) (catchReturn body) := by
  intro machine confined
  have ended := keeps machine confined
  unfold catchReturn
  cases equation : body machine with
  | ok value after =>
      rw [equation] at ended
      exact ended
  | error stop after =>
      rw [equation] at ended
      cases stop <;> exact ended

theorem keeps_callNative {native : Native} (passesOn : native.PassesOn) {arguments : List Value}
    (fit : Value.HoldAll (fun closure => inside closure.frame) arguments) (paren : Token) :
    (confining inside start).Keeps (Inside inside) (callNative native arguments paren) := by
  rintro ⟨scopes, console⟩ confined
  unfold callNative
  cases ended : (native.run arguments console).1 with
  | value found =>
      simp only [ended]
      exact ⟨fun closure carried => fit closure (passesOn arguments console found ended carried),
        confined⟩
  | failed reason =>
      simp only [ended]
      exact ⟨trivial, confined⟩
  | aborted reason =>
      simp only [ended]
      exact ⟨trivial, confined⟩

theorem keeps_requireArity (name : String) (expected found : Nat) :
    (confining inside start).Keeps (fun _ => True) (requireArity name expected found) := by
  unfold requireArity
  split
  · exact .pure trivial
  · exact .throw trivial

end Steps

/-- Whatever is executed inside stays inside. -/
structure RunsStay (inside : FrameId → Prop) (start : Scopes Value) (natives : List Native)
    (fuel : Nat) : Prop where
  evaluate : ∀ frame expr, inside frame →
    (confining inside start).Keeps (Inside inside) (evaluate natives fuel frame expr)
  evaluateAll : ∀ frame exprs, inside frame →
    (confining inside start).Keeps (Value.HoldAll fun closure => inside closure.frame)
      (evaluateAll natives fuel frame exprs)
  call : ∀ callee arguments paren, Inside inside callee →
    Value.HoldAll (fun closure => inside closure.frame) arguments →
    (confining inside start).Keeps (Inside inside) (call natives fuel callee arguments paren)
  execute : ∀ frame stmt, inside frame →
    (confining inside start).Keeps (Inside inside) (execute natives fuel frame stmt)
  executeAll : ∀ frame stmts, inside frame →
    (confining inside start).Keeps (fun _ => True) (executeAll natives fuel frame stmts)
  executeBody : ∀ frame body, inside frame →
    (confining inside start).Keeps (Inside inside) (executeBody natives fuel frame body)
  executeBlock : ∀ frame body, inside frame →
    (confining inside start).Keeps (Inside inside) (executeBlock natives fuel frame body)
  repeatWhile : ∀ frame keyword condition body, inside frame →
    (confining inside start).Keeps (Inside inside)
      (repeatWhile natives fuel frame keyword condition body)
  repeatFor : ∀ frame name range index body, inside frame →
    (confining inside start).Keeps (Inside inside)
      (repeatFor natives fuel frame name range index body)

namespace RunsStay

variable {fuel : Nat} {frame : FrameId}

theorem inside_unit : Inside inside .unit :=
  Value.holds_of_closures_eq_nil rfl

theorem evaluate_succ (stay : RunsStay inside start natives fuel) (expr : Expr)
    (isInside : inside frame) :
    (confining inside start).Keeps (Inside inside) (Eval.evaluate natives (fuel + 1) frame expr) := by
  cases expr with
  | literal value token =>
      exact .pure (Value.holds_of_closures_eq_nil (closures_constantValue value))
  | reference name => exact keeps_lookup isInside _
  | assign name value =>
      exact (stay.evaluate _ _ isInside).bind fun assigned fits =>
        (keeps_assign isInside _ fits).bind fun _ _ => .pure fits
  | group inner => exact stay.evaluate _ _ isInside
  | tuple items => exact (stay.evaluateAll _ _ isInside).bind fun _ fit => .pure fit
  | unary operator token operand =>
      exact (stay.evaluate _ _ isInside).bind fun value _ =>
        keeps_plain (bare_applyUnary operator value)
  | binary operator token left right =>
      exact (stay.evaluate _ _ isInside).bind fun first _ =>
        (stay.evaluate _ _ isInside).bind fun second _ =>
          keeps_plain (bare_applyBinary operator first second)
  | logical operator token left right =>
      have decided (truth : Bool) : Inside inside (.bool truth) :=
        Value.holds_of_closures_eq_nil rfl
      have goesOn : (confining inside start).Keeps (Inside inside) (do
          let second ← Eval.evaluate natives fuel frame right
          return .bool (← orStop (truth token second))) :=
        (stay.evaluate _ _ isInside).bind fun second _ =>
          (keeps_orStop (bare_truth second)).bind fun holds _ => .pure (decided holds)
      refine (stay.evaluate _ _ isInside).bind fun value _ =>
        (keeps_orStop (bare_truth value)).bind fun first _ => ?_
      cases operator <;> cases first
      · exact .pure (decided false)
      · exact goesOn
      · exact goesOn
      · exact .pure (decided true)
  | call callee paren arguments =>
      exact (stay.evaluate _ _ isInside).bind fun function fits =>
        (stay.evaluateAll _ _ isInside).bind fun values fit => stay.call _ _ _ fits fit

theorem evaluateAll_succ (stay : RunsStay inside start natives fuel) (exprs : List Expr)
    (isInside : inside frame) :
    (confining inside start).Keeps (Value.HoldAll fun closure => inside closure.frame)
      (Eval.evaluateAll natives (fuel + 1) frame exprs) := by
  cases exprs with
  | nil => exact .pure Value.holdAll_nil
  | cons expr exprs =>
      exact (stay.evaluate _ _ isInside).bind fun _ fits =>
        (stay.evaluateAll _ _ isInside).bind fun _ fit =>
          .pure (Value.holdAll_cons.2 ⟨fits, fit⟩)

/-- The frame of a call lies inside the frame of the closure, which is inside. -/
theorem call_succ (passOn : ∀ native ∈ natives, native.PassesOn)
    (stay : RunsStay inside start natives fuel) {callee : Value} {arguments : List Value}
    (paren : Token) (fits : Inside inside callee)
    (fit : Value.HoldAll (fun closure => inside closure.frame) arguments) :
    (confining inside start).Keeps (Inside inside)
      (Eval.call natives (fuel + 1) callee arguments paren) := by
  cases callee with
  | native key signature =>
      refine (keeps_requireArity _ _ _).bind fun _ _ => ?_
      cases found : Native.find? natives key with
      | some native =>
          exact keeps_callNative (passOn native (List.mem_of_find?_eq_some found)) fit paren
      | none => exact .throw trivial
  | function closure =>
      have closureInside : inside closure.frame := Value.holds_function.1 fits
      exact (keeps_requireArity _ _ _).bind fun _ _ =>
        (keeps_nest closureInside).bind fun frame isInside =>
          (keeps_define isInside (Value.HoldAll.zip fit closure.parameters)).bind fun _ _ =>
            keeps_catchReturn (stay.executeBody _ _ isInside)
  | number | text | bool | tuple | range => exact .throw trivial

theorem executeAll_succ (stay : RunsStay inside start natives fuel) (stmts : List Stmt)
    (isInside : inside frame) :
    (confining inside start).Keeps (fun _ => True)
      (Eval.executeAll natives (fuel + 1) frame stmts) := by
  cases stmts with
  | nil => exact .pure trivial
  | cons stmt stmts =>
      exact (stay.execute _ _ isInside).bind fun _ _ => stay.executeAll _ _ isInside

theorem executeBody_succ (stay : RunsStay inside start natives fuel) (body : Block)
    (isInside : inside frame) :
    (confining inside start).Keeps (Inside inside)
      (Eval.executeBody natives (fuel + 1) frame body) := by
  obtain ⟨brace, statements, tail⟩ := body
  refine (stay.executeAll _ _ isInside).bind fun _ _ => ?_
  cases tail with
  | none => exact .pure inside_unit
  | some tail => exact stay.evaluate _ _ isInside

theorem repeatWhile_succ (stay : RunsStay inside start natives fuel) (keyword : Token)
    (condition : Expr) (body : Block) (isInside : inside frame) :
    (confining inside start).Keeps (Inside inside)
      (Eval.repeatWhile natives (fuel + 1) frame keyword condition body) := by
  refine (stay.evaluate _ _ isInside).bind fun value _ =>
    (keeps_orStop (bare_truth value)).bind fun holds _ => ?_
  cases holds with
  | true =>
      exact (stay.executeBlock _ _ isInside).bind fun _ _ => stay.repeatWhile _ _ _ _ isInside
  | false => exact .pure inside_unit

theorem repeatFor_succ (stay : RunsStay inside start natives fuel) (name : String)
    (range : NumberRange Float) (index : Nat) (body : Block) (isInside : inside frame) :
    (confining inside start).Keeps (Inside inside)
      (Eval.repeatFor natives (fuel + 1) frame name range index body) := by
  unfold Eval.repeatFor
  cases range.item? index with
  | none => exact .pure inside_unit
  | some item =>
      refine (keeps_nest isInside).bind fun inner innerInside =>
        (keeps_define innerInside ?_).bind fun _ _ => ?_
      · exact List.forall_mem_singleton.2 (Value.holds_of_closures_eq_nil rfl)
      · exact (stay.executeBlock _ _ innerInside).bind fun _ _ => stay.repeatFor _ _ _ _ _ isInside

theorem execute_succ (stay : RunsStay inside start natives fuel) (stmt : Stmt)
    (isInside : inside frame) :
    (confining inside start).Keeps (Inside inside) (Eval.execute natives (fuel + 1) frame stmt) := by
  cases stmt with
  | expression value => exact stay.evaluate _ _ isInside
  | letValue name declared initializer =>
      exact (stay.evaluate _ _ isInside).bind fun value fits =>
        (keeps_define isInside (List.forall_mem_singleton.2 fits)).bind fun _ _ =>
          .pure inside_unit
  | block body => exact stay.executeBlock _ _ isInside
  | ifThen keyword condition consequent =>
      refine (stay.evaluate _ _ isInside).bind fun value _ =>
        (keeps_orStop (bare_truth value)).bind fun holds _ => ?_
      cases holds with
      | true => exact (stay.executeBlock _ _ isInside).bind fun _ _ => .pure inside_unit
      | false => exact .pure inside_unit
  | ifElse keyword condition consequent alternative =>
      refine (stay.evaluate _ _ isInside).bind fun value _ =>
        (keeps_orStop (bare_truth value)).bind fun holds _ => ?_
      cases holds with
      | true => exact (stay.executeBlock _ _ isInside).bind fun _ _ => .pure inside_unit
      | false => exact (stay.execute _ _ isInside).bind fun _ _ => .pure inside_unit
  | whileLoop keyword condition body => exact stay.repeatWhile _ _ _ _ isInside
  | forLoop name bounds body =>
      have turns (start : Value) (step : Option Value) := by
        exact (stay.evaluate frame bounds.stop isInside).bind fun stop _ =>
          (keeps_orStop (@bare_loopRange bounds.token start stop step)).bind
            fun range _ => stay.repeatFor frame name.lexeme range 0 body isInside
      refine (stay.evaluate _ _ isInside).bind fun start _ => ?_
      cases bounds.step with
      | none => exact turns start none
      | some step =>
          exact (Guard.Keeps.map ((stay.evaluate frame step isInside).mono
            fun _ _ => trivial)).bind fun found (_ : True) => turns start found
  | function name parameters body =>
      refine (keeps_nest isInside).bind fun closure closureInside =>
        (keeps_define isInside ?_).bind fun _ _ => .pure inside_unit
      exact List.forall_mem_singleton.2 (Value.holds_function.2 closureInside)
  | giveBack keyword value =>
      cases value with
      | none => exact .throw inside_unit
      | some value => exact (stay.evaluate _ _ isInside).bind fun _ fits => .throw fits

end RunsStay

theorem runsStay (inside : FrameId → Prop) (start : Scopes Value)
    (passOn : ∀ native ∈ natives, native.PassesOn) (fuel : Nat) :
    RunsStay inside start natives fuel := by
  induction fuel with
  | zero => constructor <;> intros <;> exact .throw trivial
  | succ fuel stay =>
      exact
        { evaluate := fun _ expr => stay.evaluate_succ expr
          evaluateAll := fun _ exprs => stay.evaluateAll_succ exprs
          call := fun _ _ paren => stay.call_succ passOn paren
          execute := fun _ stmt => stay.execute_succ stmt
          executeAll := fun _ stmts => stay.executeAll_succ stmts
          executeBody := fun _ body => stay.executeBody_succ body
          executeBlock := fun _ body isInside =>
            (keeps_nest isInside).bind fun inner innerInside => stay.executeBody inner body innerInside
          repeatWhile := fun _ keyword condition body => stay.repeatWhile_succ keyword condition body
          repeatFor := fun _ name range index body => stay.repeatFor_succ name range index body }

end Confinement

namespace Evaluation

/-- The machine that a computation leaves behind, however it ends. -/
def Machine.after {α : Type} (machine : Machine) (computation : Eval α) : Machine :=
  match computation machine with
  | .ok _ after => after
  | .error _ after => after

open Confinement in
theorem Machine.bindings_after_of_keeps {α : Type} {fits : α → Prop} {inside : FrameId → Prop}
    {machine : Machine} {computation : Eval α}
    (keeps : (confining inside machine.scopes).Keeps fits computation)
    (confined : Scopes.Confined inside machine.scopes machine.scopes) {other : FrameId}
    (outside : ¬ inside other) :
    (machine.after computation).scopes.bindings other = machine.scopes.bindings other := by
  have ended := keeps machine confined
  unfold after
  cases equation : computation machine with
  | ok value after =>
      rw [equation] at ended
      exact ended.2.untouched other outside
  | error stop after =>
      rw [equation] at ended
      exact ended.2.untouched other outside

/-- An expression or statement executed in a frame leaves alone every frame that was there
and that its own frame did not reach, however it ends. -/
theorem Machine.bindings_after_unreached {natives : List Native}
    (passOn : ∀ native ∈ natives, native.PassesOn) (machine : Machine) (fuel : Nat)
    (frame other : FrameId) (present : other < machine.scopes.frames.size)
    (unreached : ¬ machine.scopes.Reaches frame other) :
    (∀ expr : Expr,
      (machine.after (Eval.evaluate natives fuel frame expr)).scopes.bindings other =
        machine.scopes.bindings other) ∧
    (∀ stmt : Stmt,
      (machine.after (Eval.execute natives fuel frame stmt)).scopes.bindings other =
        machine.scopes.bindings other) := by
  have outside : ¬ (machine.scopes.Reaches frame other ∨ machine.scopes.frames.size ≤ other) :=
    not_or.2 ⟨unreached, Nat.not_le.2 present⟩
  have isInside : machine.scopes.Reaches frame frame ∨ machine.scopes.frames.size ≤ frame :=
    .inl .refl
  have confined := Scopes.Confined.of_reaches machine.scopes frame
  have stay := Confinement.runsStay
    (fun other => machine.scopes.Reaches frame other ∨ machine.scopes.frames.size ≤ other)
    machine.scopes passOn fuel
  exact
    ⟨fun expr => bindings_after_of_keeps (stay.evaluate frame expr isInside) confined outside,
      fun stmt => bindings_after_of_keeps (stay.execute frame stmt isInside) confined outside⟩

/-- Two lamps have frames of their own: who switches on the first one, in a frame that knows
nothing of the second, leaves the second one as it is. -/
theorem Machine.bindings_after_unreached_lamps :
    let token (lexeme : String) : Token := ⟨.identifier, lexeme, .origin, none⟩
    let switch (lamp : FrameId) : Value := .function
      { name := "switch", parameters := [], frame := lamp
        body := .mk (token "\x7b")
          [.expression (.assign (token "on") (.literal (.bool true) (token "true")))] none }
    let off : Bindings Value := [("on", .bool false)]
    let machine : Machine :=
      { scopes :=
          { frames :=
              #[⟨[], []⟩, ⟨[0], off⟩, ⟨[0], off⟩, ⟨[0], [("first", switch 1)]⟩,
                ⟨[0], [("second", switch 2)]⟩] } }
    let after := machine.after
      (Eval.evaluate Native.defaults 9 3 (.call (.reference (token "first")) (token ")") []))
    after.scopes.bindings 1 = [("on", .bool true)] ∧ after.scopes.bindings 2 = off := by
  intro token switch off machine after
  have near : ∀ other, machine.scopes.Reaches 3 other → other = 3 ∨ other = 0 ∨ other = 1 := by
    intro other reaches
    induction reaches with
    | refl => exact .inl rfl
    | @tail between other _ leads inductionHypothesis =>
        cases leads with
        | outward member =>
            rcases inductionHypothesis with rfl | rfl | rfl
            · exact .inr (.inl (List.mem_singleton.1 member))
            · cases member
            · exact .inr (.inl (List.mem_singleton.1 member))
        | @bound name value closure found carried =>
            rcases inductionHypothesis with rfl | rfl | rfl
            · have bindings : machine.scopes.bindings 3 = [("first", switch 1)] := rfl
              rw [bindings, Table.get?] at found
              split at found
              · cases found
                obtain rfl := List.mem_singleton.1 carried
                exact .inr (.inr rfl)
              · cases found
            · cases found
            · have bindings : machine.scopes.bindings 1 = off := rfl
              rw [bindings, Table.get?] at found
              split at found
              · cases found
                cases carried
              · cases found
  have unreached : ¬ machine.scopes.Reaches 3 2 := fun reaches => by
    rcases near 2 reaches with same | same | same <;> cases same
  exact ⟨rfl,
    (bindings_after_unreached Native.passesOn_defaults machine 9 3 2 (by decide) unreached).1 _⟩

end Evaluation

end CheckedScript
