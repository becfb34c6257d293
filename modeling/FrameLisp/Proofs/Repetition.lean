import FrameLisp.Proofs.Bindings
import FrameLisp.Proofs.Departure
import FrameLisp.Proofs.TopLevel

/-!
# Repetition

Below the top level, what has been evaluated once can be evaluated again and nothing is different:
it ends in the same way, prints the same text and is reported in the same way.  The frames that it
makes, and the functions and exceptions, are new ones each time, so they are the same only up to
their numbers.

The first evaluation leaves a machine on which all frames are as they were (`Contract.isolation`),
and so are modules and depth (`Contract.steadiness`); there are only more of them.  So the two
evaluations are runs that start apart (`Departure.again`).  This needs no more than that the machine
is closed, that is, that nothing in it speaks of frames or `ref`s that do not exist yet: otherwise
the two evaluations could come to see what the first has made.

It does not matter either if other things happen between the two evaluations, as long as none of
them is a definition at the top level (`Machine.Quiet`).
-/

namespace FrameLisp

/-! ### What is kept from one evaluation to the next -/

namespace Contract

/-- The modules are as before in the end, and no `ref` is taken back. -/
def growing : Contract where
  Before _ := True
  Keeps machine machine' :=
    machine.nextRef ≤ machine'.nextRef ∧ machine'.modules = machine.modules
  Allows _ := True
  Writable _ := True
  refl _ := ⟨Nat.le_refl _, rfl⟩
  trans h h' := ⟨Nat.le_trans h.1 h'.1, h'.2.trans h.2⟩
  before _ _ := trivial
  change {machine machine'} _ h := by
    cases h with
    | ref => exact ⟨Nat.le_succ _, rfl⟩
    | _ => exact ⟨Nat.le_refl _, rfl⟩
  addFrame _ _ := ⟨⟨Nat.le_refl _, rfl⟩, trivial⟩
  define _ _ _ _ := ⟨Nat.le_refl _, rfl⟩
  plain _ := trivial
  orAt _ _ := trivial

theorem growing_steps (context : Context) : growing.Steps context where
  descends := {
    interrupted := trivial
    overflow _ _ _ := trivial
    exhausted _ _ _ := trivial
    inside _ _ _ := trivial
    outside _ _ _ hkeeps := hkeeps
    allows _ := trivial }
  bounded := .inr (panics trivial)

theorem growing_carries (config : Config) :
    growing.simulation.Carries config.hosts config.evaluators config.evaluators :=
  carries_evaluators growing_steps
    (Hosts.obey_of_forall (fun _ => trivial) fun _ => trivial) trivial

end Contract

/-- The second machine has all that the first has, and maybe more frames and `ref`s. -/
structure Machine.Continues (machine machine' : Machine) : Prop where
  /-- The frames are as they were. -/
  isolated : machine.Isolated machine'
  /-- No `ref` was taken back. -/
  nextRef : machine.nextRef ≤ machine'.nextRef
  /-- The modules are as they were. -/
  modules : machine'.modules = machine.modules
  /-- So is the depth. -/
  depth : machine'.depth = machine.depth
  /-- So is the room. -/
  room : machine'.room = machine.room

namespace Machine.Continues

variable {first second third : Machine} {config : Config}

theorem trans (h : first.Continues second) (h' : second.Continues third) :
    first.Continues third where
  isolated := h.isolated.trans h'.isolated
  nextRef := Nat.le_trans h.nextRef h'.nextRef
  modules := h'.modules.trans h.modules
  depth := h'.depth.trans h.depth
  room := h'.room.trans h.room

theorem of_agree {α : Type} {x : Eval α}
    (hisolated : (Contract.isolation first.frames.size).Agree x x)
    (hgrowing : Contract.growing.Agree x x) (hsteady : x.Steady) :
    first.Continues (x.after first) := by
  obtain ⟨href, hmodules⟩ := (hgrowing first trivial).2.keeps
  obtain ⟨hroom, hdepth⟩ := hsteady first
  exact ⟨Contract.isolated_of_agree first hisolated, href, hmodules, hdepth, hroom⟩

theorem eval (hwrites : config.hosts.WriteNothing) (node : Node) (frame : FrameId)
    (machine : Machine) : machine.Continues ((node.eval config false frame).after machine) :=
  of_agree ((Contract.isolation_carries hwrites _).nodes config.toContext node frame)
    ((Contract.growing_carries config).nodes config.toContext node frame)
    (.node config false node frame)

theorem callWith (hwrites : config.hosts.WriteNothing) (callee : Value) (args : List Value)
    (kwargs : List (String × Value)) (machine : Machine) :
    machine.Continues
      ((callee.callWith config.hosts config.evaluators args kwargs).after machine) :=
  of_agree (Simulation.callWith (Contract.isolation_carries hwrites _) callee args kwargs)
    (Simulation.callWith (Contract.growing_carries config) callee args kwargs)
    (.callWith config callee args kwargs)

end Machine.Continues

/-- What may happen between two evaluations, on hosts that write nothing: anything but a definition
at the top level. -/
inductive Machine.Quiet (start : Machine) : Machine → Prop
  /-- Nothing. -/
  | nothing : Quiet start start
  /-- A node is evaluated below the top level. -/
  | nested {machine : Machine} (h : Quiet start machine) {config : Config}
    (hwrites : config.hosts.WriteNothing) (node : Node) (frame : FrameId) :
    Quiet start ((node.eval config false frame).after machine)
  /-- A node that is no definition is evaluated at the top level. -/
  | topLevel {machine : Machine} (h : Quiet start machine) {config : Config}
    (hwrites : config.hosts.WriteNothing) {node : Node}
    (hnode : ∀ special form, ¬ TopLevel.IsDefinition node special form) (frame : FrameId) :
    Quiet start ((node.eval config true frame).after machine)
  /-- A value is called. -/
  | called {machine : Machine} (h : Quiet start machine) {config : Config}
    (hwrites : config.hosts.WriteNothing) (callee : Value) (args : List Value)
    (kwargs : List (String × Value)) :
    Quiet start ((callee.callWith config.hosts config.evaluators args kwargs).after machine)
  /-- Something is reported. -/
  | reported {machine : Machine} (h : Quiet start machine) (events : Array Event) :
    Quiet start { machine with events := machine.events ++ events }
  /-- Interruptions are asked for, or that is taken back. -/
  | interrupting {machine : Machine} (h : Quiet start machine) (interrupted : Cells Bool) :
    Quiet start { machine with interrupted }

/-- **Only definitions at the top level change anything that was there.** -/
theorem Machine.Quiet.continues {start machine : Machine} (h : start.Quiet machine) :
    start.Continues machine := by
  induction h with
  | nothing => exact ⟨.of_frames_eq rfl, Nat.le_refl _, rfl, rfl, rfl⟩
  | nested _ hwrites node frame ih => exact ih.trans (.eval hwrites node frame _)
  | @topLevel machine _ config hwrites node hnode frame ih =>
    have hnested : node.eval config true frame = node.eval config false frame := by
      rw [Node.eval_eq_evalBy, Node.eval_eq_evalBy]
      unfold Node.evalBy
      rw [TopLevel.evalNode_eq_nested hnode]
    rw [hnested]
    exact ih.trans (.eval hwrites node frame _)
  | called _ hwrites callee args kwargs ih =>
    exact ih.trans (.callWith hwrites callee args kwargs _)
  | reported _ events ih =>
    exact ih.trans ⟨.of_frames_eq rfl, Nat.le_refl _, rfl, rfl, rfl⟩
  | interrupting _ interrupted ih =>
    exact ih.trans ⟨.of_frames_eq rfl, Nat.le_refl _, rfl, rfl, rfl⟩

/-! ### Closed machines -/

/-- The value speaks of no frame and has no `ref` that the machine does not have. -/
def Value.Closed (machine : Machine) (value : Value) : Prop :=
  value.Over (· < machine.frames.size) (· < machine.nextRef)

/-- All that the machine holds speaks of no frame and has no `ref` that it does not have. -/
def Machine.Closed (machine : Machine) : Prop :=
  machine.Holds (Value.Closed machine)

namespace Departure.again

variable {machine machine' : Machine}

theorem fixes {value : Value} (h : value.Closed machine) :
    (again machine machine').Fixes value where
  numbers := h.mono (fun _ => renumber_of_lt) fun _ => renumber_of_lt
  contexts _ _ _ _ := rfl

theorem frame_eq (h : machine.Continues machine') (id : FrameId) :
    machine'.frame ((again machine machine').frame id) = machine.frame id := by
  by_cases hid : id < machine.frames.size
  · have hsame : (again machine machine').frame id = id := renumber_of_lt hid
    rw [hsame]
    exact h.isolated.frame_eq hid
  · -- no machine has it
    have hle : machine.frames.size ≤ id := Nat.le_of_not_lt hid
    have hle' : machine'.frames.size ≤ (again machine machine').frame id := by
      rw [← renumber_start h.isolated.size]
      exact Nat.le_of_not_lt fun hlt => hid (renumber_lt.mp hlt)
    rw [Machine.frame_eq_nil hle, Machine.frame_eq_nil hle']

/-- **What goes on from a closed machine starts alike.** -/
theorem machines (hclosed : machine.Closed) (h : machine.Continues machine')
    (hinterrupted : machine'.interrupted = machine.interrupted) :
    (again machine machine').Machines machine machine' := by
  refine Departure.start reflexive ⟨?_, ?_⟩ h.isolated.size h.nextRef (frame_eq h) h.modules h.depth
    h.room hinterrupted
  · exact fun id name value hmem => fixes (hclosed.frames id name value hmem)
  · exact fun name value hmem => fixes (hclosed.modules name value hmem)

end Departure.again

/-! ### Closed sessions -/

theorem Value.Closed.builtin {machine : Machine} {ref : Nat} (h : ref < machine.nextRef)
    (b : Builtin) : (Value.builtin ref b).Closed machine := by
  intro part hpart
  rw [hpart.eq_whole rfl rfl rfl]
  refine ⟨nofun, fun r hr => ?_⟩
  cases hr
  exact h

theorem Value.Closed.errorClass {machine : Machine} (kind : Fault.Kind) :
    (Value.errorClass kind).Closed machine := by
  intro part hpart
  rw [hpart.eq_whole rfl rfl rfl]
  exact ⟨nofun, nofun⟩

namespace Machine.Closed

variable {machine : Machine}

theorem giveRef (h : machine.Closed) :
    Machine.Closed { machine with nextRef := machine.nextRef + 1 } := by
  have hmore : ∀ value : Value, value.Closed machine →
      value.Closed { machine with nextRef := machine.nextRef + 1 } :=
    fun value hvalue => hvalue.mono (fun _ => id) fun _ => Nat.lt_succ_of_lt
  exact ⟨fun id name value hmem => hmore _ (h.frames id name value hmem),
    fun name value hmem => hmore _ (h.modules name value hmem)⟩

theorem define (h : machine.Closed) (id : FrameId) (name : String) {value : Value}
    (hvalue : value.Closed machine) : (machine.define id name value).Closed := by
  have hsize : (machine.define id name value).frames.size = machine.frames.size :=
    Array.size_modify
  have hsame : ∀ other : Value, other.Closed machine →
      other.Closed (machine.define id name value) := by
    intro other hother
    unfold Value.Closed
    rw [hsize]
    exact hother
  refine ⟨fun frame key other hmem => hsame other ?_,
    fun key other hmem => hsame other (h.modules key other hmem)⟩
  have hframe := h.frames frame key other
  unfold Machine.frame at hmem hframe
  unfold Machine.define at hmem
  rw [Array.getElem?_modify] at hmem
  split at hmem
  · cases hold : machine.frames[frame]? with
    | none =>
      rw [hold] at hmem
      cases hmem
    | some bindings =>
      rw [hold] at hmem hframe
      rcases Bindings.mem_insert hmem with ⟨-, rfl⟩ | hmem
      · exact hvalue
      · exact hframe hmem
  · exact hframe hmem

theorem defineBuiltins (h : machine.Closed) (frame : FrameId) (builtins : List Builtin) :
    ∃ last, Eval.defineBuiltins frame builtins machine = .ok () last ∧ last.Closed := by
  induction builtins generalizing machine with
  | nil => exact ⟨machine, rfl, h⟩
  | cons b builtins ih =>
    have hfirst := h.giveRef.define frame b.name (.builtin (Nat.lt_succ_self _) b)
    obtain ⟨last, hrest, hlast⟩ := ih hfirst
    exact ⟨last, hrest, hlast⟩

theorem defineClasses (h : machine.Closed) (frame : FrameId) (kinds : List Fault.Kind) :
    ∃ last, Eval.defineClasses frame kinds machine = .ok () last ∧ last.Closed := by
  induction kinds generalizing machine with
  | nil => exact ⟨machine, rfl, h⟩
  | cons kind kinds ih =>
    have hfirst := h.define frame kind.name (.errorClass kind)
    obtain ⟨last, hrest, hlast⟩ := ih hfirst
    exact ⟨last, hrest, hlast⟩

end Machine.Closed

/-- **Sessions start with closed machines.** -/
theorem Session.standard_closed (config : Config) : (Session.standard config).machine.Closed := by
  let start := { bare.machine with room := config.maxDepth }
  have hstart : start.Closed := by
    refine ⟨fun id name value hmem => ?_, nofun⟩
    cases id with
    | zero => cases hmem
    | succ id => cases hmem
  obtain ⟨first, hfirst, hclosed⟩ := hstart.defineBuiltins root Prelude.builtins
  obtain ⟨second, hsecond, hclosed⟩ := hclosed.defineClasses root Prelude.classes
  obtain ⟨last, hlast, hclosed⟩ := hclosed.defineBuiltins root Prelude.resolvers
  have hload : Eval.loadPrelude root start = .ok () second := by
    unfold Eval.loadPrelude
    rw [Eval.bind_ok hfirst, hsecond]
  unfold Session.standard
  dsimp only
  rw [Session.run_machine]
  unfold Eval.after
  dsimp only
  rw [Eval.bind_ok hload]
  unfold Eval.installResolvers
  rw [hlast]
  exact hclosed

/-! ### Evaluating again -/

/-- Ends that are the same up to the numbers of new frames and new `ref`s. -/
inductive Departure.Ends (D : Departure) :
    EStateM.Result Stop Machine Value → EStateM.Result Stop Machine Value → Prop
  /-- Values that are the same. -/
  | ok {value value' : Value} (h : value.Alike D.likeness value') (m m' : Machine) :
    Ends D (.ok value m) (.ok value' m')
  /-- The same fault at the same place. -/
  | error (stop : Stop) (m m' : Machine) : Ends D (.error stop m) (.error stop m')

/-- A computation on the second machine does what it has done on the first. -/
structure Eval.Repeats (x : Eval Value) (m m' : Machine) : Prop where
  /-- It ends in the same way. -/
  ends : (Departure.again m m').Ends (x m) (x m')
  /-- It prints the same. -/
  printed : ∃ text, (x.after m).printed = m.printed ++ text ∧
    (x.after m').printed = m'.printed ++ text
  /-- It is reported in the same way. -/
  events : ∃ trace, (x.after m).events.toList = m.events.toList ++ trace ∧
    (x.after m').events.toList = m'.events.toList ++ trace
  /-- The frames that it makes hold the same. -/
  frames (id : FrameId) : Bindings.Alike (Departure.again m m').likeness
    ((x.after m).frame id) ((x.after m').frame ((Departure.again m m').frame id))

namespace Departure.again

variable {m m' : Machine}

/-- **Computations that go alike from both machines repeat.** -/
theorem repeats {x : Eval Value}
    (hx : (again m m').correspondence.CallAlike (again m m').correspondence.ValueAlike x x)
    (hm : (again m m').Machines m m') : x.Repeats m m' := by
  have houtcome := hx m m' hm
  obtain ⟨hends, hmachines⟩ : (again m m').Ends (x m) (x m') ∧
      (again m m').Machines (x.after m) (x.after m') := by
    unfold Eval.after
    generalize x m = result at houtcome ⊢
    generalize x m' = result' at houtcome ⊢
    cases houtcome with
    | ok h hm => exact ⟨.ok h _ _, hm⟩
    | error h hm =>
      rw [stop_eq h]
      exact ⟨.error _ _ _, hm⟩
  obtain ⟨trace, trace', htrace, htrace', halike⟩ := hmachines.events
  rw [events_eq halike] at htrace'
  exact ⟨hends, hmachines.printed, ⟨trace, htrace, htrace'⟩, hmachines.frames⟩

theorem allAlike {values : List Value} (h : ∀ value ∈ values, value.Closed m) :
    Value.AllAlike (again m m').likeness values values :=
  List.forall₂_same.mpr fun value hvalue => value_alike reflexive value (fixes (h value hvalue))

end Departure.again

/-- The code of the host depends on its arguments only: it goes the same way if the frames and
`ref`s that the machine does not have yet are given out under other numbers. -/
def Hosts.IgnoreNumbers (hosts : Hosts) (machine : Machine) : Prop :=
  ∀ machine', hosts.Respect (Departure.again machine machine').likeness

theorem Hosts.basic_ignoreNumbers (machine : Machine) : basic.IgnoreNumbers machine :=
  fun _ => Hosts.basic_respect (fun _ => rfl) (fun _ => trivial) fun _ => rfl

/-- **Nested evaluation is repeatable**, in every context and with functions of any context.  On a
closed machine a node is evaluated below the top level, or a value is called; then nothing is
defined at the top level, but anything else may happen, such as this very evaluation.  If it is
evaluated or called again, with interruptions asked for or not as before, it does what it has done.
-/
theorem nested_evaluation_repeats (config : Config) {m m' : Machine}
    (hhosts : config.hosts.IgnoreNumbers m) (hclosed : m.Closed) (hquiet : m.Quiet m')
    (hinterrupted : m'.interrupted = m.interrupted) :
    (∀ (node : Node) (frame : FrameId), frame < m.frames.size →
      (node.eval config false frame).Repeats m m') ∧
    (∀ (callee : Value) (args : List Value) (kwargs : List (String × Value)), callee.Closed m →
      (∀ arg ∈ args, arg.Closed m) → (∀ name value, (name, value) ∈ kwargs → value.Closed m) →
      (callee.callWith config.hosts config.evaluators args kwargs).Repeats m m') := by
  -- the second run starts later, so the frames and `ref`s that it makes have other numbers
  have hmachines := Departure.again.machines hclosed hquiet.continues hinterrupted
  have henters : (Departure.again m m').correspondence.Enters := Departure.again.enters
  have hcontext : (Departure.again m m').correspondence.context config.toContext config.toContext :=
    rfl
  refine ⟨fun node frame hframe => ?_, fun callee args kwargs hcallee hargs hkwargs => ?_⟩
  · have hnode := henters.eval hcontext (hhosts m') false
      (Departure.node_alike Departure.again.reflexive node) (renumber_of_lt hframe).symm
    exact Departure.again.repeats hnode.settled hmachines
  · have hcarries : (Departure.again m m').correspondence.Carries config.hosts config.evaluators
        (config.under config.toContext).evaluators := henters.carries (hhosts m')
    have hcall := Correspondence.callWith hcarries
      (Departure.value_alike Departure.again.reflexive callee (Departure.again.fixes hcallee))
      (Departure.again.allAlike hargs)
      (Departure.bindings_alike Departure.again.reflexive fun name value hmem =>
        Departure.again.fixes (hkwargs name value hmem))
    exact Departure.again.repeats hcall hmachines

/-- A function that was made in another context, with rules and a counter of its own, makes another
function in a new frame, which is a new one each time. -/
theorem nested_evaluation_repeats_foreign :
    let word (text : String) : Node := .literal ⟨.identifier, text, ⟨"", 1, 3⟩⟩ []
    let inline : Node := .form [word "%"] [] true (some ⟨"", 1, 1⟩)
    let context : Context :=
      { oracle := fun _ nodes => .accept nodes.length, counter := 1, flag := 1 }
    let closure : Closure := ⟨"f", .named [] none, [inline], 0, context, none⟩
    let m : Machine := { frames := #[[("f", .function 0 closure)]], nextRef := 1 }
    let x := (Node.form [word "f"] [] false none).eval {} false 0
    let m' : Machine := { x.after m with interrupted := m.interrupted }
    m'.nextRef = 2 ∧ m'.frames.size = 2 ∧ x.Repeats m m' := by
  intro word inline context closure m x m'
  have hfunction : (Value.function 0 closure).Closed m := by
    intro part hpart
    rw [hpart.eq_whole rfl rfl rfl]
    refine ⟨fun id hid => ?_, fun r hr => ?_⟩
    · cases hid
      exact Nat.zero_lt_one
    · cases hr
      exact Nat.zero_lt_one
  have hclosed : m.Closed := by
    refine .of_one_frame rfl rfl fun name value hmem => ?_
    obtain ⟨-, rfl⟩ := Prod.mk.inj (List.mem_singleton.mp hmem)
    exact hfunction
  have hwrites : Hosts.basic.WriteNothing := Hosts.basic_obey fun _ _ => trivial
  have hquiet : m.Quiet m' :=
    .interrupting (.nested .nothing hwrites (.form [word "f"] [] false none) 0) _
  obtain ⟨hnodes, -⟩ :=
    nested_evaluation_repeats {} (Hosts.basic_ignoreNumbers m) hclosed hquiet rfl
  exact ⟨by decide +kernel, by decide +kernel, hnodes _ 0 Nat.zero_lt_one⟩

end FrameLisp
