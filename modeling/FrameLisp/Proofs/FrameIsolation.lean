import FrameLisp.Proofs.Contract

/-!
# Isolation of frames

Below the top level, evaluation leaves every frame as it is that existed when it began.  A `let`, a
call and a handler work on copies, which they make themselves, and the definitions that write the
frame they stand in are refused there.

The contract behind this fixes a number of frames, those that existed at the beginning, and allows
writing to all later ones.  Frames are numbered in the order in which they are made, so a new one is
always among the later ones; and since nothing is ever removed, the number that was fixed stays
within the frames that exist, whatever is evaluated in between.
-/

namespace FrameLisp

/-- The frames that exist stay, with the variables that they have. -/
structure Machine.Isolated (machine machine' : Machine) : Prop where
  /-- No frame is lost. -/
  size : machine.frames.size ≤ machine'.frames.size
  /-- Every frame that existed is the same, down to the order of its variables. -/
  frame : ∀ id < machine.frames.size, machine'.frames[id]? = machine.frames[id]?

theorem Machine.size_addFrame (machine : Machine) (frame : Frame) :
    (machine.addFrame frame).frames.size = machine.frames.size + 1 :=
  Array.size_push _

namespace Machine.Isolated

variable {first second third : Machine}

theorem of_frames_eq (h : second.frames = first.frames) : first.Isolated second := by
  constructor
  · exact Nat.le_of_eq (congrArg Array.size h.symm)
  · intro id _
    rw [h]

theorem trans (h : first.Isolated second) (h' : second.Isolated third) : first.Isolated third where
  size := Nat.le_trans h.size h'.size
  frame id hid := (h'.frame id (Nat.lt_of_lt_of_le hid h.size)).trans (h.frame id hid)

theorem frame_eq (h : first.Isolated second) {id : FrameId} (hid : id < first.frames.size) :
    second.frame id = first.frame id := by
  unfold Machine.frame
  rw [h.frame id hid]

theorem addFrame (machine : Machine) (frame : Frame) :
    machine.Isolated (machine.addFrame frame) := by
  constructor
  · rw [size_addFrame]
    exact Nat.le_succ _
  · intro id hid
    show (machine.frames.push frame)[id]? = _
    rw [Array.getElem?_push_lt hid, Array.getElem?_eq_getElem hid]

end Machine.Isolated

namespace Contract

variable {config : Config}

/-- The first `bound` frames are left alone. -/
def isolation (bound : Nat) : Contract where
  Before machine := bound ≤ machine.frames.size
  Keeps machine machine' :=
    machine.frames.size ≤ machine'.frames.size ∧
      ∀ id < bound, machine'.frames[id]? = machine.frames[id]?
  Allows _ := True
  Writable id := bound ≤ id
  refl _ := ⟨Nat.le_refl _, fun _ _ => rfl⟩
  trans h h' := ⟨Nat.le_trans h.1 h'.1, fun id hid => (h'.2 id hid).trans (h.2 id hid)⟩
  before h h' := Nat.le_trans h h'.1
  change _ h := by
    cases h <;> exact ⟨Nat.le_refl _, fun _ _ => rfl⟩
  addFrame {machine} h frame := by
    refine ⟨⟨?_, ?_⟩, h⟩
    · show machine.frames.size ≤ (machine.frames.push frame).size
      rw [Array.size_push]
      omega
    · intro id hid
      show (machine.frames.push frame)[id]? = _
      rw [Array.getElem?_push_lt (by omega), Array.getElem?_eq_getElem (by omega)]
  define {machine id} _ hid name value := by
    constructor
    · show machine.frames.size ≤ (machine.frames.modify id _).size
      exact Nat.le_of_eq Array.size_modify.symm
    · -- the frame that is written is not among the first
      intro other hother
      show (machine.frames.modify id _)[other]? = _
      rw [Array.getElem?_modify, if_neg (by omega)]
  plain _ := trivial
  orAt _ _ := trivial

/-- The frames are left alone inside of nodes under every context, whatever its oracle. -/
theorem isolation_steps (bound : Nat) (context : Context) : (isolation bound).Steps context where
  descends := {
    interrupted := trivial
    overflow _ _ _ := trivial
    exhausted _ _ _ := trivial
    inside h _ _ := h
    outside _ _ _ hkeeps := hkeeps
    allows _ := trivial }
  bounded := .inr (panics trivial)

theorem isolation_carries (hwrites : config.hosts.WriteNothing) (bound : Nat) :
    (isolation bound).simulation.Carries config.hosts config.evaluators config.evaluators :=
  carries_evaluators (isolation_steps bound) hwrites.obey trivial

/-- What leaves all frames alone that a machine has at the start isolates them. -/
theorem isolated_of_agree {α : Type} {x : Eval α} (machine : Machine)
    (h : (isolation machine.frames.size).Agree x x) : machine.Isolated (x.after machine) := by
  have hkeeps := (h machine (Nat.le_refl _)).2.keeps
  exact ⟨hkeeps.1, hkeeps.2⟩

/-- In particular, it does so if it has a value. -/
theorem isolated_of_ok {α : Type} {x : Eval α} {a : α} {machine machine' : Machine}
    (h : (isolation machine.frames.size).Agree x x) (hok : x machine = .ok a machine') :
    machine.Isolated machine' := by
  obtain ⟨hsize, hframe⟩ := h.keeps_of_ok (Nat.le_refl _) hok
  exact ⟨hsize, hframe⟩

end Contract

namespace Machine.Isolated

variable {config : Config} {machine last : Machine} {value : Value}

/-- A node that has a value leaves the frames alone. -/
theorem of_evaluator (hwrites : config.hosts.WriteNothing) {node : Node} {frame : FrameId}
    (h : config.evaluator node frame machine = .ok value last) : machine.Isolated last :=
  have hevaluators := Contract.isolation_carries hwrites machine.frames.size
  Contract.isolated_of_ok (hevaluators.nodes config.toContext node frame) h

/-- So does a call that has a value. -/
theorem of_call (hwrites : config.hosts.WriteNothing) {callee : Value} {args : List Value}
    (h : callee.call config.hosts config.evaluators args machine = .ok value last) :
    machine.Isolated last :=
  have hevaluators := Contract.isolation_carries hwrites machine.frames.size
  Contract.isolated_of_ok (Simulation.call hevaluators callee args) h

/-- So do arguments that have values. -/
theorem of_arguments (hwrites : config.hosts.WriteNothing) {frame : FrameId} {nodes : List Node}
    {values : List Value}
    (h : Eval.arguments config.evaluator frame nodes machine = .ok values last) :
    machine.Isolated last :=
  have hevaluators := Contract.isolation_carries hwrites machine.frames.size
  Contract.isolated_of_ok (Simulation.arguments (hevaluators.nodes config.toContext) frame nodes) h

/-- So do nodes that have values one after the other, whatever their context. -/
theorem of_body (hwrites : config.hosts.WriteNothing) {context : Context} {frame : FrameId}
    {first : Value} {nodes : List Node}
    (h : Eval.body (config.evaluators context) frame first nodes machine = .ok value last) :
    machine.Isolated last :=
  have hevaluators := Contract.isolation_carries hwrites machine.frames.size
  Contract.isolated_of_ok (Simulation.body (hevaluators.nodes context) frame first nodes) h

end Machine.Isolated

/-- **Nested evaluation never changes an existing frame.**  Whatever the rules and whatever the
outcome, a node that is evaluated below the top level, a value that is called, with keyword
arguments or without, and a method of an object that is called leave every frame as it was.  The
context is arbitrary, and so is the context of each function that is reached. -/
theorem nested_evaluation_isolates_frames (config : Config)
    (hwrites : config.hosts.WriteNothing) (machine : Machine) :
    (∀ (node : Node) (frame : FrameId),
      machine.Isolated ((node.eval config false frame).after machine)) ∧
    (∀ (callee : Value) (args : List Value),
      machine.Isolated ((callee.call config.hosts config.evaluators args).after machine)) ∧
    (∀ (callee : Value) (args : List Value) (kwargs : List (String × Value)),
      machine.Isolated
        ((callee.callWith config.hosts config.evaluators args kwargs).after machine)) ∧
    (∀ (object : Object) (name : String) (args : List Value),
      machine.Isolated
        ((object.call config.hosts config.evaluators name args).after machine)) := by
  have hevaluators := Contract.isolation_carries hwrites machine.frames.size
  refine ⟨fun node frame => ?_, fun callee args => ?_, fun callee args kwargs => ?_,
    fun object name args => ?_⟩
  · exact Contract.isolated_of_agree machine (hevaluators.nodes config.toContext node frame)
  · exact Contract.isolated_of_agree machine (Simulation.call hevaluators callee args)
  · exact Contract.isolated_of_agree machine (Simulation.callWith hevaluators callee args kwargs)
  · exact Contract.isolated_of_agree machine (Simulation.objectCall hevaluators object name args)

/-- A function that was made under other rules, with a counter and a limit of its own, binds a
variable and calls itself until it is too deep.  The frame that holds it stays as it was. -/
theorem nested_evaluation_isolates_frames_foreign :
    let lax : Oracle := fun _ nodes => .accept nodes.length
    let context : Context := { maxDepth := 9, oracle := lax, counter := 1, flag := 1 }
    let name text : Node := .literal ⟨.identifier, text, ⟨"", 1, 1⟩⟩ []
    let form nodes : Node := .form nodes [] false none
    let again := form [name "let", form [name "x", name "f"], form [name "x"]]
    let closure : Closure := ⟨"f", .named [] none, [again], 0, context, none⟩
    let m : Machine := { frames := #[[("f", .function 0 closure)]] }
    let x := (form [name "f"]).eval {} false 0
    Hosts.basic.WriteNothing ∧ m.Isolated (x.after m) ∧
      x.stop? m = some (.fault (.overflow 9 9 (some ⟨"", 1, 1⟩))) ∧
      (x.after m).frames.size = 11 := by
  intro lax context name form again closure m x
  have hwrites : Hosts.basic.WriteNothing := Hosts.basic_obey fun _ _ => trivial
  obtain ⟨hnodes, _⟩ := nested_evaluation_isolates_frames {} hwrites m
  exact ⟨hwrites, hnodes (form [name "f"]) 0, by decide +kernel, by decide +kernel⟩

end FrameLisp
