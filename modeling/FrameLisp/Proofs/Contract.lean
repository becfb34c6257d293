import FrameLisp.Proofs.Simulation.Forms

/-!
# Contracts

A contract says what a computation may do to a machine: what it may assume of the machine
(`Before`), how the machine it leaves is related to the one it found (`Keeps`), and in which ways it
may stop (`Allows`).  All three are said of every computation alike, whether it ends with a value or
stops, so that what stopped half-way and was handled is covered as well.

Two computations are the same under a contract if they agree on every machine that it assumes and
keep to it there.  That is a `Simulation` (`Contract.simulation`), so a contract that has the few
laws of this module holds of all that evaluation is made of.  What is left to each contract is the
step from the nodes inside a node to the node itself, for which `Eval.within_eq` spells out what it
means to enter and to leave a node.
-/

namespace FrameLisp

/-! ### Outcomes -/

namespace Eval

variable {α β : Type}

/-- The machine that a computation leaves, however it ends. -/
def after (x : Eval α) (machine : Machine) : Machine :=
  match x machine with
  | .ok _ machine => machine
  | .error _ machine => machine

/-- The way in which a computation stops, if it does. -/
def stop? (x : Eval α) (machine : Machine) : Option Stop :=
  match x machine with
  | .ok _ _ => none
  | .error stop _ => some stop

theorem exists_eq_ok_of_stop? {x : Eval α} {machine : Machine} (h : x.stop? machine = none) :
    ∃ a, x machine = .ok a (x.after machine) := by
  unfold stop? at h
  unfold after
  cases hx : x machine with
  | ok a last => exact ⟨a, rfl⟩
  | error stop last =>
    rw [hx] at h
    cases h

theorem bind_eq (x : Eval α) (f : α → Eval β) (machine : Machine) :
    (x >>= f) machine =
      match x machine with
      | .ok a machine => f a machine
      | .error stop machine => .error stop machine := by
  show EStateM.bind x f machine = _
  unfold EStateM.bind
  cases x machine with
  | ok a machine => rfl
  | error stop machine => rfl

theorem checkInterrupt_eq (context : Context) (machine : Machine) :
    checkInterrupt context machine =
      if machine.interrupted context.flag then .error (.fault .interrupted) machine
      else .ok () machine := by
  show (if machine.interrupted context.flag = true then fail .interrupted else pure () : Eval Unit)
    machine = _
  split
  · rfl
  · rfl

theorem enter_eq (context : Context) (location : Option Location) (machine : Machine) :
    enter context location machine =
      let depth := machine.depth context.counter
      if context.maxDepth ≤ depth then
        .error (.fault (.overflow depth context.maxDepth location)) machine
      else .ok () { machine with depth := machine.depth.set context.counter (depth + 1) } := by
  show (if context.maxDepth ≤ machine.depth context.counter then fail _ else set _ : Eval Unit)
    machine = _
  dsimp only
  split
  · rfl
  · rfl

end Eval

namespace Machine

/-- A machine one level deeper, in a node that is reported if nodes are traced. -/
def inside (machine : Machine) (context : Context) (node : Node) : Machine :=
  let depth := machine.depth context.counter + 1
  let event := Event.entered depth node
  { machine with
    depth := machine.depth.set context.counter depth
    room := machine.room - 1
    events := if context.trace then machine.events.push event else machine.events }

/-- A machine one level up, with the room there was before. -/
def outside (machine : Machine) (context : Context) (room : Nat) : Machine :=
  { machine.leave context with room }

@[simp]
theorem depth_inside (machine : Machine) (context : Context) (node : Node) :
    (machine.inside context node).depth context.counter = machine.depth context.counter + 1 :=
  Cells.get_set_self ..

@[simp]
theorem depth_outside (machine : Machine) (context : Context) (room : Nat) :
    (machine.outside context room).depth context.counter = machine.depth context.counter - 1 :=
  Cells.get_set_self ..

/-- Coming back up undoes going down, as far as the counters go. -/
theorem depth_outside_inside {machine machine' : Machine} {context : Context} {node : Node}
    (room : Nat) (h : machine'.depth = (machine.inside context node).depth) :
    (machine'.outside context room).depth = machine.depth := by
  unfold outside leave
  dsimp only
  rw [h]
  simp [inside]

end Machine

/-- **What evaluation does around a node.**  It is interrupted, or too deep, or without room, or
goes inside and comes back outside with whatever the node gave. -/
theorem Eval.within_eq {α : Type} (context : Context) (node : Node) (x : Eval α)
    (machine : Machine) :
    within context node x machine =
      if machine.interrupted context.flag then .error (.fault .interrupted) machine
      else if context.maxDepth ≤ machine.depth context.counter then
        .error (.fault (.overflow (machine.depth context.counter) context.maxDepth node.location?))
          machine
      else if machine.room = 0 then
        .error .outOfLevels ((machine.inside context node).outside context machine.room)
      else
        match x (machine.inside context node) with
        | .ok a machine' => .ok a (machine'.outside context machine.room)
        | .error stop machine' => .error stop (machine'.outside context machine.room) := by
  unfold within
  rw [bind_eq, checkInterrupt_eq]
  by_cases hinterrupted : machine.interrupted context.flag = true
  · rw [if_pos hinterrupted, if_pos hinterrupted]
  · rw [if_neg hinterrupted, if_neg hinterrupted]
    show (enter context node.location? >>= _) machine = _
    rw [bind_eq, enter_eq]
    dsimp only
    by_cases hdeep : context.maxDepth ≤ machine.depth context.counter
    · rw [if_pos hdeep, if_pos hdeep]
    · rw [if_neg hdeep, if_neg hdeep]
      -- the report reads the depth after it has gone up
      have hreported : ∀ y : Eval α, (do
          if context.trace then report (.entered ((← get).depth context.counter) node)
          y : Eval α) { machine with
            depth := machine.depth.set context.counter (machine.depth context.counter + 1) } =
          y { machine.inside context node with room := machine.room } := by
        intro y
        unfold Machine.inside
        cases context.trace with
        | false => rfl
        | true =>
          show y { machine with depth := _, events := machine.events.push (.entered _ node) } = _
          rw [Cells.get_set_self]
          rfl
      unfold leaving
      dsimp only
      rw [hreported]
      unfold descending
      dsimp only
      cases hroom : machine.room with
      | zero =>
        simp [Machine.outside, Machine.inside, Machine.leave, hroom]
      | succ room =>
        have hinside : { machine.inside context node with room } = machine.inside context node := by
          simp [Machine.inside, hroom]
        simp only [hinside, Nat.add_one_ne_zero, if_false]
        cases x (machine.inside context node) with
        | ok a machine' => rfl
        | error stop machine' => rfl

/-! ### The laws of a contract -/

/-- What computations may do to machines. -/
structure Contract where
  /-- What is assumed of the machine before. -/
  Before : Machine → Prop
  /-- How the machine after is related to the machine before. -/
  Keeps : Machine → Machine → Prop
  /-- The ways to stop. -/
  Allows : Stop → Prop
  /-- The frames that may be written. -/
  Writable : FrameId → Prop
  /-- Nothing may be done. -/
  refl {machine : Machine} (h : Before machine) : Keeps machine machine
  /-- One thing may be done after the other. -/
  trans {first second third : Machine} (h : Keeps first second) (h' : Keeps second third) :
    Keeps first third
  /-- What is assumed stays true. -/
  before {machine machine' : Machine} (h : Before machine) (h' : Keeps machine machine') :
    Before machine'
  /-- Small changes may be made. -/
  change {machine machine' : Machine} (h : Before machine) (h' : machine.Change machine') :
    Keeps machine machine'
  /-- Frames may be added, and what was added may be written. -/
  addFrame {machine : Machine} (h : Before machine) (frame : Frame) :
    Keeps machine (machine.addFrame frame) ∧ Writable machine.frames.size
  /-- Definitions may be made where it is allowed. -/
  define {machine : Machine} {id : FrameId} (h : Before machine) (h' : Writable id)
    (name : String) (value : Value) : Keeps machine (machine.define id name value)
  /-- Faults other than those of entering a node may be raised. -/
  plain {fault : Fault} (h : fault.isPlain = true) : Allows (.fault fault)
  /-- A location may be supplied to a fault. -/
  orAt {fault : Fault} (h : Allows (.fault fault)) (location : Option Location) :
    Allows (.fault (fault.orAt location))

namespace Contract

variable (C : Contract) {α β : Type}

/-- The outcome of a computation is as agreed. -/
def Ends (machine : Machine) : EStateM.Result Stop Machine α → Prop
  | .ok _ machine' => C.Keeps machine machine'
  | .error stop machine' => C.Keeps machine machine' ∧ C.Allows stop

/-- The computations are the same under the contract and keep to it. -/
def Agree (x y : Eval α) : Prop :=
  ∀ machine, C.Before machine → y machine = x machine ∧ C.Ends machine (x machine)

variable {C}

theorem Ends.keeps {x : Eval α} {machine : Machine} (h : C.Ends machine (x machine)) :
    C.Keeps machine (x.after machine) := by
  unfold Eval.after
  cases hx : x machine with
  | ok a machine' =>
    rw [hx] at h
    exact h
  | error stop machine' =>
    rw [hx] at h
    exact h.1

theorem Ends.allows {x : Eval α} {machine : Machine} (h : C.Ends machine (x machine)) {stop : Stop}
    (hstop : x.stop? machine = some stop) : C.Allows stop := by
  unfold Eval.stop? at hstop
  cases hx : x machine with
  | ok a machine' =>
    rw [hx] at hstop
    cases hstop
  | error stop' machine' =>
    rw [hx] at h hstop
    cases hstop
    exact h.2

/-- What was kept before counts as well. -/
theorem Ends.after {machine machine' : Machine} {result : EStateM.Result Stop Machine α}
    (hkeeps : C.Keeps machine machine') (h : C.Ends machine' result) : C.Ends machine result := by
  cases result with
  | ok a last => exact C.trans hkeeps h
  | error stop last => exact ⟨C.trans hkeeps h.1, h.2⟩

/-! ### Computations under a contract -/

theorem Agree.bind {x y : Eval α} {f g : α → Eval β} (hx : C.Agree x y)
    (hf : ∀ a, C.Agree (f a) (g a)) : C.Agree (x >>= f) (y >>= g) := by
  intro machine hbefore
  obtain ⟨hsame, hends⟩ := hx machine hbefore
  rw [Eval.bind_eq, Eval.bind_eq, hsame]
  cases hresult : x machine with
  | error stop machine' =>
    rw [hresult] at hends
    exact ⟨rfl, hends⟩
  | ok a machine' =>
    -- the second computation starts where the first has ended, and what it assumes is still true
    rw [hresult] at hends
    obtain ⟨hsame', hends'⟩ := hf a machine' (C.before hbefore hends)
    exact ⟨hsame', hends'.after hends⟩

theorem Agree.keeps_of_ok {x : Eval α} {a : α} {machine machine' : Machine} (h : C.Agree x x)
    (hbefore : C.Before machine) (hok : x machine = .ok a machine') : C.Keeps machine machine' := by
  have hends := (h machine hbefore).2
  rw [hok] at hends
  exact hends

theorem Agree.outcome {x y : Eval α} {f g : Except Fault α → Eval β} (hx : C.Agree x y)
    (hok : ∀ a, C.Agree (f (.ok a)) (g (.ok a)))
    (herror : ∀ fault, C.Allows (.fault fault) → C.Agree (f (.error fault)) (g (.error fault))) :
    C.Agree (Eval.outcome x >>= f) (Eval.outcome y >>= g) := by
  intro machine hbefore
  obtain ⟨hsame, hends⟩ := hx machine hbefore
  rw [Eval.bind_eq, Eval.bind_eq]
  unfold Eval.outcome
  rw [hsame]
  cases hresult : x machine with
  | ok a machine' =>
    rw [hresult] at hends
    obtain ⟨hsame', hends'⟩ := hok a machine' (C.before hbefore hends)
    exact ⟨hsame', hends'.after hends⟩
  | error stop machine' =>
    rw [hresult] at hends
    cases stop with
    | outOfBounds => exact ⟨rfl, hends⟩
    | outOfLevels => exact ⟨rfl, hends⟩
    | fault fault =>
      obtain ⟨hsame', hends'⟩ := herror fault hends.2 machine' (C.before hbefore hends.1)
      exact ⟨hsame', hends'.after hends.1⟩

theorem Agree.located (location : Option Location) {x y : Eval α} (hx : C.Agree x y) :
    C.Agree (Eval.located location x) (Eval.located location y) := by
  intro machine hbefore
  obtain ⟨hsame, hends⟩ := hx machine hbefore
  unfold Eval.located
  rw [hsame]
  refine ⟨rfl, ?_⟩
  cases hresult : x machine with
  | ok a machine' =>
    rw [hresult] at hends
    exact hends
  | error stop machine' =>
    rw [hresult] at hends
    cases stop with
    | fault fault => exact ⟨hends.1, C.orAt hends.2 location⟩
    -- no location is supplied to what is not a fault
    | outOfBounds => exact hends
    | outOfLevels => exact hends

theorem Agree.handling (selects : Fault → Bool) {h k : Fault → Eval α} {x y : Eval α}
    (hx : C.Agree x y) (hh : ∀ fault, C.Agree (h fault) (k fault)) :
    C.Agree (Eval.handling selects h x) (Eval.handling selects k y) := by
  intro machine hbefore
  obtain ⟨hsame, hends⟩ := hx machine hbefore
  unfold Eval.handling
  rw [hsame]
  cases hresult : x machine with
  | ok a machine' =>
    rw [hresult] at hends
    exact ⟨rfl, hends⟩
  | error stop machine' =>
    rw [hresult] at hends
    cases stop with
    -- what is not a fault passes every handler
    | outOfBounds => exact ⟨rfl, hends⟩
    | outOfLevels => exact ⟨rfl, hends⟩
    | fault fault =>
      dsimp only
      split
      · -- the handler goes on where the fault left the machine
        obtain ⟨hsame', hends'⟩ := hh fault machine' (C.before hbefore hends.1)
        exact ⟨hsame', hends'.after hends.1⟩
      · exact ⟨rfl, hends⟩

/-- A step that leaves the machine as agreed keeps to the contract. -/
theorem Agree.step {step : Machine → α × Machine}
    (h : ∀ machine, C.Before machine → C.Keeps machine (step machine).2) :
    C.Agree (modifyGet step) (modifyGet step) := by
  intro machine hbefore
  refine ⟨rfl, ?_⟩
  exact h machine hbefore

theorem Agree.overlay (frame : FrameId) (bindings : List (String × Value)) {f g : FrameId → Eval β}
    (hf : ∀ id, C.Writable id → C.Agree (f id) (g id)) :
    C.Agree (Eval.overlay frame bindings >>= f) (Eval.overlay frame bindings >>= g) := by
  intro machine hbefore
  -- the number of the new frame is the number of frames there were
  obtain ⟨hkeeps, hwritable⟩ :=
    C.addFrame hbefore ((machine.frame frame).insertAll bindings)
  obtain ⟨hsame, hends⟩ := hf machine.frames.size hwritable _ (C.before hbefore hkeeps)
  exact ⟨hsame, hends.after hkeeps⟩

/-- **A contract is a simulation.** -/
def simulation (C : Contract) : Simulation where
  Rel := C.Agree
  Writable := C.Writable
  Fails fault := C.Allows (.fault fault)
  plain := C.plain
  pure _ := fun _ hbefore => ⟨rfl, C.refl hbefore⟩
  raise h := fun _ hbefore => ⟨rfl, C.refl hbefore, h⟩
  bind := Agree.bind
  located := Agree.located
  handling := Agree.handling
  outcome := Agree.outcome
  read _ _ := fun _ hbefore => ⟨rfl, C.refl hbefore⟩
  change h _ := Agree.step fun machine hbefore => C.change hbefore (h machine)
  overlay := Agree.overlay
  define h name value := Agree.step fun _ hbefore => C.define hbefore h name value

/-- A contract under which accesses out of bounds are allowed puts up with them. -/
theorem panics (h : C.Allows .outOfBounds) : C.simulation.Panics :=
  fun _ hbefore => ⟨rfl, C.refl hbefore, h⟩

/-! ### Nodes -/

/-- What an outer contract has to be like if the inner one holds of what is inside a node. -/
structure Descends (context : Context) (C D : Contract) : Prop where
  /-- An interruption may stop the node. -/
  interrupted : C.Allows (.fault .interrupted)
  /-- The depth limit may stop the node. -/
  overflow {machine : Machine} (h : C.Before machine)
    (hdeep : context.maxDepth ≤ machine.depth context.counter) (location : Option Location) :
    C.Allows (.fault (.overflow (machine.depth context.counter) context.maxDepth location))
  /-- The end of the stack may stop the node. -/
  exhausted {machine : Machine} (h : C.Before machine)
    (hshallow : machine.depth context.counter < context.maxDepth) (hroom : machine.room = 0) :
    C.Allows .outOfLevels
  /-- What is assumed inside holds there. -/
  inside {machine : Machine} (h : C.Before machine)
    (hshallow : machine.depth context.counter < context.maxDepth) (node : Node) :
    D.Before (machine.inside context node)
  /-- What is kept inside is kept outside. -/
  outside {machine machine' : Machine} (h : C.Before machine)
    (hshallow : machine.depth context.counter < context.maxDepth) (node : Node)
    (hkeeps : D.Keeps (machine.inside context node) machine') :
    C.Keeps machine (machine'.outside context machine.room)
  /-- What may stop the inside may stop the outside. -/
  allows {stop : Stop} (h : D.Allows stop) : C.Allows stop

variable {D : Contract} {context : Context} {config : Config}

/-- **Into a node and out of it.**  The inside matters only where the depth limit and the stack
leave room. -/
theorem Descends.within (hdescends : Descends context C D) (node : Node) {x y : Eval α}
    (hx : ∀ machine, C.Before machine → machine.depth context.counter < context.maxDepth →
      0 < machine.room → D.Agree x y) :
    C.Agree (Eval.within context node x) (Eval.within context node y) := by
  intro machine hbefore
  rw [Eval.within_eq, Eval.within_eq]
  -- interrupted, too deep, without room, or inside
  split
  · exact ⟨rfl, C.refl hbefore, hdescends.interrupted⟩
  split
  · rename_i hdeep
    exact ⟨rfl, C.refl hbefore, hdescends.overflow hbefore hdeep _⟩
  rename_i hshallow
  have hshallow := Nat.lt_of_not_le hshallow
  have hinside := hdescends.inside hbefore hshallow node
  split
  · rename_i hroom
    exact ⟨rfl, hdescends.outside hbefore hshallow node (D.refl hinside),
      hdescends.exhausted hbefore hshallow hroom⟩
  rename_i hroom
  obtain ⟨hsame, hends⟩ := hx machine hbefore hshallow (Nat.pos_of_ne_zero hroom) _ hinside
  rw [hsame]
  refine ⟨rfl, ?_⟩
  cases hresult : x (machine.inside context node) with
  | ok a machine' =>
    rw [hresult] at hends
    exact hdescends.outside hbefore hshallow node hends
  | error stop machine' =>
    rw [hresult] at hends
    exact ⟨hdescends.outside hbefore hshallow node hends.1, hdescends.allows hends.2⟩

/-- If nodes are evaluated as agreed inside of a node, so is the node. -/
theorem Descends.evalNode (hdescends : Descends config.toContext C D)
    (hbounds : D.simulation.Bounded config.toContext) {e₁ e₂ : Context → Evaluator} {top : Bool}
    {frame : FrameId} (htop : top = true → D.Writable frame) (node : Node)
    (he : ∀ machine, C.Before machine →
      machine.depth config.counter < config.maxDepth → 0 < machine.room →
      D.simulation.Carries config.hosts e₁ e₂) :
    C.Agree (Eval.within config.toContext node (Evaluation.evalNode config e₁ top node frame))
      (Eval.within config.toContext node (Evaluation.evalNode config e₂ top node frame)) := by
  refine hdescends.within node fun machine hbefore hshallow hroom => ?_
  exact Simulation.evalNode hbounds (he machine hbefore hshallow hroom) htop node

/-- The contract holds inside of nodes under a context whenever it holds outside. -/
structure Steps (C : Contract) (context : Context) : Prop where
  /-- The way into a node and out of it. -/
  descends : Descends context C C
  /-- Accesses are in bounds, or put up with. -/
  bounded : C.simulation.Bounded context

end Contract

/-! ### Evaluation under certain contexts -/

/-- Evaluates a node with a number of levels, as if every function had been made under the context
that `pin` gives for its own. -/
def Node.evalPinned (pin : Context → Context) (config : Config) (levels : Nat) (top : Bool)
    (node : Node) (frame : FrameId) : Eval Value :=
  Eval.within config.toContext node <|
    match levels with
    | 0 => throw .outOfLevels
    | levels + 1 =>
      let evaluate context inner := inner.evalPinned pin (config.under (pin context)) levels false
      Evaluation.evalNode config evaluate top node frame

/-- Evaluation itself takes every function as it is. -/
theorem Node.evalPinned_id (config : Config) (levels : Nat) (top : Bool) (node : Node)
    (frame : FrameId) : node.evalPinned id config levels top frame =
      node.evalAt config levels top frame := by
  induction levels generalizing config top node frame with
  | zero => rfl
  | succ levels ih =>
    have hinner : (fun context (inner : Node) =>
          inner.evalPinned id (config.under context) levels false) =
        fun context inner => inner.evalAt (config.under context) levels false := by
      funext context inner frame
      exact ih (config.under context) false inner frame
    exact congrArg (fun evaluate => Eval.within config.toContext node
      (Evaluation.evalNode config evaluate top node frame)) hinner

namespace Contract

variable {C : Contract} {config : Config} {pin : Context → Context}

/-- The code of a host fails in the allowed ways only and writes where it may. -/
abbrev Suits (C : Contract) (hosts : Hosts) : Prop :=
  hosts.Obey (fun fault => C.Allows (.fault fault)) C.Writable

/-- A contract that holds inside of nodes whenever it holds outside holds of their evaluation. -/
theorem evalPinned (hconfig : C.Steps config.toContext) (hpin : ∀ context, C.Steps (pin context))
    (hhosts : C.Suits config.hosts) (hlevels : C.Allows .outOfLevels) (levels : Nat) {top : Bool}
    {frame : FrameId} (htop : top = true → C.Writable frame) (node : Node) :
    C.Agree (node.evalPinned pin config levels top frame)
      (node.evalPinned pin config levels top frame) := by
  induction levels generalizing config top node frame with
  | zero =>
    refine hconfig.descends.within node fun machine hbefore _ _ => ?_
    exact fun _ hbefore => ⟨rfl, C.refl hbefore, hlevels⟩
  | succ levels ih =>
    refine hconfig.descends.evalNode hconfig.bounded htop node fun _ _ _ _ => ?_
    refine ⟨fun context inner frame => ?_, hhosts⟩
    -- what is inside is not at the top level
    have hinner : false = true → C.Writable frame := nofun
    have hsteps : C.Steps (config.under (pin context)).toContext := hpin context
    have hsuits : C.Suits (config.under (pin context)).hosts := hhosts
    exact ih hsteps hsuits hinner inner

theorem evalAt (hsteps : ∀ context, C.Steps context)
    (hhosts : C.Suits config.hosts) (hlevels : C.Allows .outOfLevels) (levels : Nat) {top : Bool}
    {frame : FrameId} (htop : top = true → C.Writable frame) (node : Node) :
    C.Agree (node.evalAt config levels top frame) (node.evalAt config levels top frame) := by
  rw [← Node.evalPinned_id]
  exact evalPinned (hsteps _) hsteps hhosts hlevels levels htop node

/-- A node is evaluated with the levels that there is room for. -/
theorem eval_eq (top : Bool) (node : Node) (frame : FrameId) (machine : Machine) :
    node.eval config top frame machine = node.evalAt config machine.room top frame machine :=
  rfl

theorem eval (hsteps : ∀ context, C.Steps context)
    (hhosts : C.Suits config.hosts) (hlevels : C.Allows .outOfLevels) {top : Bool} {frame : FrameId}
    (htop : top = true → C.Writable frame) (node : Node) :
    C.Agree (node.eval config top frame) (node.eval config top frame) := by
  intro machine hbefore
  rw [eval_eq]
  exact evalAt hsteps hhosts hlevels _ htop node machine hbefore

theorem carries_evaluators (hsteps : ∀ context, C.Steps context)
    (hhosts : C.Suits config.hosts) (hlevels : C.Allows .outOfLevels) :
    C.simulation.Carries config.hosts config.evaluators config.evaluators where
  nodes context node frame := by
    have htop : false = true → C.Writable frame := nofun
    have heval := @eval C (config.under context) hsteps hhosts hlevels false frame htop node
    exact heval
  hosts := hhosts

end Contract

end FrameLisp
