import FrameLisp.Proofs.Contract

/-!
# Room

Evaluation comes back from wherever it went: it leaves the counters of nested nodes and the room on
the stack as they were, whatever contexts the functions that it calls were made in
(`Contract.steady`).  So the levels that a node is evaluated with matter only as far as there is
room for them, and evaluation is its own evaluator: what it does around a node, with the same
evaluation for the nodes inside, is the evaluation of the node (`Node.eval_eq_evalBy`).

More room makes no difference either, unless it is missing: no handler sees that a stack has no room
left, so a computation that does not stop there goes the same way on a larger stack
(`Simulation.roomier`).
-/

namespace FrameLisp

/-- Evaluates a node; the nodes inside are left to an evaluator. -/
def Node.evalBy (config : Config) (top : Bool) (node : Node) (frame : FrameId)
    (evaluate : Context → Evaluator) : Eval Value :=
  Eval.within config.toContext node (Evaluation.evalNode config evaluate top node frame)

/-- Evaluates trees at the top level; the nodes inside are left to an evaluator. -/
def Eval.programUsing (config : Config) (frame : FrameId) (last : Value) (nodes : List Node)
    (evaluate : Context → Evaluator) : Eval Value :=
  Eval.programBy (fun node => node.evalBy config true frame evaluate) last nodes

namespace Contract

variable {config : Config} {room : Nat}

theorem steady_trans {first second third : Machine}
    (h : second.room = first.room ∧ second.depth = first.depth)
    (h' : third.room = second.room ∧ third.depth = second.depth) :
    third.room = first.room ∧ third.depth = first.depth :=
  ⟨h'.1.trans h.1, h'.2.trans h.2⟩

/-- Computations with a certain room end with it, and with the depth they started at. -/
def steady (room : Nat) : Contract where
  Before machine := machine.room = room
  Keeps machine machine' := machine'.room = machine.room ∧ machine'.depth = machine.depth
  Allows _ := True
  Writable _ := True
  refl _ := ⟨rfl, rfl⟩
  trans := steady_trans
  before h h' := h'.1.trans h
  change _ h := by
    cases h <;> exact ⟨rfl, rfl⟩
  addFrame _ _ := ⟨⟨rfl, rfl⟩, trivial⟩
  define _ _ _ _ := ⟨rfl, rfl⟩
  plain _ := trivial
  orAt _ _ := trivial

theorem steady_descends (context : Context) :
    Descends context (steady room) (steady (room - 1)) where
  interrupted := trivial
  overflow _ _ _ := trivial
  exhausted _ _ _ := trivial
  inside hroom _ _ := congrArg (· - 1) hroom
  outside _ _ _ hkeeps := ⟨rfl, Machine.depth_outside_inside _ hkeeps.2⟩
  allows _ := trivial

theorem steady_bounded (context : Context) : (steady room).simulation.Bounded context :=
  .inr (panics trivial)

theorem steady_suits (room : Nat) (hosts : Hosts) : (steady room).Suits hosts :=
  Hosts.obey_of_forall (fun _ => trivial) fun _ => trivial

/-- Evaluators that agree with less room evaluate a node in the same way. -/
theorem steady_evalBy {e₁ e₂ : Context → Evaluator} (top : Bool) (node : Node) (frame : FrameId)
    (he : 0 < room → ∀ context,
      (steady (room - 1)).simulation.Simulates (e₁ context) (e₂ context)) :
    (steady room).Agree (node.evalBy config top frame e₁) (node.evalBy config top frame e₂) := by
  refine (steady_descends _).evalNode (steady_bounded _) (fun _ => trivial) node ?_
  intro machine hroom _ hpos
  have hroom : machine.room = room := hroom
  exact ⟨he (hroom ▸ hpos), steady_suits (room - 1) _⟩

/-- **Levels beyond what there is room for make no difference.** -/
theorem steady_evalAt {levels levels' : Nat} (h : room ≤ levels) (h' : room ≤ levels') (top : Bool)
    (node : Node) (frame : FrameId) :
    (steady room).Agree (node.evalAt config levels top frame)
      (node.evalAt config levels' top frame) := by
  induction levels generalizing config room levels' top node frame with
  | zero =>
    -- there is no room, so neither goes into the node
    rw [Node.evalAt, Node.evalAt.eq_def config levels']
    refine (steady_descends _).within node fun machine hroom _ hpos => ?_
    have hroom : machine.room = room := hroom
    omega
  | succ levels ih =>
    cases levels' with
    | zero =>
      rw [Node.evalAt, Node.evalAt]
      refine (steady_descends _).within node fun machine hroom _ hpos => ?_
      have hroom : machine.room = room := hroom
      omega
    | succ levels' =>
      refine steady_evalBy top node frame fun _ context inner frame => ?_
      exact ih (by omega) (by omega) false inner frame

theorem steady_eval {levels : Nat} (h : room ≤ levels) (top : Bool) (node : Node)
    (frame : FrameId) :
    (steady room).Agree (node.eval config top frame) (node.evalAt config levels top frame) := by
  intro machine hroom
  have hroom : machine.room = room := hroom
  rw [eval_eq]
  exact steady_evalAt (Nat.le_of_eq hroom.symm) h top node frame machine hroom

theorem steady_evaluators (config : Config) :
    (steady room).simulation.Carries config.hosts config.evaluators config.evaluators where
  nodes context node frame := by
    intro machine hroom
    have heval : (steady room).Agree (node.eval (config.under context) false frame)
        (node.evalAt (config.under context) room false frame) :=
      steady_eval (Nat.le_refl room) false node frame
    exact ⟨rfl, (heval machine hroom).2⟩
  hosts := steady_suits room _

end Contract

/-- **Evaluation is its own evaluator.** -/
theorem Node.eval_eq_evalBy (config : Config) (top : Bool) (node : Node) (frame : FrameId) :
    node.eval config top frame = node.evalBy config top frame config.evaluators := by
  funext machine
  have hlevels : (Contract.steady machine.room).Agree (node.eval config top frame)
      (node.evalAt config (machine.room + 1) top frame) :=
    Contract.steady_eval (Nat.le_succ machine.room) top node frame
  have hinside : (Contract.steady machine.room).Agree
      (node.evalBy config top frame config.evaluators)
      (node.evalAt config (machine.room + 1) top frame) := by
    refine Contract.steady_evalBy top node frame fun _ context inner frame => ?_
    exact Contract.steady_eval (by omega) false inner frame
  exact (hlevels machine rfl).1.symm.trans (hinside machine rfl).1

theorem Eval.program_eq_programUsing (config : Config) (frame : FrameId) (last : Value)
    (nodes : List Node) :
    Eval.program config frame last nodes =
      Eval.programUsing config frame last nodes config.evaluators := by
  unfold programUsing
  rw [program_eq]
  simp only [Node.eval_eq_evalBy]

/-! ### What evaluation leaves as it was -/

/-- A computation ends with the room and the depth it started with. -/
def Eval.Steady {α : Type} (x : Eval α) : Prop :=
  ∀ machine, (x.after machine).room = machine.room ∧ (x.after machine).depth = machine.depth

theorem Contract.steady_of_agree {α : Type} {x : Eval α} (h : ∀ room, (steady room).Agree x x) :
    x.Steady :=
  fun machine => (h machine.room machine rfl).2.keeps

namespace Eval.Steady

variable (config : Config)

theorem node (top : Bool) (node : Node) (frame : FrameId) :
    (node.eval config top frame).Steady := by
  refine Contract.steady_of_agree fun room machine hroom => ⟨rfl, ?_⟩
  exact (Contract.steady_eval (Nat.le_refl room) top node frame machine hroom).2

theorem callWith (callee : Value) (args : List Value) (kwargs : List (String × Value)) :
    (callee.callWith config.hosts config.evaluators args kwargs).Steady :=
  Contract.steady_of_agree fun _ =>
    Simulation.callWith (Contract.steady_evaluators config) callee args kwargs

theorem program (frame : FrameId) (last : Value) (nodes : List Node) :
    (Eval.program config frame last nodes).Steady := by
  rw [program_eq]
  refine Contract.steady_of_agree fun room => ?_
  refine Simulation.programBy (S := (Contract.steady room).simulation) (fun node => ?_) last nodes
  intro machine hroom
  exact ⟨rfl, (Contract.steady_eval (Nat.le_refl room) true node frame machine hroom).2⟩

end Eval.Steady

/-! ### More room -/

theorem Machine.Change.room_eq {machine machine' : Machine} (h : Machine.Change machine machine') :
    machine'.room = machine.room := by
  cases h <;> rfl

/-- The machine with room for some more levels. -/
def Machine.widen (machine : Machine) (extra : Nat) : Machine :=
  { machine with room := machine.room + extra }

/-- The outcome on a machine with room for some more levels. -/
def Eval.widen {α : Type} (extra : Nat) :
    EStateM.Result Stop Machine α → EStateM.Result Stop Machine α
  | .ok a machine => .ok a (machine.widen extra)
  | .error stop machine => .error stop (machine.widen extra)

/-- The second computation does on a larger stack what the first one does, unless that runs out of
room. -/
def Eval.Roomier {α : Type} (x y : Eval α) : Prop :=
  ∀ (machine : Machine) (extra : Nat),
    (∃ last, x machine = .error .outOfLevels last) ∨
      y (machine.widen extra) = widen extra (x machine)

namespace Eval.Roomier

variable {α β : Type} {x y : Eval α}

theorem bind {f g : α → Eval β} (hx : Roomier x y) (hf : ∀ a, Roomier (f a) (g a)) :
    Roomier (x >>= f) (y >>= g) := by
  intro machine extra
  rw [bind_eq, bind_eq]
  rcases hx machine extra with ⟨last, hlast⟩ | hsame
  · rw [hlast]
    exact .inl ⟨last, rfl⟩
  · rw [hsame]
    cases x machine with
    | ok a last => exact hf a last extra
    | error stop last => exact .inr rfl

theorem located (location : Option Location) (hx : Roomier x y) :
    Roomier (Eval.located location x) (Eval.located location y) := by
  intro machine extra
  unfold Eval.located
  rcases hx machine extra with ⟨last, hlast⟩ | hsame
  · rw [hlast]
    exact .inl ⟨last, rfl⟩
  · rw [hsame]
    cases x machine with
    | ok a last => exact .inr rfl
    | error stop last => cases stop <;> exact .inr rfl

theorem handling (selects : Fault → Bool) {h k : Fault → Eval α} (hx : Roomier x y)
    (hh : ∀ fault, Roomier (h fault) (k fault)) :
    Roomier (Eval.handling selects h x) (Eval.handling selects k y) := by
  intro machine extra
  unfold Eval.handling
  rcases hx machine extra with ⟨last, hlast⟩ | hsame
  · rw [hlast]
    exact .inl ⟨last, rfl⟩
  · rw [hsame]
    cases x machine with
    | ok a last => exact .inr rfl
    | error stop last =>
      cases stop with
      | fault fault =>
        by_cases hselects : selects fault = true
        · simpa only [widen, if_pos hselects] using hh fault last extra
        · simp only [widen, if_neg hselects, or_true]
      | outOfBounds => exact .inr rfl
      | outOfLevels => exact .inr rfl

theorem outcome {f g : Except Fault α → Eval β} (hx : Roomier x y)
    (hf : ∀ answer, Roomier (f answer) (g answer)) :
    Roomier (Eval.outcome x >>= f) (Eval.outcome y >>= g) := by
  refine bind (fun machine extra => ?_) hf
  unfold Eval.outcome
  rcases hx machine extra with ⟨last, hlast⟩ | hsame
  · rw [hlast]
    exact .inl ⟨last, rfl⟩
  · rw [hsame]
    cases x machine with
    | ok a last => exact .inr rfl
    | error stop last => cases stop <;> exact .inr rfl

/-- A small change of the machine is the same with more room. -/
theorem change {step : Machine → α × Machine}
    (h : ∀ machine, Machine.Change machine (step machine).2)
    (hroom : ∀ machine room,
      step { machine with room } = ((step machine).1, { (step machine).2 with room })) :
    Roomier (modifyGet step) (modifyGet step) := by
  intro machine extra
  have hkeeps : (step machine).2.room = machine.room := (h machine).room_eq
  have hstep := hroom machine (machine.room + extra)
  refine .inr ?_
  show EStateM.Result.ok (step (machine.widen extra)).1 (step (machine.widen extra)).2 =
    .ok (step machine).1 ((step machine).2.widen extra)
  unfold Machine.widen
  rw [hstep, hkeeps]

end Eval.Roomier

/-- **More room is a simulation.** -/
def Simulation.roomier : Simulation where
  Rel := Eval.Roomier
  Writable _ := True
  Fails _ := True
  plain _ := trivial
  pure _ := fun _ _ => .inr rfl
  raise _ := fun _ _ => .inr rfl
  bind := Eval.Roomier.bind
  located location _ _ hx := hx.located location
  handling selects _ _ _ _ hx hh := hx.handling selects hh
  outcome hx hok herror := Eval.Roomier.outcome hx fun answer => by
    cases answer with
    | ok a => exact hok a
    | error fault => exact herror fault trivial
  read view hroom := fun machine extra => by
    refine .inr ?_
    show EStateM.Result.ok (view (machine.widen extra)) _ = .ok (view machine) _
    unfold Machine.widen
    rw [hroom]
  change := Eval.Roomier.change
  overlay _ _ _ _ hf := .bind (fun _ _ => .inr rfl) fun id => hf id trivial
  define _ _ _ := fun _ _ => .inr rfl

theorem Machine.inside_widen (machine : Machine) (context : Context) (node : Node) {extra : Nat}
    (h : machine.room ≠ 0) :
    (machine.widen extra).inside context node = (machine.inside context node).widen extra := by
  have hroom : machine.room + extra - 1 = machine.room - 1 + extra := by omega
  unfold inside widen
  dsimp only
  rw [hroom]

namespace Eval.Roomier

variable {config : Config}

theorem panics : Simulation.roomier.Panics :=
  fun _ _ => .inr rfl

/-- Into a node and out of it. -/
theorem within (context : Context) (node : Node) {x y : Eval Value} (h : Roomier x y) :
    Roomier (Eval.within context node x) (Eval.within context node y) := by
  intro machine extra
  rw [within_eq, within_eq]
  by_cases hinterrupted : machine.interrupted context.flag = true
  · have hwide : (machine.widen extra).interrupted context.flag = true := hinterrupted
    rw [if_pos hinterrupted, if_pos hwide]
    exact .inr rfl
  have hfree : ¬ (machine.widen extra).interrupted context.flag = true := hinterrupted
  rw [if_neg hinterrupted, if_neg hfree]
  by_cases hdeep : context.maxDepth ≤ machine.depth context.counter
  · have hwide : context.maxDepth ≤ (machine.widen extra).depth context.counter := hdeep
    rw [if_pos hdeep, if_pos hwide]
    exact .inr rfl
  have hshallow : ¬ context.maxDepth ≤ (machine.widen extra).depth context.counter := hdeep
  rw [if_neg hdeep, if_neg hshallow]
  by_cases hroom : machine.room = 0
  · rw [if_pos hroom]
    exact .inl ⟨_, rfl⟩
  have hwide : ¬ (machine.widen extra).room = 0 := by
    unfold Machine.widen
    dsimp only
    omega
  rw [if_neg hroom, if_neg hwide, Machine.inside_widen machine context node hroom]
  rcases h (machine.inside context node) extra with ⟨last, hlast⟩ | hsame
  · rw [hlast]
    exact .inl ⟨_, rfl⟩
  · rw [hsame]
    cases x (machine.inside context node) with
    | ok value last => exact .inr rfl
    | error stop last => exact .inr rfl

theorem evalAt (levels : Nat) (top : Bool) (node : Node) (frame : FrameId) :
    Roomier (node.evalAt config levels top frame) (node.evalAt config levels top frame) := by
  induction levels generalizing config top node frame with
  | zero => exact within _ node fun _ _ => .inr rfl
  | succ levels ih =>
    refine within _ node (Simulation.evalNode (S := .roomier) (.inr panics) ⟨?_, ?_⟩ ?_ node)
    · exact fun context inner frame => ih false inner frame
    · exact Hosts.obey_of_forall (fun _ => trivial) fun _ => trivial
    · exact fun _ => trivial

theorem eval (top : Bool) (node : Node) (frame : FrameId) :
    Roomier (node.eval config top frame) (node.eval config top frame) := by
  intro machine extra
  -- both runs have as many levels as the second one has room for
  have hlevels : node.eval config top frame machine =
      node.evalAt config (machine.room + extra) top frame machine :=
    ((Contract.steady_eval (Nat.le_add_right _ _) top node frame machine rfl).1).symm
  rw [hlevels]
  exact evalAt (machine.room + extra) top node frame machine extra

theorem carries (config : Config) :
    Simulation.roomier.Carries config.hosts config.evaluators config.evaluators where
  nodes context node frame := by
    show Roomier (node.eval (config.under context) false frame)
      (node.eval (config.under context) false frame)
    exact eval false node frame
  hosts := Hosts.obey_of_forall (fun _ => trivial) fun _ => trivial

theorem callWith (callee : Value) (args : List Value) (kwargs : List (String × Value)) :
    Roomier (callee.callWith config.hosts config.evaluators args kwargs)
      (callee.callWith config.hosts config.evaluators args kwargs) :=
  Simulation.callWith (carries config) callee args kwargs

theorem program (frame : FrameId) (last : Value) (nodes : List Node) :
    Roomier (Eval.program config frame last nodes) (Eval.program config frame last nodes) := by
  rw [program_eq]
  exact Simulation.programBy (S := .roomier) (fun node => eval true node frame) last nodes

/-- **Room that is not missing makes no difference.** -/
theorem eq_of_stop? {α : Type} {x : Eval α} (h : Roomier x x) {machine : Machine}
    (hstop : x.stop? machine ≠ some .outOfLevels) (extra : Nat) :
    x (machine.widen extra) = widen extra (x machine) := by
  rcases h machine extra with ⟨last, hlast⟩ | hsame
  · unfold stop? at hstop
    rw [hlast] at hstop
    exact absurd rfl hstop
  · exact hsame

end Eval.Roomier

end FrameLisp
