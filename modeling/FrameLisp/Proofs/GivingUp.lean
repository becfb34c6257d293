import FrameLisp.Proofs.DepthDiscipline

/-!
# Runs that are given up

A program can see that a depth limit is reached: there is an overflow, which it may handle.  Here
evaluation is compared with an evaluation that is given up before that, in a way that nothing
handles.  At which depth this happens is said by a `Limit`.

A run that is not given up does not know that it might have been: it is the run without the limit,
also if that has more room (`Eval.Roomier.evalLimited`).  That is so too if the run without the
limit is watched for overflows, since there are none.  So a run without overflows, even without such
as are handled, is one that is not given up under the narrowest of all limits (`Watch.alarm`,
`Eval.neverOverflows_iff`).

Two runs that go alike may count their levels from different depths, or up to different limits.  If
both are given up where one of them is, then neither of them knows, and all that is asked of the
machines is that they stay alike as nodes are entered and left (`Correspondence.EntersBelow`).
-/

namespace FrameLisp

/-- A machine has nothing more if it has room for no more levels. -/
theorem Eval.widen_zero {α : Type} (result : EStateM.Result Stop Machine α) :
    widen 0 result = result := by
  cases result <;> rfl

/-- The computation is given up. -/
abbrev Eval.GivesUp {α : Type} (x : Eval α) (machine : Machine) : Prop :=
  x.stop? machine = some .outOfLevels

theorem Eval.givesUp_iff {α : Type} {x : Eval α} {machine : Machine} :
    x.GivesUp machine ↔ ∃ last, x machine = .error .outOfLevels last := by
  unfold GivesUp stop?
  cases x machine with
  | ok a last => simp
  | error stop last => simp

/-- All functions in reach of a program that runs in the frame count with it, up to its limit, and
the stack has room for all levels up to there. -/
structure Machine.CountsTogether (config : Config) (frame : FrameId) (machine : Machine) :
    Prop where
  /-- All functions in reach count with the program. -/
  hold :
    ({ context := Contract.CountsAs config.toContext } : Surroundings).Hold config machine frame
  /-- There is room for all levels. -/
  room : config.maxDepth ≤ machine.depth config.counter + machine.room

namespace Machine.CountsTogether

variable {config : Config} {frame : FrameId} {machine : Machine}
  (h : machine.CountsTogether config frame)

include h

/-- **Where all functions count together, the stack lasts.** -/
theorem lasts_eval (top : Bool) (node : Node) : ¬ (node.eval config top frame).GivesUp machine :=
  (h.hold.terminates_node trivial (fun _ => id) top node).levels machine.room h.room

theorem lasts_program (nodes : List Node) :
    ¬ (Eval.program config frame .nil nodes).GivesUp machine := by
  have hnil : ({ context := Contract.CountsAs config.toContext } : Surroundings).Surrounds machine
      .nil :=
    Policy.surrounds_of_permitsValue h.hold.encloses.permitsMachine .nil
  exact (h.hold.terminates_program trivial (fun _ => id) hnil nodes).levels machine.room h.room

end Machine.CountsTogether

/-- A depth for every context, at which evaluation under it is given up. -/
structure Limit where
  /-- The depth. -/
  depth : Context → Nat
  /-- That is before an overflow. -/
  le_maxDepth (context : Context) : depth context ≤ context.maxDepth

namespace Limit

/-- Evaluation is given up where it would overflow. -/
def own : Limit where
  depth context := context.maxDepth
  le_maxDepth _ := Nat.le_refl _

/-- Evaluation is given up at a depth, if it would not overflow before. -/
def upTo (depth : Nat) : Limit where
  depth context := min depth context.maxDepth
  le_maxDepth _ := Nat.min_le_right ..

/-- Evaluation that counts with a counter is given up some levels before it would overflow. -/
def lowered (counter down : Nat) : Limit where
  depth context := if context.counter = counter then context.maxDepth - down else context.maxDepth
  le_maxDepth context := by
    split
    · exact Nat.sub_le ..
    · exact Nat.le_refl _

end Limit

/-! ### Limited evaluation -/

/-- Runs a computation one level deeper, as the evaluation of a node, or gives it up. -/
def Eval.withinLimit {α : Type} (limit : Limit) (context : Context) (node : Node) (x : Eval α) :
    Eval α := fun machine =>
  if machine.interrupted context.flag = false ∧
      limit.depth context ≤ machine.depth context.counter then
    .error .outOfLevels machine
  else within context node x machine

/-- Evaluates a node with a number of levels, or gives it up. -/
def Node.evalLimitedAt (limit : Limit) (config : Config) (levels : Nat) (top : Bool) (node : Node)
    (frame : FrameId) : Eval Value :=
  Eval.withinLimit limit config.toContext node <|
    match levels with
    | 0 => throw .outOfLevels
    | levels + 1 =>
      let evaluate context inner := inner.evalLimitedAt limit (config.under context) levels false
      Evaluation.evalNode config evaluate top node frame

/-- Evaluates a node, or gives it up. -/
def Node.evalLimited (limit : Limit) (config : Config) (top : Bool) (node : Node)
    (frame : FrameId) : Eval Value :=
  fun machine => node.evalLimitedAt limit config machine.room top frame machine

/-- Evaluates nodes below the top level, under any context, or gives them up. -/
def Config.limited (limit : Limit) (config : Config) (context : Context) : Evaluator :=
  fun node frame => node.evalLimited limit (config.under context) false frame

/-- What evaluation does around a node. -/
theorem Eval.withinLimit_eq {α : Type} (limit : Limit) (context : Context) (node : Node)
    (x : Eval α) (machine : Machine) :
    withinLimit limit context node x machine =
      if machine.interrupted context.flag then .error (.fault .interrupted) machine
      else if limit.depth context ≤ machine.depth context.counter then
        .error .outOfLevels machine
      else if machine.room = 0 then
        .error .outOfLevels ((machine.inside context node).outside context machine.room)
      else
        match x (machine.inside context node) with
        | .ok a machine' => .ok a (machine'.outside context machine.room)
        | .error stop machine' => .error stop (machine'.outside context machine.room) := by
  have hlimit := limit.le_maxDepth context
  unfold withinLimit
  rw [within_eq]
  by_cases hinterrupted : machine.interrupted context.flag = true
  · have hno : ¬ (machine.interrupted context.flag = false ∧
        limit.depth context ≤ machine.depth context.counter) :=
      fun h => by rw [h.1] at hinterrupted; cases hinterrupted
    rw [if_neg hno, if_pos hinterrupted, if_pos hinterrupted]
  · have hfree := Bool.eq_false_iff.mpr hinterrupted
    rw [if_neg hinterrupted, if_neg hinterrupted]
    by_cases hdeep : limit.depth context ≤ machine.depth context.counter
    · rw [if_pos ⟨hfree, hdeep⟩, if_pos hdeep]
    · -- the limit is not reached, so neither is that of the context
      rw [if_neg fun h => hdeep h.2, if_neg hdeep]
      exact if_neg fun h => hdeep (Nat.le_trans hlimit h)

namespace Contract

variable {limit : Limit} {config : Config} {room : Nat}

/-- Into a node and out of it, if it is not given up. -/
theorem steady_withinLimit (context : Context) (node : Node) {x y : Eval Value}
    (hx : 0 < room → (steady (room - 1)).Agree x y) :
    (steady room).Agree (Eval.withinLimit limit context node x)
      (Eval.withinLimit limit context node y) := by
  intro machine hroom
  unfold Eval.withinLimit
  split
  · exact ⟨rfl, (steady room).refl hroom, trivial⟩
  · refine (steady_descends context).within node (fun machine hroom _ hpos => hx ?_) machine hroom
    have hroom : machine.room = room := hroom
    omega

/-- **Levels beyond what there is room for make no difference.** -/
theorem steady_evalLimitedAt {levels levels' : Nat} (h : min levels room = min levels' room)
    (top : Bool) (node : Node) (frame : FrameId) :
    (steady room).Agree (node.evalLimitedAt limit config levels top frame)
      (node.evalLimitedAt limit config levels' top frame) := by
  induction levels generalizing config room levels' top node frame with
  | zero =>
    rw [Node.evalLimitedAt, Node.evalLimitedAt.eq_def limit config levels']
    refine steady_withinLimit _ node fun hpos => ?_
    obtain rfl : levels' = 0 := by omega
    exact fun machine hroom => ⟨rfl, (steady (room - 1)).refl hroom, trivial⟩
  | succ levels ih =>
    rw [Node.evalLimitedAt, Node.evalLimitedAt.eq_def limit config levels']
    refine steady_withinLimit _ node fun hpos => ?_
    obtain ⟨levels', rfl⟩ : ∃ n, levels' = n + 1 := ⟨levels' - 1, by omega⟩
    refine Simulation.evalNode (steady_bounded _) ⟨?_, steady_suits (room - 1) _⟩
      (fun _ => trivial) node
    exact fun context inner frame => ih (by omega) false inner frame

/-- If nodes leave the depth and the room as they were, so does what is inside a node. -/
theorem steady_evalNode {evaluate : Context → Evaluator}
    (h : ∀ room context, (steady room).simulation.Simulates (evaluate context) (evaluate context))
    (top : Bool) (node : Node) (frame : FrameId) :
    (Evaluation.evalNode config evaluate top node frame).Steady := by
  refine steady_of_agree fun room => ?_
  exact Simulation.evalNode (steady_bounded _) ⟨h room, steady_suits room _⟩ (fun _ => trivial) node

theorem steady_limitedAt (limit : Limit) (config : Config) (levels room : Nat)
    (context : Context) :
    (steady room).simulation.Simulates
      (fun node => node.evalLimitedAt limit (config.under context) levels false)
      (fun node => node.evalLimitedAt limit (config.under context) levels false) :=
  fun node frame => steady_evalLimitedAt rfl false node frame

theorem steady_limited (limit : Limit) (config : Config) (room : Nat) (context : Context) :
    (steady room).simulation.Simulates (config.limited limit context)
      (config.limited limit context) :=
  fun node frame machine hroom => steady_evalLimitedAt rfl false node frame machine hroom

end Contract

/-- **Limited evaluation is its own evaluator.** -/
theorem Node.evalLimited_eq (limit : Limit) (config : Config) (top : Bool) (node : Node)
    (frame : FrameId) :
    node.evalLimited limit config top frame =
      Eval.withinLimit limit config.toContext node
        (Evaluation.evalNode config (config.limited limit) top node frame) := by
  funext machine
  have hlevels : (Contract.steady machine.room).Agree
      (node.evalLimitedAt limit config machine.room top frame)
      (node.evalLimitedAt limit config (machine.room + 1) top frame) :=
    Contract.steady_evalLimitedAt (by omega) top node frame
  have hinside : (Contract.steady machine.room).Agree
      (Eval.withinLimit limit config.toContext node
        (Evaluation.evalNode config (config.limited limit) top node frame))
      (node.evalLimitedAt limit config (machine.room + 1) top frame) := by
    refine Contract.steady_withinLimit _ node fun hpos => ?_
    refine Simulation.evalNode (Contract.steady_bounded _)
      ⟨?_, Contract.steady_suits (machine.room - 1) _⟩ (fun _ => trivial) node
    intro context inner frame within hroom
    have hroom : within.room = machine.room - 1 := hroom
    show _ = inner.evalLimitedAt limit (config.under context) within.room false frame within ∧ _
    exact Contract.steady_evalLimitedAt (by omega) false inner frame within hroom
  exact (hlevels machine rfl).1.symm.trans (hinside machine rfl).1

/-! ### Watching for overflows -/

namespace Watch

variable {watch : Watch} {context : Context} {α : Type}

/-- The watch looks at overflows alone. -/
def OverflowsOnly (watch : Watch) : Prop :=
  ∀ depth node, watch.dispatched depth node = pure ()

/-- The watch that gives a run up as soon as an overflow is about to be raised. -/
def alarm : Watch where
  dispatched _ _ := pure ()
  overflowed _ := throw .outOfLevels

theorem idle_overflowsOnly : idle.OverflowsOnly :=
  fun _ _ => rfl

theorem alarm_overflowsOnly : alarm.OverflowsOnly :=
  fun _ _ => rfl

theorem within_of_interrupted (watch : Watch) (node : Node) (x : Eval α) {machine : Machine}
    (h : machine.interrupted context.flag = true) :
    watch.within context node x machine = Eval.within context node x machine := by
  unfold within Eval.within
  rw [Eval.bind_eq, Eval.bind_eq, Eval.checkInterrupt_eq, if_pos h]

/-- A watch for overflows does nothing above the limit. -/
theorem within_of_shallow (hwatch : watch.OverflowsOnly) (node : Node) (x : Eval α)
    {machine : Machine} (h : machine.depth context.counter < context.maxDepth) :
    watch.within context node x machine = Eval.within context node x machine := by
  have hentering : watch.entering context node.location? machine = .ok () machine := by
    show (if context.maxDepth ≤ machine.depth context.counter then _ else pure () : Eval Unit)
      machine = _
    rw [if_neg (Nat.not_le.mpr h)]
    rfl
  have hdispatching : watch.dispatching context node x = x := by
    funext machine
    show (watch.dispatched (machine.depth context.counter) node >>= fun _ => x) machine = x machine
    rw [hwatch]
    rfl
  by_cases hinterrupted : machine.interrupted context.flag = true
  · exact within_of_interrupted watch node x hinterrupted
  · unfold within Eval.within
    rw [Eval.bind_eq, Eval.bind_eq, Eval.checkInterrupt_eq, if_neg hinterrupted, hdispatching]
    dsimp only
    rw [Eval.bind_eq, hentering]

/-- The alarm goes off where the limit is reached. -/
theorem alarm_within (context : Context) (node : Node) (x : Eval α) :
    alarm.within context node x = Eval.withinLimit .own context node x := by
  funext machine
  unfold Eval.withinLimit
  by_cases hinterrupted : machine.interrupted context.flag = true
  · rw [if_neg fun h => by rw [h.1] at hinterrupted; cases hinterrupted]
    exact within_of_interrupted alarm node x hinterrupted
  by_cases hdeep : context.maxDepth ≤ machine.depth context.counter
  · have hentering : alarm.entering context node.location? machine =
        .error .outOfLevels machine := by
      show (if context.maxDepth ≤ machine.depth context.counter then throw .outOfLevels
        else pure () : Eval Unit) machine = _
      rw [if_pos hdeep]
      rfl
    rw [if_pos ⟨Bool.eq_false_iff.mpr hinterrupted, hdeep⟩]
    unfold within
    rw [Eval.bind_eq, Eval.checkInterrupt_eq, if_neg hinterrupted]
    dsimp only
    rw [Eval.bind_eq, hentering]
  · rw [if_neg fun h => hdeep h.2]
    exact within_of_shallow alarm_overflowsOnly node x (Nat.lt_of_not_le hdeep)

theorem alarm_evalAt (config : Config) (levels : Nat) (top : Bool) (node : Node)
    (frame : FrameId) : alarm.evalAt config levels top node frame =
      node.evalLimitedAt .own config levels top frame := by
  induction levels generalizing config top node frame with
  | zero => exact alarm_within _ node _
  | succ levels ih =>
    have hinner : (fun context (inner : Node) =>
          alarm.evalAt (config.under context) levels false inner) =
        fun context inner => inner.evalLimitedAt .own (config.under context) levels false := by
      funext context inner frame
      exact ih (config.under context) false inner frame
    rw [evalAt, Node.evalLimitedAt, alarm_within, hinner]

/-- A run under the alarm is a limited one. -/
theorem alarm_eval (config : Config) (top : Bool) (node : Node) (frame : FrameId) :
    alarm.eval config top node frame = node.evalLimited .own config top frame := by
  funext machine
  exact congrFun (alarm_evalAt config machine.room top node frame) machine

theorem idle_evalAt (config : Config) (levels : Nat) (top : Bool) (node : Node)
    (frame : FrameId) : idle.evalAt config levels top node frame =
      node.evalAt config levels top frame := by
  have hwithin (context : Context) (node : Node) (x : Eval Value) :
      idle.within context node x = Eval.within context node x := by
    funext machine
    by_cases hinterrupted : machine.interrupted context.flag = true
    · exact within_of_interrupted idle node x hinterrupted
    · have hentering : idle.entering context node.location? machine = .ok () machine := by
        show (if context.maxDepth ≤ machine.depth context.counter then pure () else pure () :
          Eval Unit) machine = _
        rw [ite_self]
        rfl
      unfold within Eval.within
      rw [Eval.bind_eq, Eval.bind_eq, Eval.checkInterrupt_eq, if_neg hinterrupted]
      dsimp only
      rw [Eval.bind_eq, hentering]
      rfl
  induction levels generalizing config top node frame with
  | zero => exact hwithin _ node _
  | succ levels ih =>
    have hinner : (fun context (inner : Node) =>
          idle.evalAt (config.under context) levels false inner) =
        fun context inner => inner.evalAt (config.under context) levels false := by
      funext context inner frame
      exact ih (config.under context) false inner frame
    rw [evalAt, Node.evalAt, hwithin, hinner]

theorem idle_eval (config : Config) (top : Bool) (node : Node) (frame : FrameId) :
    idle.eval config top node frame = node.eval config top frame := by
  funext machine
  exact congrFun (idle_evalAt config machine.room top node frame) machine

end Watch

/-! ### Until a run is given up -/

namespace Eval.Roomier

variable {watch : Watch} (hwatch : watch.OverflowsOnly) {limit : Limit} {config : Config}

include hwatch

/-- Into a node and out of it. -/
theorem withinLimit (context : Context) (node : Node) {x y : Eval Value} (h : Roomier x y) :
    Roomier (Eval.withinLimit limit context node x) (watch.within context node y) := by
  intro machine extra
  unfold Eval.withinLimit
  split
  · exact .inl ⟨machine, rfl⟩
  rename_i hgoes
  have hsame : watch.within context node y (machine.widen extra) =
      Eval.within context node y (machine.widen extra) := by
    by_cases hinterrupted : machine.interrupted context.flag = true
    · exact Watch.within_of_interrupted watch node y hinterrupted
    · refine Watch.within_of_shallow hwatch node y (Nat.lt_of_not_le fun hdeep => hgoes ?_)
      exact ⟨Bool.eq_false_iff.mpr hinterrupted, Nat.le_trans (limit.le_maxDepth context) hdeep⟩
  rw [hsame]
  exact within context node h machine extra

theorem evalLimitedAt {levels levels' : Nat} (h : levels ≤ levels') (top : Bool) (node : Node)
    (frame : FrameId) :
    Roomier (node.evalLimitedAt limit config levels top frame)
      (watch.evalAt config levels' top node frame) := by
  induction levels generalizing config levels' top node frame with
  | zero =>
    -- without levels what is inside is given up
    rw [Node.evalLimitedAt, Watch.evalAt.eq_def watch]
    exact withinLimit hwatch _ node fun machine _ => .inl ⟨machine, rfl⟩
  | succ levels ih =>
    obtain ⟨levels', rfl⟩ : ∃ n, levels' = n + 1 := ⟨levels' - 1, by omega⟩
    rw [Node.evalLimitedAt, Watch.evalAt]
    refine withinLimit hwatch _ node
      (Simulation.evalNode (S := .roomier) (.inr panics) ⟨?_, ?_⟩ (fun _ => trivial) node)
    · exact fun context inner frame => ih (by omega) false inner frame
    · exact Hosts.obey_of_forall (fun _ => trivial) fun _ => trivial

/-- **A run that is not given up is the run without the limit**, with more room or without, and
watched for overflows or not. -/
theorem evalLimited (top : Bool) (node : Node) (frame : FrameId) :
    Roomier (node.evalLimited limit config top frame) (watch.eval config top node frame) := by
  intro machine extra
  exact evalLimitedAt hwatch (Nat.le_add_right machine.room extra) top node frame machine extra

theorem programLimited (frame : FrameId) (last : Value) (trees : List Node) :
    Roomier (Eval.programBy (fun tree => tree.evalLimited limit config true frame) last trees)
      (Eval.programBy (fun tree => watch.eval config true tree frame) last trees) :=
  Simulation.programBy (S := .roomier) (fun tree => evalLimited hwatch true tree frame) last trees

omit hwatch in
/-- The evaluators without the limit. -/
theorem carriesLimited (limit : Limit) (config : Config) :
    Simulation.roomier.Carries config.hosts (config.limited limit) config.evaluators where
  nodes context node frame := by
    have hlimited : Roomier (node.evalLimited limit (config.under context) false frame)
        (Watch.idle.eval (config.under context) false node frame) :=
      evalLimited Watch.idle_overflowsOnly false node frame
    rw [Watch.idle_eval] at hlimited
    exact hlimited
  hosts := Hosts.obey_of_forall (fun _ => trivial) fun _ => trivial

end Eval.Roomier

/-- No overflow is raised by the computation, not even one that is handled: no watch for overflows
makes a difference. -/
def Eval.NeverOverflows {α : Type} (x : Eval α) (watched : Watch → Eval α) (machine : Machine) :
    Prop :=
  ∀ watch : Watch, watch.OverflowsOnly → watched watch machine = x machine

/-- **It is enough to watch with the alarm.** -/
theorem Eval.neverOverflows_iff {α : Type} {x : Eval α} {watched : Watch → Eval α}
    {machine : Machine} (hidle : watched .idle = x)
    (h : ∀ watch : Watch, watch.OverflowsOnly → Roomier (watched .alarm) (watched watch)) :
    x.NeverOverflows watched machine ∧ ¬ x.GivesUp machine ↔
      ¬ (watched .alarm).GivesUp machine := by
  constructor
  · rintro ⟨hsame, hlasts⟩
    -- under the alarm the run is the same
    unfold GivesUp stop?
    rw [hsame .alarm Watch.alarm_overflowsOnly]
    exact hlasts
  · intro hlasts
    have hsame : ∀ watch : Watch, watch.OverflowsOnly →
        watched watch machine = watched .alarm machine := by
      intro watch hwatch
      rcases h watch hwatch machine 0 with hgives | hsame
      · exact absurd (givesUp_iff.mpr hgives) hlasts
      · rw [widen_zero] at hsame
        exact hsame
    have hplain : x machine = watched .alarm machine := by
      rw [← hidle]
      exact hsame .idle Watch.idle_overflowsOnly
    refine ⟨fun watch hwatch => (hsame watch hwatch).trans hplain.symm, ?_⟩
    unfold GivesUp stop?
    rw [hplain]
    exact hlasts

/-! ### Corresponding runs -/

namespace Correspondence

/-- Machines that are alike stay so when nodes that are alike are entered and left before limits
that are reached together. -/
structure EntersBelow (C : Correspondence) (limit limit' : Limit) : Prop where
  /-- Oracles give nodes that are alike one verdict. -/
  oracle {context context' : Context} (h : C.context context context') :
    C.OracleAlike context context'
  /-- Both runs are interrupted, or none is. -/
  interrupted_eq {context context' : Context} (h : C.context context context') {m m' : Machine}
    (hm : C.machine m m') : m'.interrupted context'.flag = m.interrupted context.flag
  /-- Both runs reach their limits, or none does. -/
  depth_le_iff {context context' : Context} (h : C.context context context') {m m' : Machine}
    (hm : C.machine m m') : limit'.depth context' ≤ m'.depth context'.counter ↔
      limit.depth context ≤ m.depth context.counter
  /-- The runs have the same room. -/
  room_eq {m m' : Machine} (hm : C.machine m m') : m'.room = m.room
  /-- Nodes may be entered. -/
  inside {context context' : Context} (h : C.context context context') {m m' : Machine}
    (hm : C.machine m m') {node node' : Node} (hnode : node.Alike C.toLikeness node') :
    C.machine (m.inside context node) (m'.inside context' node')
  /-- Nodes may be left. -/
  outside {context context' : Context} (h : C.context context context') {m m' : Machine}
    (hm : C.machine m m') (hdepth : 0 < m.depth context.counter) (room : Nat) :
    C.machine (m.outside context room) (m'.outside context' room)

namespace EntersBelow

variable {C : Correspondence} {limit limit' : Limit} (hC : C.EntersBelow limit limit')
  {config : Config} {context' : Context} {node node' : Node}

include hC

/-- Into a node and out of it. -/
theorem withinLimit {context : Context} (h : C.context context context')
    (hnode : node.Alike C.toLikeness node') {x y : Eval Value} (hsteady : x.Steady)
    (hx : C.Alike C.ValueAlike x y) :
    C.Alike C.ValueAlike (Eval.withinLimit limit context node x)
      (Eval.withinLimit limit' context' node' y) := by
  intro m m' hm
  rw [Eval.withinLimit_eq, Eval.withinLimit_eq, hC.interrupted_eq h hm, hC.room_eq hm]
  simp only [hC.depth_le_iff h hm]
  have hinside := hC.inside h hm hnode
  have hdeep : 0 < (m.inside context node).depth context.counter := by
    rw [Machine.depth_inside]
    exact Nat.succ_pos _
  split
  · exact .error (.interrupted C.interruption_self) hm
  split
  · exact .error .outOfLevels hm
  split
  · exact .error .outOfLevels (hC.outside h hinside hdeep _)
  have houtcome := hx _ _ hinside
  -- what is left inside is as deep as what was entered
  have hdepth := (hsteady (m.inside context node)).2
  rw [← hdepth] at hdeep
  unfold Eval.after at hdeep
  generalize x (m.inside context node) = result at houtcome hdeep ⊢
  generalize y (m'.inside context' node') = result' at houtcome ⊢
  cases houtcome with
  | ok hvalue hm => exact .ok hvalue (hC.outside h hm hdeep _)
  | error hstop hm => exact .error hstop (hC.outside h hm hdeep _)

theorem evalLimitedAt (h : C.context config.toContext context')
    (hhosts : config.hosts.Respect C.toLikeness) (levels : Nat) (top : Bool)
    (hnode : node.Alike C.toLikeness node') {frame frame' : FrameId}
    (hframe : C.frame frame frame') :
    C.Alike C.ValueAlike (node.evalLimitedAt limit config levels top frame)
      (node'.evalLimitedAt limit' (config.under context') levels top frame') := by
  induction levels generalizing config context' top node node' frame frame' with
  | zero => exact hC.withinLimit h hnode (fun _ => ⟨rfl, rfl⟩) (.throw .outOfLevels)
  | succ levels ih =>
    refine hC.withinLimit h hnode
      (Contract.steady_evalNode (Contract.steady_limitedAt limit config levels) top node frame) ?_
    refine Correspondence.evalNode ⟨h, hC.oracle h⟩ ⟨?_, hhosts⟩ top hnode hframe
    intro inside inside' hinside inner inner' frame frame' hinner hframe
    have hcontext : C.context (config.under inside).toContext inside' := hinside
    have hrespect : (config.under inside).hosts.Respect C.toLikeness := hhosts
    exact ih hcontext hrespect false hinner hframe

/-- **Nodes that are alike are evaluated alike** until they are given up. -/
theorem evalLimited (h : C.context config.toContext context')
    (hhosts : config.hosts.Respect C.toLikeness) (top : Bool)
    (hnode : node.Alike C.toLikeness node') {frame frame' : FrameId}
    (hframe : C.frame frame frame') :
    C.Alike C.ValueAlike (node.evalLimited limit config top frame)
      (node'.evalLimited limit' (config.under context') top frame') := by
  intro m m' hm
  unfold Node.evalLimited
  rw [hC.room_eq hm]
  exact hC.evalLimitedAt h hhosts m.room top hnode hframe m m' hm

theorem carries (hhosts : config.hosts.Respect C.toLikeness) :
    C.Carries config.hosts (config.limited limit) (config.limited limit') where
  nodes {context inside} h node node' frame frame' hnode hframe := by
    have hcontext : C.context (config.under context).toContext inside := h
    have hrespect : (config.under context).hosts.Respect C.toLikeness := hhosts
    exact hC.evalLimited hcontext hrespect false hnode hframe
  hosts := hhosts

end EntersBelow

end Correspondence

end FrameLisp
