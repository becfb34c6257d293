import FrameLisp.Proofs.Pinning
import FrameLisp.Proofs.Termination
import Mathlib.Data.List.Chain

/-!
# The discipline of depth

A counter of a machine counts the nodes that are being evaluated, one inside the other.  Every way
out of a node brings the depth back to what it was: a value, a fault from far below, and a fault
that a handler took on the way.  So between its beginning and its end an evaluation that starts at
the depth `base` works at the depths from `base + 1` to the limit, and goes down by one level at a
time, if all functions in reach were made in contexts that share the counter and the limit
(`Context.Shares`).

Three things are observed.  The depth at the end can be read off the machine.  The depths at which
nodes are entered are read off the events of a traced run: they are `Nested`, that is, in the order
in which a tree is walked from its root.  What happens in between, and may leave no trace in the
machine, is seen by a `Watch`, a pair of computations that the evaluator runs whenever it is about
to evaluate a node and whenever it raises an overflow.  The watch may do anything at all, so if a
watched run cannot be told from an unwatched one, then nothing that the watch reacts to has ever
happened.
-/

namespace FrameLisp

/-! ### Sequences of depths -/

/-- The depth at which a node was entered, if that is what the event is about. -/
def Event.depth? : Event → Option Nat
  | entered depth _ => some depth
  | _ => none

/-- The depths at which nodes were entered. -/
def Event.depths (events : List Event) : List Nat :=
  events.filterMap depth?

/-- Depths beyond `base`, in the order in which a tree of nodes is walked from its root. -/
structure Nested (base limit : Nat) (depths : List Nat) : Prop where
  /-- The first node is one level below. -/
  first : ∀ depth ∈ depths.head?, depth = base + 1
  /-- No node is less deep. -/
  least : ∀ depth ∈ depths, base + 1 ≤ depth
  /-- No node is deeper than the limit. -/
  most : ∀ depth ∈ depths, depth ≤ limit
  /-- Each node is at most one level deeper than the one before it. -/
  step : depths.IsChain fun depth next => next ≤ depth + 1

namespace Nested

variable {base limit : Nat} {depths more : List Nat}

theorem nil : Nested base limit [] where
  first _ h := by cases h
  least _ h := by cases h
  most _ h := by cases h
  step := .nil

/-- One walk after the other. -/
theorem append (h : Nested base limit depths) (h' : Nested base limit more) :
    Nested base limit (depths ++ more) where
  first depth hdepth := by
    cases depths with
    | nil => exact h'.first depth hdepth
    | cons first rest => exact h.first depth hdepth
  least depth hdepth := by
    rcases List.mem_append.mp hdepth with hleft | hright
    · exact h.least depth hleft
    · exact h'.least depth hright
  most depth hdepth := by
    rcases List.mem_append.mp hdepth with hleft | hright
    · exact h.most depth hleft
    · exact h'.most depth hright
  step := by
    refine List.isChain_append.mpr ⟨h.step, h'.step, ?_⟩
    -- the second walk begins one level below the base, and the first never ends above that
    intro last hlast next hnext
    have hnext := h'.first next hnext
    have hlast := h.least last (List.mem_of_mem_getLast? hlast)
    omega

/-- A node and a walk below it. -/
theorem cons (hroom : base < limit) (h : Nested (base + 1) limit depths) :
    Nested base limit ((base + 1) :: depths) where
  first depth hdepth := (Option.mem_some.mp hdepth).symm
  least depth hdepth := by
    rcases List.mem_cons.mp hdepth with rfl | hrest
    · exact Nat.le_refl _
    · have hdeeper := h.least depth hrest
      omega
  most depth hdepth := by
    rcases List.mem_cons.mp hdepth with rfl | hrest
    · exact hroom
    · exact h.most depth hrest
  step := by
    refine List.isChain_cons.mpr ⟨fun next hnext => ?_, h.step⟩
    have hfirst := h.first next hnext
    omega

end Nested

/-! ### What is reported -/

/-- Contexts that count together, up to one limit, and of which both report their nodes or none
does. -/
structure Context.Shares (shared context : Context) : Prop where
  /-- They have one counter. -/
  counter : context.counter = shared.counter
  /-- They have one limit. -/
  maxDepth : context.maxDepth = shared.maxDepth
  /-- Both report nodes, or none does. -/
  trace : context.trace = shared.trace

/-- Of the events that were added, those about nodes have nested depths, and there are none unless
nodes are traced. -/
def Machine.Reports (context : Context) (base : Nat) (machine machine' : Machine) : Prop :=
  ∃ events : List Event,
    machine'.events.toList = machine.events.toList ++ events ∧
      Nested base context.maxDepth (Event.depths events) ∧
      (context.trace = false → Event.depths events = [])

namespace Machine.Reports

variable {context shared : Context} {base : Nat} {first second third : Machine}

/-- Events that are not about nodes. -/
theorem of_append (events : List Event) (h : second.events.toList = first.events.toList ++ events)
    (hdepths : Event.depths events = []) : Reports context base first second := by
  refine ⟨events, h, ?_, fun _ => hdepths⟩
  rw [hdepths]
  exact .nil

theorem of_eq (h : second.events = first.events) : Reports context base first second := by
  refine of_append [] ?_ rfl
  rw [h, List.append_nil]

theorem trans (h : Reports context base first second) (h' : Reports context base second third) :
    Reports context base first third := by
  obtain ⟨events, hevents, hnested, hsilent⟩ := h
  obtain ⟨events', hevents', hnested', hsilent'⟩ := h'
  have hdepths : Event.depths (events ++ events') = Event.depths events ++ Event.depths events' :=
    List.filterMap_append
  refine ⟨events ++ events', ?_, ?_, fun hoff => ?_⟩
  · rw [hevents', hevents, List.append_assoc]
  · rw [hdepths]
    exact hnested.append hnested'
  · rw [hdepths, hsilent hoff, hsilent' hoff]
    rfl

theorem change (h : first.Change second) : Reports context base first second := by
  cases h with
  | ref => exact of_eq rfl
  | printed text => exact of_eq rfl
  | resolving name => exact of_append [_] Array.toList_push rfl
  | topLevel node => exact of_append [_] Array.toList_push rfl
  | interrupted => exact of_eq rfl

/-- What is reported inside a node, together with the node itself. -/
theorem outside (hshares : shared.Shares context) {node : Node}
    (hdepth : first.depth shared.counter = base) (hshallow : base < shared.maxDepth) (room : Nat)
    (h : Reports shared (base + 1) (first.inside context node) second) :
    Reports shared base first (second.outside context room) := by
  obtain ⟨events, hevents, hnested, hsilent⟩ := h
  have hinside : (first.inside context node).events =
      if context.trace then first.events.push (.entered (first.depth context.counter + 1) node)
      else first.events :=
    rfl
  rw [hinside, hshares.counter, hshares.trace, hdepth] at hevents
  cases htrace : shared.trace with
  | false =>
    -- nothing was reported of the nodes inside either
    rw [htrace, if_neg Bool.false_ne_true] at hevents
    exact of_append events hevents (hsilent htrace)
  | true =>
    rw [htrace, if_pos rfl, Array.toList_push, List.append_assoc] at hevents
    exact ⟨_, hevents, hnested.cons hshallow, fun hoff => by cases htrace.symm.trans hoff⟩

end Machine.Reports

/-! ### The contract -/

/-- If the fault is an overflow, it is one at the limit. -/
def Fault.OverflowsAt (limit : Nat) : Fault → Prop
  | overflow depth limit' _ => depth = limit ∧ limit' = limit
  | _ => True

theorem Fault.OverflowsAt.of_isPlain {limit : Nat} {fault : Fault} (h : fault.isPlain = true) :
    fault.OverflowsAt limit := by
  cases fault with
  | overflow depth limit' location => cases h
  | _ => trivial

theorem Fault.OverflowsAt.orAt {limit : Nat} {fault : Fault} (h : fault.OverflowsAt limit)
    (location : Option Location) : (fault.orAt location).OverflowsAt limit := by
  unfold Fault.orAt
  split
  · trivial
  · trivial
  · exact h

/-- The code of the host raises no overflow of its own. -/
abbrev Hosts.OverflowAt (hosts : Hosts) (limit : Nat) : Prop :=
  hosts.Obey (Fault.OverflowsAt limit) fun _ => True

namespace Contract

variable {shared context : Context} {honest : Prop} {base : Nat}

/-- Computations that start at the depth `base` end there.  Their overflows are at the limit, if
the host is honest. -/
def depth (shared : Context) (honest : Prop) (base : Nat) : Contract where
  Before machine := machine.depth shared.counter = base
  Keeps machine machine' :=
    machine'.depth = machine.depth ∧ machine.Reports shared base machine'
  Allows stop := honest → ∀ fault, stop = .fault fault → fault.OverflowsAt shared.maxDepth
  Writable _ := True
  refl _ := ⟨rfl, .of_eq rfl⟩
  trans h h' := ⟨h'.1.trans h.1, h.2.trans h'.2⟩
  before h h' := by
    rw [h'.1]
    exact h
  change _ h := by
    refine ⟨?_, .change h⟩
    cases h <;> rfl
  addFrame _ _ := ⟨⟨rfl, .of_eq rfl⟩, trivial⟩
  define _ _ _ _ := ⟨rfl, .of_eq rfl⟩
  plain h := by
    rintro _ fault hfault
    cases hfault
    exact .of_isPlain h
  orAt h location := by
    rintro hhonest fault hfault
    cases hfault
    exact (h hhonest _ rfl).orAt location

theorem depth_descends (hshares : shared.Shares context) (h : base ≤ shared.maxDepth) :
    Descends context (depth shared honest base) (depth shared honest (base + 1)) where
  interrupted := by
    rintro _ fault hfault
    cases hfault
    trivial
  overflow {machine} hdepth hdeep location := by
    -- the limit cannot have been exceeded before, so it is just reached
    rintro _ fault hfault
    cases hfault
    have hdepth : machine.depth shared.counter = base := hdepth
    rw [hshares.counter, hshares.maxDepth, hdepth] at hdeep ⊢
    exact ⟨Nat.le_antisymm h hdeep, rfl⟩
  exhausted _ _ _ := by
    rintro _ fault hfault
    cases hfault
  inside {machine} hdepth _ node := by
    have hdepth : machine.depth shared.counter = base := hdepth
    show (machine.inside context node).depth shared.counter = base + 1
    rw [← hshares.counter, Machine.depth_inside, hshares.counter, hdepth]
  outside {machine machine'} hdepth hshallow node hkeeps := by
    have hdepth : machine.depth shared.counter = base := hdepth
    rw [hshares.counter, hshares.maxDepth, hdepth] at hshallow
    exact ⟨Machine.depth_outside_inside _ hkeeps.1, hkeeps.2.outside hshares hdepth hshallow _⟩
  allows h := h

theorem depth_bounded (context : Context) :
    (depth shared honest base).simulation.Bounded context := by
  refine .inr (panics fun _ fault hfault => ?_)
  cases hfault

theorem depth_suits {hosts : Hosts} (h : honest → hosts.OverflowAt shared.maxDepth) (base : Nat) :
    (depth shared honest base).Suits hosts := by
  by_cases hhonest : honest
  · have hallows : (fun fault => (depth shared honest base).Allows (.fault fault)) =
        Fault.OverflowsAt shared.maxDepth := by
      funext fault
      refine propext ⟨fun h => h hhonest fault rfl, fun h _ other hother => ?_⟩
      cases hother
      exact h
    show hosts.Obey (fun fault => (depth shared honest base).Allows (.fault fault)) _
    rw [hallows]
    exact h hhonest
  · exact Hosts.obey_of_forall (fun _ hyes => absurd hyes hhonest) fun _ => trivial

variable {pin : Context → Context} {config : Config}

/-- The depth is kept at every level. -/
theorem depth_evalPinned (hconfig : shared.Shares config.toContext)
    (hpin : ∀ context, shared.Shares (pin context))
    (hhosts : honest → config.hosts.OverflowAt shared.maxDepth) (hlimit : base ≤ shared.maxDepth)
    (levels : Nat) (top : Bool) (node : Node) (frame : FrameId) :
    (depth shared honest base).Agree (node.evalPinned pin config levels top frame)
      (node.evalPinned pin config levels top frame) := by
  induction levels generalizing base config top node frame with
  | zero =>
    refine (depth_descends hconfig hlimit).within node fun _ _ _ _ => ?_
    intro machine hbefore
    refine ⟨rfl, (depth shared honest (base + 1)).refl hbefore, fun _ fault hfault => ?_⟩
    cases hfault
  | succ levels ih =>
    refine (depth_descends hconfig hlimit).evalNode (depth_bounded _) (fun _ => trivial) node ?_
    intro machine hdepth hshallow _
    have hdepth : machine.depth shared.counter = base := hdepth
    have hshallow : base < shared.maxDepth := by
      rw [← hdepth, ← hconfig.counter, ← hconfig.maxDepth]
      exact hshallow
    refine ⟨fun context inner frame => ?_, depth_suits hhosts (base + 1)⟩
    have hinside : shared.Shares (config.under (pin context)).toContext := hpin context
    have hhost : honest → (config.under (pin context)).hosts.OverflowAt shared.maxDepth := hhosts
    have hinner := ih hinside hhost hshallow false inner frame
    exact hinner

theorem depth_pinned (hconfig : shared.Shares config.toContext)
    (hpin : ∀ context, shared.Shares (pin context))
    (hhosts : honest → config.hosts.OverflowAt shared.maxDepth) (hlimit : base ≤ shared.maxDepth)
    (top : Bool) (node : Node) (frame : FrameId) :
    (depth shared honest base).Agree (node.pinned pin config top frame)
      (node.pinned pin config top frame) :=
  fun machine =>
    depth_evalPinned hconfig hpin hhosts hlimit machine.room top node frame machine

theorem depth_carries (hpin : ∀ context, shared.Shares (pin context))
    (hhosts : honest → config.hosts.OverflowAt shared.maxDepth) (hlimit : base ≤ shared.maxDepth) :
    (depth shared honest base).simulation.Carries config.hosts (config.pinned pin)
      (config.pinned pin) where
  nodes context node frame := by
    have hinside : shared.Shares (config.under (pin context)).toContext := hpin context
    have hhost : honest → (config.under (pin context)).hosts.OverflowAt shared.maxDepth := hhosts
    have hnode := depth_pinned hinside hpin hhost hlimit false node frame
    exact hnode
  hosts := depth_suits hhosts base

end Contract

/-! ### Watched evaluation -/

/-- What is done beside evaluation.  A watch may read and change the machine, and it may stop. -/
structure Watch where
  /-- Done right before a node is evaluated, given the depth and the node. -/
  dispatched : Nat → Node → Eval Unit
  /-- Done right before an overflow is raised, given the overflow. -/
  overflowed : Fault → Eval Unit

namespace Watch

/-- The watch that does nothing. -/
def idle : Watch where
  dispatched _ _ := pure ()
  overflowed _ := pure ()

/-- The watch does nothing as long as evaluation keeps to the depths from `base + 1` to `limit` and
overflows at the limit. -/
structure Quiet (watch : Watch) (base limit : Nat) : Prop where
  /-- It does nothing at these depths. -/
  dispatched : ∀ depth node, base + 1 ≤ depth → depth ≤ limit →
    watch.dispatched depth node = pure ()
  /-- It does nothing when the limit is reached. -/
  overflowed : ∀ location, watch.overflowed (.overflow limit limit location) = pure ()

/-- Runs a computation as the evaluation of a node that is about to begin. -/
def dispatching {α : Type} (watch : Watch) (context : Context) (node : Node) (x : Eval α) :
    Eval α := do
  watch.dispatched ((← get).depth context.counter) node
  x

/-- Watches the overflow that going deeper would raise, if it would. -/
def entering (watch : Watch) (context : Context) (location : Option Location) : Eval Unit := do
  let depth := (← get).depth context.counter
  if context.maxDepth ≤ depth then watch.overflowed (.overflow depth context.maxDepth location)

/-- Runs a computation one level deeper, as the evaluation of a node that is watched. -/
def within {α : Type} (watch : Watch) (context : Context) (node : Node) (x : Eval α) : Eval α := do
  Eval.checkInterrupt context
  watch.entering context node.location?
  Eval.enter context node.location?
  Eval.leaving context do
    if context.trace then Eval.report (.entered ((← get).depth context.counter) node)
    Eval.descending (watch.dispatching context node x)

/-- Evaluates a node with a number of levels, watched. -/
def evalAt (watch : Watch) (config : Config) (levels : Nat) (top : Bool) (node : Node)
    (frame : FrameId) : Eval Value :=
  watch.within config.toContext node <|
    match levels with
    | 0 => throw .outOfLevels
    | levels + 1 =>
      let evaluate context inner := watch.evalAt (config.under context) levels false inner
      Evaluation.evalNode config evaluate top node frame

/-- Evaluates a node, watched. -/
def eval (watch : Watch) (config : Config) (top : Bool) (node : Node) (frame : FrameId) :
    Eval Value := do
  watch.evalAt config (← get).room top node frame

/-- Evaluates nodes below the top level, under any context, watched. -/
def evaluators (watch : Watch) (config : Config) (context : Context) : Evaluator :=
  fun node frame => watch.eval (config.under context) false node frame

variable {watch : Watch} {context : Context} {base : Nat} {α : Type}

/-- A quiet watch goes unnoticed where the limit is not exceeded. -/
theorem entering_eq (hquiet : watch.Quiet base context.maxDepth) (location : Option Location)
    {machine : Machine} (hdepth : machine.depth context.counter ≤ context.maxDepth) :
    watch.entering context location machine = .ok () machine := by
  show (if context.maxDepth ≤ machine.depth context.counter then
    watch.overflowed (.overflow (machine.depth context.counter) context.maxDepth location)
    else pure ()) machine = _
  split
  · rename_i hdeep
    rw [Nat.le_antisymm hdepth hdeep, hquiet.overflowed location]
    rfl
  · rfl

theorem within_eq (hquiet : watch.Quiet base context.maxDepth) (node : Node) (x : Eval α)
    {machine : Machine} (hdepth : machine.depth context.counter ≤ context.maxDepth) :
    watch.within context node x machine =
      Eval.within context node (watch.dispatching context node x) machine := by
  unfold within Eval.within
  rw [Eval.bind_eq, Eval.bind_eq, Eval.checkInterrupt_eq]
  by_cases hinterrupted : machine.interrupted context.flag = true
  · rw [if_pos hinterrupted]
  · rw [if_neg hinterrupted]
    dsimp only
    rw [Eval.bind_eq, entering_eq hquiet _ hdepth]

/-- A quiet watch goes unnoticed as a node is about to be evaluated. -/
theorem dispatching_eq (hquiet : watch.Quiet base context.maxDepth) (node : Node) (x : Eval α)
    {machine : Machine} (hleast : base + 1 ≤ machine.depth context.counter)
    (hmost : machine.depth context.counter ≤ context.maxDepth) :
    watch.dispatching context node x machine = x machine := by
  show (watch.dispatched (machine.depth context.counter) node >>= fun _ => x) machine = x machine
  rw [hquiet.dispatched (machine.depth context.counter) node hleast hmost]
  rfl

end Watch

/-! ### Watched runs

A watch may do anything to a machine once it is alarmed, so a contract says nothing of a run that is
watched, and neither does a policy.  What helps is to follow the watched run and the other one side
by side, on machines that are permitted and as deep as they should be.
-/

namespace Policy

variable {P : Policy} {shared : Context} {config : Config} {watch : Watch} {base start : Nat}

/-- Runs side by side at the depth `base`. -/
abbrev atDepth (P : Policy) (shared : Context) (base : Nat) : Correspondence :=
  P.assuming (.depth shared False base) fun _ => trivial

/-- A watched node and an unwatched one, given the same of what is inside. -/
theorem watched_within (hquiet : watch.Quiet start shared.maxDepth) (hstart : start ≤ base)
    (hlimit : base ≤ shared.maxDepth) {context : Context} (hshares : shared.Shares context)
    {node : Node} (hnode : P.PermitsNode node) {x y : Eval Value}
    (hx : base < shared.maxDepth →
      (P.atDepth shared (base + 1)).Alike P.correspondence.ValueAlike x y) :
    (P.atDepth shared base).Alike P.correspondence.ValueAlike (Eval.within context node x)
      (watch.within context node y) := by
  rintro _ m ⟨⟨rfl, hm⟩, hbefore⟩
  have hdepth : m.depth context.counter = base := by
    rw [hshares.counter]
    exact hbefore
  rw [← hshares.maxDepth] at hquiet hlimit hx
  have hsame : ∀ inner : Machine, inner.depth context.counter = base + 1 →
      base < context.maxDepth → watch.dispatching context node y inner = y inner := by
    intro inner hinner hshallow
    exact Watch.dispatching_eq hquiet node y (by omega) (by omega)
  rw [Watch.within_eq hquiet node y (by omega), Eval.within_eq, Eval.within_eq]
  split
  · exact .error (.interrupted P.correspondence.interruption_self) ⟨⟨rfl, hm⟩, hbefore⟩
  split
  · exact .error (.fault (.overflow _ _ hnode.location?)) ⟨⟨rfl, hm⟩, hbefore⟩
  rename_i hshallow
  rw [hdepth] at hshallow
  have hshallow := Nat.lt_of_not_le hshallow
  have hinside : (m.inside context node).depth context.counter = base + 1 := by
    rw [Machine.depth_inside, hdepth]
  have houtside {last last' : Machine} (hlast : (P.atDepth shared (base + 1)).machine last last') :
      (P.atDepth shared base).machine (last.outside context m.room)
        (last'.outside context m.room) := by
    obtain ⟨⟨hsame, hlast⟩, hdepth⟩ := hlast
    refine ⟨⟨by rw [hsame], hlast.of_eq rfl rfl⟩, ?_⟩
    have hdepth : last.depth shared.counter = base + 1 := hdepth
    show (last.outside context m.room).depth shared.counter = base
    rw [← hshares.counter, Machine.depth_outside, hshares.counter, hdepth]
    rfl
  have hstart : (P.atDepth shared (base + 1)).machine (m.inside context node)
      (m.inside context node) := by
    refine ⟨⟨rfl, hm.of_eq rfl rfl⟩, ?_⟩
    show (m.inside context node).depth shared.counter = base + 1
    rw [← hshares.counter]
    exact hinside
  split
  · exact .error .outOfLevels (houtside hstart)
  rw [hsame _ hinside hshallow]
  have houtcome := hx hshallow _ _ hstart
  generalize x (m.inside context node) = result at houtcome ⊢
  generalize y (m.inside context node) = result' at houtcome ⊢
  cases houtcome with
  | ok hvalue hlast => exact .ok hvalue (houtside hlast)
  | error hstop hlast =>
    exact .error (stopAlike_assuming.mpr (stopAlike_assuming.mp hstop)) (houtside hlast)

variable (hshares : ∀ context, P.context context → shared.Shares context)

include hshares

theorem watched_evalAt (hP : P.Admits config) (hquiet : watch.Quiet start shared.maxDepth)
    (hstart : start ≤ base) (hlimit : base ≤ shared.maxDepth) (levels : Nat) (top : Bool)
    {node : Node} (hnode : P.PermitsNode node) {frame : FrameId} (hframe : P.frame frame) :
    (P.atDepth shared base).Alike P.correspondence.ValueAlike
      (node.evalAt config levels top frame) (watch.evalAt config levels top node frame) := by
  induction levels generalizing base config top node frame with
  | zero =>
    exact watched_within hquiet hstart hlimit (hshares _ hP.context) hnode fun _ =>
      .throw .outOfLevels
  | succ levels ih =>
    refine watched_within hquiet hstart hlimit (hshares _ hP.context) hnode fun hshallow => ?_
    have hcontext : (P.atDepth shared (base + 1)).ContextAlike config.toContext config.toContext :=
      ⟨⟨rfl, hP.context⟩, fun rule nodes nodes' hnodes => by rw [nodes_eq hnodes]⟩
    refine Correspondence.evalNode hcontext ⟨?_, hP.hosts⟩ top hnode ⟨rfl, hframe⟩
    · rintro _ context ⟨rfl, hpermits⟩ inner inner' frame frame' hinner ⟨rfl, hframe⟩
      obtain rfl := node_eq hinner
      have hinside : P.Admits (config.under context) := ⟨hpermits, hP.hosts⟩
      exact ih hinside (Nat.le_succ_of_le hstart) hshallow false hinner hframe

theorem watched_eval (hP : P.Admits config) (hquiet : watch.Quiet start shared.maxDepth)
    (hstart : start ≤ base) (hlimit : base ≤ shared.maxDepth) (top : Bool)
    {node : Node} (hnode : P.PermitsNode node) {frame : FrameId} (hframe : P.frame frame) :
    (P.atDepth shared base).Alike P.correspondence.ValueAlike
      (node.eval config top frame) (watch.eval config top node frame) := by
  rintro _ m ⟨⟨rfl, hm⟩, hbefore⟩
  exact watched_evalAt hshares hP hquiet hstart hlimit m.room top hnode hframe m m
    ⟨⟨rfl, hm⟩, hbefore⟩

theorem watched_carries (hP : P.Admits config) (hquiet : watch.Quiet start shared.maxDepth)
    (hstart : start ≤ base) (hlimit : base ≤ shared.maxDepth) :
    (P.atDepth shared base).Carries config.hosts config.evaluators (watch.evaluators config) := by
  refine ⟨?_, hP.hosts⟩
  rintro _ context ⟨rfl, hpermits⟩ inner inner' frame frame' hinner ⟨rfl, hframe⟩
  obtain rfl := node_eq hinner
  have hinside : P.Admits (config.under context) := ⟨hpermits, hP.hosts⟩
  exact watched_eval hshares hinside hquiet hstart hlimit false hinner hframe

theorem watched_program (hP : P.Admits config) (hquiet : watch.Quiet start shared.maxDepth)
    (hstart : start ≤ base) (hlimit : base ≤ shared.maxDepth) {frame : FrameId}
    (hframe : P.frame frame) {last : Value} (hlast : P.PermitsValue last) {nodes : List Node}
    (hnodes : ∀ node ∈ nodes, P.PermitsNode node) :
    (P.atDepth shared base).Alike P.correspondence.ValueAlike
      (Eval.program config frame last nodes)
      (Eval.programBy (fun node => watch.eval config true node frame) last nodes) := by
  rw [Eval.program_eq]
  refine Correspondence.programBy (C := P.atDepth shared base) ?_ ?_ hlast
    (permitsNodes_iff.mpr hnodes)
  · intro m m' hm node node' hnode
    exact ⟨P.reports hm.1 hnode, hm.2⟩
  · intro node node' hnode
    obtain rfl := node_eq hnode
    exact watched_eval hshares hP hquiet hstart hlimit true hnode hframe

end Policy

/-! ### The discipline -/

/-- What holds of a computation that keeps the discipline of depth on a machine. -/
structure Disciplined {α : Type} (config : Config) (machine : Machine) (x : Eval α)
    (watched : Watch → Eval α) : Prop where
  /-- However the computation ends, the depth is what it was. -/
  restored : (x.after machine).depth = machine.depth
  /-- Nodes are evaluated, and overflows are raised, only where a quiet watch does nothing. -/
  unnoticed (watch : Watch)
    (hquiet : watch.Quiet (machine.depth config.counter) config.maxDepth) :
    watched watch machine = x machine
  /-- The depths at which nodes are entered are nested. -/
  nested : machine.Reports config.toContext (machine.depth config.counter) (x.after machine)
  /-- An overflow that the computation ends with is one at the limit, unless the host raises its
  own. -/
  overflow (hhosts : config.hosts.OverflowAt config.maxDepth) (fault : Fault)
    (hstop : x.stop? machine = some (.fault fault)) : fault.OverflowsAt config.maxDepth

/-- It is enough to look at a computation that is the same on the machine, and to follow the watched
ones. -/
theorem Contract.disciplined_of_agree {config : Config} {machine : Machine} {x y : Eval Value}
    {watched : Watch → Eval Value} {P : Policy} (hinterrupts : P.interrupts)
    (hmachine : P.PermitsMachine machine) (hsame : x machine = y machine)
    (h : (depth config.toContext (config.hosts.OverflowAt config.maxDepth)
      (machine.depth config.counter)).Agree y y)
    (hwatched : ∀ watch : Watch, watch.Quiet (machine.depth config.counter) config.maxDepth →
      (P.atDepth config.toContext (machine.depth config.counter)).CallAlike
        P.correspondence.ValueAlike x (watched watch)) :
    Disciplined config machine x watched := by
  have hends := (h machine rfl).2
  rw [← hsame] at hends
  exact {
    restored := hends.keeps.1
    unnoticed := fun watch hquiet => P.eq_of_alike_assuming hinterrupts
      (hwatched watch hquiet machine machine ⟨⟨rfl, hmachine⟩, rfl⟩)
    nested := hends.keeps.2
    overflow := fun hhosts fault hfault => hends.allows hfault hhosts fault rfl }

/-- **Depth discipline.**  Where all functions in reach share the context of a program as far as
depths go, and on a machine that is not deeper than the limit, the evaluation of a node, a call and
a program bring the depth back to where it was, evaluate nodes only at depths between there and the
limit, enter them in the order of a walk from the root, and overflow at the limit alone. -/
theorem evaluation_is_disciplined (config : Config) (contexts : Context → Prop)
    (hshared : ∀ context, contexts context → config.toContext.Shares context)
    (machine : Machine) (frame : FrameId)
    (h : ({ context := contexts } : Surroundings).Hold config machine frame)
    (hlimit : machine.depth config.counter ≤ config.maxDepth) :
    let S : Surroundings := { context := contexts }
    (∀ (top : Bool) (node : Node),
      Disciplined config machine (node.eval config top frame)
        fun watch => watch.eval config top node frame) ∧
    (∀ (callee : Value) (args : List Value) (kwargs : List (String × Value)),
      S.Surrounds machine callee → (∀ arg ∈ args, S.Surrounds machine arg) →
        (∀ name value, (name, value) ∈ kwargs → S.Surrounds machine value) →
          Disciplined config machine (callee.callWith config.hosts config.evaluators args kwargs)
            fun watch => callee.callWith config.hosts (watch.evaluators config) args kwargs) ∧
    (∀ (last : Value) (nodes : List Node), S.Surrounds machine last →
      Disciplined config machine (Eval.program config frame last nodes)
        fun watch =>
          Eval.programBy (fun node => watch.eval config true node frame) last nodes) := by
  intro S
  -- no context in reach fails to share the depths, so evaluation goes as if there were none
  have hown : ∀ context, S.context context → S.pin config.toContext context = context :=
    fun _ => Surroundings.pin_eq config.toContext
  have hpin context : config.toContext.Shares (S.pin config.toContext context) :=
    hshared _ (Surroundings.context_pin h.context context)
  have hstart := Nat.le_refl (machine.depth config.counter)
  have hmachine := h.encloses.permitsMachine
  have hframe := h.encloses.frame_policy
  let C := Contract.depth config.toContext (config.hosts.OverflowAt config.maxDepth)
    (machine.depth config.counter)
  have hnode (top : Bool) (node : Node) :
      C.Agree (node.pinned (S.pin config.toContext) config top frame)
        (node.pinned (S.pin config.toContext) config top frame) :=
    Contract.depth_pinned ⟨rfl, rfl, rfl⟩ hpin id hlimit top node frame
  have hcarries : C.simulation.Carries config.hosts (config.pinned (S.pin config.toContext))
      (config.pinned (S.pin config.toContext)) :=
    Contract.depth_carries hpin id hlimit
  refine ⟨fun top node => ?_, fun callee args kwargs hcallee hargs hkwargs => ?_,
    fun last nodes hlast => ?_⟩
  · refine Contract.disciplined_of_agree (P := S.policy machine) trivial hmachine
      (h.eval_eq trivial hown hmachine top node) (hnode top node) fun watch hquiet => ?_
    exact (Policy.watched_eval hshared h.admits hquiet hstart hlimit top
      (Surroundings.policy_permitsNode machine node) hframe).settled
  · refine Contract.disciplined_of_agree (P := S.policy machine) trivial hmachine
      (h.callWith_eq trivial hown hmachine hcallee hargs hkwargs)
      (Simulation.callWith hcarries callee args kwargs) fun watch hquiet => ?_
    have hgiven : Value.AllAlike (S.policy machine).likeness args args :=
      List.forall₂_same.mpr fun arg harg =>
        Surroundings.permitsValue_of_surrounds arg (hargs arg harg)
    exact Correspondence.callWith
      (Policy.watched_carries hshared h.admits hquiet hstart hlimit)
      (Surroundings.permitsValue_of_surrounds callee hcallee) hgiven
      (Policy.permitsBindings_iff.mp (Surroundings.permitsBindings_of_surrounds hkwargs))
  · refine Contract.disciplined_of_agree (P := S.policy machine) trivial hmachine
      (h.program_eq trivial hown hmachine hlast nodes)
      (Simulation.programBy (S := C.simulation) (hnode true) last nodes) fun watch hquiet => ?_
    exact (Policy.watched_program hshared h.admits hquiet hstart hlimit hframe
      (Surroundings.permitsValue_of_surrounds last hlast)
      fun node (_ : node ∈ nodes) => Surroundings.policy_permitsNode machine node).settled

/-- A form inside a form overflows a machine that has room for one node, at that depth. -/
theorem inner_form_overflows_at_limit :
    let config : Config := { maxDepth := 1, trace := true }
    let node : Node := .form [.form [] [] false none] [] false none
    ({ context := fun context => context = config.toContext } : Surroundings).Hold config {} 0 ∧
      (node.eval config true 0).stop? {} = some (.fault (.overflow 1 1 none)) ∧
      Disciplined config {} (node.eval config true 0)
        fun watch => watch.eval config true node 0 := by
  intro config node
  have hold : ({ context := fun context => context = config.toContext } : Surroundings).Hold config
      {} 0 :=
    ⟨rfl, ⟨nofun, nofun⟩, Surroundings.basic_respect _ _⟩
  have hshared : ∀ context, context = config.toContext → config.toContext.Shares context := by
    rintro context rfl
    exact ⟨rfl, rfl, rfl⟩
  exact ⟨hold, rfl,
    (evaluation_is_disciplined config _ hshared {} 0 hold (Nat.zero_le _)).1 true node⟩

end FrameLisp
