import FrameLisp.Proofs.Policy

/-!
# Visits

On its way, the evaluation of a node evaluates others: parts of the node, and the bodies of the
functions that are called there.  Each of these is a `Visit`, of a node in a frame, under the
context it belongs to and on the machine as it is by then.

All that evaluation is made of leaves the nodes inside to an evaluator, so it can be asked what
happens if that evaluator gives up on a single visit, in a way that nothing handles.  If the visit
is not made, nothing happens; if it is made, that is the end of the computation (`Visit.IsAskedBy`).
The node of a visit is evaluated in the same way, and visits others in turn (`Visit.IsMadeBy`).

Under a policy this says two things.  Every visit finds a machine that is permitted, as an evaluator
may do what it likes on all others (`Policy.Follows.permitsVisit`).  And where no interruption can
be handled, an interrupted visit may as well be given up: the computation ends with it, and the
machine is left as the visit has left it, but for the depth and the room
(`Policy.Follows.interrupted`).
-/

namespace FrameLisp

/-! ### Nodes that have a value -/

/-- A name has the value of its variable, and nothing changes. -/
theorem Evaluation.evalToken_name {token : Token} {properties : List String} {frame : FrameId}
    {machine : Machine} {value : Value} (hkind : token.kind = .identifier)
    (hunquoted : properties.contains quotedProperty = false)
    (hlookup : machine.lookup? frame token.text = some value) :
    evalToken token properties frame machine = .ok value machine := by
  have hnone : token.constant? = .ok none := by
    unfold Token.constant?
    rw [hkind]
  unfold evalToken
  rw [hnone, hunquoted, hkind]
  show Eval.orFail _ (machine.lookup? frame token.text) machine = _
  rw [hlookup]
  rfl

/-- A node may be entered: no interruption was asked for, and neither the depth limit nor the end of
the stack is reached. -/
structure Machine.Admits (machine : Machine) (context : Context) : Prop where
  /-- No interruption was asked for. -/
  free : machine.interrupted context.flag = false
  /-- The depth limit is not reached. -/
  shallow : machine.depth context.counter < context.maxDepth
  /-- There is room for another level. -/
  room : machine.room ≠ 0

/-- What may be entered is. -/
theorem Machine.Admits.within {machine : Machine} {context : Context} (h : machine.Admits context)
    {α : Type} (node : Node) (x : Eval α) :
    Eval.within context node x machine =
      match x (machine.inside context node) with
      | .ok a machine' => .ok a (machine'.outside context machine.room)
      | .error stop machine' => .error stop (machine'.outside context machine.room) := by
  have hwithin := Eval.within_eq context node x machine
  rw [h.free, if_neg Bool.false_ne_true, if_neg (Nat.not_le.mpr h.shallow), if_neg h.room]
    at hwithin
  exact hwithin

/-- A node has the value that comes of it one level deeper. -/
theorem Node.eval_ok {config : Config} {top : Bool} {node : Node} {frame : FrameId}
    {machine last : Machine} {value : Value} (hadmits : machine.Admits config.toContext)
    (h : Evaluation.evalNode config config.evaluators top node frame
      (machine.inside config.toContext node) = .ok value last) :
    node.eval config top frame machine =
      .ok value (last.outside config.toContext machine.room) := by
  rw [Node.eval_eq_evalBy]
  unfold evalBy
  rw [hadmits.within, h]

/-- A name that is entered has the value of its variable. -/
theorem Node.eval_name {config : Config} {top : Bool} {token : Token} {properties : List String}
    {frame : FrameId} {machine : Machine} {value : Value} (hkind : token.kind = .identifier)
    (hunquoted : properties.contains quotedProperty = false)
    (hadmits : machine.Admits config.toContext)
    (hlookup : machine.lookup? frame token.text = some value) :
    (literal token properties).eval config top frame machine =
      .ok value ((machine.inside config.toContext (literal token properties)).outside
        config.toContext machine.room) :=
  Node.eval_ok hadmits (Evaluation.evalToken_name hkind hunquoted hlookup)

/-- A node that has a value was entered, and the value came of it one level deeper. -/
theorem Node.of_eval_ok {config : Config} {top : Bool} {node : Node} {frame : FrameId}
    {machine last : Machine} {value : Value}
    (h : node.eval config top frame machine = .ok value last) :
    machine.Admits config.toContext ∧
      ∃ inner, Evaluation.evalNode config config.evaluators top node frame
        (machine.inside config.toContext node) = .ok value inner ∧
          last = inner.outside config.toContext machine.room := by
  rw [Node.eval_eq_evalBy] at h
  unfold evalBy at h
  rw [Eval.within_eq] at h
  split at h
  · cases h
  rename_i hfree
  split at h
  · cases h
  rename_i hshallow
  split at h
  · cases h
  rename_i hroom
  refine ⟨⟨by simpa using hfree, Nat.lt_of_not_le hshallow, hroom⟩, ?_⟩
  generalize Evaluation.evalNode config config.evaluators top node frame
    (machine.inside config.toContext node) = result at h
  cases result with
  | ok a inner =>
    cases h
    exact ⟨inner, rfl, rfl⟩
  | error stop inner => cases h

/-- A node that has a value leaves the depth and the room as they were. -/
theorem Node.steady_of_eval_ok {config : Config} {top : Bool} {node : Node} {frame : FrameId}
    {machine last : Machine} {value : Value}
    (h : node.eval config top frame machine = .ok value last) :
    last.room = machine.room ∧ last.depth = machine.depth := by
  have hsteady := Eval.Steady.node config top node frame machine
  unfold Eval.after at hsteady
  rw [h] at hsteady
  exact hsteady

/-! ### Visits -/

/-- The evaluation of a node in a frame, under a context and on a machine. -/
structure Visit where
  /-- The context. -/
  context : Context
  /-- The node. -/
  node : Node
  /-- The frame. -/
  frame : FrameId
  /-- The machine that is found. -/
  machine : Machine

namespace Visit

/-- What the evaluation gives. -/
def outcome (visit : Visit) (config : Config) : EStateM.Result Stop Machine Value :=
  config.evaluators visit.context visit.node visit.frame visit.machine

open Classical in
/-- Evaluates nodes like another evaluator, but for one visit, which is given up and leaves a given
machine. -/
noncomputable def givingUp (visit : Visit) (evaluate : Context → Evaluator) (stop : Stop)
    (last : Machine) : Context → Evaluator :=
  fun context node frame machine =>
    if visit = ⟨context, node, frame, machine⟩ then .error stop last
    else evaluate context node frame machine

/-- The computation makes a visit by way of its evaluators: if they give it up, that is the end of
the computation. -/
def IsAskedBy (visit : Visit) (run : (Context → Evaluator) → Eval Value)
    (evaluate : Context → Evaluator) (machine : Machine) : Prop :=
  ∀ (stop : Stop) (last : Machine), stop.isFault = false → last.depth = visit.machine.depth →
    last.room = visit.machine.room →
      run (visit.givingUp evaluate stop last) machine =
        .error stop { last with depth := machine.depth, room := machine.room }

/-- The computation makes a visit, by way of its evaluators or inside of another visit. -/
inductive IsMadeBy (config : Config) (visit : Visit) :
    ((Context → Evaluator) → Eval Value) → Machine → Prop
  /-- The visit is asked for. -/
  | asked {run : (Context → Evaluator) → Eval Value} {machine : Machine}
    (h : visit.IsAskedBy run config.evaluators machine) : IsMadeBy config visit run machine
  /-- A visit is asked for that makes the visit. -/
  | inside {run : (Context → Evaluator) → Eval Value} {machine : Machine} {outer : Visit}
    (h : outer.IsAskedBy run config.evaluators machine)
    (hinside : IsMadeBy config visit
      (outer.node.evalBy (config.under outer.context) false outer.frame) outer.machine) :
    IsMadeBy config visit run machine

theorem outcome_eq_evalBy (visit : Visit) (config : Config) :
    visit.outcome config =
      visit.node.evalBy (config.under visit.context) false visit.frame config.evaluators
        visit.machine := by
  unfold outcome Config.evaluators
  rw [Node.eval_eq_evalBy]
  rfl

theorem givingUp_self (visit : Visit) (evaluate : Context → Evaluator) (stop : Stop)
    (last : Machine) :
    visit.givingUp evaluate stop last visit.context visit.node visit.frame visit.machine =
      .error stop last :=
  if_pos rfl

theorem givingUp_of_ne {visit : Visit} {context : Context} {node : Node} {frame : FrameId}
    {machine : Machine} (h : visit ≠ ⟨context, node, frame, machine⟩)
    (evaluate : Context → Evaluator) (stop : Stop) (last : Machine) :
    visit.givingUp evaluate stop last context node frame machine =
      evaluate context node frame machine :=
  if_neg h

/-- A computation ends on one machine, so its end is not whatever a visit that is given up
leaves. -/
theorem not_ends_on_all {result : EStateM.Result Stop Machine Value} {stop : Stop}
    {visit : Visit} {machine : Machine}
    (h : ∀ last : Machine, last.depth = visit.machine.depth → last.room = visit.machine.room →
      result = .error stop { last with depth := machine.depth, room := machine.room }) : False := by
  have hfirst := h { visit.machine with nextRef := 0 } rfl rfl
  have hsecond := h { visit.machine with nextRef := 1 } rfl rfl
  rw [hfirst] at hsecond
  injection hsecond with _ hsame
  have hrefs : 0 = 1 := congrArg Machine.nextRef hsame
  exact absurd hrefs Nat.zero_ne_one

/-- What is evaluated is asked for. -/
theorem isAskedBy_self (visit : Visit) (evaluate : Context → Evaluator) :
    visit.IsAskedBy (fun e => e visit.context visit.node visit.frame) evaluate visit.machine := by
  intro stop last _ hdepth hroom
  rw [← hdepth, ← hroom]
  exact visit.givingUp_self evaluate stop last

/-- What is evaluated first is asked for. -/
theorem isAskedBy_bind (context : Context) (node : Node) (frame : FrameId)
    (f : (Context → Evaluator) → Value → Eval Value) (evaluate : Context → Evaluator)
    (machine : Machine) :
    (⟨context, node, frame, machine⟩ : Visit).IsAskedBy (fun e => e context node frame >>= f e)
      evaluate machine := by
  intro stop last hfatal hdepth hroom
  have hself :=
    isAskedBy_self ⟨context, node, frame, machine⟩ evaluate stop last hfatal hdepth hroom
  exact Eval.bind_error hself

/-- So is what is asked for after another node, if that has a value. -/
theorem isAskedBy_after {config : Config} {visit : Visit} {context : Context} {node : Node}
    {frame : FrameId} {run : (Context → Evaluator) → Value → Eval Value} {machine last : Machine}
    {value : Value} (hne : visit.node ≠ node)
    (hnode : node.eval (config.under context) false frame machine = .ok value last)
    (h : visit.IsAskedBy (fun e => run e value) config.evaluators last) :
    visit.IsAskedBy (fun e => e context node frame >>= run e) config.evaluators machine := by
  intro stop final hfatal hdepth hroom
  have hother : visit ≠ ⟨context, node, frame, machine⟩ := fun heq => hne (congrArg Visit.node heq)
  have hgoes : visit.givingUp config.evaluators stop final context node frame machine =
      .ok value last := by
    rw [givingUp_of_ne hother]
    exact hnode
  obtain ⟨hsame, hlevel⟩ := Node.steady_of_eval_ok hnode
  have hends := h stop final hfatal hdepth hroom
  rw [hsame, hlevel] at hends
  exact (Eval.bind_ok hgoes).trans hends

/-- No handler is asked about a visit that is given up. -/
theorem isAskedBy_handling {visit : Visit} {run : (Context → Evaluator) → Eval Value}
    (selects : Fault → Bool) (handler : (Context → Evaluator) → Fault → Eval Value)
    {evaluate : Context → Evaluator} {machine : Machine}
    (h : visit.IsAskedBy run evaluate machine) :
    visit.IsAskedBy (fun e => Eval.handling selects (handler e) (run e)) evaluate machine := by
  intro stop last hfatal hdepth hroom
  have hends := h stop last hfatal hdepth hroom
  dsimp only
  generalize run (visit.givingUp evaluate stop last) = x at hends ⊢
  unfold Eval.handling
  rw [hends]
  cases stop with
  | fault fault => cases hfatal
  | outOfBounds => rfl
  | outOfLevels => rfl

/-- What is asked for inside of a node is asked for by its evaluation, if that goes inside. -/
theorem isAskedBy_within {context : Context} {node : Node} {visit : Visit}
    {run : (Context → Evaluator) → Eval Value} {evaluate : Context → Evaluator} {machine : Machine}
    (hadmits : machine.Admits context)
    (h : visit.IsAskedBy run evaluate (machine.inside context node)) :
    visit.IsAskedBy (fun e => Eval.within context node (run e)) evaluate machine := by
  intro stop last hfatal hdepth hroom
  have hinside := h stop last hfatal hdepth hroom
  have hback : (machine.inside context node).depth.set context.counter
      ((machine.inside context node).depth context.counter - 1) = machine.depth := by
    simp [Machine.inside]
  dsimp only
  rw [hadmits.within, hinside]
  unfold Machine.outside Machine.leave
  dsimp only
  rw [hback]

end Visit

/-! ### Visits under a policy -/

namespace Policy

variable {P : Policy} {config : Config} {run : (Context → Evaluator) → Eval Value}
  {machine : Machine} {visit : Visit}

variable (P) in
/-- The computation stays within the policy as far as its evaluators do. -/
structure Follows (hosts : Hosts) (run : (Context → Evaluator) → Eval Value) : Prop where
  /-- Under evaluators that go alike it goes alike. -/
  alike {e e' : Context → Evaluator} (he : P.correspondence.Carries hosts e e') :
    P.correspondence.CallAlike P.correspondence.ValueAlike (run e) (run e')

variable (P) in
/-- All that the visit can get hold of is permitted. -/
structure PermitsVisit (visit : Visit) : Prop where
  /-- The context is permitted. -/
  context : P.context visit.context
  /-- The node is permitted. -/
  node : P.PermitsNode visit.node
  /-- The frame is one that functions may be over. -/
  frame : P.frame visit.frame
  /-- The machine is permitted. -/
  machine : P.PermitsMachine visit.machine

/-! ### What follows a policy -/

theorem follows_evalBy (hcontext : P.context config.toContext) (top : Bool) {node : Node}
    (hnode : P.PermitsNode node) {frame : FrameId} (hframe : P.frame frame) :
    P.Follows config.hosts (node.evalBy config top frame) where
  alike he := by
    have hsame : P.correspondence.context config.toContext config.toContext := ⟨rfl, hcontext⟩
    exact (P.enters.evalBy hsame he top hnode ⟨rfl, hframe⟩).settled

theorem follows_programUsing (hcontext : P.context config.toContext) {frame : FrameId}
    (hframe : P.frame frame) {last : Value} (hlast : P.PermitsValue last) {nodes : List Node}
    (h : ∀ node ∈ nodes, P.PermitsNode node) :
    P.Follows config.hosts (Eval.programUsing config frame last nodes) where
  alike {e e'} he := by
    have hsame : P.correspondence.context config.toContext config.toContext := ⟨rfl, hcontext⟩
    have hrun : ∀ {node node' : Node}, node.Alike P.likeness node' →
        P.correspondence.Alike P.correspondence.ValueAlike (node.evalBy config true frame e)
          (node'.evalBy config true frame e') :=
      fun hnode => P.enters.evalBy hsame he true hnode ⟨rfl, hframe⟩
    exact (Correspondence.programBy P.reports hrun hlast (permitsNodes_iff.mpr h)).settled

theorem follows_callWith {hosts : Hosts} {callee : Value} (hcallee : P.PermitsValue callee)
    {args : List Value} (hargs : ∀ arg ∈ args, P.PermitsValue arg) {kwargs : Bindings String Value}
    (hkwargs : P.PermitsBindings kwargs) :
    P.Follows hosts fun e => callee.callWith hosts e args kwargs where
  alike he := Correspondence.callWith he hcallee (List.forall₂_same.mpr hargs)
    (permitsBindings_iff.mp hkwargs)

/-! ### Visits are permitted -/

theorem carries (hhosts : config.hosts.Respect P.likeness) :
    P.correspondence.Carries config.hosts config.evaluators config.evaluators := by
  have hcarries : P.correspondence.Carries config.hosts config.evaluators
      (config.under config.toContext).evaluators := P.enters.carries hhosts
  exact hcarries

/-- What a permitted visit gives is permitted. -/
theorem PermitsVisit.outcome (h : P.PermitsVisit visit)
    (hhosts : config.hosts.Respect P.likeness) : P.PermitsOutcome (visit.outcome config) :=
  permitsOutcome_of_alike
    ((carries hhosts).nodes ⟨rfl, h.context⟩ h.node ⟨rfl, h.frame⟩ _ _ ⟨rfl, h.machine⟩)

namespace Follows

variable (h : P.Follows config.hosts run) (hhosts : config.hosts.Respect P.likeness)
  (hmachine : P.PermitsMachine machine)

include h hhosts hmachine

theorem permitsMachine : P.PermitsMachine ((run config.evaluators).after machine) :=
  permitsMachine_after (h.alike (carries hhosts) machine machine ⟨rfl, hmachine⟩)

theorem permitsValue {value : Value} {last : Machine}
    (hvalue : run config.evaluators machine = .ok value last) : P.PermitsValue value := by
  have houtcome := h.alike (carries hhosts) machine machine ⟨rfl, hmachine⟩
  rw [hvalue] at houtcome
  cases houtcome with
  | ok hvalue hm => exact hvalue

omit hhosts in
/-- However a visit is given up, the computation ends with it. -/
theorem error_of_asked (hasked : visit.IsAskedBy run config.evaluators machine) {last : Machine}
    (hdepth : last.depth = visit.machine.depth) (hroom : last.room = visit.machine.room)
    (halike : ∀ stop : Stop, stop.isFault = false →
      P.correspondence.Carries config.hosts config.evaluators
        (visit.givingUp config.evaluators stop last)) :
    run config.evaluators machine =
      .error (.fault .interrupted) { last with depth := machine.depth, room := machine.room } := by
  have hends : ∀ stop : Stop, stop.isFault = false →
      ∃ stop', P.correspondence.CallStopAlike stop' stop ∧ run config.evaluators machine =
        .error stop' { last with depth := machine.depth, room := machine.room } := by
    intro stop hfatal
    have houtcome := h.alike (halike stop hfatal) machine machine ⟨rfl, hmachine⟩
    rw [hasked stop last hfatal hdepth hroom] at houtcome
    generalize run config.evaluators machine = result at houtcome
    cases houtcome with
    | error hstop hm =>
      rw [← hm.1]
      exact ⟨_, hstop, rfl⟩
  obtain ⟨first, hfirst, hrun⟩ := hends .outOfBounds rfl
  obtain ⟨second, hsecond, hrun'⟩ := hends .outOfLevels rfl
  rw [hrun] at hrun' ⊢
  cases hrun'
  -- the computation itself ends in one way, which is like two that have nothing else in common
  cases hfirst with
  | settled hfirst =>
    cases hfirst with
    | interrupted hinterruption => rfl
    | outOfBounds =>
      cases hsecond with
      | settled hsecond => cases hsecond

/-- A visit that is asked for is permitted: on any other, the evaluators may leave what they
like. -/
theorem permitsVisit_of_asked (hasked : visit.IsAskedBy run config.evaluators machine) :
    P.PermitsVisit visit := by
  by_contra hvisit
  have halike (stop : Stop) (last : Machine) : P.correspondence.Carries config.hosts
      config.evaluators (visit.givingUp config.evaluators stop last) := by
    refine ⟨?_, hhosts⟩
    rintro context context' ⟨rfl, hcontext⟩ node node' frame frame' hnode ⟨rfl, hframe⟩ m m' hmm
    obtain rfl := node_eq hnode
    obtain ⟨rfl, hm⟩ := hmm
    have hne : visit ≠ ⟨context', node', frame', m'⟩ := by
      rintro rfl
      exact hvisit ⟨hcontext, hnode, hframe, hm⟩
    rw [Visit.givingUp_of_ne hne]
    exact (carries hhosts).nodes ⟨rfl, hcontext⟩ hnode ⟨rfl, hframe⟩ m' m' ⟨rfl, hm⟩
  exact Visit.not_ends_on_all fun last hdepth hroom =>
    h.error_of_asked hmachine hasked hdepth hroom fun stop _ => halike stop last

omit h hmachine in
/-- **All that a computation visits is permitted.** -/
theorem permitsVisit (h : P.Follows config.hosts run) (hmachine : P.PermitsMachine machine)
    (hmade : visit.IsMadeBy config run machine) : P.PermitsVisit visit := by
  induction hmade with
  | asked hasked => exact h.permitsVisit_of_asked hhosts hmachine hasked
  | @inside run machine outer hasked hinside ih =>
    have houter := h.permitsVisit_of_asked hhosts hmachine hasked
    have hcontext : P.context (config.under outer.context).toContext := houter.context
    exact ih (follows_evalBy hcontext false houter.node houter.frame) houter.machine

/-! ### Interruptions -/

theorem interrupted_of_asked (hinterrupts : ¬ P.interrupts)
    (hasked : visit.IsAskedBy run config.evaluators machine) {last : Machine}
    (hvisit : visit.outcome config = .error (.fault .interrupted) last) :
    run config.evaluators machine =
      .error (.fault .interrupted) { last with depth := machine.depth, room := machine.room } := by
  have hpermits := h.permitsVisit_of_asked hhosts hmachine hasked
  have houtcome := hpermits.outcome hhosts
  have hsteady := Eval.Steady.node (config.under visit.context) false visit.node visit.frame
    visit.machine
  change config.evaluators visit.context visit.node visit.frame visit.machine = _ at hvisit
  unfold Visit.outcome at houtcome
  unfold Eval.after at hsteady
  unfold Config.evaluators at hvisit houtcome
  rw [hvisit] at houtcome hsteady
  have hlast : P.PermitsMachine last := houtcome.2
  refine h.error_of_asked hmachine hasked hsteady.2 hsteady.1 fun stop hfatal =>
    ⟨?_, hhosts⟩
  rintro context context' ⟨rfl, hcontext⟩ node node' frame frame' hnode ⟨rfl, hframe⟩ m m' hmm
  obtain rfl := node_eq hnode
  obtain ⟨rfl, hm⟩ := hmm
  by_cases hne : visit = ⟨context', node', frame', m'⟩
  · -- this is the visit, which is interrupted or given up
    subst hne
    rw [Visit.givingUp_self]
    show P.correspondence.OutcomeAlike _ _ (node'.eval (config.under context') false frame' m') _
    rw [hvisit]
    exact .error (.interrupted (.inr ⟨hfatal, hinterrupts⟩)) ⟨rfl, hlast⟩
  · rw [Visit.givingUp_of_ne hne]
    exact (carries hhosts).nodes ⟨rfl, hcontext⟩ hnode ⟨rfl, hframe⟩ m' m' ⟨rfl, hm⟩

omit h hmachine in
/-- **An interrupted visit interrupts the computation**, if no interruption can be handled.  The
machine is left as the visit has left it, but for the depth and the room. -/
theorem interrupted (h : P.Follows config.hosts run) (hmachine : P.PermitsMachine machine)
    (hinterrupts : ¬ P.interrupts) (hmade : visit.IsMadeBy config run machine) {last : Machine}
    (hvisit : visit.outcome config = .error (.fault .interrupted) last) :
    run config.evaluators machine =
      .error (.fault .interrupted) { last with depth := machine.depth, room := machine.room } := by
  induction hmade with
  | asked hasked => exact h.interrupted_of_asked hhosts hmachine hinterrupts hasked hvisit
  | @inside run machine outer hasked hinside ih =>
    have houter := h.permitsVisit_of_asked hhosts hmachine hasked
    have hcontext : P.context (config.under outer.context).toContext := houter.context
    have hinner := ih (follows_evalBy hcontext false houter.node houter.frame) houter.machine
    rw [← Visit.outcome_eq_evalBy] at hinner
    have hends := h.interrupted_of_asked hhosts hmachine hinterrupts hasked hinner
    exact hends

end Follows

end Policy

end FrameLisp
