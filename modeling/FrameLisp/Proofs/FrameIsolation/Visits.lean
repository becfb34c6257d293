import FrameLisp.Proofs.CallSite
import FrameLisp.Proofs.FrameIsolation
import FrameLisp.Proofs.Visit

/-!
# Frames stay while others are visited

A computation keeps to a contract from its beginning to its end.  What it visits on its way is in
between, so all that the contract assumes must be true there as well: on a machine where it is not,
an evaluator may do what it likes, and a visit that is given up would not be noticed
(`Contract.before_of_made`).  The same goes for the machine on which a form makes its call
(`Evaluation.CallSite.keeps`).

What a contract keeps becomes an assumption when the contract remembers the machine at the start
(`Contract.since`).  So all that is visited below the top level, and all that is called there, finds
the frames of the start as they were.
-/

namespace FrameLisp

/-! ### Contracts on the way -/

namespace Contract

variable {C : Contract} {config : Config} {hosts : Hosts}
  {run : (Context → Evaluator) → Eval Value} {visit : Visit} {machine : Machine}

/-- The computation is the same under evaluators that are the same. -/
def Passes (C : Contract) (hosts : Hosts) (run : (Context → Evaluator) → Eval Value) : Prop :=
  ∀ e e' : Context → Evaluator, C.simulation.Carries hosts e e' → C.Agree (run e) (run e')

theorem passes_evalBy (hsteps : C.Steps config.toContext) (node : Node) (frame : FrameId) :
    C.Passes config.hosts (node.evalBy config false frame) := by
  intro e e' he
  have htop : false = true → C.Writable frame := nofun
  exact hsteps.descends.evalNode hsteps.bounded htop node fun _ _ _ _ => he

/-- It makes no difference whether a visit is given up that the contract does not assume. -/
theorem carries_givingUp {evaluate : Context → Evaluator}
    (he : C.simulation.Carries hosts evaluate evaluate) (hvisit : ¬ C.Before visit.machine)
    (stop : Stop) (last : Machine) :
    C.simulation.Carries hosts evaluate (visit.givingUp evaluate stop last) := by
  refine ⟨fun context node frame machine hbefore => ?_, he.hosts⟩
  have hne : visit ≠ ⟨context, node, frame, machine⟩ := by
    rintro rfl
    exact hvisit hbefore
  rw [Visit.givingUp_of_ne hne]
  exact he.nodes context node frame machine hbefore

theorem before_of_asked (he : C.simulation.Carries hosts config.evaluators config.evaluators)
    (hrun : C.Passes hosts run) (h : C.Before machine)
    (hasked : visit.IsAskedBy run config.evaluators machine) : C.Before visit.machine := by
  by_contra hvisit
  have hends (last : Machine) (hdepth : last.depth = visit.machine.depth)
      (hroom : last.room = visit.machine.room) :
      run config.evaluators machine =
        .error .outOfLevels { last with depth := machine.depth, room := machine.room } := by
    have hagree := hrun _ _ (carries_givingUp he hvisit .outOfLevels last)
    rw [← hasked .outOfLevels last rfl hdepth hroom, (hagree machine h).1]
  exact Visit.not_ends_on_all hends

/-- **What a contract assumes is true of all that is visited.** -/
theorem before_of_made (hsteps : ∀ context, C.Steps context) (hhosts : C.Suits config.hosts)
    (hlevels : C.Allows .outOfLevels) (hrun : C.Passes config.hosts run) (h : C.Before machine)
    (hmade : visit.IsMadeBy config run machine) : C.Before visit.machine := by
  have he : C.simulation.Carries config.hosts config.evaluators config.evaluators :=
    carries_evaluators hsteps hhosts hlevels
  induction hmade with
  | asked hasked => exact before_of_asked he hrun h hasked
  | @inside run machine outer hasked hinside ih =>
    have houter : C.Before outer.machine := before_of_asked he hrun h hasked
    let inside := config.under outer.context
    have hinner : C.Passes inside.hosts (outer.node.evalBy inside false outer.frame) :=
      passes_evalBy (hsteps _) outer.node outer.frame
    exact ih hinner houter

/-- The contract, and what it keeps from a machine on, which becomes an assumption. -/
def since (C : Contract) (start : Machine) : Contract where
  Before machine := C.Before machine ∧ C.Keeps start machine
  Keeps := C.Keeps
  Allows := C.Allows
  Writable := C.Writable
  refl h := C.refl h.1
  trans := C.trans
  before h h' := ⟨C.before h.1 h', C.trans h.2 h'⟩
  change h h' := C.change h.1 h'
  addFrame h := C.addFrame h.1
  define h := C.define h.1
  plain := C.plain
  orAt := C.orAt

end Contract

/-! ### Calls -/

/-- **What a form does before it calls keeps to a contract.** -/
theorem Evaluation.CallSite.keeps {C : Contract} {config : Config}
    {evaluate : Context → Evaluator} {top : Bool} {form : Form} {frame : FrameId}
    {machine last : Machine} {call : Eval Value}
    (he : C.simulation.Carries config.hosts evaluate evaluate) (hbefore : C.Before machine)
    (h : CallSite config evaluate top form frame machine call last) : C.Keeps machine last := by
  have hevaluate {node : Node} {id : FrameId} {value : Value} {m m' : Machine}
      (hm : C.Before m) (hok : evaluate config.toContext node id m = .ok value m') :
      C.Keeps m m' :=
    Contract.Agree.keeps_of_ok (he.nodes config.toContext node id) hm hok
  have harguments {nodes : List Node} {id : FrameId} {values : List Value} {m m' : Machine}
      (hm : C.Before m)
      (hok : Eval.arguments (evaluate config.toContext) id nodes m = .ok values m') :
      C.Keeps m m' :=
    Contract.Agree.keeps_of_ok (Simulation.arguments (he.nodes config.toContext) id nodes) hm hok
  cases h with
  | call hform hhead hpairs hcallee hargs =>
    have hkeeps := hevaluate hbefore hcallee
    exact C.trans hkeeps (harguments (C.before hbefore hkeeps) hargs)
  | keyword hform hkind hunquoted hlookup hcount hargs => exact harguments hbefore hargs
  | member hform hhead hspecial hdot hmethod hnamed haccept htail hreceiver hobject hhas hargs =>
    have hkeeps := hevaluate hbefore hreceiver
    exact C.trans hkeeps (harguments (C.before hbefore hkeeps) hargs)
  | method hform hhead hspecial hdot hmethod hnamed haccept htail hreceiver hfound hargs =>
    have hkeeps := hevaluate hbefore hreceiver
    exact C.trans hkeeps (harguments (C.before hbefore hkeeps) hargs)
  | module hform hhead hspecial htop haccept htail hpath hresolve => exact C.refl hbefore
  | @pattern _ target node nameNode bindings pattern before rest done later body count value lookup
      name machine₁ machine₂ _ hform hhead haccept htail hitems heven hbindings hvalue
      hpattern hlookup hnames hdone hname =>
    -- the frame of the `let`, the targets before, the value, the names before
    obtain ⟨hframe, hwritable⟩ := C.addFrame hbefore (machine.frame frame)
    have hinner := C.before hbefore hframe
    have htargets : C.Keeps _ machine₁ :=
      Contract.Agree.keeps_of_ok (Simulation.bindTargets he hwritable _ before) hinner hbindings
    have hfirst := C.before hinner htargets
    have hsecond := hevaluate hfirst hvalue
    have hthird : C.Keeps machine₂ last :=
      Contract.Agree.keeps_of_ok (Simulation.bindNames he hwritable _ lookup value _ 0 done)
        (C.before hfirst hsecond) hdone
    exact C.trans (C.trans (C.trans hframe htargets) hsecond) hthird

/-! ### Frames -/

section Isolation

variable {config : Config} {start machine machine' : Machine}

/-- **What is visited while nodes are evaluated below the top level finds all frames as they
were.** -/
theorem Visit.isolated_of_body (hwrites : config.hosts.WriteNothing) {visit : Visit}
    {context : Context} {frame : FrameId} {last : Value} {nodes : List Node}
    (hmade : visit.IsMadeBy config (fun e => Eval.body (e context) frame last nodes) start) :
    start.Isolated visit.machine := by
  let C := (Contract.isolation start.frames.size).since start
  have hsteps (context : Context) : C.Steps context := by
    refine ⟨?_, .inr (Contract.panics trivial)⟩
    exact {
      interrupted := trivial
      overflow _ _ _ := trivial
      exhausted _ _ _ := trivial
      inside h _ _ := h
      outside _ _ _ hkeeps := hkeeps
      allows _ := trivial }
  have hhosts : C.Suits config.hosts := hwrites.obey
  have hrun : C.Passes config.hosts fun e => Eval.body (e context) frame last nodes :=
    fun _ _ he => Simulation.body (he.nodes context) frame last nodes
  have hstart : C.Before start := ⟨Nat.le_refl _, Nat.le_refl _, fun _ _ => rfl⟩
  have hbefore : C.Before visit.machine :=
    Contract.before_of_made hsteps hhosts trivial hrun hstart hmade
  exact ⟨hbefore.1, hbefore.2.2⟩

/-- So does what is called. -/
theorem Evaluation.CallSite.isolated (hwrites : config.hosts.WriteNothing) {top : Bool}
    {form : Form} {frame : FrameId} {call : Eval Value}
    (h : CallSite config config.evaluators top form frame machine call machine') :
    machine.Isolated machine' := by
  have hevaluators := Contract.isolation_carries hwrites machine.frames.size
  obtain ⟨hsize, hframe⟩ := h.keeps hevaluators (Nat.le_refl _)
  exact ⟨hsize, hframe⟩

end Isolation

end FrameLisp
