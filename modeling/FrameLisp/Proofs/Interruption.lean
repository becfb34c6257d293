import FrameLisp.Proofs.Reach
import FrameLisp.Proofs.Visit

/-!
# Interruptions

An interruption is asked for from outside, or by the code of the host, and the next node that is to
be evaluated fails with it.  A program handles faults by their class, and classes are values like
others; but the class of interruptions is not bound to any variable, and all that a program can do
with values leads to no class that was not there before.  So from a machine in which it is out of
reach (`Machine.Shields`), it stays out of reach, and no handler handles an interruption.

This asks of the code of the host that it makes no such class and that it passes on the
interruptions of what it calls (`Hosts.PassInterruptions`).
-/

namespace FrameLisp

/-! ### What a program can get at -/

/-- Whether a handler for interruptions can be made with the value: it is their class, or an
exception that has it as its kind. -/
def Value.handlesInterrupts : Value → Bool
  | .errorClass kind => kind = .interrupt
  | .exception _ fault => fault.kind = .interrupt
  | _ => false

/-- No handler for interruptions can be made with anything in reach of the value. -/
def Value.Harmless (machine : Machine) (value : Value) : Prop :=
  ∀ other, value.Reaches machine other → other.handlesInterrupts = false

/-- No handler for interruptions can be made with anything in reach of a program that runs in the
frame. -/
structure Machine.Shields (machine : Machine) (frame : FrameId) : Prop where
  /-- Its variables are harmless. -/
  bound {name : String} {value : Value} (h : (name, value) ∈ machine.frame frame) :
    value.Harmless machine
  /-- So are the modules that it can import. -/
  modules {name : String} {value : Value} (h : (name, value) ∈ machine.modules) :
    value.Harmless machine

/-! ### Harmless surroundings -/

namespace Surroundings

variable {machine : Machine} {frame : FrameId}

/-- No interruption can be handled. -/
def unhandled : Surroundings :=
  { interrupts := False }

theorem unhandled_fits_iff {value : Value} :
    unhandled.Fits value ↔ value.handlesInterrupts = false := by
  cases value with
  | errorClass kind => exact decide_eq_false_iff_not.symm
  | exception ref fault => exact decide_eq_false_iff_not.symm
  | builtin ref b => cases b <;> exact iff_of_true trivial rfl
  | _ => exact iff_of_true trivial rfl

/-- **Harmless values are surrounded by harmless values.** -/
theorem unhandled_surrounds_iff {value : Value} :
    unhandled.Surrounds machine value ↔ value.Harmless machine :=
  forall₂_congr fun _ _ => unhandled_fits_iff

theorem unhandled_encloses_iff : unhandled.Encloses machine frame ↔ machine.Shields frame := by
  constructor
  · exact fun h => ⟨fun hmem => unhandled_surrounds_iff.mp (h.bound hmem),
      fun hmem => unhandled_surrounds_iff.mp (h.modules hmem)⟩
  · exact fun h => ⟨fun hmem => unhandled_surrounds_iff.mpr (h.bound hmem),
      fun hmem => unhandled_surrounds_iff.mpr (h.modules hmem)⟩

end Surroundings

/-- Given harmless values, the code of the host works with harmless values, and it passes on the
interruptions of what it calls. -/
def Hosts.PassInterruptions (hosts : Hosts) (machine : Machine) : Prop :=
  hosts.Respect (Surroundings.unhandled.policy machine).likeness

/-- **The basic host passes interruptions on.** -/
theorem Hosts.basic_passInterruptions (machine : Machine) : basic.PassInterruptions machine :=
  Surroundings.unhandled.basic_respect machine

/-! ### Interruptions pass -/

variable {machine : Machine}

/-- No interruption is handled in a computation that is given evaluators, and none can be by
whatever runs after it. -/
structure PassesInterruptions (config : Config) (machine : Machine) (x : Eval Value)
    (run : (Context → Evaluator) → Eval Value) : Prop where
  /-- This is the computation under the evaluators of the session. -/
  same : run config.evaluators = x
  /-- What was shielded before is shielded after, and so are the frames that are new. -/
  shields {frame : FrameId} (h : machine.Shields frame) : (x.after machine).Shields frame
  /-- The value is harmless. -/
  harmless {value : Value} {last : Machine} (h : x machine = .ok value last) : value.Harmless last
  /-- Whenever a node is evaluated on the way, the frame is shielded. -/
  visits {visit : Visit} (h : visit.IsMadeBy config run machine) :
    visit.machine.Shields visit.frame
  /-- If that is interrupted, so is the computation, and nothing happens in between. -/
  interrupted {visit : Visit} (h : visit.IsMadeBy config run machine) {last : Machine}
    (hvisit : visit.outcome config = .error (.fault .interrupted) last) :
    x machine =
      .error (.fault .interrupted) { last with depth := machine.depth, room := machine.room }

theorem Policy.Follows.passes {config : Config} {run : (Context → Evaluator) → Eval Value}
    {x : Eval Value} (hfollows : (Surroundings.unhandled.policy machine).Follows config.hosts run)
    (hsame : run config.evaluators = x) (hhosts : config.hosts.PassInterruptions machine)
    (hmachine : (Surroundings.unhandled.policy machine).PermitsMachine machine) :
    PassesInterruptions config machine x run := by
  subst hsame
  have hlast := hfollows.permitsMachine hhosts hmachine
  constructor
  case same => rfl
  case shields =>
    intro frame hframe
    have hencloses := Surroundings.unhandled_encloses_iff.mpr hframe
    exact Surroundings.unhandled_encloses_iff.mp
      (Policy.encloses_of_permitsMachine hlast hencloses.frame_policy)
  case harmless =>
    intro value last hvalue
    unfold Eval.after at hlast
    rw [hvalue] at hlast
    exact Surroundings.unhandled_surrounds_iff.mp
      (Policy.surrounds_of_permitsValue hlast (hfollows.permitsValue hhosts hmachine hvalue))
  case visits =>
    intro visit hmade
    have hvisit := hfollows.permitsVisit hhosts hmachine hmade
    exact Surroundings.unhandled_encloses_iff.mp
      (Policy.encloses_of_permitsMachine hvisit.machine hvisit.frame)
  case interrupted =>
    intro visit hmade last hvisit
    exact hfollows.interrupted hhosts hmachine id hmade hvisit

/-- Once an interruption has been asked for, no node is evaluated any more. -/
theorem Node.eval_of_interrupted {config : Config}
    (h : machine.interrupted config.flag = true) (top : Bool) (node : Node) (frame : FrameId) :
    node.eval config top frame machine = .error (.fault .interrupted) machine := by
  rw [Node.eval_eq_evalBy]
  unfold Node.evalBy
  rw [Eval.within_eq, if_pos h]

/-- The class of interruptions is out of reach in a new session. -/
theorem Session.standard_shields (config : Config) (frame : FrameId) :
    (Session.standard config).machine.Shields frame := by
  let P : Policy := { interrupts := False }
  have hmachine : P.PermitsMachine (Session.standard config).machine :=
    Policy.standard_permits config fun _ => trivial
  exact Surroundings.unhandled_encloses_iff.mp
    (Policy.encloses_of_permitsMachine hmachine (show P.frame frame from trivial))

/-- **No program can handle an interruption.**  From a machine in which the class of interruptions
is out of reach, it stays out of reach of all that is evaluated, of all values and of all programs
that follow.  And if the evaluation of any node on the way is interrupted, then so is the whole,
whatever handlers there are around it: the machine is left as it was then, so no node was entered
and no handler has run. -/
theorem Machine.Shields.passesInterruptions {frame : FrameId} (h : machine.Shields frame)
    {config : Config} (hhosts : config.hosts.PassInterruptions machine) :
    (∀ (top : Bool) (node : Node),
      PassesInterruptions config machine (node.eval config top frame)
          (node.evalBy config top frame) ∧
        (machine.interrupted config.flag = true →
          node.eval config top frame machine = .error (.fault .interrupted) machine)) ∧
    (∀ nodes : List Node,
      PassesInterruptions config machine (Eval.program config frame .nil nodes)
        (Eval.programUsing config frame .nil nodes)) ∧
    (∀ (callee : Value) (args : List Value) (kwargs : List (String × Value)),
      callee.Harmless machine → (∀ arg ∈ args, arg.Harmless machine) →
        (∀ name value, (name, value) ∈ kwargs → value.Harmless machine) →
          PassesInterruptions config machine
            (callee.callWith config.hosts config.evaluators args kwargs)
            fun evaluate => callee.callWith config.hosts evaluate args kwargs) ∧
    ∀ settings : Config, (Session.standard settings).machine.Shields Session.root := by
  have hencloses := Surroundings.unhandled_encloses_iff.mpr h
  have hmachine := hencloses.permitsMachine
  have hframe := hencloses.frame_policy
  have hnode := Surroundings.policy_permitsNode (S := Surroundings.unhandled) machine
  have hvalue (value : Value) (hvalue : value.Harmless machine) :=
    Surroundings.permitsValue_of_surrounds value (Surroundings.unhandled_surrounds_iff.mpr hvalue)
  have hcontext : (Surroundings.unhandled.policy machine).context config.toContext := trivial
  refine ⟨fun top node => ⟨?_, fun hinterrupted => ?_⟩, fun nodes => ?_,
    fun callee args kwargs hcallee hargs hkwargs => ?_, fun settings => ?_⟩
  · have hfollows := Policy.follows_evalBy hcontext top (hnode node) hframe
    exact hfollows.passes (Node.eval_eq_evalBy config top node frame).symm hhosts hmachine
  · exact Node.eval_of_interrupted hinterrupted top node frame
  · have hfollows := Policy.follows_programUsing hcontext hframe .nil
      fun node (_ : node ∈ nodes) => hnode node
    exact hfollows.passes (Eval.program_eq_programUsing config frame .nil nodes).symm hhosts
      hmachine
  · have hfollows : (Surroundings.unhandled.policy machine).Follows config.hosts
        fun evaluate => callee.callWith config.hosts evaluate args kwargs :=
      Policy.follows_callWith (hvalue callee hcallee) (fun arg harg => hvalue arg (hargs arg harg))
        fun name value hmem => hvalue value (hkwargs name value hmem)
    exact hfollows.passes rfl hhosts hmachine
  · exact Session.standard_shields settings Session.root

/-- A function of the host asks for an interruption inside of a form that would handle any
exception. The next node is interrupted, and so is the whole, without a look at the handler. -/
theorem Machine.Shields.passesInterruptions_try :
    let machine : Machine :=
      { frames := #[[("Exception", .errorClass .exception),
          ("stop", .builtin 0 (.host "stop" 0 "interrupt"))]] }
    let config : Config := {}
    let word (text : String) : Node := .literal ⟨.identifier, text, default⟩ []
    let form (children : List Node) : Node := .form children [] false none
    let body := form [word "do", form [word "stop"], word "stop"]
    let node := form [word "try", body, form [word "catch", word "Exception", word "e", word "e"]]
    machine.Shields 0 ∧ config.hosts.PassInterruptions machine ∧
      ∃ visit : Visit, visit.IsMadeBy config (node.evalBy config true 0) machine ∧
        machine.interrupted 0 = false ∧ visit.machine.interrupted 0 = true ∧
        node.eval config true 0 machine = .error (.fault .interrupted)
          { visit.machine with depth := machine.depth, room := machine.room } := by
  intro machine config word form body node
  have hshields : machine.Shields 0 := by
    refine Surroundings.unhandled_encloses_iff.mp (Surroundings.encloses_of_holds ?_ 0)
    refine .of_one_frame rfl rfl fun name value hmem part hpart => ?_
    rcases List.mem_cons.mp hmem with hfirst | hrest
    · obtain ⟨-, rfl⟩ := Prod.mk.inj hfirst
      rw [hpart.eq_whole rfl rfl rfl]
      exact Surroundings.unhandled_fits_iff.mpr rfl
    · obtain ⟨-, rfl⟩ := Prod.mk.inj (List.mem_singleton.mp hrest)
      rw [hpart.eq_whole rfl rfl rfl]
      exact Surroundings.unhandled_fits_iff.mpr rfl
  have hhosts : config.hosts.PassInterruptions machine := Hosts.basic_passInterruptions machine
  let first := machine.inside config.toContext node
  let second := first.inside config.toContext body
  have hclass : (word "Exception").eval config false 0 first =
      .ok (.errorClass .exception) first :=
    Node.eval_name rfl rfl ⟨rfl, by decide, by decide⟩ rfl
  have hbody : (⟨config.toContext, body, 0, first⟩ : Visit).IsAskedBy (node.evalBy config true 0)
      config.evaluators machine := by
    refine Visit.isAskedBy_within ⟨rfl, by decide, by decide⟩ ?_
    refine Visit.isAskedBy_after (by simp [body, form, word]) hclass ?_
    exact Visit.isAskedBy_handling _ _ (Visit.isAskedBy_self _ _)
  obtain ⟨value, last, hrun, hflag⟩ : ∃ value last,
      (form [word "stop"]).eval config false 0 second = .ok value last ∧
        last.interrupted 0 = true := by
    have hstop : ((form [word "stop"]).eval config false 0).stop? second = none := by
      decide +kernel
    obtain ⟨value, hrun⟩ := Eval.exists_eq_ok_of_stop? hstop
    exact ⟨value, _, hrun, by decide +kernel⟩
  have hname : (⟨config.toContext, word "stop", 0, last⟩ : Visit).IsAskedBy
      (body.evalBy config false 0) config.evaluators first := by
    refine Visit.isAskedBy_within ⟨rfl, by decide, by decide⟩ ?_
    refine Visit.isAskedBy_after (by simp [form, word]) hrun ?_
    exact Visit.isAskedBy_bind config.toContext (word "stop") 0
      (fun e value => Eval.body (e config.toContext) 0 value []) _ last
  have hmade : (⟨config.toContext, word "stop", 0, last⟩ : Visit).IsMadeBy config
      (node.evalBy config true 0) machine := .inside hbody (.asked hname)
  have hpasses := ((hshields.passesInterruptions hhosts).1 true node).1
  exact ⟨hshields, hhosts, _, hmade, rfl, hflag,
    hpasses.interrupted hmade (Node.eval_of_interrupted hflag false _ 0)⟩

end FrameLisp
