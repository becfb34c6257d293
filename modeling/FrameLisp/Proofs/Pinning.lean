import FrameLisp.Proofs.Reach

/-!
# Evaluation under contexts that are known

A contract holds of an evaluation if it holds under every context that a function may have been made
in.  Often it is known only of the contexts in reach of the program.  So evaluation is compared with
one that does as if every function had been made under a context that is known (`Node.pinned`), for
which the contract can be proved without a look at what is in reach.  If the contexts in reach are
ones that are known, there is no difference (`Surroundings.Hold.eval_eq`).
-/

namespace FrameLisp

/-- Evaluates a node as if every function had been made under the context that `pin` gives for its
own. -/
def Node.pinned (pin : Context → Context) (config : Config) (top : Bool) (node : Node)
    (frame : FrameId) : Eval Value :=
  fun machine => node.evalPinned pin config machine.room top frame machine

/-- How nodes are evaluated then, below the top level. -/
def Config.pinned (pin : Context → Context) (config : Config) (context : Context) : Evaluator :=
  fun node frame => node.pinned pin (config.under (pin context)) false frame

namespace Contract

variable {C : Contract} {pin : Context → Context} {config : Config}

/-- A contract that holds inside of nodes under the contexts that are known holds of evaluation
under them. -/
theorem pinned (hconfig : C.Steps config.toContext) (hpin : ∀ context, C.Steps (pin context))
    (hhosts : C.Suits config.hosts) (hlevels : C.Allows .outOfLevels) {top : Bool} {frame : FrameId}
    (htop : top = true → C.Writable frame) (node : Node) :
    C.Agree (node.pinned pin config top frame) (node.pinned pin config top frame) :=
  fun machine => evalPinned hconfig hpin hhosts hlevels machine.room htop node machine

theorem carries_pinned (hpin : ∀ context, C.Steps (pin context)) (hhosts : C.Suits config.hosts)
    (hlevels : C.Allows .outOfLevels) :
    C.simulation.Carries config.hosts (config.pinned pin) (config.pinned pin) where
  nodes context node frame := by
    have hsteps : C.Steps (config.under (pin context)).toContext := hpin context
    have hsuits : C.Suits (config.under (pin context)).hosts := hhosts
    have htop : false = true → C.Writable frame := nofun
    have hnode := pinned hsteps hpin hsuits hlevels htop node
    exact hnode
  hosts := hhosts

end Contract

namespace Policy

variable {P : Policy} {pin : Context → Context} {config : Config}

/-- Where every permitted context is its own, evaluation with contexts that are known goes alike. -/
theorem evalPinned_alike (hP : P.Admits config) (hpin : ∀ context, P.context context →
    pin context = context) (levels : Nat) (top : Bool) {node : Node} (hnode : P.PermitsNode node)
    {frame : FrameId} (hframe : P.frame frame) :
    P.correspondence.Alike P.correspondence.ValueAlike (node.evalAt config levels top frame)
      (node.evalPinned pin config levels top frame) := by
  induction levels generalizing config top node frame with
  | zero => exact P.enters.within hP.contextAlike hnode (.throw .outOfLevels)
  | succ levels ih =>
    have hcontext := P.enters.contextAlike hP.contextAlike
    refine P.enters.within hP.contextAlike hnode
      (Correspondence.evalNode hcontext ⟨?_, hP.hosts⟩ top hnode ⟨rfl, hframe⟩)
    -- a function that is called was made in a permitted context, and that one is its own
    rintro context context' ⟨rfl, hpermits⟩ inner inner' frame frame' hinner ⟨rfl, hframe⟩
    obtain rfl := node_eq hinner
    have hinside : P.Admits (config.under context') := ⟨hpermits, hP.hosts⟩
    dsimp only
    rw [hpin context' hpermits]
    exact ih hinside false hinner hframe

theorem pinned_alike (hP : P.Admits config) (hpin : ∀ context, P.context context →
    pin context = context) (top : Bool) {node : Node} (hnode : P.PermitsNode node)
    {frame : FrameId} (hframe : P.frame frame) :
    P.correspondence.Alike P.correspondence.ValueAlike (node.eval config top frame)
      (node.pinned pin config top frame) := by
  rintro m m' ⟨rfl, hm⟩
  exact evalPinned_alike hP hpin _ top hnode hframe _ _ ⟨rfl, hm⟩

theorem carries_pinned (hP : P.Admits config) (hpin : ∀ context, P.context context →
    pin context = context) :
    P.correspondence.Carries config.hosts config.evaluators (config.pinned pin) := by
  refine ⟨?_, hP.hosts⟩
  rintro context context' ⟨rfl, hpermits⟩ inner inner' frame frame' hinner ⟨rfl, hframe⟩
  obtain rfl := node_eq hinner
  have hinside : P.Admits (config.under context') := ⟨hpermits, hP.hosts⟩
  unfold Config.pinned
  rw [hpin context' hpermits]
  exact pinned_alike hinside hpin false hinner hframe

end Policy

namespace Surroundings

variable {S : Surroundings}

open Classical in
/-- A context that may be around as it is; for any other one, a context that stands in. -/
noncomputable def pin (S : Surroundings) (other context : Context) : Context :=
  if S.context context then context else other

theorem pin_eq (other : Context) {context : Context} (h : S.context context) :
    S.pin other context = context :=
  if_pos h

theorem context_pin {other : Context} (h : S.context other) (context : Context) :
    S.context (S.pin other context) := by
  by_cases hcontext : S.context context
  · rw [pin_eq other hcontext]
    exact hcontext
  · rw [show S.pin other context = other from if_neg hcontext]
    exact h

end Surroundings

namespace Surroundings.Hold

variable {S : Surroundings} {pin : Context → Context} {config : Config} {machine later : Machine}
  {frame : FrameId}

section

variable (h : S.Hold config machine frame) (hinterrupts : S.interrupts)
  (hpin : ∀ context, S.context context → pin context = context)
  (hlater : (S.policy machine).PermitsMachine later)

include h hinterrupts hpin hlater

/-- **Where the contexts in reach are known, evaluation goes as under them**, also on a later
machine with nothing else in reach. -/
theorem eval_eq (top : Bool) (node : Node) :
    node.eval config top frame later = node.pinned pin config top frame later :=
  (Policy.eq_of_alike hinterrupts
    ((Policy.pinned_alike h.admits hpin top (policy_permitsNode machine node)
      h.encloses.frame_policy).settled _ _ ⟨rfl, hlater⟩)).symm

theorem callWith_eq {callee : Value} (hcallee : S.Surrounds machine callee) {args : List Value}
    (hargs : ∀ arg ∈ args, S.Surrounds machine arg) {kwargs : List (String × Value)}
    (hkwargs : ∀ name value, (name, value) ∈ kwargs → S.Surrounds machine value) :
    callee.callWith config.hosts config.evaluators args kwargs later =
      callee.callWith config.hosts (config.pinned pin) args kwargs later := by
  have halike := Correspondence.callWith (Policy.carries_pinned h.admits hpin)
    (permitsValue_of_surrounds callee hcallee)
    (List.forall₂_same.mpr fun arg harg => permitsValue_of_surrounds arg (hargs arg harg))
    (Policy.permitsBindings_iff.mp (permitsBindings_of_surrounds hkwargs))
  exact (Policy.eq_of_alike hinterrupts (halike later later ⟨rfl, hlater⟩)).symm

theorem objectCall_eq {value : Value} (hvalue : S.Surrounds machine value) {object : Object}
    (hobject : value.object? = some object) {name : String}
    (hhas : object.has config.hosts name = true) {args : List Value}
    (hargs : ∀ arg ∈ args, S.Surrounds machine arg) :
    object.call config.hosts config.evaluators name args later =
      object.call config.hosts (config.pinned pin) name args later := by
  have hself : (S.policy machine).correspondence.ObjectAlike object object := by
    have hrel := Correspondence.object?_alike (C := (S.policy machine).correspondence)
      (permitsValue_of_surrounds value hvalue)
    rw [hobject] at hrel
    cases hrel with
    | some hself => exact hself
  have halike := Correspondence.objectCall (Policy.carries_pinned h.admits hpin) hself hhas
    (List.forall₂_same.mpr fun arg harg => permitsValue_of_surrounds arg (hargs arg harg))
  exact (Policy.eq_of_alike hinterrupts (halike later later ⟨rfl, hlater⟩)).symm

theorem program_eq {last : Value} (hlast : S.Surrounds machine last) (nodes : List Node) :
    Eval.program config frame last nodes later =
      Eval.programBy (fun node => node.pinned pin config true frame) last nodes later := by
  rw [Eval.program_eq]
  have hrun : ∀ {node node' : Node}, node.Alike (S.policy machine).likeness node' →
      (S.policy machine).correspondence.Alike (S.policy machine).correspondence.ValueAlike
        (node.eval config true frame) (node'.pinned pin config true frame) := by
    intro node node' hnode
    obtain rfl := Policy.node_eq hnode
    exact Policy.pinned_alike h.admits hpin true hnode h.encloses.frame_policy
  have halike := Correspondence.programBy (S.policy machine).reports hrun
    (permitsValue_of_surrounds last hlast)
    (Policy.permitsNodes_iff.mpr fun node (_ : node ∈ nodes) => policy_permitsNode machine node)
  exact (Policy.eq_of_alike hinterrupts (halike.settled _ _ ⟨rfl, hlater⟩)).symm

end

end Surroundings.Hold

end FrameLisp
