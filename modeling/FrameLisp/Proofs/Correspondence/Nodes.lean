import FrameLisp.Proofs.Correspondence.Forms
import FrameLisp.Proofs.Room
import FrameLisp.Session

/-!
# Corresponding evaluation of nodes

Around each node that it evaluates, evaluation asks whether it was interrupted, counts a level, and
may report the node.  If machines that are alike stay so through all this, under all contexts that
are alike (`Correspondence.Enters`), then nodes that are alike are evaluated alike, and so are
programs of such nodes.
-/

namespace FrameLisp

namespace Correspondence

/-- Machines that are alike stay so when nodes that are alike are entered and left. -/
structure Enters (C : Correspondence) : Prop where
  /-- Oracles give nodes that are alike one verdict. -/
  oracle {context context' : Context} (h : C.context context context') :
    C.OracleAlike context context'
  /-- Both runs are interrupted, or none is. -/
  interrupted_eq {context context' : Context} (h : C.context context context') {m m' : Machine}
    (hm : C.machine m m') : m'.interrupted context'.flag = m.interrupted context.flag
  /-- The runs are equally deep. -/
  depth_eq {context context' : Context} (h : C.context context context') {m m' : Machine}
    (hm : C.machine m m') : m'.depth context'.counter = m.depth context.counter
  /-- So the depth limit is reached in both or in none. -/
  maxDepth_eq {context context' : Context} (h : C.context context context') :
    context'.maxDepth = context.maxDepth
  /-- The runs have the same room. -/
  room_eq {m m' : Machine} (hm : C.machine m m') : m'.room = m.room
  /-- Nodes may be entered. -/
  inside {context context' : Context} (h : C.context context context') {m m' : Machine}
    (hm : C.machine m m') {node node' : Node} (hnode : node.Alike C.toLikeness node') :
    C.machine (m.inside context node) (m'.inside context' node')
  /-- Nodes may be left. -/
  outside {context context' : Context} (h : C.context context context') {m m' : Machine}
    (hm : C.machine m m') (room : Nat) :
    C.machine (m.outside context room) (m'.outside context' room)

/-- It is enough that contexts are alike only if they are the same, and that machines stay alike
when counters and the room change and when nodes are reported. -/
theorem Enters.of_report {C : Correspondence}
    (hcontext : ∀ {context context' : Context}, C.context context context' → context' = context)
    (horacle : ∀ {context : Context}, C.context context context → C.OracleAlike context context)
    (hinterrupted : ∀ {m m' : Machine}, C.machine m m' → m'.interrupted = m.interrupted)
    (heq : ∀ {m m' : Machine}, C.machine m m' → m'.depth = m.depth ∧ m'.room = m.room)
    (hdepth : ∀ {m m' : Machine}, C.machine m m' → ∀ depth room,
      C.machine { m with depth, room } { m' with depth, room })
    (hreport : ∀ {m m' : Machine}, C.machine m m' → ∀ {node node' : Node},
      node.Alike C.toLikeness node' → ∀ depth,
      C.machine { m with events := m.events.push (.entered depth node) }
        { m' with events := m'.events.push (.entered depth node') }) :
    C.Enters where
  oracle h := by
    obtain rfl := hcontext h
    exact horacle h
  interrupted_eq h m m' hm := by
    obtain rfl := hcontext h
    rw [hinterrupted hm]
  depth_eq h m m' hm := by
    obtain rfl := hcontext h
    rw [(heq hm).1]
  maxDepth_eq h := by rw [hcontext h]
  room_eq hm := (heq hm).2
  inside {context context'} h m m' hm node node' hnode := by
    obtain rfl := hcontext h
    have hdown := hdepth hm
      (m.depth.set context'.counter (m.depth context'.counter + 1)) (m.room - 1)
    unfold Machine.inside
    rw [(heq hm).1, (heq hm).2]
    cases context'.trace with
    | false => exact hdown
    | true => exact hreport hdown hnode _
  outside {context context'} h m m' hm room := by
    obtain rfl := hcontext h
    unfold Machine.outside Machine.leave
    rw [(heq hm).1]
    exact hdepth hm _ _

/-- Machines stay alike when nodes at the top level are reported. -/
abbrev Reports (C : Correspondence) : Prop :=
  ∀ {m m' : Machine}, C.machine m m' → ∀ {node node' : Node}, node.Alike C.toLikeness node' →
    C.machine { m with events := m.events.push (.topLevel node) }
      { m' with events := m'.events.push (.topLevel node') }

/-- Trees at the top level, one after the other. -/
theorem programBy {C : Correspondence} (hreport : C.Reports) {run run' : Node → Eval Value}
    (hrun : ∀ {node node' : Node}, node.Alike C.toLikeness node' →
      C.Alike C.ValueAlike (run node) (run' node')) {last last' : Value}
    (hlast : last.Alike C.toLikeness last') {nodes nodes' : List Node}
    (hnodes : C.NodesAlike nodes nodes') :
    C.Alike C.ValueAlike (Eval.programBy run last nodes) (Eval.programBy run' last' nodes') := by
  induction hnodes generalizing last last' with
  | nil => exact .pure hlast
  | cons hnode hnodes ih =>
    refine .bind (R := fun _ _ => True) (step fun hm => ⟨trivial, hreport hm hnode⟩) fun _ _ _ => ?_
    exact .bind (hrun hnode) fun _ _ hvalue => ih hvalue

namespace Enters

variable {C : Correspondence} (hC : C.Enters) {config : Config} {context' : Context}
  {node node' : Node}

include hC

theorem contextAlike {context context' : Context} (h : C.context context context') :
    C.ContextAlike context context' :=
  ⟨h, hC.oracle h⟩

/-- Into a node and out of it. -/
theorem within {context context' : Context} (h : C.context context context')
    (hnode : node.Alike C.toLikeness node') {x y : Eval Value} (hx : C.Alike C.ValueAlike x y) :
    C.Alike C.ValueAlike (Eval.within context node x) (Eval.within context' node' y) := by
  intro m m' hm
  rw [Eval.within_eq, Eval.within_eq, hC.interrupted_eq h hm, hC.depth_eq h hm, hC.maxDepth_eq h,
    hC.room_eq hm]
  have hinside := hC.inside h hm hnode
  split
  · exact .error (.interrupted C.interruption_self) hm
  split
  · exact .error (.fault (.overflow _ _ hnode.location?)) hm
  split
  · exact .error .outOfLevels (hC.outside h hinside _)
  have houtcome := hx _ _ hinside
  generalize x (m.inside context node) = result at houtcome ⊢
  generalize y (m'.inside context' node') = result' at houtcome ⊢
  cases houtcome with
  | ok hvalue hm => exact .ok hvalue (hC.outside h hm _)
  | error hstop hm => exact .error hstop (hC.outside h hm _)

/-- A node whose inside is left to evaluators that are alike. -/
theorem evalBy (h : C.context config.toContext context') {e e' : Context → Evaluator}
    (he : C.Carries config.hosts e e') (top : Bool) (hnode : node.Alike C.toLikeness node')
    {frame frame' : FrameId} (hframe : C.frame frame frame') :
    C.Alike C.ValueAlike (node.evalBy config top frame e)
      (node'.evalBy (config.under context') top frame' e') :=
  hC.within h hnode (evalNode (hC.contextAlike h) he top hnode hframe)

theorem evalAt (h : C.context config.toContext context')
    (hhosts : config.hosts.Respect C.toLikeness)
    (levels : Nat) (top : Bool) (hnode : node.Alike C.toLikeness node') {frame frame' : FrameId}
    (hframe : C.frame frame frame') :
    C.Alike C.ValueAlike (node.evalAt config levels top frame)
      (node'.evalAt (config.under context') levels top frame') := by
  induction levels generalizing config context' top node node' frame frame' with
  | zero => exact hC.within h hnode (.throw .outOfLevels)
  | succ levels ih =>
    refine hC.evalBy h ⟨?_, hhosts⟩ top hnode hframe
    intro inside inside' hinside inner inner' frame frame' hinner hframe
    have hcontext : C.context (config.under inside).toContext inside' := hinside
    have hrespect : (config.under inside).hosts.Respect C.toLikeness := hhosts
    exact ih hcontext hrespect false hinner hframe

/-- **Nodes that are alike are evaluated alike.** -/
theorem eval (h : C.context config.toContext context') (hhosts : config.hosts.Respect C.toLikeness)
    (top : Bool) (hnode : node.Alike C.toLikeness node') {frame frame' : FrameId}
    (hframe : C.frame frame frame') :
    C.Alike C.ValueAlike (node.eval config top frame)
      (node'.eval (config.under context') top frame') := by
  intro m m' hm
  rw [Contract.eval_eq, Contract.eval_eq, hC.room_eq hm]
  exact hC.evalAt h hhosts _ top hnode hframe m m' hm

theorem carries (hhosts : config.hosts.Respect C.toLikeness) :
    C.Carries config.hosts config.evaluators (config.under context').evaluators where
  nodes {context inside} h node node' frame frame' hnode hframe := by
    have hcontext : C.context (config.under context).toContext inside := h
    have hrespect : (config.under context).hosts.Respect C.toLikeness := hhosts
    exact hC.eval hcontext hrespect false hnode hframe
  hosts := hhosts

/-- **Programs of alike nodes run alike**, if nodes at the top level may be reported. -/
theorem program (h : C.context config.toContext context')
    (hhosts : config.hosts.Respect C.toLikeness) (hreport : C.Reports)
    {frame frame' : FrameId} (hframe : C.frame frame frame') {last last' : Value}
    (hlast : last.Alike C.toLikeness last') {nodes nodes' : List Node}
    (hnodes : C.NodesAlike nodes nodes') :
    C.Alike C.ValueAlike (Eval.program config frame last nodes)
      (Eval.program (config.under context') frame' last' nodes') := by
  rw [Eval.program_eq, Eval.program_eq]
  exact programBy hreport (fun hnode => hC.eval h hhosts true hnode hframe) hlast hnodes

end Enters

end Correspondence

end FrameLisp
