import FrameLisp.Proofs.CallSite
import FrameLisp.Proofs.Deeper
import FrameLisp.Proofs.FrameIsolation
import FrameLisp.Proofs.Visit

/-!
# Pipelines as calls in turn

A pipeline is nested before it is evaluated, and the last step is the outermost call.  What comes of
it is nevertheless what the steps say in turn: their functions are called one after the other, each
with the value that the one before has given (`Thread.callInTurn`).  In which order the other
arguments are evaluated depends on the place of that value.  Where it comes first, the arguments of
a step are evaluated right before its call; where it comes last, all arguments are evaluated before
the start is, those of the last step first.

A step that is added is a call around all before it (`Thread.step`), one level further up, and so
the induction is on the steps from the end (`Thread.succeeds_nest`).  The step lemma is
`Thread.succeeds_step`.  Everything before the last step is evaluated further down than
`Thread.callInTurn` has it, which makes no difference unless the depth limit is met
(`Uniform.succeeds`).  The names of the functions are looked up in the course of the evaluation, but
they stand for the same all along, since evaluation below the top level leaves frames alone.
-/

namespace FrameLisp

open Evaluation (IsName IsCallee HeadedBy)

/-! ### Steps -/

/-- The node, as a step of a pipeline, is a call of what a name stands for: the name alone, or a
form with further arguments. -/
inductive Node.CallsByName (name : String) : Node → List Node → Prop
  /-- The name. -/
  | name {node : Node} (hname : IsName node name) : CallsByName name node []
  /-- A form with the name as its head. -/
  | form {head : Node} (hname : IsName head name) (args : List Node) {properties : List String}
    (hunquoted : properties.contains quotedProperty = false) (location : Option Location) :
    CallsByName name (.form (head :: args) properties false location) args

/-- A step of a pipeline that is an ordinary call. -/
structure Step where
  /-- The node of the step. -/
  node : Node
  /-- The name of the function. -/
  name : String
  /-- The arguments beside that of the pipeline. -/
  args : List Node
  /-- The step is a call. -/
  calls : node.CallsByName name args
  /-- The name is not that of a special form. -/
  ordinary : SpecialForm.ofName? name = none
  /-- Nor is it that of a method. -/
  undotted : Evaluation.isDotName name = false
  /-- Nor is it what braces stand for. -/
  unbraced : name ≠ dictConstructor

namespace Step

/-- The function that the step calls, with the step. -/
def found (frame : FrameId) (step : Step) : Eval (Value × Step) := do
  let callee ← Eval.orFail (.undefinedName step.name none) (← Eval.lookup? frame step.name)
  return (callee, step)

/-- The arguments of all steps, those of later steps first, with the functions. -/
def argumentsFromLast (evaluate : Evaluator) (frame : FrameId) :
    List (Value × Step) → Eval (List (Value × List Value))
  | [] => pure []
  | (callee, step) :: later => do
    let rest ← argumentsFromLast evaluate frame later
    let args ← Eval.arguments evaluate frame step.args
    return (callee, args) :: rest

end Step

namespace Thread

/-- The special form of a pipeline. -/
def special : Thread → SpecialForm
  | first => .threadFirst
  | last => .threadLast

/-- Arguments with what the steps before give. -/
def insert {α : Type} (a : α) (args : List α) : Thread → List α
  | first => a :: args
  | last => args ++ [a]

/-- Calls the functions of the steps in turn, each with what the one before has given. -/
def callInTurn (thread : Thread) (config : Config) (frame : FrameId) (start : Node)
    (steps : List Step) : Eval Value := do
  let calls ← steps.mapM (Step.found frame)
  match thread with
  | first =>
    let value ← config.evaluator start frame
    calls.foldlM (fun value (callee, step) => do
      let args ← Eval.arguments config.evaluator frame step.args
      callee.call config.hosts config.evaluators (value :: args)) value
  | last =>
    let calls ← Step.argumentsFromLast config.evaluator frame calls
    let value ← config.evaluator start frame
    calls.foldlM (fun value (callee, args) =>
      callee.call config.hosts config.evaluators (args ++ [value])) value

end Thread

/-! ### What calling in turn comes down to -/

variable {config : Config} {frame : FrameId} {machine last : Machine} {value : Value}

/-- Frames that are isolated have the variables that they had. -/
theorem Machine.Isolated.lookup?_eq (h : machine.Isolated last) {id : FrameId} {name : String}
    (hfound : machine.lookup? id name = some value) : last.lookup? id name = some value := by
  have hid : id < machine.frames.size := by
    refine Nat.lt_of_not_le fun hmissing => ?_
    unfold lookup? at hfound
    rw [frame_eq_nil hmissing] at hfound
    cases hfound
  unfold lookup?
  rw [h.frame_eq hid]
  exact hfound

/-- A machine on which nodes have values was not interrupted, if it is not at the end. -/
theorem Eval.interrupted_of_arguments_ok {nodes : List Node} {values : List Value}
    (h : arguments config.evaluator frame nodes machine = .ok values last)
    (hlast : last.interrupted config.flag = false) : machine.interrupted config.flag = false := by
  cases nodes with
  | nil =>
    cases h
    exact hlast
  | cons node nodes =>
    obtain ⟨value, between, hvalue, -⟩ := Eval.of_bind_ok h
    exact (Node.of_eval_ok hvalue).1.free

/-- A loop went through all items but the last before it came to that. -/
theorem Eval.of_foldlM_append_ok {α β : Type} {f : β → α → Eval β} {items : List α} {item : α}
    {b c : β} (h : (items ++ [item]).foldlM f b machine = .ok c last) :
    ∃ inner middle, items.foldlM f b machine = .ok inner middle ∧
      f inner item middle = .ok c last := by
  rw [List.foldlM_append] at h
  obtain ⟨inner, middle, hinner, h⟩ := Eval.of_bind_ok h
  rw [List.foldlM_cons] at h
  simp only [List.foldlM_nil, bind_pure] at h
  exact ⟨inner, middle, hinner, h⟩

theorem Eval.arguments_concat (evaluate : Evaluator) (frame : FrameId) (nodes : List Node)
    (node : Node) :
    arguments evaluate frame (nodes ++ [node]) =
      (do
        let values ← arguments evaluate frame nodes
        let value ← evaluate node frame
        return values ++ [value]) := by
  induction nodes with
  | nil => simp [arguments]
  | cons first nodes ih => simp [arguments, ih]

/-- Looking a function up changes nothing. -/
theorem Step.found_eq_ok_iff {step : Step} {call : Value × Step} :
    step.found frame machine = .ok call last ↔
      (machine.lookup? frame step.name = some call.1 ∧ call.2 = step) ∧ last = machine := by
  obtain ⟨callee, called⟩ := call
  have hlookup : Eval.lookup? frame step.name machine =
      .ok (machine.lookup? frame step.name) machine := rfl
  unfold found
  rw [Eval.bind_ok hlookup]
  cases machine.lookup? frame step.name with
  | none =>
    constructor
    · intro h
      cases h
    · rintro ⟨⟨hfound, -⟩, -⟩
      cases hfound
  | some value =>
    show EStateM.Result.ok (value, step) machine = .ok (callee, called) last ↔ _
    constructor
    · intro h
      cases h
      exact ⟨⟨rfl, rfl⟩, rfl⟩
    · rintro ⟨⟨hfound, rfl⟩, rfl⟩
      cases hfound
      rfl

/-- Looking functions up changes nothing. -/
theorem Step.mapM_found_eq_ok_iff {steps : List Step} {calls : List (Value × Step)} :
    steps.mapM (found frame) machine = .ok calls last ↔
      List.Forall₂ (fun step call =>
        machine.lookup? frame step.name = some call.1 ∧ call.2 = step) steps calls ∧
      last = machine := by
  induction steps generalizing calls last with
  | nil =>
    rw [List.mapM_nil, List.forall₂_nil_left_iff]
    constructor
    · intro h
      cases h
      exact ⟨rfl, rfl⟩
    · rintro ⟨rfl, rfl⟩
      rfl
  | cons step steps ih =>
    rw [List.mapM_cons, List.forall₂_cons_left_iff]
    constructor
    · intro h
      obtain ⟨call, between, hcall, h⟩ := Eval.of_bind_ok h
      obtain ⟨rest, between', hrest, h⟩ := Eval.of_bind_ok h
      cases h
      obtain ⟨hcall, rfl⟩ := found_eq_ok_iff.mp hcall
      obtain ⟨hrest, rfl⟩ := ih.mp hrest
      exact ⟨⟨call, rest, hcall, hrest, rfl⟩, rfl⟩
    · rintro ⟨⟨call, rest, hcall, hrest, rfl⟩, rfl⟩
      rw [Eval.bind_ok (found_eq_ok_iff.mpr ⟨hcall, rfl⟩), Eval.bind_ok (ih.mpr ⟨hrest, rfl⟩)]
      rfl

theorem Step.of_mapM_found_append {steps : List Step} {step : Step} {calls : List (Value × Step)}
    (h : (steps ++ [step]).mapM (found frame) machine = .ok calls last) :
    ∃ before callee, calls = before ++ [(callee, step)] ∧ last = machine ∧
      machine.lookup? frame step.name = some callee ∧
      steps.mapM (found frame) machine = .ok before machine := by
  rw [List.mapM_append] at h
  obtain ⟨before, between, hbefore, h⟩ := Eval.of_bind_ok h
  obtain ⟨own, between', hown, h⟩ := Eval.of_bind_ok h
  cases h
  obtain ⟨-, rfl⟩ := mapM_found_eq_ok_iff.mp hbefore
  obtain ⟨hown, rfl⟩ := mapM_found_eq_ok_iff.mp hown
  obtain ⟨⟨callee, called⟩, rest, ⟨hcallee, rfl⟩, hrest, rfl⟩ := List.forall₂_cons_left_iff.mp hown
  cases hrest
  exact ⟨before, callee, rfl, rfl, hcallee, hbefore⟩

/-- Functions are found again where frames are isolated. -/
theorem Step.mapM_found_of_isolated {steps : List Step} {calls : List (Value × Step)}
    (hcalls : steps.mapM (found frame) machine = .ok calls machine)
    (h : machine.Isolated last) : steps.mapM (found frame) last = .ok calls last := by
  obtain ⟨hfound, -⟩ := mapM_found_eq_ok_iff.mp hcalls
  exact mapM_found_eq_ok_iff.mpr ⟨hfound.imp fun _ _ hcall => ⟨h.lookup?_eq hcall.1, hcall.2⟩, rfl⟩

theorem Step.argumentsFromLast_append (evaluate : Evaluator) (frame : FrameId)
    (calls later : List (Value × Step)) :
    argumentsFromLast evaluate frame (calls ++ later) =
      (do
        let rest ← argumentsFromLast evaluate frame later
        let values ← argumentsFromLast evaluate frame calls
        return values ++ rest) := by
  induction calls with
  | nil => simp [argumentsFromLast]
  | cons call calls ih => simp [argumentsFromLast, ih]

/-- The arguments of the last step come first. -/
theorem Step.of_argumentsFromLast_append {evaluate : Evaluator} {calls : List (Value × Step)}
    {callee : Value} {step : Step} {prepared : List (Value × List Value)}
    (h : argumentsFromLast evaluate frame (calls ++ [(callee, step)]) machine =
      .ok prepared last) :
    ∃ args others middle, prepared = others ++ [(callee, args)] ∧
      Eval.arguments evaluate frame step.args machine = .ok args middle ∧
      argumentsFromLast evaluate frame calls middle = .ok others last := by
  rw [argumentsFromLast_append] at h
  obtain ⟨own, middle, hown, h⟩ := Eval.of_bind_ok h
  obtain ⟨others, between, hothers, h⟩ := Eval.of_bind_ok h
  cases h
  obtain ⟨later, machine', hlater, hown⟩ := Eval.of_bind_ok hown
  cases hlater
  obtain ⟨args, machine', hargs, hown⟩ := Eval.of_bind_ok hown
  cases hown
  exact ⟨args, others, middle, rfl, hargs, hothers⟩

namespace Thread

/-- Without steps there is only the start. -/
theorem callInTurn_nil (thread : Thread) (config : Config) (start : Node) :
    thread.callInTurn config frame start [] = config.evaluator start frame := by
  cases thread with
  | first => simp [callInTurn]
  | last => simp [callInTurn, Step.argumentsFromLast]

variable {start : Node} {steps : List Step} {step : Step}

/-- Where the value comes first, the arguments of the last step are evaluated after all else. -/
theorem of_callInTurn_first
    (h : first.callInTurn config frame start (steps ++ [step]) machine =
      .ok value last) :
    ∃ callee inner args middle between, machine.lookup? frame step.name = some callee ∧
      first.callInTurn config frame start steps machine = .ok inner middle ∧
      Eval.arguments config.evaluator frame step.args middle = .ok args between ∧
      callee.call config.hosts config.evaluators (inner :: args) between = .ok value last := by
  obtain ⟨calls, found, hcalls, hrun⟩ := Eval.of_bind_ok h
  obtain ⟨before, callee, rfl, rfl, hcallee, hbefore⟩ := Step.of_mapM_found_append hcalls
  obtain ⟨initial, started, hstart, hfold⟩ := Eval.of_bind_ok hrun
  obtain ⟨inner, middle, hinner, hlast⟩ := Eval.of_foldlM_append_ok hfold
  obtain ⟨args, between, hargs, hcall⟩ := Eval.of_bind_ok hlast
  refine ⟨callee, inner, args, middle, between, hcallee, ?_, hargs, hcall⟩
  unfold callInTurn
  rw [Eval.bind_ok hbefore]
  exact (Eval.bind_ok hstart).trans hinner

/-- Where the value comes last, the arguments of the last step are evaluated before all else. -/
theorem of_callInTurn_last (hwrites : config.hosts.WriteNothing)
    (h : Thread.last.callInTurn config frame start (steps ++ [step]) machine =
      .ok value last) :
    ∃ callee inner args middle between, machine.lookup? frame step.name = some callee ∧
      Eval.arguments config.evaluator frame step.args machine = .ok args middle ∧
      Thread.last.callInTurn config frame start steps middle = .ok inner between ∧
      callee.call config.hosts config.evaluators (args ++ [inner]) between = .ok value last := by
  obtain ⟨calls, found, hcalls, hrun⟩ := Eval.of_bind_ok h
  obtain ⟨before, callee, rfl, rfl, hcallee, hbefore⟩ := Step.of_mapM_found_append hcalls
  obtain ⟨prepared, evaluated, hprepared, hrun⟩ := Eval.of_bind_ok hrun
  obtain ⟨args, others, middle, rfl, hargs, hothers⟩ := Step.of_argumentsFromLast_append hprepared
  obtain ⟨initial, started, hstart, hfold⟩ := Eval.of_bind_ok hrun
  obtain ⟨inner, between, hinner, hlast⟩ := Eval.of_foldlM_append_ok hfold
  refine ⟨callee, inner, args, middle, between, hcallee, hargs, ?_, hlast⟩
  -- the functions of the steps before are still there
  have hagain := Step.mapM_found_of_isolated hbefore (.of_arguments hwrites hargs)
  unfold callInTurn
  rw [Eval.bind_ok hagain]
  exact (Eval.bind_ok hothers).trans ((Eval.bind_ok hstart).trans hinner)

theorem interrupted_of_callInTurn (hwrites : config.hosts.WriteNothing) (thread : Thread)
    (h : thread.callInTurn config frame start steps machine = .ok value last) :
    machine.interrupted config.flag = false := by
  induction steps using List.reverseRecOn generalizing machine value last with
  | nil =>
    rw [callInTurn_nil] at h
    exact (Node.of_eval_ok h).1.free
  | append_singleton steps step ih =>
    cases thread with
    | first =>
      obtain ⟨-, inner, -, middle, -, -, hinner, -, -⟩ := of_callInTurn_first h
      exact ih hinner
    | last =>
      obtain ⟨-, inner, args, middle, between, -, hargs, hinner, -⟩ := of_callInTurn_last hwrites h
      exact Eval.interrupted_of_arguments_ok hargs (ih hinner)

/-! ### One step -/

/-- A step becomes a form with its name as the head and with one more argument. -/
theorem exists_step_eq (thread : Thread) (target : Node) (step : Step) :
    ∃ form head, thread.step target step.node = form.toNode ∧ HeadedBy form head ∧
      IsName head step.name ∧ form.tail = thread.insert target step.args := by
  obtain ⟨node, name, args, hcalls, -, -, -⟩ := step
  cases hcalls with
  | name hname =>
    obtain ⟨token, properties, rfl, hname⟩ := hname
    refine ⟨_, .literal token properties, rfl, ?_, ⟨token, properties, rfl, hname⟩, ?_⟩
    · cases thread <;> exact ⟨rfl, rfl, rfl⟩
    · cases thread <;> rfl
  | form hname args hunquoted location =>
    refine ⟨_, _, rfl, ?_, hname, ?_⟩
    · cases thread <;> exact ⟨hunquoted, rfl, rfl⟩
    · cases thread <;> rfl

end Thread

/-- An ordinary name that is no method is called. -/
theorem Evaluation.IsName.isCallee {head : Node} {name : String} (h : IsName head name)
    (hordinary : SpecialForm.ofName? name = none) (hundotted : isDotName name = false) :
    IsCallee head := by
  obtain ⟨token, properties, rfl, hkind, rfl, hunquoted⟩ := h
  exact ⟨hkind, hunquoted, hordinary, hundotted⟩

theorem Evaluation.HeadedBy.isDict_eq_false {form : Form} {head : Node} {name : String}
    (h : HeadedBy form head) (hname : IsName head name) (hunbraced : name ≠ dictConstructor) :
    form.isDict = false := by
  obtain ⟨token, properties, rfl, hkind, rfl, -⟩ := hname
  unfold Form.isDict Form.headIs
  rw [h.head]
  simp [Node.identifier?, hkind, hunbraced]

namespace Thread

variable {P : Policy} {down : Nat} {machine' : Machine} {step : Step}
  (hP : P.context config.toContext)
  (hhosts : config.hosts.Respect (P.likeness.hiding config.counter))

include hP

theorem succeeds_name (hm : Machine.Below P config.counter down machine machine')
    (hfree : machine.interrupted config.flag = false) {head : Node} {name : String}
    (hname : IsName head name) (hlookup : machine.lookup? frame name = some value) :
    (config.limited .own config.toContext head frame).SucceedsUnlessGivenUp machine'
      fun value' last' => value' = value ∧
        Machine.Below P config.counter down machine last' := by
  obtain ⟨token, properties, rfl, hkind, rfl, hunquoted⟩ := hname
  show ((Node.literal token properties).evalLimited .own config false frame).SucceedsUnlessGivenUp
    _ _
  rw [Node.evalLimited_eq]
  refine .withinLimit (by rw [hm.interrupted_eq, hfree])
    (Contract.steady_evalNode (Contract.steady_limited .own config) _ _ _) fun hroom => ?_
  have hinside := hm.inside hP rfl hroom (.literal token properties)
  rw [← hinside.lookup?_eq] at hlookup
  exact .of_ok (Evaluation.evalToken_name hkind hunquoted hlookup) fun hroom =>
    ⟨rfl, hinside.outside rfl hroom⟩

include hhosts

/-- **One step.**  If the arguments of the nested call have their values one level further down,
then so has the call. -/
theorem succeeds_step (thread : Thread)
    (hm : Machine.Below P config.counter down machine machine')
    (hfree : machine.interrupted config.flag = false) (hframe : P.frame frame) {callee : Value}
    (hlookup : machine.lookup? frame step.name = some callee) {target : Node} {args : List Value}
    {between : Machine}
    (hargs : ∀ inside, Machine.Below P config.counter (down + 1) machine inside →
      (Eval.arguments (config.limited .own config.toContext) frame
        (thread.insert target step.args)).SucceedsUnlessGivenUp inside fun args' last' =>
          Value.AllAlike (P.likeness.hiding config.counter) args args' ∧
            Machine.Below P config.counter (down + 1) between last')
    (hcall : callee.call config.hosts config.evaluators args between = .ok value last) :
    (config.limited .own config.toContext (thread.step target step.node)
      frame).SucceedsUnlessGivenUp machine' fun value' last' =>
        value.Alike (P.likeness.hiding config.counter) value' ∧
          Machine.Below P config.counter down last last' := by
  obtain ⟨form, head, hnode, hform, hname, htail⟩ := thread.exists_step_eq target step
  have hcallee : callee.Alike (P.likeness.hiding config.counter) callee := by
    have hfound := (Policy.permitsBindings_iff.mp (hm.permits.frames frame hframe)).find? step.name
    unfold Machine.lookup? at hlookup
    rw [hlookup] at hfound
    cases hfound with
    | some hcallee => exact Policy.alike_hiding hcallee
  rw [hnode]
  show (form.toNode.evalLimited .own config false frame).SucceedsUnlessGivenUp _ _
  rw [Node.evalLimited_eq]
  refine .withinLimit (by rw [hm.interrupted_eq, hfree])
    (Contract.steady_evalNode (Contract.steady_limited .own config) _ _ _) fun hroom => ?_
  show (Evaluation.evalForm config _ false form frame).SucceedsUnlessGivenUp _ _
  rw [Evaluation.CallSite.evalForm_eq hform,
    Evaluation.CallSite.evalHead_callee (hname.isCallee step.ordinary step.undotted)]
  refine .bind (succeeds_name hP (hm.inside hP rfl hroom form.toNode) hfree hname hlookup) ?_
  rintro _ named ⟨rfl, hnamed⟩
  rw [Evaluation.CallSite.callForm_eq _ (.inl (hform.isDict_eq_false hname step.unbraced)), htail]
  refine .bind (hargs named hnamed) ?_
  rintro args' given ⟨hargs', hgiven⟩
  obtain rfl := Policy.values_eq ((P.likeness.hiding_refines config.counter).values hargs')
  refine .located _ (.mono ((Uniform.call hcallee hargs').succeeds hhosts hgiven hcall) ?_)
  rintro value' last' ⟨hvalue, hlast⟩ hroom
  exact ⟨hvalue, hlast.outside rfl hroom⟩

/-! ### All steps -/

/-- **What calling in turn gives comes of the nested calls.** -/
theorem succeeds_nest (hnodes : ∀ node, P.PermitsNode node) (hwrites : config.hosts.WriteNothing)
    (thread : Thread) (hm : Machine.Below P config.counter down machine machine')
    (hframe : P.frame frame) {start : Node} {steps : List Step}
    (h : thread.callInTurn config frame start steps machine = .ok value last) :
    (config.limited .own config.toContext (thread.nest start (steps.map Step.node))
      frame).SucceedsUnlessGivenUp machine' fun value' last' =>
        value.Alike (P.likeness.hiding config.counter) value' ∧
          Machine.Below P config.counter down last last' := by
  induction steps using List.reverseRecOn generalizing down machine machine' value last with
  | nil =>
    rw [callInTurn_nil] at h
    exact (Uniform.node hP (hnodes start) hframe).succeeds hhosts hm h
  | append_singleton steps step ih =>
    have hfree := interrupted_of_callInTurn hwrites thread h
    have hnest : thread.nest start ((steps ++ [step]).map Step.node) =
        thread.step (thread.nest start (steps.map Step.node)) step.node := by
      simp [nest]
    have hstep {m m' : Machine} {args : List Value}
        (hm : Machine.Below P config.counter (down + 1) m m') {between : Machine}
        (hargs : Eval.arguments config.evaluator frame step.args m = .ok args between) :=
      (Uniform.arguments hP (fun node _ => hnodes node) hframe).succeeds hhosts hm hargs
    rw [hnest]
    cases thread with
    | first =>
      obtain ⟨callee, inner, args, middle, between, hcallee, hinner, hargs, hcall⟩ :=
        of_callInTurn_first h
      refine succeeds_step hP hhosts first hm hfree hframe hcallee (fun inside hinside => ?_) hcall
      refine .bind (ih hinside hinner) ?_
      rintro value' middle' ⟨hvalue, hmiddle⟩
      refine .bind (hstep hmiddle hargs) ?_
      rintro args' between' ⟨hargs', hbetween⟩
      exact .of_ok rfl ⟨.cons hvalue hargs', hbetween⟩
    | last =>
      obtain ⟨callee, inner, args, middle, between, hcallee, hargs, hinner, hcall⟩ :=
        of_callInTurn_last hwrites h
      refine succeeds_step hP hhosts Thread.last hm hfree hframe hcallee
        (fun inside hinside => ?_) hcall
      show (Eval.arguments _ frame (step.args ++ _)).SucceedsUnlessGivenUp _ _
      rw [Eval.arguments_concat]
      refine .bind (hstep hinside hargs) ?_
      rintro args' middle' ⟨hargs', hmiddle⟩
      refine .bind (ih hmiddle hinner) ?_
      rintro value' between' ⟨hvalue, hbetween⟩
      exact .of_ok rfl ⟨List.rel_append hargs' (.cons hvalue .nil), hbetween⟩

omit hP hhosts

/-- A pipeline is evaluated as the nested calls. -/
theorem evalForm_eq (thread : Thread) {form : Form} {head start : Node} {nodes : List Node}
    (hform : HeadedBy form head) (hhead : IsName head thread.special.name)
    (htail : form.tail = start :: nodes) (evaluate : Context → Evaluator) (top : Bool) :
    Evaluation.evalForm config evaluate top form frame =
      evaluate config.toContext (thread.nest start nodes) frame := by
  rw [Evaluation.CallSite.evalForm_eq hform]
  cases thread with
  | first =>
    rw [Evaluation.CallSite.evalHead_name .threadFirst hhead (by decide)]
    unfold Evaluation.evalSpecial Evaluation.evalPipeline
    simp [htail, SpecialForm.topLevelOnly]
  | last =>
    rw [Evaluation.CallSite.evalHead_name .threadLast hhead (by decide)]
    unfold Evaluation.evalSpecial Evaluation.evalPipeline
    simp [htail, SpecialForm.topLevelOnly]

end Thread

/-- **A pipeline is its calls in turn.**  If the calls that its steps stand for give a value in
turn, and when the pipeline is evaluated no depth limit is met and the stack lasts, as it does if
all functions in reach count together, then it has that value, and it leaves the same machine, with
all that was printed, reported and defined; only the nodes that are reported as they are entered are
those of the nested calls. -/
theorem pipeline_calls_in_turn (config : Config) (hwrites : config.hosts.WriteNothing)
    (S : Surroundings) (thread : Thread) {form : Form} {head start : Node} {steps : List Step}
    (hform : HeadedBy form head) (hhead : IsName head thread.special.name)
    (htail : form.tail = start :: steps.map Step.node) {top : Bool} {frame : FrameId}
    {machine last : Machine} {value : Value} (hunaware : S.HoldUnaware config machine frame)
    (hfree : form.toNode.NeverOverflows config top frame machine)
    (hlasts : machine.CountsTogether config frame ∨ form.toNode.Lasts config top frame machine)
    (h : thread.callInTurn config frame start steps machine = .ok value last) :
    ∃ last', form.toNode.eval config top frame machine = .ok value last' ∧
      last.SameButTrace S.Traces last' := by
  let P : Policy := S.policy machine
  have hlasts : form.toNode.Lasts config top frame machine :=
    hlasts.elim (fun h => h.lasts_eval top form.toNode) id
  have hstart : Machine.Below P config.counter 0 machine machine := by
    have hbelow := hunaware.below 0
    rw [Machine.lower_zero] at hbelow
    exact hbelow
  have hgood : (form.toNode.evalLimited .own config top frame).SucceedsUnlessGivenUp machine
      fun value' last' => value.Alike (P.likeness.hiding config.counter) value' ∧
        Machine.Below P config.counter 0 last last' := by
    rw [Node.evalLimited_eq]
    refine .withinLimit (thread.interrupted_of_callInTurn hwrites h)
      (Contract.steady_evalNode (Contract.steady_limited .own config) _ _ _) fun hroom => ?_
    have hnest := thread.succeeds_nest hunaware.context hunaware.hosts
      (Surroundings.policy_permitsNode machine) hwrites
      (hstart.inside hunaware.context rfl hroom form.toNode) hunaware.encloses.frame_policy h
    show (Evaluation.evalForm config _ top form frame).SucceedsUnlessGivenUp _ _
    rw [thread.evalForm_eq hform hhead htail]
    exact hnest.mono fun value' last' hgood hroom => ⟨hgood.1, hgood.2.outside rfl hroom⟩
  obtain ⟨value', last', heval, hvalue, hlast⟩ := Node.exists_eval_eq hfree hlasts hgood
  obtain ⟨rfl, -⟩ := Policy.permitsValue_of_hiding hvalue
  exact ⟨last', heval, hlast.sameButTrace⟩

/-- Where the value comes last, the arguments of later steps are evaluated first. -/
theorem pipeline_calls_in_turn_from_last :
    let word (text : String) : Node := .literal ⟨.identifier, text, default⟩ []
    let number (text : String) : Node := .literal ⟨.number, text, default⟩ []
    let form (children : List Node) : Form := { children }
    let noisy (text : String) : Node :=
      (form [word "do", (form [word "print", number text]).toNode, number text]).toNode
    let hword (text : String) : IsName (word text) text := ⟨_, [], rfl, rfl, rfl, rfl⟩
    let subtract : Step := ⟨(form [word "-", noisy "5"]).toNode, "-", [noisy "5"],
      .form (hword "-") [noisy "5"] rfl none, by decide, by decide, by decide⟩
    let list : Step := ⟨(form [word "listy", noisy "3"]).toNode, "listy", [noisy "3"],
      .form (hword "listy") [noisy "3"] rfl none, by decide, by decide, by decide⟩
    let write : Step :=
      ⟨word "str", "str", [], .name (hword "str"), by decide, by decide, by decide⟩
    let steps := [subtract, list, write]
    let pipeline := form (word "->>" :: noisy "1" :: steps.map Step.node)
    let m := (Session.standard {}).machine
    ∃ value last last',
      Thread.last.callInTurn {} Session.root (noisy "1") steps m = .ok value last ∧
      pipeline.toNode.eval {} true Session.root m = .ok value last' ∧
      last' = last ∧ value.shown = "\"[3 4]\"" ∧ last.printed = "3\n5\n1\n" := by
  intro word number form noisy hword subtract list write steps pipeline m
  let x := Thread.last.callInTurn {} Session.root (noisy "1") steps
  obtain ⟨value, hvalue, hshown⟩ : ∃ value, x.run' m = some value ∧ value.shown = "\"[3 4]\"" :=
    Option.map_eq_some_iff.mp (by decide +kernel)
  obtain ⟨last, hok⟩ : ∃ last, x m = .ok value last := by
    unfold EStateM.run' at hvalue
    cases hrun : x.run m with
    | error stop last =>
      rw [hrun] at hvalue
      cases hvalue
    | ok value last =>
      rw [hrun] at hvalue
      cases hvalue
      exact ⟨last, hrun⟩
  have hprinted : (x.after m).printed = "3\n5\n1\n" := by decide +kernel
  unfold Eval.after at hprinted
  rw [hok] at hprinted
  obtain ⟨hfree, hlasts⟩ := Node.neverOverflows_and_lasts_iff.mpr
    (show ¬ (pipeline.toNode.evalLimited .own {} true Session.root).GivesUp m by decide +kernel)
  have hwrites : Hosts.basic.WriteNothing := Hosts.basic_obey fun _ _ => trivial
  obtain ⟨last', heval, hsame⟩ := pipeline_calls_in_turn {} hwrites (.prelude {}) Thread.last
    ⟨rfl, rfl, rfl⟩ (hword "->>") rfl (Session.standard_unaware {} Session.root) hfree
    (.inr hlasts) hok
  have huntraced : ¬ (Surroundings.prelude {}).Traces := by
    rintro ⟨context, rfl, htrace⟩
    cases htrace
  exact ⟨value, last, last', hok, heval, hsame.eq_of_untraced huntraced, hshown, hprinted⟩

-- where the value comes first, the arguments are evaluated as the steps come
example :
    let noisy (text : String) := "(do (print " ++ text ++ ") " ++ text ++ ")"
    let source := "(-> " ++ noisy "1" ++ "(- " ++ noisy "5" ++ ")(listy " ++ noisy "3" ++ ") str)"
    (evalAlone source "").1.map Value.shown = .ok "\"[-4 3]\"" ∧
      (evalAlone source "").2.machine.printed = "1\n5\n3\n" := by
  decide +kernel

end FrameLisp
