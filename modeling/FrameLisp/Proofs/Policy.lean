import FrameLisp.Proofs.Correspondence.Nodes
import FrameLisp.Proofs.Inversion

/-!
# Policies

A `Policy` says what may be around while a program runs: the places of tokens and nodes, whether a
place may be missing, the frames that functions may be over, the contexts they may have been made
in, what a host may have added, and whether there may be error classes that let a program handle an
interruption.  A node, a value or a machine is permitted if nothing else occurs in it.

A policy is a likeness under which things are alike if they are the same and permitted
(`Policy.likeness`), so what is proved of corresponding runs says here of a single run that it stays
within its policy: starting from a machine that is permitted, whatever a permitted node evaluates to
is permitted, and so is the machine that is left.  The code of the host has to stay within the
policy as well (`Policy.Admits`).
-/

namespace FrameLisp

/-! ### What may be around -/

/-- Whether a builtin was added by a host. -/
def Builtin.isHost : Builtin → Bool
  | .host .. => true
  | _ => false

/-- What may be in reach of a program. -/
structure Surroundings where
  /-- The contexts that functions may have been made in. -/
  context : Context → Prop := fun _ => True
  /-- The functions of the host that may be around, by their keys. -/
  key : String → Prop := fun _ => True
  /-- The objects of the host that may be around. -/
  object : HostObject → Prop := fun _ => True
  /-- Whether interruptions may be handled. -/
  interrupts : Prop := True

namespace Surroundings

variable (S : Surroundings)

/-- Whether an error class may be around. -/
def Classes (kind : Fault.Kind) : Prop :=
  kind = .interrupt → S.interrupts

/-- Whether a builtin may be around. -/
def Builtins : Builtin → Prop
  | .host _ _ key => S.key key
  | _ => True

end Surroundings

/-- What may be around while a program runs. -/
structure Policy extends Surroundings where
  /-- The places of tokens and nodes. -/
  place : Location → Prop := fun _ => True
  /-- Whether a place may be missing. -/
  unplaced : Prop := True
  /-- The frames that functions may be over. -/
  frame : FrameId → Prop := fun _ => True

namespace Policy

variable (P : Policy)

/-- Whether a place, or the lack of one, is permitted. -/
def Places (place : Option Location) : Prop :=
  match place with
  | some location => P.place location
  | none => P.unplaced

/-- Whether an exception may hold a fault. -/
def Holds (fault : Fault) : Prop :=
  P.Classes fault.kind ∧ (fault ≠ .interrupted → P.Places fault.location?)

variable {P}

theorem Places.or {a b : Option Location} (ha : P.Places a) (hb : P.Places b) :
    P.Places (a.or b) := by
  cases a with
  | none => exact hb
  | some location => exact ha

/-- Only its own class catches an interruption. -/
theorem Classes.of_catches {kind raised : Fault.Kind} (h : P.Classes kind)
    (hcatches : kind.catches raised = true) : P.Classes raised := by
  intro hinterrupt
  subst hinterrupt
  have hkind : kind = .interrupt := by
    cases kind with
    | interrupt => rfl
    | _ => cases hcatches
  exact h hkind

/-- Faults at places that are the same and permitted are the same. -/
theorem fault_eq_of_alike {fault fault' : Fault}
    (h : fault.Alike (fun a a' => a' = a ∧ P.Places a) fault') :
    fault' = fault ∧ P.Places fault.location? := by
  cases h with
  | malformed message h => exact ⟨by rw [h.1], h.2⟩
  | unbound message h => exact ⟨by rw [h.1], h.2⟩
  | mistyped message h => exact ⟨by rw [h.1], h.2⟩
  | runtime message h => exact ⟨by rw [h.1], h.2⟩
  | arity callee reason h => exact ⟨by rw [h.1], h.2⟩
  | raised kind message h => exact ⟨by rw [h.1], h.2⟩
  | overflow depth limit h => exact ⟨by rw [h.1], h.2⟩

variable (P) in
/-- What is the same and permitted is alike. -/
def likeness : Likeness where
  token t t' := t' = t ∧ P.place t.location
  place a a' := a' = a ∧ P.Places a
  frame id id' := id' = id ∧ P.frame id
  context context context' := context' = context ∧ P.context context
  ref r r' := r' = r
  errorClass := P.Classes
  held fault fault' := fault' = fault ∧ P.Holds fault
  builtin := P.Builtins
  object := P.object
  visible _ := True
  counter _ := True
  token_kind h := by rw [h.1]
  token_text h := by rw [h.1]
  token_place h := by
    rw [h.1]
    exact ⟨rfl, h.2⟩
  place_or ha hb := by
    rw [ha.1, hb.1]
    exact ⟨rfl, ha.2.or hb.2⟩
  ref_eq_iff ha hb := by rw [ha, hb]
  errorClass_of_catches := Classes.of_catches
  held_of_alike h hkind := by
    obtain ⟨heq, hplace⟩ := fault_eq_of_alike h
    exact ⟨heq, hkind, fun _ => hplace⟩
  held_interrupted h := ⟨rfl, h, fun hne => absurd rfl hne⟩
  held_kind h := by rw [h.1]
  held_message h := by rw [h.1]
  held_errorClass h := h.2.1

/-! ### What is alike is the same -/

theorem likeness_exact : P.likeness.Exact :=
  ⟨fun h => h.1, fun h => h.1⟩

theorem node_eq {node node' : Node} (h : node.Alike P.likeness node') : node' = node :=
  likeness_exact.node_eq h

theorem nodes_eq {nodes nodes' : List Node}
    (h : List.Forall₂ (Node.Alike P.likeness) nodes nodes') : nodes' = nodes :=
  likeness_exact.nodes_eq h

theorem closure_eq {closure closure' : Closure} (h : closure.Alike P.likeness closure') :
    closure' = closure := by
  obtain ⟨hname, hsignature, hbody, hframe, hcontext, hlocation⟩ := h
  have hnodes := nodes_eq hbody
  have hid : closure'.frame = closure.frame := hframe.1
  have hsettings : closure'.context = closure.context := hcontext.1
  have hplace : closure'.location = closure.location := hlocation.1
  cases closure
  cases closure'
  simp_all only

/-- Bindings with the same keys and the same values are the same. -/
theorem bindings_ext {κ : Type} {bindings bindings' : Bindings κ Value}
    (hkeys : Bindings.keys bindings' = Bindings.keys bindings)
    (hvalues : bindings'.map Prod.snd = bindings.map Prod.snd) : bindings' = bindings := by
  have hlength : bindings'.length = bindings.length := by
    simpa using congrArg List.length hvalues
  refine List.ext_getElem hlength fun i hi hi' => Prod.ext ?_ ?_
  · have hkey := congrArg (·[i]?) hkeys
    simpa [Bindings.keys, hi, hi'] using hkey
  · have hvalue := congrArg (·[i]?) hvalues
    simpa [hi, hi'] using hvalue

mutual

theorem value_eq {value value' : Value} (h : value.Alike P.likeness value') : value' = value := by
  cases h with
  | list h => rw [values_eq h]
  | @dict entries entries' hkeys h =>
    have hsize := Bindings.sizeOf_values_le entries
    rw [bindings_ext hkeys (values_eq h)]
  | function href h => rw [href, closure_eq h]
  | builtin href h => rw [href]
  | exception href h => rw [href, h.1]
  | object href h => rw [href]
  | @module ref ref' href name members members' hnames h =>
    have hsize := Bindings.sizeOf_values_le members
    rw [href, bindings_ext hnames (values_eq h)]
  | _ => rfl
termination_by sizeOf value

theorem values_eq {values values' : List Value} (h : Value.AllAlike P.likeness values values') :
    values' = values := by
  cases h with
  | nil => rfl
  | cons hvalue hvalues => rw [value_eq hvalue, values_eq hvalues]
termination_by sizeOf values

end

theorem bindings_eq {κ : Type} {bindings bindings' : Bindings κ Value}
    (h : Bindings.Alike P.likeness bindings bindings') : bindings' = bindings := by
  obtain ⟨hkeys, hvalues⟩ := Bindings.Alike.iff_keys_values.mp h
  exact bindings_ext hkeys (values_eq hvalues)

/-- Anything may be around. -/
def anything : Policy :=
  {}

theorem anything_places (place : Option Location) : anything.Places place := by
  cases place with
  | none => trivial
  | some location => trivial

theorem anything_builtins (b : Builtin) : anything.Builtins b := by
  cases b with
  | host name arity key => trivial
  | _ => trivial

/-! ### What is permitted -/

variable (P)

/-- Nothing occurs in the node but what may be around. -/
def PermitsNode (node : Node) : Prop :=
  node.Alike P.likeness node

/-- Nothing occurs in the value but what may be around. -/
def PermitsValue (value : Value) : Prop :=
  value.Alike P.likeness value

/-- All values of the bindings are permitted. -/
def PermitsBindings {κ : Type} (bindings : Bindings κ Value) : Prop :=
  ∀ key value, (key, value) ∈ bindings → P.PermitsValue value

/-- All that a run can get hold of in a machine is permitted. -/
structure PermitsMachine (machine : Machine) : Prop where
  /-- In the frames that functions may be over, all variables are permitted. -/
  frames : ∀ id, P.frame id → P.PermitsBindings (machine.frame id)
  /-- All modules are permitted. -/
  modules : P.PermitsBindings machine.modules
  /-- Functions may be over new frames. -/
  fresh : ∀ id, machine.frames.size ≤ id → P.frame id

variable {P}

theorem permitsBindings_iff {κ : Type} {bindings : Bindings κ Value} :
    P.PermitsBindings bindings ↔ Bindings.Alike P.likeness bindings bindings := by
  unfold Bindings.Alike
  rw [List.forall₂_same]
  constructor
  · intro h pair hpair
    exact ⟨rfl, h pair.1 pair.2 hpair⟩
  · intro h key value hmem
    exact (h _ hmem).2

theorem permitsNodes_iff {nodes : List Node} :
    List.Forall₂ (Node.Alike P.likeness) nodes nodes ↔ ∀ node ∈ nodes, P.PermitsNode node :=
  List.forall₂_same

/-- A machine is permitted if all that a run can get hold of is. -/
theorem permitsMachine_iff {machine : Machine} :
    P.PermitsMachine machine ↔ machine.SelfAlike P.likeness := by
  constructor
  · intro h
    exact ⟨fun id hid => permitsBindings_iff.mp (h.frames id hid.2),
      permitsBindings_iff.mp h.modules, fun id hid => ⟨rfl, h.fresh id hid⟩⟩
  · intro h
    exact ⟨fun id hid => permitsBindings_iff.mpr (h.frames id ⟨rfl, hid⟩),
      permitsBindings_iff.mpr h.modules, fun id hid => (h.fresh id hid).2⟩

namespace PermitsMachine

variable {machine : Machine}

theorem of_eq (h : P.PermitsMachine machine) {machine' : Machine}
    (hframes : machine'.frames = machine.frames) (hmodules : machine'.modules = machine.modules) :
    P.PermitsMachine machine' :=
  permitsMachine_iff.mpr ((permitsMachine_iff.mp h).of_eq hframes hmodules)

theorem addFrame (h : P.PermitsMachine machine) {frame : Frame} (hframe : P.PermitsBindings frame) :
    P.PermitsMachine (machine.addFrame frame) :=
  permitsMachine_iff.mpr ((permitsMachine_iff.mp h).addFrame (permitsBindings_iff.mp hframe))

theorem define (h : P.PermitsMachine machine) (id : FrameId) (name : String) {value : Value}
    (hvalue : P.PermitsValue value) :
    P.PermitsMachine (machine.define id name value) :=
  permitsMachine_iff.mpr ((permitsMachine_iff.mp h).define id name hvalue)

end PermitsMachine

/-! ### Runs -/

variable (P) in
/-- The runs of one program side by side.  If no interruption can be handled, the second run may
replace one by a stop that nothing handles. -/
def correspondence : Correspondence where
  toLikeness := P.likeness
  machine m m' := m' = m ∧ P.PermitsMachine m
  interruption stop := stop = .fault .interrupted ∨ stop.isFault = false ∧ ¬ P.interrupts
  visible_of_token _ _ := trivial
  visible_get := trivial
  visible_resolver _ := trivial
  interruption_self := .inl rfl
  interruption_cases h := h.imp_right fun h => ⟨h.1, fun hclass => h.2 (hclass rfl)⟩
  lookup {m m'} h id id' hid name _ := by
    obtain ⟨rfl, hm⟩ := h
    obtain ⟨rfl, hframe⟩ := hid
    exact (permitsBindings_iff.mp (hm.frames _ hframe)).find? name
  registered h name := by
    obtain ⟨rfl, hm⟩ := h
    exact (permitsBindings_iff.mp hm.modules).find? name
  counter_eq h _ _ := by rw [h.1]
  overlay {m m'} h id id' hid more more' hmore := by
    obtain ⟨rfl, hm⟩ := h
    obtain ⟨rfl, hframe⟩ := hid
    have hcopy := permitsBindings_iff.mp (hm.frames _ hframe)
    have hall := hcopy.insertAll hmore
    rw [bindings_eq hmore] at hall ⊢
    exact ⟨⟨rfl, hm.addFrame (permitsBindings_iff.mpr hall)⟩, rfl, hm.fresh _ (Nat.le_refl _)⟩
  define {m m'} h id id' hid name value value' hvalue := by
    obtain ⟨rfl, hm⟩ := h
    obtain ⟨rfl, hframe⟩ := hid
    obtain rfl := value_eq hvalue
    exact ⟨rfl, hm.define _ name hvalue⟩
  nextRef h := by
    obtain ⟨rfl, hm⟩ := h
    exact ⟨⟨rfl, hm.of_eq rfl rfl⟩, rfl⟩
  printed h text := by
    obtain ⟨rfl, hm⟩ := h
    exact ⟨rfl, hm.of_eq rfl rfl⟩
  resolving h name := by
    obtain ⟨rfl, hm⟩ := h
    exact ⟨rfl, hm.of_eq rfl rfl⟩
  interrupting h _ _ := by
    obtain ⟨rfl, hm⟩ := h
    exact ⟨rfl, hm.of_eq rfl rfl⟩

/-- **Evaluation stays within its policy**, as permitted machines stay so around each node. -/
theorem enters (P : Policy) : P.correspondence.Enters where
  oracle h rule nodes nodes' hnodes := by rw [h.1, nodes_eq hnodes]
  interrupted_eq h m m' hm := by rw [h.1, hm.1]
  depth_eq h m m' hm := by rw [h.1, hm.1]
  maxDepth_eq h := by rw [h.1]
  room_eq hm := by rw [hm.1]
  inside h m m' hm node node' hnode := by
    obtain ⟨rfl, -⟩ := h
    obtain ⟨rfl, hm⟩ := hm
    obtain rfl := node_eq hnode
    exact ⟨rfl, hm.of_eq rfl rfl⟩
  outside h m m' hm room := by
    obtain ⟨rfl, -⟩ := h
    obtain ⟨rfl, hm⟩ := hm
    exact ⟨rfl, hm.of_eq rfl rfl⟩

theorem reports (P : Policy) : P.correspondence.Reports := by
  rintro m m' ⟨rfl, hm⟩ node node' hnode
  obtain rfl := node_eq hnode
  exact ⟨rfl, hm.of_eq rfl rfl⟩

/-- The settings are permitted, and so is what their host does. -/
structure Admits (P : Policy) (config : Config) : Prop where
  /-- New functions are made in a context that is permitted. -/
  context : P.context config.toContext
  /-- The code of the host stays within the policy. -/
  hosts : config.hosts.Respect P.likeness

theorem Admits.contextAlike {config : Config} (h : P.Admits config) :
    P.correspondence.context config.toContext config.toContext :=
  ⟨rfl, h.context⟩

/-! ### Runs on certain machines -/

variable (P) in
/-- The runs of one program side by side, on machines that a contract assumes. -/
def assuming (C : Contract) (hwritable : ∀ id, C.Writable id) : Correspondence where
  toLikeness := P.likeness
  machine m m' := P.correspondence.machine m m' ∧ C.Before m
  interruption := P.correspondence.interruption
  visible_of_token := P.correspondence.visible_of_token
  visible_get := P.correspondence.visible_get
  visible_resolver := P.correspondence.visible_resolver
  interruption_self := P.correspondence.interruption_self
  interruption_cases := P.correspondence.interruption_cases
  lookup h := P.correspondence.lookup h.1
  registered h := P.correspondence.registered h.1
  counter_eq h := P.correspondence.counter_eq h.1
  overlay h id id' hid more more' hmore := by
    obtain ⟨hm, hframe⟩ := P.correspondence.overlay h.1 hid hmore
    exact ⟨⟨hm, C.before h.2 (C.addFrame h.2 _).1⟩, hframe⟩
  define h id id' hid name value value' hvalue :=
    ⟨P.correspondence.define h.1 hid name hvalue,
      C.before h.2 (C.define h.2 (hwritable id) name value)⟩
  nextRef h := by
    obtain ⟨hm, href⟩ := P.correspondence.nextRef h.1
    exact ⟨⟨hm, C.before h.2 (C.change h.2 .ref)⟩, href⟩
  printed h text :=
    ⟨P.correspondence.printed h.1 text, C.before h.2 (C.change h.2 (.printed text))⟩
  resolving h name :=
    ⟨P.correspondence.resolving h.1 name, C.before h.2 (C.change h.2 (.resolving name))⟩
  interrupting h flag interrupted :=
    ⟨P.correspondence.interrupting h.1 flag interrupted,
      C.before h.2 (C.change h.2 (.interrupted flag interrupted))⟩

/-- Which stops are alike does not depend on what is assumed. -/
theorem stopAlike_assuming {C : Contract} {hwritable : ∀ id, C.Writable id} {stop stop' : Stop} :
    (P.assuming C hwritable).StopAlike stop stop' ↔ P.correspondence.StopAlike stop stop' := by
  constructor
  all_goals
    intro h
    cases h with
    | fault h => exact .fault h
    | interrupted h => exact .interrupted h
    | outOfBounds => exact .outOfBounds
    | outOfLevels => exact .outOfLevels

/-! ### Single runs -/

/-- The outcome of a run is permitted: its value, or the place of its fault, and the machine. -/
def PermitsOutcome (P : Policy) : EStateM.Result Stop Machine Value → Prop
  | .ok value machine => P.PermitsValue value ∧ P.PermitsMachine machine
  | .error stop machine =>
    (∀ fault, stop = .fault fault → fault ≠ .interrupted → P.Places fault.location?) ∧
      P.PermitsMachine machine

theorem permitsOutcome_of_alike {result result' : EStateM.Result Stop Machine Value}
    (h : P.correspondence.OutcomeAlike P.correspondence.StopAlike P.correspondence.ValueAlike result
      result') : P.PermitsOutcome result := by
  cases h with
  | ok hvalue hm =>
    obtain rfl := value_eq hvalue
    exact ⟨hvalue, hm.2⟩
  | error hstop hm =>
    refine ⟨fun fault hfault hne => ?_, hm.2⟩
    subst hfault
    cases hstop with
    | fault h => exact (fault_eq_of_alike h).2
    | interrupted h => exact absurd rfl hne

/-- Under a policy that lets interruptions be handled, runs that go alike go the same way. -/
theorem eq_of_alike (hinterrupts : P.interrupts)
    {result result' : EStateM.Result Stop Machine Value}
    (h : P.correspondence.OutcomeAlike P.correspondence.CallStopAlike P.correspondence.ValueAlike
      result result') : result' = result := by
  cases h with
  | ok hvalue hm => rw [value_eq hvalue, hm.1]
  | error hstop hm =>
    rw [hm.1]
    cases hstop with
    | called h => rfl
    | settled hstop =>
      cases hstop with
      | fault h => rw [(fault_eq_of_alike h).1]
      | outOfBounds => rfl
      | outOfLevels => rfl
      | interrupted h =>
        rcases h with rfl | ⟨-, hno⟩
        · rfl
        · exact absurd hinterrupts hno

theorem eq_of_alike_assuming (hinterrupts : P.interrupts) {C : Contract}
    {hwritable : ∀ id, C.Writable id} {result result' : EStateM.Result Stop Machine Value}
    (h : (P.assuming C hwritable).OutcomeAlike (P.assuming C hwritable).CallStopAlike
      P.correspondence.ValueAlike result result') : result' = result := by
  refine eq_of_alike hinterrupts ?_
  cases h with
  | ok hvalue hm => exact .ok hvalue hm.1
  | error hstop hm =>
    refine .error ?_ hm.1
    cases hstop with
    | settled h => exact .settled (stopAlike_assuming.mp h)
    | called h => exact .called h

/-! ### Sessions -/

theorem defineBuiltins_alike {frame : FrameId} (hframe : P.frame frame) {builtins : List Builtin}
    (h : ∀ b ∈ builtins, P.Builtins b) :
    P.correspondence.Alike (fun _ _ => True) (Eval.defineBuiltins frame builtins)
      (Eval.defineBuiltins frame builtins) := by
  induction builtins with
  | nil => exact .pure trivial
  | cons b builtins ih =>
    obtain ⟨hb, hrest⟩ := List.forall_mem_cons.mp h
    have hhere : P.correspondence.frame frame frame := ⟨rfl, hframe⟩
    have hdefine : P.correspondence.Alike (fun _ _ => True) (Eval.defineBuiltin frame b)
        (Eval.defineBuiltin frame b) := by
      refine .bind Correspondence.freshRef fun ref ref' href => ?_
      exact Correspondence.defineIn hhere b.name (.builtin href hb)
    exact .bind hdefine fun _ _ _ => ih hrest

theorem defineClasses_alike {frame : FrameId} (hframe : P.frame frame) {kinds : List Fault.Kind}
    (h : ∀ kind ∈ kinds, P.Classes kind) :
    P.correspondence.Alike (fun _ _ => True) (Eval.defineClasses frame kinds)
      (Eval.defineClasses frame kinds) := by
  induction kinds with
  | nil => exact .pure trivial
  | cons kind kinds ih =>
    obtain ⟨hkind, hrest⟩ := List.forall_mem_cons.mp h
    have hhere : P.correspondence.frame frame frame := ⟨rfl, hframe⟩
    have hdefine : P.correspondence.Alike (fun _ _ => True)
        (Eval.define frame kind.name (.errorClass kind))
        (Eval.define frame kind.name (.errorClass kind)) :=
      Correspondence.defineIn hhere kind.name (.errorClass hkind)
    exact .bind hdefine fun _ _ _ => ih hrest

theorem permitsMachine_after {α : Type} {E : Stop → Stop → Prop} {R : α → α → Prop} {x : Eval α}
    {machine : Machine} {result : EStateM.Result Stop Machine α}
    (h : P.correspondence.OutcomeAlike E R (x machine) result) :
    P.PermitsMachine (x.after machine) := by
  unfold Eval.after
  generalize x machine = outcome at h ⊢
  cases h with
  | ok h hm => exact hm.2
  | error h hm => exact hm.2

theorem builtins_of_not_host {b : Builtin} (h : b.isHost = false) : P.Builtins b := by
  cases b with
  | host name arity key => cases h
  | _ => trivial

theorem bare_permits (hframe : ∀ id, P.frame id) : P.PermitsMachine Session.bare.machine := by
  refine ⟨fun id _ => ?_, ?_, fun id _ => hframe id⟩
  · have hempty : Session.bare.machine.frame id = [] := by
      cases id with
      | zero => rfl
      | succ id => rfl
    rw [hempty]
    intro key value hmem
    cases hmem
  · intro key value hmem
    cases hmem

/-- **The prelude fits every policy**: it has no class for interruptions, and none of its builtins
belongs to a host. -/
theorem standard_permits (config : Config) (hframe : ∀ id, P.frame id) :
    P.PermitsMachine (Session.standard config).machine := by
  have hbuiltins : ∀ b ∈ Prelude.builtins, b.isHost = false := by decide
  have hresolvers : ∀ b ∈ Prelude.resolvers, b.isHost = false := by decide
  have hclasses : ∀ kind ∈ Prelude.classes, P.Classes kind := by
    intro kind hkind hinterrupt
    subst hinterrupt
    exact absurd hkind (by decide)
  have hload : P.correspondence.Alike (fun _ _ => True) (Eval.loadPrelude Session.root)
      (Eval.loadPrelude Session.root) :=
    .bind (defineBuiltins_alike (hframe _) fun b hb => builtins_of_not_host (hbuiltins b hb))
      fun _ _ _ => defineClasses_alike (hframe _) hclasses
  have hinstall : P.correspondence.Alike (fun _ _ => True) (Eval.installResolvers Session.root)
      (Eval.installResolvers Session.root) :=
    defineBuiltins_alike (hframe _) fun b hb => builtins_of_not_host (hresolvers b hb)
  have hall := hload.bind fun _ _ _ => hinstall
  unfold Session.standard
  dsimp only
  rw [Session.run_machine]
  exact permitsMachine_after (hall _ _ ⟨rfl, (bare_permits hframe).of_eq rfl rfl⟩)

end Policy

end FrameLisp
