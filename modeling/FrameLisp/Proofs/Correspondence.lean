import FrameLisp.Evaluation
import FrameLisp.Proofs.Likeness.Host
import FrameLisp.Proofs.Likeness.Operation

/-!
# Corresponding runs

A `Correspondence` takes a likeness to machines: it says which machines are alike, and that they
stay so under the few things that evaluation does to them.  If the nodes inside are evaluated alike
by two evaluators, under contexts that are alike, then so is everything that is built from them.
This module follows calls; the forms are in `FrameLisp.Proofs.Correspondence.Forms`.

Two things are left open for the sake of the runs that are compared.  Not every variable has to be
alike in both machines, only those that are `visible`, which the names in the nodes at hand must be.
And an interruption of the first run may be answered in the second by a stop that nothing can
handle; then no error class may be around that would let the first run handle it.

A called function may fail without saying where; such faults are the same in both runs, and become
alike once the call supplies a place.  That is why there are two relations between ways to stop,
`Correspondence.StopAlike` and `Correspondence.CallStopAlike`.
-/

namespace FrameLisp

/-- Whether the computation stops with a fault. -/
def Stop.isFault : Stop → Bool
  | fault _ => true
  | _ => false

theorem Stop.interrupted_self : fault .interrupted = fault .interrupted := rfl

/-- What counts as alike in two runs, and which machines are alike. -/
structure Correspondence extends Likeness where
  /-- Machines that are alike. -/
  machine : Machine → Machine → Prop
  /-- What an interruption of the first run may be in the second. -/
  interruption : Stop → Prop
  /-- A name that is evaluated is visible. -/
  visible_of_token {t t' : Token} (h : token t t') (hkind : t.kind = .identifier) : visible t.text
  /-- What keywords and patterns are looked up with is visible. -/
  visible_get : visible "get"
  /-- What modules are found with is visible. -/
  visible_resolver (resolver : Resolver) : visible resolver.name
  /-- It may be an interruption. -/
  interruption_self : interruption (.fault .interrupted)
  /-- An interruption is one in both runs, or it cannot be handled in either. -/
  interruption_cases {stop : Stop} (h : interruption stop) : stop = .fault .interrupted ∨
    stop.isFault = false ∧ ¬ errorClass .interrupt
  /-- Visible variables are alike. -/
  lookup {m m' : Machine} (h : machine m m') {id id' : FrameId} (hid : frame id id') {name : String}
    (hname : visible name) :
    Option.Rel (Value.Alike toLikeness) (m.lookup? id name) (m'.lookup? id' name)
  /-- Registered modules are alike. -/
  registered {m m' : Machine} (h : machine m m') (name : String) :
    Option.Rel (Value.Alike toLikeness) (Bindings.find? name m.modules)
      (Bindings.find? name m'.modules)
  /-- Counters that may be read are alike. -/
  counter_eq {m m' : Machine} (h : machine m m') {n : Nat} (hcounter : counter n) :
    m'.depth n = m.depth n
  /-- New frames are alike, and so are the machines that have them. -/
  overlay {m m' : Machine} (h : machine m m') {id id' : FrameId} (hid : frame id id')
    {more more' : List (String × Value)} (hmore : Bindings.Alike toLikeness more more') :
    machine (m.addFrame ((m.frame id).insertAll more))
        (m'.addFrame ((m'.frame id').insertAll more')) ∧
      frame m.frames.size m'.frames.size
  /-- Variables may be bound. -/
  define {m m' : Machine} (h : machine m m') {id id' : FrameId} (hid : frame id id') (name : String)
    {value value' : Value} (hvalue : value.Alike toLikeness value') :
    machine (m.define id name value) (m'.define id' name value')
  /-- Values may be told apart by new `ref`s. -/
  nextRef {m m' : Machine} (h : machine m m') :
    machine { m with nextRef := m.nextRef + 1 } { m' with nextRef := m'.nextRef + 1 } ∧
      ref m.nextRef m'.nextRef
  /-- The same line may be printed. -/
  printed {m m' : Machine} (h : machine m m') (text : String) :
    machine { m with printed := m.printed ++ text ++ "\n" }
      { m' with printed := m'.printed ++ text ++ "\n" }
  /-- The same module may be looked for. -/
  resolving {m m' : Machine} (h : machine m m') (name : String) :
    machine { m with events := m.events.push (.resolving name) }
      { m' with events := m'.events.push (.resolving name) }
  /-- An interruption may be asked for, or that may be taken back. -/
  interrupting {m m' : Machine} (h : machine m m') (flag : Nat) (interrupted : Bool) :
    machine { m with interrupted := m.interrupted.set flag interrupted }
      { m' with interrupted := m'.interrupted.set flag interrupted }

namespace Correspondence

variable (C : Correspondence) {α β γ δ : Type}

/-! ### Computations -/

/-- Ways to stop that are alike. -/
inductive StopAlike : Stop → Stop → Prop
  /-- Faults that are alike. -/
  | fault {fault fault' : Fault} (h : fault.Alike C.place fault') :
    StopAlike (.fault fault) (.fault fault')
  /-- An interruption and what it may be in the second run. -/
  | interrupted {stop : Stop} (h : C.interruption stop) : StopAlike (.fault .interrupted) stop
  /-- Accesses out of bounds. -/
  | outOfBounds : StopAlike .outOfBounds .outOfBounds
  /-- Too few levels. -/
  | outOfLevels : StopAlike .outOfLevels .outOfLevels

/-- Ways for calls to stop that are alike. -/
inductive CallStopAlike : Stop → Stop → Prop
  /-- It has been said where. -/
  | settled {stop stop' : Stop} (h : C.StopAlike stop stop') : CallStopAlike stop stop'
  /-- The call has not supplied a place yet. -/
  | called {fault : Fault} (h : fault.isCalled = true) :
    CallStopAlike (.fault fault) (.fault fault)

/-- Outcomes with stops related by `E`, values related by `R`, and machines that are alike. -/
inductive OutcomeAlike (E : Stop → Stop → Prop) (R : α → β → Prop) :
    EStateM.Result Stop Machine α → EStateM.Result Stop Machine β → Prop
  /-- Both have a value. -/
  | ok {a : α} {b : β} (h : R a b) {m m' : Machine} (hm : C.machine m m') :
    OutcomeAlike E R (.ok a m) (.ok b m')
  /-- Both stopped. -/
  | error {stop stop' : Stop} (h : E stop stop') {m m' : Machine} (hm : C.machine m m') :
    OutcomeAlike E R (.error stop m) (.error stop' m')

/-- Computations whose outcomes are alike on all machines that are alike. -/
def Parallel (E : Stop → Stop → Prop) (R : α → β → Prop) (x : Eval α) (y : Eval β) : Prop :=
  ∀ m m', C.machine m m' → C.OutcomeAlike E R (x m) (y m')

/-- Computations that go alike. -/
abbrev Alike (R : α → β → Prop) (x : Eval α) (y : Eval β) : Prop :=
  C.Parallel C.StopAlike R x y

/-- Calls that go alike, up to where they fail. -/
abbrev CallAlike (R : α → β → Prop) (x : Eval α) (y : Eval β) : Prop :=
  C.Parallel C.CallStopAlike R x y

/-- Evaluators under which nodes that are alike go alike. -/
abbrev EvaluatorAlike (e e' : Evaluator) : Prop :=
  ∀ {node node' : Node} {frame frame' : FrameId}, node.Alike C.toLikeness node' →
    C.frame frame frame' → C.Alike (Value.Alike C.toLikeness) (e node frame) (e' node' frame')

/-- The oracles give nodes that are alike one verdict. -/
abbrev OracleAlike (context context' : Context) : Prop :=
  ∀ (rule : String) {nodes nodes' : List Node},
    List.Forall₂ (Node.Alike C.toLikeness) nodes nodes' →
      context'.oracle rule nodes' = context.oracle rule nodes

/-- Contexts that are alike, under which nodes that are alike are judged alike. -/
structure ContextAlike (context context' : Context) : Prop where
  /-- The contexts are alike. -/
  related : C.context context context'
  /-- The oracles give nodes that are alike one verdict. -/
  oracle : C.OracleAlike context context'

/-- Nodes go alike under the evaluators for contexts that are alike, and so does what the host
adds. -/
structure Carries (hosts : Hosts) (e e' : Context → Evaluator) : Prop where
  /-- Nodes. -/
  nodes {context context' : Context} (h : C.context context context') :
    C.EvaluatorAlike (e context) (e' context')
  /-- Functions and methods of the host. -/
  hosts : hosts.Respect C.toLikeness

variable {C} {E : Stop → Stop → Prop} {R : α → β → Prop} {S : γ → δ → Prop}

theorem Parallel.pure {a : α} {b : β} (h : R a b) :
    C.Parallel E R (Pure.pure a : Eval α) (Pure.pure b) :=
  fun _ _ hm => .ok h hm

theorem Parallel.throw {stop stop' : Stop} (h : E stop stop') :
    C.Parallel E R (throw stop : Eval α) (throw stop') :=
  fun _ _ hm => .error h hm

theorem Parallel.bind {x : Eval α} {y : Eval β} {f : α → Eval γ} {g : β → Eval δ}
    (hx : C.Parallel E R x y) (hf : ∀ a b, R a b → C.Parallel E S (f a) (g b)) :
    C.Parallel E S (x >>= f) (y >>= g) := by
  intro m m' hm
  show C.OutcomeAlike E S (EStateM.bind x f m) (EStateM.bind y g m')
  unfold EStateM.bind
  match x m, y m', hx m m' hm with
  | _, _, .ok h hm => exact hf _ _ h _ _ hm
  | _, _, .error h hm => exact .error h hm

theorem Parallel.mono {E' : Stop → Stop → Prop} {x : Eval α} {y : Eval β}
    (hx : C.Parallel E R x y) (h : ∀ stop stop', E stop stop' → E' stop stop') :
    C.Parallel E' R x y := by
  intro m m' hm
  match x m, y m', hx m m' hm with
  | _, _, .ok ha hm => exact .ok ha hm
  | _, _, .error he hm => exact .error (h _ _ he) hm

theorem Parallel.settled {x : Eval α} {y : Eval β} (hx : C.Alike R x y) : C.CallAlike R x y :=
  hx.mono fun _ _ => .settled

theorem fail {fault fault' : Fault} (h : fault.Alike C.place fault') :
    C.Alike R (Eval.fail fault : Eval α) (Eval.fail fault') :=
  .throw (.fault h)

theorem failCalled {fault : Fault} (h : fault.isCalled = true) :
    C.CallAlike R (Eval.fail fault : Eval α) (Eval.fail fault) :=
  .throw (.called h)

/-- A step of the machine that is taken in both runs. -/
theorem step {f : Machine → α × Machine} {g : Machine → β × Machine}
    (h : ∀ {m m'}, C.machine m m' → R (f m).1 (g m').1 ∧ C.machine (f m).2 (g m').2) :
    C.Parallel E R (modifyGet f : Eval α) (modifyGet g) :=
  fun _ _ hm => .ok (h hm).1 (h hm).2

/-- Something is read off the machine in both runs. -/
theorem read {f : Machine → α} {g : Machine → β} (h : ∀ {m m'}, C.machine m m' → R (f m) (g m')) :
    C.Parallel E R (do return f (← get) : Eval α) (do return g (← get)) :=
  fun _ _ hm => .ok (h hm) hm

/-! ### Places and handlers -/

/-- **Once a place is supplied, calls that go alike go alike in all.** -/
theorem located {location location' : Option Location} (hlocation : C.place location location')
    {x : Eval α} {y : Eval β} (hx : C.CallAlike R x y) :
    C.Alike R (Eval.located location x) (Eval.located location' y) := by
  intro m m' hm
  have houtcome := hx m m' hm
  unfold Eval.located
  generalize x m = result at houtcome ⊢
  generalize y m' = result' at houtcome ⊢
  cases houtcome with
  | ok h hm => exact .ok h hm
  | error h hm =>
    cases h with
    | called h => exact .error (.fault (Fault.isCalled.alike_orAt h hlocation)) hm
    | settled h =>
      cases h with
      | fault h => exact .error (.fault (h.orAt hlocation)) hm
      | outOfBounds => exact .error .outOfBounds hm
      | outOfLevels => exact .error .outOfLevels hm
      | interrupted h =>
        -- no place is supplied to an interruption, nor to what it is in the second run
        rcases C.interruption_cases h with rfl | ⟨hfatal, -⟩
        · exact .error (.interrupted h) hm
        · rename_i stop' _ _
          cases stop' with
          | fault fault => cases hfatal
          | outOfBounds => exact .error (.interrupted h) hm
          | outOfLevels => exact .error (.interrupted h) hm

/-- **Handlers of one kind handle faults that are alike.**  An interruption that is handled is one
in both runs. -/
theorem handling {kind : Fault.Kind} (hkind : C.errorClass kind) {h h' : Fault → Eval α}
    {x y : Eval α} {R : α → α → Prop} (hx : C.Alike R x y)
    (hh : ∀ fault fault', C.held fault fault' → C.Alike R (h fault) (h' fault')) :
    C.Alike R (Eval.handling (fun fault => kind.catches fault.kind) h x)
      (Eval.handling (fun fault => kind.catches fault.kind) h' y) := by
  intro m m' hm
  have houtcome := hx m m' hm
  unfold Eval.handling
  generalize x m = result at houtcome ⊢
  generalize y m' = result' at houtcome ⊢
  cases houtcome with
  | ok ha hm => exact .ok ha hm
  | error hstop hm =>
    cases hstop with
    | outOfBounds => exact .error .outOfBounds hm
    | outOfLevels => exact .error .outOfLevels hm
    | fault hfault =>
      simp only [hfault.kind_eq]
      split
      · rename_i hcatches
        have hclass := C.errorClass_of_catches hkind hcatches
        exact hh _ _ (C.held_of_alike hfault hclass) _ _ hm
      · exact .error (.fault hfault) hm
    | interrupted h =>
      rcases C.interruption_cases h with rfl | ⟨hfatal, hclass⟩
      · dsimp only
        split
        · rename_i hcatches
          have hclass := C.errorClass_of_catches hkind hcatches
          exact hh _ _ (C.held_interrupted hclass) _ _ hm
        · exact .error (.interrupted h) hm
      · have hpasses : ¬ kind.catches Fault.interrupted.kind = true :=
          fun hcatches => hclass (C.errorClass_of_catches hkind hcatches)
        dsimp only
        rw [if_neg hpasses]
        rename_i stop' _ _
        cases stop' with
        | fault fault => cases hfatal
        | outOfBounds => exact .error (.interrupted h) hm
        | outOfLevels => exact .error (.interrupted h) hm

/-! ### Small steps -/

theorem orFail {fault fault' : Fault} (hfault : fault.Alike C.place fault') {found : Option α}
    {found' : Option β} (h : Option.Rel R found found') :
    C.Alike R (Eval.orFail fault found) (Eval.orFail fault' found') := by
  cases h with
  | none => exact fail hfault
  | some h => exact .pure h

theorem inBounds {found : Option α} {found' : Option β} (h : Option.Rel R found found') :
    C.Alike R (Eval.inBounds found) (Eval.inBounds found') := by
  cases h with
  | none => exact .throw .outOfBounds
  | some h => exact .pure h

theorem item {items : List α} {items' : List β} (h : List.Forall₂ R items items') (i : Nat) :
    C.Alike R (Eval.inBounds items[i]?) (Eval.inBounds items'[i]?) :=
  inBounds (rel_getElem? h i)

theorem sliceFrom {items : List α} {items' : List β} (h : List.Forall₂ R items items') (i : Nat) :
    C.Alike (List.Forall₂ R) (Eval.sliceFrom i items) (Eval.sliceFrom i items') := by
  unfold Eval.sliceFrom
  rw [h.length_eq]
  split
  · exact .pure (List.forall₂_drop i h)
  · exact .throw .outOfBounds

theorem ofExcept {x : Except Stop α} {y : Except Stop β} (h : Matches E R x y) :
    C.Parallel E R (Eval.ofExcept x) (Eval.ofExcept y) := by
  cases h with
  | ok h => exact .pure h
  | error h => exact .throw h

/-- A computation without effects that fails as called functions do. -/
theorem ofCalled {x y : Except Stop Value} (h : GiveAlike C.toLikeness x y) (hx : StopsAsCalled x) :
    C.CallAlike (Value.Alike C.toLikeness) (Eval.ofExcept x) (Eval.ofExcept y) := by
  cases h with
  | ok h => exact .pure h
  | @error stop stop' h =>
    subst h
    have hcalled := hx stop rfl
    cases stop with
    | fault fault => exact .throw (.called hcalled)
    | outOfBounds => cases hcalled
    | outOfLevels => cases hcalled

theorem lookup? {frame frame' : FrameId} (hframe : C.frame frame frame') {name : String}
    (hname : C.visible name) :
    C.Parallel E (Option.Rel (Value.Alike C.toLikeness)) (Eval.lookup? frame name)
      (Eval.lookup? frame' name) :=
  read fun hm => C.lookup hm hframe hname

theorem defineIn {frame frame' : FrameId} (hframe : C.frame frame frame') (name : String)
    {value value' : Value} (hvalue : value.Alike C.toLikeness value') :
    C.Parallel E (fun _ _ => True) (Eval.define frame name value)
      (Eval.define frame' name value') :=
  step fun hm => ⟨trivial, C.define hm hframe name hvalue⟩

theorem overlayOn {frame frame' : FrameId} (hframe : C.frame frame frame')
    {bindings bindings' : List (String × Value)}
    (h : Bindings.Alike C.toLikeness bindings bindings') :
    C.Parallel E C.frame (Eval.overlay frame bindings) (Eval.overlay frame' bindings') :=
  step fun hm => (C.overlay hm hframe h).symm

theorem freshRef : C.Parallel E C.ref Eval.freshRef Eval.freshRef :=
  step fun hm => (C.nextRef hm).symm

theorem validate {config : Config} {context' : Context}
    (hcontext : C.ContextAlike config.toContext context') (rule : String)
    {nodes nodes' : List Node} (h : List.Forall₂ (Node.Alike C.toLikeness) nodes nodes')
    {location location' : Option Location} (hlocation : C.place location location') :
    C.Alike (fun _ _ => True) (config.validate rule nodes location)
      ((config.under context').validate rule nodes' location') := by
  unfold Config.validate
  rw [Config.toContext_under, hcontext.oracle rule h]
  split
  · exact .pure trivial
  · exact fail (.malformed _ hlocation)

/-- A name that is the same in both runs, and visible. -/
abbrev NameAlike (C : Correspondence) (name name' : String) : Prop :=
  name' = name ∧ C.visible name

theorem identifierFor (form : String) {node node' : Node} (h : node.Alike C.toLikeness node') :
    Matches (Fault.Alike C.place) C.NameAlike (node.identifierFor form)
      (node'.identifierFor form) := by
  unfold Node.identifierFor
  cases h with
  | literal h properties =>
    simp only [Node.identifier?, C.token_kind h, C.token_text h]
    split
    · rename_i name hname
      split at hname
      · rename_i hkind
        cases hname
        exact .ok ⟨rfl, C.visible_of_token h hkind⟩
      · cases hname
    · have hnode := Node.Alike.literal h properties
      rw [hnode.render]
      exact .error (.malformed _ hnode.location?)
  | form h properties inline hlocation =>
    have hnode := Node.Alike.form h properties inline hlocation
    dsimp only [Node.identifier?]
    rw [hnode.render]
    exact .error (.malformed _ hnode.location?)

theorem identifier (form : String) {node node' : Node} (h : node.Alike C.toLikeness node') :
    C.Alike C.NameAlike (Eval.identifier form node) (Eval.identifier form node') :=
  ofExcept ((identifierFor form h).lift fun _ _ => .fault)

/-! ### Modules -/

theorem resolve (name : String) :
    C.CallAlike (Value.Alike C.toLikeness) (Eval.resolve name) (Eval.resolve name) := by
  refine .bind (R := fun _ _ => True) (step fun hm => ⟨trivial, C.resolving hm name⟩)
    fun _ _ _ => ?_
  refine .bind (R := C.machine) (read id) fun m m' hm => ?_
  match Bindings.find? name m.modules, Bindings.find? name m'.modules, C.registered hm name with
  | _, _, .none => exact failCalled rfl
  | _, _, .some h => exact .pure h

theorem resolverRun {name name' : Value} (h : name.Alike C.toLikeness name') :
    C.CallAlike (Value.Alike C.toLikeness) (Resolver.run name) (Resolver.run name') := by
  have hfail : C.CallAlike (Value.Alike C.toLikeness)
      (Eval.fail (.moduleNameNotText name.shown)) (Eval.fail (.moduleNameNotText name'.shown)) := by
    rw [h.shown]
    exact failCalled rfl
  cases h with
  | str path => exact resolve path
  | symbol path => exact resolve path
  | _ => exact hfail

/-! ### The code of a host -/

theorem callStopAlike {fault fault' : Fault} (h : fault.CallAlike C.toLikeness fault') :
    C.CallStopAlike (.fault fault) (.fault fault') := by
  cases h with
  | settled h => exact .settled (.fault h)
  | called h => exact .called h
  | interrupted => exact .settled (.interrupted C.interruption_self)

/-- Going on from what comes of a call.  An interruption that is one in the first run only has to be
passed on. -/
theorem outcome {x : Eval α} {y : Eval β} {f : Except Fault α → Eval γ}
    {g : Except Fault β → Eval δ} (hx : C.CallAlike R x y)
    (hok : ∀ a b, R a b → C.CallAlike S (f (.ok a)) (g (.ok b)))
    (herror : ∀ fault fault', fault.CallAlike C.toLikeness fault' →
      C.CallAlike S (f (.error fault)) (g (.error fault')))
    (hpass : ¬ C.errorClass .interrupt → f (.error .interrupted) = Eval.fail .interrupted) :
    C.CallAlike S (Eval.outcome x >>= f) (Eval.outcome y >>= g) := by
  intro m m' hm
  have houtcome := hx m m' hm
  show C.OutcomeAlike C.CallStopAlike S (EStateM.bind (Eval.outcome x) f m)
    (EStateM.bind (Eval.outcome y) g m')
  unfold EStateM.bind Eval.outcome
  generalize x m = result at houtcome ⊢
  generalize y m' = result' at houtcome ⊢
  cases houtcome with
  | ok h hm => exact hok _ _ h _ _ hm
  | @error stop stop' hstop last last' hm =>
    cases hstop with
    | called h => exact herror _ _ (.called h) _ _ hm
    | settled hstop =>
      cases hstop with
      | fault h => exact herror _ _ (.settled h) _ _ hm
      | outOfBounds => exact .error (.settled .outOfBounds) hm
      | outOfLevels => exact .error (.settled .outOfLevels) hm
      | interrupted h =>
        rcases C.interruption_cases h with rfl | ⟨hfatal, hclass⟩
        · exact herror _ _ .interrupted _ _ hm
        · have hfails : f (.error .interrupted) last = .error (.fault .interrupted) last := by
            rw [hpass hclass]
            rfl
          dsimp only
          rw [hfails]
          cases stop' with
          | fault fault => cases hfatal
          | outOfBounds => exact .error (.settled (.interrupted h)) hm
          | outOfLevels => exact .error (.settled (.interrupted h)) hm

theorem run_of_eq_fail {code : HostCode} {fault : Fault} (h : code = .fail fault)
    (calls : ∀ callee args, code.Calls callee args → Eval Value) :
    code.run calls = Eval.fail fault := by
  subst h
  rfl

/-- **Code that is alike runs alike**, if its calls go alike. -/
theorem hostRun {code code' : HostCode} (hcode : code.Alike C.toLikeness code')
    {f : ∀ callee args, code.Calls callee args → Eval Value}
    {g : ∀ callee args, code'.Calls callee args → Eval Value}
    (hcalls : ∀ {callee callee' args args'}, callee.Alike C.toLikeness callee' →
      Value.AllAlike C.toLikeness args args' → ∀ h h',
        C.CallAlike (Value.Alike C.toLikeness) (f callee args h) (g callee' args' h')) :
    C.CallAlike (Value.Alike C.toLikeness) (code.run f) (code'.run g) := by
  induction hcode with
  | give h => exact .pure h
  | fail h => exact .throw (callStopAlike h)
  | call hcallee hargs hok herror hpass ihok iherror =>
    refine outcome (hcalls hcallee hargs .here .here) ?_ ?_ fun hclass => ?_
    · intro value value' hvalue
      exact ihok hvalue fun hcallee hargs h h' => hcalls hcallee hargs (.call _ h) (.call _ h')
    · intro fault fault' hfault
      exact iherror hfault fun hcallee hargs h h' => hcalls hcallee hargs (.call _ h) (.call _ h')
    · exact run_of_eq_fail (hpass hclass) _
  | print text h ih =>
    refine .bind (R := fun _ _ => True) (step fun hm => ⟨trivial, C.printed hm text⟩)
      fun _ _ _ => ?_
    exact ih fun hcallee hargs h h' => hcalls hcallee hargs (.print h) (.print h')
  | interrupt flag interrupted h ih =>
    refine .bind (R := fun _ _ => True)
      (step fun hm => ⟨trivial, C.interrupting hm flag interrupted⟩) fun _ _ _ => ?_
    exact ih fun hcallee hargs h h' => hcalls hcallee hargs (.interrupt h) (.interrupt h')
  | @depth counter hcounter next next' h ih =>
    refine .bind (R := C.machine) (read id) fun m m' hm => ?_
    dsimp only
    rw [C.counter_eq hm hcounter]
    exact ih _ fun hcallee hargs h h' => hcalls hcallee hargs (.depth _ h) (.depth _ h')
  | fresh h ih =>
    refine .bind freshRef fun ref ref' href => ?_
    exact ih href fun hcallee hargs h h' => hcalls hcallee hargs (.fresh _ h) (.fresh _ h')
  | lookup hframe hname h ih =>
    refine .bind (lookup? hframe hname) fun found found' hfound => ?_
    exact ih hfound fun hcallee hargs h h' => hcalls hcallee hargs (.lookup _ h) (.lookup _ h')
  | define hframe name hvalue h ih =>
    refine .bind (defineIn hframe name hvalue) fun _ _ _ => ?_
    exact ih fun hcallee hargs h h' => hcalls hcallee hargs (.define h) (.define h')

/-! ### Calls -/

variable {e e' : Evaluator}

theorem body (he : C.EvaluatorAlike e e') {frame frame' : FrameId} (hframe : C.frame frame frame')
    {last last' : Value} (hlast : last.Alike C.toLikeness last') {nodes nodes' : List Node}
    (h : List.Forall₂ (Node.Alike C.toLikeness) nodes nodes') :
    C.Alike (Value.Alike C.toLikeness) (Eval.body e frame last nodes)
      (Eval.body e' frame' last' nodes') := by
  induction h generalizing last last' with
  | nil => exact .pure hlast
  | cons hnode hnodes ih => exact .bind (he hnode hframe) fun _ _ hvalue => ih hvalue

theorem arguments (he : C.EvaluatorAlike e e') {frame frame' : FrameId}
    (hframe : C.frame frame frame') {nodes nodes' : List Node}
    (h : List.Forall₂ (Node.Alike C.toLikeness) nodes nodes') :
    C.Alike (Value.AllAlike C.toLikeness) (Eval.arguments e frame nodes)
      (Eval.arguments e' frame' nodes') := by
  induction h with
  | nil => exact .pure .nil
  | cons hnode hnodes ih =>
    refine .bind (he hnode hframe) fun _ _ hvalue => .bind ih fun _ _ hvalues => ?_
    exact .pure (.cons hvalue hvalues)

theorem numbered_alike (n : Nat) {args args' : List Value}
    (h : Value.AllAlike C.toLikeness args args') :
    Bindings.Alike C.toLikeness (Signature.numbered n args) (Signature.numbered n args') := by
  induction h generalizing n with
  | nil => exact .nil
  | cons harg hargs ih => exact .cons ⟨rfl, harg⟩ (ih (n + 1))

theorem zip_alike (names : List String) {args args' : List Value}
    (h : Value.AllAlike C.toLikeness args args') :
    Bindings.Alike C.toLikeness (names.zip args) (names.zip args') := by
  induction h generalizing names with
  | nil =>
    cases names with
    | nil => exact .nil
    | cons name names => exact .nil
  | cons harg hargs ih =>
    cases names with
    | nil => exact .nil
    | cons name names => exact .cons ⟨rfl, harg⟩ (ih names)

theorem signatureBind (signature : Signature) {args args' : List Value}
    (h : Value.AllAlike C.toLikeness args args') :
    Matches C.StopAlike (Bindings.Alike C.toLikeness) (signature.bind args)
      (signature.bind args') := by
  cases signature with
  | named positional rest =>
    unfold Signature.bind
    rw [h.length_eq]
    dsimp only
    split
    · exact .error .outOfBounds
    · refine .ok (List.rel_append (zip_alike positional h) ?_)
      cases rest with
      | none => exact .nil
      | some name => exact .cons ⟨rfl, .list (List.forall₂_drop _ h)⟩ .nil
  | inline =>
    refine .ok (List.rel_append ?_ (numbered_alike 1 h))
    cases h with
    | nil => exact .nil
    | cons harg hargs => exact .cons ⟨rfl, harg⟩ .nil

theorem keywordDict_alike {kwargs kwargs' : List (String × Value)}
    (h : Bindings.Alike C.toLikeness kwargs kwargs') :
    (Closure.keywordDict kwargs).Alike C.toLikeness (Closure.keywordDict kwargs') := by
  refine .ofEntries (Bindings.Alike.insertAll .nil ?_)
  unfold Bindings.Alike
  rw [List.forall₂_map_left_iff, List.forall₂_map_right_iff]
  refine h.imp fun pair pair' hpair => ?_
  rw [hpair.1]
  exact ⟨rfl, hpair.2⟩

theorem closureBindings {closure closure' : Closure}
    (hclosure : closure.Alike C.toLikeness closure') {args args' : List Value}
    (h : Value.AllAlike C.toLikeness args args')
    {kwargs kwargs' : List (String × Value)}
    (hkwargs : Bindings.Alike C.toLikeness kwargs kwargs') :
    Matches C.StopAlike (Bindings.Alike C.toLikeness) (closure.bindings args kwargs)
      (closure'.bindings args' kwargs') := by
  unfold Closure.bindings
  rw [hclosure.signature, hclosure.name, h.length_eq]
  split
  · exact .error (.fault (.arity _ _ hclosure.location))
  · refine .bind (signatureBind _ h) fun bound bound' hbound => .ok (List.rel_append hbound ?_)
    exact .cons ⟨rfl, keywordDict_alike hkwargs⟩ .nil

variable {hosts : Hosts} {e e' : Context → Evaluator}

/-- A function says where it was made if it is refused its arguments, so its calls go alike in
all. -/
theorem closureCall (he : C.Carries hosts e e') {closure closure' : Closure}
    (hclosure : closure.Alike C.toLikeness closure') {args args' : List Value}
    (h : Value.AllAlike C.toLikeness args args') {kwargs kwargs' : List (String × Value)}
    (hkwargs : Bindings.Alike C.toLikeness kwargs kwargs') :
    C.Alike (Value.Alike C.toLikeness) (closure.call e args kwargs)
      (closure'.call e' args' kwargs') := by
  refine .bind (ofExcept (closureBindings hclosure h hkwargs)) fun _ _ hbindings => ?_
  refine .bind (overlayOn hclosure.frame hbindings) fun _ _ hframe => ?_
  exact body (he.nodes hclosure.context) hframe .nil hclosure.body

theorem checkArity_eq (b : Builtin) {args args' : List Value}
    (h : Value.AllAlike C.toLikeness args args') : b.checkArity args' = b.checkArity args := by
  unfold Builtin.checkArity
  rw [Arity.check_alike _ b.name h]

/-- A computation without effects that fails as called functions do, and what follows it. -/
theorem ofCalled_bind {x : Except Stop Unit} (hx : StopsAsCalled x) {y : Eval α} {z : Eval β}
    (h : x = .ok () → C.CallAlike R y z) :
    C.CallAlike R (Eval.ofExcept x >>= fun _ => y) (Eval.ofExcept x >>= fun _ => z) := by
  cases x with
  | ok u => exact .bind (R := fun _ _ => True) (.pure trivial) fun _ _ _ => h rfl
  | error stop =>
    have hcalled := hx stop rfl
    cases stop with
    | fault fault => exact .throw (.called hcalled)
    | outOfBounds => cases hcalled
    | outOfLevels => cases hcalled

/-- A builtin whose arguments fit its number, if the calls it makes go alike. -/
theorem builtinRun (hhosts : hosts.Respect C.toLikeness) {b : Builtin} (hb : C.builtin b)
    {args args' : List Value} (h : Value.AllAlike C.toLikeness args args')
    (hadmits : b.Admits args.length)
    {f : ∀ callee given, b.Calls hosts.toHostTable args callee given → Eval Value}
    {g : ∀ callee given, b.Calls hosts.toHostTable args' callee given → Eval Value}
    (hcalls : ∀ {callee callee' given given'}, callee.Alike C.toLikeness callee' →
      Value.AllAlike C.toLikeness given given' → ∀ h h',
        C.CallAlike (Value.Alike C.toLikeness) (f callee given h) (g callee' given' h')) :
    C.CallAlike (Value.Alike C.toLikeness) (b.run hosts args f) (b.run hosts args' g) := by
  -- each builtin finds the arguments that it takes apart
  cases b with
  | operation op => exact ofCalled (op.run_alike h) (op.run_stopsAsCalled args hadmits)
  | printer p =>
    show C.CallAlike (Value.Alike C.toLikeness)
      (Eval.printLine (Value.joined " " args) >>= fun _ => pure .nil)
      (Eval.printLine (Value.joined " " args') >>= fun _ => pure .nil)
    rw [Value.Alike.joined " " h]
    refine .bind (R := fun _ _ => True) (step fun hm => ⟨trivial, C.printed hm _⟩) fun _ _ _ => ?_
    exact .pure .nil
  | apply =>
    have hcount : args.length = 2 := hadmits.resolve_left (by decide)
    match args, args', h, hcount with
    | [inner, second], [inner', second'], .cons hinner (.cons hsecond .nil), _ =>
      cases hsecond with
      | list hitems => exact hcalls hinner hitems .apply .apply
      | _ => exact failCalled rfl
  | resolver r =>
    have hcount : args.length = 1 := hadmits.resolve_left (by simp [Builtin.arity])
    match args, args', h, hcount with
    | [name], [name'], .cons hname .nil, _ => exact resolverRun hname
  | host name arity key =>
    exact hostRun (hhosts.function hb h) fun hcallee hgiven h h' =>
      hcalls hcallee hgiven (.host h) (.host h')

theorem notCallable_alike {callee callee' : Value} (h : callee.Alike C.toLikeness callee') :
    C.CallAlike (Value.Alike C.toLikeness) (Eval.fail (.notCallable callee.typeName))
      (Eval.fail (.notCallable callee'.typeName)) := by
  rw [h.typeName]
  exact failCalled rfl

/-- **Values that are alike are called alike.** -/
theorem call (he : C.Carries hosts e e') {callee callee' : Value}
    (hcallee : callee.Alike C.toLikeness callee') {args args' : List Value}
    (h : Value.AllAlike C.toLikeness args args') :
    C.CallAlike (Value.Alike C.toLikeness) (callee.call hosts e args)
      (callee'.call hosts e' args') := by
  -- along the calls that builtins make of one another
  suffices hall : ∀ (call : Value × List Value) (callee' : Value) (args' : List Value),
      call.1.Alike C.toLikeness callee' → Value.AllAlike C.toLikeness call.2 args' →
        C.CallAlike (Value.Alike C.toLikeness) (call.1.call hosts e call.2)
          (callee'.call hosts e' args') from hall (callee, args) callee' args' hcallee h
  intro call callee' args' hcallee h
  induction call using hosts.grounded.induction generalizing callee' args' with | _ call ih
  obtain ⟨callee, args⟩ := call
  dsimp only at hcallee h ⊢
  by_cases hcallable : callee.isCallable = true
  · cases hcallee with
    | function href hclosure =>
      rw [Value.call_function, Value.call_function]
      exact (closureCall he hclosure h .nil).settled
    | @builtin ref ref' href b hb =>
      rw [Value.call_builtin, Value.call_builtin, checkArity_eq b h]
      refine ofCalled_bind (b.checkArity_stopsAsCalled args) fun hcheck => ?_
      refine builtinRun he.hosts hb h (Builtin.admits_of_checkArity hcheck) ?_
      intro inner inner' given given' hinner hgiven hcalls _
      exact ih (inner, given) (.intro hcalls) inner' given' hinner hgiven
    | _ => cases hcallable
  · have hcallee' : callee'.isCallable = false := by
      rw [hcallee.isCallable]
      exact Bool.eq_false_iff.mpr hcallable
    rw [Value.call_of_not_callable _ _ (Bool.eq_false_iff.mpr hcallable),
      Value.call_of_not_callable _ _ hcallee']
    exact notCallable_alike hcallee

theorem callWith (he : C.Carries hosts e e') {callee callee' : Value}
    (hcallee : callee.Alike C.toLikeness callee') {args args' : List Value}
    (h : Value.AllAlike C.toLikeness args args') {kwargs kwargs' : List (String × Value)}
    (hkwargs : Bindings.Alike C.toLikeness kwargs kwargs') :
    C.CallAlike (Value.Alike C.toLikeness) (callee.callWith hosts e args kwargs)
      (callee'.callWith hosts e' args' kwargs') := by
  unfold Value.callWith
  cases hkwargs with
  | nil => exact call he hcallee h
  | cons hpair hrest =>
    have hfail := notCallable_alike hcallee
    cases hcallee with
    | function href hclosure => exact (closureCall he hclosure h (.cons hpair hrest)).settled
    | builtin href hb => exact failCalled rfl
    | _ => exact hfail

/-- Objects that are alike, as far as a program may ask them for a member. -/
inductive ObjectAlike (C : Correspondence) : Object → Object → Prop
  /-- One object of the host. -/
  | host {object : HostObject} (h : C.object object) : ObjectAlike C (.host object) (.host object)
  /-- Modules with the same names for their members. -/
  | module (name : String) {members members' : List (String × Value)}
    (h : Bindings.Alike C.toLikeness members members') :
    ObjectAlike C (.module name members) (.module name members')

theorem object?_alike {value value' : Value} (h : value.Alike C.toLikeness value') :
    Option.Rel C.ObjectAlike value.object? value'.object? := by
  cases h with
  | object href h => exact .some (.host h)
  | module href name hnames h =>
    exact .some (.module name (Bindings.Alike.iff_keys_values.mpr ⟨hnames, h⟩))
  | _ => exact .none

theorem has_eq (hosts : Hosts) {object object' : Object} (h : C.ObjectAlike object object')
    (name : String) : object'.has hosts name = object.has hosts name := by
  cases h with
  | host h => rfl
  | @module moduleName members members' h =>
    unfold Object.has
    dsimp only
    match Bindings.find? name members, Bindings.find? name members', h.find? name with
    | _, _, .none => rfl
    | _, _, .some hmember => rfl

/-- Members that objects have are called alike. -/
theorem objectCall (he : C.Carries hosts e e') {object object' : Object}
    (h : C.ObjectAlike object object') {name : String} (hname : object.has hosts name = true)
    {args args' : List Value} (hargs : Value.AllAlike C.toLikeness args args') :
    C.CallAlike (Value.Alike C.toLikeness) (object.call hosts e name args)
      (object'.call hosts e' name args') := by
  cases h with
  | host h =>
    exact hostRun (he.hosts.method h hname hargs) fun hcallee hgiven _ _ => call he hcallee hgiven
  | @module moduleName members members' h =>
    show C.CallAlike _ (Object.callMember hosts e moduleName members name args)
      (Object.callMember hosts e' moduleName members' name args')
    unfold Object.callMember
    unfold Object.has at hname
    dsimp only at hname
    match Bindings.find? name members, Bindings.find? name members', h.find? name, hname with
    | some member, some member', .some hmember, _ =>
      dsimp only
      rw [hmember.isCallable]
      split
      · exact call he hmember hargs
      · cases hargs with
        | nil => exact .pure hmember
        | cons harg hargs => exact failCalled rfl

end Correspondence

end FrameLisp
