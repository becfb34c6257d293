import FrameLisp.Evaluation
import FrameLisp.Proofs.HostCode

/-!
# Simulations between computations

A property of evaluation has to be followed through every form, every call and every builtin.  The
way through them is the same for all properties, so it is gone once: `Simulation` lists what a
relation between computations must be closed under, and if nodes are evaluated in related ways by
two evaluators, under every context, then so is everything that is built from them.

The laws speak of the few things that a computation is made of: values, faults, sequencing, the two
ways of looking at a fault (`Eval.located` and `Eval.handling`), reading the machine, small changes
of it (`Machine.Change`), new frames, and definitions in frames that may be written.  Which frames
may be written is part of the simulation; a new frame always may be.  The code of a host is asked to
keep to these frames, and to faults that the simulation puts up with (`Simulation.Carries`).
Entering a node is not among the laws: that is where each property has its own argument.

A property of single computations is a simulation of a computation by itself.

This module has the laws, what follows from them for the small steps of evaluation, and calls.  The
forms are in `FrameLisp.Proofs.Simulation.Forms`.
-/

namespace FrameLisp

/-- The changes of a machine that touch neither its frames nor its depth nor its room. -/
inductive Machine.Change (machine : Machine) : Machine → Prop
  /-- A `ref` is given out. -/
  | ref : Change machine { machine with nextRef := machine.nextRef + 1 }
  /-- A line is printed. -/
  | printed (text : String) :
    Change machine { machine with printed := machine.printed ++ text ++ "\n" }
  /-- A module is looked for. -/
  | resolving (name : String) :
    Change machine { machine with events := machine.events.push (.resolving name) }
  /-- A node at the top level is about to be evaluated. -/
  | topLevel (node : Node) :
    Change machine { machine with events := machine.events.push (.topLevel node) }
  /-- An interruption is asked for, or that is taken back. -/
  | interrupted (flag : Nat) (interrupted : Bool) :
    Change machine { machine with interrupted := machine.interrupted.set flag interrupted }

/-- A relation between computations that is closed under what evaluation is made of. -/
structure Simulation where
  /-- When the second computation simulates the first. -/
  Rel : {α : Type} → Eval α → Eval α → Prop
  /-- The frames that may be written. -/
  Writable : FrameId → Prop
  /-- The faults that may be raised. -/
  Fails : Fault → Prop
  /-- Faults other than those of entering a node may. -/
  plain {fault : Fault} (h : fault.isPlain = true) : Fails fault
  /-- Values. -/
  pure {α : Type} (a : α) : Rel (Pure.pure a) (Pure.pure a)
  /-- Faults. -/
  raise {α : Type} {fault : Fault} (h : Fails fault) :
    Rel (Eval.fail fault : Eval α) (Eval.fail fault)
  /-- Sequencing. -/
  bind {α β : Type} {x y : Eval α} {f g : α → Eval β} (hx : Rel x y) (hf : ∀ a, Rel (f a) (g a)) :
    Rel (x >>= f) (y >>= g)
  /-- Supplying a location to faults. -/
  located {α : Type} (location : Option Location) {x y : Eval α} (hx : Rel x y) :
    Rel (Eval.located location x) (Eval.located location y)
  /-- Handling faults. -/
  handling {α : Type} (selects : Fault → Bool) {h k : Fault → Eval α} {x y : Eval α}
    (hx : Rel x y) (hh : ∀ fault, Rel (h fault) (k fault)) :
    Rel (Eval.handling selects h x) (Eval.handling selects k y)
  /-- Going on from a value or from a fault. -/
  outcome {α β : Type} {x y : Eval α} {f g : Except Fault α → Eval β} (hx : Rel x y)
    (hok : ∀ a, Rel (f (.ok a)) (g (.ok a)))
    (herror : ∀ fault, Fails fault → Rel (f (.error fault)) (g (.error fault))) :
    Rel (Eval.outcome x >>= f) (Eval.outcome y >>= g)
  /-- Reading the machine, but for its room. -/
  read {α : Type} (view : Machine → α)
    (hroom : ∀ machine room, view { machine with room } = view machine) :
    Rel (do return view (← get) : Eval α) (do return view (← get))
  /-- Small changes of the machine, whatever its room. -/
  change {α : Type} {step : Machine → α × Machine}
    (h : ∀ machine, Machine.Change machine (step machine).2)
    (hroom : ∀ machine room,
      step { machine with room } = ((step machine).1, { (step machine).2 with room })) :
    Rel (modifyGet step : Eval α) (modifyGet step)
  /-- New frames, which may be written. -/
  overlay {β : Type} (frame : FrameId) (bindings : List (String × Value)) {f g : FrameId → Eval β}
    (hf : ∀ id, Writable id → Rel (f id) (g id)) :
    Rel (Eval.overlay frame bindings >>= f) (Eval.overlay frame bindings >>= g)
  /-- Definitions in frames that may be written. -/
  define {frame : FrameId} (h : Writable frame) (name : String) (value : Value) :
    Rel (Eval.define frame name value) (Eval.define frame name value)

namespace Simulation

variable (S : Simulation)

/-- The simulation puts up with accesses out of bounds. -/
def Panics : Prop :=
  ∀ {α : Type}, S.Rel (throw .outOfBounds : Eval α) (throw .outOfBounds)

/-- Forms either have the rules of the language, which keep them within bounds, or accesses out of
bounds are put up with. -/
abbrev Bounded (context : Context) : Prop :=
  context.oracle = Rule.standard ∨ S.Panics

/-- The second evaluator evaluates every node in a way that simulates the first. -/
abbrev Simulates (e₁ e₂ : Evaluator) : Prop :=
  ∀ node frame, S.Rel (e₁ node frame) (e₂ node frame)

/-- The evaluators simulate each other under every context, and so does what the host adds. -/
structure Carries (hosts : Hosts) (e₁ e₂ : Context → Evaluator) : Prop where
  /-- Nodes are evaluated in related ways. -/
  nodes (context : Context) : S.Simulates (e₁ context) (e₂ context)
  /-- The code of the host keeps to the faults and the frames of the simulation. -/
  hosts : hosts.Obey S.Fails S.Writable

/-! ### Small steps -/

theorem fail {α : Type} {fault : Fault} (h : fault.isPlain = true) :
    S.Rel (Eval.fail fault : Eval α) (Eval.fail fault) :=
  S.raise (S.plain h)

/-- Going on from what is read of the machine. -/
theorem read_bind {α β : Type} (view : Machine → α)
    (hroom : ∀ machine room, view { machine with room } = view machine) {f g : α → Eval β}
    (hf : ∀ a, S.Rel (f a) (g a)) :
    S.Rel (get >>= fun machine => f (view machine)) (get >>= fun machine => g (view machine)) := by
  have hread := S.bind (S.read view hroom) hf
  exact hread

theorem orFail {α : Type} {fault : Fault} (h : fault.isPlain = true) (option : Option α) :
    S.Rel (Eval.orFail fault option) (Eval.orFail fault option) := by
  cases option with
  | none => exact S.fail h
  | some a => exact S.pure a

/-- An item at a position that the list is long enough for. -/
theorem item {α : Type} {items : List α} {position : Nat}
    (h : position < items.length ∨ S.Panics) :
    S.Rel (Eval.inBounds items[position]?) (Eval.inBounds items[position]?) := by
  by_cases hlt : position < items.length
  · rw [List.getElem?_eq_getElem hlt]
    exact S.pure _
  · rw [List.getElem?_eq_none (Nat.le_of_not_lt hlt)]
    exact h.resolve_left hlt

theorem sliceFrom {α : Type} {items : List α} {position : Nat}
    (h : position ≤ items.length ∨ S.Panics) :
    S.Rel (Eval.sliceFrom position items) (Eval.sliceFrom position items) := by
  unfold Eval.sliceFrom
  split
  · exact S.pure _
  · rename_i hlt
    exact h.resolve_left hlt

/-- After a computation without effects, only what it gives matters. -/
theorem ofExcept_bind {α β : Type} {x : Except Stop α} (hx : StopsPlainly x) {f g : α → Eval β}
    (hf : ∀ a, x = .ok a → S.Rel (f a) (g a)) :
    S.Rel (Eval.ofExcept x >>= f) (Eval.ofExcept x >>= g) := by
  cases x with
  | ok a => exact hf a rfl
  | error stop =>
    have hplain := hx stop rfl
    cases stop with
    | fault fault =>
      show S.Rel (Eval.fail fault) (Eval.fail fault)
      exact S.fail hplain
    | outOfBounds => cases hplain
    | outOfLevels => cases hplain

theorem ofExcept {α : Type} {x : Except Stop α} (hx : StopsPlainly x) :
    S.Rel (Eval.ofExcept x) (Eval.ofExcept x) := by
  rw [← bind_pure (Eval.ofExcept x)]
  exact S.ofExcept_bind hx fun a _ => S.pure a

theorem ofCalled {α : Type} {x : Except Stop α} (hx : StopsAsCalled x) :
    S.Rel (Eval.ofExcept x) (Eval.ofExcept x) :=
  S.ofExcept (hx.mono fun _ => Stop.isPlain_of_isCalled)

theorem ofLift {α : Type} {x : Except Fault α} (hx : FailsPlainly x) :
    S.Rel (Eval.ofExcept (Stop.lift x)) (Eval.ofExcept (Stop.lift x)) :=
  S.ofExcept (.lift hx)

theorem lookup? (frame : FrameId) (name : String) :
    S.Rel (Eval.lookup? frame name) (Eval.lookup? frame name) :=
  S.read (fun machine => machine.lookup? frame name) fun _ _ => rfl

theorem freshRef : S.Rel Eval.freshRef Eval.freshRef :=
  S.change (fun _ => .ref) fun _ _ => rfl

theorem identifierFor_failsPlain (form : String) (node : Node) :
    FailsPlainly (node.identifierFor form) := by
  unfold Node.identifierFor
  split
  · exact .ok _
  · exact .error rfl

theorem identifier (form : String) (node : Node) :
    S.Rel (Eval.identifier form node) (Eval.identifier form node) :=
  S.ofLift (identifierFor_failsPlain form node)

/-- After a check against the oracle, only nodes that it accepts matter. -/
theorem validate {β : Type} (config : Config) (rule : String) (nodes : List Node)
    (location : Option Location) {x y : Eval β}
    (h : ∀ count, config.oracle rule nodes = .accept count → S.Rel x y) :
    S.Rel (config.validate rule nodes location >>= fun _ => x)
      (config.validate rule nodes location >>= fun _ => y) := by
  unfold Config.validate
  split
  · rename_i count haccept
    exact S.bind (S.pure ()) fun _ => h count haccept
  · -- a fault ends the sequence, so what follows it does not matter
    rename_i reason hreject
    show S.Rel (Eval.fail (.ruleBroken rule reason location)) (Eval.fail _)
    exact S.fail rfl

/-! ### Calls -/

theorem resolve (name : String) : S.Rel (Eval.resolve name) (Eval.resolve name) := by
  refine S.bind (S.change (fun _ => .resolving name) fun _ _ => rfl) fun _ => ?_
  refine S.read_bind (fun machine => Bindings.find? name machine.modules) (fun _ _ => rfl) ?_
  exact fun found => S.orFail rfl found

theorem resolverRun (name : Value) : S.Rel (Resolver.run name) (Resolver.run name) := by
  unfold Resolver.run
  split
  · exact S.resolve _
  · exact S.resolve _
  · exact S.fail rfl

/-- The code of a host, by its requests. -/
theorem hostRun {code : HostCode} (hcode : code.Obeys S.Fails S.Writable)
    {f g : ∀ callee args, code.Calls callee args → Eval Value}
    (hcalls : ∀ callee args h, S.Rel (f callee args h) (g callee args h)) :
    S.Rel (code.run f) (code.run g) := by
  induction code with
  | give value => exact S.pure value
  | fail fault => exact S.raise hcode
  | call callee args next ih =>
    have hnext answer hanswer := ih answer (hcode answer hanswer) fun callee args h =>
      hcalls callee args (.call answer h)
    refine S.outcome (hcalls callee args .here) (fun value => hnext (.ok value) nofun) ?_
    intro fault hfault
    refine hnext (.error fault) fun fault' h => ?_
    cases h
    exact hfault
  | print text next ih =>
    refine S.bind (S.change (fun _ => .printed text) fun _ _ => rfl) fun _ => ?_
    exact ih hcode fun callee args h => hcalls callee args (.print h)
  | interrupt flag interrupted next ih =>
    refine S.bind (S.change (fun _ => .interrupted flag interrupted) fun _ _ => rfl) fun _ => ?_
    exact ih hcode fun callee args h => hcalls callee args (.interrupt h)
  | depth counter next ih =>
    have hnext n := ih n (hcode n) fun callee args h => hcalls callee args (.depth n h)
    exact S.read_bind (fun machine => machine.depth counter) (fun _ _ => rfl) hnext
  | fresh next ih =>
    refine S.bind S.freshRef fun ref => ?_
    exact ih ref (hcode ref) fun callee args h => hcalls callee args (.fresh ref h)
  | lookup frame name next ih =>
    refine S.bind (S.lookup? frame name) fun found => ?_
    exact ih found (hcode found) fun callee args h => hcalls callee args (.lookup found h)
  | define frame name value next ih =>
    refine S.bind (S.define hcode.1 name value) fun _ => ?_
    exact ih hcode.2 fun callee args h => hcalls callee args (.define h)

variable {S} {e₁ e₂ : Evaluator}

theorem body (he : S.Simulates e₁ e₂) (frame : FrameId) (last : Value) (nodes : List Node) :
    S.Rel (Eval.body e₁ frame last nodes) (Eval.body e₂ frame last nodes) := by
  induction nodes generalizing last with
  | nil => exact S.pure last
  | cons node nodes ih => exact S.bind (he node frame) fun value => ih value

theorem arguments (he : S.Simulates e₁ e₂) (frame : FrameId) (nodes : List Node) :
    S.Rel (Eval.arguments e₁ frame nodes) (Eval.arguments e₂ frame nodes) := by
  induction nodes with
  | nil => exact S.pure []
  | cons node nodes ih =>
    refine S.bind (he node frame) fun value => S.bind ih fun values => ?_
    exact S.pure (value :: values)

variable {hosts : Hosts} {e₁ e₂ : Context → Evaluator}

theorem closureCall (h : S.Carries hosts e₁ e₂) (closure : Closure) (args : List Value)
    (kwargs : List (String × Value)) :
    S.Rel (closure.call e₁ args kwargs) (closure.call e₂ args kwargs) := by
  -- the body runs in a frame of its own, so it does not matter whether that of the closure may be
  -- written
  refine S.bind (S.ofExcept (Closure.bindings_stopsPlainly closure args kwargs)) fun bindings => ?_
  refine S.overlay closure.frame bindings fun frame _ => ?_
  exact body (h.nodes closure.context) frame .nil closure.body

/-- A builtin whose arguments fit its number, if the calls it makes are carried out in related
ways. -/
theorem builtinRun (hhosts : hosts.Obey S.Fails S.Writable) {b : Builtin} {args : List Value}
    (hadmits : b.Admits args.length)
    {f g : ∀ callee given, b.Calls hosts.toHostTable args callee given → Eval Value}
    (hcalls : ∀ callee given h, S.Rel (f callee given h) (g callee given h)) :
    S.Rel (b.run hosts args f) (b.run hosts args g) := by
  -- each builtin finds the arguments that it takes apart
  cases b with
  | operation op => exact S.ofCalled (op.run_stopsAsCalled args hadmits)
  | printer p => exact S.bind (S.change (fun _ => .printed _) fun _ _ => rfl) fun _ => S.pure _
  | apply =>
    have hcount : args.length = 2 := hadmits.resolve_left (by decide)
    match args, hcount with
    | [inner, second], _ =>
      cases second with
      | list items => exact hcalls inner items .apply
      | _ => exact S.fail rfl
  | resolver r =>
    have hcount : args.length = 1 := hadmits.resolve_left (by simp [Builtin.arity])
    match args, hcount with
    | [name], _ => exact S.resolverRun name
  | host name arity key =>
    exact S.hostRun (hhosts.function key args) fun callee given h => hcalls callee given (.host h)

theorem call (h : S.Carries hosts e₁ e₂) (callee : Value) (args : List Value) :
    S.Rel (callee.call hosts e₁ args) (callee.call hosts e₂ args) := by
  -- along the calls that builtins make of one another
  suffices hall : ∀ call : Value × List Value,
      S.Rel (call.1.call hosts e₁ call.2) (call.1.call hosts e₂ call.2) from hall (callee, args)
  intro call
  induction call using hosts.grounded.induction with
  | _ call ih =>
    obtain ⟨callee, args⟩ := call
    cases callee with
    | function ref closure =>
      simp only [Value.call_function]
      exact closureCall h closure args []
    | builtin ref b =>
      simp only [Value.call_builtin]
      have hplain : StopsPlainly (b.checkArity args) :=
        (b.checkArity_stopsAsCalled args).mono fun _ => Stop.isPlain_of_isCalled
      refine S.ofExcept_bind hplain fun _ hcheck => ?_
      refine builtinRun h.hosts (Builtin.admits_of_checkArity hcheck) fun callee given hcall => ?_
      exact ih (callee, given) (.intro hcall)
    | _ =>
      rw [Value.call_eq, Value.call_eq]
      exact S.fail rfl

theorem callWith (h : S.Carries hosts e₁ e₂) (callee : Value) (args : List Value)
    (kwargs : List (String × Value)) :
    S.Rel (callee.callWith hosts e₁ args kwargs) (callee.callWith hosts e₂ args kwargs) := by
  unfold Value.callWith
  split
  · exact call h callee args
  · split
    · exact closureCall h _ args kwargs
    · exact S.fail rfl
    · exact S.fail rfl

theorem objectCall (h : S.Carries hosts e₁ e₂) (object : Object) (name : String)
    (args : List Value) :
    S.Rel (object.call hosts e₁ name args) (object.call hosts e₂ name args) := by
  cases object with
  | host object =>
    exact S.hostRun (h.hosts.method object name args) fun callee given _ => call h callee given
  | module moduleName members =>
    show S.Rel (Object.callMember hosts e₁ moduleName members name args)
      (Object.callMember hosts e₂ moduleName members name args)
    unfold Object.callMember
    split
    · split
      · exact call h _ args
      · split
        · exact S.pure _
        · exact S.fail rfl
    · exact S.fail rfl

end Simulation

end FrameLisp
