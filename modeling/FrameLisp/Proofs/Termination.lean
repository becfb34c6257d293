import FrameLisp.Proofs.Pinning

/-!
# Termination

The depth limit bounds how far evaluation can go: at the depth `d` it goes into at most
`maxDepth - d` further nodes, one inside the other, before it overflows.  That holds as long as all
functions in reach were made in contexts that count with the same counter up to the same limit;
under counters of their own, two functions could call each other without an end.  So on a stack with
room for that many levels the room never runs out (`Contract.totality`), and how much more there is
makes no difference (`Eval.Roomier`).

Calls that builtins make of one another enter no node, so the limit says nothing of them.  `apply`
calls with the items of a list, which are smaller than the list.  What is asked of the functions of
a host is that they call with components of their own arguments (`HostTable.HandsOnComponents`), and
that they do not call one another for ever; then no chain of such calls goes on for ever, with
`apply` in between (`HostTable.HandsOnComponents.wellFounded`).  The second has to be asked as well:
a function that calls its argument with its argument calls itself when it is given to itself
(`HostTable.not_wellFounded`).
-/

namespace FrameLisp

/-! ### Calls of builtins -/

/-- The components of a value: its parts, and the keys of the dicts among them. -/
inductive Value.Component (whole : Value) : Value → Prop where
  /-- A part. -/
  | part {value : Value} (h : whole.Part value) : Component whole value
  /-- A key of a dict. -/
  | key {entries : List (Key × Value)} {key : Key} {value : Value} (h : whole.Part (.dict entries))
    (hmem : (key, value) ∈ entries) : Component whole key.toValue

theorem Value.Part.sizeOf_le {whole part : Value} (h : whole.Part part) :
    sizeOf part ≤ sizeOf whole := by
  induction h with
  | itself => exact Nat.le_refl _
  | item _ hmem ih =>
    have hsize := List.sizeOf_lt_of_mem hmem
    simp only [Value.list.sizeOf_spec] at ih
    omega
  | entry _ hmem ih =>
    have hsize := List.sizeOf_lt_of_mem hmem
    simp only [Prod.mk.sizeOf_spec] at hsize
    simp only [Value.dict.sizeOf_spec] at ih
    omega
  | member _ hmem ih =>
    have hsize := List.sizeOf_lt_of_mem hmem
    simp only [Prod.mk.sizeOf_spec] at hsize
    simp only [Value.module.sizeOf_spec] at ih
    omega

theorem Value.Component.sizeOf_le {whole value : Value} (h : whole.Component value) :
    sizeOf value ≤ sizeOf whole := by
  cases h with
  | part h => exact h.sizeOf_le
  | @key entries key item h hmem =>
    have hdict := h.sizeOf_le
    have hsize := List.sizeOf_lt_of_mem hmem
    have hkey : sizeOf key.toValue = sizeOf key := by cases key <;> rfl
    simp only [Value.dict.sizeOf_spec] at hdict
    simp only [Prod.mk.sizeOf_spec] at hsize
    omega

/-- The value is a function of the host. -/
def Value.IsHostFunction : Value → Prop
  | .builtin _ (.host ..) => True
  | _ => False

namespace HostTable

variable {table : HostTable}

/-- The calls that functions of the host make of one another, with no other builtin between. -/
def Passes (table : HostTable) (inner outer : Value × List Value) : Prop :=
  inner.1.IsHostFunction ∧ outer.1.IsHostFunction ∧ table.Reenters inner outer

/-- Functions of the host call with components of their own arguments. -/
def HandsOnComponents (table : HostTable) : Prop :=
  ∀ {key : String} {args : List Value} {callee : Value} {given : List Value},
    (table.function key args).Calls callee given →
      ∀ value ∈ given, ∃ arg ∈ args, arg.Component value

/-- What a builtin calls with: `apply` with the items of an argument, the host with components. -/
theorem HandsOnComponents.reenters_cases (hcomponents : table.HandsOnComponents)
    {inner outer : Value × List Value} (h : table.Reenters inner outer) :
    .list inner.2 ∈ outer.2 ∨
      outer.1.IsHostFunction ∧ ∀ value ∈ inner.2, ∃ arg ∈ outer.2, arg.Component value := by
  obtain ⟨hcalls⟩ := h
  cases hcalls with
  | apply => exact .inl (List.mem_cons_of_mem _ List.mem_cons_self)
  | host hcalls => exact .inr ⟨trivial, fun value hvalue => hcomponents hcalls value hvalue⟩

/-- **No chain of calls of builtins goes on for ever.**  `apply` makes the largest argument smaller,
and functions of the host, which do not make it larger, go on for so long only among themselves. -/
theorem HandsOnComponents.wellFounded (hcomponents : table.HandsOnComponents)
    (hterminates : WellFounded table.Passes) : WellFounded table.Reenters := by
  have hbounded (size : Nat) : ∀ call : Value × List Value, (∀ arg ∈ call.2, sizeOf arg ≤ size) →
      Acc table.Reenters call := by
    induction size using Nat.strongRecOn with
    | _ size ih =>
    have hitems {call : Value × List Value} (hsize : sizeOf (Value.list call.2) ≤ size) :
        Acc table.Reenters call := by
      simp only [Value.list.sizeOf_spec] at hsize
      refine ih (size - 1) (by omega) call fun arg harg => ?_
      have hless : sizeOf arg < sizeOf call.2 := List.sizeOf_lt_of_mem harg
      omega
    -- within a bound, by the calls of the host among themselves
    intro call
    induction call using hterminates.induction with
    | _ call ihPasses =>
    intro hsize
    refine .intro _ fun inner hinner => ?_
    obtain hlist | ⟨hhost, hgiven⟩ := hcomponents.reenters_cases hinner
    · exact hitems (hsize _ hlist)
    have hgiven : ∀ value ∈ inner.2, sizeOf value ≤ size := by
      intro value hvalue
      obtain ⟨arg, harg, hcomponent⟩ := hgiven value hvalue
      exact Nat.le_trans hcomponent.sizeOf_le (hsize arg harg)
    by_cases hpasses : inner.1.IsHostFunction
    · exact ihPasses inner ⟨hpasses, hhost, hinner⟩ hgiven
    · -- what is called is not of the host, so it calls as `apply` does, if at all
      refine .intro _ fun next hnext => ?_
      obtain hlist | ⟨hhost, -⟩ := hcomponents.reenters_cases hnext
      · exact hitems (hgiven _ hlist)
      · exact absurd hhost hpasses
  refine ⟨fun call => hbounded (sizeOf call.2) call fun arg harg => ?_⟩
  exact Nat.le_of_lt (List.sizeOf_lt_of_mem harg)

/-- A function that calls its first argument with that argument goes on for ever, although it only
calls with components of its arguments. -/
theorem not_wellFounded {key : String} (h : ∀ args first, args.head? = some first →
    (table.function key args).Calls first [first]) : ¬ WellFounded table.Passes := by
  intro hterminates
  let itself : Value := .builtin 0 (.host "u" 1 key)
  have hloop : table.Passes (itself, [itself]) (itself, [itself]) :=
    ⟨trivial, trivial, .intro (.host (h [itself] itself rfl))⟩
  have hnone : ∀ call, call ≠ (itself, [itself]) := by
    intro call
    induction call using hterminates.induction with
    | _ call ih =>
      rintro rfl
      exact ih _ hloop rfl
  exact hnone _ rfl

/-- A function of the basic host calls with some of its own arguments. -/
theorem basic_handsOnComponents : Hosts.basicTable.HandsOnComponents := by
  intro key args callee given hcalls value hvalue
  change (Hosts.basicFunction key args).Calls callee given at hcalls
  unfold Hosts.basicFunction at hcalls
  split at hcalls
  case h_6 first rest =>
    cases hcalls with
    | here => exact ⟨value, List.mem_cons_of_mem _ hvalue, .part .itself⟩
    | call answer h => cases answer <;> cases h
  all_goals repeat cases hcalls <;> rename_i hcalls

/-- The functions of the basic host call with fewer arguments each time. -/
theorem basic_passes_wellFounded : WellFounded Hosts.basicTable.Passes :=
  Subrelation.wf (fun h => h.2.2) Hosts.basic.grounded

end HostTable

/-! ### The contract -/

namespace Contract

variable {shared context : Context} {base : Nat}

/-- Contexts that count together, up to one limit. -/
abbrev CountsAs (shared context : Context) : Prop :=
  context.counter = shared.counter ∧ context.maxDepth = shared.maxDepth

/-- Computations at the depth `base`, with room for all levels up to the limit, end there.  They do
not run out of room, and not out of bounds where the rules are those of the language. -/
def totality (shared : Context) (lawful : Prop) (base : Nat) : Contract where
  Before machine := machine.depth shared.counter = base ∧ shared.maxDepth ≤ base + machine.room
  Keeps machine machine' := machine'.room = machine.room ∧ machine'.depth = machine.depth
  Allows stop := stop ≠ .outOfLevels ∧ (lawful → stop ≠ .outOfBounds)
  Writable _ := True
  refl _ := ⟨rfl, rfl⟩
  trans := steady_trans
  before h h' := by
    rw [h'.1, h'.2]
    exact h
  change _ h := by
    cases h <;> exact ⟨rfl, rfl⟩
  addFrame _ _ := ⟨⟨rfl, rfl⟩, trivial⟩
  define _ _ _ _ := ⟨rfl, rfl⟩
  plain _ := ⟨nofun, fun _ => nofun⟩
  orAt _ _ := ⟨nofun, fun _ => nofun⟩

variable {lawful : Prop}

theorem totality_descends (h : CountsAs shared context) :
    Descends context (totality shared lawful base) (totality shared lawful (base + 1)) where
  interrupted := ⟨nofun, fun _ => nofun⟩
  overflow _ _ _ := ⟨nofun, fun _ => nofun⟩
  exhausted {machine} hbefore hshallow hroom := by
    -- above the limit there is room
    obtain ⟨hdepth, henough⟩ := hbefore
    rw [h.1, h.2, hdepth] at hshallow
    omega
  inside {machine} hbefore hshallow node := by
    obtain ⟨hdepth, henough⟩ := hbefore
    rw [h.1, h.2, hdepth] at hshallow
    constructor
    · rw [← h.1, Machine.depth_inside, h.1, hdepth]
    · show shared.maxDepth ≤ base + 1 + (machine.room - 1)
      omega
  outside _ _ _ hkeeps := ⟨rfl, Machine.depth_outside_inside _ hkeeps.2⟩
  allows hstop := hstop

theorem totality_bounded (h : lawful → context.oracle = Rule.standard) :
    (totality shared lawful base).simulation.Bounded context := by
  by_cases hlawful : lawful
  · exact .inl (h hlawful)
  · have hallows : (totality shared lawful base).Allows .outOfBounds :=
      ⟨nofun, fun hyes => absurd hyes hlawful⟩
    exact .inr (panics hallows)

theorem totality_suits (shared : Context) (lawful : Prop) (base : Nat) (hosts : Hosts) :
    (totality shared lawful base).Suits hosts :=
  Hosts.obey_of_forall (fun _ => ⟨nofun, fun _ => nofun⟩) fun _ => trivial

variable {pin : Context → Context} {config : Config}

/-- With a level for each node up to the limit, the levels never run out. -/
theorem totality_evalPinned (hconfig : CountsAs shared config.toContext)
    (hpin : ∀ context, CountsAs shared (pin context))
    (hlawful : lawful → config.oracle = Rule.standard ∧
      ∀ context, (pin context).oracle = Rule.standard)
    {levels : Nat} (h : shared.maxDepth ≤ base + levels) (top : Bool) (node : Node)
    (frame : FrameId) :
    (totality shared lawful base).Agree (node.evalPinned pin config levels top frame)
      (node.evalPinned pin config levels top frame) := by
  induction levels generalizing base config top node frame with
  | zero =>
    -- the limit is reached, so evaluation does not go into the node
    refine (totality_descends hconfig).within node fun machine hbefore hshallow _ => ?_
    rw [hconfig.1, hconfig.2, hbefore.1] at hshallow
    omega
  | succ levels ih =>
    have hbounded : (totality shared lawful (base + 1)).simulation.Bounded config.toContext :=
      totality_bounded fun hyes => (hlawful hyes).1
    refine (totality_descends hconfig).evalNode hbounded (fun _ => trivial) node ?_
    refine fun _ _ _ _ => ⟨fun context inner frame => ?_,
      totality_suits shared lawful (base + 1) config.hosts⟩
    show (totality shared lawful (base + 1)).Agree
      (inner.evalPinned pin (config.under (pin context)) levels false frame)
      (inner.evalPinned pin (config.under (pin context)) levels false frame)
    exact ih (hpin context)
      (fun hyes => ⟨(hlawful hyes).2 context, (hlawful hyes).2⟩) (by omega) false inner frame

theorem totality_pinned (hconfig : CountsAs shared config.toContext)
    (hpin : ∀ context, CountsAs shared (pin context))
    (hlawful : lawful → config.oracle = Rule.standard ∧
      ∀ context, (pin context).oracle = Rule.standard)
    (top : Bool) (node : Node) (frame : FrameId) :
    (totality shared lawful base).Agree (node.pinned pin config top frame)
      (node.pinned pin config top frame) :=
  fun machine hbefore =>
    totality_evalPinned hconfig hpin hlawful hbefore.2 top node frame machine hbefore

theorem totality_carries (hpin : ∀ context, CountsAs shared (pin context))
    (hlawful : lawful → ∀ context, (pin context).oracle = Rule.standard) :
    (totality shared lawful base).simulation.Carries config.hosts (config.pinned pin)
      (config.pinned pin) where
  nodes context node frame := by
    show (totality shared lawful base).Agree
      (node.pinned pin (config.under (pin context)) false frame)
      (node.pinned pin (config.under (pin context)) false frame)
    exact totality_pinned (hpin context) hpin
      (fun hyes => ⟨hlawful hyes context, hlawful hyes⟩) false node frame
  hosts := totality_suits shared lawful base config.hosts

end Contract

/-! ### Ends of evaluations -/

/-- A computation comes to an end on a stack with room for all levels up to a limit. -/
structure Terminates {α : Type} (shared : Context) (lawful : Prop) (machine : Machine)
    (x : Eval α) : Prop where
  /-- It does not run out of room. -/
  levels (room : Nat) (h : shared.maxDepth ≤ machine.depth shared.counter + room) :
    x.stop? { machine with room } ≠ some .outOfLevels
  /-- The outcome does not depend on how much room there is. -/
  stable (room : Nat) (h : shared.maxDepth ≤ machine.depth shared.counter + room) (extra : Nat) :
    x { machine with room := room + extra } = Eval.widen extra (x { machine with room })
  /-- Under the rules of the language, it has a value or a fault. -/
  outcome (hlawful : lawful) (room : Nat)
    (h : shared.maxDepth ≤ machine.depth shared.counter + room) :
    x.stop? { machine with room } = none ∨
      ∃ fault, x.stop? { machine with room } = some (.fault fault)

/-- It is enough to look at a computation that is the same on the machine, with any room. -/
theorem Contract.terminates_of_agree {α : Type} {shared : Context} {lawful : Prop}
    {machine : Machine} {x y : Eval α} (hroomier : x.Roomier x)
    (hsame : ∀ room, x { machine with room } = y { machine with room })
    (h : (totality shared lawful (machine.depth shared.counter)).Agree y y) :
    Terminates shared lawful machine x := by
  have hallows room (henough : shared.maxDepth ≤ machine.depth shared.counter + room) {stop : Stop}
      (hstop : x.stop? { machine with room } = some stop) :
      stop ≠ .outOfLevels ∧ (lawful → stop ≠ .outOfBounds) := by
    have hends := (h { machine with room } ⟨rfl, henough⟩).2
    rw [← hsame] at hends
    exact hends.allows hstop
  have hlevels room (henough : shared.maxDepth ≤ machine.depth shared.counter + room) :
      x.stop? { machine with room } ≠ some .outOfLevels :=
    fun hstop => (hallows room henough hstop).1 rfl
  refine ⟨hlevels, fun room henough extra => ?_, fun hlawful room henough => ?_⟩
  · exact hroomier.eq_of_stop? (hlevels room henough) extra
  · cases hstop : x.stop? { machine with room } with
    | none => exact .inl rfl
    | some stop =>
      cases stop with
      | fault fault => exact .inr ⟨fault, rfl⟩
      | outOfBounds => exact absurd rfl ((hallows room henough hstop).2 hlawful)
      | outOfLevels => exact absurd rfl (hallows room henough hstop).1

namespace Surroundings.Hold

variable {S : Surroundings} {config : Config} {machine : Machine} {frame : FrameId}
  (h : S.Hold config machine frame) (hinterrupts : S.interrupts)
  (hshared : ∀ context, S.context context → Contract.CountsAs config.toContext context)

include h

theorem permits_room (room : Nat) : (S.policy machine).PermitsMachine { machine with room } :=
  h.encloses.permitsMachine.of_eq rfl rfl

/-- Functions are called under contexts that are in reach, or under that of the program, so under
the rules of the language if these all have them. -/
theorem oracle_pin (hlawful : ∀ context, S.context context → context.oracle = Rule.standard)
    (context : Context) : (S.pin config.toContext context).oracle = Rule.standard :=
  hlawful _ (context_pin h.context context)

include hshared

theorem totality_node (top : Bool) (node : Node) :
    (Contract.totality config.toContext
        (∀ context, S.context context → context.oracle = Rule.standard)
        (machine.depth config.counter)).Agree
      (node.pinned (S.pin config.toContext) config top frame)
      (node.pinned (S.pin config.toContext) config top frame) :=
  Contract.totality_pinned ⟨rfl, rfl⟩ (fun context => hshared _ (context_pin h.context context))
    (fun hlawful => ⟨hlawful _ h.context, h.oracle_pin hlawful⟩) top node frame

theorem totality_carries :
    (Contract.totality config.toContext
        (∀ context, S.context context → context.oracle = Rule.standard)
        (machine.depth config.counter)).simulation.Carries config.hosts
      (config.pinned (S.pin config.toContext)) (config.pinned (S.pin config.toContext)) :=
  Contract.totality_carries (fun context => hshared _ (context_pin h.context context)) h.oracle_pin

include hinterrupts

theorem terminates_node (top : Bool) (node : Node) :
    Terminates config.toContext (∀ context, S.context context → context.oracle = Rule.standard)
      machine (node.eval config top frame) := by
  refine Contract.terminates_of_agree (.eval top node frame) (fun room => ?_)
    (h.totality_node hshared top node)
  exact h.eval_eq hinterrupts (fun _ => pin_eq config.toContext) (h.permits_room room) top node

theorem terminates_call {callee : Value} (hcallee : S.Surrounds machine callee)
    {args : List Value} (hargs : ∀ arg ∈ args, S.Surrounds machine arg)
    {kwargs : List (String × Value)}
    (hkwargs : ∀ name value, (name, value) ∈ kwargs → S.Surrounds machine value) :
    Terminates config.toContext (∀ context, S.context context → context.oracle = Rule.standard)
      machine (callee.callWith config.hosts config.evaluators args kwargs) := by
  refine Contract.terminates_of_agree (.callWith callee args kwargs) (fun room => ?_)
    (Simulation.callWith (h.totality_carries hshared) callee args kwargs)
  exact h.callWith_eq hinterrupts (fun _ => pin_eq config.toContext) (h.permits_room room)
    hcallee hargs hkwargs

theorem terminates_program {last : Value} (hlast : S.Surrounds machine last) (nodes : List Node) :
    Terminates config.toContext (∀ context, S.context context → context.oracle = Rule.standard)
      machine (Eval.program config frame last nodes) := by
  refine Contract.terminates_of_agree (.program frame last nodes) (fun room => ?_)
    (Simulation.programBy (S := (Contract.totality _ _ _).simulation)
      (h.totality_node hshared true) last nodes)
  exact h.program_eq hinterrupts (fun _ => pin_eq config.toContext) (h.permits_room room)
    hlast nodes

end Surroundings.Hold

/-- **Every evaluation terminates.**  If functions of the host call with components of their own
arguments, and not one another for ever, and all functions in reach count with one counter up to one
limit, then the evaluation of a node, a call and a program have an outcome that no room changes, if
only there is enough of it, and running out of room is never that outcome. -/
theorem evaluation_terminates (table : HostTable) (hcomponents : table.HandsOnComponents)
    (hterminates : WellFounded table.Passes) (context : Context) (contexts : Context → Prop)
    (hshared : ∀ inner, contexts inner →
      inner.counter = context.counter ∧ inner.maxDepth = context.maxDepth)
    (machine : Machine) (frame : FrameId)
    (h : ({ context := contexts } : Surroundings).Hold
      { context with hosts := ⟨table, hcomponents.wellFounded hterminates⟩ } machine frame) :
    let S : Surroundings := { context := contexts }
    let config : Config :=
      { context with hosts := ⟨table, hcomponents.wellFounded hterminates⟩ }
    let lawful := ∀ inner, contexts inner → inner.oracle = Rule.standard
    (∀ (top : Bool) (node : Node),
      Terminates context lawful machine (node.eval config top frame)) ∧
    (∀ (callee : Value) (args : List Value) (kwargs : List (String × Value)),
      S.Surrounds machine callee → (∀ arg ∈ args, S.Surrounds machine arg) →
        (∀ name value, (name, value) ∈ kwargs → S.Surrounds machine value) →
          Terminates context lawful machine
            (callee.callWith config.hosts config.evaluators args kwargs)) ∧
    (∀ (last : Value) (nodes : List Node), S.Surrounds machine last →
      Terminates context lawful machine (Eval.program config frame last nodes)) := by
  intro S config lawful
  have hcounts : ∀ inner, S.context inner → Contract.CountsAs config.toContext inner := hshared
  exact ⟨fun top node => h.terminates_node trivial hcounts top node,
    fun callee args kwargs hcallee hargs hkwargs =>
      h.terminates_call trivial hcounts hcallee hargs hkwargs,
    fun last nodes hlast => h.terminates_program trivial hcounts hlast nodes⟩

/-- A function that calls itself under a context of its own, which counts with the program, is
called by a program that traces its nodes. -/
theorem evaluation_terminates_recursive :
    let inner : Context := { maxDepth := 3, oracle := Rule.except ["if"] [] }
    let outer : Context := { maxDepth := 3, trace := true }
    let node : Node := .form [.literal ⟨.identifier, "f", ⟨"a", 1, 2⟩⟩ []] [] false none
    let machine : Machine :=
      { frames := #[[("f", .function 0 ⟨"f", .named [] none, [node], 0, inner, none⟩)]] }
    (∀ context, (context = inner ∨ context = outer) →
      context.counter = outer.counter ∧ context.maxDepth = outer.maxDepth) ∧
    ({ context := fun context => context = inner ∨ context = outer } : Surroundings).Hold
      { outer with } machine 0 ∧
    Terminates outer (∀ context, (context = inner ∨ context = outer) →
      context.oracle = Rule.standard) machine (node.eval { outer with } true 0) := by
  intro inner outer node machine
  have hshared : ∀ context, (context = inner ∨ context = outer) →
      context.counter = outer.counter ∧ context.maxDepth = outer.maxDepth := by
    rintro context (rfl | rfl) <;> exact ⟨rfl, rfl⟩
  let S : Surroundings := { context := fun context => context = inner ∨ context = outer }
  have hholds : machine.Holds fun value => ∀ part, value.Part part → S.Fits part := by
    refine .of_one_frame rfl rfl fun name value hmem part hpart => ?_
    obtain ⟨-, rfl⟩ := Prod.mk.inj (List.mem_singleton.mp hmem)
    rw [hpart.eq_whole rfl rfl rfl]
    exact .inl rfl
  have hold : S.Hold { outer with } machine 0 :=
    ⟨.inr rfl, Surroundings.encloses_of_holds hholds 0, S.basic_respect machine⟩
  exact ⟨hshared, hold, (evaluation_terminates Hosts.basicTable HostTable.basic_handsOnComponents
    HostTable.basic_passes_wellFounded outer _ hshared machine 0 hold).1 true node⟩

end FrameLisp
