import FrameLisp.Proofs.GivingUp
import FrameLisp.Proofs.Splitting

/-!
# Raising the depth limit

A run that stays below its depth limit does not know the limit.  If no overflow is ever raised, not
even one that is handled later, then under a higher limit the run is the same: it has the same value
or fault, and it leaves the same machine, with all that was printed, reported and defined
(`Session.evalNodes_raised`).  It matters that overflows which are handled count as well, since a
handler can do what it likes.

The limit is part of the contexts that functions were made in, so the session with a higher limit is
one in which all these are raised as well (`Session.Raised`), and so are those of the values that
come of the run.  The two runs are compared until they are given up at the lower limit: up to there
they are corresponding runs (`Departure.entersBelow_raised`), and where no overflow is raised, they
are never given up.
-/

namespace FrameLisp

/-! ### Machines with a higher limit -/

/-- The second context is the first one with a limit that is raised. -/
def Context.Raised (least limit : Nat) (context context' : Context) : Prop :=
  context.maxDepth = least ∧ context' = { context with maxDepth := limit }

/-- What is the same is alike, if functions were made in contexts with a limit that is raised. -/
def Likeness.raised (least limit : Nat) : Likeness :=
  Relocation.stay.likeness (Context.Raised least limit) id id Relocation.id_inj

/-- The machines are the same but for the limits of functions, which are raised, and for their room.
The second one has no less of it. -/
structure Machine.Raised (least limit : Nat) (m m' : Machine) : Prop where
  /-- What a program can see is alike. -/
  alike : m.AlikeUpTo (.raised least limit) { m' with room := m.room }
  /-- The same was reported. -/
  events_eq : m'.events = m.events
  /-- The second one has as much room, or more. -/
  room_le : m.room ≤ m'.room

theorem Machine.Raised.roomFor {least limit : Nat} {m m' : Machine} (h : m.Raised least limit m')
    (hlimit : least ≤ limit) : (m.roomFor least).Raised least limit (m'.roomFor limit) where
  alike := { h.alike with room_eq := rfl }
  events_eq := h.events_eq
  room_le := by
    show max least m.room ≤ max limit m'.room
    have hroom := h.room_le
    omega

namespace Departure

variable {D : Departure}

/-- Machines on which what a program can see is alike are a start. -/
theorem start_of_alikeUpTo
    (h : D.first.AlikeUpTo (D.places.likeness D.contexts id id Relocation.id_inj) D.second) :
    D.Machines D.first D.second := by
  have haligned : D.Aligned := ⟨h.size_eq, h.nextRef_eq⟩
  rw [← haligned.likeness_eq] at h
  exact {
    size := Nat.le_refl _
    size_eq := by rw [haligned.frame, h.size_eq]
    nextRef := Nat.le_refl _
    nextRef_eq := by rw [haligned.ref, h.nextRef_eq]
    frames := fun id => by
      rw [haligned.frame]
      exact h.frames id
    modules := h.modules
    depth_eq := h.depth_eq
    room_eq := h.room_eq
    interrupted_eq := h.interrupted_eq
    printed := ⟨"", String.append_empty.symm, String.append_empty.symm⟩
    events := ⟨[], [], (List.append_nil _).symm, (List.append_nil _).symm, .nil⟩ }

namespace Machines

variable {m m' : Machine} {context context' : Context}

/-- A node is entered in both runs, under contexts that count together. -/
theorem inside (h : D.Machines m m') (hcounter : context'.counter = context.counter)
    (htrace : context'.trace = context.trace) {node node' : Node}
    (hnode : node.Alike D.likeness node') :
    D.Machines (m.inside context node) (m'.inside context' node') := by
  have hdown (depth : Cells Nat) (room : Nat) :
      D.Machines { m with depth, room } { m' with depth, room } :=
    { h with depth_eq := rfl, room_eq := rfl }
  have hinside := hdown (m.depth.set context.counter (m.depth context.counter + 1)) (m.room - 1)
  unfold Machine.inside
  rw [hcounter, htrace, h.depth_eq, h.room_eq]
  cases context.trace with
  | false => exact hinside
  | true => exact hinside.report (.entered _ hnode)

/-- A node is left in both runs. -/
theorem outside (h : D.Machines m m') (hcounter : context'.counter = context.counter)
    (room : Nat) : D.Machines (m.outside context room) (m'.outside context' room) := by
  unfold Machine.outside Machine.leave
  rw [hcounter, h.depth_eq]
  exact { h with depth_eq := rfl, room_eq := rfl }

/-- Where no node is moved, the same was reported. -/
theorem events_eq (h : D.Machines m m') (hexact : D.likeness.Exact)
    (hstart : D.second.events = D.first.events) : m'.events = m.events := by
  obtain ⟨trace, trace', htrace, htrace', halike⟩ := h.events
  have hsame : trace' = trace := by
    clear htrace htrace'
    induction halike with
    | nil => rfl
    | cons hevent _ ih =>
      rw [ih]
      cases hevent with
      | topLevel hnode => rw [hexact.node_eq hnode]
      | entered depth hnode => rw [hexact.node_eq hnode]
      | _ => rfl
  rw [← Array.toList_inj, htrace', htrace, hsame, hstart]

end Machines

/-- **Runs with a limit that is raised go alike** until they are given up at the lower one. -/
theorem entersBelow_raised {least limit : Nat} (hlimit : least ≤ limit)
    (hcontexts : D.contexts = Context.Raised least limit) (hexact : D.likeness.Exact) :
    D.correspondence.EntersBelow .own (.upTo least) where
  oracle {context context'} h rule nodes nodes' hnodes := by
    have h : D.contexts context context' := h
    rw [hcontexts] at h
    rw [h.2, hexact.nodes_eq hnodes]
  interrupted_eq {context context'} h m m' hm := by
    have h : D.contexts context context' := h
    have hm : D.Machines m m' := hm
    rw [hcontexts] at h
    rw [h.2, hm.interrupted_eq]
  depth_le_iff {context context'} h m m' hm := by
    have h : D.contexts context context' := h
    have hm : D.Machines m m' := hm
    rw [hcontexts] at h
    obtain ⟨hleast, rfl⟩ := h
    have hmin : min least limit = context.maxDepth := by omega
    show min least limit ≤ m'.depth context.counter ↔
      context.maxDepth ≤ m.depth context.counter
    rw [hmin, hm.depth_eq]
  room_eq hm := Machines.room_eq hm
  inside {context context'} h m m' hm node node' hnode := by
    have h : D.contexts context context' := h
    rw [hcontexts] at h
    exact Machines.inside hm (by rw [h.2]) (by rw [h.2]) hnode
  outside {context context'} h m m' hm _ room := by
    have h : D.contexts context context' := h
    rw [hcontexts] at h
    exact Machines.outside hm (by rw [h.2]) room

end Departure

/-! ### Runs without overflows -/

namespace Session

variable {session session' : Session} {limit : Nat} {trees : List Node}

/-- The machine on which trees are run. -/
def ready (session : Session) : Machine :=
  session.machine.roomFor session.config.maxDepth

/-- Runs trees, watched. -/
def watched (session : Session) (trees : List Node) (watch : Watch) : Eval Value :=
  Eval.programBy (fun tree => watch.eval session.config true tree root) .nil trees

/-- Runs trees, or gives the run up. -/
def limited (session : Session) (trees : List Node) (limit : Limit) : Eval Value :=
  Eval.programBy (fun tree => tree.evalLimited limit session.config true root) .nil trees

/-- No overflow is raised when trees are run, not even one that is handled. -/
def NeverOverflows (session : Session) (trees : List Node) : Prop :=
  (Eval.program session.config root .nil trees).NeverOverflows (session.watched trees)
    session.ready

/-- When trees are run, the stack of the evaluating thread lasts. -/
def Lasts (session : Session) (trees : List Node) : Prop :=
  ¬ (Eval.program session.config root .nil trees).GivesUp session.ready

theorem watched_idle (session : Session) (trees : List Node) :
    session.watched trees .idle = Eval.program session.config root .nil trees := by
  unfold watched
  simp only [Watch.idle_eval, Eval.program_eq]

theorem watched_alarm (session : Session) (trees : List Node) :
    session.watched trees .alarm = session.limited trees .own := by
  unfold watched limited
  simp only [Watch.alarm_eval]

/-- A run that is not given up is the run without the limit, watched for overflows or not. -/
theorem limited_roomier (session : Session) (trees : List Node) (limit : Limit) {watch : Watch}
    (hwatch : watch.OverflowsOnly) :
    (session.limited trees limit).Roomier (session.watched trees watch) :=
  .programLimited hwatch root .nil trees

/-- It is enough to watch with the alarm. -/
theorem neverOverflows_and_lasts_iff :
    session.NeverOverflows trees ∧ session.Lasts trees ↔
      ¬ (session.watched trees .alarm).GivesUp session.ready := by
  refine Eval.neverOverflows_iff (session.watched_idle trees) fun watch hwatch => ?_
  rw [watched_alarm]
  exact session.limited_roomier trees .own hwatch

/-! ### A higher limit -/

/-- The second session is the first one with another limit, for its programs and for all functions
in it. -/
structure Raised (limit : Nat) (session session' : Session) : Prop where
  /-- Programs have the other limit. -/
  config_eq : session'.config = { session.config with maxDepth := limit }
  /-- So do functions. -/
  machine : session.machine.Raised session.config.maxDepth limit session'.machine

/-- Outcomes that are the same but for the limits of functions. -/
structure OutcomeRaised (limit : Nat) (outcome outcome' : Except Stop Value × Session) : Prop where
  /-- The same value, or the same way to stop. -/
  result : Matches (fun stop stop' => stop' = stop)
    (Value.Alike (.raised outcome.2.config.maxDepth limit)) outcome.1 outcome'.1
  /-- What is left is the same. -/
  session : outcome.2.Raised limit outcome'.2

/-- The runs of both sessions, the second one on a machine with the room of the first one. -/
def raising (session session' : Session) (limit : Nat) : Departure :=
  ⟨session.ready, { session'.ready with room := session.ready.room }, .stay,
    Context.Raised session.config.maxDepth limit⟩

theorem raising_exact (session session' : Session) (limit : Nat) :
    (session.raising session' limit).likeness.Exact :=
  Relocation.stay_exact (session.raising session' limit).contexts _ _ renumber_inj

namespace Raised

variable (h : session.Raised limit session')

include h

theorem aligned : (session.raising session' limit).Aligned :=
  ⟨h.machine.alike.size_eq, h.machine.alike.nextRef_eq⟩

theorem likeness_eq :
    (session.raising session' limit).likeness = .raised session.config.maxDepth limit :=
  h.aligned.likeness_eq

/-- **Trees run alike** until they are given up. -/
theorem program_alike (hlimit : session.config.maxDepth ≤ limit)
    (hhosts : session.config.hosts.Respect (.raised session.config.maxDepth limit))
    (trees : List Node) :
    (session.raising session' limit).correspondence.Alike
      (Value.Alike (.raised session.config.maxDepth limit))
      (session.limited trees .own)
      (session'.limited trees (.upTo session.config.maxDepth)) := by
  let D := session.raising session' limit
  have henters : D.correspondence.EntersBelow .own (.upTo session.config.maxDepth) :=
    Departure.entersBelow_raised hlimit rfl (session.raising_exact session' limit)
  have hcontext : D.correspondence.context session.config.toContext
      { session.config.toContext with maxDepth := limit } := ⟨rfl, rfl⟩
  have hrespect : session.config.hosts.Respect D.correspondence.toLikeness := by
    show session.config.hosts.Respect D.likeness
    rw [h.likeness_eq]
    exact hhosts
  have hroot : D.correspondence.frame root root := (h.aligned.frame root).symm
  have hnodes : D.correspondence.NodesAlike trees trees :=
    Departure.nodes_alike (fun _ => rfl) trees
  unfold limited
  rw [h.config_eq, ← h.likeness_eq]
  exact Correspondence.programBy (C := D.correspondence) Departure.reports
    (fun hnode => henters.evalLimited hcontext hrespect true hnode hroot) .nil hnodes

theorem ready (hlimit : session.config.maxDepth ≤ limit) :
    session.ready.Raised session.config.maxDepth limit session'.ready := by
  have hready := h.machine.roomFor hlimit
  unfold Session.ready
  rw [h.config_eq]
  exact hready

/-- What is left of both runs is the same again, whatever room the second one had. -/
theorem after {m m' : Machine} (hm : (session.raising session' limit).Machines m m')
    (extra : Nat) :
    Raised limit { session with machine := m } { session' with machine := m'.widen extra } where
  config_eq := h.config_eq
  machine := {
    alike := by
      have hprinted : (session.raising session' limit).second.printed =
          (session.raising session' limit).first.printed := h.machine.alike.printed_eq
      exact { hm.alikeUpTo h.aligned hprinted with room_eq := rfl }
    events_eq := hm.events_eq (session.raising_exact session' limit) h.machine.events_eq
    room_le := by
      have hroom := hm.room_eq
      show m.room ≤ m'.room + extra
      omega }

/-- **Without overflows both runs go alike to the end**, and the second one does not need the room
that it has more. -/
theorem program_eq (hlimit : session.config.maxDepth ≤ limit)
    (hhosts : session.config.hosts.Respect (.raised session.config.maxDepth limit))
    (hfree : session.NeverOverflows trees) (hlasts : session.Lasts trees) :
    ∃ extra result,
      (session.raising session' limit).correspondence.OutcomeAlike
        (session.raising session' limit).correspondence.StopAlike
        (Value.Alike (.raised session.config.maxDepth limit))
        (Eval.program session.config root .nil trees session.ready) result ∧
      Eval.program session'.config root .nil trees session'.ready = Eval.widen extra result := by
  have hready := h.ready hlimit
  obtain ⟨extra, hextra⟩ := Nat.exists_eq_add_of_le hready.room_le
  let narrow : Machine := { session'.ready with room := session.ready.room }
  have hwide : narrow.widen extra = session'.ready := by
    show { session'.ready with room := session.ready.room + extra } = session'.ready
    rw [← hextra]
  have hruns := h.program_alike hlimit hhosts trees session.ready narrow
    (Departure.start_of_alikeUpTo hready.alike)
  -- without overflows the run under the alarm is the run itself
  rw [← watched_alarm, hfree .alarm Watch.alarm_overflowsOnly] at hruns
  refine ⟨extra, _, hruns, ?_⟩
  rcases session'.limited_roomier trees (.upTo session.config.maxDepth) Watch.idle_overflowsOnly
    narrow extra with ⟨last, hgives⟩ | hsame
  · -- the second run would be given up only where the first one is
    rw [hgives] at hruns
    refine absurd (Eval.givesUp_iff.mpr ?_) hlasts
    generalize Eval.program session.config root .nil trees session.ready = result at hruns ⊢
    cases hruns with
    | error hstop hm =>
      cases hstop with
      | interrupted hstop => cases hstop
      | outOfLevels => exact ⟨_, rfl⟩
  · rw [hwide, watched_idle] at hsame
    exact hsame

end Raised

/-- **Raising the depth limit is conservative.**  If trees are run without an overflow, then under a
higher limit they have the same value or stop in the same way, and the machine that is left is the
same, up to the limit that functions have.  The stack has to last, as it does if all functions count
together, and the code of the host must not look at limits. -/
theorem evalNodes_raised (h : session.Raised limit session')
    (hlimit : session.config.maxDepth ≤ limit)
    (hhosts : session.config.hosts.Respect (.raised session.config.maxDepth limit))
    (hfree : session.NeverOverflows trees)
    (hlasts : session.ready.CountsTogether session.config root ∨ session.Lasts trees) :
    OutcomeRaised limit (session.evalNodes trees) (session'.evalNodes trees) := by
  have hlasts : session.Lasts trees := hlasts.elim (fun h => h.lasts_program trees) id
  obtain ⟨extra, result, hruns, hwide⟩ := h.program_eq hlimit hhosts hfree hlasts
  have hrun := evalNodes_eq session trees
  have hrun' := evalNodes_eq session' trees
  rw [← ready] at hrun hrun'
  rw [hwide] at hrun'
  rw [hrun, hrun']
  generalize Eval.program session.config root .nil trees session.ready = outcome at hruns ⊢
  cases hruns with
  | ok hvalue hm => exact ⟨.ok hvalue, h.after hm extra⟩
  | error hstop hm =>
    refine ⟨.error ?_, h.after hm extra⟩
    cases hstop with
    | fault hfault => rw [hfault.eq_of_place id]
    | interrupted hstop => exact hstop
    | outOfBounds => rfl
    | outOfLevels => rfl

/-! ### New sessions -/

/-- Where there are no functions, a machine is the same under every limit. -/
theorem raised_of_permits {machine : Machine}
    (h : ({ context := fun _ => False } : Policy).PermitsMachine machine) (least limit : Nat) :
    machine.Raised least limit machine := by
  let P : Policy := { context := fun _ => False }
  have hrefines : P.likeness.Refines (.raised least limit) := {
    token := fun h => by
      rw [h.1]
      exact ⟨⟨rfl, rfl⟩, rfl⟩
    place := And.left
    frame := And.left
    context := fun h => h.2.elim
    ref := id
    errorClass := fun _ => trivial
    held := fun h => by
      rw [h.1]
      exact ⟨rfl, rfl⟩
    builtin := fun _ => trivial
    object := fun _ => trivial }
  have hframes id : Bindings.Alike P.likeness (machine.frame id) (machine.frame id) :=
    Policy.permitsBindings_iff.mp (h.frames id trivial)
  have hmodules : Bindings.Alike P.likeness machine.modules machine.modules :=
    Policy.permitsBindings_iff.mp h.modules
  exact {
    alike := ⟨rfl, fun id => hrefines.bindings (hframes id), hrefines.bindings hmodules, rfl, rfl,
      rfl, rfl, rfl⟩
    events_eq := rfl
    room_le := Nat.le_refl _ }

/-- A session without functions only has to be given another limit. -/
theorem raised_of_no_functions (session : Session) (limit : Nat)
    (h : ({ context := fun _ => False } : Policy).PermitsMachine session.machine) :
    session.Raised limit
      { session with config := { session.config with maxDepth := limit } } where
  config_eq := rfl
  machine := raised_of_permits h session.config.maxDepth limit

/-- Where all functions that there are count together, they count with every program. -/
theorem countsTogether_of_permits (session : Session)
    (hmachine : ({ context := Contract.CountsAs session.config.toContext } : Policy).PermitsMachine
      session.machine)
    (hhosts : ∀ machine, session.config.hosts.Respect
      (({ context := Contract.CountsAs session.config.toContext } : Surroundings).policy
        machine).likeness) :
    session.ready.CountsTogether session.config root := by
  have hready : ({ context := Contract.CountsAs session.config.toContext } : Policy).PermitsMachine
      session.ready := hmachine.of_eq rfl rfl
  refine ⟨⟨⟨rfl, rfl⟩, Policy.encloses_of_permitsMachine hready trivial, hhosts _⟩, ?_⟩
  show session.config.maxDepth ≤
    session.machine.depth session.config.counter +
      max session.config.maxDepth session.machine.room
  omega

/-- A recursion that ends in time does not know how much room there was. -/
theorem evalNodes_raised_recursion :
    let source := "(defn down [n] (if (= n 0) n (down (- n 1)))) (print (down 1))"
    let trees := (Node.parse source "").toOption.getD []
    let session := standard { maxDepth := 7 }
    let session' := { session with config := { session.config with maxDepth := 1000 } }
    session.Raised 1000 session' ∧ session.NeverOverflows trees ∧
      session.ready.CountsTogether session.config root ∧
      OutcomeRaised 1000 (session.evalNodes trees) (session'.evalNodes trees) ∧
      (session.evalNodes trees).2.machine.printed = "0\n" := by
  intro source trees session session'
  have hraised : session.Raised 1000 session' :=
    raised_of_no_functions session 1000 (Policy.standard_permits _ fun _ => trivial)
  obtain ⟨hfree, -⟩ := neverOverflows_and_lasts_iff.mpr
    (show ¬ (session.watched trees .alarm).GivesUp session.ready by decide +kernel)
  have hcounts : session.ready.CountsTogether session.config root :=
    countsTogether_of_permits session (Policy.standard_permits _ fun _ => trivial) fun machine => by
      rw [show session.config = { maxDepth := 7 } from config_standard _]
      exact Surroundings.basic_respect _ machine
  have hlimit : session.config.maxDepth ≤ 1000 := by decide +kernel
  have hhosts : session.config.hosts.Respect (.raised session.config.maxDepth 1000) := by
    rw [show session.config = { maxDepth := 7 } from config_standard _]
    exact Hosts.basic_respect (fun _ => rfl) (fun _ => trivial) fun _ => rfl
  exact ⟨hraised, hfree, hcounts, evalNodes_raised hraised hlimit hhosts hfree (.inl hcounts),
    by decide +kernel⟩

-- an overflow that is handled makes a difference
example :
    let trees := (Node.parse "(print (try (+ 1 2) (catch RecursionError e 0)))" "").toOption.getD []
    let printed (maxDepth : Nat) := ((standard { maxDepth }).evalNodes trees).2.machine.printed
    printed 3 = "0\n" ∧ printed 4 = "3\n" := by
  decide +kernel

end Session

end FrameLisp
