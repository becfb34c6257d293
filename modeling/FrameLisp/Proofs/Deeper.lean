import FrameLisp.Proofs.GivingUp
import FrameLisp.Proofs.Reach

/-!
# Evaluation further down

A program that is evaluated further down does the same as further up, unless it meets the depth
limit there, or the end of the stack.  It must not know how deep it is: the code of a host can read
a counter, and no code that reads the counter of the program may be in reach
(`Surroundings.HoldUnaware`).  The prelude has none (`Session.standard_unaware`).

Of two runs that are `down` levels apart, both leave machines that are `down` levels apart again,
the same but for the depth and the nodes that were reported (`Machine.Deeper`).  If the run further
up is given up `down` levels before it overflows, and the other one where it overflows, then they
are given up together, and until then they are corresponding runs (`Policy.entersBelow_deeper`).
Functions that count with another counter are as deep in both.

There is less room below.  But neither run knows that it is limited as long as it is not given up,
so whatever is computed by evaluating nodes has the same value below (`Uniform.succeeds`); for
single nodes this is `Node.eval_deeper`.
-/

namespace FrameLisp

/-! ### Machines that are the same but for what was traced -/

/-- What was reported beside the nodes that were entered. -/
def Machine.news (machine : Machine) : List Event :=
  machine.events.toList.filter fun event => event.depth?.isNone

/-- The machines are the same but for the nodes that were entered, if these are reported. -/
structure Machine.SameButTrace (traces : Prop) (m m' : Machine) : Prop where
  /-- Only what was reported may differ. -/
  state : m.SameButEvents m'
  /-- Beside the nodes that were entered, the same was reported. -/
  news : m'.news = m.news
  /-- If these are not reported, nothing differs. -/
  untraced (h : ¬ traces) : m'.events = m.events

theorem Machine.news_push (machine : Machine) (event : Event) :
    { machine with events := machine.events.push event }.news =
      machine.news ++ [event].filter fun event => event.depth?.isNone := by
  unfold news
  rw [Array.toList_push, List.filter_append]

theorem Machine.news_inside (machine : Machine) (context : Context) (node : Node) :
    (machine.inside context node).news = machine.news := by
  unfold inside
  cases context.trace with
  | false => rfl
  | true => exact (news_push machine _).trans (List.append_nil _)

theorem Machine.events_inside {context : Context} (h : context.trace = false) (machine : Machine)
    (node : Node) : (machine.inside context node).events = machine.events := by
  unfold inside
  rw [h]
  rfl

namespace Machine.SameButTrace

variable {traces : Prop} {m m' : Machine}

theorem refl (traces : Prop) (m : Machine) : m.SameButTrace traces m :=
  ⟨rfl, rfl, fun _ => rfl⟩

/-- If no nodes are reported, nothing differs at all. -/
theorem eq_of_untraced (h : m.SameButTrace traces m') (htraces : ¬ traces) : m' = m := by
  have hstate : m' = { m with events := m'.events } := h.state
  rw [hstate, h.untraced htraces]

end Machine.SameButTrace

/-! ### Programs that do not know how deep they are -/

/-- The same is alike, but a counter may not be read. -/
def Likeness.hiding (L : Likeness) (counter : Nat) : Likeness :=
  { L with counter := fun n => n ≠ counter }

theorem Likeness.hiding_refines (L : Likeness) (counter : Nat) : (L.hiding counter).Refines L :=
  ⟨id, id, id, id, id, id, id, id, id⟩

theorem Likeness.refines_hiding (L : Likeness) (counter : Nat) : L.Refines (L.hiding counter) :=
  ⟨id, id, id, id, id, id, id, id, id⟩

/-- Some context that may be around reports the nodes that are entered. -/
def Surroundings.Traces (S : Surroundings) : Prop :=
  ∃ context, S.context context ∧ context.trace = true

/-- A program that runs in the frame has nothing in reach but what may be around, and no code of the
host that may be around tells it how deep it is. -/
structure Surroundings.HoldUnaware (S : Surroundings) (config : Config) (machine : Machine)
    (frame : FrameId) : Prop where
  /-- The context of the program. -/
  context : S.context config.toContext
  /-- What is in reach. -/
  encloses : S.Encloses machine frame
  /-- The code of the host. -/
  hosts : config.hosts.Respect ((S.policy machine).likeness.hiding config.counter)

/-! ### Runs that are some levels apart -/

/-- The second machine is `down` levels deeper than the first one, by a counter, and else the
same. -/
structure Machine.Deeper (P : Policy) (counter down : Nat) (m m' : Machine) : Prop where
  /-- Only the depth and the nodes that were reported differ. -/
  same : SameButTrace P.Traces { m with depth := m'.depth } m'
  /-- The depths are as far apart as said. -/
  depth (n : Nat) : m'.depth n = m.depth n + if n = counter then down else 0
  /-- What is in reach is permitted. -/
  permits : P.PermitsMachine m

namespace Machine.Deeper

variable {P : Policy} {counter down : Nat} {m m' : Machine} {context : Context}

theorem eq_with (h : Deeper P counter down m m') :
    ∃ depth events, m' = { m with depth, events } :=
  ⟨_, _, h.same.state⟩

theorem interrupted_eq (h : Deeper P counter down m m') : m'.interrupted = m.interrupted := by
  obtain ⟨depth, events, rfl⟩ := h.eq_with
  rfl

theorem room_eq (h : Deeper P counter down m m') : m'.room = m.room := by
  obtain ⟨depth, events, rfl⟩ := h.eq_with
  rfl

theorem frame_eq (h : Deeper P counter down m m') (id : FrameId) : m'.frame id = m.frame id := by
  obtain ⟨depth, events, rfl⟩ := h.eq_with
  rfl

theorem lookup?_eq (h : Deeper P counter down m m') (id : FrameId) (name : String) :
    m'.lookup? id name = m.lookup? id name := by
  unfold lookup?
  rw [h.frame_eq]

/-- The same is done to both machines, and it is neither about depths nor about reports. -/
theorem update (h : Deeper P counter down m m') {n : Machine} (hdepth : n.depth = m.depth)
    (hevents : n.events = m.events) (hpermits : P.PermitsMachine n) :
    Deeper P counter down n { n with depth := m'.depth, events := m'.events } := by
  have hnews : n.news = m.news := by
    unfold news
    rw [hevents]
  refine ⟨⟨rfl, h.same.news.trans hnews.symm, fun htraces => ?_⟩, fun i => ?_, hpermits⟩
  · exact (h.same.untraced htraces).trans hevents.symm
  · rw [hdepth]
    exact h.depth i

theorem addFrame (h : Deeper P counter down m m') {frame : Frame}
    (hframe : P.PermitsBindings frame) :
    Deeper P counter down (m.addFrame frame) (m'.addFrame frame) := by
  have hupdate := h.update (n := m.addFrame frame) rfl rfl (h.permits.addFrame hframe)
  obtain ⟨depth, events, rfl⟩ := h.eq_with
  exact hupdate

theorem define (h : Deeper P counter down m m') (id : FrameId) (name : String) {value : Value}
    (hvalue : P.PermitsValue value) :
    Deeper P counter down (m.define id name value) (m'.define id name value) := by
  have hupdate := h.update (n := m.define id name value) rfl rfl
    (h.permits.define id name hvalue)
  obtain ⟨depth, events, rfl⟩ := h.eq_with
  exact hupdate

theorem change (h : Deeper P counter down m m') (nextRef : Nat) (printed : String)
    (interrupted : Cells Bool) :
    Deeper P counter down { m with nextRef, printed, interrupted }
      { m' with nextRef, printed, interrupted } := by
  have hupdate := h.update (n := { m with nextRef, printed, interrupted }) rfl rfl
    (h.permits.of_eq rfl rfl)
  obtain ⟨depth, events, rfl⟩ := h.eq_with
  exact hupdate

theorem report (h : Deeper P counter down m m') (event : Event) :
    Deeper P counter down { m with events := m.events.push event }
      { m' with events := m'.events.push event } := by
  refine ⟨⟨?_, ?_, fun htraces => ?_⟩, h.depth, h.permits.of_eq rfl rfl⟩
  · obtain ⟨depth, events, rfl⟩ := h.eq_with
    rfl
  · have hnews : m'.news = m.news := h.same.news
    rw [news_push m', hnews]
    exact (news_push m event).symm
  · have hevents : m'.events = m.events := h.same.untraced htraces
    rw [hevents]

/-- A context that may be around reports no nodes, if none does. -/
theorem trace_eq_false (hcontext : P.context context) (h : ¬ P.Traces) : context.trace = false :=
  Bool.eq_false_iff.mpr fun htrace => h ⟨context, hcontext, htrace⟩

/-- Below, a node is entered that is not entered above. -/
theorem inside (h : Deeper P counter down m m') (hcontext : P.context context)
    (hcounter : context.counter = counter) (node : Node) :
    Deeper P counter (down + 1) { m with room := m.room - 1 } (m'.inside context node) where
  same := by
    refine ⟨?_, ?_, fun htraces => ?_⟩
    · obtain ⟨depth, events, rfl⟩ := h.eq_with
      rfl
    · exact (news_inside m' context node).trans h.same.news
    · exact (events_inside (trace_eq_false hcontext htraces) m' node).trans
        (h.same.untraced htraces)
  depth n := by
    have hdepth := h.depth n
    show (m'.depth.set context.counter (m'.depth context.counter + 1)) n =
      m.depth n + if n = counter then down + 1 else 0
    rw [Cells.get_set, hcounter]
    split
    · rename_i hn
      rw [if_pos hn] at hdepth
      rw [← hn, hdepth]
      omega
    · rename_i hn
      rw [if_neg hn] at hdepth
      exact hdepth
  permits := h.permits.of_eq rfl rfl

theorem outside (h : Deeper P counter (down + 1) m m') (hcounter : context.counter = counter)
    (room : Nat) : Deeper P counter down { m with room } (m'.outside context room) where
  same := by
    obtain ⟨depth, events, rfl⟩ := h.eq_with
    exact ⟨rfl, h.same.news, h.same.untraced⟩
  depth n := by
    have hdepth := h.depth n
    show (m'.depth.set context.counter (m'.depth context.counter - 1)) n =
      m.depth n + if n = counter then down else 0
    rw [Cells.get_set, hcounter]
    split
    · rename_i hn
      rw [if_pos hn] at hdepth
      rw [← hn, hdepth]
      omega
    · rename_i hn
      rw [if_neg hn] at hdepth
      exact hdepth
  permits := h.permits.of_eq rfl rfl

/-- A node is entered above and below. -/
theorem inside_both (h : Deeper P counter down m m') (hcontext : P.context context) (node : Node) :
    Deeper P counter down (m.inside context node) (m'.inside context node) where
  same := by
    refine ⟨?_, ?_, fun htraces => ?_⟩
    · obtain ⟨depth, events, rfl⟩ := h.eq_with
      rfl
    · have hnews : m'.news = m.news := h.same.news
      rw [news_inside, hnews]
      exact (news_inside m context node).symm
    · have hoff := trace_eq_false hcontext htraces
      have hevents : m'.events = m.events := h.same.untraced htraces
      rw [events_inside hoff, hevents]
      exact (events_inside hoff m node).symm
  depth n := by
    have hdepth := h.depth n
    show (m'.depth.set context.counter (m'.depth context.counter + 1)) n =
      (m.depth.set context.counter (m.depth context.counter + 1)) n + _
    rw [Cells.get_set, Cells.get_set]
    by_cases hn : n = context.counter
    · rw [if_pos hn, if_pos hn, ← hn, hdepth]
      omega
    · rw [if_neg hn, if_neg hn]
      exact hdepth
  permits := h.permits.of_eq rfl rfl

theorem outside_both (h : Deeper P counter down m m') (hdeep : 0 < m.depth context.counter)
    (room : Nat) : Deeper P counter down (m.outside context room) (m'.outside context room) where
  same := by
    obtain ⟨depth, events, rfl⟩ := h.eq_with
    exact ⟨rfl, h.same.news, h.same.untraced⟩
  depth n := by
    have hdepth := h.depth n
    show (m'.depth.set context.counter (m'.depth context.counter - 1)) n =
      (m.depth.set context.counter (m.depth context.counter - 1)) n + _
    rw [Cells.get_set, Cells.get_set]
    by_cases hn : n = context.counter
    · rw [if_pos hn, if_pos hn, ← hn, hdepth]
      rw [← hn] at hdeep
      omega
    · rw [if_neg hn, if_neg hn]
      exact hdepth
  permits := h.permits.of_eq rfl rfl

end Machine.Deeper

namespace Policy

variable {P : Policy} {counter down : Nat}

theorem permitsValue_of_hiding {value value' : Value}
    (h : value.Alike (P.likeness.hiding counter) value') :
    value' = value ∧ P.PermitsValue value := by
  have halike := (P.likeness.hiding_refines counter).value h
  obtain rfl := value_eq halike
  exact ⟨rfl, halike⟩

theorem permitsBindings_of_hiding {κ : Type} {bindings bindings' : Bindings κ Value}
    (h : Bindings.Alike (P.likeness.hiding counter) bindings bindings') :
    bindings' = bindings ∧ P.PermitsBindings bindings := by
  have halike := (P.likeness.hiding_refines counter).bindings h
  obtain rfl := bindings_eq halike
  exact ⟨rfl, permitsBindings_iff.mpr halike⟩

theorem alike_hiding {value : Value} (h : P.PermitsValue value) :
    value.Alike (P.likeness.hiding counter) value :=
  (P.likeness.refines_hiding counter).value h

theorem bindings_alike_hiding {κ : Type} {bindings : Bindings κ Value}
    (h : P.PermitsBindings bindings) :
    Bindings.Alike (P.likeness.hiding counter) bindings bindings :=
  (P.likeness.refines_hiding counter).bindings (permitsBindings_iff.mp h)

/-- **Runs that are some levels apart go alike.** -/
def deeper (P : Policy) (counter down : Nat) : Correspondence where
  toLikeness := P.likeness.hiding counter
  machine := Machine.Deeper P counter down
  interruption stop := stop = .fault .interrupted
  visible_of_token _ _ := trivial
  visible_get := trivial
  visible_resolver _ := trivial
  interruption_self := Stop.interrupted_self
  interruption_cases h := .inl h
  lookup h id id' hid name _ := by
    obtain ⟨rfl, hframe⟩ := hid
    rw [h.lookup?_eq]
    exact (bindings_alike_hiding (h.permits.frames _ hframe)).find? name
  registered {m m'} h name := by
    have hmodules : Bindings.Alike (P.likeness.hiding counter) m.modules m.modules :=
      bindings_alike_hiding h.permits.modules
    have hfound := hmodules.find? name
    obtain ⟨depth, events, rfl⟩ := h.eq_with
    exact hfound
  counter_eq h n hn := by
    rw [h.depth n, if_neg hn]
    rfl
  overlay {m m'} h id id' hid more more' hmore := by
    obtain ⟨rfl, hframe⟩ := hid
    obtain ⟨rfl, hmore⟩ := permitsBindings_of_hiding hmore
    have hall := (permitsBindings_iff.mp (h.permits.frames _ hframe)).insertAll
      (permitsBindings_iff.mp hmore)
    have hsize : m'.frames.size = m.frames.size := by
      obtain ⟨depth, events, rfl⟩ := h.eq_with
      rfl
    rw [h.frame_eq]
    exact ⟨h.addFrame (permitsBindings_iff.mpr hall), hsize, h.permits.fresh _ (Nat.le_refl _)⟩
  define h id id' hid name value value' hvalue := by
    obtain ⟨rfl, hframe⟩ := hid
    obtain ⟨rfl, hvalue⟩ := permitsValue_of_hiding hvalue
    exact h.define _ name hvalue
  nextRef {m m'} h := by
    have hchange := h.change (m.nextRef + 1) m.printed m.interrupted
    obtain ⟨depth, events, rfl⟩ := h.eq_with
    exact ⟨hchange, rfl⟩
  printed {m m'} h text := by
    have hchange := h.change m.nextRef (m.printed ++ text ++ "\n") m.interrupted
    obtain ⟨depth, events, rfl⟩ := h.eq_with
    exact hchange
  resolving h name := h.report (.resolving name)
  interrupting {m m'} h flag interrupted := by
    have hchange := h.change m.nextRef m.printed (m.interrupted.set flag interrupted)
    obtain ⟨depth, events, rfl⟩ := h.eq_with
    exact hchange

/-- **Until one of them is given up**: above as many levels before it overflows as it is further
up, below where it overflows. -/
theorem entersBelow_deeper (P : Policy) (counter down : Nat) :
    (P.deeper counter down).EntersBelow (.lowered counter down) .own where
  oracle h rule nodes nodes' hnodes := by
    rw [h.1, nodes_eq ((P.likeness.hiding_refines counter).nodes hnodes)]
  interrupted_eq h m m' hm := by
    have hm : Machine.Deeper P counter down m m' := hm
    rw [h.1, hm.interrupted_eq]
  depth_le_iff {context context'} h m m' hm := by
    have hm : Machine.Deeper P counter down m m' := hm
    obtain rfl : context' = context := h.1
    show context'.maxDepth ≤ m'.depth context'.counter ↔
      (if context'.counter = counter then context'.maxDepth - down else context'.maxDepth) ≤
        m.depth context'.counter
    rw [hm.depth]
    split <;> omega
  room_eq hm := Machine.Deeper.room_eq hm
  inside {context context'} h m m' hm node node' hnode := by
    obtain rfl : context' = context := h.1
    obtain rfl := node_eq ((P.likeness.hiding_refines counter).node hnode)
    exact Machine.Deeper.inside_both hm h.2 node'
  outside {context context'} h m m' hm hdeep room := by
    obtain rfl : context' = context := h.1
    exact Machine.Deeper.outside_both hm hdeep room

end Policy

/-! ### Runs that may be given up -/

/-- Unless the computation is given up, it has a value, and it leaves a machine, as described. -/
def Eval.SucceedsUnlessGivenUp {α : Type} (x : Eval α) (machine : Machine)
    (good : α → Machine → Prop) : Prop :=
  x.GivesUp machine ∨ ∃ a last, x machine = .ok a last ∧ good a last

namespace Eval.SucceedsUnlessGivenUp

variable {α β : Type} {x : Eval α} {machine : Machine} {good : α → Machine → Prop}

theorem of_ok {a : α} {last : Machine} (h : x machine = .ok a last) (hgood : good a last) :
    x.SucceedsUnlessGivenUp machine good :=
  .inr ⟨a, last, h, hgood⟩

theorem of_outOfLevels {last : Machine} (h : x machine = .error .outOfLevels last) :
    x.SucceedsUnlessGivenUp machine good :=
  .inl (givesUp_iff.mpr ⟨last, h⟩)

theorem mono {good' : α → Machine → Prop} (hx : x.SucceedsUnlessGivenUp machine good)
    (h : ∀ a last, good a last → good' a last) : x.SucceedsUnlessGivenUp machine good' := by
  rcases hx with hstop | ⟨a, last, hok, hgood⟩
  · exact .inl hstop
  · exact of_ok hok (h a last hgood)

theorem bind {f : α → Eval β} {good' : β → Machine → Prop}
    (hx : x.SucceedsUnlessGivenUp machine good)
    (hf : ∀ a last, good a last → (f a).SucceedsUnlessGivenUp last good') :
    (x >>= f).SucceedsUnlessGivenUp machine good' := by
  rcases hx with hstop | ⟨a, last, hok, hgood⟩
  · obtain ⟨last, hstop⟩ := givesUp_iff.mp hstop
    exact of_outOfLevels (Eval.bind_error hstop)
  · unfold SucceedsUnlessGivenUp GivesUp stop?
    rw [Eval.bind_ok hok]
    exact hf a last hgood

theorem located (location : Option Location) (hx : x.SucceedsUnlessGivenUp machine good) :
    (Eval.located location x).SucceedsUnlessGivenUp machine good := by
  rcases hx with hstop | ⟨a, last, hok, hgood⟩
  · obtain ⟨last, hstop⟩ := givesUp_iff.mp hstop
    have hlocated : Eval.located location x machine = .error .outOfLevels last := by
      unfold Eval.located
      rw [hstop]
    exact of_outOfLevels hlocated
  · exact of_ok (Eval.located_eq_ok_iff.mpr hok) hgood

/-- What succeeds inside a node does so around it, unless it is given up there.  The machine that it
leaves inside is as deep as the one that it started on. -/
theorem withinLimit {limit : Limit} {context : Context} {node : Node}
    (hfree : machine.interrupted context.flag = false) (hsteady : x.Steady)
    (hx : machine.room ≠ 0 → x.SucceedsUnlessGivenUp (machine.inside context node) fun a last =>
      last.room + 1 = machine.room → good a (last.outside context machine.room)) :
    (Eval.withinLimit limit context node x).SucceedsUnlessGivenUp machine good := by
  have heq := Eval.withinLimit_eq limit context node x machine
  rw [hfree, if_neg Bool.false_ne_true] at heq
  by_cases hdeep : limit.depth context ≤ machine.depth context.counter
  · rw [if_pos hdeep] at heq
    exact of_outOfLevels heq
  rw [if_neg hdeep] at heq
  by_cases hroom : machine.room = 0
  · rw [if_pos hroom] at heq
    exact of_outOfLevels heq
  rw [if_neg hroom] at heq
  have hkept := (hsteady (machine.inside context node)).1
  rcases hx hroom with hstop | ⟨a, last, hok, hgood⟩
  · obtain ⟨last, hstop⟩ := givesUp_iff.mp hstop
    rw [hstop] at heq
    exact of_outOfLevels heq
  · rw [hok] at heq
    unfold Eval.after at hkept
    rw [hok] at hkept
    have hkept : last.room = machine.room - 1 := hkept
    exact of_ok heq (hgood (by omega))

end Eval.SucceedsUnlessGivenUp

/-! ### Less room -/

/-- The second machine is `down` levels deeper than the first one, and has room for as many levels
less. -/
def Machine.Below (P : Policy) (counter down : Nat) (m m' : Machine) : Prop :=
  ∃ narrow : Machine, m = narrow.widen down ∧ Deeper P counter down narrow m'

namespace Machine.Below

variable {P : Policy} {counter down : Nat} {m m' : Machine} {context : Context}

theorem lookup?_eq (h : Below P counter down m m') (id : FrameId) (name : String) :
    m'.lookup? id name = m.lookup? id name := by
  obtain ⟨narrow, rfl, hdeeper⟩ := h
  exact hdeeper.lookup?_eq id name

theorem interrupted_eq (h : Below P counter down m m') : m'.interrupted = m.interrupted := by
  obtain ⟨narrow, rfl, hdeeper⟩ := h
  exact hdeeper.interrupted_eq

theorem permits (h : Below P counter down m m') : P.PermitsMachine m := by
  obtain ⟨narrow, rfl, hdeeper⟩ := h
  exact hdeeper.permits.of_eq rfl rfl

/-- Below, a node is entered that is not entered above. -/
theorem inside (h : Below P counter down m m') (hcontext : P.context context)
    (hcounter : context.counter = counter) (hroom : m'.room ≠ 0) (node : Node) :
    Below P counter (down + 1) m (m'.inside context node) := by
  obtain ⟨narrow, rfl, hdeeper⟩ := h
  rw [hdeeper.room_eq] at hroom
  refine ⟨{ narrow with room := narrow.room - 1 }, ?_, hdeeper.inside hcontext hcounter node⟩
  have hback : narrow.room - 1 + (down + 1) = narrow.room + down := by omega
  unfold widen
  dsimp only
  rw [hback]

theorem outside (h : Below P counter (down + 1) m m') (hcounter : context.counter = counter)
    {room : Nat} (hroom : m'.room + 1 = room) :
    Below P counter down m (m'.outside context room) := by
  obtain ⟨narrow, rfl, hdeeper⟩ := h
  rw [hdeeper.room_eq] at hroom
  refine ⟨{ narrow with room }, ?_, hdeeper.outside hcounter room⟩
  have hback : narrow.room + (down + 1) = room + down := by omega
  unfold widen
  dsimp only
  rw [hback]

/-- At the same depth, only the nodes that were reported differ. -/
theorem sameButTrace (h : Below P counter 0 m m') : m.SameButTrace P.Traces m' := by
  obtain ⟨narrow, rfl, hdeeper⟩ := h
  have hdepth : m'.depth = narrow.depth := by
    refine Cells.ext fun n => ?_
    rw [hdeeper.depth n]
    split <;> rfl
  have hsame := hdeeper.same
  rw [hdepth] at hsame
  exact hsame

end Machine.Below

/-! ### The same value further down -/

/-- What is computed leaves all nodes to evaluators, and it goes alike under evaluators that do. -/
structure Uniform {α : Type} (C : Correspondence) (hosts : Hosts) (R : α → α → Prop)
    (run : (Context → Evaluator) → Eval α) : Prop where
  /-- It is simulated where nodes are. -/
  simulated (S : Simulation) {e e' : Context → Evaluator} (he : S.Carries hosts e e') :
    S.Rel (run e) (run e')
  /-- It goes alike where nodes do. -/
  alike {e e' : Context → Evaluator} (he : C.Carries hosts e e') : C.CallAlike R (run e) (run e')

namespace Uniform

variable {α : Type} {P : Policy} {counter down : Nat} {hosts : Hosts}

theorem node {context : Context} (hcontext : P.context context) {node : Node}
    (hnode : P.PermitsNode node) {frame : FrameId} (hframe : P.frame frame) :
    Uniform (P.deeper counter down) hosts (Value.Alike (P.likeness.hiding counter))
      fun evaluate => evaluate context node frame where
  simulated _ _ _ he := he.nodes context node frame
  alike he := (he.nodes ⟨rfl, hcontext⟩ ((P.likeness.refines_hiding counter).node hnode)
    ⟨rfl, hframe⟩).settled

theorem arguments {context : Context} (hcontext : P.context context) {nodes : List Node}
    (hnodes : ∀ node ∈ nodes, P.PermitsNode node) {frame : FrameId} (hframe : P.frame frame) :
    Uniform (P.deeper counter down) hosts (Value.AllAlike (P.likeness.hiding counter))
      fun evaluate => Eval.arguments (evaluate context) frame nodes where
  simulated _ _ _ he := Simulation.arguments (he.nodes context) frame nodes
  alike he := (Correspondence.arguments (he.nodes ⟨rfl, hcontext⟩) ⟨rfl, hframe⟩
    ((P.likeness.refines_hiding counter).nodes (Policy.permitsNodes_iff.mpr hnodes))).settled

theorem call {callee : Value} (hcallee : callee.Alike (P.likeness.hiding counter) callee)
    {args : List Value} (hargs : Value.AllAlike (P.likeness.hiding counter) args args) :
    Uniform (P.deeper counter down) hosts (Value.Alike (P.likeness.hiding counter))
      fun evaluate => callee.call hosts evaluate args where
  simulated _ _ _ he := Simulation.call he callee args
  alike he := Correspondence.call he hcallee hargs

/-- **What has a value has it further down as well**, unless it is given up there. -/
theorem succeeds {config : Config} {R : α → α → Prop} {run : (Context → Evaluator) → Eval α}
    (hrun : Uniform (P.deeper counter down) config.hosts R run)
    (hhosts : config.hosts.Respect (P.likeness.hiding counter)) {m m' : Machine}
    (hm : Machine.Below P counter down m m') {a : α} {last : Machine}
    (hok : run config.evaluators m = .ok a last) :
    (run (config.limited .own)).SucceedsUnlessGivenUp m' fun a' last' =>
      R a a' ∧ Machine.Below P counter down last last' := by
  obtain ⟨narrow, rfl, hdeeper⟩ := hm
  have hplain : (run (config.limited (.lowered counter down))).Roomier (run config.evaluators) :=
    hrun.simulated .roomier (Eval.Roomier.carriesLimited _ config)
  have halike := hrun.alike ((P.entersBelow_deeper counter down).carries hhosts) narrow m' hdeeper
  unfold Eval.SucceedsUnlessGivenUp Eval.GivesUp Eval.stop?
  generalize run (config.limited .own) m' = below at halike ⊢
  rcases hplain narrow down with ⟨stopped, hgives⟩ | hsame
  · -- both are given up
    rw [hgives] at halike
    cases halike with
    | error hstop _ =>
      cases hstop with
      | settled hstop =>
        cases hstop
        exact .inl rfl
  · -- above there was more room, which was not needed
    rw [hok] at hsame
    generalize run (config.limited (.lowered counter down)) narrow = above at halike hsame
    cases halike with
    | error hstop _ => cases hsame
    | ok hvalue hlast =>
      cases hsame
      exact .inr ⟨_, _, rfl, hvalue, _, rfl, hlast⟩

end Uniform

/-! ### Nodes that are evaluated without overflows -/

namespace Node

variable {config : Config} {top : Bool} {node : Node} {frame : FrameId} {machine : Machine}

/-- No overflow is raised when a node is evaluated, not even one that is handled. -/
def NeverOverflows (config : Config) (top : Bool) (node : Node) (frame : FrameId)
    (machine : Machine) : Prop :=
  (node.eval config top frame).NeverOverflows (fun watch => watch.eval config top node frame)
    machine

/-- When a node is evaluated, the stack of the evaluating thread lasts. -/
def Lasts (config : Config) (top : Bool) (node : Node) (frame : FrameId) (machine : Machine) :
    Prop :=
  ¬ (node.eval config top frame).GivesUp machine

/-- It is enough to watch with the alarm. -/
theorem neverOverflows_and_lasts_iff :
    node.NeverOverflows config top frame machine ∧ node.Lasts config top frame machine ↔
      ¬ (node.evalLimited .own config top frame).GivesUp machine := by
  rw [← Watch.alarm_eval]
  refine Eval.neverOverflows_iff (Watch.idle_eval config top node frame) fun watch hwatch => ?_
  rw [Watch.alarm_eval]
  exact .evalLimited hwatch top node frame

/-- What is sure to succeed unless it is given up under the alarm succeeds without overflows. -/
theorem exists_eval_eq (hfree : node.NeverOverflows config top frame machine)
    (hlasts : node.Lasts config top frame machine) {good : Value → Machine → Prop}
    (hgood : (node.evalLimited .own config top frame).SucceedsUnlessGivenUp machine good) :
    ∃ value last, node.eval config top frame machine = .ok value last ∧ good value last := by
  have hsame := hfree .alarm Watch.alarm_overflowsOnly
  dsimp only at hsame
  rw [Watch.alarm_eval] at hsame
  rw [← hsame]
  exact hgood.resolve_left (neverOverflows_and_lasts_iff.mp ⟨hfree, hlasts⟩)

end Node

/-- The machine some levels further down, as a counter counts. -/
def Machine.lower (machine : Machine) (counter down : Nat) : Machine :=
  { machine with depth := machine.depth.set counter (machine.depth counter + down) }

theorem Machine.lower_zero (machine : Machine) (counter : Nat) :
    machine.lower counter 0 = machine := by
  unfold lower
  rw [Nat.add_zero, Cells.set_get]

namespace Surroundings.HoldUnaware

variable {S : Surroundings} {config : Config} {machine : Machine} {frame : FrameId}

/-- A machine with more room further up, and the machine itself further down. -/
theorem below (h : S.HoldUnaware config machine frame) (down : Nat) :
    Machine.Below (S.policy machine) config.counter down (machine.widen down)
      (machine.lower config.counter down) := by
  refine ⟨machine, rfl, .refl _ _, fun n => ?_, h.encloses.permitsMachine⟩
  show (machine.depth.set config.counter (machine.depth config.counter + down)) n = _
  rw [Cells.get_set]
  split
  · rename_i hn
    rw [hn]
  · rfl

end Surroundings.HoldUnaware

/-- **A node is evaluated further down as it is further up.**  If nothing in reach tells how deep
the machine is, and neither an overflow is raised down there nor the end of the stack reached, then
a value that a node has is its value there as well, and the machines that are left are as far apart
as before, the same but for their depth and for the nodes that were reported. -/
theorem Node.eval_deeper {S : Surroundings} {config : Config} {node : Node} {frame : FrameId}
    {machine : Machine} (h : S.HoldUnaware config machine frame) {down : Nat}
    (hfree : node.NeverOverflows config false frame (machine.lower config.counter down))
    (hlasts : node.Lasts config false frame (machine.lower config.counter down)) {value : Value}
    {last : Machine} (hok : node.eval config false frame (machine.widen down) = .ok value last) :
    ∃ last', node.eval config false frame (machine.lower config.counter down) = .ok value last' ∧
      Machine.Below (S.policy machine) config.counter down last last' := by
  have hrun : Uniform ((S.policy machine).deeper config.counter down) config.hosts
      (Value.Alike ((S.policy machine).likeness.hiding config.counter))
      fun evaluate => evaluate config.toContext node frame :=
    .node h.context (Surroundings.policy_permitsNode machine node) h.encloses.frame_policy
  obtain ⟨value', last', heval, hvalue, hlast⟩ :=
    Node.exists_eval_eq hfree hlasts (hrun.succeeds h.hosts (h.below down) hok)
  obtain ⟨rfl, -⟩ := Policy.permitsValue_of_hiding hvalue
  exact ⟨last', heval, hlast⟩

-- a function that tells the depth has another value further down
example :
    let call : Node := .form [.literal ⟨.identifier, "depth", default⟩ []] [] false none
    let machine : Machine := { frames := #[[("depth", .builtin 0 (.host "depth" 0 "depth"))]] }
    let shown (machine : Machine) : Option String :=
      match call.eval {} false 0 machine with
      | .ok value _ => some value.shown
      | .error _ _ => none
    shown (machine.widen 1) = some "1" ∧ shown (machine.lower 0 1) = some "2" := by
  decide +kernel

/-! ### The prelude -/

/-- What is around in a new session: nothing of the host, and no functions of other contexts. -/
def Surroundings.prelude (config : Config) : Surroundings where
  context context := context = config.toContext
  key _ := False
  object _ := False

/-- **No builtin of the prelude tells how deep the machine is**, whatever the host has beside it. -/
theorem Session.standard_unaware (config : Config) (frame : FrameId) :
    (Surroundings.prelude config).HoldUnaware config (standard config).machine frame := by
  let P : Policy := { toSurroundings := .prelude config }
  have hpermits : P.PermitsMachine (standard config).machine :=
    Policy.standard_permits config fun _ => trivial
  refine ⟨rfl, Policy.encloses_of_permitsMachine hpermits trivial, ⟨?_, ?_⟩⟩
  · exact fun h => h.elim
  · exact fun h => h.elim

end FrameLisp
