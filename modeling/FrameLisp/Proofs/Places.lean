import FrameLisp.Proofs.RoundTrip
import FrameLisp.Proofs.Splitting

/-!
# Places are inert

Tokens, forms, functions and faults say where in a source they are from, and a fault asks several of
them before it settles on a place.  None of this is seen by a program.  If two programs are the same
without places, and so are the machines they run on, then the two runs enter the same nodes, print
the same text and end in the same way, and the machines that are left are the same without places
again (`Session.evalNodes_unplaced`).

What is left without places is told by `unplaced`, for nodes as for values and events.  To be the
same without places is to be alike for the likeness that lets places be anywhere
(`Value.alike_iff_unplaced`), so the two runs are a `Departure` in which nothing is renumbered.
-/

namespace FrameLisp

/-! ### What is left without places -/

/-- The function without places. -/
def Closure.unplaced (closure : Closure) : Closure :=
  { closure with body := closure.body.map Node.unplaced, location := none }

/-- A value is smaller than bindings that it is in. -/
theorem Bindings.sizeOf_lt_of_mem {κ : Type} [SizeOf κ] {bindings : Bindings κ Value}
    {pair : κ × Value} (h : pair ∈ bindings) : sizeOf pair.2 < sizeOf bindings := by
  have hsize := List.sizeOf_lt_of_mem h
  obtain ⟨key, value⟩ := pair
  simp only [Prod.mk.sizeOf_spec] at hsize ⊢
  omega

/-- The value without the places in its functions and exceptions. -/
def Value.unplaced : Value → Value
  | list items => list (items.map unplaced)
  | dict entries => dict (entries.map fun pair => (pair.1, pair.2.unplaced))
  | function ref closure => function ref closure.unplaced
  | exception ref fault => exception ref fault.unplaced
  | module ref name members => module ref name (members.map fun pair => (pair.1, pair.2.unplaced))
  | value => value
termination_by value => sizeOf value
decreasing_by
  · have hsize := List.sizeOf_lt_of_mem ‹_ ∈ items›
    simp only [list.sizeOf_spec]
    omega
  · have hsize := Bindings.sizeOf_lt_of_mem ‹_ ∈ entries›
    simp only [dict.sizeOf_spec]
    omega
  · have hsize := Bindings.sizeOf_lt_of_mem ‹_ ∈ members›
    simp only [module.sizeOf_spec]
    omega

/-- The bindings without the places in their values. -/
def Bindings.unplaced {κ : Type} (bindings : Bindings κ Value) : Bindings κ Value :=
  bindings.map fun pair => (pair.1, pair.2.unplaced)

/-- The way to stop without its place. -/
def Stop.unplaced : Stop → Stop
  | .fault f => .fault f.unplaced
  | stop => stop

/-- The notice without its place. -/
def Notice.unplaced : Notice → Notice
  | stray c _ => stray c default
  | unterminated _ => unterminated default

/-- The event without places. -/
def Event.unplaced : Event → Event
  | .notice n => .notice n.unplaced
  | .resolving name => .resolving name
  | .topLevel node => .topLevel node.unplaced
  | .entered depth node => .entered depth node.unplaced

/-- What a program works on, without places: all of the machine but what was printed and reported.
-/
def Machine.unplacedStore (machine : Machine) : Machine :=
  { machine with
    frames := machine.frames.map Bindings.unplaced
    modules := Bindings.unplaced machine.modules
    printed := ""
    events := #[] }

/-! ### To be alike wherever places are -/

/-- The likeness that leaves out places, where functions were made in certain contexts. -/
def Likeness.upToPlaces (contexts : Context → Prop) : Likeness :=
  Relocation.anywhere.likeness (fun context context' => context' = context ∧ contexts context) id id
    Relocation.id_inj

variable {contexts : Context → Prop}

theorem Token.alike_iff_unplaced {token token' : Token} :
    (Likeness.upToPlaces contexts).token token token' ↔ token'.unplaced = token.unplaced := by
  rw [unplaced_eq_iff, mark_eq_iff]
  exact ⟨fun h => h.1, fun h => ⟨h, trivial⟩⟩

/-- Lists with the same image are related item by item, if items with the same image are. -/
theorem forall₂_of_map_eq {α β : Type} {f : α → β} {R : α → α → Prop} {items items' : List α}
    (h : items'.map f = items.map f) (hR : ∀ a ∈ items, ∀ a', f a' = f a → R a a') :
    List.Forall₂ R items items' := by
  induction items generalizing items' with
  | nil =>
    cases List.map_eq_nil_iff.mp h
    exact .nil
  | cons a items ih =>
    obtain ⟨a', rest, rfl, hfirst, hrest⟩ := List.map_eq_cons_iff.mp h
    refine .cons (hR a List.mem_cons_self a' hfirst) (ih hrest fun b hb => ?_)
    exact hR b (List.mem_cons_of_mem a hb)

mutual

theorem Node.Alike.unplaced_eq {node node' : Node} (h : node.Alike (.upToPlaces contexts) node') :
    node'.unplaced = node.unplaced := by
  cases h with
  | literal h properties => rw [unplaced, unplaced, Token.alike_iff_unplaced.mp h]
  | form h properties inline _ => rw [unplaced, unplaced, Node.Alike.map_unplaced_eq h]

theorem Node.Alike.map_unplaced_eq {nodes nodes' : List Node}
    (h : List.Forall₂ (Node.Alike (.upToPlaces contexts)) nodes nodes') :
    nodes'.map unplaced = nodes.map unplaced := by
  cases h with
  | nil => rfl
  | cons hnode hnodes =>
    rw [List.map_cons, List.map_cons, hnode.unplaced_eq, Node.Alike.map_unplaced_eq hnodes]

end

theorem Node.alike_of_unplaced : ∀ {node node' : Node}, node'.unplaced = node.unplaced →
    node.Alike (.upToPlaces contexts) node'
  | .literal _ _, .literal _ _, h => by
    rw [unplaced, unplaced, literal.injEq] at h
    obtain ⟨htoken, rfl⟩ := h
    exact .literal (Token.alike_iff_unplaced.mpr htoken) _
  | .form children _ _ _, .form children' _ _ _, h => by
    rw [unplaced, unplaced, form.injEq] at h
    obtain ⟨hchildren, rfl, rfl, -⟩ := h
    refine .form (forall₂_of_map_eq hchildren fun child hchild child' h => ?_) _ _ trivial
    exact alike_of_unplaced h
  | .literal .., .form .., h => by
    rw [unplaced, unplaced] at h
    cases h
  | .form .., .literal .., h => by
    rw [unplaced, unplaced] at h
    cases h
termination_by node => sizeOf node
decreasing_by
  have hsize := List.sizeOf_lt_of_mem hchild
  simp only [form.sizeOf_spec]
  omega

theorem Node.all_alike_of_unplaced {nodes nodes' : List Node}
    (h : nodes'.map unplaced = nodes.map unplaced) :
    List.Forall₂ (Node.Alike (.upToPlaces contexts)) nodes nodes' :=
  forall₂_of_map_eq h fun _ _ _ => alike_of_unplaced

theorem Closure.Alike.unplaced_eq {closure closure' : Closure}
    (h : closure.Alike (.upToPlaces contexts) closure') : closure'.unplaced = closure.unplaced := by
  have hframe : closure'.frame = closure.frame := h.frame
  have hcontext : closure'.context = closure.context := h.context.1
  unfold Closure.unplaced
  rw [h.name, h.signature, Node.Alike.map_unplaced_eq h.body, hframe, hcontext]

theorem Closure.alike_of_unplaced {closure closure' : Closure}
    (h : closure'.unplaced = closure.unplaced) (hcontext : contexts closure.context) :
    closure.Alike (.upToPlaces contexts) closure' := by
  unfold Closure.unplaced at h
  rw [Closure.mk.injEq] at h
  obtain ⟨hname, hsignature, hbody, hframe, hsame, -⟩ := h
  exact ⟨hname, hsignature, Node.all_alike_of_unplaced hbody, hframe, ⟨hsame, hcontext⟩, trivial⟩

theorem Value.unplaced_dict (entries : List (Key × Value)) :
    (Value.dict entries).unplaced = .dict (Bindings.unplaced entries) := by
  rw [unplaced]
  rfl

theorem Value.unplaced_module (ref : Nat) (name : String) (members : List (String × Value)) :
    (Value.module ref name members).unplaced = .module ref name (Bindings.unplaced members) := by
  rw [unplaced]
  rfl

section Bindings

variable {κ : Type} {bindings bindings' : Bindings κ Value}

theorem Bindings.unplaced_eq_of_keys (hkeys : keys bindings' = keys bindings)
    (h : (bindings'.map Prod.snd).map Value.unplaced = (bindings.map Prod.snd).map Value.unplaced) :
    bindings'.unplaced = bindings.unplaced := by
  have hzip : ∀ b : Bindings κ Value,
      b.unplaced = (keys b).zip ((b.map Prod.snd).map Value.unplaced) := by
    intro b
    unfold unplaced keys
    rw [List.map_map, List.zip_map']
    rfl
  rw [hzip, hzip, hkeys, h]

theorem Bindings.alike_of_values (h : bindings'.unplaced = bindings.unplaced)
    (hvalues : ∀ pair ∈ bindings, ∀ value', value'.unplaced = pair.2.unplaced →
      pair.2.Alike (.upToPlaces contexts) value') :
    Bindings.Alike (.upToPlaces contexts) bindings bindings' := by
  refine forall₂_of_map_eq h fun pair hpair pair' heq => ?_
  rw [Prod.mk.injEq] at heq
  exact ⟨heq.1, hvalues pair hpair _ heq.2⟩

end Bindings

mutual

theorem Value.Alike.unplaced_eq {value value' : Value}
    (h : value.Alike (.upToPlaces contexts) value') :
    value'.unplaced = value.unplaced := by
  cases h with
  | list h => rw [unplaced, unplaced, Value.Alike.map_unplaced_eq h]
  | @dict entries entries' hkeys h =>
    have hsize := Bindings.sizeOf_values_le entries
    rw [unplaced_dict, unplaced_dict,
      Bindings.unplaced_eq_of_keys hkeys (Value.Alike.map_unplaced_eq h)]
  | function href h =>
    cases href
    rw [unplaced, unplaced, h.unplaced_eq]
    rfl
  | builtin href h =>
    cases href
    rfl
  | exception href h =>
    cases href
    rw [unplaced, unplaced, h.1]
    rfl
  | object href h =>
    cases href
    rfl
  | @module ref ref' href name members members' hnames h =>
    have hsize := Bindings.sizeOf_values_le members
    cases href
    rw [unplaced_module, unplaced_module,
      Bindings.unplaced_eq_of_keys hnames (Value.Alike.map_unplaced_eq h)]
    rfl
  | _ => rfl
termination_by sizeOf value

theorem Value.Alike.map_unplaced_eq {values values' : List Value}
    (h : Value.AllAlike (.upToPlaces contexts) values values') :
    values'.map unplaced = values.map unplaced := by
  cases h with
  | nil => rfl
  | cons hvalue hvalues =>
    rw [List.map_cons, List.map_cons, hvalue.unplaced_eq, Value.Alike.map_unplaced_eq hvalues]
termination_by sizeOf values

end

theorem Value.alike_of_unplaced {value value' : Value} (h : value'.unplaced = value.unplaced)
    (hunder : value.Under contexts) : value.Alike (.upToPlaces contexts) value' := by
  -- without places a value is still made in the same way
  cases value <;> cases value' <;>
    simp only [unplaced_dict, unplaced_module, unplaced, reduceCtorEq, bool.injEq, int.injEq,
      float.injEq, str.injEq, keyword.injEq, symbol.injEq, list.injEq, dict.injEq, function.injEq,
      builtin.injEq, errorClass.injEq, exception.injEq, object.injEq, module.injEq] at h
  case nil.nil => exact .nil
  case bool.bool b b' =>
    subst h
    exact .bool b'
  case int.int n n' =>
    subst h
    exact .int n'
  case float.float x x' =>
    subst h
    exact .float x'
  case str.str text text' =>
    subst h
    exact .str text'
  case keyword.keyword name name' =>
    subst h
    exact .keyword name'
  case symbol.symbol name name' =>
    subst h
    exact .symbol name'
  case list.list items items' =>
    refine .list (forall₂_of_map_eq h fun item hitem item' h => alike_of_unplaced h ?_)
    exact hunder.of_part (.item .itself hitem)
  case dict.dict entries entries' =>
    refine .ofEntries (Bindings.alike_of_values h fun pair hpair _ hvalue =>
      alike_of_unplaced hvalue ?_)
    exact hunder.of_part (.entry .itself hpair)
  case function.function ref closure ref' closure' =>
    exact .function h.1 (Closure.alike_of_unplaced h.2 (hunder _ .itself _ rfl))
  case builtin.builtin ref b ref' b' =>
    obtain ⟨href, rfl⟩ := h
    exact .builtin href trivial
  case errorClass.errorClass kind kind' =>
    subst h
    exact .errorClass trivial
  case exception.exception ref fault ref' fault' =>
    exact .exception h.1 ⟨h.2, trivial⟩
  case object.object ref o ref' o' =>
    obtain ⟨href, rfl⟩ := h
    exact .object href trivial
  case module.module ref name members ref' name' members' =>
    obtain ⟨href, rfl, hmembers⟩ := h
    have halike : Bindings.Alike (.upToPlaces contexts) members members' :=
      Bindings.alike_of_values hmembers fun pair hpair _ hvalue =>
        alike_of_unplaced hvalue (hunder.of_part (.member .itself hpair))
    obtain ⟨hnames, hvalues⟩ := Bindings.Alike.iff_keys_values.mp halike
    exact .module href _ hnames hvalues
termination_by sizeOf value
decreasing_by
  all_goals subst_vars
  · have hsize := List.sizeOf_lt_of_mem hitem
    simp only [list.sizeOf_spec]
    omega
  · have hsize := Bindings.sizeOf_lt_of_mem hpair
    simp only [dict.sizeOf_spec]
    omega
  · have hsize := Bindings.sizeOf_lt_of_mem hpair
    simp only [module.sizeOf_spec]
    omega

/-- **To be the same without places is to be alike wherever places are**, in whatever contexts
functions were made. -/
theorem Value.alike_iff_unplaced {value value' : Value} :
    value.Alike (.upToPlaces fun _ => True) value' ↔ value'.unplaced = value.unplaced :=
  ⟨fun h => h.unplaced_eq, fun h => alike_of_unplaced h fun _ _ _ _ => trivial⟩

theorem Bindings.Alike.unplaced_eq {κ : Type} {bindings bindings' : Bindings κ Value}
    (h : Bindings.Alike (.upToPlaces contexts) bindings bindings') :
    bindings'.unplaced = bindings.unplaced := by
  obtain ⟨hkeys, hvalues⟩ := Bindings.Alike.iff_keys_values.mp h
  exact Bindings.unplaced_eq_of_keys hkeys (Value.Alike.map_unplaced_eq hvalues)

theorem Bindings.alike_of_unplaced {κ : Type} {bindings bindings' : Bindings κ Value}
    (h : bindings'.unplaced = bindings.unplaced)
    (hunder : ∀ key value, (key, value) ∈ bindings → value.Under contexts) :
    Bindings.Alike (.upToPlaces contexts) bindings bindings' :=
  alike_of_values h fun pair hpair _ hvalue =>
    Value.alike_of_unplaced hvalue (hunder pair.1 pair.2 hpair)

theorem Event.Alike.unplaced_eq {event event' : Event}
    (h : event.Alike (.upToPlaces contexts) event') :
    event'.unplaced = event.unplaced := by
  cases h with
  | notice notice => rfl
  | resolving name => rfl
  | topLevel h => rw [unplaced, unplaced, h.unplaced_eq]
  | entered depth h => rw [unplaced, unplaced, h.unplaced_eq]

/-! ### Machines -/

theorem Machine.frame_unplacedStore (machine : Machine) (id : FrameId) :
    machine.unplacedStore.frame id = (machine.frame id).unplaced := by
  unfold frame unplacedStore
  dsimp only
  rw [Array.getElem?_map]
  cases machine.frames[id]? <;> rfl

namespace Departure

/-- Two runs with places of their own. -/
def anywhere (machine machine' : Machine) : Departure :=
  ⟨machine, machine', .anywhere, Context.SameUnplaced⟩

variable {m m' n n' : Machine}

theorem anywhere_aligned (h : m'.unplacedStore = m.unplacedStore) : (anywhere m m').Aligned := by
  constructor
  · have hsize := congrArg (·.frames.size) h
    dsimp only [Machine.unplacedStore] at hsize
    rw [Array.size_map, Array.size_map] at hsize
    exact hsize
  · exact congrArg (·.nextRef) h

theorem anywhere_likeness_eq (h : (anywhere m m').Aligned) :
    (anywhere m m').likeness = .upToPlaces fun context => context.oracle.IgnoresPlaces :=
  h.likeness_eq

/-- **Machines that are the same without places are a start**, if their functions were made under
oracles that ignore places. -/
theorem anywhere_start (h : m'.unplacedStore = m.unplacedStore)
    (hholds : m.Holds (Value.Under fun context => context.oracle.IgnoresPlaces)) :
    (anywhere m m').Machines m m' := by
  have haligned := anywhere_aligned h
  refine ⟨Nat.le_refl _, ?_, Nat.le_refl _, ?_, fun id => ?_, ?_, ?_, ?_, ?_, ?_, ?_⟩
  · rw [haligned.frame]
    exact haligned.size_eq
  · rw [haligned.ref]
    exact haligned.nextRef_eq
  · rw [haligned.frame, anywhere_likeness_eq haligned]
    refine Bindings.alike_of_unplaced ?_ (hholds.frames id)
    rw [← Machine.frame_unplacedStore, ← Machine.frame_unplacedStore, h]
  · rw [anywhere_likeness_eq haligned]
    exact Bindings.alike_of_unplaced (congrArg (·.modules) h) hholds.modules
  · exact congrArg (·.depth) h
  · exact congrArg (·.room) h
  · exact congrArg (·.interrupted) h
  · exact ⟨"", String.append_empty.symm, String.append_empty.symm⟩
  · exact ⟨[], [], (List.append_nil _).symm, (List.append_nil _).symm, .nil⟩

/-- The same is left to work on after runs that started on the same. -/
theorem anywhere_store_eq (haligned : (anywhere m m').Aligned) (h : (anywhere m m').Machines n n') :
    n'.unplacedStore = n.unplacedStore := by
  have hframes : n'.frames.map Bindings.unplaced = n.frames.map Bindings.unplaced := by
    show n'.unplacedStore.frames = n.unplacedStore.frames
    refine Machine.frames_ext ?_ fun id => ?_
    · dsimp only [Machine.unplacedStore]
      rw [Array.size_map, Array.size_map, h.size_eq, haligned.frame]
    · have hframe := h.frames id
      rw [haligned.frame, anywhere_likeness_eq haligned] at hframe
      rw [Machine.frame_unplacedStore, Machine.frame_unplacedStore]
      exact hframe.unplaced_eq
  have hmodules : Bindings.unplaced n'.modules = Bindings.unplaced n.modules := by
    have halike := h.modules
    rw [anywhere_likeness_eq haligned] at halike
    exact halike.unplaced_eq
  have hnextRef : n'.nextRef = n.nextRef := by
    rw [h.nextRef_eq, haligned.ref]
  unfold Machine.unplacedStore
  rw [hframes, hmodules, hnextRef, h.depth_eq, h.room_eq, h.interrupted_eq]

/-- Machines that are alike stay so when room is made. -/
theorem Machines.roomFor {D : Departure} (h : D.Machines m m') (levels : Nat) :
    D.Machines (m.roomFor levels) (m'.roomFor levels) :=
  { h with room_eq := congrArg (max levels) h.room_eq }

theorem anywhere_stop_eq {stop stop' : Stop}
    (h : (anywhere m m').correspondence.StopAlike stop stop') : stop'.unplaced = stop.unplaced := by
  cases h with
  | fault h => exact congrArg Stop.fault h.unplaced_eq
  | interrupted h => rw [h]
  | outOfBounds => rfl
  | outOfLevels => rfl

theorem anywhere_events_eq (haligned : (anywhere m m').Aligned) {events events' : List Event}
    (h : List.Forall₂ (Event.Alike (anywhere m m').likeness) events events') :
    events'.map Event.unplaced = events.map Event.unplaced := by
  rw [anywhere_likeness_eq haligned] at h
  induction h with
  | nil => rfl
  | cons hevent _ ih => rw [List.map_cons, List.map_cons, hevent.unplaced_eq, ih]

end Departure

/-! ### Runs -/

/-- Values of two runs that answer a program in the same way. -/
structure Value.AnswerAlike (args args' : List Value) : Prop where
  /-- They are printed as the same text. -/
  printed : joined " " args' = joined " " args
  /-- Every operation refuses them in the same words, or gives the same for them without places. -/
  operation (op : Operation) :
    Matches Eq (fun value value' => value'.unplaced = value.unplaced) (op.run args) (op.run args')
  /-- So does every method of values that are the same without places. -/
  method {receiver receiver' : Value} (h : receiver'.unplaced = receiver.unplaced) (name : String) :
    Option.Rel
      (fun method method' =>
        Matches Eq (fun value value' => value'.unplaced = value.unplaced) (method.run args)
          (method'.run args'))
      (receiver.method? name) (receiver'.method? name)

theorem Matches.of_giveAlike {x y : Except Stop Value} (h : GiveAlike (.upToPlaces contexts) x y) :
    Matches Eq (fun value value' => value'.unplaced = value.unplaced) x y := by
  cases h with
  | ok h => exact .ok h.unplaced_eq
  | error h => exact .error h

/-- **Values that are the same without places answer in the same way.** -/
theorem Value.answerAlike_of_unplaced {args args' : List Value}
    (h : args'.map unplaced = args.map unplaced) : AnswerAlike args args' := by
  have hargs : AllAlike (.upToPlaces fun _ => True) args args' :=
    forall₂_of_map_eq h fun _ _ _ => alike_iff_unplaced.mpr
  refine ⟨Alike.joined " " hargs, fun op => .of_giveAlike (op.run_alike hargs), ?_⟩
  intro receiver receiver' hreceiver name
  have hmethod := (alike_iff_unplaced.mpr hreceiver).method? name
  match receiver.method? name, receiver'.method? name, hmethod with
  | _, _, .none => exact .none
  | _, _, .some hmethod => exact .some (.of_giveAlike (hmethod.run hargs))

namespace Session

/-- Runs from two sessions that are the same without places. -/
structure RunsAlike (session session' : Session) (outcome outcome' : Except Stop Value × Session) :
    Prop where
  /-- They end in the same way. -/
  result :
    Matches (fun stop stop' => stop'.unplaced = stop.unplaced)
      (fun value value' => value'.unplaced = value.unplaced) outcome.1 outcome'.1
  /-- The settings are the same. -/
  config_eq : outcome'.2.config = outcome.2.config
  /-- The same is left to work on. -/
  store_eq : outcome'.2.machine.unplacedStore = outcome.2.machine.unplacedStore
  /-- The same text was printed. -/
  printed : ∃ text, outcome.2.machine.printed = session.machine.printed ++ text ∧
    outcome'.2.machine.printed = session'.machine.printed ++ text
  /-- The same was reported, in traced runs the nodes that were entered among it. -/
  reported : ∃ trace trace',
    outcome.2.machine.events.toList = session.machine.events.toList ++ trace ∧
      outcome'.2.machine.events.toList = session'.machine.events.toList ++ trace' ∧
      trace'.map Event.unplaced = trace.map Event.unplaced

theorem runsAlike_of_machines {session session' : Session} (config : Config)
    (haligned : (Departure.anywhere session.machine session'.machine).Aligned)
    {result result' : Except Stop Value}
    (hresult : Matches (fun stop stop' => stop'.unplaced = stop.unplaced)
      (fun value value' => value'.unplaced = value.unplaced) result result')
    {m m' : Machine} (hm : (Departure.anywhere session.machine session'.machine).Machines m m') :
    RunsAlike session session' (result, ⟨config, m⟩) (result', ⟨config, m'⟩) := by
  obtain ⟨trace, trace', htrace, htrace', halike⟩ := hm.events
  exact ⟨hresult, rfl, Departure.anywhere_store_eq haligned hm, hm.printed, trace, trace',
    htrace, htrace', Departure.anywhere_events_eq haligned halike⟩

/-- **Places are inert.**  Two programs that are the same without places, on machines that are the
same without places, run in the same way up to places: they end with the same value or the same
fault, they print the same text and enter the same nodes, and they leave the same machine.  Whatever
a program may ask of its values is answered in the same way, and the kind and the message of a fault
do not tell where it is from.  No oracle and no code of the host may look at places. -/
theorem evalNodes_unplaced {session session' : Session} (hconfig : session'.config = session.config)
    (hplaces : session.IgnoresPlaces)
    (hstore : session'.machine.unplacedStore = session.machine.unplacedStore)
    {trees trees' : List Node} (htrees : trees'.map Node.unplaced = trees.map Node.unplaced) :
    RunsAlike session session' (session.evalNodes trees) (session'.evalNodes trees') ∧
      (∀ args args' : List Value, args'.map Value.unplaced = args.map Value.unplaced →
        Value.AnswerAlike args args') ∧
      ∀ fault : Fault,
        fault.unplaced.kind = fault.kind ∧ fault.unplaced.message = fault.message := by
  refine ⟨?_, fun _ _ => Value.answerAlike_of_unplaced,
    fun fault => ⟨fault.kind_unplaced, fault.message_unplaced⟩⟩
  let D : Departure := .anywhere session.machine session'.machine
  have haligned : D.Aligned := Departure.anywhere_aligned hstore
  have hlikeness : D.correspondence.toLikeness = .upToPlaces fun c => c.oracle.IgnoresPlaces :=
    Departure.anywhere_likeness_eq haligned
  have henters : D.correspondence.Enters :=
    Departure.enters And.left fun hcontext => haligned.oracleAlike hcontext.2
  have hcontext : D.correspondence.context session.config.toContext session.config.toContext :=
    ⟨rfl, hplaces.oracle⟩
  have hhosts : session.config.hosts.Respect D.correspondence.toLikeness := by
    rw [hlikeness]
    exact hplaces.hosts .anywhere
  have hnodes : D.correspondence.NodesAlike trees trees' := by
    show List.Forall₂ (Node.Alike D.correspondence.toLikeness) trees trees'
    rw [hlikeness]
    exact Node.all_alike_of_unplaced htrees
  have hstart := (Departure.anywhere_start hstore hplaces.functions).roomFor
    session.config.maxDepth
  have hruns := henters.program hcontext hhosts Departure.reports (haligned.frame root).symm .nil
    hnodes _ _ hstart
  change D.correspondence.OutcomeAlike _ _
    (Eval.program session.config root .nil trees
      (session.machine.roomFor session.config.maxDepth))
    (Eval.program session.config root .nil trees'
      (session'.machine.roomFor session.config.maxDepth)) at hruns
  rw [evalNodes_eq, evalNodes_eq, hconfig]
  generalize Eval.program session.config root .nil trees _ = result at hruns ⊢
  generalize Eval.program session.config root .nil trees' _ = result' at hruns ⊢
  cases hruns with
  | ok hvalue hm =>
    change Value.Alike D.correspondence.toLikeness _ _ at hvalue
    rw [hlikeness] at hvalue
    exact runsAlike_of_machines _ haligned (.ok hvalue.unplaced_eq) hm
  | error hstop hm =>
    exact runsAlike_of_machines _ haligned (.error (Departure.anywhere_stop_eq hstop)) hm

/-- A function that is made and called at other places, and by forms that have none, fails in the
same way somewhere else. -/
theorem evalNodes_unplaced_missing :
    let word (text : String) (location : Location) : Node :=
      .literal ⟨.identifier, text, location⟩ []
    let define (location : Location) (place : Option Location) : List Node :=
      [.form [word "defn" location, word "f" location, .form [word "listy" location] [] false place,
        word "missing" location] [] false place]
    let call (location : Location) (place : Option Location) : List Node :=
      [.form [word "f" location] [] false place]
    let failedAt (result : Except Stop Value) : Option Location :=
      match result with
      | .error (.fault fault) => fault.location?
      | _ => none
    let a : Location := ⟨"a", 1, 1⟩
    let b : Location := ⟨"b", 7, 3⟩
    let session := ((standard {}).evalNodes (define a (some a))).2
    let session' := ((standard {}).evalNodes (define b none)).2
    RunsAlike session session' (session.evalNodes (call a (some a)))
        (session'.evalNodes (call b none)) ∧
      failedAt (session.evalNodes (call a (some a))).1 = some a ∧
      failedAt (session'.evalNodes (call b none)).1 = some b := by
  intro word define call failedAt a b session session'
  have hdefine : (define b none).map Node.unplaced = (define a (some a)).map Node.unplaced := by
    simp [define, word, Node.unplaced, Token.unplaced]
  have hcall : (call b none).map Node.unplaced = (call a (some a)).map Node.unplaced := by
    simp [call, word, Node.unplaced, Token.unplaced]
  have hstandard : (standard {}).IgnoresPlaces :=
    standard_ignoresPlaces Rule.standard_ignoresPlaces Hosts.basic_ignorePlaces
  have hplaces : session.IgnoresPlaces := hstandard.evalNodes _
  refine ⟨?_, by decide +kernel, by decide +kernel⟩
  -- the two sessions have a function with places of its own
  have hfirst : RunsAlike (standard {}) (standard {}) ((standard {}).evalNodes (define a (some a)))
      ((standard {}).evalNodes (define b none)) :=
    (evalNodes_unplaced rfl hstandard rfl hdefine).1
  have hconfig : session'.config = session.config := hfirst.config_eq
  have hstore : session'.machine.unplacedStore = session.machine.unplacedStore := hfirst.store_eq
  clear_value session session'
  exact (evalNodes_unplaced hconfig hplaces hstore hcall).1

end Session

end FrameLisp
