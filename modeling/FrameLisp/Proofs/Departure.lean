import FrameLisp.Proofs.Correspondence.Nodes

/-!
# Runs that start apart

Two runs of the same program may start on machines that differ in what a program cannot see.  The
second machine may have frames of its own and may have given out `ref`s of its own, so that new
frames and new values have other numbers there; more may have been printed and reported; and the
places in the nodes of the two runs may differ.

A `Departure` is such a pair of machines, with the places that count as alike.  What exists in the
first machine has its number in both runs, and what comes later is renumbered (`renumber`), in step
with what the second run makes.  That is a correspondence (`Departure.correspondence`), so the runs
go alike: they end in the same way, print the same text and report the same events, up to places and
numbers.  What is left to say is that they start alike (`Departure.start`), for which all that the
first machine holds has to be fixed by the renumbering (`Value.Over`).
-/

namespace FrameLisp

/-! ### Numbers -/

/-- The number in the second run of what has a number in the first: what there was at the start
keeps it, and all else moves on to make room. -/
def renumber (first second n : Nat) : Nat :=
  if n < first then n else n + (second - first)

section Renumber

variable {first second n : Nat}

theorem renumber_of_lt (h : n < first) : renumber first second n = n :=
  if_pos h

theorem renumber_of_le (h : first ≤ n) : renumber first second n = n + (second - first) :=
  if_neg (Nat.not_lt_of_le h)

theorem renumber_start (h : first ≤ second) : renumber first second first = second := by
  rw [renumber_of_le (Nat.le_refl first)]
  omega

theorem renumber_succ (h : first ≤ n) :
    renumber first second (n + 1) = renumber first second n + 1 := by
  rw [renumber_of_le h, renumber_of_le (Nat.le_succ_of_le h)]
  omega

theorem renumber_add (h : first ≤ second) (k : Nat) :
    renumber first second (first + k) = second + k := by
  rw [renumber_of_le (Nat.le_add_right first k)]
  omega

/-- Nothing is renumbered if the machines have as many. -/
theorem renumber_self (first n : Nat) : renumber first first n = n := by
  unfold renumber
  split <;> omega

theorem renumber_inj {n' : Nat} : renumber first second n = renumber first second n' ↔ n = n' := by
  unfold renumber
  split <;> split <;> omega

theorem renumber_lt {n' : Nat} : renumber first second n < renumber first second n' ↔ n < n' := by
  unfold renumber
  split <;> split <;> omega

theorem renumber_lt_start (h : first ≤ second) : renumber first second n < second ↔ n < first := by
  have hlt : renumber first second n < renumber first second first ↔ n < first := renumber_lt
  rwa [renumber_start h] at hlt

end Renumber

/-! ### Faults and events -/

/-- A fault without its place. -/
def Fault.unplaced : Fault → Fault
  | malformed message _ => malformed message none
  | unbound message _ => unbound message none
  | mistyped message _ => mistyped message none
  | runtime message _ => runtime message none
  | arity callee reason _ => arity callee reason none
  | raised kind message _ => raised kind message none
  | overflow depth limit _ => overflow depth limit none
  | interrupted => interrupted

theorem Fault.kind_unplaced (fault : Fault) : fault.unplaced.kind = fault.kind := by
  cases fault <;> rfl

theorem Fault.message_unplaced (fault : Fault) : fault.unplaced.message = fault.message := by
  cases fault <;> rfl

theorem Fault.Alike.unplaced_eq {place : Option Location → Option Location → Prop}
    {fault fault' : Fault} (h : fault.Alike place fault') : fault'.unplaced = fault.unplaced := by
  cases h <;> rfl

/-- Events of nodes that are alike. -/
inductive Event.Alike (L : Likeness) : Event → Event → Prop
  /-- A part of a source was left out. -/
  | notice (notice : Notice) : Alike L (.notice notice) (.notice notice)
  /-- A module is looked for. -/
  | resolving (name : String) : Alike L (.resolving name) (.resolving name)
  /-- A node at the top level is about to be evaluated. -/
  | topLevel {node node' : Node} (h : node.Alike L node') :
    Alike L (.topLevel node) (.topLevel node')
  /-- A node was entered at a depth. -/
  | entered (depth : Nat) {node node' : Node} (h : node.Alike L node') :
    Alike L (.entered depth node) (.entered depth node')

/-! ### What a machine holds -/

/-- The values that a value is made of. -/
inductive Value.Part (whole : Value) : Value → Prop
  /-- The value itself. -/
  | itself : Part whole whole
  /-- An item of a list. -/
  | item {items : List Value} {value : Value} (h : Part whole (.list items))
    (hmem : value ∈ items) : Part whole value
  /-- A value of a dict. -/
  | entry {entries : List (Key × Value)} {key : Key} {value : Value}
    (h : Part whole (.dict entries)) (hmem : (key, value) ∈ entries) : Part whole value
  /-- A member of a module. -/
  | member {ref : Nat} {moduleName : String} {members : List (String × Value)} {name : String}
    {value : Value} (h : Part whole (.module ref moduleName members))
    (hmem : (name, value) ∈ members) : Part whole value

theorem Value.Part.trans {first second third : Value} (h : first.Part second)
    (h' : second.Part third) : first.Part third := by
  induction h' with
  | itself => exact h
  | item _ hmem ih => exact ih.item hmem
  | entry _ hmem ih => exact ih.entry hmem
  | member _ hmem ih => exact ih.member hmem

/-- A value that is neither a list nor a dict nor a module is its only part. -/
theorem Value.Part.eq_whole {whole part : Value} (h : whole.Part part)
    (hlist : whole.items? = none) (hdict : whole.entries? = none)
    (hmodule : whole.object? = none) : part = whole := by
  induction h with
  | itself => rfl
  | item _ _ ih => cases ih ▸ hlist
  | entry _ _ ih => cases ih ▸ hdict
  | member _ _ ih => cases ih ▸ hmodule

/-- The `ref` of a value that is told apart by one. -/
def Value.ref? : Value → Option Nat
  | .function ref _ => some ref
  | .builtin ref _ => some ref
  | .exception ref _ => some ref
  | .object ref _ => some ref
  | .module ref _ _ => some ref
  | _ => none

/-- The frame that a function was made in. -/
def Value.frame? : Value → Option FrameId
  | .function _ closure => some closure.frame
  | _ => none

/-- The context that a function was made in. -/
def Value.context? : Value → Option Context
  | .function _ closure => some closure.context
  | _ => none

/-- Functions in the value were made in contexts as described. -/
def Value.Under (contexts : Context → Prop) (value : Value) : Prop :=
  ∀ part, value.Part part → ∀ context, part.context? = some context → contexts context

theorem Value.Under.of_part {contexts : Context → Prop} {whole part : Value}
    (h : whole.Under contexts) (hpart : whole.Part part) : part.Under contexts :=
  fun _ hinner => h _ (hpart.trans hinner)

/-- What is among values that are alike to others is alike to something. -/
theorem Value.exists_alike_of_mem {L : Likeness} {values values' : List Value}
    (h : AllAlike L values values') {value : Value} (hmem : value ∈ values) :
    ∃ value', value.Alike L value' := by
  induction h with
  | nil => cases hmem
  | cons hvalue _ ih =>
    rcases List.mem_cons.mp hmem with rfl | hrest
    · exact ⟨_, hvalue⟩
    · exact ih hrest

theorem Value.Part.exists_alike {L : Likeness} {whole whole' part : Value} (h : whole.Part part)
    (halike : whole.Alike L whole') : ∃ part', part.Alike L part' := by
  induction h with
  | itself => exact ⟨_, halike⟩
  | item _ hmem ih =>
    obtain ⟨_, hlist⟩ := ih
    cases hlist with
    | list hitems => exact exists_alike_of_mem hitems hmem
  | entry _ hmem ih =>
    obtain ⟨_, hdict⟩ := ih
    cases hdict with
    | dict hkeys hvalues => exact exists_alike_of_mem hvalues (List.mem_map_of_mem hmem)
  | member _ hmem ih =>
    obtain ⟨_, hmodule⟩ := ih
    cases hmodule with
    | module href name hnames hvalues =>
      exact exists_alike_of_mem hvalues (List.mem_map_of_mem hmem)

/-- Functions in values that are alike to others were made in contexts that are alike to others. -/
theorem Value.Alike.under {L : Likeness} {value value' : Value} (h : value.Alike L value')
    {contexts : Context → Prop}
    (hcontexts : ∀ {context context' : Context}, L.context context context' → contexts context) :
    value.Under contexts := by
  intro part hpart context hcontext
  obtain ⟨part', halike⟩ := hpart.exists_alike h
  cases halike with
  | function href hclosure =>
    cases hcontext
    exact hcontexts hclosure.context
  | _ => cases hcontext

theorem Bindings.Alike.under {L : Likeness} {κ : Type} {bindings bindings' : Bindings κ Value}
    (h : Bindings.Alike L bindings bindings') {contexts : Context → Prop}
    (hcontexts : ∀ {context context' : Context}, L.context context context' → contexts context)
    (key : κ) (value : Value) (hmem : (key, value) ∈ bindings) : value.Under contexts := by
  obtain ⟨-, hvalues⟩ := Bindings.Alike.iff_keys_values.mp h
  obtain ⟨_, halike⟩ := Value.exists_alike_of_mem hvalues (List.mem_map_of_mem hmem)
  exact halike.under hcontexts

/-- Functions in the value are over frames as described, and all in it have `ref`s as described. -/
def Value.Over (frame : FrameId → Prop) (ref : Nat → Prop) (value : Value) : Prop :=
  ∀ part, value.Part part →
    (∀ id, part.frame? = some id → frame id) ∧ ∀ r, part.ref? = some r → ref r

theorem Value.Over.mono {frame frame' : FrameId → Prop} {ref ref' : Nat → Prop} {value : Value}
    (h : value.Over frame ref) (hframe : ∀ id, frame id → frame' id)
    (href : ∀ r, ref r → ref' r) : value.Over frame' ref' := by
  intro part hpart
  obtain ⟨hids, hrefs⟩ := h part hpart
  exact ⟨fun id hid => hframe id (hids id hid), fun r hr => href r (hrefs r hr)⟩

/-- Apart from the values that it is made of, the value is alike to itself. -/
structure Value.SelfAlike (L : Likeness) (value : Value) : Prop where
  /-- Its `ref` may be the same in both runs. -/
  ref (r : Nat) (h : value.ref? = some r) : L.ref r r
  /-- A function is alike to itself. -/
  function (ref : Nat) (closure : Closure) (h : value = .function ref closure) :
    closure.Alike L closure
  /-- A builtin may be around. -/
  builtin (ref : Nat) (b : Builtin) (h : value = .builtin ref b) : L.builtin b
  /-- An error class may be around. -/
  errorClass (kind : Fault.Kind) (h : value = .errorClass kind) : L.errorClass kind
  /-- An exception may hold the same fault in both runs. -/
  exception (ref : Nat) (fault : Fault) (h : value = .exception ref fault) : L.held fault fault
  /-- An object of the host may be around. -/
  object (ref : Nat) (o : HostObject) (h : value = .object ref o) : L.object o

/-- **A value is alike to itself if all its parts are.** -/
theorem Value.alike_self {L : Likeness} :
    ∀ value : Value, (∀ part, value.Part part → part.SelfAlike L) → value.Alike L value
  | .list items, h => by
    refine .list (List.forall₂_same.mpr fun item hitem => ?_)
    exact alike_self item fun _ hpart => h _ (.trans (.item .itself hitem) hpart)
  | .dict entries, h => by
    refine .dict rfl (List.forall₂_same.mpr fun value hvalue => ?_)
    obtain ⟨⟨key, value⟩, hpair, rfl⟩ := List.mem_map.mp hvalue
    exact alike_self value fun _ hpart => h _ (.trans (.entry .itself hpair) hpart)
  | .module ref name members, h => by
    refine .module ((h _ .itself).ref ref rfl) name rfl
      (List.forall₂_same.mpr fun value hvalue => ?_)
    obtain ⟨⟨member, value⟩, hpair, rfl⟩ := List.mem_map.mp hvalue
    exact alike_self value fun _ hpart => h _ (.trans (.member .itself hpair) hpart)
  | .function ref closure, h =>
    .function ((h _ .itself).ref ref rfl) ((h _ .itself).function ref closure rfl)
  | .builtin ref b, h => .builtin ((h _ .itself).ref ref rfl) ((h _ .itself).builtin ref b rfl)
  | .errorClass kind, h => .errorClass ((h _ .itself).errorClass kind rfl)
  | .exception ref fault, h =>
    .exception ((h _ .itself).ref ref rfl) ((h _ .itself).exception ref fault rfl)
  | .object ref o, h => .object ((h _ .itself).ref ref rfl) ((h _ .itself).object ref o rfl)
  | .nil, _ => .nil
  | .bool b, _ => .bool b
  | .int n, _ => .int n
  | .float x, _ => .float x
  | .str text, _ => .str text
  | .keyword name, _ => .keyword name
  | .symbol name, _ => .symbol name
termination_by value => sizeOf value
decreasing_by
  · have hsize := List.sizeOf_lt_of_mem hitem
    simp only [Value.list.sizeOf_spec]
    omega
  · have hsize := List.sizeOf_lt_of_mem hpair
    simp only [Value.dict.sizeOf_spec, Prod.mk.sizeOf_spec] at hsize ⊢
    omega
  · have hsize := List.sizeOf_lt_of_mem hpair
    simp only [Value.module.sizeOf_spec, Prod.mk.sizeOf_spec] at hsize ⊢
    omega

theorem Machine.frame_eq_nil {machine : Machine} {id : FrameId} (h : machine.frames.size ≤ id) :
    machine.frame id = [] := by
  unfold Machine.frame
  rw [Array.getElem?_eq_none h]
  rfl

/-- All variables in frames and all registered modules are as described. -/
structure Machine.Holds (good : Value → Prop) (machine : Machine) : Prop where
  /-- The variables. -/
  frames : ∀ id name value, (name, value) ∈ machine.frame id → good value
  /-- The modules. -/
  modules : ∀ name value, (name, value) ∈ machine.modules → good value

/-- Where there is but one frame, it holds what the machine does. -/
theorem Machine.Holds.of_one_frame {good : Value → Prop} {machine : Machine} {frame : Frame}
    (hframes : machine.frames = #[frame]) (hmodules : machine.modules = [])
    (h : ∀ name value, (name, value) ∈ frame → good value) : machine.Holds good := by
  refine ⟨fun id name value hmem => ?_, fun name value hmem => ?_⟩
  · unfold Machine.frame at hmem
    rw [hframes] at hmem
    cases id with
    | zero => exact h name value hmem
    | succ id => cases hmem
  · rw [hmodules] at hmem
    cases hmem

/-! ### Places and numbers -/

/-- Which places of two runs are alike. -/
structure Relocation where
  /-- Places that are alike, or the lack of one. -/
  place : Option Location → Option Location → Prop
  /-- Both places may be missing. -/
  none : place none none
  /-- A place may stand in for one that is missing. -/
  or {a a' b b' : Option Location} (ha : place a a') (hb : place b b') :
    place (a.or b) (a'.or b')

namespace Relocation

/-- Nothing is moved. -/
def stay : Relocation where
  place a a' := a' = a
  none := rfl
  or ha hb := by rw [ha, hb]

/-- Whatever has a place has it in both runs, or may have it. -/
def Reflexive (R : Relocation) : Prop :=
  ∀ place, R.place place place

/-- What is the same up to places and numbers is alike, if functions were made in contexts that
are. -/
def likeness (R : Relocation) (contexts : Context → Context → Prop) (frame ref : Nat → Nat)
    (href : ∀ {a b}, ref a = ref b ↔ a = b) : Likeness where
  token t t' := (t'.kind = t.kind ∧ t'.text = t.text) ∧ R.place (some t.location) (some t'.location)
  place := R.place
  frame id id' := id' = frame id
  context := contexts
  ref r r' := r' = ref r
  errorClass _ := True
  held fault fault' :=
    fault'.unplaced = fault.unplaced ∧ R.place fault.location? fault'.location?
  builtin _ := True
  object _ := True
  visible _ := True
  counter _ := True
  token_kind h := h.1.1
  token_text h := h.1.2
  token_place h := h.2
  place_or := R.or
  ref_eq_iff ha hb := by
    rw [ha, hb]
    exact href.symm
  errorClass_of_catches _ _ := trivial
  held_of_alike h _ := ⟨h.unplaced_eq, h.location?⟩
  held_interrupted _ := ⟨rfl, R.none⟩
  held_kind {fault fault'} h := by rw [← fault'.kind_unplaced, h.1, fault.kind_unplaced]
  held_message {fault fault'} h := by rw [← fault'.message_unplaced, h.1, fault.message_unplaced]
  held_errorClass _ := trivial

theorem id_inj {a b : Nat} : id a = id b ↔ a = b := Iff.rfl

/-- Where nothing is moved, what is alike is the same. -/
theorem stay_exact (contexts : Context → Context → Prop) (frame ref : Nat → Nat)
    (href : ∀ {a b}, ref a = ref b ↔ a = b) : (stay.likeness contexts frame ref href).Exact := by
  refine ⟨fun {t t'} h => ?_, id⟩
  obtain ⟨⟨hkind, htext⟩, hplace⟩ := h
  cases t
  cases t'
  cases hkind
  cases htext
  cases hplace
  rfl

/-- Places may be anywhere. -/
def anywhere : Relocation where
  place _ _ := True
  none := trivial
  or _ _ := trivial

end Relocation

/-- The oracle looks at how nodes are built and not at where they are. -/
def Oracle.IgnoresPlaces (oracle : Oracle) : Prop :=
  ∀ (rule : String) {nodes nodes' : List Node},
    List.Forall₂
      (Node.Alike (Relocation.anywhere.likeness (fun _ _ => True) id id Relocation.id_inj))
      nodes nodes' → oracle rule nodes' = oracle rule nodes

/-- The contexts are the same, and their oracle does not look at places. -/
def Context.SameUnplaced (context context' : Context) : Prop :=
  context' = context ∧ context.oracle.IgnoresPlaces

/-- What is the same up to places is alike, if no oracle looks at them. -/
def Relocation.likenessOfPlaces (R : Relocation) : Likeness :=
  R.likeness Context.SameUnplaced id id id_inj

/-- What was printed since is the same after the same line. -/
theorem printed_line {start start' printed printed' : String}
    (h : ∃ text, printed = start ++ text ∧ printed' = start' ++ text) (line : String) :
    ∃ text, printed ++ line ++ "\n" = start ++ text ∧
      printed' ++ line ++ "\n" = start' ++ text := by
  obtain ⟨text, rfl, rfl⟩ := h
  refine ⟨text ++ line ++ "\n", ?_, ?_⟩
  · rw [String.append_assoc, String.append_assoc, String.append_assoc]
  · rw [String.append_assoc, String.append_assoc, String.append_assoc]

/-! ### Departures -/

/-- Two machines from which runs start that are to go alike, the places that are alike, and the
contexts that are. -/
structure Departure where
  /-- The machine on which the first run starts. -/
  first : Machine
  /-- The machine on which the second run starts. -/
  second : Machine
  /-- The places of the two runs. -/
  places : Relocation
  /-- The contexts of functions in the two runs. -/
  contexts : Context → Context → Prop

namespace Departure

variable (D : Departure)

/-- The number of a frame in the second run. -/
def frame (id : FrameId) : FrameId :=
  renumber D.first.frames.size D.second.frames.size id

/-- A `ref` in the second run. -/
def ref (n : Nat) : Nat :=
  renumber D.first.nextRef D.second.nextRef n

variable {D} in
theorem frame_inj {id id' : FrameId} : D.frame id = D.frame id' ↔ id = id' :=
  renumber_inj

/-- What is the same up to places and the numbers of what is new is alike. -/
def likeness : Likeness :=
  D.places.likeness D.contexts D.frame D.ref renumber_inj

/-- Machines of the two runs after as many steps. -/
structure Machines (m m' : Machine) : Prop where
  /-- The first run has lost no frames. -/
  size : D.first.frames.size ≤ m.frames.size
  /-- The second run has made as many. -/
  size_eq : m'.frames.size = D.frame m.frames.size
  /-- The first run has taken back no `ref`s. -/
  nextRef : D.first.nextRef ≤ m.nextRef
  /-- The second run has given out as many. -/
  nextRef_eq : m'.nextRef = D.ref m.nextRef
  /-- The frames are alike. -/
  frames (id : FrameId) : Bindings.Alike D.likeness (m.frame id) (m'.frame (D.frame id))
  /-- The modules are alike. -/
  modules : Bindings.Alike D.likeness m.modules m'.modules
  /-- The runs are equally deep. -/
  depth_eq : m'.depth = m.depth
  /-- The runs have the same room. -/
  room_eq : m'.room = m.room
  /-- Both runs are interrupted, or none is. -/
  interrupted_eq : m'.interrupted = m.interrupted
  /-- The same was printed. -/
  printed : ∃ text, m.printed = D.first.printed ++ text ∧ m'.printed = D.second.printed ++ text
  /-- The same was reported. -/
  events : ∃ trace trace', m.events.toList = D.first.events.toList ++ trace ∧
    m'.events.toList = D.second.events.toList ++ trace' ∧
    List.Forall₂ (Event.Alike D.likeness) trace trace'

namespace Machines

variable {D} {m m' : Machine}

theorem lookup (h : D.Machines m m') (id : FrameId) (name : String) :
    Option.Rel (Value.Alike D.likeness) (m.lookup? id name) (m'.lookup? (D.frame id) name) :=
  (h.frames id).find? name

theorem addFrame (h : D.Machines m m') {frame frame' : Frame}
    (hframe : Bindings.Alike D.likeness frame frame') :
    D.Machines (m.addFrame frame) (m'.addFrame frame') := by
  have hsize : (m.addFrame frame).frames.size = m.frames.size + 1 := Array.size_push _
  have hsize' : (m'.addFrame frame').frames.size = m'.frames.size + 1 := Array.size_push _
  refine { h with size := ?_, size_eq := ?_, frames := fun id => ?_ }
  · rw [hsize]
    exact Nat.le_succ_of_le h.size
  · rw [hsize, hsize', h.size_eq]
    exact (renumber_succ h.size).symm
  · unfold Machine.frame Machine.addFrame
    rw [Array.getElem?_push, Array.getElem?_push, h.size_eq]
    -- the new frame is the same in both runs, as numbers are kept apart
    by_cases hid : id = m.frames.size
    · rw [if_pos hid, if_pos (congrArg D.frame hid)]
      exact hframe
    · rw [if_neg hid, if_neg fun heq => hid (frame_inj.mp heq)]
      exact h.frames id

theorem define (h : D.Machines m m') (id : FrameId) (name : String) {value value' : Value}
    (hvalue : value.Alike D.likeness value') :
    D.Machines (m.define id name value) (m'.define (D.frame id) name value') := by
  have hsize : (m.define id name value).frames.size = m.frames.size := Array.size_modify
  have hsize' : (m'.define (D.frame id) name value').frames.size = m'.frames.size :=
    Array.size_modify
  refine { h with size := ?_, size_eq := ?_, frames := fun other => ?_ }
  · rw [hsize]
    exact h.size
  · rw [hsize, hsize']
    exact h.size_eq
  · have hother := h.frames other
    unfold Machine.frame at hother ⊢
    unfold Machine.define
    rw [Array.getElem?_modify, Array.getElem?_modify]
    by_cases hid : id = other
    · subst hid
      rw [if_pos rfl, if_pos rfl]
      -- the frame exists in both machines or in none, and is only written if it exists
      by_cases hexists : id < m.frames.size
      · have hexists' : D.frame id < m'.frames.size := by
          rw [h.size_eq]
          exact renumber_lt.mpr hexists
        rw [Array.getElem?_eq_getElem hexists, Array.getElem?_eq_getElem hexists'] at hother ⊢
        exact Bindings.Alike.insert hother name hvalue
      · have hmissing : m'.frames.size ≤ D.frame id := by
          rw [h.size_eq]
          exact Nat.le_of_not_lt fun hlt => hexists (renumber_lt.mp hlt)
        rw [Array.getElem?_eq_none (Nat.le_of_not_lt hexists), Array.getElem?_eq_none hmissing]
        exact .nil
    · rw [if_neg hid, if_neg fun heq => hid (frame_inj.mp heq)]
      exact hother

theorem report (h : D.Machines m m') {event event' : Event}
    (hevent : event.Alike D.likeness event') :
    D.Machines { m with events := m.events.push event }
      { m' with events := m'.events.push event' } := by
  obtain ⟨trace, trace', htrace, htrace', halike⟩ := h.events
  refine { h with events := ⟨trace ++ [event], trace' ++ [event'], ?_, ?_, ?_⟩ }
  · rw [Array.toList_push, htrace, List.append_assoc]
  · rw [Array.toList_push, htrace', List.append_assoc]
  · exact List.rel_append halike (.cons hevent .nil)

theorem print (h : D.Machines m m') (text : String) :
    D.Machines { m with printed := m.printed ++ text ++ "\n" }
      { m' with printed := m'.printed ++ text ++ "\n" } :=
  { h with printed := printed_line h.printed text }

theorem giveRef (h : D.Machines m m') :
    D.Machines { m with nextRef := m.nextRef + 1 } { m' with nextRef := m'.nextRef + 1 } := by
  refine { h with nextRef := Nat.le_succ_of_le h.nextRef, nextRef_eq := ?_ }
  show m'.nextRef + 1 = D.ref (m.nextRef + 1)
  rw [h.nextRef_eq]
  exact (renumber_succ h.nextRef).symm

end Machines

/-- **Runs that start apart go alike.** -/
def correspondence : Correspondence where
  toLikeness := D.likeness
  machine := D.Machines
  interruption stop := stop = .fault .interrupted
  visible_of_token _ _ := trivial
  visible_get := trivial
  visible_resolver _ := trivial
  interruption_self := Stop.interrupted_self
  interruption_cases h := .inl h
  lookup h id id' hid name _ := by
    rw [hid]
    exact h.lookup id name
  registered h name := h.modules.find? name
  counter_eq h n _ := by rw [h.depth_eq]
  overlay h id id' hid more more' hmore := by
    rw [hid]
    exact ⟨h.addFrame ((h.frames id).insertAll hmore), h.size_eq⟩
  define h id id' hid name value value' hvalue := by
    rw [hid]
    exact h.define id name hvalue
  nextRef h := ⟨h.giveRef, h.nextRef_eq⟩
  printed h text := h.print text
  resolving h name := h.report (.resolving name)
  interrupting h flag interrupted := by
    refine { h with interrupted_eq := ?_ }
    rw [h.interrupted_eq]

variable {D} {config : Config}

theorem enters (hcontexts : ∀ {context context'}, D.contexts context context' → context' = context)
    (horacle : ∀ {context}, D.contexts context context →
      D.correspondence.OracleAlike context context) : D.correspondence.Enters :=
  .of_report hcontexts horacle (fun h => h.interrupted_eq)
    (fun h => ⟨h.depth_eq, h.room_eq⟩) (fun h _ _ => { h with depth_eq := rfl, room_eq := rfl })
    fun h _ _ hnode depth => h.report (.entered depth hnode)

theorem reports : D.correspondence.Reports :=
  fun hm _ _ hnode => hm.report (.topLevel hnode)

/-! ### The start -/

/-- The value is the same in both runs, and may be around. -/
structure Fixes (D : Departure) (value : Value) : Prop where
  /-- Its frames and `ref`s keep their numbers. -/
  numbers : value.Over (fun id => D.frame id = id) fun r => D.ref r = r
  /-- Functions in it were made in contexts that may be around. -/
  contexts : value.Under fun context => D.contexts context context

theorem token_alike (hD : D.places.Reflexive) (token : Token) : D.likeness.token token token :=
  ⟨⟨rfl, rfl⟩, hD _⟩

theorem node_alike (hD : D.places.Reflexive) (node : Node) : node.Alike D.likeness node :=
  node.alike_self (token_alike hD) hD

theorem nodes_alike (hD : D.places.Reflexive) (nodes : List Node) :
    D.correspondence.NodesAlike nodes nodes :=
  Node.alike_self_each (token_alike hD) hD nodes

/-- **A value that is the same in both runs is alike to itself.** -/
theorem value_alike (hD : D.places.Reflexive) (value : Value) (h : D.Fixes value) :
    value.Alike D.likeness value := by
  refine value.alike_self fun part hpart => ?_
  obtain ⟨hid, href⟩ := h.numbers part hpart
  refine ⟨fun r hr => (href r hr).symm, ?_, fun _ _ _ => trivial, fun _ _ => trivial,
    fun _ _ _ => ⟨rfl, hD _⟩, fun _ _ _ => trivial⟩
  rintro ref closure rfl
  exact ⟨rfl, rfl, nodes_alike hD closure.body, (hid closure.frame rfl).symm,
    h.contexts _ hpart _ rfl, hD closure.location⟩

theorem bindings_alike (hD : D.places.Reflexive) {κ : Type} {bindings : Bindings κ Value}
    (h : ∀ key value, (key, value) ∈ bindings → D.Fixes value) :
    Bindings.Alike D.likeness bindings bindings :=
  List.forall₂_same.mpr fun pair hpair => ⟨rfl, value_alike hD _ (h pair.1 pair.2 hpair)⟩

/-- **Machines that hold the same are a start**, if nothing they hold is renumbered. -/
theorem start (hD : D.places.Reflexive) (hholds : D.first.Holds D.Fixes)
    (hsize : D.first.frames.size ≤ D.second.frames.size)
    (href : D.first.nextRef ≤ D.second.nextRef)
    (hframes : ∀ id, D.second.frame (D.frame id) = D.first.frame id)
    (hmodules : D.second.modules = D.first.modules)
    (hdepth : D.second.depth = D.first.depth) (hroom : D.second.room = D.first.room)
    (hinterrupted : D.second.interrupted = D.first.interrupted) :
    D.Machines D.first D.second where
  size := Nat.le_refl _
  size_eq := (renumber_start hsize).symm
  nextRef := Nat.le_refl _
  nextRef_eq := (renumber_start href).symm
  frames id := by
    rw [hframes]
    exact bindings_alike hD (hholds.frames id)
  modules := by
    rw [hmodules]
    exact bindings_alike hD hholds.modules
  depth_eq := hdepth
  room_eq := hroom
  interrupted_eq := hinterrupted
  printed := ⟨"", String.append_empty.symm, String.append_empty.symm⟩
  events := ⟨[], [], (List.append_nil _).symm, (List.append_nil _).symm, .nil⟩

/-! ### The same nodes again -/

/-- The same run once more, from another machine. -/
def again (machine machine' : Machine) : Departure :=
  ⟨machine, machine', .stay, fun context context' => context' = context⟩

namespace again

variable {m m' : Machine}

theorem reflexive : (again m m').places.Reflexive :=
  fun _ => rfl

theorem likeness_exact : (again m m').likeness.Exact :=
  Relocation.stay_exact (again m m').contexts (again m m').frame (again m m').ref renumber_inj

theorem node_eq {node node' : Node} (h : node.Alike (again m m').likeness node') :
    node' = node :=
  likeness_exact.node_eq h

theorem nodes_eq {nodes nodes' : List Node}
    (h : List.Forall₂ (Node.Alike (again m m').likeness) nodes nodes') : nodes' = nodes :=
  likeness_exact.nodes_eq h

theorem event_eq {event event' : Event} (h : event.Alike (again m m').likeness event') :
    event' = event := by
  cases h with
  | notice notice => rfl
  | resolving name => rfl
  | topLevel h => rw [node_eq h]
  | entered depth h => rw [node_eq h]

theorem events_eq {events events' : List Event}
    (h : List.Forall₂ (Event.Alike (again m m').likeness) events events') : events' = events := by
  induction h with
  | nil => rfl
  | cons hevent _ ih => rw [event_eq hevent, ih]

theorem stop_eq {stop stop' : Stop}
    (h : (again m m').correspondence.CallStopAlike stop stop') : stop' = stop := by
  cases h with
  | called h => rfl
  | settled h =>
    cases h with
    | fault h => rw [h.eq_of_place id]
    | interrupted h => exact h
    | outOfBounds => rfl
    | outOfLevels => rfl

/-- No oracle can tell the runs apart, since it sees the same nodes. -/
theorem enters : (again m m').correspondence.Enters :=
  Departure.enters id fun _ rule nodes nodes' h => by rw [nodes_eq h]

end again

end Departure

end FrameLisp
