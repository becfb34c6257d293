import FrameLisp.Proofs.Bindings
import FrameLisp.Proofs.Repetition

/-!
# Names that nobody mentions

Calls copy whole frames, and functions keep the frames they were made in.  So a variable that a
program never mentions is copied along through all of its run.  It has no influence: if two machines
differ only in variables whose names are written neither in the program nor in a function that it
can reach, then the two runs end in the same way and print the same text, and they leave machines
that differ only in such variables (`unmentioned_names_are_inert`).

Which names these are is up to whoever compares the machines: any that are `hidden`.  Only the names
that are looked up though no program mentions them cannot be among them: `get`, with which keywords
and patterns are looked up, and the names of the resolvers.

What is new has other numbers if one of the machines has made more frames or given out more `ref`s
before.  A `Pairing` says which numbers go together, and stays the same through the run: what is
made at the same time goes together.  Functions that go together have the same nodes, in which no
hidden name is written, over frames that go together.  That is a likeness (`Pairing.likeness`), and
to agree on all other names is a correspondence (`Pairing.correspondence`).
-/

namespace FrameLisp

/-! ### Names that are written -/

mutual

/-- The names that are written in a node. -/
def Node.names : Node → List String
  | .literal token _ => if token.kind = .identifier then [token.text] else []
  | .form children _ _ _ => namesEach children

/-- The names that are written in nodes. -/
def Node.namesEach : List Node → List String
  | [] => []
  | node :: nodes => node.names ++ namesEach nodes

end

mutual

/-- The names that are written in the functions in a value. -/
def Value.names : Value → List String
  | .list items => namesEach items
  | .dict entries => namesEntries entries
  | .module _ _ members => namesMembers members
  | .function _ closure => Node.namesEach closure.body
  | _ => []

/-- The names that are written in the functions in values. -/
def Value.namesEach : List Value → List String
  | [] => []
  | value :: values => value.names ++ namesEach values

/-- The names that are written in the functions in the entries of a dict. -/
def Value.namesEntries : List (Key × Value) → List String
  | [] => []
  | (_, value) :: entries => value.names ++ namesEntries entries

/-- The names that are written in the functions in the members of a module. -/
def Value.namesMembers : List (String × Value) → List String
  | [] => []
  | (_, value) :: members => value.names ++ namesMembers members

end

theorem Value.namesEach_eq (values : List Value) : namesEach values = values.flatMap names := by
  induction values with
  | nil => rfl
  | cons value values ih => rw [namesEach, ih, List.flatMap_cons]

theorem Value.namesEntries_eq (entries : List (Key × Value)) :
    namesEntries entries = entries.flatMap fun entry => entry.2.names := by
  induction entries with
  | nil => rfl
  | cons entry entries ih => rw [namesEntries, ih, List.flatMap_cons]

theorem Value.namesMembers_eq (members : List (String × Value)) :
    namesMembers members = members.flatMap fun member => member.2.names := by
  induction members with
  | nil => rfl
  | cons member members ih => rw [namesMembers, ih, List.flatMap_cons]

/-- What is written in a part of a value is written in the value. -/
theorem Value.Part.mem_names {whole part : Value} (h : whole.Part part) {name : String}
    (hname : name ∈ part.names) : name ∈ whole.names := by
  induction h with
  | itself => exact hname
  | item _ hmem ih =>
    refine ih ?_
    rw [names, namesEach_eq]
    exact List.mem_flatMap.mpr ⟨_, hmem, hname⟩
  | entry _ hmem ih =>
    refine ih ?_
    rw [names, namesEntries_eq]
    exact List.mem_flatMap.mpr ⟨_, hmem, hname⟩
  | member _ hmem ih =>
    refine ih ?_
    rw [names, namesMembers_eq]
    exact List.mem_flatMap.mpr ⟨_, hmem, hname⟩

/-! ### Pairings -/

/-- Which frames and which `ref`s of two machines go together. -/
structure Pairing where
  /-- Frames that go together. -/
  frame : FrameId → FrameId → Prop
  /-- `ref`s that go together. -/
  ref : Nat → Nat → Prop
  /-- A frame goes together with one other. -/
  frame_eq_iff {a a' b b' : FrameId} (ha : frame a a') (hb : frame b b') : a = b ↔ a' = b'
  /-- A `ref` goes together with one other. -/
  ref_eq_iff {a a' b b' : Nat} (ha : ref a a') (hb : ref b b') : a = b ↔ a' = b'

namespace Pairing

variable (P : Pairing) (hidden : String → Prop)

/-- What is the same up to the numbers of frames and `ref`s is alike, if no hidden name is written
in it. -/
def likeness : Likeness where
  token t t' := t' = t ∧ (t.kind = .identifier → ¬ hidden t.text)
  place := Relocation.stay.place
  frame := P.frame
  context context context' := context' = context
  ref := P.ref
  errorClass _ := True
  held fault fault' := fault' = fault
  builtin _ := True
  object _ := True
  visible name := ¬ hidden name
  counter _ := True
  token_kind h := by rw [h.1]
  token_text h := by rw [h.1]
  token_place h := congrArg (fun t : Token => some t.location) h.1
  place_or := Relocation.stay.or
  ref_eq_iff := P.ref_eq_iff
  errorClass_of_catches _ _ := trivial
  held_of_alike h _ := h.eq_of_place id
  held_interrupted _ := rfl
  held_kind h := by rw [h]
  held_message h := by rw [h]
  held_errorClass _ := trivial

/-- The machines agree on all variables but those with hidden names. -/
structure Agree (m m' : Machine) : Prop where
  /-- Frames that go together are in both machines, or in none. -/
  exists_iff {id id' : FrameId} (h : P.frame id id') : id < m.frames.size ↔ id' < m'.frames.size
  /-- Their variables are alike, but for those with hidden names. -/
  lookup {id id' : FrameId} (h : P.frame id id') {name : String} (hname : ¬ hidden name) :
    Option.Rel (Value.Alike (P.likeness hidden)) (m.lookup? id name) (m'.lookup? id' name)
  /-- The same modules are registered. -/
  registered (name : String) :
    Option.Rel (Value.Alike (P.likeness hidden)) (Bindings.find? name m.modules)
      (Bindings.find? name m'.modules)
  /-- Frames that will be made at the same time go together. -/
  newFrame (k : Nat) : P.frame (m.frames.size + k) (m'.frames.size + k)
  /-- So do `ref`s that will be given out at the same time. -/
  newRef (k : Nat) : P.ref (m.nextRef + k) (m'.nextRef + k)
  /-- The machines are equally deep. -/
  depth_eq : m'.depth = m.depth
  /-- They have the same room. -/
  room_eq : m'.room = m.room
  /-- Interruptions were asked for in both or in none. -/
  interrupted_eq : m'.interrupted = m.interrupted

/-- The machines agree, and the same was printed and reported since the runs started. -/
structure Course (start start' m m' : Machine) : Prop extends P.Agree hidden m m' where
  /-- The same was printed. -/
  printed : ∃ text, m.printed = start.printed ++ text ∧ m'.printed = start'.printed ++ text
  /-- The same was reported. -/
  reported : ∃ trace, m.events.toList = start.events.toList ++ trace ∧
    m'.events.toList = start'.events.toList ++ trace

variable {P hidden}

theorem likeness_exact : (P.likeness hidden).Exact :=
  ⟨fun h => h.1, id⟩

/-! ### Nodes and values without hidden names -/

mutual

theorem node_alike {node : Node} (h : ∀ name ∈ node.names, ¬ hidden name) :
    node.Alike (P.likeness hidden) node := by
  cases node with
  | literal token properties =>
    have htoken : (P.likeness hidden).token token token := by
      refine ⟨rfl, fun hkind => h _ ?_⟩
      rw [Node.names, if_pos hkind]
      exact List.mem_singleton_self _
    exact .literal htoken properties
  | form children properties inline location =>
    rw [Node.names] at h
    exact .form (nodes_alike h) properties inline rfl

theorem nodes_alike {nodes : List Node} (h : ∀ name ∈ Node.namesEach nodes, ¬ hidden name) :
    List.Forall₂ (Node.Alike (P.likeness hidden)) nodes nodes := by
  cases nodes with
  | nil => exact .nil
  | cons node nodes =>
    rw [Node.namesEach] at h
    exact .cons (node_alike fun name hname => h name (List.mem_append_left _ hname))
      (nodes_alike fun name hname => h name (List.mem_append_right _ hname))

end

/-- A value that goes together with itself. -/
theorem value_alike {value : Value} (h : ∀ name ∈ value.names, ¬ hidden name)
    (hover : value.Over (fun id => P.frame id id) fun r => P.ref r r) :
    value.Alike (P.likeness hidden) value := by
  refine value.alike_self fun part hpart => ?_
  obtain ⟨hframe, href⟩ := hover part hpart
  refine ⟨href, ?_, fun _ _ _ => trivial, fun _ _ => trivial, fun _ _ _ => rfl,
    fun _ _ _ => trivial⟩
  rintro ref closure rfl
  have hbody : List.Forall₂ (Node.Alike (P.likeness hidden)) closure.body closure.body :=
    nodes_alike fun name hname => h name (hpart.mem_names hname)
  exact ⟨rfl, rfl, hbody, hframe closure.frame rfl, rfl, rfl⟩

/-! ### Steps -/

/-- Variables are alike after others were bound over them. -/
theorem find?_insertAll {κ : Type} [DecidableEq κ] {L : Likeness} {key : κ}
    {bindings bindings' more more' : Bindings κ Value}
    (h : Option.Rel (Value.Alike L) (bindings.find? key) (bindings'.find? key))
    (hmore : Bindings.Alike L more more') :
    Option.Rel (Value.Alike L) ((bindings.insertAll more).find? key)
      ((bindings'.insertAll more').find? key) := by
  unfold Bindings.insertAll
  induction hmore generalizing bindings bindings' with
  | nil => exact h
  | @cons pair pair' rest rest' hpair hrest ih =>
    obtain ⟨hkey, hvalue⟩ := hpair
    rw [List.foldl_cons, List.foldl_cons, hkey]
    refine ih ?_
    rw [Bindings.find?_insert, Bindings.find?_insert]
    split
    · exact .some hvalue
    · exact h

namespace Course

variable {start start' m m' : Machine}

theorem addFrame (h : P.Course hidden start start' m m') {frame frame' : Frame}
    (hframe : ∀ name, ¬ hidden name →
      Option.Rel (Value.Alike (P.likeness hidden)) (frame.find? name) (frame'.find? name)) :
    P.Course hidden start start' (m.addFrame frame) (m'.addFrame frame') := by
  have hsize : (m.addFrame frame).frames.size = m.frames.size + 1 := Array.size_push _
  have hsize' : (m'.addFrame frame').frames.size = m'.frames.size + 1 := Array.size_push _
  -- the new frames go together with each other and with no older ones
  have hnew : ∀ {id id' : FrameId}, P.frame id id' → (id = m.frames.size ↔ id' = m'.frames.size) :=
    fun hid => P.frame_eq_iff hid (h.newFrame 0)
  refine { h with exists_iff := fun hid => ?_, newFrame := fun k => ?_,
                  lookup := fun {id id'} hid {name} hname => ?_ }
  · rw [hsize, hsize', Nat.lt_succ_iff_lt_or_eq, Nat.lt_succ_iff_lt_or_eq]
    exact or_congr (h.exists_iff hid) (hnew hid)
  · unfold Machine.lookup? Machine.frame Machine.addFrame
    rw [Array.getElem?_push, Array.getElem?_push]
    by_cases hlast : id = m.frames.size
    · rw [if_pos hlast, if_pos ((hnew hid).mp hlast)]
      exact hframe name hname
    · rw [if_neg hlast, if_neg fun heq => hlast ((hnew hid).mpr heq)]
      exact h.lookup hid hname
  · rw [hsize, hsize', Nat.add_assoc, Nat.add_assoc]
    exact h.newFrame (1 + k)

theorem define (h : P.Course hidden start start' m m') {id id' : FrameId} (hid : P.frame id id')
    (name : String) {value value' : Value} (hvalue : value.Alike (P.likeness hidden) value') :
    P.Course hidden start start' (m.define id name value) (m'.define id' name value') := by
  have hsize : (m.define id name value).frames.size = m.frames.size := Array.size_modify
  have hsize' : (m'.define id' name value').frames.size = m'.frames.size := Array.size_modify
  refine { h with exists_iff := fun hother => ?_, newFrame := fun k => ?_,
                  lookup := fun {other other'} hother {key} hkey => ?_ }
  · rw [hsize, hsize']
    exact h.exists_iff hother
  · have hlookup := h.lookup hother hkey
    unfold Machine.lookup? Machine.frame at hlookup ⊢
    unfold Machine.define
    rw [Array.getElem?_modify, Array.getElem?_modify]
    by_cases hsame : id = other
    · subst hsame
      obtain rfl : id' = other' := (P.frame_eq_iff hid hother).mp rfl
      rw [if_pos rfl, if_pos rfl]
      -- the frame is in both machines or in none, and is only written if it exists
      by_cases hexists : id < m.frames.size
      · have hexists' := (h.exists_iff hid).mp hexists
        rw [Array.getElem?_eq_getElem hexists, Array.getElem?_eq_getElem hexists'] at hlookup ⊢
        show Option.Rel _ (Bindings.find? key (Bindings.insert name value _))
          (Bindings.find? key (Bindings.insert name value' _))
        rw [Bindings.find?_insert, Bindings.find?_insert]
        split
        · exact .some hvalue
        · exact hlookup
      · have hmissing := (h.exists_iff hid).not.mp hexists
        rw [Array.getElem?_eq_none (Nat.le_of_not_lt hexists),
          Array.getElem?_eq_none (Nat.le_of_not_lt hmissing)]
        exact .none
    · rw [if_neg hsame, if_neg fun heq => hsame ((P.frame_eq_iff hid hother).mpr heq)]
      exact hlookup
  · rw [hsize, hsize']
    exact h.newFrame k

theorem report (h : P.Course hidden start start' m m') (event : Event) :
    P.Course hidden start start' { m with events := m.events.push event }
      { m' with events := m'.events.push event } := by
  obtain ⟨trace, htrace, htrace'⟩ := h.reported
  refine { h with reported := ⟨trace ++ [event], ?_, ?_⟩ }
  · rw [Array.toList_push, htrace, List.append_assoc]
  · rw [Array.toList_push, htrace', List.append_assoc]

theorem print (h : P.Course hidden start start' m m') (text : String) :
    P.Course hidden start start' { m with printed := m.printed ++ text ++ "\n" }
      { m' with printed := m'.printed ++ text ++ "\n" } :=
  { h with printed := printed_line h.printed text }

theorem giveRef (h : P.Course hidden start start' m m') :
    P.Course hidden start start' { m with nextRef := m.nextRef + 1 }
      { m' with nextRef := m'.nextRef + 1 } := by
  refine { h with newRef := fun k => ?_ }
  show P.ref (m.nextRef + 1 + k) (m'.nextRef + 1 + k)
  rw [Nat.add_assoc, Nat.add_assoc]
  exact h.newRef (1 + k)

end Course

/-! ### Runs -/

variable (P) in
/-- **Machines that agree on all other names go on to agree.** -/
def correspondence (hget : ¬ hidden "get")
    (hresolver : ∀ resolver : Resolver, ¬ hidden resolver.name) (start start' : Machine) :
    Correspondence where
  toLikeness := P.likeness hidden
  machine := P.Course hidden start start'
  interruption stop := stop = .fault .interrupted
  visible_of_token h hkind := h.2 hkind
  visible_get := hget
  visible_resolver := hresolver
  interruption_self := Stop.interrupted_self
  interruption_cases h := .inl h
  lookup h _ _ hid _ hname := h.lookup hid hname
  registered h name := h.registered name
  counter_eq h n _ := by rw [h.depth_eq]
  overlay h _ _ hid _ _ hmore :=
    ⟨h.addFrame fun _ hname => find?_insertAll (h.lookup hid hname) hmore, h.newFrame 0⟩
  define h _ _ hid name _ _ hvalue := h.define hid name hvalue
  nextRef h := ⟨h.giveRef, h.newRef 0⟩
  printed h text := h.print text
  resolving h name := h.report (.resolving name)
  interrupting h flag interrupted := by
    refine { h with interrupted_eq := ?_ }
    rw [h.interrupted_eq]

section Runs

variable {hget : ¬ hidden "get"} {hresolver : ∀ resolver : Resolver, ¬ hidden resolver.name}
  {start start' : Machine}

/-- No oracle can tell the runs apart, since it sees the same nodes. -/
theorem enters : (P.correspondence hget hresolver start start').Enters := by
  refine .of_report id ?_ (fun h => h.interrupted_eq) (fun h => ⟨h.depth_eq, h.room_eq⟩)
    (fun h _ _ => { h with depth_eq := rfl, room_eq := rfl }) ?_
  · intro context _ rule nodes nodes' hnodes
    rw [likeness_exact.nodes_eq hnodes]
  · intro m m' h node node' hnode depth
    rw [likeness_exact.node_eq hnode]
    exact h.report _

end Runs

/-- Machines that agree may be the start of two runs. -/
theorem Agree.start {m m' : Machine} (h : P.Agree hidden m m') : P.Course hidden m m' m m' where
  toAgree := h
  printed := ⟨"", String.append_empty.symm, String.append_empty.symm⟩
  reported := ⟨[], (List.append_nil _).symm, (List.append_nil _).symm⟩

variable (P hidden) in
/-- Ends of two runs that cannot be told apart by who does not know the hidden names. -/
inductive Ends (start start' : Machine) :
    EStateM.Result Stop Machine Value → EStateM.Result Stop Machine Value → Prop
  /-- Values that go together, and are shown and printed in the same way. -/
  | ok {value value' : Value} (h : value.Alike (P.likeness hidden) value')
    (hshown : value'.shown = value.shown) (hplain : value'.plain = value.plain) {m m' : Machine}
    (hm : P.Course hidden start start' m m') : Ends start start' (.ok value m) (.ok value' m')
  /-- The same fault at the same place. -/
  | error (stop : Stop) {m m' : Machine} (hm : P.Course hidden start start' m m') :
    Ends start start' (.error stop m) (.error stop m')

theorem ends_of_alike {hget : ¬ hidden "get"}
    {hresolver : ∀ resolver : Resolver, ¬ hidden resolver.name} {start start' : Machine}
    {result result' : EStateM.Result Stop Machine Value}
    (h : (P.correspondence hget hresolver start start').OutcomeAlike
      (P.correspondence hget hresolver start start').StopAlike
      (P.correspondence hget hresolver start start').ValueAlike result result') :
    P.Ends hidden start start' result result' := by
  cases h with
  | ok hvalue hm => exact .ok hvalue hvalue.shown hvalue.plain hm
  | error hstop hm =>
    cases hstop with
    | fault h =>
      rw [h.eq_of_place id]
      exact .error _ hm
    | interrupted h =>
      rw [h]
      exact .error _ hm
    | outOfBounds => exact .error _ hm
    | outOfLevels => exact .error _ hm

/-- What is new goes together with what is new, and of the frames that were there, those in reach
with themselves. -/
def after (m m' : Machine) (reach : FrameId → Prop) : Pairing where
  frame id id' := id' = renumber m.frames.size m'.frames.size id ∧ (id < m.frames.size → reach id)
  ref r r' := r' = renumber m.nextRef m'.nextRef r
  frame_eq_iff ha hb := by
    rw [ha.1, hb.1]
    exact renumber_inj.symm
  ref_eq_iff ha hb := by
    rw [ha, hb]
    exact renumber_inj.symm

end Pairing

/-! ### Machines with more variables -/

/-- The frames that can be reached from a frame without the hidden names. -/
inductive Machine.Reaches (hidden : String → Prop) (machine : Machine) (start : FrameId) :
    FrameId → Prop
  /-- The frame itself. -/
  | itself : Reaches hidden machine start start
  /-- The frame of a function in a variable. -/
  | bound {id : FrameId} {name : String} {value : Value} {ref : Nat} {closure : Closure}
    (h : Reaches hidden machine start id) (hname : ¬ hidden name)
    (hvalue : machine.lookup? id name = some value) (hpart : value.Part (.function ref closure)) :
    Reaches hidden machine start closure.frame
  /-- The frame of a function in a module. -/
  | registered {name : String} {value : Value} {ref : Nat} {closure : Closure}
    (hvalue : Bindings.find? name machine.modules = some value)
    (hpart : value.Part (.function ref closure)) : Reaches hidden machine start closure.frame

/-- No hidden name is written in a function that can be reached from a frame. -/
structure Machine.Avoids (hidden : String → Prop) (machine : Machine) (start : FrameId) : Prop where
  /-- Functions in variables. -/
  bound {id : FrameId} (hid : machine.Reaches hidden start id) {name : String}
    (hname : ¬ hidden name) {value : Value} (h : machine.lookup? id name = some value) :
    ∀ other ∈ value.names, ¬ hidden other
  /-- Functions in modules. -/
  registered {name : String} {value : Value}
    (h : Bindings.find? name machine.modules = some value) : ∀ other ∈ value.names, ¬ hidden other

/-- The second machine has what can be reached in the first but for hidden names, and maybe more
frames and `ref`s. -/
structure Machine.DiffersOnly (hidden : String → Prop) (start : FrameId) (m m' : Machine) :
    Prop where
  /-- No frame was lost. -/
  size : m.frames.size ≤ m'.frames.size
  /-- No `ref` was taken back. -/
  nextRef : m.nextRef ≤ m'.nextRef
  /-- Other variables are as they were. -/
  lookup_eq {id : FrameId} (hid : m.Reaches hidden start id) {name : String}
    (hname : ¬ hidden name) : m'.lookup? id name = m.lookup? id name
  /-- The modules are as they were. -/
  modules_eq : m'.modules = m.modules
  /-- So is the depth. -/
  depth_eq : m'.depth = m.depth
  /-- So is the room. -/
  room_eq : m'.room = m.room
  /-- Interruptions were asked for in both or in none. -/
  interrupted_eq : m'.interrupted = m.interrupted

/-- It is enough that no hidden name is written in any function. -/
theorem Machine.avoids_of_forall {hidden : String → Prop} {machine : Machine} {start : FrameId}
    (hframes : ∀ frame ∈ machine.frames.toList, ∀ pair ∈ frame, ∀ other ∈ pair.2.names,
      ¬ hidden other)
    (hmodules : ∀ pair ∈ machine.modules, ∀ other ∈ pair.2.names, ¬ hidden other) :
    machine.Avoids hidden start where
  bound {id} _ {_} _ {value} h := by
    have hmem := Bindings.mem_of_find? h
    unfold frame at hmem
    cases hfound : machine.frames[id]? with
    | none =>
      rw [hfound] at hmem
      cases hmem
    | some frame =>
      rw [hfound] at hmem
      exact hframes frame (Array.mem_toList_iff.mpr (Array.mem_of_getElem? hfound)) _ hmem
  registered h := hmodules _ (Bindings.mem_of_find? h)

theorem Machine.lookup?_define_of_ne {machine : Machine} {id other : FrameId} {name key : String}
    {value : Value} (h : key ≠ name) :
    (machine.define id name value).lookup? other key = machine.lookup? other key := by
  unfold lookup? frame define
  rw [Array.getElem?_modify]
  split
  · cases machine.frames[other]? with
    | none => rfl
    | some bindings =>
      show Bindings.find? key (Bindings.insert name value bindings) = Bindings.find? key bindings
      rw [Bindings.find?_insert, if_neg h]
  · rfl

namespace Machine.DiffersOnly

variable {hidden : String → Prop} {start : FrameId} {m m' : Machine}

theorem refl (hidden : String → Prop) (start : FrameId) (m : Machine) :
    m.DiffersOnly hidden start m where
  size := Nat.le_refl _
  nextRef := Nat.le_refl _
  lookup_eq _ _ _ := rfl
  modules_eq := rfl
  depth_eq := rfl
  room_eq := rfl
  interrupted_eq := rfl

/-- Anything may be bound to a hidden name. -/
theorem define (h : m.DiffersOnly hidden start m') (id : FrameId) {name : String}
    (hname : hidden name) (value : Value) :
    m.DiffersOnly hidden start (m'.define id name value) := by
  have hsize : (m'.define id name value).frames.size = m'.frames.size := Array.size_modify
  refine { h with size := ?_, lookup_eq := fun hother key hkey => ?_ }
  · rw [hsize]
    exact h.size
  · have hne : key ≠ name := fun heq => hkey (heq ▸ hname)
    rw [lookup?_define_of_ne hne]
    exact h.lookup_eq hother hkey

theorem giveRef (h : m.DiffersOnly hidden start m') :
    m.DiffersOnly hidden start { m' with nextRef := m'.nextRef + 1 } :=
  { h with nextRef := Nat.le_succ_of_le h.nextRef }

/-- What can be reached in the first machine goes together with itself. -/
theorem found_alike {value : Value} (hclosed : value.Closed m)
    (hnames : ∀ name ∈ value.names, ¬ hidden name)
    (hreach : ∀ ref closure, value.Part (.function ref closure) →
      m.Reaches hidden start closure.frame) :
    value.Alike ((Pairing.after m m' (m.Reaches hidden start)).likeness hidden) value := by
  refine Pairing.value_alike hnames fun part hpart => ?_
  obtain ⟨hframe, href⟩ := hclosed part hpart
  refine ⟨fun id hid => ⟨(renumber_of_lt (hframe id hid)).symm, fun _ => ?_⟩,
    fun r hr => (renumber_of_lt (href r hr)).symm⟩
  cases part with
  | function ref closure =>
    cases hid
    exact hreach ref closure hpart
  | _ => cases hid

/-- **Machines that differ only in hidden names agree on all others.** -/
theorem agree (h : m.DiffersOnly hidden start m') (hclosed : m.Closed)
    (hnames : m.Avoids hidden start) :
    (Pairing.after m m' (m.Reaches hidden start)).Agree hidden m m' where
  exists_iff {id id'} hid := by
    rw [hid.1]
    exact (renumber_lt_start h.size).symm
  lookup {id id'} hid name hname := by
    rw [hid.1]
    by_cases hlt : id < m.frames.size
    · have hreach := hid.2 hlt
      rw [renumber_of_lt hlt, h.lookup_eq hreach hname]
      cases hfound : m.lookup? id name with
      | none => exact .none
      | some value =>
        have hvalue := hclosed.frames id name value (Bindings.mem_of_find? hfound)
        exact .some (found_alike hvalue (hnames.bound hreach hname hfound)
          fun _ _ => .bound hreach hname hfound)
    · -- no machine has the frame
      have hmissing := Nat.le_of_not_lt ((renumber_lt_start h.size).not.mpr hlt)
      unfold Machine.lookup?
      rw [frame_eq_nil (Nat.le_of_not_lt hlt), frame_eq_nil hmissing]
      exact .none
  registered name := by
    rw [h.modules_eq]
    cases hfound : Bindings.find? name m.modules with
    | none => exact .none
    | some value =>
      have hvalue := hclosed.modules name value (Bindings.mem_of_find? hfound)
      exact .some (found_alike hvalue (hnames.registered hfound)
        fun _ _ => .registered hfound)
  newFrame k := by
    refine ⟨(renumber_add h.size k).symm, fun hlt => ?_⟩
    exact absurd hlt (Nat.not_lt_of_le (Nat.le_add_right _ k))
  newRef k := (renumber_add h.nextRef k).symm
  depth_eq := h.depth_eq
  room_eq := h.room_eq
  interrupted_eq := h.interrupted_eq

end Machine.DiffersOnly

/-- **A binding nobody mentions has no influence**, in any context and with functions of any
context. Let two machines agree on all names but hidden ones, and let no hidden name be written in a
node, nor looked up by the code of the host.  Then the node is evaluated in the same way on
both, at the top level or below it: there are values that go together and are shown in the same way,
or there is the same fault at the same place; the same is printed and reported; and the machines
that are left agree again.  The same is true of programs.  In particular a host may bind hidden
names, and make the frames and `ref`s it needs for that: if no function mentions these names that
can be reached without them, the machine it leaves agrees with the one before. -/
theorem unmentioned_names_are_inert {hidden : String → Prop} (hget : ¬ hidden "get")
    (hresolver : ∀ resolver : Resolver, ¬ hidden resolver.name) (config : Config) :
    (∀ (P : Pairing) (m m' : Machine), config.hosts.Respect (P.likeness hidden) →
      P.Agree hidden m m' → ∀ frame frame' : FrameId, P.frame frame frame' →
        (∀ (top : Bool) (node : Node), (∀ name ∈ node.names, ¬ hidden name) →
          P.Ends hidden m m' (node.eval config top frame m) (node.eval config top frame' m')) ∧
        ∀ trees : List Node, (∀ name ∈ Node.namesEach trees, ¬ hidden name) →
          P.Ends hidden m m' (Eval.program config frame .nil trees m)
            (Eval.program config frame' .nil trees m')) ∧
    ∀ (m m' : Machine) (start : FrameId), m.Closed → start < m.frames.size →
      m.Avoids hidden start → m.DiffersOnly hidden start m' →
        (Pairing.after m m' (m.Reaches hidden start)).Agree hidden m m' ∧
          (Pairing.after m m' (m.Reaches hidden start)).frame start start := by
  refine ⟨fun P m m' hhosts hm frame frame' hframe =>
    ⟨fun top node hnode => ?_, fun trees htrees => ?_⟩, fun m m' start hclosed hstart hnames h =>
      ⟨h.agree hclosed hnames, ?_⟩⟩
  · have henters : (P.correspondence hget hresolver m m').Enters := P.enters
    have hcontext : (P.likeness hidden).context config.toContext config.toContext := rfl
    exact Pairing.ends_of_alike
      (henters.eval hcontext hhosts top (Pairing.node_alike hnode) hframe m m' hm.start)
  · have henters : (P.correspondence hget hresolver m m').Enters := P.enters
    have hcontext : (P.likeness hidden).context config.toContext config.toContext := rfl
    have hruns := henters.program hcontext hhosts
      (fun hm _ _ hnode => by
        obtain rfl := Pairing.likeness_exact.node_eq hnode
        exact hm.report _)
      hframe .nil (Pairing.nodes_alike htrees) m m' hm.start
    exact Pairing.ends_of_alike hruns
  · exact ⟨(renumber_of_lt hstart).symm, fun _ => .itself⟩

/-- A host binds a new function that interrupts the evaluation.  A program that does not mention it
goes on as before. -/
theorem unmentioned_names_are_inert_added :
    let hidden (name : String) : Prop := name = "extra"
    let m := (Session.standard {}).machine
    let extra : Value := .builtin m.nextRef (.host "extra" 0 "interrupt")
    let m' := Machine.define { m with nextRef := m.nextRef + 1 } Session.root "extra" extra
    let trees := (Node.parse "(defn f [x] (+ x 1)) (print (f 2))" "").toOption.getD []
    let run := Eval.program {} Session.root .nil trees
    let P := Pairing.after m m' (m.Reaches hidden Session.root)
    (m'.lookup? Session.root "extra").isSome = true ∧ P.Ends hidden m m' (run m) (run m') ∧
      (run.after m').printed = "3\n" := by
  intro hidden m extra m' trees run P
  have hget : ¬ hidden "get" := by decide
  have hresolver : ∀ resolver : Resolver, ¬ hidden resolver.name := by
    intro resolver
    cases resolver <;> decide
  have hclosed : m.Closed := Session.standard_closed {}
  have havoids : m.Avoids hidden Session.root := by
    have hframes : ∀ frame ∈ m.frames.toList, ∀ pair ∈ frame, ∀ other ∈ pair.2.names,
        other ≠ "extra" := by decide +kernel
    have hmodules : ∀ pair ∈ m.modules, ∀ other ∈ pair.2.names, other ≠ "extra" := by
      decide +kernel
    exact Machine.avoids_of_forall hframes hmodules
  have hdiffers : m.DiffersOnly hidden Session.root m' :=
    (Machine.DiffersOnly.refl hidden Session.root m).giveRef.define _ rfl _
  have htrees : ∀ name ∈ Node.namesEach trees, name ≠ "extra" := by decide +kernel
  have hstart : Session.root < m.frames.size := by decide +kernel
  obtain ⟨hruns, hadded⟩ := unmentioned_names_are_inert hget hresolver {}
  obtain ⟨hagree, hroot⟩ := hadded m m' Session.root hclosed hstart havoids hdiffers
  have hhosts : Hosts.basic.Respect (P.likeness hidden) :=
    Hosts.basic_respect (fun _ => rfl) (fun _ => trivial) fun _ => rfl
  exact ⟨by decide +kernel, (hruns P m m' hhosts hagree _ _ hroot).2 trees htrees,
    by decide +kernel⟩

end FrameLisp
