import FrameLisp.Proofs.Reach
import FrameLisp.Proofs.Splitting.Source

/-!
# Running a source in two parts

A source that is split at a line break is run as its parts are, one after the other
(`Session.evalSource_newline`).  The runs are not the same: before the whole is run, all that was
left out of both parts is reported, and what stands in the second part is further down.

No program sees what was reported.  Machines that are the same but for their reports are a
`Departure` in which nothing is renumbered, so a run from one is the run from the other
(`Eval.program_same`).  After it the whole goes on with the trees of the second part further down
(`Session.GoesOn`).  These are alike to the trees that are read from the second part alone, with
places that are moved (`Relocation.moved`), and trees that differ in their places run alike if
nothing looks at places (`Session.runTrees_alike`): no oracle for shapes, be it the session's or one
that a function brings along, and no code of the host (`Session.IgnoresPlaces`).
-/

namespace FrameLisp

/-! ### Machines that differ in their reports -/

theorem Relocation.likeness_congr (R : Relocation) (contexts : Context → Context → Prop)
    {frame frame' ref ref' : Nat → Nat} (hframe : frame = frame') (hrefs : ref = ref')
    (href : ∀ {a b}, ref a = ref b ↔ a = b) (href' : ∀ {a b}, ref' a = ref' b ↔ a = b) :
    R.likeness contexts frame ref href = R.likeness contexts frame' ref' href' := by
  subst hframe
  subst hrefs
  rfl

namespace Departure

variable {D : Departure}

/-- Nothing is renumbered, as both machines have as many frames and `ref`s. -/
structure Aligned (D : Departure) : Prop where
  /-- As many frames. -/
  size_eq : D.second.frames.size = D.first.frames.size
  /-- As many `ref`s. -/
  nextRef_eq : D.second.nextRef = D.first.nextRef

namespace Aligned

theorem of_same (h : D.first.SameButEvents D.second) : D.Aligned := by
  constructor
  · rw [h]
  · rw [h]

theorem frame (h : D.Aligned) (id : FrameId) : D.frame id = id := by
  unfold Departure.frame
  rw [h.size_eq, renumber_self]

theorem ref (h : D.Aligned) (n : Nat) : D.ref n = n := by
  unfold Departure.ref
  rw [h.nextRef_eq, renumber_self]

theorem numbers (h : D.Aligned) (value : Value) :
    value.Over (fun id => D.frame id = id) fun r => D.ref r = r :=
  fun _ _ => ⟨fun id _ => h.frame id, fun r _ => h.ref r⟩

/-- Only places and contexts are left to differ. -/
theorem likeness_eq (h : D.Aligned) :
    D.likeness = D.places.likeness D.contexts id id Relocation.id_inj :=
  D.places.likeness_congr D.contexts (funext h.frame) (funext h.ref) renumber_inj Iff.rfl

end Aligned

theorem start_of_same (hD : D.places.Reflexive) (h : D.first.SameButEvents D.second)
    (hholds : D.first.Holds (Value.Under fun context => D.contexts context context)) :
    D.Machines D.first D.second := by
  have haligned := Aligned.of_same h
  have hfixes : D.first.Holds D.Fixes :=
    ⟨fun id name value hmem => ⟨haligned.numbers value, hholds.frames id name value hmem⟩,
      fun name value hmem => ⟨haligned.numbers value, hholds.modules name value hmem⟩⟩
  refine start hD hfixes (Nat.le_of_eq haligned.size_eq.symm)
    (Nat.le_of_eq haligned.nextRef_eq.symm) (fun id => ?_) ?_ ?_ ?_ ?_
  · rw [haligned.frame, h]
    rfl
  all_goals rw [h]

end Departure

/-- Faults of one cause at one place are the same. -/
theorem Fault.eq_of_unplaced {fault fault' : Fault} (h : fault'.unplaced = fault.unplaced)
    (hplace : fault'.location? = fault.location?) : fault' = fault := by
  cases fault <;> cases fault' <;> simp_all [Fault.unplaced, Fault.location?]

/-- What is alike, has the same places and belongs to the same contexts is the same. -/
theorem Relocation.stay_refines :
    (Relocation.stay.likeness (fun context context' => context' = context) id id
      Relocation.id_inj).Refines Policy.anything.likeness where
  token {t t'} h := by
    obtain ⟨⟨hkind, htext⟩, hplace⟩ := h
    obtain ⟨kind, text, location⟩ := t
    obtain ⟨kind', text', location'⟩ := t'
    cases hkind
    cases htext
    cases hplace
    exact ⟨rfl, trivial⟩
  place h := ⟨h, Policy.anything_places _⟩
  frame h := ⟨h, trivial⟩
  context h := ⟨h, trivial⟩
  ref := id
  errorClass _ _ := trivial
  held h := ⟨Fault.eq_of_unplaced h.1 h.2, fun _ => trivial, fun _ => Policy.anything_places _⟩
  builtin {b} _ := Policy.anything_builtins b
  object _ := trivial

/-- Frames with the same variables are the same. -/
theorem Machine.frames_ext {m m' : Machine} (hsize : m'.frames.size = m.frames.size)
    (h : ∀ id, m'.frame id = m.frame id) : m'.frames = m.frames := by
  refine Array.ext hsize fun i hi hi' => ?_
  have hframe := h i
  unfold Machine.frame at hframe
  rw [Array.getElem?_eq_getElem hi, Array.getElem?_eq_getElem hi'] at hframe
  exact hframe

/-- Outcomes that are the same but for what was reported. -/
inductive Eval.SameOutcome {α : Type} :
    EStateM.Result Stop Machine α → EStateM.Result Stop Machine α → Prop
  /-- The same value. -/
  | ok (a : α) {m m' : Machine} (h : m.SameButEvents m') : SameOutcome (.ok a m) (.ok a m')
  /-- The same way to stop. -/
  | error (stop : Stop) {m m' : Machine} (h : m.SameButEvents m') :
    SameOutcome (.error stop m) (.error stop m')

section SameButEvents

variable {m m' : Machine}

theorem Machine.SameButEvents.refines (h : m.SameButEvents m') :
    (Departure.again m m').likeness.Refines Policy.anything.likeness := by
  rw [(Departure.Aligned.of_same h : (Departure.again m m').Aligned).likeness_eq]
  exact Relocation.stay_refines

/-- On machines that are the same but for what was reported, what is alike is the same. -/
theorem Machine.SameButEvents.identity (h : m.SameButEvents m') :
    (Departure.again m m').likeness.Identity := by
  have haligned : (Departure.again m m').Aligned := .of_same h
  constructor
  case value =>
    intro value value'
    constructor
    · exact fun halike => Policy.value_eq (h.refines.value halike)
    · rintro rfl
      exact Departure.value_alike Departure.again.reflexive _
        ⟨haligned.numbers _, fun _ _ _ _ => rfl⟩
  case place => exact Iff.rfl
  case frame =>
    intro id id'
    show id' = (Departure.again m m').frame id ↔ id' = id
    rw [haligned.frame]
  case ref =>
    intro r r'
    show r' = (Departure.again m m').ref r ↔ r' = r
    rw [haligned.ref]
  case visible => exact fun _ => trivial
  case counter => exact fun _ => trivial
  case errorClass => trivial

/-- Runs that start on machines that differ in their reports go on like that. -/
theorem Machine.SameButEvents.after (h : m.SameButEvents m') {n n' : Machine}
    (hn : (Departure.again m m').Machines n n') : n.SameButEvents n' := by
  have haligned : (Departure.again m m').Aligned := .of_same h
  have hsize : n'.frames.size = n.frames.size := by
    rw [hn.size_eq, haligned.frame]
  have hframes : n'.frames = n.frames := by
    refine Machine.frames_ext hsize fun id => ?_
    have hid := Policy.bindings_eq (h.refines.bindings (hn.frames id))
    rw [haligned.frame] at hid
    exact hid
  have hmodules : n'.modules = n.modules :=
    Policy.bindings_eq (h.refines.bindings hn.modules)
  have hnextRef : n'.nextRef = n.nextRef := by
    rw [hn.nextRef_eq, haligned.ref]
  have hprinted : n'.printed = n.printed := by
    -- both have printed the same since, and had printed the same before
    obtain ⟨text, hprinted, hprinted'⟩ := hn.printed
    have hstart : m'.printed = m.printed := by rw [h]
    rw [hprinted, hprinted']
    exact congrArg (· ++ text) hstart
  have hdepth := hn.depth_eq
  have hroom := hn.room_eq
  have hinterrupted := hn.interrupted_eq
  unfold Machine.SameButEvents
  cases n
  cases n'
  simp_all only

/-- **No program sees what was reported.** -/
theorem Eval.program_same (h : m.SameButEvents m') (config : Config) (frame : FrameId)
    (last : Value) (trees : List Node) :
    SameOutcome (program config frame last trees m) (program config frame last trees m') := by
  have hreflexive : (Departure.again m m').places.Reflexive := Departure.again.reflexive
  have hcontext : (Departure.again m m').correspondence.context config.toContext
      config.toContext := rfl
  have hidentity : (Departure.again m m').correspondence.toLikeness.Identity := h.identity
  have hframe : (Departure.again m m').correspondence.frame frame frame := hidentity.frame.mpr rfl
  have hlast : last.Alike (Departure.again m m').correspondence.toLikeness last :=
    hidentity.value.mpr rfl
  have hstart : (Departure.again m m').Machines m m' :=
    Departure.start_of_same hreflexive h
      ⟨fun _ _ _ _ _ _ _ _ => rfl, fun _ _ _ _ _ _ _ => rfl⟩
  -- the same trees from two machines, of which one is the other as far as a program can see
  have hruns := Departure.again.enters.program hcontext (hidentity.respect config.hosts)
    Departure.reports hframe hlast (Departure.nodes_alike hreflexive trees) m m' hstart
  change (Departure.again m m').correspondence.OutcomeAlike _ _ (program config frame last trees m)
    (program config frame last trees m') at hruns
  generalize program config frame last trees m = result at hruns ⊢
  generalize program config frame last trees m' = result' at hruns ⊢
  cases hruns with
  | ok hvalue hm =>
    rw [hidentity.value.mp hvalue]
    exact .ok _ (h.after hm)
  | error hstop hm =>
    rw [Departure.again.stop_eq (.settled hstop)]
    exact .error _ (h.after hm)

end SameButEvents

/-! ### Trees in turn -/

theorem Eval.program_append (config : Config) (frame : FrameId) (last : Value)
    (trees more : List Node) :
    program config frame last (trees ++ more) =
      program config frame last trees >>= fun value => program config frame value more := by
  induction trees generalizing last with
  | nil => rfl
  | cons tree trees ih =>
    rw [List.cons_append, program, program, bind_assoc]
    congr 1
    funext _
    rw [bind_assoc]
    congr 1
    funext value
    exact ih value

namespace Session

/-- Runs trees in the root frame after a value was given. -/
def runTrees (session : Session) (last : Value) (trees : List Node) :
    Except Failure Value × Session :=
  match Eval.program session.config root last trees session.machine with
  | .ok value machine => (.ok value, { session with machine })
  | .error stop machine => (.error (.stop stop), { session with machine })

/-- The sessions are the same but for what was reported. -/
def SameButEvents (session session' : Session) : Prop :=
  session'.config = session.config ∧ session.machine.SameButEvents session'.machine

/-- The session has reported all that was left out of a source, and has room for its trees. -/
def prepared (session : Session) (source file : String) : Session :=
  { session with
    machine := (session.machine.noticing source file).roomFor session.config.maxDepth }

theorem evalSource_eq_runTrees (session : Session) {source file : String} {trees : List Node}
    (h : Node.parse source file = .ok trees) :
    session.evalSource source file = (session.prepared source file).runTrees .nil trees := by
  have hbuild : Node.build Node.defaultNesting (Token.lex source file) = .ok trees := h
  unfold evalSource
  rw [evalWithin_eq, hbuild]
  rfl

/-- A source that cannot be read changes nothing. -/
theorem evalSource_of_misread (session : Session) {source file : String} {misread : Misread}
    (h : Node.parse source file = .error misread) :
    session.evalSource source file =
      (.error (.misread misread),
        { session with machine := session.machine.noticing source file }) := by
  have hbuild : Node.build Node.defaultNesting (Token.lex source file) = .error misread := h
  unfold evalSource
  rw [evalWithin_eq, hbuild]

theorem config_evalSource (session : Session) (source file : String) :
    (session.evalSource source file).2.config = session.config := by
  unfold evalSource
  rw [evalWithin_eq]
  split
  · rfl
  · split <;> rfl

theorem config_standard (config : Config) : (standard config).config = config := by
  unfold standard
  rw [run_config]

theorem runTrees_machine (session : Session) (last : Value) (trees : List Node) :
    (session.runTrees last trees).2.machine =
      (Eval.program session.config root last trees).after session.machine := by
  unfold runTrees Eval.after
  cases Eval.program session.config root last trees session.machine with
  | ok value machine => rfl
  | error stop machine => rfl

theorem runTrees_config (session : Session) (last : Value) (trees : List Node) :
    (session.runTrees last trees).2.config = session.config := by
  unfold runTrees
  cases Eval.program session.config root last trees session.machine with
  | ok value machine => rfl
  | error stop machine => rfl

theorem runTrees_append (session : Session) (last : Value) (trees more : List Node) :
    session.runTrees last (trees ++ more) =
      match session.runTrees last trees with
      | (.ok value, session) => session.runTrees value more
      | (.error failure, session) => (.error failure, session) := by
  unfold runTrees
  rw [Eval.program_append, Eval.bind_eq]
  cases Eval.program session.config root last trees session.machine with
  | ok value machine => rfl
  | error stop machine => rfl

theorem runTrees_same {session session' : Session} (h : session.SameButEvents session')
    (last : Value) (trees : List Node) :
    (session'.runTrees last trees).1 = (session.runTrees last trees).1 ∧
      (session.runTrees last trees).2.SameButEvents (session'.runTrees last trees).2 := by
  obtain ⟨hconfig, hmachine⟩ := h
  have hsame := Eval.program_same hmachine session.config root last trees
  unfold runTrees
  rw [hconfig]
  generalize Eval.program session.config root last trees session.machine = result at hsame ⊢
  generalize Eval.program session.config root last trees session'.machine = result' at hsame ⊢
  cases hsame with
  | ok value hm => exact ⟨rfl, rfl, hm⟩
  | error stop hm => exact ⟨rfl, rfl, hm⟩

end Session

/-! ### Trees further down -/

namespace Relocation

/-- Some places are moved down, and all others stay. -/
def moved (lines : Nat) (moves : Location → Prop) : Relocation where
  place a a' :=
    a' = a ∨ ∃ location, moves location ∧ a = some location ∧ a' = some (location.down lines)
  none := .inl rfl
  or {a a' b b'} ha hb := by
    rcases ha with rfl | ⟨location, hmoves, rfl, rfl⟩
    · cases a' with
      | none => exact hb
      | some location => exact .inl rfl
    · exact .inr ⟨location, hmoves, rfl, rfl⟩

theorem moved_reflexive (lines : Nat) (moves : Location → Prop) : (moved lines moves).Reflexive :=
  fun _ => .inl rfl

end Relocation

/-- Trees that are read from tokens are alike to the trees some lines further down. -/
def Reading.moved (limit lines : Nat) (moves : Location → Prop) : Reading limit where
  token token := moves token.location
  place := moves
  property _ := True
  node _ node := node.Alike (Relocation.moved lines moves).likenessOfPlaces (node.down lines)
  token_place h := h
  property_name _ _ _ _ := trivial
  property_quoted := trivial
  literal {token} h _ _ _ _ _ _ _ := by
    have htoken : (Relocation.moved lines moves).likenessOfPlaces.token token (token.down lines) :=
      ⟨⟨rfl, rfl⟩, .inr ⟨token.location, h, rfl, rfl⟩⟩
    rw [Node.down]
    exact .literal htoken _
  form {_} _ {children} hchildren {_} _ inline {location} hlocation := by
    have hplace : (Relocation.moved lines moves).likenessOfPlaces.place (some location)
        (some (location.down lines)) := .inr ⟨location, hlocation, rfl, rfl⟩
    rw [Node.down]
    refine .form ?_ _ inline hplace
    exact List.forall₂_map_right_iff.mpr (List.forall₂_same.mpr hchildren)

/-! ### What looks at places -/

theorem Relocation.nodes_alike {R : Relocation} (hR : R.Reflexive) (nodes : List Node) :
    List.Forall₂ (Node.Alike R.likenessOfPlaces) nodes nodes := by
  have htoken (token : Token) : R.likenessOfPlaces.token token token := ⟨⟨rfl, rfl⟩, hR _⟩
  exact Node.alike_self_each htoken hR nodes

theorem Relocation.refines_anywhere (R : Relocation) (contexts : Context → Context → Prop) :
    (R.likeness contexts id id Relocation.id_inj).Refines
      (anywhere.likeness (fun _ _ => True) id id Relocation.id_inj) where
  token h := ⟨h.1, trivial⟩
  place _ := trivial
  frame := id
  context _ := trivial
  ref := id
  errorClass := id
  held h := ⟨h.1, trivial⟩
  builtin := id
  object := id

/-- **The oracle of the language ignores places.** -/
theorem Rule.standard_ignoresPlaces : Oracle.IgnoresPlaces Rule.standard := by
  intro rule nodes nodes' h
  let D : Departure := ⟨{}, {}, .anywhere, fun _ _ => True⟩
  have haligned : D.Aligned := ⟨rfl, rfl⟩
  have horacle : D.correspondence.OracleAlike {} {} :=
    Correspondence.oracleAlike_of_standard rfl rfl
  refine horacle rule ?_
  show List.Forall₂ (Node.Alike D.likeness) nodes nodes'
  rw [haligned.likeness_eq]
  exact h

/-- So does every oracle that makes exceptions for rules. -/
theorem Rule.except_ignoresPlaces (accepted : List String) (rejected : List (String × String)) :
    Oracle.IgnoresPlaces (Rule.except accepted rejected) := by
  intro rule nodes nodes' h
  unfold Rule.except
  rw [h.length_eq, Rule.standard_ignoresPlaces rule h]

/-- No code of the host looks at the places in what it is given. -/
def Hosts.IgnorePlaces (hosts : Hosts) : Prop :=
  ∀ R : Relocation, hosts.Respect R.likenessOfPlaces

/-- **The basic host ignores places.** -/
theorem Hosts.basic_ignorePlaces : basic.IgnorePlaces :=
  fun R => basic_respect (fun _ => R.none) (fun _ => trivial) fun _ => R.none

/-- Nothing that runs in the session looks at places. -/
structure Session.IgnoresPlaces (session : Session) : Prop where
  /-- The oracle of its programs does not. -/
  oracle : session.config.oracle.IgnoresPlaces
  /-- Nor do the oracles that its functions bring along. -/
  functions : session.machine.Holds (Value.Under fun context => context.oracle.IgnoresPlaces)
  /-- Nor does the code of its host. -/
  hosts : session.config.hosts.IgnorePlaces

theorem Departure.Aligned.oracleAlike {D : Departure} (h : D.Aligned) {context : Context}
    (horacle : context.oracle.IgnoresPlaces) : D.correspondence.OracleAlike context context := by
  intro rule nodes nodes' hnodes
  change List.Forall₂ (Node.Alike D.likeness) nodes nodes' at hnodes
  rw [h.likeness_eq] at hnodes
  exact horacle rule ((D.places.refines_anywhere D.contexts).nodes hnodes)

/-! ### Trees that differ in places -/

/-- Machines on which what a program can see is alike, under the same numbers, and beside which only
the reports may differ. -/
structure Machine.AlikeUpTo (L : Likeness) (m m' : Machine) : Prop where
  /-- There are as many frames. -/
  size_eq : m'.frames.size = m.frames.size
  /-- They have variables that are alike. -/
  frames (id : FrameId) : Bindings.Alike L (m.frame id) (m'.frame id)
  /-- Modules that are alike are registered. -/
  modules : Bindings.Alike L m.modules m'.modules
  /-- The same was printed. -/
  printed_eq : m'.printed = m.printed
  /-- As many `ref`s were given out. -/
  nextRef_eq : m'.nextRef = m.nextRef
  /-- They are equally deep. -/
  depth_eq : m'.depth = m.depth
  /-- They have the same room. -/
  room_eq : m'.room = m.room
  /-- An interruption was asked for in both or in none. -/
  interrupted_eq : m'.interrupted = m.interrupted

theorem Machine.AlikeUpTo.of_same {L : Likeness} {m m' n : Machine} (h : m.AlikeUpTo L m')
    (hsame : m.SameButEvents n) : n.AlikeUpTo L m' := by
  rw [hsame]
  exact { h with }

theorem Departure.Machines.alikeUpTo {D : Departure} (haligned : D.Aligned)
    (hstart : D.second.printed = D.first.printed) {m m' : Machine} (h : D.Machines m m') :
    m.AlikeUpTo (D.places.likeness D.contexts id id Relocation.id_inj) m' := by
  rw [← haligned.likeness_eq]
  refine ⟨?_, fun id => ?_, h.modules, ?_, ?_, h.depth_eq, h.room_eq, h.interrupted_eq⟩
  · rw [h.size_eq, haligned.frame]
  · have hframe := h.frames id
    rw [haligned.frame] at hframe
    exact hframe
  · obtain ⟨text, hprinted, hprinted'⟩ := h.printed
    rw [hprinted, hprinted', hstart]
  · rw [h.nextRef_eq, haligned.ref]

/-- Failures that are the same up to places. -/
inductive Failure.AlikeUpTo (R : Relocation) : Failure → Failure → Prop
  /-- The same failure. -/
  | same (failure : Failure) : AlikeUpTo R failure failure
  /-- Faults of one cause. -/
  | fault {fault fault' : Fault} (h : fault'.unplaced = fault.unplaced)
    (hplace : R.place fault.location? fault'.location?) :
    AlikeUpTo R (.stop (.fault fault)) (.stop (.fault fault'))

namespace Session

/-- Outcomes that are the same up to places and what was reported. -/
structure OutcomeAlike (R : Relocation) (outcome outcome' : Except Failure Value × Session) :
    Prop where
  /-- The same value or failure. -/
  result : Matches (Failure.AlikeUpTo R) (Value.Alike R.likenessOfPlaces) outcome.1 outcome'.1
  /-- The same settings. -/
  config_eq : outcome'.2.config = outcome.2.config
  /-- The same machine. -/
  machine : outcome.2.machine.AlikeUpTo R.likenessOfPlaces outcome'.2.machine

theorem stop_alikeUpTo {D : Departure} {stop stop' : Stop}
    (h : D.correspondence.StopAlike stop stop') :
    Failure.AlikeUpTo D.places (.stop stop) (.stop stop') := by
  cases h with
  | fault h => exact .fault h.unplaced_eq h.location?
  | interrupted h =>
    cases h
    exact .same _
  | outOfBounds => exact .same _
  | outOfLevels => exact .same _

/-- **Trees that differ in places run alike**, on machines that differ in their reports, if nothing
looks at places. -/
theorem runTrees_alike {R : Relocation} (hR : R.Reflexive) {session session' : Session}
    (hsame : session.SameButEvents session') (hplaces : session.IgnoresPlaces)
    {trees trees' : List Node}
    (htrees : List.Forall₂ (Node.Alike R.likenessOfPlaces) trees trees') :
    OutcomeAlike R (session.runTrees .nil trees) (session'.runTrees .nil trees') := by
  obtain ⟨hconfig, hmachine⟩ := hsame
  let D : Departure := ⟨session.machine, session'.machine, R, Context.SameUnplaced⟩
  have haligned : D.Aligned := .of_same hmachine
  have hlikeness : D.correspondence.toLikeness = R.likenessOfPlaces := haligned.likeness_eq
  have henters : D.correspondence.Enters :=
    Departure.enters And.left fun hcontext => haligned.oracleAlike hcontext.2
  have hcontext : D.correspondence.context session.config.toContext session.config.toContext :=
    ⟨rfl, hplaces.oracle⟩
  have hhosts : session.config.hosts.Respect D.correspondence.toLikeness := by
    rw [hlikeness]
    exact hplaces.hosts R
  have hnodes : D.correspondence.NodesAlike trees trees' := by
    show List.Forall₂ (Node.Alike D.correspondence.toLikeness) trees trees'
    rw [hlikeness]
    exact htrees
  have hholds : D.first.Holds (Value.Under fun context => D.contexts context context) :=
    ⟨fun id name value hmem part hpart context h =>
        ⟨rfl, hplaces.functions.frames id name value hmem part hpart context h⟩,
      fun name value hmem part hpart context h =>
        ⟨rfl, hplaces.functions.modules name value hmem part hpart context h⟩⟩
  have hprinted : D.second.printed = D.first.printed := by
    show session'.machine.printed = session.machine.printed
    rw [hmachine]
  have hruns := henters.program hcontext hhosts Departure.reports (haligned.frame root).symm .nil
    hnodes session.machine session'.machine (Departure.start_of_same hR hmachine hholds)
  change D.correspondence.OutcomeAlike _ _
    (Eval.program session.config root .nil trees session.machine)
    (Eval.program session.config root .nil trees' session'.machine) at hruns
  unfold runTrees
  rw [hconfig]
  generalize Eval.program session.config root .nil trees session.machine = result at hruns ⊢
  generalize Eval.program session.config root .nil trees' session'.machine = result' at hruns ⊢
  cases hruns with
  | ok hvalue hm =>
    refine ⟨.ok ?_, rfl, Departure.Machines.alikeUpTo haligned hprinted hm⟩
    change Value.Alike D.correspondence.toLikeness _ _ at hvalue
    rw [hlikeness] at hvalue
    exact hvalue
  | error hstop hm =>
    exact ⟨.error (stop_alikeUpTo hstop), rfl, Departure.Machines.alikeUpTo haligned hprinted hm⟩

namespace IgnoresPlaces

variable {session : Session}

theorem of_store_eq (h : session.IgnoresPlaces) {machine : Machine}
    (hframes : machine.frames = session.machine.frames)
    (hmodules : machine.modules = session.machine.modules) :
    Session.IgnoresPlaces { session with machine } := by
  refine ⟨h.oracle, ⟨fun id name value hmem => ?_, fun name value hmem => ?_⟩, h.hosts⟩
  · unfold Machine.frame at hmem
    rw [hframes] at hmem
    exact h.functions.frames id name value hmem
  · rw [hmodules] at hmem
    exact h.functions.modules name value hmem

/-- A session that is prepared for a source looks at places no more than before. -/
theorem prepared (h : session.IgnoresPlaces) (source file : String) :
    (session.prepared source file).IgnoresPlaces :=
  h.of_store_eq rfl rfl

/-- Nor does one in which trees have run, as its functions were made under contexts that the run
could tell to be alike. -/
theorem runTrees (h : session.IgnoresPlaces) (trees : List Node) :
    (session.runTrees .nil trees).2.IgnoresPlaces := by
  have hstay : Relocation.stay.Reflexive := fun _ => rfl
  have halike := (runTrees_alike hstay ⟨rfl, rfl⟩ h (Relocation.nodes_alike hstay trees)).machine
  have hconfig := session.runTrees_config .nil trees
  refine ⟨?_, ⟨fun id => ?_, halike.modules.under And.right⟩, ?_⟩
  · rw [hconfig]
    exact h.oracle
  · exact (halike.frames id).under And.right
  · rw [hconfig]
    exact h.hosts

/-- Nor does one that has run a source. -/
theorem evalSource (h : session.IgnoresPlaces) (source file : String) :
    (session.evalSource source file).2.IgnoresPlaces := by
  cases hparse : Node.parse source file with
  | error misread =>
    rw [evalSource_of_misread session hparse]
    exact h.of_store_eq rfl rfl
  | ok trees =>
    rw [evalSource_eq_runTrees session hparse]
    exact (h.prepared source file).runTrees trees

/-- Nor does one that has run trees. -/
theorem evalNodes (h : session.IgnoresPlaces) (trees : List Node) :
    (session.evalNodes trees).2.IgnoresPlaces := by
  have hroom : Session.IgnoresPlaces
      { session with machine := session.machine.roomFor session.config.maxDepth } :=
    h.of_store_eq rfl rfl
  have hruns := hroom.runTrees trees
  unfold Session.runTrees at hruns
  rw [evalNodes_eq]
  dsimp only at hruns ⊢
  cases hrun : Eval.program session.config root .nil trees
      (session.machine.roomFor session.config.maxDepth) with
  | ok value machine =>
    rw [hrun] at hruns
    exact hruns
  | error stop machine =>
    rw [hrun] at hruns
    exact hruns

end IgnoresPlaces

/-- **A standard session does not look at places** if its settings do not. -/
theorem standard_ignoresPlaces {config : Config} (horacle : config.oracle.IgnoresPlaces)
    (hhosts : config.hosts.IgnorePlaces) : (standard config).IgnoresPlaces := by
  have hconfig := config_standard config
  refine ⟨by rwa [hconfig], ?_, by rwa [hconfig]⟩
  -- there are no functions in it yet
  let P : Policy := { context := fun _ => False }
  have hpermits : P.PermitsMachine (standard config).machine :=
    Policy.standard_permits config fun _ => trivial
  have hunder := Policy.holds_under hpermits fun _ => trivial
  exact ⟨fun id name value hmem part hpart context h =>
      (hunder.frames id name value hmem part hpart context h).elim,
    fun name value hmem part hpart context h =>
      (hunder.modules name value hmem part hpart context h).elim⟩

/-! ### The two parts of a source -/

/-- Runs two sources one after the other, the second only if the first has a value.  The last value
counts. -/
def evalInTurn (session : Session) (a b file : String) : Except Failure Value × Session :=
  match session.evalSource a file with
  | (.error failure, session) => (.error failure, session)
  | (.ok value, session) =>
    match Node.parse b file, session.evalSource b file with
    | .ok [], (.ok _, session) => (.ok value, session)
    | _, outcome => outcome

/-- Running a source leaves room for the trees of the next. -/
theorem maxDepth_le_room {session : Session} {source file : String} {trees : List Node}
    (h : Node.parse source file = .ok trees) :
    session.config.maxDepth ≤ (session.evalSource source file).2.machine.room := by
  have hroom := (Eval.Steady.program session.config root .nil trees
    (session.prepared source file).machine).1
  have hmachine : (session.evalSource source file).2.machine =
      (Eval.program session.config root .nil trees).after
        (session.prepared source file).machine := by
    rw [evalSource_eq_runTrees session h, runTrees_machine]
    rfl
  rw [hmachine, hroom]
  exact Nat.le_max_left _ _

/-- The second source goes on with the trees it has, after it has reported what was left out. -/
theorem evalInTurn_eq {session first : Session} {a b file : String} {value : Value}
    {trees trees' : List Node} (hparse : Node.parse a file = .ok trees)
    (ha : session.evalSource a file = (.ok value, first))
    (hb : Node.parse b file = .ok trees') :
    ∃ prepared, first.SameButEvents prepared ∧
      session.evalInTurn a b file = prepared.runTrees value trees' := by
  have hroom : session.config.maxDepth ≤ (session.evalSource a file).2.machine.room :=
    maxDepth_le_room hparse
  have hconfig := config_evalSource session a file
  rw [ha] at hroom hconfig
  have hprepared : first.SameButEvents (first.prepared b file) := by
    have henough : max first.config.maxDepth first.machine.room = first.machine.room := by
      rw [hconfig]
      exact Nat.max_eq_right hroom
    refine ⟨rfl, ?_⟩
    unfold Session.prepared Machine.roomFor Machine.SameButEvents
    dsimp only
    rw [show (first.machine.noticing b file).room = first.machine.room from rfl, henough]
    rfl
  refine ⟨first.prepared b file, hprepared, ?_⟩
  unfold evalInTurn
  rw [ha]
  dsimp only
  rw [hb, evalSource_eq_runTrees first hb]
  cases trees' with
  | nil => rfl
  | cons tree trees' =>
    -- the value before counts no more once there is a tree
    rfl

/-- How a run of a source ends, told from how a run of its first part ends and from the trees of its
second part, which are run after it on a machine with other reports. -/
def GoesOn (trees : List Node) (first whole : Except Failure Value × Session) : Prop :=
  ∃ session, first.2.SameButEvents session ∧
    whole =
      match first.1 with
      | .ok value => session.runTrees value trees
      | .error failure => (.error failure, session)

/-- **A source goes on where its first part ends.** -/
theorem evalSource_goesOn (session : Session) {source whole file : String}
    {trees more : List Node} (hsource : Node.parse source file = .ok trees)
    (hwhole : Node.parse whole file = .ok (trees ++ more)) :
    GoesOn more (session.evalSource source file) (session.evalSource whole file) := by
  rw [evalSource_eq_runTrees session hsource, evalSource_eq_runTrees session hwhole,
    runTrees_append]
  have hprepared : (session.prepared source file).SameButEvents (session.prepared whole file) :=
    ⟨rfl, rfl⟩
  obtain ⟨hresult, hsame⟩ := runTrees_same hprepared .nil trees
  refine ⟨((session.prepared whole file).runTrees .nil trees).2, hsame, ?_⟩
  rw [← hresult]
  rcases (session.prepared whole file).runTrees .nil trees with ⟨failure | value, last⟩ <;> rfl

/-- Two sources in turn end as their trees do in one run. -/
theorem evalInTurn_same (session : Session) {a b file : String} {trees trees' : List Node}
    (ha : Node.parse a file = .ok trees) (hb : Node.parse b file = .ok trees') :
    let whole := (session.prepared a file).runTrees .nil (trees ++ trees')
    (session.evalInTurn a b file).1 = whole.1 ∧
      whole.2.SameButEvents (session.evalInTurn a b file).2 := by
  intro whole
  have hwhole : whole = _ := runTrees_append _ _ _ _
  rw [hwhole, ← evalSource_eq_runTrees session ha]
  rcases hfirst : session.evalSource a file with ⟨failure | value, first⟩
  · have hturn : session.evalInTurn a b file = (.error failure, first) := by
      unfold evalInTurn
      rw [hfirst]
    rw [hturn]
    exact ⟨rfl, rfl, rfl⟩
  · obtain ⟨prepared, hprepared, hturn⟩ := evalInTurn_eq ha hfirst hb
    rw [hturn]
    exact runTrees_same hprepared value trees'

/-- Two sources in turn end as a source with the trees of the first, and those of the second further
down. -/
theorem evalInTurn_alike {session : Session} {a b whole file : String}
    {trees trees' further : List Node} (ha : Node.parse a file = .ok trees)
    (hb : Node.parse b file = .ok trees') (hwhole : Node.parse whole file = .ok (trees ++ further))
    {R : Relocation} (hR : R.Reflexive) (hplaces : session.IgnoresPlaces)
    (htrees : List.Forall₂ (Node.Alike R.likenessOfPlaces) trees' further) :
    OutcomeAlike R (session.evalInTurn a b file) (session.evalSource whole file) := by
  have hprepared : (session.prepared a file).SameButEvents (session.prepared whole file) :=
    ⟨rfl, rfl⟩
  have hall : List.Forall₂ (Node.Alike R.likenessOfPlaces) (trees ++ trees') (trees ++ further) :=
    List.rel_append (Relocation.nodes_alike hR trees) htrees
  have halike := runTrees_alike hR hprepared (hplaces.prepared a file) hall
  obtain ⟨hresult, hconfig, hsame⟩ := evalInTurn_same session ha hb
  rw [evalSource_eq_runTrees session hwhole]
  refine ⟨?_, ?_, halike.machine.of_same hsame⟩
  · rw [hresult]
    exact halike.result
  · rw [hconfig]
    exact halike.config_eq

end Session

/-- The places of the tokens of a source. -/
def Token.Places (source file : String) (location : Location) : Prop :=
  ∃ token ∈ lex source file, token.location = location

/-- The trees of a source are alike to the trees some lines further down. -/
theorem Node.parse_alike_down {source file : String} {trees : List Node}
    (h : parse source file = .ok trees) (lines : Nat) :
    List.Forall₂
      (Node.Alike (Relocation.moved lines (Token.Places source file)).likenessOfPlaces) trees
      (trees.map (Node.down lines)) := by
  let R := Reading.moved defaultNesting lines (Token.Places source file)
  have hbuild : build defaultNesting (Token.lex source file) = .ok trees := h
  have htokens : ∀ token ∈ Token.lex source file, R.token token :=
    fun token htoken => ⟨token, htoken, rfl⟩
  have hgives := R.gives_build htokens
  rw [hbuild] at hgives
  exact List.forall₂_map_right_iff.mpr (List.forall₂_same.mpr hgives)

theorem exists_of_isOk {ε α : Type} {x : Except ε α} (h : x.isOk = true) : ∃ a, x = .ok a := by
  cases x with
  | error e => cases h
  | ok a => exact ⟨a, rfl⟩

namespace Session

/-- **A program may be split at a line break.**  Let no string be left open in the first part, and
let it not end with a property that waits for what it is put on.  Then the tokens of the whole are
those of the parts, the second part being further down.  If both parts can be read, the same is true
of the trees, and the whole runs the first part and then, if that gave a value, the trees of the
second part further down.  Up to these lines that is the outcome of running the two parts in turn.
-/
theorem evalSource_newline {a file : String}
    (hterminated : ∀ location, .unterminated location ∉ Token.notices a file)
    (hsettled : Token.Settled (Token.lex a file)) (b : String) :
    let whole := a ++ "\n" ++ b
    let lines := a.toList.count '\n' + 1
    Token.lex whole file = Token.lex a file ++ (Token.lex b file).map (Token.down lines) ∧
      ∀ trees trees', Node.parse a file = .ok trees → Node.parse b file = .ok trees' →
        Node.parse whole file = .ok (trees ++ trees'.map (Node.down lines)) ∧
          ∀ session : Session,
            GoesOn (trees'.map (Node.down lines)) (session.evalSource a file)
                (session.evalSource whole file) ∧
              (session.IgnoresPlaces →
                OutcomeAlike (.moved lines (Token.Places b file)) (session.evalInTurn a b file)
                  (session.evalSource whole file)) := by
  intro whole lines
  have hfindings : Token.Terminated (Token.findings a file) := fun location hmem =>
    hterminated location (List.mem_filterMap.mpr ⟨_, hmem, rfl⟩)
  have hlex := Token.lex_newline hfindings b
  refine ⟨hlex, fun trees trees' ha hb => ?_⟩
  have hwhole : Node.parse whole file = .ok (trees ++ trees'.map (Node.down lines)) := by
    unfold Node.parse
    rw [hlex]
    exact Node.build_append hsettled ha hb
  refine ⟨hwhole, fun session => ?_⟩
  have hgoes := session.evalSource_goesOn ha hwhole
  exact ⟨hgoes, fun hplaces =>
    evalInTurn_alike ha hb hwhole (Relocation.moved_reflexive _ _) hplaces
    (Node.parse_alike_down hb lines)⟩

/-- The first part ends with a comment and the second part fails in its second line, the third of
the whole. -/
theorem evalSource_newline_comment :
    let a := "(def x 1) ; '"
    let b := "(print x)\nmissing"
    let session := standard {}
    let whole := session.evalSource (a ++ "\n" ++ b) ""
    (∀ location, .unterminated location ∉ Token.notices a "") ∧ Token.Settled (Token.lex a "") ∧
      OutcomeAlike (.moved 1 (Token.Places b "")) (session.evalInTurn a b "") whole ∧
      (match whole.1 with
        | .error (.stop (.fault fault)) => fault.location?
        | _ => none) = some ⟨"", 3, 1⟩ ∧
      whole.2.machine.printed = "1\n" := by
  intro a b session whole
  have hnotices : Token.notices a "" = [] := by decide +kernel
  have hterminated : ∀ location, .unterminated location ∉ Token.notices a "" := by
    rw [hnotices]
    exact fun _ => List.not_mem_nil
  have hlast : (Token.lex a "").getLast? = some ⟨.closing, ")", ⟨"", 1, 9⟩⟩ := by decide +kernel
  have hsettled : Token.Settled (Token.lex a "") := by
    intro token htoken
    cases htoken.symm.trans hlast
    exact ⟨nofun, rfl⟩
  have hlines : a.toList.count '\n' + 1 = 1 := by decide +kernel
  obtain ⟨trees, ha⟩ : ∃ trees, Node.parse a "" = .ok trees :=
    exists_of_isOk (by decide +kernel)
  obtain ⟨trees', hb⟩ : ∃ trees, Node.parse b "" = .ok trees :=
    exists_of_isOk (by decide +kernel)
  have hplaces : session.IgnoresPlaces :=
    standard_ignoresPlaces Rule.standard_ignoresPlaces Hosts.basic_ignorePlaces
  obtain ⟨-, hparsed⟩ := evalSource_newline hterminated hsettled b
  obtain ⟨-, hruns⟩ := hparsed trees trees' ha hb
  have halike := (hruns session).2 hplaces
  rw [hlines] at halike
  exact ⟨hterminated, hsettled, halike, by decide +kernel, by decide +kernel⟩

end Session

end FrameLisp
