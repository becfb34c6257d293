import FrameLisp.Proofs.FrameIsolation.Visits
import FrameLisp.Proofs.Parameters
import FrameLisp.Proofs.ShapeSafety
import FrameLisp.Proofs.TopLevel
import FrameLisp.Session

/-!
# How `let` binds

A `let` makes one copy of the frame it stands in, and all its targets are bound there, in turn:
`BindsInTurn` follows them with the variables that each value is evaluated under.  A target that is
a pattern is bound name by name to what `get` gives, as it is bound in the copy by then
(`PicksInTurn`); with the `get` of the prelude these are the parts of the value
(`picksInTurn_get_iff`).

The bindings succeed if and only if they are bound in turn (`bindPairs_eq_ok_iff`), and then the
copy holds the frame around with all that was bound in it (`BindsInTurn.bindsAll`).  The body leaves
the copy as it is, like every evaluation below the top level.  So a function over the copy finds all
variables of the `let` when the body calls it, those that were bound after it was made among them.
-/

namespace FrameLisp

/-! ### What is bound, and in what order -/

/-- The names of a pattern are bound, one after the other, to what a function gives for a value; the
first of them is at position `i`. -/
inductive PicksInTurn (config : Config) (inner : FrameId) (lookup value : Value) (byName : Bool) :
    Nat → List Node → Machine → List (String × Value) → Machine → Prop
  /-- There is no name. -/
  | done {i : Nat} {machine : Machine} :
    PicksInTurn config inner lookup value byName i [] machine [] machine
  /-- The first name is bound to what is found under its key, and then the others are bound. -/
  | name {i : Nat} {node : Node} {nodes : List Node} {name : String} {item : Value}
    {bound : List (String × Value)} {machine between last : Machine}
    (hname : node.identifier? = some name)
    (hitem : lookup.call config.hosts config.evaluators
      [value, Evaluation.patternKey byName i name, .nil] machine = .ok item between)
    (hrest : PicksInTurn config inner lookup value byName (i + 1) nodes
      (between.define inner name item) bound last) :
    PicksInTurn config inner lookup value byName i (node :: nodes) machine
      ((name, item) :: bound) last

/-- Targets are bound to values, one after the other, in a frame that has certain variables when the
first value is evaluated. -/
inductive BindsInTurn (config : Config) (inner : FrameId) :
    Frame → List (Node × Node) → Machine → List (String × Value) → Machine → Prop
  /-- There is no target. -/
  | done {env : Frame} {machine : Machine} (henv : machine.frame inner = env) :
    BindsInTurn config inner env [] machine [] machine
  /-- A name is bound to the value, and the others are bound where it is. -/
  | name {env : Frame} {target node : Node} {pairs : List (Node × Node)} {name : String}
    {value : Value} {bound : List (String × Value)} {machine between last : Machine}
    (henv : machine.frame inner = env)
    (hvalue : config.evaluator node inner machine = .ok value between)
    (hplain : target.form? = none) (hname : target.identifier? = some name)
    (hrest : BindsInTurn config inner (Bindings.insert name value env) pairs
      (between.define inner name value) bound last) :
    BindsInTurn config inner env ((target, node) :: pairs) machine ((name, value) :: bound) last
  /-- The names of a pattern are bound with the function that `get` is bound to by then. -/
  | pattern {env : Frame} {target node : Node} {pattern : Form} {pairs : List (Node × Node)}
    {value lookup : Value} {items bound : List (String × Value)}
    {machine between middle last : Machine}
    (henv : machine.frame inner = env)
    (hvalue : config.evaluator node inner machine = .ok value between)
    (hpattern : target.form? = some pattern) (hlookup : env.find? "get" = some lookup)
    (hitems : PicksInTurn config inner lookup value pattern.isDict 0
      (Evaluation.patternNames pattern) between items middle)
    (hrest : BindsInTurn config inner (env.insertAll items) pairs middle bound last) :
    BindsInTurn config inner env ((target, node) :: pairs) machine (items ++ bound) last

variable {config : Config} {inner : FrameId} {lookup value : Value} {byName : Bool}
  {location : Option Location} {machine last : Machine} {bound : List (String × Value)}

namespace PicksInTurn

variable {i : Nat} {nodes : List Node}

/-- **The names of a pattern are all that is bound**, in the frame and in their order. -/
theorem bindsAll (hwrites : config.hosts.WriteNothing)
    (h : PicksInTurn config inner lookup value byName i nodes machine bound last)
    (hinner : inner < machine.frames.size) : machine.BindsAll last inner bound := by
  induction h with
  | done => exact .of_isolated (.of_frames_eq rfl) hinner
  | @name i node nodes name item bound machine between last hname hitem hrest ih =>
    have hisolated : machine.Isolated between := .of_call hwrites hitem
    have hfirst := hisolated.binds hinner name item
    have hothers := ih (Nat.lt_of_lt_of_le hinner hfirst.size)
    exact (Machine.BindsAll.of_binds hfirst).trans hothers

end PicksInTurn

/-- **All targets are bound in one frame**, and nothing else is bound there. -/
theorem BindsInTurn.bindsAll (hwrites : config.hosts.WriteNothing) {env : Frame}
    {pairs : List (Node × Node)}
    (h : BindsInTurn config inner env pairs machine bound last)
    (hinner : inner < machine.frames.size) : machine.BindsAll last inner bound := by
  induction h with
  | done henv => exact .of_isolated (.of_frames_eq rfl) hinner
  | @name env target node pairs name value bound machine between last henv hvalue hplain hname
      hrest ih =>
    have hisolated : machine.Isolated between := .of_evaluator hwrites hvalue
    have hfirst := hisolated.binds hinner name value
    have hothers := ih (Nat.lt_of_lt_of_le hinner hfirst.size)
    exact (Machine.BindsAll.of_binds hfirst).trans hothers
  | @pattern env target node pattern pairs value lookup items bound machine between middle last henv
      hvalue hpattern hlookup hitems hrest ih =>
    have hisolated : machine.Isolated between := .of_evaluator hwrites hvalue
    have hbetween := Nat.lt_of_lt_of_le hinner hisolated.size
    have hpattern := hitems.bindsAll hwrites hbetween
    have hothers := ih (Nat.lt_of_lt_of_le hbetween hpattern.size)
    -- the value binds nothing in the frame, then come the names of the pattern
    have hvalue : machine.BindsAll between inner [] := .of_isolated hisolated hinner
    exact (hvalue.trans hpattern).trans hothers

/-! ### What the code binds -/

namespace Evaluation

theorem bindNames_eq_ok_iff {i : Nat} {nodes : List Node} :
    bindNames config config.evaluators inner location lookup value byName i nodes machine =
      .ok () last ↔
      ∃ bound, PicksInTurn config inner lookup value byName i nodes machine bound last := by
  constructor
  · intro h
    induction nodes generalizing i machine with
    | nil =>
      cases h
      exact ⟨[], .done⟩
    | cons node nodes ih =>
      rw [bindNames] at h
      obtain ⟨name, _, hidentifier, h₁⟩ := Eval.of_bind_ok h
      obtain ⟨hname, rfl⟩ := Eval.of_identifier_ok hidentifier
      obtain ⟨item, between, hitem, h₂⟩ := Eval.of_bind_ok h₁
      obtain ⟨_, _, hdefine, h₃⟩ := Eval.of_bind_ok h₂
      cases hdefine
      obtain ⟨bound, hrest⟩ := ih h₃
      exact ⟨(name, item) :: bound, .name hname (Eval.located_eq_ok_iff.mp hitem) hrest⟩
  · rintro ⟨bound, h⟩
    induction h with
    | done => rfl
    | @name i node nodes name item bound machine between last hname hitem hrest ih =>
      unfold bindNames
      rw [CheckFree.identifier_named hname, pure_bind]
      exact (Eval.bind_ok (Eval.located_eq_ok_iff.mpr hitem)).trans ih

theorem destructure_eq_ok_iff {pattern : Form} :
    destructure config config.evaluators inner location pattern value machine = .ok () last ↔
      ∃ lookup bound, machine.lookup? inner "get" = some lookup ∧
        PicksInTurn config inner lookup value pattern.isDict 0 (patternNames pattern) machine bound
          last := by
  have hfound : Eval.lookup? inner "get" machine = .ok (machine.lookup? inner "get") machine := rfl
  unfold destructure
  rw [Eval.bind_ok hfound]
  cases hlookup : machine.lookup? inner "get" with
  | none =>
    constructor
    · intro h
      cases h
    · rintro ⟨lookup, bound, hsome, -⟩
      cases hsome
  | some found =>
    simp only [Eval.orFail, pure_bind, Option.some.injEq]
    rw [← patternNames, bindNames_eq_ok_iff]
    simp

theorem bindPairs_of_bindsInTurn (hwrites : config.hosts.WriteNothing) {env : Frame}
    {pairs : List (Node × Node)}
    (h : BindsInTurn config inner env pairs machine bound last)
    (hinner : inner < machine.frames.size) :
    bindPairs config config.evaluators inner location pairs machine = .ok () last := by
  induction h with
  | done henv => rfl
  | @name env target node pairs name value bound machine between last henv hvalue hplain hname
      hrest ih =>
    have hisolated : machine.Isolated between := .of_evaluator hwrites hvalue
    have hdefined := hisolated.binds hinner name value
    have hothers := ih (Nat.lt_of_lt_of_le hinner hdefined.size)
    rw [bindPairs, Eval.bind_ok (x := config.evaluators config.toContext node inner) hvalue, hplain]
    dsimp only
    rw [CheckFree.identifier_named hname, pure_bind]
    exact hothers
  | @pattern env target node pattern pairs value lookup items bound machine between middle last henv
      hvalue hpattern hlookup hitems hrest ih =>
    have hisolated : machine.Isolated between := .of_evaluator hwrites hvalue
    have hbetween := Nat.lt_of_lt_of_le hinner hisolated.size
    have hothers := ih (Nat.lt_of_lt_of_le hbetween (hitems.bindsAll hwrites hbetween).size)
    -- `get` is looked for after the value, which has left the variables alone
    have hfound : between.lookup? inner "get" = some lookup := by
      unfold Machine.lookup?
      rw [hisolated.frame_eq hinner, henv]
      exact hlookup
    have hdestructure : destructure config config.evaluators inner location pattern value between =
        .ok () middle := destructure_eq_ok_iff.mpr ⟨lookup, items, hfound, hitems⟩
    rw [bindPairs, Eval.bind_ok (x := config.evaluators config.toContext node inner) hvalue,
      hpattern]
    exact (Eval.bind_ok hdestructure).trans hothers

/-- **The targets of a `let` are bound in turn, or not at all.** -/
theorem bindPairs_eq_ok_iff (hwrites : config.hosts.WriteNothing) {pairs : List (Node × Node)}
    (hinner : inner < machine.frames.size) :
    bindPairs config config.evaluators inner location pairs machine = .ok () last ↔
      ∃ bound, BindsInTurn config inner (machine.frame inner) pairs machine bound last := by
  constructor
  · intro h
    induction pairs generalizing machine with
    | nil =>
      cases h
      exact ⟨[], .done rfl⟩
    | cons pair pairs ih =>
      obtain ⟨target, node⟩ := pair
      rw [bindPairs] at h
      obtain ⟨value, between, hvalue, h₁⟩ := Eval.of_bind_ok h
      have hisolated : machine.Isolated between := .of_evaluator hwrites hvalue
      cases htarget : target.form? with
      | none =>
        rw [htarget] at h₁
        obtain ⟨name, _, hidentifier, h₂⟩ := Eval.of_bind_ok h₁
        obtain ⟨hname, rfl⟩ := Eval.of_identifier_ok hidentifier
        obtain ⟨_, _, hdefine, h₃⟩ := Eval.of_bind_ok h₂
        cases hdefine
        have hdefined := hisolated.binds hinner name value
        obtain ⟨bound, hrest⟩ := ih (Nat.lt_of_lt_of_le hinner hdefined.size) h₃
        rw [hdefined.bound] at hrest
        exact ⟨(name, value) :: bound, .name rfl hvalue htarget hname hrest⟩
      | some pattern =>
        rw [htarget] at h₁
        obtain ⟨_, middle, hdestructure, h₂⟩ := Eval.of_bind_ok h₁
        obtain ⟨lookup, items, hlookup, hitems⟩ := destructure_eq_ok_iff.mp hdestructure
        have hbetween := Nat.lt_of_lt_of_le hinner hisolated.size
        have hbinds := hitems.bindsAll hwrites hbetween
        obtain ⟨bound, hrest⟩ := ih (Nat.lt_of_lt_of_le hbetween hbinds.size) h₂
        rw [hbinds.bound, hisolated.frame_eq hinner] at hrest
        unfold Machine.lookup? at hlookup
        rw [hisolated.frame_eq hinner] at hlookup
        exact ⟨items ++ bound, .pattern rfl hvalue htarget hlookup hitems hrest⟩
  · rintro ⟨bound, h⟩
    exact bindPairs_of_bindsInTurn hwrites h hinner

end Evaluation

/-! ### Parts of a value -/

/-- What a pattern takes out of a value: what a dict has under the keyword of a name, or what a
list, a text or a dict has at a position.  Nil stands for what is not there. -/
def Value.part (value : Value) (byName : Bool) (i : Nat) (name : String) : Value :=
  match byName, value with
  | true, dict entries => (Bindings.find? (.keyword (keywordName name)) entries).getD .nil
  | false, list items => items[i]?.getD .nil
  | false, str text => (text.toList[i]?.map fun c => str (String.singleton c)).getD .nil
  | false, dict entries => (Bindings.find? (.int (Int64.ofNat i)) entries).getD .nil
  | _, _ => nil

/-- A position is a number of 64 bits. -/
def IsPosition (i : Nat) : Prop :=
  (i : Int) ≤ Int64.maxValue.toInt

theorem Operation.position?_ofNat {i : Nat} (h : IsPosition i) :
    position? (.ofNat i) = some i := by
  have hlimit : Int64.maxValue.toInt = 9223372036854775807 := by decide
  have hlt : i < 9223372036854775808 := by
    unfold IsPosition at h
    omega
  have hint : (Int64.ofNat i).toInt = i := Int64.toInt_ofNat_of_lt hlt
  unfold position? Value.ofNat Value.int?
  rw [Option.bind_some, hint, if_neg (by omega), Int.toNat_natCast]

theorem Operation.getOr_patternKey {i : Nat} (h : IsPosition i) (value : Value) (byName : Bool)
    (name : String) :
    getOr value (Evaluation.patternKey byName i name) .nil = value.part byName i name := by
  cases byName with
  | true => cases value <;> rfl
  | false =>
    have hposition : position? (Evaluation.patternKey false i name) = some i :=
      position?_ofNat h
    cases value with
    | list items =>
      show ((position? _).bind _).getD _ = _
      rw [hposition]
      rfl
    | str text =>
      show ((position? _).bind _).getD _ = _
      rw [hposition]
      rfl
    | _ => rfl

/-- The `get` of the prelude gives a pattern the parts of the value, and it never fails. -/
theorem Evaluation.call_get (hosts : Hosts) (evaluate : Context → Evaluator) (ref : Nat) {i : Nat}
    (h : IsPosition i)
    (value : Value) (byName : Bool) (name : String) (machine : Machine) :
    (Value.builtin ref (.operation .get)).call hosts evaluate
      [value, patternKey byName i name, .nil] machine = .ok (value.part byName i name) machine := by
  rw [call_operation hosts evaluate ref (by decide), ← Operation.getOr_patternKey h]
  rfl

/-- **With the `get` of the prelude, a pattern binds its names to the parts of the value**, each at
its own position, and nothing else happens. -/
theorem picksInTurn_get_iff {ref i : Nat} {nodes : List Node} (h : IsPosition (i + nodes.length)) :
    PicksInTurn config inner (.builtin ref (.operation .get)) value byName i nodes machine bound
        last ↔
      ∃ names : List String, nodes.map Node.identifier? = names.map some ∧
        bound = (names.zipIdx i).map (fun name => (name.1, value.part byName name.2 name.1)) ∧
        last = bound.foldl (fun m pair => m.define inner pair.1 pair.2) machine := by
  induction nodes generalizing i machine bound with
  | nil =>
    constructor
    · intro hpicks
      cases hpicks
      exact ⟨[], rfl, rfl, rfl⟩
    · rintro ⟨names, hnames, rfl, rfl⟩
      obtain rfl : names = [] := List.map_eq_nil_iff.mp hnames.symm
      exact .done
  | cons node nodes ih =>
    unfold IsPosition at h
    rw [List.length_cons] at h
    have hfirst : IsPosition i := by
      unfold IsPosition
      omega
    have hrest : IsPosition (i + 1 + nodes.length) := by
      unfold IsPosition
      omega
    constructor
    · intro hpicks
      cases hpicks with
      | @name _ _ _ name item bound _ between _ hname hitem hmore =>
        rw [Evaluation.call_get _ _ _ hfirst] at hitem
        cases hitem
        obtain ⟨names, hnames, rfl, rfl⟩ := (ih hrest).mp hmore
        refine ⟨name :: names, ?_, rfl, rfl⟩
        rw [List.map_cons, List.map_cons, hname, hnames]
    · rintro ⟨names, hnames, rfl, rfl⟩
      cases names with
      | nil => cases hnames
      | cons name names =>
        rw [List.map_cons, List.map_cons, List.cons.injEq] at hnames
        have hitem :=
          Evaluation.call_get config.hosts config.evaluators ref hfirst value byName name
          machine
        exact .name hnames.1 hitem ((ih hrest).mpr ⟨names, hnames.2, rfl, rfl⟩)

/-! ### Functions that are made and called -/

namespace Evaluation

/-- The form makes a function when it is evaluated. -/
inductive MakesFunction (form : Form) : Prop
  /-- It is written with a head. -/
  | headed {head : Node} (hform : HeadedBy form head)
    (hhead : IsName head SpecialForm.function.name)
  /-- It is inline. -/
  | inline (hunquoted : form.isQuoted = false) (hinline : form.inline = true)

theorem MakesFunction.evalForm {form : Form} (h : MakesFunction form)
    {evaluate : Context → Evaluator} {top : Bool} {frame : FrameId}
    (hok : evalForm config evaluate top form frame machine = .ok value last) :
    ∃ ref closure, value = .function ref closure ∧ closure.frame = frame := by
  cases h with
  | headed hform hhead =>
    have hspecial : SpecialForm.ofName? SpecialForm.function.name = some .function := by decide
    rw [CallSite.evalForm_eq hform, CallSite.evalHead_name .function hhead hspecial] at hok
    obtain ⟨_, _, -, h₁⟩ := Eval.of_bind_ok hok
    obtain ⟨parameters, _, -, h₂⟩ := Eval.of_bind_ok h₁
    obtain ⟨body, _, -, h₃⟩ := Eval.of_bind_ok h₂
    obtain ⟨ref, signature, rfl⟩ := of_makeFunction_ok h₃
    exact ⟨ref, _, rfl, rfl⟩
  | inline hunquoted hinline =>
    unfold Evaluation.evalForm at hok
    rw [hunquoted, hinline] at hok
    cases hok
    exact ⟨_, _, rfl, rfl⟩

/-- **A function is over the frame in which its form is evaluated.** -/
theorem MakesFunction.eval {form : Form} (h : MakesFunction form) {top : Bool} {frame : FrameId}
    (hok : form.toNode.eval config top frame machine = .ok value last) :
    ∃ ref closure, value = .function ref closure ∧ closure.frame = frame := by
  obtain ⟨-, inside, hinside, -⟩ := Node.of_eval_ok hok
  exact h.evalForm hinside

end Evaluation

/-! ### The body -/

/-- The parts of a `let`. -/
structure LetParts (form bindings : Form) (pairs : List (Node × Node)) (body : List Node) :
    Prop where
  /-- What is bound stands in a form in front of the body. -/
  tail : form.tail = bindings.toNode :: body
  /-- Targets and values stand there in turn. -/
  items : bindings.items = pairs.flatMap fun pair => [pair.1, pair.2]

/-- How a `let` goes on when its targets are bound, one after the other, and the machine is `last`
by then. -/
structure LetGoes (config : Config) (form : Form) (nodes : List Node) (frame : FrameId)
    (machine : Machine) (bound : List (String × Value)) (last : Machine) : Prop where
  /-- The body is evaluated in the copy. -/
  body (top : Bool) : Evaluation.evalForm config config.evaluators top form frame machine =
    Eval.body config.evaluator machine.frames.size .nil nodes last
  /-- A name has the last of the values that are bound to it, and a name that is not bound has the
  value that it has in the frame around. -/
  found (name : String) : last.lookup? machine.frames.size name =
    (Bindings.find? name bound.reverse).or (machine.lookup? frame name)
  /-- The frames that were there before are as they were. -/
  others : machine.Isolated last
  /-- Wherever the body calls a function over the copy, the function finds all that was bound. -/
  called {visit : Visit} {inside : Form} {call : Eval Value} {between : Machine} {ref : Nat}
    {closure : Closure} {args : List Value}
    (hmade : visit.IsMadeBy config
      (fun evaluate => Eval.body (evaluate config.toContext) machine.frames.size .nil nodes) last)
    (hnode : visit.node = inside.toNode)
    (hcall : Evaluation.CallSite (config.under visit.context) config.evaluators false inside
      visit.frame (visit.machine.inside visit.context visit.node) call between)
    (hclosure : (Value.function ref closure).IsCalledBy config.hosts config.evaluators args call)
    (hframe : closure.frame = machine.frames.size) :
    between.frame closure.frame = (machine.frame frame).insertAll bound ∧
      closure.CallGoes config args [] between (call between)

section Goes

variable {form : Form} {head : Node} {bindings : Form} {pairs : List (Node × Node)}
  {body : List Node} {count : Nat} {frame : FrameId}

theorem Evaluation.evalForm_let (hform : HeadedBy form head)
    (hhead : IsName head SpecialForm.letBind.name)
    (haccept : config.oracle "let" form.tail = .accept count)
    (hparts : LetParts form bindings pairs body) (evaluate : Context → Evaluator) (top : Bool) :
    evalForm config evaluate top form frame =
      letPairs config evaluate pairs body frame form.headLocation? := by
  have hspecial : SpecialForm.ofName? SpecialForm.letBind.name = some .letBind := by decide
  rw [CallSite.evalForm_eq hform, CallSite.evalHead_name .letBind hhead hspecial]
  exact CheckFree.letBind_eq haccept hparts.tail hparts.items

/-- **Targets that are bound in turn are bound for the body**, and for the functions that it
calls. -/
theorem BindsInTurn.letGoes (hwrites : config.hosts.WriteNothing)
    (hform : Evaluation.HeadedBy form head)
    (hhead : Evaluation.IsName head SpecialForm.letBind.name)
    (haccept : config.oracle "let" form.tail = .accept count)
    (hparts : LetParts form bindings pairs body)
    (h : BindsInTurn config machine.frames.size (machine.frame frame) pairs
      (machine.addFrame (machine.frame frame)) bound last) :
    LetGoes config form body frame machine bound last := by
  let start := machine.addFrame (machine.frame frame)
  have hadded : machine.Isolated start := .addFrame machine _
  have hsize : start.frames.size = machine.frames.size + 1 := machine.size_addFrame _
  have hinner : machine.frames.size < start.frames.size := by omega
  have hbinds : start.BindsAll last machine.frames.size bound := h.bindsAll hwrites hinner
  have hcopy : last.frame machine.frames.size = (machine.frame frame).insertAll bound := by
    rw [hbinds.bound, Machine.frame_addFrame]
  constructor
  · intro top
    have hoverlay : Eval.overlay frame [] machine = .ok machine.frames.size start := rfl
    have hpairs : Evaluation.bindPairs config config.evaluators machine.frames.size
        form.headLocation? pairs start = .ok () last :=
      Evaluation.bindPairs_of_bindsInTurn hwrites h hinner
    rw [Evaluation.evalForm_let hform hhead haccept hparts]
    unfold Evaluation.letPairs
    rw [Eval.bind_ok hoverlay, Eval.bind_ok hpairs]
    rfl
  · intro name
    unfold Machine.lookup?
    rw [hcopy, Bindings.find?_insertAll]
  · constructor
    · exact Nat.le_trans hadded.size hbinds.size
    · intro id hid
      rw [hbinds.others id (by omega) (by omega), hadded.frame id hid]
  · intro visit inside call between ref closure args hmade hnode hcall hclosure hframe
    -- from the last target to the call, nothing writes the copy
    have hvisit : last.Isolated visit.machine := Visit.isolated_of_body hwrites hmade
    have hentered : visit.machine.Isolated (visit.machine.inside visit.context visit.node) :=
      .of_frames_eq rfl
    have hwrites' : (config.under visit.context).hosts.WriteNothing := hwrites
    have hcalled : (visit.machine.inside visit.context visit.node).Isolated between :=
      Evaluation.CallSite.isolated hwrites' hcall
    have hbetween := (hvisit.trans hentered).trans hcalled
    have hexists : machine.frames.size < last.frames.size := Nat.lt_of_lt_of_le hinner hbinds.size
    constructor
    · rw [hframe, hbetween.frame_eq hexists, hcopy]
    · rw [hclosure.eq_call rfl]
      exact closure.callGoes config ref args [] between

end Goes

/-- **A `let` binds its targets one after the other in one frame.**  A form that the rules accept
has targets and their values in front of its body.  They are bound in turn in a copy of the frame
around, where each value is evaluated under what was bound before, and if that succeeds, the body is
evaluated there.  It finds the last of the values that are bound to a name, and so does every
function over the copy that it calls.  With the `get` of the prelude, a pattern binds its names to
the parts of the value.  A function is over the frame in which its form is evaluated. -/
theorem let_binds_in_turn (config : Config) (hrules : config.oracle = Rule.standard)
    (hwrites : config.hosts.WriteNothing) {form : Form} {head : Node}
    (hform : Evaluation.HeadedBy form head)
    (hhead : Evaluation.IsName head SpecialForm.letBind.name) {count : Nat}
    (haccept : config.oracle "let" form.tail = .accept count) (frame : FrameId)
    (machine : Machine) :
    let inner := machine.frames.size
    let start := machine.addFrame (machine.frame frame)
    (∃ bindings pairs body, LetParts form bindings pairs body) ∧
    (∀ (bindings : Form) (pairs : List (Node × Node)) (body : List Node),
      LetParts form bindings pairs body →
        (∀ last, Evaluation.bindTargets config config.evaluators inner form.headLocation?
            bindings.items start = .ok () last ↔
          ∃ bound, BindsInTurn config inner (machine.frame frame) pairs start bound last) ∧
        ∀ bound last, BindsInTurn config inner (machine.frame frame) pairs start bound last →
          LetGoes config form body frame machine bound last) ∧
    (∀ (ref : Nat) (value : Value) (byName : Bool) (nodes : List Node) (before after : Machine)
      (bound : List (String × Value)), IsPosition nodes.length →
      (PicksInTurn config inner (.builtin ref (.operation .get)) value byName 0 nodes before bound
          after ↔
        ∃ names : List String, nodes.map Node.identifier? = names.map some ∧
          bound = names.zipIdx.map (fun name => (name.1, value.part byName name.2 name.1)) ∧
          after = bound.foldl (fun m pair => m.define inner pair.1 pair.2) before)) ∧
    ∀ (form : Form) (id : FrameId) (before after : Machine) (value : Value),
      Evaluation.MakesFunction form →
      form.toNode.eval config false id before = .ok value after →
      ∃ ref closure, value = .function ref closure ∧ closure.frame = id := by
  intro inner start
  refine ⟨?_, ?_, ?_, ?_⟩
  · rw [hrules] at haccept
    obtain ⟨bindings, body, htail, heven⟩ := Rule.let_shape haccept
    obtain ⟨pairs, hitems⟩ := CheckFree.exists_pairs_of_even heven
    exact ⟨bindings, pairs, body, htail, hitems⟩
  · intro bindings pairs body hparts
    constructor
    · intro last
      have hinner : inner < start.frames.size := by
        have hsize : start.frames.size = machine.frames.size + 1 := machine.size_addFrame _
        omega
      have hcopy : start.frame inner = machine.frame frame := machine.frame_addFrame _
      rw [hparts.items, CheckFree.bindTargets_pairs, Evaluation.bindPairs_eq_ok_iff hwrites hinner,
        hcopy]
    · intro bound last h
      exact h.letGoes hwrites hform hhead haccept hparts
  · intro ref value byName nodes before after bound hpositions
    refine picksInTurn_get_iff ?_
    rwa [Nat.zero_add]
  · intro form id before after value hmakes hok
    exact hmakes.eval hok

/-- A function sees what is bound after it was made, by a pattern as well, and a name for which the
pattern finds nothing is nil. -/
theorem let_binds_in_turn_later :
    let word (text : String) : Node := .literal ⟨.identifier, text, default⟩ []
    let parameters : Form := { children := [word listConstructor] }
    let function : Form := { children := [word "fn", parameters.toNode, word "y"] }
    let pattern : Form := { children := [word listConstructor, word "a", word "b"] }
    let bindings : Form := { children := [word listConstructor, word "f", function.toNode,
      pattern.toNode, word "m", word "y", word "a"] }
    let call : Form := { children := [word "f"] }
    let form : Form := { children := [word "let", bindings.toNode, call.toNode] }
    let config : Config := {}
    let machine : Machine :=
      { frames := #[[("get", .builtin 0 (.operation .get)), ("m", .list [.int 1])]], nextRef := 1 }
    ∃ last between : Machine, ∃ closure : Closure, ∃ inner : Frame,
      Evaluation.evalForm config config.evaluators true form 0 machine =
        Eval.body config.evaluator 1 .nil [call.toNode] last ∧
      ["a", "b", "y", "m"].map (last.lookup? 1 ·) =
        [some (.int 1), some .nil, some (.int 1), some (.list [.int 1])] ∧
      (Value.function 1 closure).call config.hosts config.evaluators [] between =
        Eval.body config.evaluator 2 .nil [word "y"] (between.addFrame inner) ∧
      inner.find? "y" = some (.int 1) := by
  intro word parameters function pattern bindings call form config machine
  have hname (text : String) : Evaluation.IsName (word text) text := ⟨_, _, rfl, rfl, rfl, rfl⟩
  have hform : Evaluation.HeadedBy form (word "let") := ⟨rfl, rfl, rfl⟩
  have haccept : config.oracle "let" form.tail = .accept 2 := by decide
  obtain ⟨-, hgoes, hget, -⟩ := let_binds_in_turn config rfl
    (Hosts.basic_obey fun _ _ => trivial) hform (hname "let") haccept 0 machine
  have hparts : LetParts form bindings
      [(word "f", function.toNode), (pattern.toNode, word "m"), (word "y", word "a")]
      [call.toNode] := ⟨rfl, rfl⟩
  let closure : Closure :=
    { name := Evaluation.anonymous, signature := .named [] none, body := [word "y"], frame := 1,
      context := config.toContext, location := some default }
  let first : Machine := { machine.addFrame (machine.frame 0) with nextRef := 2 }
  let second := first.define 1 "f" (.function 1 closure)
  let third := (second.define 1 "a" (.int 1)).define 1 "b" .nil
  let last := third.define 1 "y" (.int 1)
  have hmade : Evaluation.evalNode config config.evaluators false function.toNode 1
      ((machine.addFrame (machine.frame 0)).inside config.toContext function.toNode) =
        .ok (.function 1 closure) (first.inside config.toContext function.toNode) := rfl
  have hfunction : function.toNode.eval config false 1 (machine.addFrame (machine.frame 0)) =
      .ok (.function 1 closure) first := Node.eval_ok ⟨rfl, by decide, by decide⟩ hmade
  have hm : (word "m").eval config false 1 second = .ok (.list [.int 1]) second :=
    Node.eval_name rfl rfl ⟨rfl, by decide, by decide⟩ rfl
  have ha : (word "a").eval config false 1 third = .ok (.int 1) third :=
    Node.eval_name rfl rfl ⟨rfl, by decide, by decide⟩ rfl
  have hf : (word "f").eval config false 1 (last.inside config.toContext call.toNode) =
      .ok (.function 1 closure) (last.inside config.toContext call.toNode) :=
    Node.eval_name rfl rfl ⟨rfl, by decide, by decide⟩ rfl
  have hitems : PicksInTurn config 1 (.builtin 0 (.operation .get)) (.list [.int 1]) pattern.isDict
      0 (Evaluation.patternNames pattern) second [("a", .int 1), ("b", .nil)] third :=
    (hget 0 (.list [.int 1]) false [word "a", word "b"] second third _
      (show (2 : Int) ≤ Int64.maxValue.toInt by decide)).mpr ⟨["a", "b"], rfl, rfl, rfl⟩
  have hpattern : pattern.toNode.form? = some pattern := rfl
  have hbinds : BindsInTurn config 1 (machine.frame 0)
      [(word "f", function.toNode), (pattern.toNode, word "m"), (word "y", word "a")]
      (machine.addFrame (machine.frame 0))
      (("f", .function 1 closure) :: ([("a", .int 1), ("b", .nil)] ++ [("y", .int 1)])) last :=
    .name rfl hfunction rfl rfl (.pattern rfl hm hpattern rfl hitems
      (.name rfl ha rfl rfl (.done rfl)))
  have hlet := (hgoes _ _ _ hparts).2 _ _ hbinds
  have hasked : (⟨config.toContext, call.toNode, 1, last⟩ : Visit).IsMadeBy config
      (fun evaluate => Eval.body (evaluate config.toContext) 1 .nil [call.toNode]) last :=
    .asked (Visit.isAskedBy_bind config.toContext call.toNode 1
      (fun e v => Eval.body (e config.toContext) 1 v []) _ last)
  let between := last.inside config.toContext call.toNode
  obtain ⟨hframe, hcalls⟩ := hlet.called hasked rfl
    (.call ⟨rfl, rfl, rfl⟩ ⟨rfl, rfl, rfl, rfl⟩ (.inl rfl) hf rfl) (.value (.itself _ _)) rfl
  obtain ⟨inner, hbody, hnames⟩ := hcalls.entered rfl
  have hy : (between.frame closure.frame).find? "y" = some (.int 1) := by
    rw [hframe]
    rfl
  have hresolves : closure.signature.Resolves [] [] (between.frame closure.frame) "y"
      ((between.frame closure.frame).find? "y") :=
    .captured (by decide) (by decide) (by decide)
  have hinner : (between.addFrame inner).lookup? 2 "y" = some (.int 1) := by
    rw [← hy]
    exact (hnames [] [word "y"] .nil (between.addFrame inner) rfl (.inl rfl) rfl "y" _).mpr
      hresolves
  have hfound : ["a", "b", "y", "m"].map (last.lookup? 1 ·) =
      [some (.int 1), some .nil, some (.int 1), some (.list [.int 1])] := by
    have hlast (name : String) : last.lookup? 1 name = _ := hlet.found name
    simp only [List.map_cons, List.map_nil, hlast]
    simp [Bindings.find?, Machine.lookup?, Machine.frame, machine]
  exact ⟨last, between, closure, inner, hlet.body true, hfound, hbody, hinner⟩

/-- A function that is made further inside, in a copy of the copy, is not over the copy of the `let`
around.  It does not find what is bound there later. -/
theorem let_binds_in_turn_not_inside :
    (evalAlone "(let [f (fn [] y) y 2] (f))" "").1.map Value.shown = .ok "2" ∧
    (evalAlone "(let [f (let [z 1] (fn [] y)) y 2] y)" "").1.map Value.shown = .ok "2" ∧
    (evalAlone "(let [f (let [z 1] (fn [] y)) y 2] (f))" "").1.map Value.shown =
      .error (.stop (.fault (.undefinedName "y" (some ⟨"", 1, 27⟩)))) :=
  ⟨by decide +kernel, by decide +kernel, by decide +kernel⟩

end FrameLisp
