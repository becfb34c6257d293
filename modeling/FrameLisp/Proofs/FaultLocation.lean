import FrameLisp.Proofs.CallSite
import FrameLisp.Proofs.Reading
import FrameLisp.Proofs.Visit

/-!
# Places of faults

A program that is read from a source has a place for each of its nodes, and all of these are places
of tokens.  Functions and exceptions keep the places of the nodes they come from, so after any
number of programs the places that are around in a session are those of the tokens read so far.
That is a `Policy`, under which no place may be missing (`Policy.located`), and it yields that no
fault of any node lacks a place.

The exceptions are interruptions, which come from outside of any program.  Of the functions and
objects of a host only those may be around that fail as a called function does, in a way that the
call repairs, or at places that they were given (`Hosts.PlaceFaults`).
-/

namespace FrameLisp

/-! ### Located faults -/

/-- The fault has one of the given places, unless it is an interruption. -/
def Fault.LocatedBy (place : Location → Prop) (fault : Fault) : Prop :=
  fault = .interrupted ∨ ∃ location, fault.location? = some location ∧ place location

/-- In some surroundings, only the given places may be around, and none may be missing. -/
def Policy.located (S : Surroundings) (place : Location → Prop) : Policy where
  toSurroundings := S
  place := place
  unplaced := False

namespace Policy

variable {P : Policy}

/-! ### Trees -/

/-- What is read from tokens at permitted places is permitted. -/
def reading (P : Policy) (limit : Nat) : Reading limit where
  token t := P.place t.location
  place := P.place
  property _ := True
  node _ := P.PermitsNode
  token_place h := h
  property_name _ _ _ _ := trivial
  property_quoted := trivial
  literal {t} h _ _ _ _ _ _ _ := by
    have hliteral : P.likeness.token t t := ⟨rfl, h⟩
    exact .literal hliteral _
  form {_} _ {_} hchildren {_} _ inline {location} hlocation := by
    have hplace : P.likeness.place (some location) (some location) := ⟨rfl, hlocation⟩
    exact .form (permitsNodes_iff.mpr hchildren) _ _ hplace

/-- More places may be around if more places are permitted. -/
theorem located_refines (S : Surroundings) {place place' : Location → Prop}
    (h : ∀ location, place location → place' location) :
    (located S place).likeness.Refines (located S place').likeness := by
  have hplaces : ∀ {a : Option Location}, (located S place).Places a →
      (located S place').Places a := by
    intro a ha
    cases a with
    | none => exact ha
    | some location => exact h location ha
  refine ⟨?_, ?_, id, id, id, id, ?_, id, id⟩
  · exact fun htoken => ⟨htoken.1, h _ htoken.2⟩
  · exact fun hplace => ⟨hplace.1, hplaces hplace.2⟩
  · exact fun hheld => ⟨hheld.1, hheld.2.1, fun hne => hplaces (hheld.2.2 hne)⟩

theorem locatedBy_of_places {S : Surroundings} {place : Location → Prop} {fault : Fault}
    (h : fault ≠ .interrupted → (located S place).Places fault.location?) :
    fault.LocatedBy place := by
  by_cases hinterrupted : fault = .interrupted
  · exact .inl hinterrupted
  · have hplace := h hinterrupted
    cases hlocation : fault.location? with
    | none =>
      rw [hlocation] at hplace
      exact False.elim hplace
    | some location =>
      rw [hlocation] at hplace
      exact .inr ⟨location, hlocation, hplace⟩

end Policy

/-! ### Sessions -/

/-- Sources by their text and the name of their file. -/
abbrev Sources := List (String × String)

/-- A place where one of the sources has a token. -/
def Sources.Place (sources : Sources) (location : Location) : Prop :=
  ∃ source ∈ sources, ∃ token ∈ Token.lex source.1 source.2, token.location = location

/-- A value that a host may hand to a session which has read some sources.  Its functions and
exceptions come from there, and whatever else there is in it may be around. -/
def Value.HandedIn (S : Surroundings) (sources : Sources) (value : Value) : Prop :=
  (Policy.located S sources.Place).PermitsValue value

/-- The functions and objects of a host that may be around fail in a way that a call repairs, or at
a place of a token.  Given values that come from some sources, they make no others. -/
def Hosts.PlaceFaults (hosts : Hosts) (S : Surroundings) : Prop :=
  ∀ sources : Sources, hosts.Respect (Policy.located S sources.Place).likeness

/-- The basic host has one function and one kind of objects that fail otherwise. -/
theorem Hosts.basic_placeFaults {S : Surroundings} (hfail : ¬ S.key "fail")
    (hobject : ∀ object, ¬ S.object object) : basic.PlaceFaults S := by
  intro sources
  refine Hosts.basic_respect (fun hb => ?_) (fun _ => trivial) fun {object} ho => ?_
  · exact absurd hb hfail
  · exact absurd ho (hobject object)

/-- The sessions that a host can get to, with the sources that were read on the way, the last one
first. -/
inductive Session.Reached (config : Config) (S : Surroundings) : Sources → Session → Prop
  /-- A new session. -/
  | start : Reached config S [] (Session.standard config)
  /-- A module is registered. -/
  | register {sources : Sources} {session : Session} (h : Reached config S sources session)
    (name : String) {value : Value} (hvalue : value.HandedIn S sources) :
    Reached config S sources (session.register name value)
  /-- A variable is bound from outside. -/
  | define {sources : Sources} {session : Session} (h : Reached config S sources session)
    (frame : FrameId) (name : String) {value : Value} (hvalue : value.HandedIn S sources) :
    Reached config S sources
      { session with machine := session.machine.define frame name value }
  /-- An interruption is asked for, or that is taken back. -/
  | interrupt {sources : Sources} {session : Session}
    (h : Reached config S sources session) (interrupted : Cells Bool) :
    Reached config S sources { session with machine := { session.machine with interrupted } }
  /-- A source is read and run. -/
  | evaluate {sources : Sources} {session : Session} (h : Reached config S sources session)
    (limit : Nat) (source file : String) :
    Reached config S ((source, file) :: sources) (session.evalWithin limit source file).2

namespace Session

variable {config : Config} {S : Surroundings} {sources : Sources} {session : Session}
  {place : Location → Prop}

/-- The trees of a source that can be read are permitted where its tokens are. -/
theorem permits_trees {limit : Nat} {source file : String}
    (hplace : ∀ token ∈ Token.lex source file, place token.location) {nodes : List Node}
    (h : Node.build limit (Token.lex source file) = .ok nodes) :
    ∀ node ∈ nodes, (Policy.located S place).PermitsNode node := by
  have hbuild := ((Policy.located S place).reading limit).gives_build hplace
  rw [h] at hbuild
  exact hbuild

theorem evalWithin_permitted (hcontext : S.context session.config.toContext)
    (hhosts : session.config.hosts.Respect (Policy.located S place).likeness)
    (hmachine : (Policy.located S place).PermitsMachine session.machine)
    (limit : Nat) {source file : String}
    (hplace : ∀ token ∈ Token.lex source file, place token.location) :
    (Policy.located S place).PermitsMachine
        (session.evalWithin limit source file).2.machine ∧
      ∀ fault, (session.evalWithin limit source file).1 = .error (.stop (.fault fault)) →
        fault.LocatedBy place := by
  let ready := (session.machine.noticing source file).roomFor session.config.maxDepth
  have hready : (Policy.located S place).PermitsMachine ready := hmachine.of_eq rfl rfl
  rw [evalWithin_eq]
  cases hbuild : Node.build limit (Token.lex source file) with
  | error misread =>
    refine ⟨hmachine.of_eq rfl rfl, fun fault hfault => ?_⟩
    cases hfault
  | ok nodes =>
    let P := Policy.located S place
    have hruns : P.correspondence.Alike P.correspondence.ValueAlike
        (Eval.program session.config root .nil nodes)
        (Eval.program (session.config.under session.config.toContext) root .nil nodes) :=
      P.enters.program ⟨rfl, hcontext⟩ hhosts P.reports ⟨rfl, trivial⟩ .nil
        (Policy.permitsNodes_iff.mpr (permits_trees hplace hbuild))
    have houtcome : P.PermitsOutcome (Eval.program session.config root .nil nodes ready) :=
      Policy.permitsOutcome_of_alike (hruns _ _ ⟨rfl, hready⟩)
    dsimp only
    cases hresult : Eval.program session.config root .nil nodes ready with
    | ok value machine =>
      rw [hresult] at houtcome
      refine ⟨houtcome.2, fun fault hfault => ?_⟩
      cases hfault
    | error stop machine =>
      rw [hresult] at houtcome
      refine ⟨houtcome.2, fun fault hfault => ?_⟩
      cases hfault
      exact Policy.locatedBy_of_places (houtcome.1 fault rfl)

/-- A source that cannot be read is misread at one of its tokens. -/
theorem misread_located {limit : Nat} {source file : String} {misread : Misread}
    (h : (session.evalWithin limit source file).1 = .error (.misread misread)) :
    Sources.Place [(source, file)] misread.location := by
  have hplace : ∀ token ∈ Token.lex source file, Sources.Place [(source, file)] token.location :=
    fun token htoken => ⟨(source, file), List.mem_singleton_self _, token, htoken, rfl⟩
  have hbuild :=
    ((Policy.located {} (Sources.Place [(source, file)])).reading limit).gives_build hplace
  rw [evalWithin_eq] at h
  cases hresult : Node.build limit (Token.lex source file) with
  | error blamed =>
    rw [hresult] at h hbuild
    cases h
    exact hbuild
  | ok nodes =>
    rw [hresult] at h
    dsimp only at h
    split at h <;> cases h

/-- **Along every session, only places of tokens are around.** -/
theorem Reached.permitted (h : Reached config S sources session)
    (hcontext : S.context config.toContext)
    (hhosts : config.hosts.Respect (Policy.located S place).likeness)
    (hplace : ∀ location, sources.Place location → place location) :
    (Policy.located S place).PermitsMachine session.machine ∧
      session.config = config := by
  have hrefines {sources : Sources}
      (hplace : ∀ location, sources.Place location → place location) :=
    Policy.located_refines S hplace
  induction h with
  | start =>
    refine ⟨Policy.standard_permits config fun _ => trivial, ?_⟩
    unfold standard
    dsimp only
    rw [run_config]
  | register h name hvalue ih =>
    obtain ⟨hmachine, hconfig⟩ := ih hplace
    have hallowed := (hrefines hplace).value hvalue
    have hmodules := (Policy.permitsBindings_iff.mp hmachine.modules).insert name hallowed
    exact ⟨⟨hmachine.frames, Policy.permitsBindings_iff.mpr hmodules, hmachine.fresh⟩, hconfig⟩
  | define h frame name hvalue ih =>
    obtain ⟨hmachine, hconfig⟩ := ih hplace
    exact ⟨hmachine.define frame name ((hrefines hplace).value hvalue), hconfig⟩
  | interrupt h interrupted ih =>
    obtain ⟨hmachine, hconfig⟩ := ih hplace
    exact ⟨hmachine.of_eq rfl rfl, hconfig⟩
  | @evaluate sources session h limit source file ih =>
    have hbefore : ∀ location, sources.Place location → place location := by
      rintro location ⟨earlier, hearlier, htoken⟩
      exact hplace location ⟨earlier, List.mem_cons_of_mem _ hearlier, htoken⟩
    have hhere : ∀ token ∈ Token.lex source file, place token.location :=
      fun token htoken => hplace _ ⟨(source, file), List.mem_cons_self, token, htoken, rfl⟩
    obtain ⟨hmachine, hconfig⟩ := ih hbefore
    rw [← hconfig] at hcontext hhosts
    refine ⟨(evalWithin_permitted hcontext hhosts hmachine limit hhere).1, ?_⟩
    rw [← hconfig, evalWithin_eq]
    split
    · rfl
    · split <;> rfl

/-! ### Variables -/

/-- What a variable is bound to is permitted. -/
theorem permits_lookup {machine : Machine}
    (h : (Policy.located S place).PermitsMachine machine) {frame : FrameId}
    {name : String} {value : Value} (hvalue : machine.lookup? frame name = some value) :
    (Policy.located S place).PermitsValue value := by
  have hfind := (Policy.permitsBindings_iff.mp (h.frames frame trivial)).find? name
  unfold Machine.lookup? at hvalue
  rw [hvalue] at hfind
  cases hfind with
  | some halike => exact halike

theorem exception_located {machine : Machine}
    (h : (Policy.located S place).PermitsMachine machine) {frame : FrameId}
    {name : String} {ref : Nat} {fault : Fault}
    (hvalue : machine.lookup? frame name = some (.exception ref fault)) :
    fault.LocatedBy place ∧ (fault = .interrupted → S.interrupts) := by
  have hpermits := permits_lookup h hvalue
  cases hpermits with
  | exception href hheld =>
    obtain ⟨-, hclass, hplace⟩ := hheld
    refine ⟨Policy.locatedBy_of_places hplace, fun hinterrupted => ?_⟩
    subst hinterrupted
    exact hclass rfl

theorem function_located {machine : Machine}
    (h : (Policy.located S place).PermitsMachine machine) {frame : FrameId}
    {name : String} {ref : Nat} {closure : Closure}
    (hvalue : machine.lookup? frame name = some (.function ref closure)) :
    ∃ location, closure.location = some location ∧ place location := by
  have hpermits := permits_lookup h hvalue
  cases hpermits with
  | function href hclosure =>
    obtain ⟨-, hplace⟩ := hclosure.location
    cases hlocation : closure.location with
    | none =>
      rw [hlocation] at hplace
      exact False.elim hplace
    | some location =>
      rw [hlocation] at hplace
      exact ⟨location, rfl, hplace⟩

end Session

/-! ### Every fault has a place -/

/-- The places of faults and functions when a source is read and run in a session that has read
other sources before. -/
structure Session.FaultsLocated (interrupts : Prop) (sources : Sources) (session : Session)
    (limit : Nat) (source file : String) : Prop where
  /-- A source that cannot be read is misread at one of its tokens. -/
  misread {misread : Misread}
    (h : (session.evalWithin limit source file).1 = .error (.misread misread)) :
    Sources.Place [(source, file)] misread.location
  /-- The fault that ends a program is at a token, unless it is an interruption. -/
  ending {fault : Fault}
    (h : (session.evalWithin limit source file).1 = .error (.stop (.fault fault))) :
    fault.LocatedBy (Sources.Place ((source, file) :: sources))
  /-- So is each fault of each node inside, whether it ends the program or is handled. -/
  inside {nodes : List Node} (hnodes : Node.build limit (Token.lex source file) = .ok nodes)
    {visit : Visit}
    (hvisit : visit.IsMadeBy session.config (Eval.programUsing session.config root .nil nodes)
      ((session.machine.noticing source file).roomFor session.config.maxDepth))
    {fault : Fault} {last : Machine}
    (h : visit.outcome session.config = .error (.fault fault) last) :
    fault.LocatedBy (Sources.Place ((source, file) :: sources))
  /-- So is each fault that a handler has bound to a variable, and an interruption is not among them
  unless its class is around. -/
  handled {frame : FrameId} {name : String} {ref : Nat} {fault : Fault}
    (h : (session.evalWithin limit source file).2.machine.lookup? frame name =
      some (.exception ref fault)) :
    fault.LocatedBy (Sources.Place ((source, file) :: sources)) ∧
      (fault = .interrupted → interrupts)
  /-- Each function that is bound to a variable was made at a token. -/
  made {frame : FrameId} {name : String} {ref : Nat} {closure : Closure}
    (h : (session.evalWithin limit source file).2.machine.lookup? frame name =
      some (.function ref closure)) :
    ∃ location, closure.location = some location ∧
      Sources.Place ((source, file) :: sources) location

/-- The places of functions, and of the faults of calls. -/
structure Evaluation.CallsLocated (config : Config) : Prop where
  /-- A function is made at the head of its form. -/
  function {form : Form} {frame : FrameId} {machine machine' : Machine} {value : Value}
    (h : function config form frame machine = .ok value machine') :
    MadeAt form.headLocation? value
  /-- So is a function with a name, unless the name is bound and to be left alone. -/
  defined {once : Bool} {form : Form} {frame : FrameId} {machine machine' : Machine} {value : Value}
    (h : defineFunction config once form frame machine = .ok value machine') :
    MadeAt form.headLocation? value ∨
      once = true ∧ ∃ name, machine.lookup? frame name = some value
  /-- A function that is given a wrong number of arguments is to blame where it was made, however it
  is called. -/
  arity {evaluate : Context → Evaluator} {top : Bool} {form : Form} {frame : FrameId}
    {machine machine₁ : Machine} {call : Eval Value} {ref : Nat} {closure : Closure}
    {args : List Value} {reason : String} {location : Location}
    (h : CallSite config evaluate top form frame machine call machine₁)
    (hcall : Value.IsCalledBy config.hosts evaluate (.function ref closure) args call)
    (hreason : closure.signature.arity.complaint? args.length = some reason)
    (hlocation : closure.location = some location) :
    evalForm config evaluate top form frame machine =
      .error (.fault (.arity closure.name reason (some location))) machine₁
  /-- A fault that a call leaves without a place gets that of the head of the form which calls. -/
  supplied {evaluate : Context → Evaluator} {top : Bool} {form : Form} {frame : FrameId}
    {machine machine₁ last : Machine} {call : Eval Value} {fault : Fault}
    (h : CallSite config evaluate top form frame machine call machine₁)
    (hfails : call machine₁ = .error (.fault fault) last) (hcalled : fault.isCalled = true) :
    evalForm config evaluate top form frame machine =
        .error (.fault (fault.orAt form.headLocation?)) last ∧
      (fault.orAt form.headLocation?).location? = form.headLocation?
  /-- A fault that has a place by then keeps it. -/
  kept {evaluate : Context → Evaluator} {top : Bool} {form : Form} {frame : FrameId}
    {machine machine₁ last : Machine} {call : Eval Value} {fault : Fault} {location : Location}
    (h : CallSite config evaluate top form frame machine call machine₁)
    (hfails : call machine₁ = .error (.fault fault) last)
    (hlocation : fault.location? = some location) :
    evalForm config evaluate top form frame machine = .error (.fault fault) last

theorem Evaluation.callsLocated (config : Config) : CallsLocated config where
  function := function_madeAt
  defined := defineFunction_madeAt
  arity := CallSite.arity_fault_eq
  supplied h hfails hcalled := ⟨h.fault_eq hfails, Fault.location?_orAt_of_isCalled hcalled _⟩
  kept h hfails hlocation := h.fault_eq_of_location hfails hlocation

/-- **Every fault of a program that was read from a source has a place**, which is that of a token
of one of the sources read so far, if the functions and objects of the host that may be around fail
in a way that a call repairs or at such a place.  The fault of a function that was given a wrong
number of arguments is where the function was made, and a fault that a builtin leaves without a
place is where the innermost form is that calls. -/
theorem Session.Reached.faultsLocated {config : Config} {S : Surroundings} {sources : Sources}
    {session : Session} (h : session.Reached config S sources)
    (hcontext : S.context config.toContext) (hhosts : config.hosts.PlaceFaults S) (limit : Nat)
    (source file : String) :
    session.FaultsLocated S.interrupts sources limit source file ∧
      ∀ context, Evaluation.CallsLocated (config.under context) := by
  have hbefore : ∀ location, sources.Place location →
      Sources.Place ((source, file) :: sources) location := by
    rintro location ⟨earlier, hearlier, htoken⟩
    exact ⟨earlier, List.mem_cons_of_mem _ hearlier, htoken⟩
  have hhere : ∀ token ∈ Token.lex source file,
      Sources.Place ((source, file) :: sources) token.location :=
    fun token htoken => ⟨(source, file), List.mem_cons_self, token, htoken, rfl⟩
  -- the places of the new source are added to those that may be around
  let P := Policy.located S (Sources.Place ((source, file) :: sources))
  have hrespect : config.hosts.Respect P.likeness := hhosts ((source, file) :: sources)
  obtain ⟨hmachine, rfl⟩ := h.permitted hcontext hrespect hbefore
  obtain ⟨hafter, hending⟩ := evalWithin_permitted hcontext hrespect hmachine limit hhere
  refine ⟨?_, fun context => Evaluation.callsLocated _⟩
  constructor
  case misread => exact misread_located
  case ending => exact fun {fault} => hending fault
  case inside =>
    intro nodes hnodes visit hvisit fault last hfault
    have hready : P.PermitsMachine
        ((session.machine.noticing source file).roomFor session.config.maxDepth) :=
      hmachine.of_eq rfl rfl
    have hfollows : P.Follows session.config.hosts
        (Eval.programUsing session.config root .nil nodes) :=
      Policy.follows_programUsing hcontext trivial .nil (permits_trees hhere hnodes)
    have houtcome := (hfollows.permitsVisit hrespect hready hvisit).outcome hrespect
    rw [hfault] at houtcome
    exact Policy.locatedBy_of_places (houtcome.1 fault rfl)
  case handled => exact exception_located hafter
  case made => exact function_located hafter

/-- A function of the host that raises is bound to a variable.  Then one source defines a function
that calls it, and another source calls that. -/
theorem Session.Reached.faultsLocated_two_sources :
    let S : Surroundings := { key := (· ≠ "fail"), object := fun _ => False, interrupts := False }
    let raise : Value := .builtin 100 (.host "boom" 0 "raise")
    let start := Session.standard {}
    let session := { start with machine := start.machine.define root "boom" raise }
    Hosts.basic.PlaceFaults S ∧
      Session.FaultsLocated False [("(defn f [] (boom))", "a")]
        (session.evalWithin 100 "(defn f [] (boom))" "a").2 100 "(f)" "b" ∧
      ∀ context, Evaluation.CallsLocated (({} : Config).under context) := by
  intro S raise start session
  have hhosts : Hosts.basic.PlaceFaults S := Hosts.basic_placeFaults (not_not_intro rfl) fun _ => id
  have hraise : raise.HandedIn S [] := .builtin rfl (show "raise" ≠ "fail" by decide)
  have hreached : Reached {} S [] session := Reached.start.define root "boom" hraise
  exact ⟨hhosts, (hreached.evaluate 100 "(defn f [] (boom))" "a").faultsLocated trivial hhosts 100
    "(f)" "b"⟩

end FrameLisp
