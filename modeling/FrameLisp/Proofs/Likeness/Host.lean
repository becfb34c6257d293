import FrameLisp.Proofs.HostCode
import FrameLisp.Proofs.Likeness

/-!
# Likeness of the code of a host

Code of a host is alike in two runs if it makes the same requests, with values that are alike, and
goes on alike from answers that are.  It may read only variables that have to be alike, and only
counters that are.  Where no class for interruptions is around, no program handles an interruption,
and neither may the code: what interrupts a call that it makes, it passes on.

A host respects a likeness if its functions and methods run code that is alike for arguments that
are (`Hosts.Respect`).  The basic host respects whatever allows for its faults and its counter.  A
likeness under which everything is alike to itself alone (`Likeness.Identity`) is respected by every
host.
-/

namespace FrameLisp

variable {L : Likeness}

/-- Faults that may come of the same call in two runs. -/
inductive Fault.CallAlike (L : Likeness) : Fault → Fault → Prop
  /-- It has been said where. -/
  | settled {fault fault' : Fault} (h : fault.Alike L.place fault') : CallAlike L fault fault'
  /-- The call has not supplied a place yet. -/
  | called {fault : Fault} (h : fault.isCalled = true) : CallAlike L fault fault
  /-- The call was interrupted. -/
  | interrupted : CallAlike L .interrupted .interrupted

/-- Code that makes the same requests. -/
inductive HostCode.Alike (L : Likeness) : HostCode → HostCode → Prop
  /-- Values that are alike. -/
  | give {value value' : Value} (h : value.Alike L value') : Alike L (.give value) (.give value')
  /-- Faults that are alike. -/
  | fail {fault fault' : Fault} (h : fault.CallAlike L fault') :
    Alike L (.fail fault) (.fail fault')
  /-- A call. -/
  | call {callee callee' : Value} (hcallee : callee.Alike L callee') {args args' : List Value}
    (hargs : Value.AllAlike L args args') {next next' : Except Fault Value → HostCode}
    (hok : ∀ {value value'}, value.Alike L value' → Alike L (next (.ok value)) (next' (.ok value')))
    (herror : ∀ {fault fault'}, fault.CallAlike L fault' →
      Alike L (next (.error fault)) (next' (.error fault')))
    (hpass : ¬ L.errorClass .interrupt → next (.error .interrupted) = .fail .interrupted) :
    Alike L (.call callee args next) (.call callee' args' next')
  /-- The same line. -/
  | print (text : String) {next next' : HostCode} (h : Alike L next next') :
    Alike L (.print text next) (.print text next')
  /-- The same flag. -/
  | interrupt (flag : Nat) (interrupted : Bool) {next next' : HostCode} (h : Alike L next next') :
    Alike L (.interrupt flag interrupted next) (.interrupt flag interrupted next')
  /-- A counter that may be read. -/
  | depth {counter : Nat} (hcounter : L.counter counter) {next next' : Nat → HostCode}
    (h : ∀ depth, Alike L (next depth) (next' depth)) :
    Alike L (.depth counter next) (.depth counter next')
  /-- A new `ref`. -/
  | fresh {next next' : Nat → HostCode}
    (h : ∀ {ref ref'}, L.ref ref ref' → Alike L (next ref) (next' ref')) :
    Alike L (.fresh next) (.fresh next')
  /-- A variable that has to be alike. -/
  | lookup {frame frame' : FrameId} (hframe : L.frame frame frame') {name : String}
    (hname : L.visible name) {next next' : Option Value → HostCode}
    (h : ∀ {found found'}, Option.Rel (Value.Alike L) found found' →
      Alike L (next found) (next' found')) :
    Alike L (.lookup frame name next) (.lookup frame' name next')
  /-- A definition. -/
  | define {frame frame' : FrameId} (hframe : L.frame frame frame') (name : String)
    {value value' : Value} (hvalue : value.Alike L value') {next next' : HostCode}
    (h : Alike L next next') :
    Alike L (.define frame name value next) (.define frame' name value' next')

namespace Hosts

/-- What a host adds acts alike on what is alike. -/
structure Respect (hosts : Hosts) (L : Likeness) : Prop where
  /-- The functions that may be around. -/
  function {name : String} {arity : Int} {key : String} (h : L.builtin (.host name arity key))
    {args args' : List Value} (hargs : Value.AllAlike L args args') :
    (hosts.function key args).Alike L (hosts.function key args')
  /-- The methods of the objects that may be around. -/
  method {object : HostObject} (h : L.object object) {name : String}
    (hname : hosts.has object name = true) {args args' : List Value}
    (hargs : Value.AllAlike L args args') :
    (hosts.method object name args).Alike L (hosts.method object name args')

/-- **The basic host respects a likeness** under which its own faults need no place and its own
counter may be read, as far as it has functions that fail or that read the counter. -/
theorem basic_respect
    (hfail : ∀ {name arity}, L.builtin (.host name arity "fail") → L.place none none)
    (hdepth : ∀ {name arity}, L.builtin (.host name arity "depth") → L.counter 0)
    (hprobe : ∀ {object}, L.object object → L.place none none) : basic.Respect L where
  function {name arity key} h args args' hargs := by
    show (basicFunction key args).Alike L (basicFunction key args')
    unfold basicFunction
    split
    · cases hargs with
      | nil => exact .give .nil
      | cons harg hargs => exact .give harg
    · exact .give (.list hargs)
    · rw [hargs.length_eq]
      exact .give (.int _)
    · exact .fail (.settled (.mistyped _ (hfail h)))
    · exact .fail (.called rfl)
    · cases hargs with
      | cons hcallee hrest =>
        exact .call hcallee hrest .give .fail fun _ => rfl
    · exact .interrupt _ _ (.give .nil)
    · exact .depth (hdepth h) fun _ => .give (.int _)
    · split
      case h_6 =>
        -- the arguments are empty in both runs, or in none
        rename_i hempty
        cases hargs
        exact (hempty _ _ rfl rfl).elim
      all_goals first | exact .give .nil | contradiction
  method {object} h name hname args args' hargs := by
    show (probeMethod object.key name args).Alike L (probeMethod object.key name args')
    unfold probeMethod
    split
    · exact .give (.str _)
    · exact .give (.list hargs)
    · exact .fail (.settled (.unbound _ (hprobe h)))
    · exact .fail (.called rfl)

end Hosts

/-! ### The same code -/

/-- Everything that code can meet is alike to itself, and to nothing else. -/
structure Likeness.Identity (L : Likeness) : Prop where
  /-- Values. -/
  value {value value' : Value} : value.Alike L value' ↔ value' = value
  /-- Places. -/
  place {a a' : Option Location} : L.place a a' ↔ a' = a
  /-- Numbers of frames. -/
  frame {id id' : FrameId} : L.frame id id' ↔ id' = id
  /-- `ref`s. -/
  ref {r r' : Nat} : L.ref r r' ↔ r' = r
  /-- All variables may be read. -/
  visible (name : String) : L.visible name
  /-- All counters may be read. -/
  counter (n : Nat) : L.counter n
  /-- Interruptions may be handled. -/
  errorClass : L.errorClass .interrupt

namespace Likeness.Identity

variable (hL : L.Identity)

include hL

theorem values {values values' : List Value} :
    Value.AllAlike L values values' ↔ values' = values := by
  constructor
  · intro h
    induction h with
    | nil => rfl
    | cons hvalue _ ih => rw [hL.value.mp hvalue, ih]
  · rintro rfl
    exact List.forall₂_same.mpr fun value _ => hL.value.mpr rfl

theorem fault {fault fault' : Fault} : fault.CallAlike L fault' ↔ fault' = fault := by
  constructor
  · intro h
    cases h with
    | settled h => exact h.eq_of_place hL.place.mp
    | called h => rfl
    | interrupted => rfl
  · rintro rfl
    by_cases h : fault' = .interrupted
    · rw [h]
      exact .interrupted
    · exact .settled (.self (fun _ => hL.place.mpr rfl) h)

/-- Code goes on alike from the same answers, as there are no others. -/
theorem code (code : HostCode) : code.Alike L code := by
  induction code with
  | give value => exact .give (hL.value.mpr rfl)
  | fail fault => exact .fail (hL.fault.mpr rfl)
  | call callee args next ih =>
    refine .call (hL.value.mpr rfl) (hL.values.mpr rfl) (fun hvalue => ?_) (fun hfault => ?_)
      fun hno => absurd hL.errorClass hno
    · obtain rfl := hL.value.mp hvalue
      exact ih _
    · obtain rfl := hL.fault.mp hfault
      exact ih _
  | print text next ih => exact .print text ih
  | interrupt flag interrupted next ih => exact .interrupt flag interrupted ih
  | depth counter next ih => exact .depth (hL.counter counter) ih
  | fresh next ih =>
    refine .fresh fun href => ?_
    obtain rfl := hL.ref.mp href
    exact ih _
  | lookup frame name next ih =>
    refine .lookup (hL.frame.mpr rfl) (hL.visible name) fun {found found'} hfound => ?_
    have hsame : found' = found := by
      cases hfound with
      | none => rfl
      | some hvalue => rw [hL.value.mp hvalue]
    obtain rfl := hsame
    exact ih _
  | define frame name value next ih =>
    exact .define (hL.frame.mpr rfl) name (hL.value.mpr rfl) ih

/-- **Every host respects the identity.** -/
theorem respect (hosts : Hosts) : hosts.Respect L where
  function {name arity key} h args args' hargs := by
    rw [hL.values.mp hargs]
    exact hL.code _
  method {object} h name hname args args' hargs := by
    rw [hL.values.mp hargs]
    exact hL.code _

end Likeness.Identity

end FrameLisp
