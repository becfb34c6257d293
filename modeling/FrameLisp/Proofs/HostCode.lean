import FrameLisp.Call
import FrameLisp.Proofs.CallFault

/-!
# What is asked of the code of a host

Nothing is known of a host but its table.  A property of evaluation that its code could break holds
under a condition on the code, with one clause for each request.  `HostCode.Obeys` is the condition
on what the code fails with and on the frames it writes; conditions that only some property needs
stand beside it.  The basic host meets them all.
-/

namespace FrameLisp

namespace HostCode

/-- The code fails with faults of a kind only, as long as the values it calls do, and binds
variables in certain frames only. -/
def Obeys (fails : Fault → Prop) (writes : FrameId → Prop) : HostCode → Prop
  | give _ => True
  | fail fault => fails fault
  | call _ _ next => ∀ answer, (∀ fault, answer = .error fault → fails fault) →
      (next answer).Obeys fails writes
  | print _ next => next.Obeys fails writes
  | interrupt _ _ next => next.Obeys fails writes
  | depth _ next => ∀ n, (next n).Obeys fails writes
  | fresh next => ∀ ref, (next ref).Obeys fails writes
  | lookup _ _ next => ∀ found, (next found).Obeys fails writes
  | define frame _ _ next => writes frame ∧ next.Obeys fails writes

variable {fails : Fault → Prop} {writes : FrameId → Prop}

/-- If all faults and all frames are fine, so is all code. -/
theorem obeys_of_forall (hfails : ∀ fault, fails fault) (hwrites : ∀ frame, writes frame)
    (code : HostCode) : code.Obeys fails writes := by
  induction code with
  | give value => trivial
  | fail fault => exact hfails fault
  | call callee args next ih => exact fun answer _ => ih answer
  | print text next ih => exact ih
  | interrupt flag interrupted next ih => exact ih
  | depth counter next ih => exact ih
  | fresh next ih => exact ih
  | lookup frame name next ih => exact ih
  | define frame name value next ih => exact ⟨hwrites frame, ih⟩

/-- Code that writes nothing writes in frames of any kind only. -/
theorem Obeys.mono_writes {writes' : FrameId → Prop} {code : HostCode}
    (h : code.Obeys fails writes) (hwrites : ∀ frame, writes frame → writes' frame) :
    code.Obeys fails writes' := by
  induction code with
  | give value => trivial
  | fail fault => exact h
  | call callee args next ih => exact fun answer hanswer => ih answer (h answer hanswer)
  | print text next ih => exact ih h
  | interrupt flag interrupted next ih => exact ih h
  | depth counter next ih => exact fun n => ih n (h n)
  | fresh next ih => exact fun ref => ih ref (h ref)
  | lookup frame name next ih => exact fun found => ih found (h found)
  | define frame name value next ih => exact ⟨hwrites frame h.1, ih h.2⟩

end HostCode

namespace Hosts

/-- The functions and the methods of a host obey. -/
structure Obey (hosts : Hosts) (fails : Fault → Prop) (writes : FrameId → Prop) : Prop where
  /-- Every function obeys, whatever its arguments. -/
  function (key : String) (args : List Value) : (hosts.function key args).Obeys fails writes
  /-- Every method obeys. -/
  method (object : HostObject) (name : String) (args : List Value) :
    (hosts.method object name args).Obeys fails writes

/-- The functions and the methods of a host bind no variable. -/
abbrev WriteNothing (hosts : Hosts) : Prop :=
  hosts.Obey (fun _ => True) fun _ => False

variable {hosts : Hosts} {fails : Fault → Prop} {writes : FrameId → Prop}

theorem obey_of_forall (hfails : ∀ fault, fails fault) (hwrites : ∀ frame, writes frame) :
    hosts.Obey fails writes where
  function _ _ := HostCode.obeys_of_forall hfails hwrites _
  method _ _ _ := HostCode.obeys_of_forall hfails hwrites _

theorem Obey.mono_writes {writes' : FrameId → Prop} (h : hosts.Obey fails writes)
    (hwrites : ∀ frame, writes frame → writes' frame) : hosts.Obey fails writes' where
  function key args := (h.function key args).mono_writes hwrites
  method object name args := (h.method object name args).mono_writes hwrites

theorem WriteNothing.obey (h : hosts.WriteNothing) : hosts.Obey (fun _ => True) writes :=
  h.mono_writes fun _ hno => hno.elim

/-- The basic host fails with plain faults of its own and writes nothing. -/
theorem basic_obey (hfails : ∀ fault, fault.isPlain = true → fails fault) :
    basic.Obey fails writes where
  function key args := by
    show (basicFunction key args).Obeys fails writes
    unfold basicFunction
    split
    case h_4 => exact hfails _ rfl
    case h_5 => exact hfails _ rfl
    case h_6 =>
      intro answer hanswer
      cases answer with
      | ok value => trivial
      | error fault => exact hanswer fault rfl
    case h_8 => exact fun _ => trivial
    all_goals trivial
  method object name args := by
    show (probeMethod object.key name args).Obeys fails writes
    unfold probeMethod
    split
    · trivial
    · trivial
    · exact hfails _ rfl
    · exact hfails _ rfl

end Hosts

end FrameLisp
