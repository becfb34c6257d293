import FrameLisp.Proofs.Contract

/-!
# What the end of a computation says about its steps

A sequence that has a value went through all of its steps, and the steps that only look at something
left the machine as it was.  Each kind of step has its lemma here: from the outcome of the step to
what it found.
-/

namespace FrameLisp

variable {α β : Type} {machine machine' : Machine}

namespace Eval

theorem bind_ok {x : Eval α} {f : α → Eval β} {a : α} (h : x machine = .ok a machine') :
    (x >>= f) machine = f a machine' := by
  rw [bind_eq, h]

theorem bind_error {x : Eval α} {f : α → Eval β} {stop : Stop}
    (h : x machine = .error stop machine') : (x >>= f) machine = .error stop machine' := by
  rw [bind_eq, h]

/-- A sequence that has a value went through its first part. -/
theorem of_bind_ok {x : Eval α} {f : α → Eval β} {b : β} (h : (x >>= f) machine = .ok b machine') :
    ∃ a between, x machine = .ok a between ∧ f a between = .ok b machine' := by
  rw [bind_eq] at h
  cases hx : x machine with
  | error stop between =>
    rw [hx] at h
    cases h
  | ok a between =>
    rw [hx] at h
    exact ⟨a, between, rfl, h⟩

theorem of_inBounds_ok {found : Option α} {a : α} (h : inBounds found machine = .ok a machine') :
    found = some a ∧ machine' = machine := by
  cases found with
  | none => cases h
  | some b =>
    cases h
    exact ⟨rfl, rfl⟩

theorem of_ofExcept_ok {x : Except Stop α} {a : α} (h : ofExcept x machine = .ok a machine') :
    x = .ok a ∧ machine' = machine := by
  cases x with
  | error stop => cases h
  | ok b =>
    cases h
    exact ⟨rfl, rfl⟩

theorem of_identifier_ok {form : String} {node : Node} {name : String}
    (h : identifier form node machine = .ok name machine') :
    node.identifier? = some name ∧ machine' = machine := by
  obtain ⟨hlift, hmachine⟩ := of_ofExcept_ok h
  refine ⟨?_, hmachine⟩
  unfold Node.identifierFor at hlift
  cases hname : node.identifier? with
  | none =>
    rw [hname] at hlift
    cases hlift
  | some found =>
    rw [hname] at hlift
    cases hlift
    rfl

/-- Whether a computation has a value does not depend on the location that its faults get. -/
theorem located_eq_ok_iff {location : Option Location} {x : Eval α} {a : α} :
    located location x machine = .ok a machine' ↔ x machine = .ok a machine' := by
  unfold located
  cases x machine with
  | ok b last => rfl
  | error stop last =>
    cases stop with
    | fault fault => simp
    | outOfBounds => rfl
    | outOfLevels => rfl

theorem located_error {x : Eval α} {location : Option Location} {fault : Fault}
    (h : x machine = .error (.fault fault) machine') :
    located location x machine = .error (.fault (fault.orAt location)) machine' := by
  unfold located
  rw [h]

end Eval

theorem Config.of_validate_ok {config : Config} {rule : String} {nodes : List Node}
    {location : Option Location} {u : Unit}
    (h : config.validate rule nodes location machine = .ok u machine') :
    (∃ count, config.oracle rule nodes = .accept count) ∧ machine' = machine := by
  unfold validate at h
  cases hverdict : config.oracle rule nodes with
  | accept count =>
    rw [hverdict] at h
    cases h
    exact ⟨⟨count, rfl⟩, rfl⟩
  | reject reason =>
    rw [hverdict] at h
    cases h

/-- What is bound comes from the computation, unless the variable is bound already. -/
theorem Evaluation.of_defineBy_ok {once : Bool} {frame : FrameId} {name : String}
    {compute : Eval Value} {value : Value}
    (h : defineBy once frame name compute machine = .ok value machine') :
    (once = true ∧ machine.lookup? frame name = some value ∧ machine' = machine) ∨
      ((once = false ∨ machine.lookup? frame name = none) ∧
        ∃ last, compute machine = .ok value last ∧ machine' = last.define frame name value) := by
  have hcompute : (compute >>= fun value => Eval.define frame name value >>= fun _ => pure value :
        Eval Value) machine = .ok value machine' →
      ∃ last, compute machine = .ok value last ∧ machine' = last.define frame name value := by
    intro h
    obtain ⟨computed, last, hcomputed, hdefined⟩ := Eval.of_bind_ok h
    cases hdefined
    exact ⟨last, hcomputed, rfl⟩
  obtain ⟨found, between, hfound, h⟩ := Eval.of_bind_ok h
  cases hfound
  cases hlookup : machine.lookup? frame name with
  | none =>
    rw [hlookup] at h
    exact .inr ⟨.inr rfl, hcompute h⟩
  | some existing =>
    rw [hlookup] at h
    cases once with
    | false => exact .inr ⟨.inl rfl, hcompute h⟩
    | true =>
      cases h
      exact .inl ⟨rfl, rfl, rfl⟩

/-! ### Sessions -/

namespace Session

theorem run_machine (session : Session) (x : Eval α) :
    (session.run x).2.machine = x.after session.machine := by
  unfold run Eval.after
  cases x session.machine with
  | ok a machine => rfl
  | error stop machine => rfl

theorem run_config (session : Session) (x : Eval α) :
    (session.run x).2.config = session.config := by
  unfold run
  cases x session.machine with
  | ok a machine => rfl
  | error stop machine => rfl

end Session

/-- A machine that has reported all that was left out of a source. -/
def Machine.noticing (machine : Machine) (source file : String) : Machine :=
  let notices := (Token.notices source file).map Event.notice
  { machine with events := machine.events ++ notices.toArray }

/-- A machine with room for a number of levels, or for more. -/
def Machine.roomFor (machine : Machine) (levels : Nat) : Machine :=
  { machine with room := max levels machine.room }

/-- The machines are the same but for what was reported. -/
def Machine.SameButEvents (m m' : Machine) : Prop :=
  m' = { m with events := m'.events }

theorem Machine.SameButEvents.trans {first second third : Machine}
    (h : first.SameButEvents second) (h' : second.SameButEvents third) :
    first.SameButEvents third := by
  unfold SameButEvents at h'
  rw [h] at h'
  exact h'

/-- Trees run where there is room for them. -/
theorem Session.evalNodes_eq (session : Session) (nodes : List Node) :
    session.evalNodes nodes =
      match Eval.program session.config root .nil nodes
          (session.machine.roomFor session.config.maxDepth) with
      | .ok value machine => (.ok value, { session with machine })
      | .error stop machine => (.error stop, { session with machine }) := by
  have hroom : (Eval.makeRoom session.config.maxDepth >>= fun _ =>
        Eval.program session.config root .nil nodes) session.machine =
      Eval.program session.config root .nil nodes
        (session.machine.roomFor session.config.maxDepth) := rfl
  unfold evalNodes run
  rw [hroom]
  cases Eval.program session.config root .nil nodes
      (session.machine.roomFor session.config.maxDepth) with
  | ok value machine => rfl
  | error stop machine => rfl

/-- **A source is read as a whole before any of it runs.** -/
theorem Session.evalWithin_eq (session : Session) (limit : Nat) (source file : String) :
    session.evalWithin limit source file =
      match Node.build limit (Token.lex source file) with
      | .error misread =>
        (.error (.misread misread),
          { session with machine := session.machine.noticing source file })
      | .ok nodes =>
        match Eval.program session.config root .nil nodes
            ((session.machine.noticing source file).roomFor session.config.maxDepth) with
        | .ok value machine => (.ok value, { session with machine })
        | .error stop machine => (.error (.stop stop), { session with machine }) := by
  have hread : session.read limit source file =
      (Node.build limit (Token.lex source file),
        { session with machine := session.machine.noticing source file }) := rfl
  unfold evalWithin
  rw [hread]
  cases Node.build limit (Token.lex source file) with
  | error misread => rfl
  | ok nodes =>
    dsimp only
    rw [evalNodes_eq]
    dsimp only
    cases Eval.program session.config root .nil nodes
      ((session.machine.noticing source file).roomFor session.config.maxDepth) with
    | ok value machine => rfl
    | error stop machine => rfl

end FrameLisp
