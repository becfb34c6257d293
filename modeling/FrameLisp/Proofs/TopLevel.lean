import FrameLisp.Proofs.CallSite
import FrameLisp.Proofs.FrameIsolation
import FrameLisp.Proofs.Visit

/-!
# Effects at the top level

A program changes the frame it runs in by definitions only, and by one of them for each of its trees
at most.  `TopLevel.Outcome` lists the ways in which a tree can end: it fails, it is no definition,
it is a definition of something that is defined already and to be left alone, or it binds one
variable.  In all but the last case every frame is left as it was, so a failed definition has not
happened at all.

Why this is so: what a definition computes is evaluated below the top level, where frames that exist
are isolated (`Contract.isolation`), and the steps before that only look at things
(`Eval.ReadsOnly`).  The variable is bound last, and that cannot fail.  A tree that is no definition
is evaluated as it would be below the top level (`TopLevel.evalNode_eq_nested`).

From one tree to the next, a program is the list of the definitions it has made
(`TopLevel.Runs`).
-/

namespace FrameLisp

/-! ### Frames that change in one variable -/

theorem Bindings.keys_isPrefix_insertAll {κ ν : Type} [DecidableEq κ] (bindings : Bindings κ ν)
    (pairs : List (κ × ν)) :
    Bindings.keys bindings <+: Bindings.keys (Bindings.insertAll bindings pairs) := by
  unfold Bindings.insertAll
  induction pairs generalizing bindings with
  | nil => exact List.prefix_refl _
  | cons pair pairs ih =>
    have hinsert : Bindings.keys bindings <+:
        Bindings.keys (Bindings.insert pair.1 pair.2 bindings) := by
      rw [Bindings.keys_insert]
      split
      · exact List.prefix_refl _
      · exact List.prefix_append _ _
    rw [List.foldl_cons]
    exact hinsert.trans (ih (Bindings.insert pair.1 pair.2 bindings))

/-- The frames that exist stay as they are, but for one variable that is bound in one of them. -/
structure Machine.Binds (machine machine' : Machine) (frame : FrameId) (name : String)
    (value : Value) : Prop where
  /-- No frame is lost. -/
  size : machine.frames.size ≤ machine'.frames.size
  /-- The variable is bound. -/
  bound : machine'.frame frame = Bindings.insert name value (machine.frame frame)
  /-- Every other frame that existed is the same. -/
  others : ∀ id < machine.frames.size, id ≠ frame → machine'.frames[id]? = machine.frames[id]?

theorem Machine.Isolated.binds {first second : Machine} (h : first.Isolated second)
    {frame : FrameId} (hframe : frame < first.frames.size) (name : String) (value : Value) :
    first.Binds (second.define frame name value) frame name value where
  size := by
    show first.frames.size ≤ (second.frames.modify frame _).size
    rw [Array.size_modify]
    exact h.size
  bound := by
    have hexists : frame < second.frames.size := Nat.lt_of_lt_of_le hframe h.size
    have hsame := h.frame_eq hframe
    unfold Machine.frame at hsame ⊢
    unfold Machine.define
    rw [Array.getElem?_modify, if_pos rfl, ← hsame, Array.getElem?_eq_getElem hexists]
    rfl
  others id hid hne := by
    show (second.frames.modify frame _)[id]? = _
    rw [Array.getElem?_modify, if_neg (Ne.symm hne), h.frame id hid]

/-- The frames that exist stay as they are, but for variables that are bound in one of them, one
after the other. -/
structure Machine.BindsAll (machine machine' : Machine) (frame : FrameId)
    (definitions : List (String × Value)) : Prop where
  /-- No frame is lost. -/
  size : machine.frames.size ≤ machine'.frames.size
  /-- The variables are bound. -/
  bound : machine'.frame frame = Bindings.insertAll (machine.frame frame) definitions
  /-- Every other frame that existed is the same. -/
  others : ∀ id < machine.frames.size, id ≠ frame → machine'.frames[id]? = machine.frames[id]?

namespace Machine.BindsAll

variable {first second third : Machine} {frame : FrameId}
  {definitions definitions' : List (String × Value)}

theorem of_isolated (h : first.Isolated second) (hframe : frame < first.frames.size) :
    first.BindsAll second frame [] :=
  ⟨h.size, h.frame_eq hframe, fun id hid _ => h.frame id hid⟩

theorem of_binds {name : String} {value : Value} (h : first.Binds second frame name value) :
    first.BindsAll second frame [(name, value)] :=
  ⟨h.size, h.bound, h.others⟩

theorem trans (h : first.BindsAll second frame definitions)
    (h' : second.BindsAll third frame definitions') :
    first.BindsAll third frame (definitions ++ definitions') where
  size := Nat.le_trans h.size h'.size
  bound := by
    rw [h'.bound, h.bound]
    unfold Bindings.insertAll
    rw [List.foldl_append]
  others id hid hne :=
    (h'.others id (Nat.lt_of_lt_of_le hid h.size) hne).trans (h.others id hid hne)

/-- **Names keep their order**, and new ones come last. -/
theorem keys_isPrefix (h : first.BindsAll second frame definitions) :
    Bindings.keys (first.frame frame) <+: Bindings.keys (second.frame frame) := by
  rw [h.bound]
  exact Bindings.keys_isPrefix_insertAll (first.frame frame) definitions

end Machine.BindsAll

/-! ### Steps that only look at something -/

/-- The computation leaves the machine as it is, however it ends. -/
def Eval.ReadsOnly {α : Type} (x : Eval α) : Prop :=
  ∀ machine, x.after machine = machine

namespace Eval.ReadsOnly

variable {α : Type}

theorem ofExcept (x : Except Stop α) : (Eval.ofExcept x).ReadsOnly := by
  intro machine
  cases x with
  | ok a => rfl
  | error stop => rfl

theorem inBounds (found : Option α) : (Eval.inBounds found).ReadsOnly := by
  intro machine
  cases found with
  | some a => rfl
  | none => rfl

theorem orFail (fault : Fault) (found : Option α) : (Eval.orFail fault found).ReadsOnly := by
  intro machine
  cases found with
  | some a => rfl
  | none => rfl

theorem lookup? (frame : FrameId) (name : String) : (Eval.lookup? frame name).ReadsOnly :=
  fun _ => rfl

theorem validate (config : Config) (rule : String) (nodes : List Node)
    (location : Option Location) : (config.validate rule nodes location).ReadsOnly := by
  intro machine
  unfold Config.validate
  cases config.oracle rule nodes with
  | accept count => rfl
  | reject reason => rfl

/-- It has a value or it stops, and the machine is the same. -/
theorem outcome {x : Eval α} (h : x.ReadsOnly) (machine : Machine) :
    (∃ a, x machine = .ok a machine) ∨ ∃ stop, x machine = .error stop machine := by
  have hafter := h machine
  unfold Eval.after at hafter
  cases hx : x machine with
  | ok a machine' =>
    rw [hx] at hafter
    exact .inl ⟨a, by rw [← hafter]⟩
  | error stop machine' =>
    rw [hx] at hafter
    exact .inr ⟨stop, by rw [← hafter]⟩

end Eval.ReadsOnly

namespace TopLevel

open Evaluation

/-! ### Definitions -/

/-- The node is a definition: a form that is neither quoted nor inline and has the name of one as
its head. -/
structure IsDefinition (node : Node) (special : SpecialForm) (form : Form) : Prop where
  /-- It is a form. -/
  node_eq : node = form.toNode
  /-- Its head is the name. -/
  head : ∃ head, HeadedBy form head ∧ IsName head special.name
  /-- The name is that of a definition. -/
  topLevelOnly : special.topLevelOnly = true

/-- Whether a definition leaves a variable alone that is bound already. -/
def once : SpecialForm → Bool
  | .defineOnce | .defineFunctionOnce => true
  | _ => false

/-- What follows the head of a definition: the name to define, or the path of a module. -/
def target? (form : Form) : Option String :=
  form.tail[0]?.bind Node.identifier?

/-- A definition with a given target that has a value binds a variable: its target to that value, or
the last segment of its target to a module, in which case the value is nothing. -/
def Gives (special : SpecialForm) (target name : String) (bound value : Value) : Prop :=
  match special with
  | .importModule => name = lastSegment Resolver.imported.separator target ∧ value = .nil
  | .requireModule => name = lastSegment Resolver.required.separator target ∧ value = .nil
  | _ => name = target ∧ value = bound

/-- How a definition ends, with the variable that it binds. -/
inductive Defines (special : SpecialForm) (form : Form) (frame : FrameId) (machine : Machine) :
    EStateM.Result Stop Machine Value → Option (String × Value) → Prop
  /-- It fails, and no frame has changed. -/
  | failed {stop : Stop} {last : Machine} (h : machine.Isolated last) :
    Defines special form frame machine (.error stop last) none
  /-- The variable is bound already and left alone. -/
  | kept {name : String} {value : Value} (honce : once special = true)
    (htarget : target? form = some name) (hlookup : machine.lookup? frame name = some value) :
    Defines special form frame machine (.ok value machine) none
  /-- A variable is bound, after all else has been done. -/
  | bound {target name : String} {bound value : Value} {last : Machine}
    (htarget : target? form = some target) (hgives : Gives special target name bound value)
    (hfree : once special = true → machine.lookup? frame name = none)
    (h : machine.Isolated last) :
    Defines special form frame machine (.ok value (last.define frame name bound))
      (some (name, bound))

section Defines

variable {config : Config} {special : SpecialForm} {form : Form} {frame : FrameId}
  {machine : Machine}

/-- A step that only looks at something comes before the definition. -/
theorem defines_bind {α : Type} {x : Eval α} {f : α → Eval Value} (hx : x.ReadsOnly)
    (hf : ∀ a, x machine = .ok a machine →
      ∃ definition?, Defines special form frame machine (f a machine) definition?) :
    ∃ definition?, Defines special form frame machine ((x >>= f) machine) definition? := by
  rcases hx.outcome machine with ⟨a, ha⟩ | ⟨stop, hstop⟩
  · rw [Eval.bind_ok ha]
    exact hf a ha
  · rw [Eval.bind_error hstop]
    exact ⟨none, .failed (.of_frames_eq rfl)⟩

/-- The name or the path that a definition starts with. -/
theorem defines_target {formName : String} {f : String → Eval Value}
    (hf : ∀ target, target? form = some target →
      ∃ definition?, Defines special form frame machine (f target machine) definition?) :
    ∃ definition?, Defines special form frame machine
      ((Eval.inBounds form.tail[0]? >>= fun node => Eval.identifier formName node >>= f) machine)
        definition? := by
  refine defines_bind (.inBounds _) fun node hnode => ?_
  refine defines_bind (.ofExcept _) fun target htarget => ?_
  refine hf target ?_
  unfold target?
  rw [(Eval.of_inBounds_ok hnode).1]
  exact (Eval.of_identifier_ok htarget).1

theorem defines_defineBy {target : String} (htarget : target? form = some target)
    (hgives : ∀ value, Gives special target target value value) {compute : Eval Value}
    (hcompute : machine.Isolated (compute.after machine)) :
    ∃ definition?, Defines special form frame machine
      (defineBy (once special) frame target compute machine) definition? := by
  have hfound : Eval.lookup? frame target machine =
      .ok (machine.lookup? frame target) machine := rfl
  -- what is computed, and bound if that has a value
  have hbinds (hfree : once special = true → machine.lookup? frame target = none) :
      ∃ definition?, Defines special form frame machine
        ((compute >>= fun value => Eval.define frame target value >>= fun _ => pure value :
          Eval Value) machine) definition? := by
    unfold Eval.after at hcompute
    cases hresult : compute machine with
    | ok value last =>
      rw [hresult] at hcompute
      rw [Eval.bind_ok hresult]
      exact ⟨some (target, value), .bound htarget (hgives value) hfree hcompute⟩
    | error stop last =>
      rw [hresult] at hcompute
      rw [Eval.bind_error hresult]
      exact ⟨none, .failed hcompute⟩
  unfold defineBy
  rw [Eval.bind_ok hfound]
  cases hlookup : machine.lookup? frame target with
  | none => exact hbinds fun _ => hlookup
  | some value =>
    cases honce : once special with
    | true => exact ⟨none, .kept honce htarget hlookup⟩
    | false => exact hbinds fun h => absurd (honce.symm.trans h) (by decide)

/-! ### The definitions one by one -/

/-- What is evaluated below the top level leaves the frames alone. -/
theorem isolated_after {α : Type} (machine : Machine) {x : Eval α}
    (h : (Contract.isolation machine.frames.size).simulation.Rel x x) :
    machine.Isolated (x.after machine) :=
  Contract.isolated_of_agree machine h

theorem defines_define (hwrites : config.hosts.WriteNothing)
    (hspecial : special = .define ∨ special = .defineOnce) :
    ∃ definition?, Defines special form frame machine
      (define config (config.evaluators config.toContext) (once special) form frame machine)
        definition? := by
  refine defines_bind (.validate _ _ _ _) fun _ _ => ?_
  refine defines_target fun target htarget => defines_defineBy htarget ?_ ?_
  · rcases hspecial with rfl | rfl <;> exact fun value => ⟨rfl, rfl⟩
  · refine isolated_after machine ?_
    have hevaluators := Contract.isolation_carries hwrites machine.frames.size
    refine Simulation.bind _ ?_ fun node => hevaluators.nodes config.toContext node frame
    exact Simulation.item _ (.inr (Contract.panics trivial))

theorem defines_defineFunction
    (hspecial : special = .defineFunction ∨ special = .defineFunctionOnce) :
    ∃ definition?, Defines special form frame machine
      (defineFunction config (once special) form frame machine) definition? := by
  refine defines_bind (.validate _ _ _ _) fun _ _ => ?_
  refine defines_target fun target htarget => defines_defineBy htarget ?_ ?_
  · rcases hspecial with rfl | rfl <;> exact fun value => ⟨rfl, rfl⟩
  · refine isolated_after machine ?_
    refine Simulation.bind _ (Simulation.item _ (.inr (Contract.panics trivial))) fun node => ?_
    refine Simulation.bind _ (Simulation.sliceFrom _ (.inr (Contract.panics trivial)))
      fun body => ?_
    exact Simulation.makeFunction config.toContext _ _ node body frame _

theorem defines_defineModule (hwrites : config.hosts.WriteNothing) {resolver : Resolver}
    (hspecial : special = .importModule ∧ resolver = .imported ∨
      special = .requireModule ∧ resolver = .required) :
    ∃ definition?, Defines special form frame machine
      (defineModule config config.evaluators special.name resolver form frame machine)
        definition? := by
  refine defines_bind (.validate _ _ _ _) fun _ _ => ?_
  refine defines_target fun target htarget => ?_
  refine defines_bind (.lookup? _ _) fun found _ => ?_
  refine defines_bind (.orFail _ _) fun resolve _ => ?_
  have hcall : machine.Isolated ((Eval.located form.headLocation?
      (resolve.call config.hosts config.evaluators [.str target])).after machine) := by
    refine isolated_after machine (Simulation.located _ _ ?_)
    exact Simulation.call (Contract.isolation_carries hwrites _) resolve _
  unfold Eval.after at hcall
  cases hresult : Eval.located form.headLocation?
      (resolve.call config.hosts config.evaluators [.str target]) machine with
  | error stop last =>
    rw [hresult] at hcall
    rw [Eval.bind_error hresult]
    exact ⟨none, .failed hcall⟩
  | ok module last =>
    rw [hresult] at hcall
    rw [Eval.bind_ok hresult]
    refine ⟨some (lastSegment resolver.separator target, module), .bound htarget ?_ ?_ hcall⟩
    · rcases hspecial with ⟨rfl, rfl⟩ | ⟨rfl, rfl⟩ <;> exact ⟨rfl, rfl⟩
    · rcases hspecial with ⟨rfl, rfl⟩ | ⟨rfl, rfl⟩ <;> exact nofun

/-- **A definition ends in one of three ways.** -/
theorem defines_evalSpecial (hwrites : config.hosts.WriteNothing)
    (hspecial : special.topLevelOnly = true) :
    ∃ definition?, Defines special form frame machine
      (evalSpecial config config.evaluators true special form frame machine) definition? := by
  cases special with
  | define => exact defines_define hwrites (.inl rfl)
  | defineOnce => exact defines_define hwrites (.inr rfl)
  | defineFunction => exact defines_defineFunction (.inl rfl)
  | defineFunctionOnce => exact defines_defineFunction (.inr rfl)
  | importModule => exact defines_defineModule hwrites (.inl ⟨rfl, rfl⟩)
  | requireModule => exact defines_defineModule hwrites (.inr ⟨rfl, rfl⟩)
  | _ => cases hspecial

end Defines

/-! ### Nodes -/

section Nodes

variable {config : Config} {evaluate : Context → Evaluator} {node : Node}
  {special : SpecialForm} {form : Form} {frame : FrameId} {machine : Machine}

theorem ofName?_name (special : SpecialForm) : SpecialForm.ofName? special.name = some special := by
  cases special <;> rfl

theorem name_of_ofName? {name : String} (h : SpecialForm.ofName? name = some special) :
    special.name = name := by
  unfold SpecialForm.ofName? at h
  have hfound := List.find?_some h
  exact of_decide_eq_true hfound

theorem IsDefinition.evalNode_eq (h : IsDefinition node special form) (top : Bool) :
    evalNode config evaluate top node frame =
      evalSpecial config evaluate top special form frame := by
  obtain ⟨rfl, ⟨head, hform, hhead⟩, -⟩ := h
  show evalForm config evaluate top form frame = _
  rw [CallSite.evalForm_eq hform, CallSite.evalHead_name special hhead (ofName?_name special)]

/-- **A node that is no definition is evaluated as below the top level.** -/
theorem evalNode_eq_nested (h : ∀ special form, ¬ IsDefinition node special form) :
    evalNode config evaluate true node frame = evalNode config evaluate false node frame := by
  cases node with
  | literal token properties => rfl
  | form children properties inline location =>
    let form : Form := ⟨children, properties, inline, location⟩
    show evalForm config evaluate true form frame = evalForm config evaluate false form frame
    unfold evalForm
    cases hquoted : form.isQuoted with
    | true => rfl
    | false =>
      cases hinline : form.inline with
      | true => rfl
      | false =>
        cases hhead : form.head? with
        | none => rfl
        | some head =>
          cases head with
          | form => rfl
          | literal token marks =>
            unfold evalHead
            dsimp only
            cases hmarks : marks.contains quotedProperty with
            | true => rfl
            | false =>
              cases hkind : token.kind with
              | identifier =>
                cases hname : SpecialForm.ofName? token.text with
                | none => rfl
                | some special =>
                  -- if it were a definition, so would be the node
                  have hnested : special.topLevelOnly = false := by
                    by_contra htop
                    have hspecial : special.topLevelOnly = true := by simpa using htop
                    have hisName : IsName (.literal token marks) special.name :=
                      ⟨token, marks, rfl, hkind, (name_of_ofName? hname).symm, hmarks⟩
                    exact h special form
                      ⟨rfl, ⟨_, ⟨hquoted, hinline, hhead⟩, hisName⟩, hspecial⟩
                  simp only [Bool.false_eq_true, if_false]
                  unfold evalSpecial
                  rw [hnested]
                  rfl
              | _ => rfl

/-- How a tree at the top level ends, with the variable that it binds. -/
inductive Outcome (config : Config) (frame : FrameId) (node : Node) (machine : Machine) :
    EStateM.Result Stop Machine Value → Option (String × Value) → Prop
  /-- It fails, and no frame has changed. -/
  | failed {stop : Stop} {last : Machine} (h : machine.Isolated last) :
    Outcome config frame node machine (.error stop last) none
  /-- It is no definition, and no frame has changed. -/
  | plain {value : Value} {last : Machine}
    (hnode : ∀ special form, ¬ IsDefinition node special form) (h : machine.Isolated last) :
    Outcome config frame node machine (.ok value last) none
  /-- It is a definition of what is defined already; that is its value, and nothing has happened. -/
  | kept {special : SpecialForm} {form : Form} {name : String} {value : Value}
    (hnode : IsDefinition node special form) (honce : once special = true)
    (htarget : target? form = some name) (hlookup : machine.lookup? frame name = some value) :
    Outcome config frame node machine
      (.ok value ((machine.inside config.toContext node).outside config.toContext machine.room))
      none
  /-- It is a definition, and it has bound its variable. -/
  | bound {special : SpecialForm} {form : Form} {target name : String} {bound value : Value}
    {last : Machine} (hnode : IsDefinition node special form) (htarget : target? form = some target)
    (hgives : Gives special target name bound value)
    (hfree : once special = true → machine.lookup? frame name = none)
    (h : machine.Binds last frame name bound) :
    Outcome config frame node machine (.ok value last) (some (name, bound))

theorem outcome_of_definition (hwrites : config.hosts.WriteNothing)
    (hframe : frame < machine.frames.size)
    (hnode : IsDefinition node special form) :
    ∃ definition?, Outcome config frame node machine (node.eval config true frame machine)
      definition? := by
  let inside := machine.inside config.toContext node
  have hsame : machine.Isolated inside := .of_frames_eq rfl
  obtain ⟨definition?, hdefines⟩ : ∃ definition?, Defines special form frame inside
      (evalSpecial config config.evaluators true special form frame inside) definition? :=
    defines_evalSpecial hwrites hnode.topLevelOnly
  rw [Node.eval_eq_evalBy]
  unfold Node.evalBy
  rw [Eval.within_eq, hnode.evalNode_eq]
  split
  · exact ⟨none, .failed (.of_frames_eq rfl)⟩
  split
  · exact ⟨none, .failed (.of_frames_eq rfl)⟩
  split
  · exact ⟨none, .failed (.of_frames_eq rfl)⟩
  generalize evalSpecial config config.evaluators true special form frame
    (machine.inside config.toContext node) = result at hdefines ⊢
  cases hdefines with
  | failed h => exact ⟨none, .failed (hsame.trans (h.trans (.of_frames_eq rfl)))⟩
  | kept honce htarget hlookup => exact ⟨none, .kept hnode honce htarget hlookup⟩
  | @bound target name bound value last htarget hgives hfree h =>
    have hbinds := (hsame.trans h).binds hframe name bound
    exact ⟨some (name, bound), .bound hnode htarget hgives hfree
      ⟨hbinds.size, hbinds.bound, hbinds.others⟩⟩

theorem outcome_of_plain (hwrites : config.hosts.WriteNothing)
    (hnode : ∀ special form, ¬ IsDefinition node special form) :
    ∃ definition?, Outcome config frame node machine (node.eval config true frame machine)
      definition? := by
  have hnested : node.eval config true frame = config.evaluator node frame := by
    unfold Config.evaluator
    rw [Node.eval_eq_evalBy, Node.eval_eq_evalBy]
    unfold Node.evalBy
    rw [evalNode_eq_nested hnode]
  have hisolated := Contract.isolated_of_agree machine
    ((Contract.isolation_carries hwrites machine.frames.size).nodes config.toContext node frame)
  change machine.Isolated ((config.evaluator node frame).after machine) at hisolated
  unfold Eval.after at hisolated
  rw [hnested]
  cases hresult : config.evaluator node frame machine with
  | ok value last =>
    rw [hresult] at hisolated
    exact ⟨none, .plain hnode hisolated⟩
  | error stop last =>
    rw [hresult] at hisolated
    exact ⟨none, .failed hisolated⟩

/-- **A tree at the top level binds one variable or leaves all frames as they are.** -/
theorem exists_outcome (hwrites : config.hosts.WriteNothing) (hframe : frame < machine.frames.size)
    (node : Node) :
    ∃ definition?, Outcome config frame node machine (node.eval config true frame machine)
      definition? := by
  by_cases hnode : ∃ special form, IsDefinition node special form
  · obtain ⟨special, form, hnode⟩ := hnode
    exact outcome_of_definition hwrites hframe hnode
  · exact outcome_of_plain hwrites fun special form h => hnode ⟨special, form, h⟩

/-! ### Definitions that are left alone -/

/-- Computations that start by looking at the same thing are the same if they go on in the same
way. -/
theorem bind_congr_of_readsOnly {α : Type} {x : Eval α} (hx : x.ReadsOnly) {f g : α → Eval Value}
    (h : ∀ a, x machine = .ok a machine → f a machine = g a machine) :
    (x >>= f) machine = (x >>= g) machine := by
  rcases hx.outcome machine with ⟨a, ha⟩ | ⟨stop, hstop⟩
  · rw [Eval.bind_ok ha, Eval.bind_ok ha, h a ha]
  · rw [Eval.bind_error hstop, Eval.bind_error hstop]

theorem define_eq_of_bound {name : String} {value : Value} (htarget : target? form = some name)
    (hlookup : machine.lookup? frame name = some value) (evaluate evaluate' : Evaluator) :
    define config evaluate true form frame machine =
      define config evaluate' true form frame machine := by
  refine bind_congr_of_readsOnly (.validate _ _ _ _) fun _ _ => ?_
  refine bind_congr_of_readsOnly (.inBounds _) fun node hnode => ?_
  refine bind_congr_of_readsOnly (.ofExcept _) fun found hfound => ?_
  -- the name is the one that is bound, so nothing is computed
  have hsame : found = name := by
    have hname := (Eval.of_identifier_ok hfound).1
    unfold target? at htarget
    rw [(Eval.of_inBounds_ok hnode).1] at htarget
    exact Option.some.inj (hname.symm.trans htarget)
  subst hsame
  have hget : Eval.lookup? frame found machine = .ok (some value) machine := by
    rw [← hlookup]
    rfl
  unfold defineBy
  rw [Eval.bind_ok hget, Eval.bind_ok hget]

/-- **A definition of what is defined already evaluates nothing**: it makes no difference how nodes
are evaluated. -/
theorem IsDefinition.evalBy_eq (hnode : IsDefinition node special form)
    (honce : once special = true) {name : String} (htarget : target? form = some name)
    {value : Value} (hlookup : machine.lookup? frame name = some value)
    (evaluate evaluate' : Context → Evaluator) :
    node.evalBy config true frame evaluate machine =
      node.evalBy config true frame evaluate' machine := by
  let inside := machine.inside config.toContext node
  have hspecial : evalSpecial config evaluate true special form frame inside =
      evalSpecial config evaluate' true special form frame inside := by
    have hinside : inside.lookup? frame name = some value := hlookup
    cases special with
    | defineOnce => exact define_eq_of_bound htarget hinside (evaluate _) (evaluate' _)
    | defineFunctionOnce => rfl
    | _ => cases honce
  unfold Node.evalBy
  rw [Eval.within_eq, Eval.within_eq, hnode.evalNode_eq, hnode.evalNode_eq, hspecial]

end Nodes

/-! ### Programs -/

/-- A machine on which a tree is about to be evaluated. -/
def reaching (machine : Machine) (node : Node) : Machine :=
  { machine with events := machine.events.push (.topLevel node) }

/-- Trees have been evaluated one after the other; these are the variables that they have bound. -/
inductive Runs (config : Config) (frame : FrameId) :
    List Node → Machine → List (String × Value) → Machine → Prop
  /-- There are none. -/
  | nil (machine : Machine) : Runs config frame [] machine [] machine
  /-- There is a first one. -/
  | cons {node : Node} {nodes : List Node} {machine between last : Machine} {value : Value}
    {definition? : Option (String × Value)} {definitions : List (String × Value)}
    (heval : node.eval config true frame (reaching machine node) = .ok value between)
    (houtcome : Outcome config frame node (reaching machine node) (.ok value between) definition?)
    (hrest : Runs config frame nodes between definitions last) :
    Runs config frame (node :: nodes) machine (definition?.toList ++ definitions) last

/-- How a program ends. -/
inductive ProgramEnds (config : Config) (frame : FrameId) (machine : Machine) (nodes : List Node) :
    EStateM.Result Stop Machine Value → List (String × Value) → Prop
  /-- All of its trees have been evaluated. -/
  | ok {value : Value} {last : Machine} {definitions : List (String × Value)}
    (h : Runs config frame nodes machine definitions last) :
    ProgramEnds config frame machine nodes (.ok value last) definitions
  /-- One of its trees has failed.  It has changed no frame, and none of those after it has been
  evaluated. -/
  | error {before after : List Node} {node : Node} {between last : Machine} {stop : Stop}
    {definitions : List (String × Value)} (hnodes : nodes = before ++ node :: after)
    (h : Runs config frame before machine definitions between)
    (heval : node.eval config true frame (reaching between node) = .error stop last)
    (hisolated : between.Isolated last) :
    ProgramEnds config frame machine nodes (.error stop last) definitions

section Programs

variable {config : Config} {frame : FrameId} {machine : Machine} {nodes : List Node}
  {definitions : List (String × Value)}

theorem Outcome.bindsAll {node : Node} {value : Value} {last : Machine}
    {definition? : Option (String × Value)}
    (h : Outcome config frame node machine (.ok value last) definition?)
    (hframe : frame < machine.frames.size) :
    machine.BindsAll last frame definition?.toList := by
  cases h with
  | plain hnode h => exact .of_isolated h hframe
  | kept hnode honce htarget hlookup => exact .of_isolated (.of_frames_eq rfl) hframe
  | bound hnode htarget hgives hfree h => exact .of_binds h

theorem Runs.bindsAll {last : Machine} (hframe : frame < machine.frames.size)
    (h : Runs config frame nodes machine definitions last) :
    machine.BindsAll last frame definitions := by
  induction h with
  | nil machine => exact .of_isolated (.of_frames_eq rfl) hframe
  | @cons node nodes machine between last value definition? definitions heval houtcome hrest ih =>
    have hreaching : machine.Isolated (reaching machine node) := .of_frames_eq rfl
    have hfirst := houtcome.bindsAll hframe
    have hbetween : machine.BindsAll between frame definition?.toList :=
      (Machine.BindsAll.of_isolated hreaching hframe).trans hfirst
    exact hbetween.trans (ih (Nat.lt_of_lt_of_le hframe hbetween.size))

/-- The frames after a program are those before it with the definitions it has made. -/
theorem ProgramEnds.bindsAll {result : EStateM.Result Stop Machine Value} {x : Eval Value}
    (hresult : x machine = result) (hframe : frame < machine.frames.size)
    (h : ProgramEnds config frame machine nodes result definitions) :
    machine.BindsAll (x.after machine) frame definitions := by
  unfold Eval.after
  rw [hresult]
  cases h with
  | ok h => exact h.bindsAll hframe
  | error hnodes h heval hisolated =>
    have hbefore := h.bindsAll hframe
    have hfailed := Machine.BindsAll.of_isolated hisolated (Nat.lt_of_lt_of_le hframe hbefore.size)
    simpa using hbefore.trans hfailed

/-- **A program is the list of its definitions.** -/
theorem exists_programEnds (hwrites : config.hosts.WriteNothing)
    (hframe : frame < machine.frames.size) (last : Value)
    (nodes : List Node) :
    ∃ definitions, ProgramEnds config frame machine nodes
      (Eval.program config frame last nodes machine) definitions := by
  induction nodes generalizing machine last with
  | nil => exact ⟨[], .ok (.nil machine)⟩
  | cons node nodes ih =>
    have hreport : Eval.report (.topLevel node) machine = .ok () (reaching machine node) := rfl
    have hreaching : machine.Isolated (reaching machine node) := .of_frames_eq rfl
    have hexists : frame < (reaching machine node).frames.size := hframe
    obtain ⟨definition?, houtcome⟩ := exists_outcome hwrites hexists node
    rw [Eval.program, Eval.bind_ok hreport]
    cases heval : node.eval config true frame (reaching machine node) with
    | error stop failed =>
      rw [heval] at houtcome
      rw [Eval.bind_error heval]
      cases houtcome with
      | failed h =>
        have hnodes : node :: nodes = [] ++ node :: nodes := rfl
        exact ⟨[], .error hnodes (.nil machine) heval (hreaching.trans h)⟩
    | ok value between =>
      rw [heval] at houtcome
      rw [Eval.bind_ok heval]
      have hbetween : frame < between.frames.size :=
        Nat.lt_of_lt_of_le hframe (houtcome.bindsAll hframe).size
      obtain ⟨definitions, hrest⟩ := ih hbetween value
      refine ⟨definition?.toList ++ definitions, ?_⟩
      generalize Eval.program config frame value nodes between = result at hrest ⊢
      cases hrest with
      | ok h => exact .ok (.cons heval houtcome h)
      | @error before after failing middle final stop definitions hnodes h hfails hisolated =>
        have hall : node :: nodes = (node :: before) ++ failing :: after := by
          rw [hnodes, List.cons_append]
        exact .error hall (.cons heval houtcome h) hfails hisolated

end Programs

/-- What a program does to the frames: it makes the definitions of the trees that were evaluated,
and the names that were there before keep their places. -/
structure ProgramEffect (config : Config) (frame : FrameId) (machine : Machine)
    (nodes : List Node) : Prop where
  /-- The frames are those from before with the definitions. -/
  definitions : ∃ definitions,
    ProgramEnds config frame machine nodes (Eval.program config frame .nil nodes machine)
        definitions ∧
      machine.BindsAll ((Eval.program config frame .nil nodes).after machine) frame definitions
  /-- The names from before come first. -/
  order : Bindings.keys (machine.frame frame) <+:
    Bindings.keys (((Eval.program config frame .nil nodes).after machine).frame frame)

theorem programEffect {config : Config} (hwrites : config.hosts.WriteNothing) {frame : FrameId}
    {machine : Machine}
    (hframe : frame < machine.frames.size) (nodes : List Node) :
    ProgramEffect config frame machine nodes := by
  obtain ⟨definitions, hends⟩ := exists_programEnds hwrites hframe .nil nodes
  have hbinds := hends.bindsAll rfl hframe
  exact ⟨⟨definitions, hends, hbinds⟩, hbinds.keys_isPrefix⟩

/-- **Effects at the top level are exact and atomic**, if the host binds no variables.  A tree binds
one variable, if it is a definition that succeeds, and else it leaves all frames as they are; a
definition of what is defined already evaluates nothing.  A program makes the definitions of its
trees up to the first that fails, and a source that cannot be read leaves everything as it is, but
for what is reported of it. -/
theorem effects_exact (session : Session) (hwrites : session.config.hosts.WriteNothing)
    (hroot : Session.root < session.machine.frames.size) :
    (∀ node : Node, ∃ definition?,
      Outcome session.config Session.root node session.machine
        (node.eval session.config true Session.root session.machine) definition?) ∧
    (∀ (node : Node) (special : SpecialForm) (form : Form) (name : String) (value : Value),
      IsDefinition node special form → once special = true → target? form = some name →
        session.machine.lookup? Session.root name = some value →
          ∀ evaluate, node.evalBy session.config true Session.root evaluate session.machine =
            node.eval session.config true Session.root session.machine) ∧
    (∀ nodes : List Node,
      let ready := session.machine.roomFor session.config.maxDepth
      ProgramEffect session.config Session.root ready nodes ∧
        (session.evalNodes nodes).2.machine =
          (Eval.program session.config Session.root .nil nodes).after ready) ∧
    ∀ (limit : Nat) (source file : String),
      match Node.build limit (Token.lex source file) with
      | .error misread =>
        session.evalWithin limit source file = (.error (.misread misread),
          { session with machine := session.machine.noticing source file })
      | .ok nodes =>
        let ready := (session.machine.noticing source file).roomFor session.config.maxDepth
        ProgramEffect session.config Session.root ready nodes ∧
          (session.evalWithin limit source file).2.machine =
            (Eval.program session.config Session.root .nil nodes).after ready := by
  refine ⟨fun node => exists_outcome hwrites hroot node, ?_, fun nodes => ⟨?_, ?_⟩, ?_⟩
  · intro node special form name value hnode honce htarget hlookup evaluate
    rw [Node.eval_eq_evalBy]
    exact hnode.evalBy_eq honce htarget hlookup evaluate session.config.evaluators
  · have hready : Session.root <
        (session.machine.roomFor session.config.maxDepth).frames.size := hroot
    exact programEffect hwrites hready nodes
  · exact Session.run_machine session _
  · intro limit source file
    let ready := (session.machine.noticing source file).roomFor session.config.maxDepth
    have hready : Session.root < ready.frames.size := hroot
    rw [Session.evalWithin_eq]
    cases Node.build limit (Token.lex source file) with
    | error misread => rfl
    | ok nodes =>
      refine ⟨programEffect hwrites hready nodes, ?_⟩
      dsimp only
      unfold Eval.after
      cases Eval.program session.config Session.root .nil nodes ready with
      | ok value last => rfl
      | error stop last => rfl

/-- A session without variables, and a program that defines one and then fails. -/
theorem effects_exact_bare :
    let named (name : String) : Node := .literal ⟨.identifier, name, ⟨"a", 1, 1⟩⟩ []
    let nodes : List Node :=
      [.form [named "def", named "x", .form [] [quotedProperty] false none] [] false none,
        named "y"]
    Session.root < Session.bare.machine.frames.size ∧
      Session.bare.config.hosts.WriteNothing ∧
      ProgramEffect Session.bare.config Session.root
        (Session.bare.machine.roomFor Session.bare.config.maxDepth) nodes := by
  intro named nodes
  have hroot : Session.root < Session.bare.machine.frames.size := by decide
  have hwrites : Session.bare.config.hosts.WriteNothing := Hosts.basic_obey fun _ _ => trivial
  exact ⟨hroot, hwrites, ((effects_exact Session.bare hwrites hroot).2.2.1 nodes).1⟩

end TopLevel

end FrameLisp
