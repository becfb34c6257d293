import FrameLisp.Proofs.Departure
import FrameLisp.Proofs.Policy

/-!
# What is in reach of a program

What is in reach of a value is said by `Value.Reaches`: parts of it, and the variables of the frames
that functions are over.  `Surroundings` say what may be met on the way, as far as it can be seen on
a single value; they enclose a program if nothing else is in reach of the frame that it runs in, or
of the modules that it can import.

A frame all of whose variables are enclosed is one that functions may be over, which makes
surroundings a `Policy` (`Surroundings.policy`).  What is left is to go from the one way of saying
it to the other.
-/

namespace FrameLisp

/-- The values that a program can get at from one that it has. -/
inductive Value.Reaches (machine : Machine) (start : Value) : Value → Prop
  /-- The value itself. -/
  | itself : Reaches machine start start
  /-- An item of a list. -/
  | item {items : List Value} {value : Value} (h : Reaches machine start (.list items))
    (hmem : value ∈ items) : Reaches machine start value
  /-- A value of a dict. -/
  | entry {entries : List (Key × Value)} {key : Key} {value : Value}
    (h : Reaches machine start (.dict entries)) (hmem : (key, value) ∈ entries) :
    Reaches machine start value
  /-- A member of a module. -/
  | member {ref : Nat} {moduleName : String} {members : List (String × Value)} {name : String}
    {value : Value} (h : Reaches machine start (.module ref moduleName members))
    (hmem : (name, value) ∈ members) : Reaches machine start value
  /-- A variable that a function can see. -/
  | captured {ref : Nat} {closure : Closure} {name : String} {value : Value}
    (h : Reaches machine start (.function ref closure))
    (hmem : (name, value) ∈ machine.frame closure.frame) : Reaches machine start value

variable {machine : Machine}

theorem Value.Reaches.trans {first second third : Value} (h : first.Reaches machine second)
    (h' : second.Reaches machine third) : first.Reaches machine third := by
  induction h' with
  | itself => exact h
  | item _ hmem ih => exact ih.item hmem
  | entry _ hmem ih => exact ih.entry hmem
  | member _ hmem ih => exact ih.member hmem
  | captured _ hmem ih => exact ih.captured hmem

/-- A value can be taken apart. -/
theorem Value.Part.reaches {whole part : Value} (h : whole.Part part) :
    whole.Reaches machine part := by
  induction h with
  | itself => exact .itself
  | item _ hmem ih => exact ih.item hmem
  | entry _ hmem ih => exact ih.entry hmem
  | member _ hmem ih => exact ih.member hmem

namespace Surroundings

variable (S : Surroundings)

/-- Whether a value may be around, whatever it is made of. -/
def Fits : Value → Prop
  | .function _ closure => S.context closure.context
  | .builtin _ b => S.Builtins b
  | .errorClass kind => S.Classes kind
  | .exception _ fault => S.Classes fault.kind
  | .object _ o => S.object o
  | _ => True

/-- Whatever is in reach of the value may be around. -/
def Surrounds (machine : Machine) (value : Value) : Prop :=
  ∀ other, value.Reaches machine other → S.Fits other

/-- Whatever is in reach of a program that runs in the frame may be around. -/
structure Encloses (machine : Machine) (frame : FrameId) : Prop where
  /-- Its variables. -/
  bound {name : String} {value : Value} (h : (name, value) ∈ machine.frame frame) :
    S.Surrounds machine value
  /-- The modules that it can import. -/
  modules {name : String} {value : Value} (h : (name, value) ∈ machine.modules) :
    S.Surrounds machine value

/-- Nothing but what may be around is around: functions may be over frames of enclosed variables. -/
def policy (machine : Machine) : Policy where
  toSurroundings := S
  frame id := ∀ name value, (name, value) ∈ machine.frame id → S.Surrounds machine value

variable {S}

/-- What is in reach of an enclosed value is enclosed. -/
theorem Surrounds.of_reaches {value other : Value} (h : S.Surrounds machine value)
    (hreaches : value.Reaches machine other) : S.Surrounds machine other :=
  fun _ hother => h _ (hreaches.trans hother)

/-! ### Surroundings as a policy -/

theorem policy_places (machine : Machine) (place : Option Location) :
    (S.policy machine).Places place := by
  cases place with
  | none => trivial
  | some location => trivial

theorem policy_permitsNode (machine : Machine) (node : Node) :
    (S.policy machine).PermitsNode node := by
  have htoken (token : Token) : (S.policy machine).likeness.token token token := ⟨rfl, trivial⟩
  have hplace (place : Option Location) : (S.policy machine).likeness.place place place :=
    ⟨rfl, policy_places machine place⟩
  exact node.alike_self htoken hplace

/-- **Enclosed values are permitted.** -/
theorem permitsValue_of_surrounds (value : Value) (h : S.Surrounds machine value) :
    (S.policy machine).PermitsValue value := by
  refine value.alike_self fun part hpart => ?_
  have hpart : S.Surrounds machine part := h.of_reaches hpart.reaches
  have hfits : S.Fits part := hpart part .itself
  refine ⟨fun r _ => rfl, ?_, ?_, ?_, ?_, ?_⟩
  · rintro ref closure rfl
    refine ⟨rfl, rfl, Policy.permitsNodes_iff.mpr fun node _ => ?_, ⟨rfl, ?_⟩, ⟨rfl, hfits⟩,
      ⟨rfl, ?_⟩⟩
    · exact policy_permitsNode machine node
    · exact fun name value hvalue => hpart.of_reaches (.captured .itself hvalue)
    · exact policy_places machine closure.location
  · rintro ref b rfl
    exact hfits
  · rintro kind rfl
    exact hfits
  · rintro ref fault rfl
    exact ⟨rfl, hfits, fun _ => policy_places machine fault.location?⟩
  · rintro ref o rfl
    exact hfits

theorem permitsBindings_of_surrounds {κ : Type} {bindings : Bindings κ Value}
    (h : ∀ key value, (key, value) ∈ bindings → S.Surrounds machine value) :
    (S.policy machine).PermitsBindings bindings :=
  fun key value hmem => permitsValue_of_surrounds value (h key value hmem)

namespace Encloses

variable {frame : FrameId}

theorem frame_policy (h : S.Encloses machine frame) : (S.policy machine).frame frame :=
  fun _ _ => h.bound

theorem permitsMachine (h : S.Encloses machine frame) :
    (S.policy machine).PermitsMachine machine where
  frames id hid := permitsBindings_of_surrounds hid
  modules name value hmem := permitsValue_of_surrounds value (h.modules hmem)
  fresh id hid name value hmem := by
    -- there is no such frame yet
    rw [Machine.frame_eq_nil hid] at hmem
    cases hmem

end Encloses

/-- Where every value in the machine may be around, with all that it is made of, so may be whatever
is in reach of one. -/
theorem surrounds_of_holds (h : machine.Holds fun value => ∀ part, value.Part part → S.Fits part)
    {value : Value} (hvalue : ∀ part, value.Part part → S.Fits part) :
    S.Surrounds machine value := by
  intro other hreaches
  suffices hall : ∀ part, other.Part part → S.Fits part from hall other .itself
  induction hreaches with
  | itself => exact hvalue
  | item _ hmem ih => exact fun part hpart => ih part (.trans (.item .itself hmem) hpart)
  | entry _ hmem ih => exact fun part hpart => ih part (.trans (.entry .itself hmem) hpart)
  | member _ hmem ih => exact fun part hpart => ih part (.trans (.member .itself hmem) hpart)
  | captured _ hmem _ => exact h.frames _ _ _ hmem

theorem encloses_of_holds (h : machine.Holds fun value => ∀ part, value.Part part → S.Fits part)
    (frame : FrameId) : S.Encloses machine frame where
  bound hmem := surrounds_of_holds h (h.frames _ _ _ hmem)
  modules hmem := surrounds_of_holds h (h.modules _ _ hmem)

end Surroundings

/-! ### Policies as surroundings -/

namespace Policy

variable {P : Policy}

/-- The items of a list that is permitted are. -/
theorem permitsValue_of_mem {values : List Value} (h : Value.AllAlike P.likeness values values)
    {value : Value} (hmem : value ∈ values) : P.PermitsValue value :=
  List.forall₂_same.mp h value hmem

/-- What is in reach of a permitted value is permitted. -/
theorem permitsValue_of_reaches (hmachine : P.PermitsMachine machine) {value other : Value}
    (hvalue : P.PermitsValue value) (h : value.Reaches machine other) : P.PermitsValue other := by
  induction h with
  | itself => exact hvalue
  | item _ hmem ih =>
    cases ih with
    | list hitems => exact permitsValue_of_mem hitems hmem
  | entry _ hmem ih =>
    cases ih with
    | dict hkeys hvalues => exact permitsValue_of_mem hvalues (List.mem_map_of_mem hmem)
  | member _ hmem ih =>
    cases ih with
    | module href name hnames hvalues =>
      exact permitsValue_of_mem hvalues (List.mem_map_of_mem hmem)
  | captured _ hmem ih =>
    cases ih with
    | function href hclosure => exact hmachine.frames _ hclosure.frame.2 _ _ hmem

theorem fits_of_permitsValue {value : Value} (h : P.PermitsValue value) : P.Fits value := by
  cases h with
  | function href hclosure => exact hclosure.context.2
  | builtin href hb => exact hb
  | errorClass hclass => exact hclass
  | exception href hheld => exact hheld.2.1
  | object href ho => exact ho
  | _ => trivial

/-- **Permitted values are enclosed.** -/
theorem surrounds_of_permitsValue (hmachine : P.PermitsMachine machine) {value : Value}
    (hvalue : P.PermitsValue value) : P.Surrounds machine value :=
  fun _ hreaches => fits_of_permitsValue (permitsValue_of_reaches hmachine hvalue hreaches)

theorem encloses_of_permitsMachine (hmachine : P.PermitsMachine machine) {frame : FrameId}
    (hframe : P.frame frame) : P.Encloses machine frame where
  bound h := surrounds_of_permitsValue hmachine (hmachine.frames frame hframe _ _ h)
  modules h := surrounds_of_permitsValue hmachine (hmachine.modules _ _ h)

/-- In a machine that is permitted, functions over any frame were made in permitted contexts. -/
theorem holds_under (hmachine : P.PermitsMachine machine) (hframe : ∀ id, P.frame id) :
    machine.Holds (Value.Under P.context) := by
  have hunder : ∀ value, P.PermitsValue value → value.Under P.context := by
    intro value hvalue part hpart context hcontext
    have hfits := surrounds_of_permitsValue hmachine hvalue part hpart.reaches
    cases part with
    | function ref closure =>
      cases hcontext
      exact hfits
    | _ => cases hcontext
  exact ⟨fun id _ value hmem => hunder value (hmachine.frames id (hframe id) _ _ hmem),
    fun _ value hmem => hunder value (hmachine.modules _ _ hmem)⟩

end Policy

/-! ### Programs in their surroundings -/

/-- A program that runs in the frame has nothing in reach but what may be around, and the code of
the host keeps it so. -/
structure Surroundings.Hold (S : Surroundings) (config : Config) (machine : Machine)
    (frame : FrameId) : Prop where
  /-- The context of the program. -/
  context : S.context config.toContext
  /-- What is in reach. -/
  encloses : S.Encloses machine frame
  /-- The code of the host. -/
  hosts : config.hosts.Respect (S.policy machine).likeness

theorem Surroundings.Hold.admits {S : Surroundings} {config : Config} {machine : Machine}
    {frame : FrameId} (h : S.Hold config machine frame) : (S.policy machine).Admits config :=
  ⟨h.context, h.hosts⟩

/-- The basic host keeps to all surroundings. -/
theorem Surroundings.basic_respect (S : Surroundings) (machine : Machine) :
    Hosts.basic.Respect (S.policy machine).likeness :=
  Hosts.basic_respect (fun _ => ⟨rfl, trivial⟩) (fun _ => trivial) fun _ => ⟨rfl, trivial⟩

end FrameLisp
