import FrameLisp.Proofs.CallFault
import Mathlib.Data.List.Forall2

/-!
# Likeness

Many properties of evaluation compare two runs that are not the same but go alike: they differ in
what a program cannot see, such as the places in its source, the numbers of its frames or the `ref`s
of its functions.  A property of a single run is such a comparison as well, of a run with itself,
where only what has the property counts as alike.

A `Likeness` says what is alike in the small: tokens, places, numbers of frames, contexts, `ref`s,
and which error classes, builtins and objects of the host may be around at all.  This module takes
it to nodes, faults and values, which are alike if they are built alike.  Alike nodes are written
the same way, and alike values are shown the same way and are equal to the same others, which is why
no program can tell them apart.
-/

namespace FrameLisp

/-! ### Faults -/

/-- Faults of the same cause at places that are alike.  An interruption is not among them: it has no
place, and two runs may answer it in ways of their own. -/
inductive Fault.Alike (place : Option Location → Option Location → Prop) : Fault → Fault → Prop
  /-- The program is not well formed. -/
  | malformed (message : String) {location location' : Option Location}
    (h : place location location') :
    Alike place (.malformed message location) (.malformed message location')
  /-- A name has no value. -/
  | unbound (message : String) {location location' : Option Location}
    (h : place location location') :
    Alike place (.unbound message location) (.unbound message location')
  /-- A value has a wrong type. -/
  | mistyped (message : String) {location location' : Option Location}
    (h : place location location') :
    Alike place (.mistyped message location) (.mistyped message location')
  /-- Something is missing. -/
  | runtime (message : String) {location location' : Option Location}
    (h : place location location') :
    Alike place (.runtime message location) (.runtime message location')
  /-- A wrong number of arguments. -/
  | arity (callee reason : String) {location location' : Option Location}
    (h : place location location') :
    Alike place (.arity callee reason location) (.arity callee reason location')
  /-- A fault raised by a called function. -/
  | raised (kind : Kind) (message : String) {location location' : Option Location}
    (h : place location location') :
    Alike place (.raised kind message location) (.raised kind message location')
  /-- Evaluation nested too deeply. -/
  | overflow (depth limit : Nat) {location location' : Option Location}
    (h : place location location') :
    Alike place (.overflow depth limit location) (.overflow depth limit location')

namespace Fault.Alike

variable {place : Option Location → Option Location → Prop} {fault fault' : Fault}

theorem kind_eq (h : fault.Alike place fault') : fault'.kind = fault.kind := by
  cases h <;> rfl

/-- Faults that are alike at the same place are the same. -/
theorem eq_of_place (hplace : ∀ {a a' : Option Location}, place a a' → a' = a)
    (h : fault.Alike place fault') : fault' = fault := by
  cases h with
  | malformed message h => rw [hplace h]
  | unbound message h => rw [hplace h]
  | mistyped message h => rw [hplace h]
  | runtime message h => rw [hplace h]
  | arity callee reason h => rw [hplace h]
  | raised kind message h => rw [hplace h]
  | overflow depth limit h => rw [hplace h]

/-- All faults but an interruption are alike to themselves if places are. -/
theorem self (hplace : ∀ a, place a a) (hne : fault ≠ .interrupted) : fault.Alike place fault := by
  cases fault with
  | malformed message location => exact .malformed message (hplace _)
  | unbound message location => exact .unbound message (hplace _)
  | mistyped message location => exact .mistyped message (hplace _)
  | runtime message location => exact .runtime message (hplace _)
  | arity callee reason location => exact .arity callee reason (hplace _)
  | raised kind message location => exact .raised kind message (hplace _)
  | overflow depth limit location => exact .overflow depth limit (hplace _)
  | interrupted => exact absurd rfl hne

theorem location? (h : fault.Alike place fault') : place fault.location? fault'.location? := by
  cases h <;> assumption

end Fault.Alike

/-! ### What is alike in the small -/

/-- What counts as alike in two runs. -/
structure Likeness where
  /-- Tokens that are alike. -/
  token : Token → Token → Prop
  /-- Places that are alike, or the lack of one. -/
  place : Option Location → Option Location → Prop
  /-- Numbers of frames that are alike. -/
  frame : FrameId → FrameId → Prop
  /-- Contexts that are alike. -/
  context : Context → Context → Prop
  /-- Values with these `ref`s may be alike. -/
  ref : Nat → Nat → Prop
  /-- The error classes that may be around. -/
  errorClass : Fault.Kind → Prop
  /-- Exceptions that hold these faults may be alike. -/
  held : Fault → Fault → Prop
  /-- The builtins that may be around. -/
  builtin : Builtin → Prop
  /-- The objects of the host that may be around. -/
  object : HostObject → Prop
  /-- The variables that have to be alike. -/
  visible : String → Prop
  /-- The counters that may be read. -/
  counter : Nat → Prop
  /-- Tokens that are alike have one kind. -/
  token_kind {t t' : Token} (h : token t t') : t'.kind = t.kind
  /-- Tokens that are alike have one text. -/
  token_text {t t' : Token} (h : token t t') : t'.text = t.text
  /-- Tokens that are alike are at places that are alike. -/
  token_place {t t' : Token} (h : token t t') : place (some t.location) (some t'.location)
  /-- A place may stand in for one that is missing. -/
  place_or {a a' b b' : Option Location} (ha : place a a') (hb : place b b') :
    place (a.or b) (a'.or b')
  /-- A value has one `ref` in each run. -/
  ref_eq_iff {a a' b b' : Nat} (ha : ref a a') (hb : ref b b') : a = b ↔ a' = b'
  /-- The class of a fault that may be handled may be around. -/
  errorClass_of_catches {kind raised : Fault.Kind} (h : errorClass kind)
    (hcatches : kind.catches raised = true) : errorClass raised
  /-- A fault that may be handled may be held. -/
  held_of_alike {fault fault' : Fault} (h : fault.Alike place fault')
    (hkind : errorClass fault.kind) : held fault fault'
  /-- An interruption that may be handled may be held. -/
  held_interrupted (h : errorClass .interrupt) : held .interrupted .interrupted
  /-- Faults that are held have one kind. -/
  held_kind {fault fault' : Fault} (h : held fault fault') : fault'.kind = fault.kind
  /-- Faults that are held have one message. -/
  held_message {fault fault' : Fault} (h : held fault fault') : fault'.message = fault.message
  /-- The class of a fault that is held may be around. -/
  held_errorClass {fault fault' : Fault} (h : held fault fault') : errorClass fault.kind

variable {L : Likeness}

theorem Fault.orAt_arity (callee reason : String) (location here : Option Location) :
    (Fault.arity callee reason location).orAt here = .arity callee reason (location.or here) := by
  cases location <;> rfl

theorem Fault.orAt_raised (kind : Kind) (message : String) (location here : Option Location) :
    (Fault.raised kind message location).orAt here = .raised kind message (location.or here) := by
  cases location <;> rfl

/-- Faults that are alike stay so when a place is supplied to those that lack one. -/
theorem Fault.Alike.orAt {fault fault' : Fault} (h : fault.Alike L.place fault')
    {here here' : Option Location} (hhere : L.place here here') :
    (fault.orAt here).Alike L.place (fault'.orAt here') := by
  cases h with
  | arity callee reason h =>
    rw [orAt_arity, orAt_arity]
    exact .arity callee reason (L.place_or h hhere)
  | raised kind message h =>
    rw [orAt_raised, orAt_raised]
    exact .raised kind message (L.place_or h hhere)
  -- a place is supplied to no other fault
  | malformed message h => exact .malformed message h
  | unbound message h => exact .unbound message h
  | mistyped message h => exact .mistyped message h
  | runtime message h => exact .runtime message h
  | overflow depth limit h => exact .overflow depth limit h

/-- A fault of a called function is alike in two runs once both have supplied a place. -/
theorem Fault.isCalled.alike_orAt {fault : Fault} (h : fault.isCalled = true)
    {here here' : Option Location} (hhere : L.place here here') :
    (fault.orAt here).Alike L.place (fault.orAt here') := by
  cases fault with
  | arity callee reason location =>
    cases location with
    | none => exact .arity callee reason hhere
    | some location => cases h
  | raised kind message location =>
    cases location with
    | none => exact .raised kind message hhere
    | some location => cases h
  | _ => cases h

/-! ### Nodes -/

/-- Nodes that are built alike. -/
inductive Node.Alike (L : Likeness) : Node → Node → Prop
  /-- Leaves with tokens that are alike. -/
  | literal {token token' : Token} (h : L.token token token') (properties : List String) :
    Alike L (.literal token properties) (.literal token' properties)
  /-- Forms of nodes that are alike. -/
  | form {children children' : List Node} (h : List.Forall₂ (Alike L) children children')
    (properties : List String) (inline : Bool) {location location' : Option Location}
    (hlocation : L.place location location') :
    Alike L (.form children properties inline location)
      (.form children' properties inline location')

theorem Node.location?_form (children : List Node) (properties : List String) (inline : Bool)
    (location : Option Location) :
    (Node.form children properties inline location).location? =
      location.or (children.head?.bind Node.location?) := by
  cases location with
  | some location => rfl
  | none =>
    cases children with
    | nil => rfl
    | cons head rest => rfl

namespace Node.Alike

theorem location? {node node' : Node} (h : node.Alike L node') :
    L.place node.location? node'.location? := by
  cases h with
  | literal h properties => exact L.token_place h
  | form h properties inline hlocation =>
    rw [location?_form, location?_form]
    cases h with
    | nil =>
      rw [List.head?_nil, Option.bind_none, Option.or_none, Option.or_none]
      exact hlocation
    | cons hhead hrest => exact L.place_or hlocation hhead.location?

theorem identifier? {node node' : Node} (h : node.Alike L node') :
    node'.identifier? = node.identifier? := by
  cases h with
  | literal h properties =>
    simp only [Node.identifier?, L.token_kind h, L.token_text h]
  | form h properties inline hlocation => rfl

mutual

theorem render {node node' : Node} (h : node.Alike L node') : node'.render = node.render := by
  cases h with
  | literal h properties =>
    simp only [Node.render, renderToken, L.token_kind h, L.token_text h]
  | form h properties inline hlocation =>
    rw [Node.render, Node.render, renderEach h]

theorem renderEach {nodes nodes' : List Node} (h : List.Forall₂ (Node.Alike L) nodes nodes') :
    Node.renderEach nodes' = Node.renderEach nodes := by
  cases h with
  | nil => rfl
  | cons hnode hnodes =>
    rw [Node.renderEach, Node.renderEach, render hnode, renderEach hnodes]

end

end Node.Alike

namespace Node

mutual

/-- A node is alike to itself where all tokens and places are. -/
theorem alike_self (htoken : ∀ token, L.token token token) (hplace : ∀ place, L.place place place)
    (node : Node) : node.Alike L node := by
  cases node with
  | literal token properties => exact .literal (htoken token) properties
  | form children properties inline location =>
    exact .form (alike_self_each htoken hplace children) properties inline (hplace location)

theorem alike_self_each (htoken : ∀ token, L.token token token)
    (hplace : ∀ place, L.place place place) (nodes : List Node) :
    List.Forall₂ (Node.Alike L) nodes nodes := by
  cases nodes with
  | nil => exact .nil
  | cons node nodes =>
    exact .cons (alike_self htoken hplace node) (alike_self_each htoken hplace nodes)

end

end Node

/-- Tokens and places that are alike are the same. -/
structure Likeness.Exact (L : Likeness) : Prop where
  /-- Tokens. -/
  token {t t' : Token} (h : L.token t t') : t' = t
  /-- Places. -/
  place {a a' : Option Location} (h : L.place a a') : a' = a

namespace Likeness.Exact

mutual

theorem node_eq (hL : L.Exact) {node node' : Node} (h : node.Alike L node') : node' = node := by
  cases h with
  | literal h properties => rw [hL.token h]
  | form h properties inline hlocation => rw [hL.nodes_eq h, hL.place hlocation]

theorem nodes_eq (hL : L.Exact) {nodes nodes' : List Node}
    (h : List.Forall₂ (Node.Alike L) nodes nodes') : nodes' = nodes := by
  cases h with
  | nil => rfl
  | cons hnode hnodes => rw [hL.node_eq hnode, hL.nodes_eq hnodes]

end

end Likeness.Exact

/-- Forms that are built alike. -/
structure Form.Alike (L : Likeness) (form form' : Form) : Prop where
  /-- Their nodes are alike. -/
  children : List.Forall₂ (Node.Alike L) form.children form'.children
  /-- They have the same properties. -/
  properties : form'.properties = form.properties
  /-- Both are inline functions, or none is. -/
  inline : form'.inline = form.inline
  /-- They are at places that are alike. -/
  location : L.place form.location form'.location

theorem Node.Alike.form? {node node' : Node} (h : node.Alike L node') :
    Option.Rel (Form.Alike L) node.form? node'.form? := by
  cases h with
  | literal h properties => exact .none
  | form h properties inline hlocation => exact .some ⟨h, rfl, rfl, hlocation⟩

namespace Form.Alike

variable {form form' : Form}

theorem toNode (h : form.Alike L form') : form.toNode.Alike L form'.toNode := by
  obtain ⟨children, properties, inline, location⟩ := form
  obtain ⟨children', properties', inline', location'⟩ := form'
  obtain ⟨hchildren, rfl, rfl, hlocation⟩ := h
  exact .form hchildren _ _ hlocation

theorem head? (h : form.Alike L form') : Option.Rel (Node.Alike L) form.head? form'.head? := by
  unfold Form.head?
  match form.children, form'.children, h.children with
  | _, _, .nil => exact .none
  | _, _, .cons hhead hrest => exact .some hhead

theorem tail (h : form.Alike L form') : List.Forall₂ (Node.Alike L) form.tail form'.tail := by
  unfold Form.tail
  match form.children, form'.children, h.children with
  | _, _, .nil => exact .nil
  | _, _, .cons hhead hrest => exact hrest

theorem isQuoted (h : form.Alike L form') : form'.isQuoted = form.isQuoted := by
  unfold Form.isQuoted
  rw [h.properties]

theorem headIs (h : form.Alike L form') (name : String) : form'.headIs name = form.headIs name := by
  unfold Form.headIs
  match form.head?, form'.head?, h.head? with
  | _, _, .none => rfl
  | _, _, .some hhead => rw [Option.bind_some, Option.bind_some, hhead.identifier?]

theorem isDict (h : form.Alike L form') : form'.isDict = form.isDict :=
  h.headIs dictConstructor

theorem items (h : form.Alike L form') : List.Forall₂ (Node.Alike L) form.items form'.items := by
  unfold Form.items
  rw [h.headIs listConstructor]
  split
  · exact h.tail
  · exact h.children

theorem headLocation? (h : form.Alike L form') :
    L.place form.headLocation? form'.headLocation? := by
  unfold Form.headLocation?
  match form.head?, form'.head?, h.head? with
  | _, _, .none => exact h.location
  | _, _, .some hhead => exact L.place_or hhead.location? h.location

end Form.Alike

/-! ### Values -/

/-- Functions of alike nodes over alike frames. -/
structure Closure.Alike (L : Likeness) (closure closure' : Closure) : Prop where
  /-- They go by one name. -/
  name : closure'.name = closure.name
  /-- They bind their arguments in the same way. -/
  signature : closure'.signature = closure.signature
  /-- Their nodes are alike. -/
  body : List.Forall₂ (Node.Alike L) closure.body closure'.body
  /-- Their frames are alike. -/
  frame : L.frame closure.frame closure'.frame
  /-- Their contexts are alike. -/
  context : L.context closure.context closure'.context
  /-- They were made at places that are alike. -/
  location : L.place closure.location closure'.location

/-- Values that are built alike. -/
inductive Value.Alike (L : Likeness) : Value → Value → Prop
  /-- Nothing. -/
  | nil : Alike L .nil .nil
  /-- One truth value. -/
  | bool (b : Bool) : Alike L (.bool b) (.bool b)
  /-- One whole number. -/
  | int (n : Int64) : Alike L (.int n) (.int n)
  /-- One float. -/
  | float (x : Float) : Alike L (.float x) (.float x)
  /-- One text. -/
  | str (text : String) : Alike L (.str text) (.str text)
  /-- One keyword. -/
  | keyword (name : String) : Alike L (.keyword name) (.keyword name)
  /-- One symbol. -/
  | symbol (name : String) : Alike L (.symbol name) (.symbol name)
  /-- Lists, item by item. -/
  | list {items items' : List Value} (h : List.Forall₂ (Alike L) items items') :
    Alike L (.list items) (.list items')
  /-- Dicts with the same keys in the same order. -/
  | dict {entries entries' : List (Key × Value)}
    (hkeys : Bindings.keys entries' = Bindings.keys entries)
    (h : List.Forall₂ (Alike L) (entries.map Prod.snd) (entries'.map Prod.snd)) :
    Alike L (.dict entries) (.dict entries')
  /-- Functions of the program. -/
  | function {ref ref' : Nat} (href : L.ref ref ref') {closure closure' : Closure}
    (h : closure.Alike L closure') : Alike L (.function ref closure) (.function ref' closure')
  /-- One builtin. -/
  | builtin {ref ref' : Nat} (href : L.ref ref ref') {b : Builtin} (h : L.builtin b) :
    Alike L (.builtin ref b) (.builtin ref' b)
  /-- One error class. -/
  | errorClass {kind : Fault.Kind} (h : L.errorClass kind) :
    Alike L (.errorClass kind) (.errorClass kind)
  /-- Caught faults. -/
  | exception {ref ref' : Nat} (href : L.ref ref ref') {fault fault' : Fault}
    (h : L.held fault fault') : Alike L (.exception ref fault) (.exception ref' fault')
  /-- One object of the host. -/
  | object {ref ref' : Nat} (href : L.ref ref ref') {object : HostObject} (h : L.object object) :
    Alike L (.object ref object) (.object ref' object)
  /-- Modules with the same names for their members, in the same order. -/
  | module {ref ref' : Nat} (href : L.ref ref ref') (name : String)
    {members members' : List (String × Value)}
    (hnames : Bindings.keys members' = Bindings.keys members)
    (h : List.Forall₂ (Alike L) (members.map Prod.snd) (members'.map Prod.snd)) :
    Alike L (.module ref name members) (.module ref' name members')

/-- Values of two lists, one by one. -/
abbrev Value.AllAlike (L : Likeness) : List Value → List Value → Prop :=
  List.Forall₂ (Value.Alike L)

/-- Bindings of the same keys in the same order, to values that are alike. -/
def Bindings.Alike (L : Likeness) {κ : Type} (bindings bindings' : Bindings κ Value) : Prop :=
  List.Forall₂ (fun pair pair' => pair'.1 = pair.1 ∧ pair.2.Alike L pair'.2) bindings bindings'

namespace Bindings.Alike

variable {κ : Type} {bindings bindings' more more' : Bindings κ Value}

/-- Keys and values apart. -/
theorem iff_keys_values :
    Bindings.Alike L bindings bindings' ↔
      Bindings.keys bindings' = Bindings.keys bindings ∧
        Value.AllAlike L (bindings.map Prod.snd) (bindings'.map Prod.snd) := by
  induction bindings generalizing bindings' with
  | nil =>
    cases bindings' with
    | nil => exact ⟨fun _ => ⟨rfl, .nil⟩, fun _ => .nil⟩
    | cons pair' rest' =>
      constructor
      · intro h
        cases h
      · rintro ⟨hkeys, -⟩
        cases hkeys
  | cons pair rest ih =>
    cases bindings' with
    | nil =>
      constructor
      · intro h
        cases h
      · rintro ⟨hkeys, -⟩
        cases hkeys
    | cons pair' rest' =>
      unfold Bindings.Alike at ih ⊢
      simp only [List.forall₂_cons, ih, Bindings.keys, List.map_cons, List.cons.injEq]
      tauto

variable [DecidableEq κ]

theorem find? (h : Bindings.Alike L bindings bindings') (key : κ) :
    Option.Rel (Value.Alike L) (bindings.find? key) (bindings'.find? key) := by
  induction h with
  | nil => exact .none
  | @cons pair pair' rest rest' hpair hrest ih =>
    obtain ⟨k, v⟩ := pair
    obtain ⟨k', v'⟩ := pair'
    obtain ⟨rfl, hvalue⟩ : k' = k ∧ v.Alike L v' := hpair
    unfold Bindings.find?
    split
    · exact .some hvalue
    · exact ih

theorem insert (h : Bindings.Alike L bindings bindings') (key : κ) {value value' : Value}
    (hvalue : value.Alike L value') :
    Bindings.Alike L (bindings.insert key value) (bindings'.insert key value') := by
  induction h with
  | nil => exact .cons ⟨rfl, hvalue⟩ .nil
  | @cons pair pair' rest rest' hpair hrest ih =>
    obtain ⟨k, v⟩ := pair
    obtain ⟨k', v'⟩ := pair'
    obtain ⟨rfl, hold⟩ : k' = k ∧ v.Alike L v' := hpair
    unfold Bindings.insert
    split
    · exact .cons ⟨rfl, hvalue⟩ hrest
    · exact .cons ⟨rfl, hold⟩ ih

theorem insertAll (h : Bindings.Alike L bindings bindings') (hmore : Bindings.Alike L more more') :
    Bindings.Alike L (bindings.insertAll more) (bindings'.insertAll more') := by
  unfold Bindings.insertAll
  induction hmore generalizing bindings bindings' with
  | nil => exact h
  | @cons pair pair' rest rest' hpair hrest ih =>
    obtain ⟨hkey, hvalue⟩ := hpair
    rw [List.foldl_cons, List.foldl_cons, hkey]
    exact ih (h.insert pair.1 hvalue)

end Bindings.Alike

namespace Value.Alike

variable {value value' other other' : Value}

/-! ### What can be seen of a value -/

theorem ofEntries {entries entries' : List (Key × Value)}
    (h : Bindings.Alike L entries entries') : (Value.dict entries).Alike L (.dict entries') := by
  obtain ⟨hkeys, hvalues⟩ := Bindings.Alike.iff_keys_values.mp h
  exact .dict hkeys hvalues

theorem typeName (h : value.Alike L value') : value'.typeName = value.typeName := by
  cases h <;> rfl

theorem className? (h : value.Alike L value') : value'.className? = value.className? := by
  cases h <;> rfl

theorem isCallable (h : value.Alike L value') : value'.isCallable = value.isCallable := by
  cases h <;> rfl

theorem int? (h : value.Alike L value') : value'.int? = value.int? := by
  cases h <;> rfl

theorem float? (h : value.Alike L value') : value'.float? = value.float? := by
  cases h <;> rfl

theorem str? (h : value.Alike L value') : value'.str? = value.str? := by
  cases h <;> rfl

theorem items? (h : value.Alike L value') :
    Option.Rel (Value.AllAlike L) value.items? value'.items? := by
  cases h with
  | list h => exact .some h
  | _ => exact .none

theorem key? (h : value.Alike L value') : value'.key? = value.key? := by
  cases h <;> rfl

theorem ofKey (key : Key) : key.toValue.Alike L key.toValue := by
  cases key with
  | nil => exact .nil
  | bool b => exact .bool b
  | int n => exact .int n
  | str text => exact .str text
  | keyword name => exact .keyword name
  | symbol name => exact .symbol name

theorem isTruthy (h : value.Alike L value') : value'.isTruthy = value.isTruthy := by
  cases h with
  | list h =>
    cases h with
    | nil => rfl
    | cons hitem hitems => rfl
  | @dict entries entries' hkeys h =>
    have hlength : entries'.length = entries.length := by
      simpa [Bindings.keys] using congrArg List.length hkeys
    cases entries <;> cases entries' <;> simp_all [Value.isTruthy]
  | _ => rfl

end Value.Alike

/-- The values of bindings are smaller than the bindings. -/
theorem Bindings.sizeOf_values_le {κ : Type} [SizeOf κ] (bindings : Bindings κ Value) :
    sizeOf (bindings.map Prod.snd) ≤ sizeOf bindings := by
  induction bindings with
  | nil => exact Nat.le_refl _
  | cons pair rest ih =>
    obtain ⟨key, value⟩ := pair
    simp only [List.map_cons, List.cons.sizeOf_spec, Prod.mk.sizeOf_spec]
    omega

theorem Value.shownEntries_eq (entries : List (Key × Value)) :
    Value.shownEntries entries =
      List.zipWith (fun (key : Key) text => key.shown ++ " " ++ text) (Bindings.keys entries)
        (Value.shownItems (entries.map Prod.snd)) := by
  induction entries with
  | nil => rfl
  | cons entry entries ih =>
    obtain ⟨key, value⟩ := entry
    rw [Value.shownEntries, ih]
    rfl

theorem Value.shownMembers_eq (members : List (String × Value)) :
    Value.shownMembers members =
      List.zipWith (fun name text => Text.quoted name ++ ": " ++ text) (Bindings.keys members)
        (Value.shownItems (members.map Prod.snd)) := by
  induction members with
  | nil => rfl
  | cons member members ih =>
    obtain ⟨name, value⟩ := member
    rw [Value.shownMembers, ih]
    rfl

/-- Whether values have equal ones under their keys in a dict. -/
def Value.equalUnder (others : List (Key × Value)) : List Key → List Value → Bool
  | key :: keys, value :: values =>
    (match Bindings.find? key others with
      | some other => value.equal other
      | none => false) && equalUnder others keys values
  | _, _ => true

theorem Value.equalEntries_eq (entries others : List (Key × Value)) :
    Value.equalEntries entries others =
      Value.equalUnder others (Bindings.keys entries) (entries.map Prod.snd) := by
  induction entries with
  | nil => rw [Value.equalEntries]; rfl
  | cons entry entries ih =>
    obtain ⟨key, value⟩ := entry
    rw [Value.equalEntries, ih]
    rfl

namespace Value.Alike

mutual

/-- **Values that are alike are shown the same way.** -/
theorem shown {value value' : Value} (h : value.Alike L value') :
    value'.shown = value.shown := by
  cases h with
  | list h => rw [Value.shown, Value.shown, shownItems h]
  | @dict entries entries' hkeys h =>
    have hsize := Bindings.sizeOf_values_le entries
    rw [Value.shown, Value.shown, shownEntries_eq, shownEntries_eq, hkeys, shownItems h]
  | function href h => rw [Value.shown, Value.shown, h.name]
  | exception href h => rw [Value.shown, Value.shown, L.held_kind h, L.held_message h]
  | @module ref ref' href name members members' hnames h =>
    have hsize := Bindings.sizeOf_values_le members
    rw [Value.shown, Value.shown, shownMembers_eq, shownMembers_eq, hnames, shownItems h]
  | _ => simp only [Value.shown]
termination_by sizeOf value

theorem shownItems {items items' : List Value} (h : Value.AllAlike L items items') :
    Value.shownItems items' = Value.shownItems items := by
  cases h with
  | nil => rfl
  | cons hitem hitems =>
    rw [Value.shownItems, Value.shownItems, shown hitem, shownItems hitems]
termination_by sizeOf items

end

theorem plain {value value' : Value} (h : value.Alike L value') : value'.plain = value.plain := by
  cases h with
  | str text => rfl
  | exception href h => simp only [Value.plain, L.held_kind h, L.held_message h]
  | nil => rfl
  | bool b => rfl
  | int n => rfl
  | float x => rfl
  | keyword name => rfl
  | symbol name => rfl
  | list h => exact shown (.list h)
  | dict hkeys h => exact shown (.dict hkeys h)
  | function href h => exact shown (.function href h)
  | builtin href h => exact shown (.builtin href h)
  | errorClass h => rfl
  | object href h => exact shown (.object href h)
  | module href name hnames h => exact shown (.module href name hnames h)

theorem joined (between : String) {values values' : List Value}
    (h : Value.AllAlike L values values') :
    Value.joined between values' = Value.joined between values := by
  have hplain : values'.map Value.plain = values.map Value.plain := by
    induction h with
    | nil => rfl
    | cons hvalue hvalues ih => rw [List.map_cons, List.map_cons, hvalue.plain, ih]
  unfold Value.joined
  rw [hplain]

mutual

/-- **Values that are alike are equal to the same values**, as far as these are alike. -/
theorem equal {value value' other other' : Value} (h : value.Alike L value')
    (hother : other.Alike L other') : value'.equal other' = value.equal other := by
  cases h with
  | list h =>
    cases hother with
    | list hother => rw [Value.equal, Value.equal, equalItems h hother]
    | _ => simp only [Value.equal]
  | @dict entries entries' hkeys h =>
    cases hother with
    | @dict others others' hkeys' hother =>
      have hlength : entries'.length = entries.length := by
        simpa [Bindings.keys] using congrArg List.length hkeys
      have hlength' : others'.length = others.length := by
        simpa [Bindings.keys] using congrArg List.length hkeys'
      have hothers : Bindings.Alike L others others' :=
        Bindings.Alike.iff_keys_values.mpr ⟨hkeys', hother⟩
      have hsize := Bindings.sizeOf_values_le entries
      rw [Value.equal, Value.equal, equalEntries_eq, equalEntries_eq, hkeys, hlength, hlength',
        equalUnder hothers _ h]
    | _ => simp only [Value.equal]
  | function href h =>
    cases hother with
    | function href' h' => simp [Value.equal, L.ref_eq_iff href href']
    | _ => simp only [Value.equal]
  | builtin href h =>
    cases hother with
    | builtin href' h' => simp [Value.equal, L.ref_eq_iff href href']
    | _ => simp only [Value.equal]
  | exception href h =>
    cases hother with
    | exception href' h' => simp [Value.equal, L.ref_eq_iff href href']
    | _ => simp only [Value.equal]
  | object href h =>
    cases hother with
    | object href' h' => simp [Value.equal, L.ref_eq_iff href href']
    | _ => simp only [Value.equal]
  | module href name hnames h =>
    cases hother with
    | module href' name' hnames' h' => simp [Value.equal, L.ref_eq_iff href href']
    | _ => simp only [Value.equal]
  | _ => cases hother <;> simp only [Value.equal]
termination_by sizeOf value

theorem equalItems {items items' others others' : List Value} (h : Value.AllAlike L items items')
    (hothers : Value.AllAlike L others others') :
    Value.equalItems items' others' = Value.equalItems items others := by
  cases h with
  | nil =>
    cases hothers with
    | nil => rfl
    | cons hother hothers => simp only [Value.equalItems]
  | cons hitem hitems =>
    cases hothers with
    | nil => simp only [Value.equalItems]
    | cons hother hothers =>
      rw [Value.equalItems, Value.equalItems, equal hitem hother, equalItems hitems hothers]
termination_by sizeOf items

theorem equalUnder {others others' : List (Key × Value)} (hothers : Bindings.Alike L others others')
    (keys : List Key) {values values' : List Value} (h : Value.AllAlike L values values') :
    Value.equalUnder others' keys values' = Value.equalUnder others keys values := by
  cases h with
  | nil => cases keys <;> rfl
  | cons hvalue hvalues =>
    cases keys with
    | nil => rfl
    | cons key keys =>
      rw [Value.equalUnder, Value.equalUnder, equalUnder hothers keys hvalues]
      match Bindings.find? key others, Bindings.find? key others', hothers.find? key with
      | _, _, .none => rfl
      | _, _, .some hother =>
        dsimp only
        rw [equal hvalue hother]
termination_by sizeOf values

end

end Value.Alike

/-! ### Machines -/

/-- All that a run can get hold of in the machine is alike to itself. -/
structure Machine.SelfAlike (L : Likeness) (machine : Machine) : Prop where
  /-- The variables in the frames that functions may be over. -/
  frames (id : FrameId) (h : L.frame id id) :
    Bindings.Alike L (machine.frame id) (machine.frame id)
  /-- The modules. -/
  modules : Bindings.Alike L machine.modules machine.modules
  /-- Functions may be over new frames. -/
  fresh (id : FrameId) (h : machine.frames.size ≤ id) : L.frame id id

namespace Machine.SelfAlike

variable {machine : Machine}

/-- Only frames, their number and modules matter. -/
theorem of_eq (h : machine.SelfAlike L) {machine' : Machine}
    (hframes : machine'.frames = machine.frames) (hmodules : machine'.modules = machine.modules) :
    machine'.SelfAlike L := by
  refine ⟨fun id hid => ?_, ?_, ?_⟩
  · have hframe : machine'.frame id = machine.frame id := by
      unfold Machine.frame
      rw [hframes]
    rw [hframe]
    exact h.frames id hid
  · rw [hmodules]
    exact h.modules
  · rw [hframes]
    exact h.fresh

theorem addFrame (h : machine.SelfAlike L) {frame : Frame} (hframe : Bindings.Alike L frame frame) :
    (machine.addFrame frame).SelfAlike L := by
  refine ⟨fun id hid => ?_, h.modules, fun id hid => ?_⟩
  · unfold Machine.frame Machine.addFrame
    rw [Array.getElem?_push]
    split
    · exact hframe
    · exact h.frames id hid
  · have hsize : machine.frames.size + 1 ≤ id := by
      simpa [Machine.addFrame] using hid
    exact h.fresh id (by omega)

theorem define (h : machine.SelfAlike L) (id : FrameId) (name : String) {value : Value}
    (hvalue : value.Alike L value) : (machine.define id name value).SelfAlike L := by
  refine ⟨fun other hother => ?_, h.modules, fun other hother => ?_⟩
  · have hold := h.frames other hother
    unfold Machine.frame at hold ⊢
    unfold Machine.define
    rw [Array.getElem?_modify]
    split
    · -- this is the frame that is written, if it exists
      cases hframe : machine.frames[other]? with
      | none => exact .nil
      | some frame =>
        rw [hframe] at hold
        exact Bindings.Alike.insert hold name hvalue
    · exact hold
  · refine h.fresh other ?_
    simpa [Machine.define] using hother

end Machine.SelfAlike

/-! ### Coarser likenesses -/

/-- What is alike in the first sense is alike in the second. -/
structure Likeness.Refines (L L' : Likeness) : Prop where
  /-- Tokens. -/
  token {t t' : Token} (h : L.token t t') : L'.token t t'
  /-- Places. -/
  place {a a' : Option Location} (h : L.place a a') : L'.place a a'
  /-- Numbers of frames. -/
  frame {id id' : FrameId} (h : L.frame id id') : L'.frame id id'
  /-- Contexts. -/
  context {c c' : Context} (h : L.context c c') : L'.context c c'
  /-- `ref`s. -/
  ref {r r' : Nat} (h : L.ref r r') : L'.ref r r'
  /-- Error classes. -/
  errorClass {kind : Fault.Kind} (h : L.errorClass kind) : L'.errorClass kind
  /-- Faults that are held. -/
  held {fault fault' : Fault} (h : L.held fault fault') : L'.held fault fault'
  /-- Builtins. -/
  builtin {b : Builtin} (h : L.builtin b) : L'.builtin b
  /-- Objects of the host. -/
  object {o : HostObject} (h : L.object o) : L'.object o

namespace Likeness.Refines

variable {L L' : Likeness}

mutual

theorem node (hrefines : L.Refines L') {node node' : Node} (h : node.Alike L node') :
    node.Alike L' node' := by
  cases h with
  | literal h properties => exact .literal (hrefines.token h) properties
  | form h properties inline hlocation =>
    exact .form (hrefines.nodes h) properties inline (hrefines.place hlocation)

theorem nodes (hrefines : L.Refines L') {nodes nodes' : List Node}
    (h : List.Forall₂ (Node.Alike L) nodes nodes') : List.Forall₂ (Node.Alike L') nodes nodes' := by
  cases h with
  | nil => exact .nil
  | cons hnode hnodes => exact .cons (hrefines.node hnode) (hrefines.nodes hnodes)

end

theorem closure (hrefines : L.Refines L') {closure closure' : Closure}
    (h : closure.Alike L closure') : closure.Alike L' closure' :=
  ⟨h.name, h.signature, hrefines.nodes h.body, hrefines.frame h.frame,
    hrefines.context h.context, hrefines.place h.location⟩

mutual

theorem value (hrefines : L.Refines L') {value value' : Value} (h : value.Alike L value') :
    value.Alike L' value' := by
  cases h with
  | nil => exact .nil
  | bool b => exact .bool b
  | int n => exact .int n
  | float x => exact .float x
  | str text => exact .str text
  | keyword name => exact .keyword name
  | symbol name => exact .symbol name
  | list h => exact .list (hrefines.values h)
  | @dict entries entries' hkeys h =>
    have hsize := Bindings.sizeOf_values_le entries
    exact .dict hkeys (hrefines.values h)
  | function href h => exact .function (hrefines.ref href) (hrefines.closure h)
  | builtin href h => exact .builtin (hrefines.ref href) (hrefines.builtin h)
  | errorClass h => exact .errorClass (hrefines.errorClass h)
  | exception href h => exact .exception (hrefines.ref href) (hrefines.held h)
  | object href h => exact .object (hrefines.ref href) (hrefines.object h)
  | @module ref ref' href name members members' hnames h =>
    have hsize := Bindings.sizeOf_values_le members
    exact .module (hrefines.ref href) name hnames (hrefines.values h)
termination_by sizeOf value

theorem values (hrefines : L.Refines L') {values values' : List Value}
    (h : Value.AllAlike L values values') : Value.AllAlike L' values values' := by
  cases h with
  | nil => exact .nil
  | cons hvalue hvalues => exact .cons (hrefines.value hvalue) (hrefines.values hvalues)
termination_by sizeOf values

end

theorem bindings (hrefines : L.Refines L') {κ : Type} {bindings bindings' : Bindings κ Value}
    (h : Bindings.Alike L bindings bindings') : Bindings.Alike L' bindings bindings' :=
  h.imp fun _ _ hpair => ⟨hpair.1, hrefines.value hpair.2⟩

end Likeness.Refines

end FrameLisp
