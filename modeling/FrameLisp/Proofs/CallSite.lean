import FrameLisp.Proofs.Inversion
import FrameLisp.Proofs.ShapeSafety

/-!
# Where calls fail

Six kinds of forms call a function: a call, a keyword that is looked up, a method of an object or of
a value, the binding of a module, and a `let` with a pattern.  `CallSite` says that the evaluation
of such a form gets as far as a certain call.  If that call fails, then the form fails with the same
fault, to which the place of the form's head is supplied if it has none (`CallSite.fault_eq`).

So a fault that has a place when it leaves the call keeps it.  That is so for the fault of a
function that was given a wrong number of arguments, which is where the function was made
(`Closure.call_eq_arity`), and it makes no difference whether the function is called itself or
through builtins that call (`Value.HandsOn`).
-/

namespace FrameLisp

/-! ### Supplying a place -/

/-- A fault that has a place keeps it. -/
theorem Fault.orAt_of_location {fault : Fault} {location : Location}
    (h : fault.location? = some location) (here : Option Location) : fault.orAt here = fault := by
  cases fault with
  | arity callee reason place =>
    obtain rfl : place = some location := h
    rfl
  | raised kind message place =>
    obtain rfl : place = some location := h
    rfl
  | _ => rfl

/-- The fault of a called function gets the place that is supplied. -/
theorem Fault.location?_orAt_of_isCalled {fault : Fault} (h : fault.isCalled = true)
    (here : Option Location) : (fault.orAt here).location? = here := by
  cases fault with
  | arity callee reason place =>
    cases place with
    | none => rfl
    | some location => cases h
  | raised kind message place =>
    cases place with
    | none => rfl
    | some location => cases h
  | _ => cases h

/-! ### Calls through builtins -/

/-- Code that calls and gives what the call gives, or fails as it does. -/
def HostCode.handOn (callee : Value) (args : List Value) : HostCode :=
  .call callee args fun
    | .ok value => .give value
    | .error fault => .fail fault

theorem HostCode.run_handOn {callee : Value} {args : List Value} {code : HostCode}
    (h : code = .handOn callee args)
    (calls : ∀ inner given, code.Calls inner given → Eval Value) :
    code.run calls = calls callee args (h ▸ .here) := by
  subst h
  funext machine
  show (Eval.outcome (calls callee args .here) >>= _ : Eval Value) machine = _
  rw [Eval.bind_eq]
  unfold Eval.outcome
  cases calls callee args .here machine with
  | ok value last => rfl
  | error stop last => cases stop <;> rfl

/-- A call of the first value with the first arguments comes down to a call of the second. -/
inductive Value.HandsOn (hosts : Hosts) : Value → List Value → Value → List Value → Prop
  /-- The call itself. -/
  | itself (callee : Value) (args : List Value) : HandsOn hosts callee args callee args
  /-- A call through `apply`. -/
  | apply (ref : Nat) {inner callee : Value} {items args : List Value}
    (h : HandsOn hosts inner items callee args) :
    HandsOn hosts (.builtin ref .apply) [inner, .list items] callee args
  /-- A call through a function of the host that does nothing else for its arguments. -/
  | host (ref : Nat) (name : String) {arity : Int} {key : String} {given : List Value}
    {inner callee : Value} {items args : List Value}
    (hadmits : (Builtin.host name arity key).Admits given.length)
    (hcode : hosts.function key given = .handOn inner items)
    (h : HandsOn hosts inner items callee args) :
    HandsOn hosts (.builtin ref (.host name arity key)) given callee args

theorem Builtin.checkArity_of_admits {b : Builtin} {args : List Value} (h : b.Admits args.length) :
    b.checkArity args = .ok () := by
  unfold checkArity
  split
  · rfl
  · rename_i hfixed
    have hcount : args.length = b.arity.toNat := h.resolve_left hfixed
    have hallows : (Arity.exactly b.arity.toNat).allows args.length = true := decide_eq_true hcount
    unfold Arity.check
    rw [Arity.complaint?_eq_none_iff.mpr hallows]

theorem Value.HandsOn.call_eq {hosts : Hosts} {callee inner : Value} {args items : List Value}
    (h : callee.HandsOn hosts args inner items) (evaluate : Context → Evaluator) :
    callee.call hosts evaluate args = inner.call hosts evaluate items := by
  induction h with
  | itself callee args => rfl
  | apply ref h ih =>
    rw [Value.call_builtin, ← ih]
    rfl
  | host ref name hadmits hcode h ih =>
    rw [Value.call_builtin, Builtin.checkArity_of_admits hadmits, ← ih]
    exact HostCode.run_handOn hcode _

/-- The computation comes down to a call of a value: by a chain of calls that starts with a value or
with a member of a module. -/
inductive Value.IsCalledBy (hosts : Hosts) (evaluate : Context → Evaluator) (callee : Value)
    (args : List Value) : Eval Value → Prop
  /-- A value is called. -/
  | value {outer : Value} {items : List Value} (h : outer.HandsOn hosts items callee args) :
    IsCalledBy hosts evaluate callee args (outer.call hosts evaluate items)
  /-- A member of a module is called. -/
  | member (moduleName : String) {members : List (String × Value)} {name : String} {outer : Value}
    {items : List Value} (hfind : Bindings.find? name members = some outer)
    (h : outer.HandsOn hosts items callee args) :
    IsCalledBy hosts evaluate callee args
      ((Object.module moduleName members).call hosts evaluate name items)

/-- A chain of calls starts with a value that can be called if it ends with one. -/
theorem Value.HandsOn.isCallable {hosts : Hosts} {callee inner : Value} {args items : List Value}
    (h : callee.HandsOn hosts args inner items) (hinner : inner.isCallable = true) :
    callee.isCallable = true := by
  cases h with
  | itself => exact hinner
  | apply ref h => rfl
  | host ref name hadmits hcode h => rfl

theorem Value.IsCalledBy.eq_call {hosts : Hosts} {evaluate : Context → Evaluator} {callee : Value}
    {args : List Value} {call : Eval Value} (h : callee.IsCalledBy hosts evaluate args call)
    (hcallable : callee.isCallable = true) : call = callee.call hosts evaluate args := by
  cases h with
  | value h => exact h.call_eq evaluate
  | member moduleName hfind h =>
    rw [← h.call_eq evaluate]
    unfold Object.call Object.callMember
    simp only [hfind, h.isCallable hcallable, if_true]

/-- A function that is given a wrong number of arguments fails where it was made, before anything is
evaluated. -/
theorem Closure.call_eq_arity {closure : Closure} {args : List Value} {reason : String}
    (h : closure.signature.arity.complaint? args.length = some reason)
    (evaluate : Context → Evaluator) (kwargs : List (String × Value)) (machine : Machine) :
    closure.call evaluate args kwargs machine =
      .error (.fault (.arity closure.name reason closure.location)) machine := by
  have hbindings : closure.bindings args kwargs =
      .error (.fault (.arity closure.name reason closure.location)) := by
    unfold Closure.bindings
    rw [h]
  unfold Closure.call
  rw [hbindings]
  rfl

/-- An operation that takes any number of arguments only computes. -/
theorem Evaluation.call_operation (hosts : Hosts) (evaluate : Context → Evaluator) (ref : Nat)
    {op : Operation} (h : op.arity < 0) (args : List Value) :
    (Value.builtin ref (.operation op)).call hosts evaluate args = Eval.ofExcept (op.run args) := by
  have harity : (Builtin.operation op).checkArity args = .ok () := if_pos h
  rw [Value.call_builtin, harity]
  rfl

/-! ### Functions -/

namespace Evaluation

variable {config : Config} {form : Form} {frame : FrameId} {machine machine' : Machine}
  {value : Value}

/-- The value is a function that was made at a place. -/
def MadeAt (location : Option Location) (value : Value) : Prop :=
  ∃ ref closure, value = .function ref closure ∧ closure.location = location

/-- A function is over the frame that it is made in. -/
theorem of_makeFunction_ok {context : Context} {formName name : String} {parameters : Node}
    {body : List Node} {location : Option Location}
    (h : makeFunction context formName name parameters body frame location machine =
      .ok value machine') :
    ∃ ref signature, value = .function ref { name, signature, body, frame, context, location } := by
  obtain ⟨inner, machine₁, -, h⟩ := Eval.of_bind_ok h
  obtain ⟨signature, machine₂, -, h⟩ := Eval.of_bind_ok h
  obtain ⟨ref, machine₃, -, h⟩ := Eval.of_bind_ok h
  cases h
  exact ⟨ref, signature, rfl⟩

theorem makeFunction_madeAt {context : Context} {formName name : String} {parameters : Node}
    {body : List Node} {location : Option Location}
    (h : makeFunction context formName name parameters body frame location machine =
      .ok value machine') :
    MadeAt location value := by
  obtain ⟨ref, signature, rfl⟩ := of_makeFunction_ok h
  exact ⟨ref, _, rfl, rfl⟩

theorem function_madeAt (h : function config form frame machine = .ok value machine') :
    MadeAt form.headLocation? value := by
  obtain ⟨_, _, -, h⟩ := Eval.of_bind_ok h
  obtain ⟨parameters, _, -, h⟩ := Eval.of_bind_ok h
  obtain ⟨body, _, -, h⟩ := Eval.of_bind_ok h
  exact makeFunction_madeAt h

/-- A definition of a function gives a function that is made there, unless its name is bound and to
be left alone. -/
theorem defineFunction_madeAt {once : Bool}
    (h : defineFunction config once form frame machine = .ok value machine') :
    MadeAt form.headLocation? value ∨
      once = true ∧ ∃ name, machine.lookup? frame name = some value := by
  obtain ⟨_, machine₁, hvalidate, h₁⟩ := Eval.of_bind_ok h
  obtain ⟨target, machine₂, htarget, h₂⟩ := Eval.of_bind_ok h₁
  obtain ⟨name, machine₃, hname, h₃⟩ := Eval.of_bind_ok h₂
  -- up to here nothing was changed
  obtain ⟨-, rfl⟩ := Config.of_validate_ok hvalidate
  obtain ⟨-, rfl⟩ := Eval.of_inBounds_ok htarget
  obtain ⟨-, rfl⟩ := Eval.of_identifier_ok hname
  rcases of_defineBy_ok h₃ with ⟨honce, hlookup, -⟩ | ⟨-, last, hcompute, -⟩
  · exact .inr ⟨honce, name, hlookup⟩
  · obtain ⟨parameters, _, -, h⟩ := Eval.of_bind_ok hcompute
    obtain ⟨body, _, -, h⟩ := Eval.of_bind_ok h
    exact .inl (makeFunction_madeAt h)

/-! ### The forms that call -/

/-- The form is evaluated by its head: it is neither quoted nor inline. -/
structure HeadedBy (form : Form) (head : Node) : Prop where
  /-- It is not quoted. -/
  unquoted : form.isQuoted = false
  /-- It is not an inline function. -/
  plain : form.inline = false
  /-- This is its head. -/
  head : form.head? = some head

/-- A form with this head calls what the head evaluates to. -/
def IsCallee : Node → Prop
  | .form .. => True
  | .literal token properties =>
    token.kind = .identifier ∧ properties.contains quotedProperty = false ∧
      SpecialForm.ofName? token.text = none ∧ isDotName token.text = false

/-- The head is a name that is not quoted. -/
def IsName (head : Node) (name : String) : Prop :=
  ∃ token properties, head = .literal token properties ∧ token.kind = .identifier ∧
    token.text = name ∧ properties.contains quotedProperty = false

/-- The key under which a pattern looks for its name at position `i`. -/
def patternKey (byName : Bool) (i : Nat) (name : String) : Value :=
  if byName then Value.ofKeyword name else .ofNat i

/-- The names of a pattern. -/
def patternNames (pattern : Form) : List Node :=
  if pattern.isDict then pattern.tail else pattern.items

/-- The evaluation of a form on a machine comes to a call, which it makes on another machine. -/
inductive CallSite (config : Config) (evaluate : Context → Evaluator) (top : Bool) (form : Form)
    (frame : FrameId) (machine : Machine) : Eval Value → Machine → Prop
  /-- A call of what the head evaluates to. -/
  | call {head : Node} {callee : Value} {args : List Value} {machine₁ machine₂ : Machine}
    (hform : HeadedBy form head) (hhead : IsCallee head)
    (hpairs : form.isDict = false ∨ form.tail.length % 2 = 0)
    (hcallee : evaluate config.toContext head frame machine = .ok callee machine₁)
    (hargs : Eval.arguments (evaluate config.toContext) frame form.tail machine₁ =
      .ok args machine₂) :
    CallSite config evaluate top form frame machine
      (callee.call config.hosts evaluate args) machine₂
  /-- A keyword that is looked up with `get`. -/
  | keyword {token : Token} {properties : List String} {lookup collection : Value}
    {defaults : List Value} {machine₁ : Machine}
    (hform : HeadedBy form (.literal token properties)) (hkind : token.kind = .keyword)
    (hunquoted : properties.contains quotedProperty = false)
    (hlookup : machine.lookup? frame "get" = some lookup)
    (hcount : (Arity.between 1 2).allows form.tail.length = true)
    (hargs : Eval.arguments (evaluate config.toContext) frame form.tail machine =
      .ok (collection :: defaults) machine₁) :
    CallSite config evaluate top form frame machine
      (lookup.call config.hosts evaluate
        [collection, .ofKeyword token.text, defaults.head?.getD .nil]) machine₁
  /-- A member of an object. -/
  | member {head first : Node} {name method : String} {rest : List Node} {count : Nat}
    {receiver : Value} {object : Object} {args : List Value} {machine₁ machine₂ : Machine}
    (hform : HeadedBy form head) (hhead : IsName head name)
    (hspecial : SpecialForm.ofName? name = none) (hdot : isDotName name = true)
    (hmethod : method = String.ofList name.toList.tail) (hnamed : method.isEmpty = false)
    (haccept : config.oracle "dot-form" form.tail = .accept count)
    (htail : form.tail = first :: rest)
    (hreceiver : evaluate config.toContext first frame machine = .ok receiver machine₁)
    (hobject : receiver.object? = some object) (hhas : object.has config.hosts method = true)
    (hargs : Eval.arguments (evaluate config.toContext) frame rest machine₁ = .ok args machine₂) :
    CallSite config evaluate top form frame machine
      (object.call config.hosts evaluate method args) machine₂
  /-- A method of a value. -/
  | method {head first : Node} {name method : String} {rest : List Node} {count : Nat}
    {receiver : Value} {found : Method} {args : List Value} {machine₁ machine₂ : Machine}
    (hform : HeadedBy form head) (hhead : IsName head name)
    (hspecial : SpecialForm.ofName? name = none) (hdot : isDotName name = true)
    (hmethod : method = String.ofList name.toList.tail) (hnamed : method.isEmpty = false)
    (haccept : config.oracle "dot-form" form.tail = .accept count)
    (htail : form.tail = first :: rest)
    (hreceiver : evaluate config.toContext first frame machine = .ok receiver machine₁)
    (hfound : receiver.method? method = some found)
    (hargs : Eval.arguments (evaluate config.toContext) frame rest machine₁ = .ok args machine₂) :
    CallSite config evaluate top form frame machine (Eval.ofExcept (found.run args)) machine₂
  /-- A module that is found with its resolver. -/
  | module {head target : Node} {special : SpecialForm} {resolver : Resolver} {path : String}
    {count : Nat} {resolve : Value} (hform : HeadedBy form head) (hhead : IsName head special.name)
    (hspecial : special = .importModule ∧ resolver = .imported ∨
      special = .requireModule ∧ resolver = .required)
    (htop : top = true) (haccept : config.oracle special.name form.tail = .accept count)
    (htail : form.tail = [target]) (hpath : target.identifier? = some path)
    (hresolve : machine.lookup? frame resolver.name = some resolve) :
    CallSite config evaluate top form frame machine
      (resolve.call config.hosts evaluate [.str path]) machine
  /-- A name of a pattern that is looked up with `get`, after the targets and names before it. -/
  | pattern {head target node nameNode : Node} {bindings pattern : Form}
    {before rest done later body : List Node} {count : Nat} {value lookup : Value} {name : String}
    {machine₁ machine₂ machine₃ : Machine} (hform : HeadedBy form head)
    (hhead : IsName head SpecialForm.letBind.name)
    (haccept : config.oracle "let" form.tail = .accept count)
    (htail : form.tail = bindings.toNode :: body)
    (hitems : bindings.items = before ++ target :: node :: rest) (heven : before.length % 2 = 0)
    (hbefore : bindTargets config evaluate machine.frames.size form.headLocation? before
      (machine.addFrame (machine.frame frame)) = .ok () machine₁)
    (hvalue : evaluate config.toContext node machine.frames.size machine₁ = .ok value machine₂)
    (hpattern : target.form? = some pattern)
    (hlookup : machine₂.lookup? machine.frames.size "get" = some lookup)
    (hnames : patternNames pattern = done ++ nameNode :: later)
    (hdone : bindNames config evaluate machine.frames.size form.headLocation? lookup value
      pattern.isDict 0 done machine₂ = .ok () machine₃)
    (hname : nameNode.identifier? = some name) :
    CallSite config evaluate top form frame machine
      (lookup.call config.hosts evaluate [value, patternKey pattern.isDict done.length name, .nil])
      machine₃

namespace CallSite

variable {evaluate : Context → Evaluator} {top : Bool} {head : Node} {name : String} {fault : Fault}

theorem evalForm_eq (hform : HeadedBy form head) :
    evalForm config evaluate top form frame = evalHead config evaluate top head form frame := by
  unfold evalForm
  rw [hform.unquoted, hform.plain, hform.head]
  rfl

theorem evalHead_name (special : SpecialForm) (hhead : IsName head name)
    (hspecial : SpecialForm.ofName? name = some special) :
    evalHead config evaluate top head form frame =
      evalSpecial config evaluate top special form frame := by
  obtain ⟨token, properties, rfl, hkind, rfl, hunquoted⟩ := hhead
  unfold evalHead
  simp only [hunquoted, hkind, hspecial, Bool.false_eq_true, if_false]

theorem evalHead_dot (hhead : IsName head name) (hspecial : SpecialForm.ofName? name = none)
    (hdot : isDotName name = true) :
    evalHead config evaluate top head form frame = dotForm config evaluate name form frame := by
  obtain ⟨token, properties, rfl, hkind, rfl, hunquoted⟩ := hhead
  unfold evalHead
  simp only [hunquoted, hkind, hspecial, hdot, Bool.false_eq_true, if_false, if_true]

theorem evalHead_callee (hhead : IsCallee head) :
    evalHead config evaluate top head form frame =
      (evaluate config.toContext head frame >>= fun callee =>
        callForm config evaluate callee form frame) := by
  cases head with
  | form children properties inline location => rfl
  | literal token properties =>
    obtain ⟨hkind, hunquoted, hspecial, hdot⟩ := hhead
    unfold evalHead
    simp only [hunquoted, hkind, hspecial, hdot, Bool.false_eq_true, if_false]

/-- A form that is no dict, or that has a value for each key, is called with the values of its
nodes. -/
theorem callForm_eq (callee : Value)
    (hpairs : form.isDict = false ∨ form.tail.length % 2 = 0) :
    callForm config evaluate callee form frame =
      (Eval.arguments (evaluate config.toContext) frame form.tail >>= fun args =>
        Eval.located form.headLocation? (callee.call config.hosts evaluate args)) := by
  have hcomplete : ¬ (form.isDict && form.tail.length % 2 ≠ 0) = true := by
    rcases hpairs with h | h <;> simp [h]
  exact if_neg hcomplete

theorem evalHead_keyword {token : Token} {properties : List String} (hkind : token.kind = .keyword)
    (hunquoted : properties.contains quotedProperty = false) :
    evalHead config evaluate top (.literal token properties) form frame =
      keywordForm config evaluate token.text form frame := by
  unfold evalHead
  simp only [hunquoted, hkind, Bool.false_eq_true, if_false]

/-! ### What comes before the call -/

theorem of_arguments_cons {node : Node} {nodes : List Node} {values : List Value}
    (h : Eval.arguments (evaluate config.toContext) frame (node :: nodes) machine =
      .ok values machine') :
    ∃ value rest between, evaluate config.toContext node frame machine = .ok value between ∧
      Eval.arguments (evaluate config.toContext) frame nodes between = .ok rest machine' ∧
        values = value :: rest := by
  obtain ⟨value, between, hvalue, h₁⟩ := Eval.of_bind_ok h
  obtain ⟨rest, last, hrest, h₂⟩ := Eval.of_bind_ok h₁
  cases h₂
  exact ⟨value, rest, between, hvalue, hrest, rfl⟩

/-- Targets are bound one after the other. -/
theorem bindTargets_append (location : Option Location) {before : List Node}
    (heven : before.length % 2 = 0) (after : List Node) :
    bindTargets config evaluate frame location (before ++ after) =
      (bindTargets config evaluate frame location before >>= fun _ =>
        bindTargets config evaluate frame location after) := by
  match before, heven with
  | [], _ => rfl
  | target :: node :: rest, heven =>
    have hrest : rest.length % 2 = 0 := by
      simp only [List.length_cons] at heven
      omega
    have ih := bindTargets_append location hrest after
    show bindTargets config evaluate frame location (target :: node :: (rest ++ after)) = _
    rw [bindTargets, bindTargets, bind_assoc]
    refine bind_congr fun value => ?_
    cases target.form? with
    | none => simp only [ih, bind_assoc]
    | some pattern => simp only [ih, bind_assoc]

/-- Names of a pattern are bound one after the other. -/
theorem bindNames_append (location : Option Location) (lookup value : Value) (byName : Bool)
    (i : Nat) (done later : List Node) :
    bindNames config evaluate frame location lookup value byName i (done ++ later) =
      (bindNames config evaluate frame location lookup value byName i done >>= fun _ =>
        bindNames config evaluate frame location lookup value byName (i + done.length) later) := by
  induction done generalizing i with
  | nil => rfl
  | cons node done ih =>
    rw [List.cons_append, bindNames, bindNames]
    simp only [ih, bind_assoc, List.length_cons, Nat.add_assoc, Nat.add_comm 1]

/-! ### The call decides

The forms that do nothing after their call give what it gives.
-/

theorem evalHead_eq_call {callee : Value} {args : List Value} {machine₁ machine₂ : Machine}
    (hhead : IsCallee head) (hpairs : form.isDict = false ∨ form.tail.length % 2 = 0)
    (hcallee : evaluate config.toContext head frame machine = .ok callee machine₁)
    (hargs : Eval.arguments (evaluate config.toContext) frame form.tail machine₁ =
      .ok args machine₂) :
    evalHead config evaluate top head form frame machine =
      Eval.located form.headLocation? (callee.call config.hosts evaluate args) machine₂ := by
  rw [evalHead_callee hhead, Eval.bind_ok hcallee, callForm_eq callee hpairs, Eval.bind_ok hargs]

/-- A keyword form with a number of nodes that fits. -/
theorem keywordForm_eq {keyword : String} {first : Node} {rest : List Node}
    (hcount : (Arity.between 1 2).allows form.tail.length = true)
    (htail : form.tail = first :: rest) :
    keywordForm config evaluate keyword form frame = (do
      let lookup ← Eval.orFail (.noKeywordLookup form.headLocation?) (← Eval.lookup? frame "get")
      let collection ← evaluate config.toContext first frame
      let default ←
        match rest[0]? with
        | some node => evaluate config.toContext node frame
        | none => pure .nil
      Eval.located form.headLocation?
        (lookup.call config.hosts evaluate [collection, .ofKeyword keyword, default])) := by
  have hfits : (Arity.between 1 2).complaint? (first :: rest).length = none := by
    rw [← htail]
    exact Arity.complaint?_eq_none_iff.mpr hcount
  unfold keywordForm
  rw [htail, hfits]
  rfl

theorem evalHead_eq_keyword {token : Token} {properties : List String} {lookup collection : Value}
    {defaults : List Value} {machine₁ : Machine} (hkind : token.kind = .keyword)
    (hunquoted : properties.contains quotedProperty = false)
    (hlookup : machine.lookup? frame "get" = some lookup)
    (hcount : (Arity.between 1 2).allows form.tail.length = true)
    (hargs : Eval.arguments (evaluate config.toContext) frame form.tail machine =
      .ok (collection :: defaults) machine₁) :
    evalHead config evaluate top (.literal token properties) form frame machine =
      Eval.located form.headLocation? (lookup.call config.hosts evaluate
        [collection, .ofKeyword token.text, defaults.head?.getD .nil]) machine₁ := by
  have hget : Eval.lookup? frame "get" machine = .ok (some lookup) machine := by
    rw [← hlookup]
    rfl
  have hfound : Eval.orFail (.noKeywordLookup form.headLocation?) (some lookup) machine =
      .ok lookup machine := rfl
  cases htail : form.tail with
  | nil =>
    rw [htail] at hcount
    cases hcount
  | cons first rest =>
    rw [evalHead_keyword hkind hunquoted, keywordForm_eq hcount htail,
      Eval.bind_ok hget, Eval.bind_ok hfound]
    rw [htail] at hargs hcount
    obtain ⟨value, values, between, hvalue, hvalues, heq⟩ := of_arguments_cons hargs
    cases heq
    rw [Eval.bind_ok hvalue]
    -- there is a default or there is none
    match rest, hcount, hvalues with
    | [], _, hvalues =>
      cases hvalues
      rfl
    | [second], _, hvalues =>
      obtain ⟨default, none, between', hdefault, hnone, heq⟩ := of_arguments_cons hvalues
      cases hnone
      subst heq
      rw [List.getElem?_cons_zero]
      dsimp only
      rw [Eval.bind_ok hdefault]
      rfl

/-- A method form that has a receiver. -/
theorem dotForm_eq {method : String} {first : Node} {rest : List Node} {count : Nat}
    (hmethod : method = String.ofList name.toList.tail) (hnamed : method.isEmpty = false)
    (haccept : config.oracle "dot-form" form.tail = .accept count)
    (htail : form.tail = first :: rest) :
    dotForm config evaluate name form frame = (do
      let receiver ← evaluate config.toContext first frame
      let className ← Eval.orFail (.noClass receiver.shown form.headLocation?) receiver.className?
      match receiver.object? with
      | some object =>
        if object.has config.hosts method then do
          let args ← Eval.arguments (evaluate config.toContext) frame rest
          Eval.located form.headLocation? (object.call config.hosts evaluate method args)
        else Eval.fail (.noMethod className method form.headLocation?)
      | none =>
        let found ← Eval.orFail (.noMethod className method form.headLocation?)
          (receiver.method? method)
        let args ← Eval.arguments (evaluate config.toContext) frame rest
        Eval.located form.headLocation? (Eval.ofExcept (found.run args))) := by
  subst hmethod
  have hslice : Eval.sliceFrom 1 (first :: rest) = pure rest :=
    CheckFree.sliceFrom_append [first] rest
  have hunnamed : ¬ (String.ofList name.toList.tail).isEmpty = true := by simp [hnamed]
  unfold dotForm
  dsimp only
  rw [if_neg hunnamed, CheckFree.validate_accepted haccept, htail, hslice]
  rfl

theorem evalHead_eq_member {method : String} {first : Node} {rest : List Node} {count : Nat}
    {receiver : Value} {object : Object} {args : List Value} {machine₁ machine₂ : Machine}
    (hhead : IsName head name) (hspecial : SpecialForm.ofName? name = none)
    (hdot : isDotName name = true) (hmethod : method = String.ofList name.toList.tail)
    (hnamed : method.isEmpty = false) (haccept : config.oracle "dot-form" form.tail = .accept count)
    (htail : form.tail = first :: rest)
    (hreceiver : evaluate config.toContext first frame machine = .ok receiver machine₁)
    (hobject : receiver.object? = some object) (hhas : object.has config.hosts method = true)
    (hargs : Eval.arguments (evaluate config.toContext) frame rest machine₁ = .ok args machine₂) :
    evalHead config evaluate top head form frame machine =
      Eval.located form.headLocation? (object.call config.hosts evaluate method args) machine₂ := by
  obtain ⟨className, hclass⟩ : ∃ className, receiver.className? = some className := by
    cases receiver with
    | object ref o => exact ⟨_, rfl⟩
    | module ref name members => exact ⟨_, rfl⟩
    | _ => cases hobject
  rw [evalHead_dot hhead hspecial hdot, dotForm_eq hmethod hnamed haccept htail,
    Eval.bind_ok hreceiver]
  simp only [hclass, Eval.orFail, pure_bind, hobject, hhas, if_true]
  rw [Eval.bind_ok hargs]

theorem evalHead_eq_method {method : String} {first : Node} {rest : List Node} {count : Nat}
    {receiver : Value} {found : Method} {args : List Value} {machine₁ machine₂ : Machine}
    (hhead : IsName head name) (hspecial : SpecialForm.ofName? name = none)
    (hdot : isDotName name = true) (hmethod : method = String.ofList name.toList.tail)
    (hnamed : method.isEmpty = false) (haccept : config.oracle "dot-form" form.tail = .accept count)
    (htail : form.tail = first :: rest)
    (hreceiver : evaluate config.toContext first frame machine = .ok receiver machine₁)
    (hfound : receiver.method? method = some found)
    (hargs : Eval.arguments (evaluate config.toContext) frame rest machine₁ = .ok args machine₂) :
    evalHead config evaluate top head form frame machine =
      Eval.located form.headLocation? (Eval.ofExcept (found.run args)) machine₂ := by
  -- a value with methods has a class and is no object
  obtain ⟨className, hclass, hobject⟩ :
      ∃ className, receiver.className? = some className ∧ receiver.object? = none := by
    cases receiver with
    | str text => exact ⟨_, rfl, rfl⟩
    | list items => exact ⟨_, rfl, rfl⟩
    | dict entries => exact ⟨_, rfl, rfl⟩
    | exception ref fault => exact ⟨_, rfl, rfl⟩
    | _ => cases hfound
  rw [evalHead_dot hhead hspecial hdot, dotForm_eq hmethod hnamed haccept htail,
    Eval.bind_ok hreceiver]
  simp only [hclass, Eval.orFail, pure_bind, hobject, hfound]
  rw [Eval.bind_ok hargs]

/-! ### The fault of the call -/

theorem fault_eq_of_module {target : Node} {special : SpecialForm} {resolver : Resolver}
    {path : String} {count : Nat} {resolve : Value} {last : Machine}
    (hhead : IsName head special.name)
    (hspecial : special = .importModule ∧ resolver = .imported ∨
      special = .requireModule ∧ resolver = .required)
    (htop : top = true) (haccept : config.oracle special.name form.tail = .accept count)
    (htail : form.tail = [target]) (hpath : target.identifier? = some path)
    (hresolve : machine.lookup? frame resolver.name = some resolve)
    (hfails : resolve.call config.hosts evaluate [.str path] machine = .error (.fault fault) last) :
    evalHead config evaluate top head form frame machine =
      .error (.fault (fault.orAt form.headLocation?)) last := by
  have hlookup : Eval.lookup? frame resolver.name machine = .ok (some resolve) machine := by
    rw [← hresolve]
    rfl
  have hmodule : evalHead config evaluate top head form frame =
      defineModule config evaluate special.name resolver form frame := by
    subst htop
    rcases hspecial with ⟨rfl, rfl⟩ | ⟨rfl, rfl⟩
    · exact evalHead_name .importModule hhead (by decide)
    · exact evalHead_name .requireModule hhead (by decide)
  rw [hmodule, CheckFree.defineModule_eq haccept resolver htail hpath]
  unfold bindModule
  rw [Eval.bind_ok hlookup]
  simp only [Eval.orFail, pure_bind]
  exact Eval.bind_error (Eval.located_error hfails)

theorem fault_eq_of_pattern {target node nameNode : Node} {bindings pattern : Form}
    {before rest done later body : List Node} {count : Nat} {value lookup : Value}
    {machine₁ machine₂ machine₃ last : Machine} (hhead : IsName head SpecialForm.letBind.name)
    (haccept : config.oracle "let" form.tail = .accept count)
    (htail : form.tail = bindings.toNode :: body)
    (hitems : bindings.items = before ++ target :: node :: rest) (heven : before.length % 2 = 0)
    (hbefore : bindTargets config evaluate machine.frames.size form.headLocation? before
      (machine.addFrame (machine.frame frame)) = .ok () machine₁)
    (hvalue : evaluate config.toContext node machine.frames.size machine₁ = .ok value machine₂)
    (hpattern : target.form? = some pattern)
    (hlookup : machine₂.lookup? machine.frames.size "get" = some lookup)
    (hnames : patternNames pattern = done ++ nameNode :: later)
    (hdone : bindNames config evaluate machine.frames.size form.headLocation? lookup value
      pattern.isDict 0 done machine₂ = .ok () machine₃)
    (hname : nameNode.identifier? = some name)
    (hfails : lookup.call config.hosts evaluate
      [value, patternKey pattern.isDict done.length name, .nil] machine₃ =
        .error (.fault fault) last) :
    evalHead config evaluate top head form frame machine =
      .error (.fault (fault.orAt form.headLocation?)) last := by
  have hoverlay : Eval.overlay frame [] machine =
      .ok machine.frames.size (machine.addFrame (machine.frame frame)) := rfl
  have hget : Eval.lookup? machine.frames.size "get" machine₂ = .ok (some lookup) machine₂ := by
    rw [← hlookup]
    rfl
  -- the names of the pattern up to the one whose look-up fails
  have hdestructure : destructure config evaluate machine.frames.size form.headLocation? pattern
      value machine₂ = .error (.fault (fault.orAt form.headLocation?)) last := by
    unfold destructure
    rw [Eval.bind_ok hget]
    simp only [Eval.orFail, pure_bind]
    rw [show (if pattern.isDict = true then pattern.tail else pattern.items) =
      done ++ nameNode :: later from hnames, bindNames_append, Eval.bind_ok hdone, Nat.zero_add,
      bindNames, CheckFree.identifier_named hname, pure_bind]
    exact Eval.bind_error (Eval.located_error hfails)
  have htargets : bindTargets config evaluate machine.frames.size form.headLocation? bindings.items
      (machine.addFrame (machine.frame frame)) =
        .error (.fault (fault.orAt form.headLocation?)) last := by
    rw [hitems, bindTargets_append form.headLocation? heven, Eval.bind_ok hbefore, bindTargets,
      Eval.bind_ok hvalue]
    simp only [hpattern]
    exact Eval.bind_error hdestructure
  have hlet : evalHead config evaluate top head form frame = letBind config evaluate form frame :=
    evalHead_name .letBind hhead (by decide)
  rw [htail] at haccept
  rw [hlet]
  unfold letBind
  simp only [CheckFree.validate_accepted haccept, htail, pure_bind, List.getElem?_cons_zero,
    Eval.inBounds, Form.form?_toNode, Eval.orFail]
  rw [Eval.bind_ok hoverlay, Eval.bind_error htargets]

/-- **A form whose call fails fails with the same fault**, to which the place of its head is
supplied if it has none. -/
theorem fault_eq {call : Eval Value} {machine₁ last : Machine}
    (h : CallSite config evaluate top form frame machine call machine₁)
    (hfails : call machine₁ = .error (.fault fault) last) :
    evalForm config evaluate top form frame machine =
      .error (.fault (fault.orAt form.headLocation?)) last := by
  cases h with
  | call hform hhead hpairs hcallee hargs =>
    rw [evalForm_eq hform, evalHead_eq_call hhead hpairs hcallee hargs]
    exact Eval.located_error hfails
  | keyword hform hkind hunquoted hlookup hcount hargs =>
    rw [evalForm_eq hform, evalHead_eq_keyword hkind hunquoted hlookup hcount hargs]
    exact Eval.located_error hfails
  | member hform hhead hspecial hdot hmethod hnamed haccept htail hreceiver hobject hhas hargs =>
    rw [evalForm_eq hform, evalHead_eq_member hhead hspecial hdot hmethod hnamed haccept htail
      hreceiver hobject hhas hargs]
    exact Eval.located_error hfails
  | method hform hhead hspecial hdot hmethod hnamed haccept htail hreceiver hfound hargs =>
    rw [evalForm_eq hform, evalHead_eq_method hhead hspecial hdot hmethod hnamed haccept htail
      hreceiver hfound hargs]
    exact Eval.located_error hfails
  | module hform hhead hspecial htop haccept htail hpath hresolve =>
    rw [evalForm_eq hform]
    exact fault_eq_of_module hhead hspecial htop haccept htail hpath hresolve hfails
  | pattern hform hhead haccept htail hitems heven hbefore hvalue hpattern hlookup hnames hdone
      hname =>
    rw [evalForm_eq hform]
    exact fault_eq_of_pattern hhead haccept htail hitems heven hbefore hvalue hpattern hlookup
      hnames hdone hname hfails

/-- **A fault that has a place when it leaves the call keeps it.** -/
theorem fault_eq_of_location {call : Eval Value} {machine₁ last : Machine}
    (h : CallSite config evaluate top form frame machine call machine₁)
    (hfails : call machine₁ = .error (.fault fault) last) {location : Location}
    (hlocation : fault.location? = some location) :
    evalForm config evaluate top form frame machine = .error (.fault fault) last := by
  rw [h.fault_eq hfails, Fault.orAt_of_location hlocation]

/-- **A function that is given a wrong number of arguments is to blame where it was made**, however
it is called. -/
theorem arity_fault_eq {call : Eval Value} {machine₁ : Machine} {ref : Nat} {closure : Closure}
    {args : List Value} {reason : String} {location : Location}
    (h : CallSite config evaluate top form frame machine call machine₁)
    (hcall : Value.IsCalledBy config.hosts evaluate (.function ref closure) args call)
    (hreason : closure.signature.arity.complaint? args.length = some reason)
    (hlocation : closure.location = some location) :
    evalForm config evaluate top form frame machine =
      .error (.fault (.arity closure.name reason (some location))) machine₁ := by
  have hfails : call machine₁ = .error (.fault (.arity closure.name reason (some location)))
      machine₁ := by
    rw [hcall.eq_call rfl, Value.call_function, Closure.call_eq_arity hreason, hlocation]
  exact h.fault_eq_of_location hfails rfl

end CallSite

end Evaluation

end FrameLisp
