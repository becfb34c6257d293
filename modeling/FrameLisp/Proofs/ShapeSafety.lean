import FrameLisp.Proofs.Termination

/-!
# Safety of shapes

A form reads its nodes by position, and what makes this safe is written elsewhere: in the rule of
its name, which has been asked before.  A builtin relies on the number of arguments it is registered
with in the same way.  Where the rules are those of the language, all of these readings are within
bounds.  It is not enough that a program runs under these rules: the body of a function is held
against the rules that the function was made under, so they must be those of every function in reach
(`Surroundings.lawful`).

Some forms check once more what their rule has already said, for instance that the bindings of a
`let` are a form.  These checks never fail: each form that its rule accepts is evaluated as if they
were not there.  The evaluations without them are written out in `CheckFree`, on the nodes that the
form must have.
-/

namespace FrameLisp

/-! ### Forms without their second checks -/

namespace Evaluation

/-- Binds targets to values, each target with its own. -/
def bindPairs (config : Config) (evaluate : Context → Evaluator) (frame : FrameId)
    (location : Option Location) : List (Node × Node) → Eval Unit
  | [] => pure ()
  | (target, node) :: pairs => do
    let value ← evaluate config.toContext node frame
    match target.form? with
    | some pattern => destructure config evaluate frame location pattern value
    | none =>
      let name ← Eval.identifier "let" target
      Eval.define frame name value
    bindPairs config evaluate frame location pairs

/-- Evaluates nodes where targets are bound to values. -/
def letPairs (config : Config) (evaluate : Context → Evaluator) (pairs : List (Node × Node))
    (body : List Node) (frame : FrameId) (location : Option Location) : Eval Value := do
  let inner ← Eval.overlay frame []
  bindPairs config evaluate inner location pairs
  Eval.body (evaluate config.toContext) inner .nil body

/-- A function over a frame, its parameters known to be a form. -/
def functionOver (context : Context) (form name : String) (parameters : Form) (body : List Node)
    (frame : FrameId) (location : Option Location) : Eval Value := do
  let signature ← Eval.ofExcept (Signature.ofForm form location parameters)
  let ref ← Eval.freshRef
  return .function ref { name, signature, body, frame, context, location }

/-- Binds a module whose path is known. -/
def bindModule (config : Config) (evaluate : Context → Evaluator) (formName : String)
    (resolver : Resolver) (path : String) (frame : FrameId) (location : Option Location) :
    Eval Value := do
  let fault := .noResolver formName resolver.name location
  let resolve ← Eval.orFail fault (← Eval.lookup? frame resolver.name)
  let found ← Eval.located location (resolve.call config.hosts evaluate [.str path])
  Eval.define frame (lastSegment resolver.separator path) found
  return .nil

/-- Evaluates a node under a handler whose class is still to be evaluated. -/
def handleAs (evaluate : Evaluator) (node classNode : Node) (name : String) (body : List Node)
    (frame : FrameId) : Eval Value := do
  let kind ← handledKind classNode (← evaluate classNode frame)
  Eval.handling (fun fault => kind.catches fault.kind)
    (fun fault => do
      let ref ← Eval.freshRef
      let inner ← Eval.overlay frame [(name, .exception ref fault)]
      Eval.body evaluate inner .nil body)
    (evaluate node frame)

end Evaluation

open Evaluation in
/-- The forms that their rules accept are evaluated without any further check of their shape. -/
structure CheckFree (config : Config) (evaluate : Context → Evaluator) (form : Form)
    (frame : FrameId) : Prop where
  /-- The bindings of a `let` are a form, and each target has a value. -/
  letBind : ∀ count, config.oracle "let" form.tail = .accept count →
    ∃ (bindings : Form) (pairs : List (Node × Node)) (body : List Node),
      form.tail = bindings.toNode :: body ∧
      bindings.items = pairs.flatMap (fun pair => [pair.1, pair.2]) ∧
      letBind config evaluate form frame =
        letPairs config evaluate pairs body frame form.headLocation?
  /-- The parameters of a function are a form. -/
  function : ∀ count, config.oracle "fn" form.tail = .accept count →
    ∃ (parameters : Form) (body : List Node),
      form.tail = parameters.toNode :: body ∧
      function config form frame =
        functionOver config.toContext "fn" anonymous parameters body frame form.headLocation?
  /-- A definition has a name. -/
  define : ∀ (once : Bool) (count : Nat),
    config.oracle (if once then "def?" else "def") form.tail = .accept count →
    ∃ (target node : Node) (name : String),
      form.tail = [target, node] ∧ target.identifier? = some name ∧
      define config (evaluate config.toContext) once form frame =
        defineBy once frame name (evaluate config.toContext node frame)
  /-- A definition of a function has a name, and its parameters are a form. -/
  defineFunction : ∀ (once : Bool) (count : Nat),
    config.oracle (if once then "defn?" else "defn") form.tail = .accept count →
    ∃ (target : Node) (name : String) (parameters : Form) (body : List Node),
      form.tail = target :: parameters.toNode :: body ∧ target.identifier? = some name ∧
      defineFunction config once form frame =
        defineBy once frame name
          (functionOver config.toContext (if once then "defn?" else "defn") name parameters body
            frame form.headLocation?)
  /-- A module that is bound has a name for its path. -/
  defineModule : ∀ (formName : String) (resolver : Resolver) (count : Nat),
    formName = "import" ∨ formName = "require" →
    config.oracle formName form.tail = .accept count →
    ∃ (target : Node) (path : String),
      form.tail = [target] ∧ target.identifier? = some path ∧
      defineModule config evaluate formName resolver form frame =
        bindModule config evaluate formName resolver path frame form.headLocation?
  /-- What follows the node of a `try` is a clause, which has a rule of its own; if that accepts it
  as well, the clause has a name for the fault. -/
  tryCatch : ∀ count, config.oracle "try" form.tail = .accept count →
    ∃ (node : Node) (clause : Form),
      form.tail = [node, clause.toNode] ∧
      (∀ reason, config.oracle "catch" clause.children = .reject reason →
        tryCatch config (evaluate config.toContext) form frame =
          Eval.fail (.ruleBroken "catch" reason form.headLocation?)) ∧
      ∀ count, config.oracle "catch" clause.children = .accept count →
        ∃ (head classNode nameNode : Node) (name : String) (body : List Node),
          clause.children = head :: classNode :: nameNode :: body ∧
          nameNode.identifier? = some name ∧
          tryCatch config (evaluate config.toContext) form frame =
            handleAs (evaluate config.toContext) node classNode name body frame

namespace CheckFree

variable {config : Config} {evaluate : Context → Evaluator} {form : Form} {frame : FrameId}

/-! ### Steps that cannot fail -/

theorem validate_accepted {rule : String} {nodes : List Node} {count : Nat}
    (h : config.oracle rule nodes = .accept count) (location : Option Location) :
    config.validate rule nodes location = pure () := by
  unfold Config.validate
  rw [h]

theorem validate_rejected {rule : String} {nodes : List Node} {reason : String}
    (h : config.oracle rule nodes = .reject reason) (location : Option Location) :
    config.validate rule nodes location = Eval.fail (.ruleBroken rule reason location) := by
  unfold Config.validate
  rw [h]

theorem identifier_named {node : Node} {name : String} (h : node.identifier? = some name)
    (formName : String) : Eval.identifier formName node = pure name := by
  unfold Eval.identifier Node.identifierFor
  rw [h]
  rfl

theorem sliceFrom_append {α : Type} (taken rest : List α) :
    Eval.sliceFrom taken.length (taken ++ rest) = pure rest := by
  unfold Eval.sliceFrom
  rw [if_pos (by simp), List.drop_left]

/-- An even number of nodes is a list of pairs. -/
theorem exists_pairs_of_even {nodes : List Node} (h : nodes.length % 2 = 0) :
    ∃ pairs : List (Node × Node), nodes = pairs.flatMap fun pair => [pair.1, pair.2] := by
  match nodes, h with
  | [], _ => exact ⟨[], rfl⟩
  | target :: node :: rest, h =>
    have hrest : rest.length % 2 = 0 := by
      simp only [List.length_cons] at h
      omega
    obtain ⟨pairs, hpairs⟩ := exists_pairs_of_even hrest
    refine ⟨(target, node) :: pairs, ?_⟩
    rw [List.flatMap_cons, ← hpairs]
    rfl

theorem bindTargets_pairs (location : Option Location) (pairs : List (Node × Node)) :
    Evaluation.bindTargets config evaluate frame location
        (pairs.flatMap fun pair => [pair.1, pair.2]) =
      Evaluation.bindPairs config evaluate frame location pairs := by
  induction pairs with
  | nil => rfl
  | cons pair pairs ih =>
    obtain ⟨target, node⟩ := pair
    show Evaluation.bindTargets config evaluate frame location
      (target :: node :: pairs.flatMap fun pair => [pair.1, pair.2]) = _
    rw [Evaluation.bindTargets, Evaluation.bindPairs]
    refine bind_congr fun value => ?_
    cases target.form? with
    | none => simp only [ih]
    | some pattern => simp only [ih]

/-! ### The forms -/

theorem letBind_eq {count : Nat} (haccept : config.oracle "let" form.tail = .accept count)
    {bindings : Form} {pairs : List (Node × Node)} {body : List Node}
    (htail : form.tail = bindings.toNode :: body)
    (hpairs : bindings.items = pairs.flatMap fun pair => [pair.1, pair.2]) :
    Evaluation.letBind config evaluate form frame =
      Evaluation.letPairs config evaluate pairs body frame form.headLocation? := by
  have hslice : Eval.sliceFrom 1 (bindings.toNode :: body) = pure body :=
    sliceFrom_append [bindings.toNode] body
  unfold Evaluation.letBind Evaluation.letPairs
  dsimp only
  rw [validate_accepted haccept, htail]
  simp only [hslice, List.getElem?_cons_zero, Eval.inBounds, Form.form?_toNode, Eval.orFail,
    pure_bind, hpairs, bindTargets_pairs]

/-- The check that is made once more for the parameters of a function. -/
theorem makeFunction_eq (context : Context) (formName name : String) (parameters : Form)
    (body : List Node) (location : Option Location) :
    Evaluation.makeFunction context formName name parameters.toNode body frame location =
      Evaluation.functionOver context formName name parameters body frame location :=
  rfl

theorem function_eq {count : Nat} (haccept : config.oracle "fn" form.tail = .accept count)
    {parameters : Form} {body : List Node} (htail : form.tail = parameters.toNode :: body) :
    Evaluation.function config form frame =
      Evaluation.functionOver config.toContext "fn" Evaluation.anonymous parameters body frame
        form.headLocation? := by
  have hslice : Eval.sliceFrom 1 (parameters.toNode :: body) = pure body :=
    sliceFrom_append [parameters.toNode] body
  unfold Evaluation.function
  dsimp only
  rw [validate_accepted haccept, htail]
  simp only [hslice, List.getElem?_cons_zero, Eval.inBounds, pure_bind, makeFunction_eq]

theorem define_eq {once : Bool} {count : Nat}
    (haccept : config.oracle (if once then "def?" else "def") form.tail = .accept count)
    {target node : Node} {name : String} (htail : form.tail = [target, node])
    (hname : target.identifier? = some name) :
    Evaluation.define config (evaluate config.toContext) once form frame =
      Evaluation.defineBy once frame name (evaluate config.toContext node frame) := by
  unfold Evaluation.define
  dsimp only
  rw [validate_accepted haccept, htail]
  simp only [List.getElem?_cons_zero, List.getElem?_cons_succ, Eval.inBounds, pure_bind,
    identifier_named hname]

theorem defineFunction_eq {once : Bool} {count : Nat}
    (haccept : config.oracle (if once then "defn?" else "defn") form.tail = .accept count)
    {target : Node} {name : String} {parameters : Form} {body : List Node}
    (htail : form.tail = target :: parameters.toNode :: body)
    (hname : target.identifier? = some name) :
    Evaluation.defineFunction config once form frame =
      Evaluation.defineBy once frame name
        (Evaluation.functionOver config.toContext (if once then "defn?" else "defn") name parameters
          body frame form.headLocation?) := by
  have hslice : Eval.sliceFrom 2 (target :: parameters.toNode :: body) = pure body :=
    sliceFrom_append [target, parameters.toNode] body
  unfold Evaluation.defineFunction
  dsimp only
  rw [validate_accepted haccept, htail]
  simp only [hslice, List.getElem?_cons_zero, List.getElem?_cons_succ, Eval.inBounds, pure_bind,
    identifier_named hname, makeFunction_eq]

theorem defineModule_eq {formName : String} {count : Nat}
    (haccept : config.oracle formName form.tail = .accept count) (resolver : Resolver)
    {target : Node} {path : String} (htail : form.tail = [target])
    (hpath : target.identifier? = some path) :
    Evaluation.defineModule config evaluate formName resolver form frame =
      Evaluation.bindModule config evaluate formName resolver path frame form.headLocation? := by
  unfold Evaluation.defineModule Evaluation.bindModule
  dsimp only
  rw [validate_accepted haccept, htail]
  simp only [List.getElem?_cons_zero, Eval.inBounds, pure_bind, identifier_named hpath]

/-- A clause that its own rule refuses is refused with the words of that rule. -/
theorem tryCatch_rejected {count : Nat} (haccept : config.oracle "try" form.tail = .accept count)
    {node : Node} {clause : Form} (htail : form.tail = [node, clause.toNode]) {reason : String}
    (hreject : config.oracle "catch" clause.children = .reject reason) :
    Evaluation.tryCatch config (evaluate config.toContext) form frame =
      Eval.fail (.ruleBroken "catch" reason form.headLocation?) := by
  unfold Evaluation.tryCatch
  dsimp only
  rw [validate_accepted haccept, htail]
  simp only [List.getElem?_cons_zero, List.getElem?_cons_succ, Eval.inBounds, pure_bind,
    Form.form?_toNode, Eval.orFail, validate_rejected hreject]
  rfl

theorem tryCatch_eq {count : Nat} (haccept : config.oracle "try" form.tail = .accept count)
    {node : Node} {clause : Form} (htail : form.tail = [node, clause.toNode]) {count' : Nat}
    (haccept' : config.oracle "catch" clause.children = .accept count')
    {head classNode nameNode : Node} {name : String} {body : List Node}
    (hchildren : clause.children = head :: classNode :: nameNode :: body)
    (hname : nameNode.identifier? = some name) :
    Evaluation.tryCatch config (evaluate config.toContext) form frame =
      Evaluation.handleAs (evaluate config.toContext) node classNode name body frame := by
  have hslice : Eval.sliceFrom 3 (head :: classNode :: nameNode :: body) = pure body :=
    sliceFrom_append [head, classNode, nameNode] body
  rw [hchildren] at haccept'
  unfold Evaluation.tryCatch Evaluation.handleAs
  dsimp only
  rw [validate_accepted haccept, htail]
  simp only [List.getElem?_cons_zero, List.getElem?_cons_succ, Eval.inBounds, pure_bind,
    Form.form?_toNode, Eval.orFail, validate_accepted haccept', hchildren, hslice,
    identifier_named hname]

/-- **The second checks are dead under the rules of the language.** -/
theorem of_standard (hrules : config.oracle = Rule.standard) (evaluate : Context → Evaluator)
    (form : Form) (frame : FrameId) : CheckFree config evaluate form frame where
  letBind count haccept := by
    obtain ⟨bindings, body, htail, heven⟩ := Rule.let_shape (hrules ▸ haccept)
    obtain ⟨pairs, hpairs⟩ := exists_pairs_of_even heven
    exact ⟨bindings, pairs, body, htail, hpairs, letBind_eq haccept htail hpairs⟩
  function count haccept := by
    obtain ⟨parameters, body, htail⟩ := Rule.fn_shape (hrules ▸ haccept)
    exact ⟨parameters, body, htail, function_eq haccept htail⟩
  define once count haccept := by
    obtain ⟨target, node, name, htail, hname⟩ := Rule.def_shape (hrules ▸ haccept)
    exact ⟨target, node, name, htail, hname, define_eq haccept htail hname⟩
  defineFunction once count haccept := by
    obtain ⟨target, name, parameters, body, htail, hname⟩ := Rule.defn_shape (hrules ▸ haccept)
    exact ⟨target, name, parameters, body, htail, hname, defineFunction_eq haccept htail hname⟩
  defineModule formName resolver count hform haccept := by
    obtain ⟨target, path, htail, hpath⟩ := Rule.module_shape hform (hrules ▸ haccept)
    exact ⟨target, path, htail, hpath, defineModule_eq haccept resolver htail hpath⟩
  tryCatch count haccept := by
    obtain ⟨node, clause, htail⟩ := Rule.try_shape (hrules ▸ haccept)
    refine ⟨node, clause, htail, fun reason => tryCatch_rejected haccept htail, ?_⟩
    intro count' haccept'
    obtain ⟨head, classNode, nameNode, name, body, hchildren, hname⟩ :=
      Rule.catch_shape (hrules ▸ haccept')
    exact ⟨head, classNode, nameNode, name, body, hchildren, hname,
      tryCatch_eq haccept htail haccept' hchildren hname⟩

end CheckFree

/-! ### Bounds -/

/-- Nothing is read out of bounds. -/
def Contract.bounds : Contract where
  Before _ := True
  Keeps _ _ := True
  Allows stop := stop ≠ .outOfBounds
  Writable _ := True
  refl _ := trivial
  trans _ _ := trivial
  before _ _ := trivial
  change _ _ := trivial
  addFrame _ _ := ⟨trivial, trivial⟩
  define _ _ _ _ := trivial
  plain _ := nofun
  orAt _ _ := nofun

theorem Contract.bounds_steps {context : Context} (h : context.oracle = Rule.standard) :
    bounds.Steps context where
  descends := {
    interrupted := nofun
    overflow _ _ _ := nofun
    exhausted _ _ _ := nofun
    inside _ _ _ := trivial
    outside _ _ _ _ := trivial
    allows hstop := hstop }
  bounded := .inl h

theorem Contract.bounds_suits (hosts : Hosts) : bounds.Suits hosts :=
  Hosts.obey_of_forall (fun _ => nofun) fun _ => trivial

theorem Contract.stop?_ne_outOfBounds {α : Type} {x : Eval α} (h : bounds.Agree x x)
    (machine : Machine) : x.stop? machine ≠ some .outOfBounds := by
  intro hstop
  exact (h machine trivial).2.allows hstop rfl

/-- All functions in reach were made under the rules of the language. -/
def Surroundings.lawful : Surroundings where
  context context := context.oracle = Rule.standard

/-- Nothing is ever read out of bounds by a program that runs in the frame. -/
structure WithinBounds (config : Config) (machine : Machine) (frame : FrameId) : Prop where
  /-- Not by a node, at the top level or below it. -/
  eval (top : Bool) (node : Node) : (node.eval config top frame).stop? machine ≠ some .outOfBounds
  /-- Not by a function or a builtin that is called, with whatever arguments. -/
  call {callee : Value} (hcallee : Surroundings.lawful.Surrounds machine callee) {args : List Value}
    (hargs : ∀ arg ∈ args, Surroundings.lawful.Surrounds machine arg)
    {kwargs : List (String × Value)}
    (hkwargs : ∀ name value, (name, value) ∈ kwargs →
      Surroundings.lawful.Surrounds machine value) :
    (callee.callWith config.hosts config.evaluators args kwargs).stop? machine ≠ some .outOfBounds
  /-- Not by a method that an object has. -/
  objectCall {value : Value} (hvalue : Surroundings.lawful.Surrounds machine value)
    {object : Object} (hobject : value.object? = some object) {name : String}
    (hhas : object.has config.hosts name = true) {args : List Value}
    (hargs : ∀ arg ∈ args, Surroundings.lawful.Surrounds machine arg) :
    (object.call config.hosts config.evaluators name args).stop? machine ≠ some .outOfBounds
  /-- Not by a method of a value. -/
  method (method : Method) (args : List Value) : method.run args ≠ .error .outOfBounds
  /-- Not by a program. -/
  program {last : Value} (hlast : Surroundings.lawful.Surrounds machine last) (nodes : List Node) :
    (Eval.program config frame last nodes).stop? machine ≠ some .outOfBounds

/-- Where all functions in reach are lawful, the rules are in fact those of the language. -/
theorem WithinBounds.of_hold {config : Config} {machine : Machine} {frame : FrameId}
    (h : Surroundings.lawful.Hold config machine frame) : WithinBounds config machine frame := by
  -- functions made under other rules are not in reach, so they may as well have been made under
  -- these
  let pin (context : Context) : Context := { context with oracle := Rule.standard }
  have hown context (hlawful : Surroundings.lawful.context context) : pin context = context := by
    show { context with oracle := Rule.standard } = context
    rw [← show context.oracle = Rule.standard from hlawful]
  have hpin context : Contract.bounds.Steps (pin context) := Contract.bounds_steps rfl
  have hmachine := h.encloses.permitsMachine
  have hnode (top : Bool) (node : Node) : Contract.bounds.Agree (node.pinned pin config top frame)
      (node.pinned pin config top frame) :=
    Contract.pinned (Contract.bounds_steps h.context) hpin (Contract.bounds_suits _) nofun
      (fun _ => trivial) node
  have hcarries : Contract.bounds.simulation.Carries config.hosts (config.pinned pin)
      (config.pinned pin) :=
    Contract.carries_pinned hpin (Contract.bounds_suits _) nofun
  constructor
  · intro top node
    unfold Eval.stop?
    rw [h.eval_eq trivial hown hmachine top node]
    exact Contract.stop?_ne_outOfBounds (hnode top node) machine
  · intro callee hcallee args hargs kwargs hkwargs
    unfold Eval.stop?
    rw [h.callWith_eq trivial hown hmachine hcallee hargs hkwargs]
    exact Contract.stop?_ne_outOfBounds (Simulation.callWith hcarries callee args kwargs) machine
  · intro value hvalue object hobject name hhas args hargs
    unfold Eval.stop?
    rw [h.objectCall_eq trivial hown hmachine hvalue hobject hhas hargs]
    exact Contract.stop?_ne_outOfBounds (Simulation.objectCall hcarries object name args) machine
  · intro method args hbounds
    cases method.run_stopsAsCalled args _ hbounds
  · intro last hlast nodes
    unfold Eval.stop?
    rw [h.program_eq trivial hown hmachine hlast nodes]
    exact Contract.stop?_ne_outOfBounds
      (Simulation.programBy (S := Contract.bounds.simulation) (hnode true) last nodes) machine

/-- **Safety of shapes.**  Where all functions in reach were made under the rules of the language,
nothing is read out of bounds by a program under these rules.  Wherever they judge, for the program
or inside of a function, what a form checks of its shape after its rule has accepted it never
fails. -/
theorem standard_rules_keep_shapes_safe (config : Config) (machine : Machine) (frame : FrameId)
    (h : Surroundings.lawful.Hold config machine frame) :
    WithinBounds config machine frame ∧
      ∀ context, Surroundings.lawful.context context →
        ∀ (evaluate : Context → Evaluator) (form : Form) (frame : FrameId),
          CheckFree (config.under context) evaluate form frame := by
  refine ⟨.of_hold h, fun context hlawful evaluate form frame => ?_⟩
  have hstandard : (config.under context).oracle = Rule.standard := hlawful
  exact .of_standard hstandard evaluate form frame

/-- The settings that a session has by default come with these rules, which accept a `let` without
targets; no function is in reach of the prelude. -/
theorem default_settings_keep_shapes_safe :
    let machine := (Session.standard {}).machine
    ({} : Config).oracle "let" [.form [] [] false none] = .accept 1 ∧
      Surroundings.lawful.Hold {} machine Session.root ∧
      WithinBounds {} machine Session.root ∧
      CheckFree {} ({} : Config).evaluators
        { children := [.form [] [] false none, .form [] [] false none] } Session.root := by
  intro machine
  have hold : Surroundings.lawful.Hold {} machine Session.root := by
    refine ⟨rfl, ?_, Surroundings.basic_respect _ machine⟩
    have hpermits : ({ toSurroundings := .lawful } : Policy).PermitsMachine machine :=
      Policy.standard_permits {} fun _ => trivial
    exact Policy.encloses_of_permitsMachine hpermits trivial
  have hsafe := standard_rules_keep_shapes_safe {} machine Session.root hold
  exact ⟨rfl, hold, hsafe.1, hsafe.2 _ hold.context _ _ _⟩

/-- The rules of the program alone do not suffice.  Functions that were made where an `if` and a
`let` may have any shape are called by a program under the rules of the language: the one reads out
of bounds, and the other fails in a check that these rules leave nothing to do. -/
theorem lawless_function_reads_out_of_bounds :
    let name (text : String) : Node := .literal ⟨.identifier, text, ⟨"a", 1, 1⟩⟩ []
    let form (nodes : List Node) : Node := .form nodes [] false none
    let lax : Context := { oracle := Rule.except ["if", "let"] [] }
    let machine (body : Node) : Machine :=
      ((form [name "defn", name "f", form [], body]).eval { lax with } true Session.root).after
        Session.bare.machine
    let call : Eval Value := (form [name "f"]).eval {} true Session.root
    ({} : Config).oracle = Rule.standard ∧
      call.stop? (machine (form [name "if"])) = some .outOfBounds ∧
      call.stop? (machine (form [name "let", name "x"])) =
        some (.fault (.bindingsNotAForm (some ⟨"a", 1, 1⟩))) :=
  ⟨rfl, by decide +kernel, by decide +kernel⟩

end FrameLisp
