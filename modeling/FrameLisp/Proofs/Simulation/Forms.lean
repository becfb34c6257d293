import FrameLisp.Proofs.RuleShape
import FrameLisp.Proofs.Simulation
import FrameLisp.Session

/-!
# Simulations of forms

If two evaluators evaluate nodes in related ways, then they evaluate the forms made of them in
related ways (`Simulation.evalNode`).  Each form has its lemma, in the order in which the forms are
defined, and a program is followed tree by tree (`Simulation.programBy`).

A form that takes its nodes apart is within bounds if its rule is that of the language; under
another oracle the simulation has to put up with accesses out of bounds.  The assumption `hbounds`
says that one of the two is the case, and each access is settled by what the rule accepts.
-/

namespace FrameLisp

namespace Eval

/-- Runs the trees of a program in turn, each in the given way; the last value counts. -/
def programBy (run : Node → Eval Value) (last : Value) : List Node → Eval Value
  | [] => pure last
  | node :: nodes => do
    report (.topLevel node)
    let value ← run node
    programBy run value nodes

theorem program_eq (config : Config) (frame : FrameId) (last : Value) (nodes : List Node) :
    program config frame last nodes =
      programBy (fun node => node.eval config true frame) last nodes := by
  induction nodes generalizing last with
  | nil => rfl
  | cons node nodes ih =>
    rw [program, programBy]
    simp only [ih]

end Eval

namespace Simulation

open Evaluation

variable {S : Simulation} {config : Config}

section

variable {e₁ e₂ : Evaluator}

/-! ### Choices -/

theorem anyOf (he : S.Simulates e₁ e₂) (frame : FrameId) (last : Value) (nodes : List Node) :
    S.Rel (Evaluation.anyOf e₁ frame last nodes) (Evaluation.anyOf e₂ frame last nodes) := by
  induction nodes generalizing last with
  | nil => exact S.pure last
  | cons node nodes ih =>
    refine S.bind (he node frame) fun value => ?_
    split
    · exact S.pure value
    · exact ih value

theorem allOf (he : S.Simulates e₁ e₂) (frame : FrameId) (last : Value) (nodes : List Node) :
    S.Rel (Evaluation.allOf e₁ frame last nodes) (Evaluation.allOf e₂ frame last nodes) := by
  induction nodes generalizing last with
  | nil => exact S.pure last
  | cons node nodes ih =>
    refine S.bind (he node frame) fun value => ?_
    split
    · exact ih value
    · exact S.pure value

theorem ifElse (hbounds : S.Bounded config.toContext) (he : S.Simulates e₁ e₂) (form : Form)
    (frame : FrameId) :
    S.Rel (Evaluation.ifElse config e₁ form frame) (Evaluation.ifElse config e₂ form frame) := by
  refine S.validate config "if" form.tail _ fun count haccept => ?_
  have hlength : 2 ≤ form.tail.length ∨ S.Panics :=
    hbounds.imp_left fun hrules => Rule.if_length (hrules ▸ haccept)
  refine S.bind (S.item (hlength.imp_left fun h => by omega)) fun test => ?_
  refine S.bind (he test frame) fun value => ?_
  split
  · refine S.bind (S.item (hlength.imp_left fun h => by omega)) fun chosen => ?_
    exact he chosen frame
  · split
    · exact he _ frame
    · exact S.pure _

theorem whenTrue (hbounds : S.Bounded config.toContext) (he : S.Simulates e₁ e₂) (form : Form)
    (frame : FrameId) :
    S.Rel (Evaluation.whenTrue config e₁ form frame)
      (Evaluation.whenTrue config e₂ form frame) := by
  refine S.validate config "when" form.tail _ fun count haccept => ?_
  have hlength : 2 ≤ form.tail.length ∨ S.Panics :=
    hbounds.imp_left fun hrules => Rule.when_length (hrules ▸ haccept)
  refine S.bind (S.item (hlength.imp_left fun h => by omega)) fun test => ?_
  refine S.bind (he test frame) fun value => ?_
  split
  · refine S.bind (S.sliceFrom (hlength.imp_left fun h => by omega)) fun nodes => ?_
    exact body he frame .nil nodes
  · exact S.pure _

theorem firstTrue (he : S.Simulates e₁ e₂) (frame : FrameId) (nodes : List Node) :
    S.Rel (Evaluation.firstTrue e₁ frame nodes) (Evaluation.firstTrue e₂ frame nodes) := by
  induction nodes using Evaluation.firstTrue.induct with
  | case1 test result rest ih =>
    refine S.bind (he test frame) fun value => ?_
    split
    · exact he result frame
    · exact ih
  | case2 nodes hshort =>
    rw [Evaluation.firstTrue.eq_def e₁, Evaluation.firstTrue.eq_def e₂]
    split
    · exact absurd rfl (hshort _ _ _)
    · exact S.pure _

theorem condition (he : S.Simulates e₁ e₂) (form : Form) (frame : FrameId) :
    S.Rel (Evaluation.condition config e₁ form frame)
      (Evaluation.condition config e₂ form frame) := by
  unfold Evaluation.condition
  split
  · exact S.pure _
  · exact S.validate config "cond" form.tail _ fun _ _ => firstTrue he frame form.tail

end

/-! ### Calls, keys and methods -/

variable {e₁ e₂ : Context → Evaluator}

theorem callForm (h : S.Carries config.hosts e₁ e₂) (callee : Value) (form : Form)
    (frame : FrameId) :
    S.Rel (Evaluation.callForm config e₁ callee form frame)
      (Evaluation.callForm config e₂ callee form frame) := by
  unfold Evaluation.callForm
  dsimp only
  split
  · exact S.fail rfl
  · refine S.bind (arguments (h.nodes _) frame form.tail) fun args => ?_
    exact S.located _ (call h callee args)

theorem keywordForm (h : S.Carries config.hosts e₁ e₂) (keyword : String) (form : Form)
    (frame : FrameId) :
    S.Rel (Evaluation.keywordForm config e₁ keyword form frame)
      (Evaluation.keywordForm config e₂ keyword form frame) := by
  refine S.bind (S.lookup? frame "get") fun found => ?_
  refine S.bind (S.orFail rfl found) fun lookup => ?_
  split
  · exact S.fail rfl
  · -- the form checks the number of its nodes itself, whatever the oracle says
    rename_i hfits
    have hallows := Arity.complaint?_eq_none_iff.mp hfits
    simp only [Arity.allows, Bool.and_eq_true, decide_eq_true_eq] at hallows
    refine S.bind (S.item (.inl (by omega))) fun first => ?_
    refine S.bind (h.nodes _ first frame) fun collection => ?_
    have hcall : ∀ default, S.Rel
        (Eval.located form.headLocation?
          (lookup.call config.hosts e₁ [collection, .ofKeyword keyword, default]))
        (Eval.located form.headLocation?
          (lookup.call config.hosts e₂ [collection, .ofKeyword keyword, default])) :=
      fun default => S.located _ (call h lookup _)
    split
    · exact S.bind (h.nodes _ _ frame) hcall
    · exact S.bind (S.pure _) hcall

theorem dotForm (hbounds : S.Bounded config.toContext) (h : S.Carries config.hosts e₁ e₂)
    (name : String) (form : Form) (frame : FrameId) :
    S.Rel (Evaluation.dotForm config e₁ name form frame)
      (Evaluation.dotForm config e₂ name form frame) := by
  unfold Evaluation.dotForm
  dsimp only
  split
  · exact S.fail rfl
  · refine S.validate config "dot-form" form.tail _ fun count haccept => ?_
    have hlength : 1 ≤ form.tail.length ∨ S.Panics :=
      hbounds.imp_left fun hrules => Rule.dot_length (hrules ▸ haccept)
    have harguments : S.Rel
        (Eval.sliceFrom 1 form.tail >>= fun nodes =>
          Eval.arguments (e₁ config.toContext) frame nodes)
        (Eval.sliceFrom 1 form.tail >>= fun nodes =>
          Eval.arguments (e₂ config.toContext) frame nodes) :=
      S.bind (S.sliceFrom hlength) fun nodes => arguments (h.nodes _) frame nodes
    refine S.bind (S.item (hlength.imp_left fun h => by omega)) fun first => ?_
    refine S.bind (h.nodes _ first frame) fun receiver => ?_
    refine S.bind (S.orFail rfl _) fun className => ?_
    split
    · split
      · exact S.bind harguments fun args => S.located _ (objectCall h _ _ args)
      · exact S.fail rfl
    · refine S.bind (S.orFail rfl _) fun found => S.bind harguments fun args => ?_
      exact S.located _ (S.ofCalled (found.run_stopsAsCalled args))

/-! ### Scopes -/

theorem bindNames (h : S.Carries config.hosts e₁ e₂) {frame : FrameId}
    (hframe : S.Writable frame) (location : Option Location) (lookup value : Value) (byName : Bool)
    (i : Nat) (nodes : List Node) :
    S.Rel (Evaluation.bindNames config e₁ frame location lookup value byName i nodes)
      (Evaluation.bindNames config e₂ frame location lookup value byName i nodes) := by
  induction nodes generalizing i with
  | nil => exact S.pure ()
  | cons node nodes ih =>
    refine S.bind (S.identifier "let" node) fun name => ?_
    refine S.bind (S.located location (call h lookup _)) fun item => ?_
    exact S.bind (S.define hframe name item) fun _ => ih (i + 1)

theorem destructure (h : S.Carries config.hosts e₁ e₂) {frame : FrameId}
    (hframe : S.Writable frame) (location : Option Location) (pattern : Form) (value : Value) :
    S.Rel (Evaluation.destructure config e₁ frame location pattern value)
      (Evaluation.destructure config e₂ frame location pattern value) := by
  refine S.bind (S.lookup? frame "get") fun found => ?_
  refine S.bind (S.orFail rfl found) fun lookup => ?_
  exact bindNames h hframe location lookup value pattern.isDict 0 _

theorem bindTargets (h : S.Carries config.hosts e₁ e₂) {frame : FrameId}
    (hframe : S.Writable frame) (location : Option Location) (nodes : List Node) :
    S.Rel (Evaluation.bindTargets config e₁ frame location nodes)
      (Evaluation.bindTargets config e₂ frame location nodes) := by
  induction nodes using Evaluation.bindTargets.induct with
  | case1 => exact S.pure ()
  | case2 target => exact S.fail rfl
  | case3 target node rest ih =>
    refine S.bind (h.nodes _ node frame) fun value => ?_
    dsimp only
    split
    · exact S.bind (destructure h hframe location _ value) fun _ => ih
    · refine S.bind (S.identifier "let" target) fun name => ?_
      exact S.bind (S.define hframe name value) fun _ => ih

theorem letBind (hbounds : S.Bounded config.toContext) (h : S.Carries config.hosts e₁ e₂)
    (form : Form) (frame : FrameId) :
    S.Rel (Evaluation.letBind config e₁ form frame)
      (Evaluation.letBind config e₂ form frame) := by
  refine S.validate config "let" form.tail _ fun count haccept => ?_
  have hlength : 1 ≤ form.tail.length ∨ S.Panics := hbounds.imp_left fun hrules => by
    obtain ⟨bindings, body, htail, _⟩ := Rule.let_shape (hrules ▸ haccept)
    simp [htail]
  refine S.bind (S.item (hlength.imp_left fun h => by omega)) fun first => ?_
  refine S.bind (S.orFail rfl _) fun bindings => ?_
  refine S.overlay frame [] fun inner hinner => ?_
  refine S.bind (bindTargets h hinner _ bindings.items) fun _ => ?_
  refine S.bind (S.sliceFrom hlength) fun nodes => ?_
  exact body (h.nodes _) inner .nil nodes

/-! ### Functions -/

/-- The names around a collector are there once it is clear that just one follows it. -/
theorem ofNames_stopsPlainly (form : String) (location : Option Location) (names : List String) :
    StopsPlainly (Signature.ofNames form location names) := by
  unfold Signature.ofNames
  split
  · exact .ok _
  · split
    · exact .error rfl
    · split
      · exact .error rfl
      · split
        · exact .error rfl
        · rename_i position _ _ _ hone
          have hafter : position + 1 < names.length := by omega
          unfold Signature.around
          rw [List.getElem?_eq_getElem hafter]
          exact .ok _

theorem ofForm_stopsPlainly (form : String) (location : Option Location) (parameters : Form) :
    StopsPlainly (Signature.ofForm form location parameters) := by
  refine .bind (.lift (.mapM (identifierFor_failsPlain form) parameters.items)) fun names => ?_
  exact ofNames_stopsPlainly form location names

theorem makeFunction (context : Context) (form name : String) (parameters : Node)
    (body : List Node) (frame : FrameId) (location : Option Location) :
    S.Rel (Evaluation.makeFunction context form name parameters body frame location)
      (Evaluation.makeFunction context form name parameters body frame location) := by
  refine S.bind (S.orFail rfl _) fun parameters => ?_
  refine S.bind (S.ofExcept (ofForm_stopsPlainly form location parameters)) fun signature => ?_
  exact S.bind S.freshRef fun ref => S.pure _

theorem function (hbounds : S.Bounded config.toContext) (form : Form) (frame : FrameId) :
    S.Rel (Evaluation.function config form frame) (Evaluation.function config form frame) := by
  refine S.validate config "fn" form.tail _ fun count haccept => ?_
  have hlength : 1 ≤ form.tail.length ∨ S.Panics := hbounds.imp_left fun hrules => by
    obtain ⟨parameters, body, htail⟩ := Rule.fn_shape (hrules ▸ haccept)
    simp [htail]
  refine S.bind (S.item (hlength.imp_left fun h => by omega)) fun parameters => ?_
  refine S.bind (S.sliceFrom hlength) fun body => ?_
  exact makeFunction _ "fn" anonymous parameters body frame _

theorem inlineFunction (context : Context) (form : Form) (frame : FrameId) :
    S.Rel (Evaluation.inlineFunction context form frame)
      (Evaluation.inlineFunction context form frame) :=
  S.bind S.freshRef fun _ => S.pure _

/-! ### Definitions -/

theorem defineBy (once : Bool) {frame : FrameId} (hframe : S.Writable frame) (name : String)
    {x y : Eval Value} (hx : S.Rel x y) :
    S.Rel (Evaluation.defineBy once frame name x) (Evaluation.defineBy once frame name y) := by
  refine S.bind (S.lookup? frame name) fun found => ?_
  split
  · exact S.pure _
  · refine S.bind hx fun value => ?_
    exact S.bind (S.define hframe name value) fun _ => S.pure value

theorem defineValue {e₁ e₂ : Evaluator} (hbounds : S.Bounded config.toContext)
    (he : S.Simulates e₁ e₂)
    (once : Bool) (form : Form) {frame : FrameId} (hframe : S.Writable frame) :
    S.Rel (Evaluation.define config e₁ once form frame)
      (Evaluation.define config e₂ once form frame) := by
  refine S.validate config _ form.tail _ fun count haccept => ?_
  have hlength : 2 ≤ form.tail.length ∨ S.Panics := hbounds.imp_left fun hrules => by
    obtain ⟨target, node, name, htail, _⟩ := Rule.def_shape (hrules ▸ haccept)
    simp [htail]
  refine S.bind (S.item (hlength.imp_left fun h => by omega)) fun target => ?_
  refine S.bind (S.identifier _ target) fun name => defineBy once hframe name ?_
  refine S.bind (S.item (hlength.imp_left fun h => by omega)) fun node => ?_
  exact he node frame

theorem defineFunction (hbounds : S.Bounded config.toContext) (once : Bool) (form : Form)
    {frame : FrameId} (hframe : S.Writable frame) :
    S.Rel (Evaluation.defineFunction config once form frame)
      (Evaluation.defineFunction config once form frame) := by
  refine S.validate config _ form.tail _ fun count haccept => ?_
  have hlength : 2 ≤ form.tail.length ∨ S.Panics := hbounds.imp_left fun hrules => by
    obtain ⟨target, name, parameters, body, htail, _⟩ := Rule.defn_shape (hrules ▸ haccept)
    simp [htail]
  refine S.bind (S.item (hlength.imp_left fun h => by omega)) fun target => ?_
  refine S.bind (S.identifier _ target) fun name => defineBy once hframe name ?_
  refine S.bind (S.item (hlength.imp_left fun h => by omega)) fun parameters => ?_
  refine S.bind (S.sliceFrom hlength) fun body => ?_
  exact makeFunction _ _ name parameters body frame _

theorem defineModule (hbounds : S.Bounded config.toContext) (h : S.Carries config.hosts e₁ e₂)
    {formName : String} (hname : formName = "import" ∨ formName = "require") (resolver : Resolver)
    (form : Form) {frame : FrameId} (hframe : S.Writable frame) :
    S.Rel (Evaluation.defineModule config e₁ formName resolver form frame)
      (Evaluation.defineModule config e₂ formName resolver form frame) := by
  refine S.validate config formName form.tail _ fun count haccept => ?_
  have hlength : 1 ≤ form.tail.length ∨ S.Panics := hbounds.imp_left fun hrules => by
    obtain ⟨target, path, htail, _⟩ := Rule.module_shape hname (hrules ▸ haccept)
    simp [htail]
  refine S.bind (S.item (hlength.imp_left fun h => by omega)) fun target => ?_
  refine S.bind (S.identifier formName target) fun path => ?_
  refine S.bind (S.lookup? frame resolver.name) fun found => ?_
  refine S.bind (S.orFail rfl found) fun resolve => ?_
  refine S.bind (S.located _ (call h resolve [.str path])) fun value => ?_
  exact S.bind (S.define hframe _ value) fun _ => S.pure _

/-! ### Handlers -/

theorem handledKind (node : Node) (value : Value) :
    S.Rel (Evaluation.handledKind node value) (Evaluation.handledKind node value) := by
  unfold Evaluation.handledKind
  split
  · exact S.pure _
  · exact S.fail rfl

theorem tryCatch {e₁ e₂ : Evaluator} (hbounds : S.Bounded config.toContext) (he : S.Simulates e₁ e₂)
    (form : Form) (frame : FrameId) :
    S.Rel (Evaluation.tryCatch config e₁ form frame)
      (Evaluation.tryCatch config e₂ form frame) := by
  refine S.validate config "try" form.tail _ fun _ haccept => ?_
  have hlength : 2 ≤ form.tail.length ∨ S.Panics := hbounds.imp_left fun hrules => by
    obtain ⟨node, clause, htail⟩ := Rule.try_shape (hrules ▸ haccept)
    simp [htail]
  refine S.bind (S.item (hlength.imp_left fun h => by omega)) fun last => ?_
  refine S.bind (S.orFail rfl last.form?) fun clause => ?_
  refine S.validate config "catch" clause.children _ fun _ haccept => ?_
  -- the rule of the clause counts its head as well
  have hclause : 3 ≤ clause.children.length ∨ S.Panics := hbounds.imp_left fun hrules => by
    obtain ⟨head, classNode, nameNode, name, body, hchildren, _⟩ :=
      Rule.catch_shape (hrules ▸ haccept)
    simp [hchildren]
  refine S.bind (S.item (hclause.imp_left fun h => by omega)) fun classNode => ?_
  refine S.bind (he classNode frame) fun value => ?_
  refine S.bind (handledKind classNode value) fun kind => ?_
  refine S.bind (S.item (hclause.imp_left fun h => by omega)) fun nameNode => ?_
  refine S.bind (S.identifier "catch" nameNode) fun name => ?_
  refine S.bind (S.item (hlength.imp_left fun h => by omega)) fun node => ?_
  refine S.handling _ (he node frame) fun fault => S.bind S.freshRef fun ref => ?_
  refine S.overlay frame [(name, .exception ref fault)] fun inner _ => ?_
  refine S.bind (S.sliceFrom hclause) fun nodes => ?_
  exact body he inner .nil nodes

/-! ### Nodes -/

theorem constant?_failsPlainly (token : Token) : FailsPlainly token.constant? := by
  unfold Token.constant?
  split
  · split
    · exact .ok _
    · exact .error rfl
  all_goals exact .ok _

mutual

theorem datum_failsPlainly (node : Node) : FailsPlainly node.datum := by
  cases node with
  | literal token properties =>
    rw [Node.datum]
    exact .map (constant?_failsPlainly token)
  | form children properties inline location =>
    rw [Node.datum]
    exact .map (data_failsPlainly children)

theorem data_failsPlainly (nodes : List Node) : FailsPlainly (Node.data nodes) := by
  cases nodes with
  | nil =>
    rw [Node.data]
    exact .ok _
  | cons node nodes =>
    rw [Node.data]
    exact .bind (datum_failsPlainly node) fun _ => .bind (data_failsPlainly nodes) fun _ => .ok _

end

theorem evalToken (token : Token) (properties : List String) (frame : FrameId) :
    S.Rel (Evaluation.evalToken token properties frame)
      (Evaluation.evalToken token properties frame) := by
  refine S.bind (S.ofLift (constant?_failsPlainly token)) fun constant => ?_
  split
  · exact S.pure _
  · split
    · exact S.pure _
    · split
      · exact S.bind (S.lookup? frame token.text) fun found => S.orFail rfl found
      · exact S.fail rfl

theorem evalPipeline {e₁ e₂ : Evaluator} (he : S.Simulates e₁ e₂) (thread : Thread) (form : Form)
    (frame : FrameId) :
    S.Rel (Evaluation.evalPipeline e₁ thread form frame)
      (Evaluation.evalPipeline e₂ thread form frame) := by
  unfold Evaluation.evalPipeline
  split
  · exact S.pure _
  · exact he _ frame

theorem evalSpecial (hbounds : S.Bounded config.toContext) (h : S.Carries config.hosts e₁ e₂)
    {top : Bool}
    {frame : FrameId} (htop : top = true → S.Writable frame) (special : SpecialForm) (form : Form) :
    S.Rel (Evaluation.evalSpecial config e₁ top special form frame)
      (Evaluation.evalSpecial config e₂ top special form frame) := by
  unfold Evaluation.evalSpecial
  split
  · exact S.fail rfl
  · -- a definition that is not refused stands at the top level, where the frame may be written
    rename_i hallowed
    have hframe : special.topLevelOnly = true → S.Writable frame := by
      intro honly
      rw [honly] at hallowed
      exact htop (by simpa using hallowed)
    cases special with
    | doAll => exact body (h.nodes _) frame .nil form.tail
    | anyOf => exact anyOf (h.nodes _) frame .nil form.tail
    | allOf => exact allOf (h.nodes _) frame (.bool true) form.tail
    | tryCatch => exact tryCatch hbounds (h.nodes _) form frame
    | threadFirst => exact evalPipeline (h.nodes _) .first form frame
    | threadLast => exact evalPipeline (h.nodes _) .last form frame
    | ifElse => exact ifElse hbounds (h.nodes _) form frame
    | whenTrue => exact whenTrue hbounds (h.nodes _) form frame
    | condition => exact condition (h.nodes _) form frame
    | letBind => exact letBind hbounds h form frame
    | function => exact function hbounds form frame
    | define => exact defineValue hbounds (h.nodes _) false form (hframe rfl)
    | defineOnce => exact defineValue hbounds (h.nodes _) true form (hframe rfl)
    | defineFunction => exact defineFunction hbounds false form (hframe rfl)
    | defineFunctionOnce => exact defineFunction hbounds true form (hframe rfl)
    | importModule => exact defineModule hbounds h (.inl rfl) .imported form (hframe rfl)
    | requireModule => exact defineModule hbounds h (.inr rfl) .required form (hframe rfl)

theorem evalHead (hbounds : S.Bounded config.toContext) (h : S.Carries config.hosts e₁ e₂)
    {top : Bool}
    {frame : FrameId} (htop : top = true → S.Writable frame) (head : Node) (form : Form) :
    S.Rel (Evaluation.evalHead config e₁ top head form frame)
      (Evaluation.evalHead config e₂ top head form frame) := by
  have hcall : S.Rel
      (e₁ config.toContext head frame >>= fun callee =>
        Evaluation.callForm config e₁ callee form frame)
      (e₂ config.toContext head frame >>= fun callee =>
        Evaluation.callForm config e₂ callee form frame) :=
    S.bind (h.nodes _ head frame) fun callee => callForm h callee form frame
  cases head with
  | form children properties inline location => exact hcall
  | literal token properties =>
    unfold Evaluation.evalHead
    dsimp only
    split
    · exact S.fail rfl
    · split
      · exact keywordForm h token.text form frame
      · split
        · exact evalSpecial hbounds h htop _ form
        · split
          · exact dotForm hbounds h token.text form frame
          · exact hcall
      · exact S.fail rfl

theorem evalForm (hbounds : S.Bounded config.toContext) (h : S.Carries config.hosts e₁ e₂)
    {top : Bool} {frame : FrameId} (htop : top = true → S.Writable frame) (form : Form) :
    S.Rel (Evaluation.evalForm config e₁ top form frame)
      (Evaluation.evalForm config e₂ top form frame) := by
  unfold Evaluation.evalForm
  split
  · exact S.ofLift (.map (data_failsPlainly form.children))
  · split
    · exact inlineFunction _ form frame
    · split
      · exact S.fail rfl
      · exact evalHead hbounds h htop _ form

/-- **Evaluators that simulate each other on the nodes inside do so on the whole.** -/
theorem evalNode (hbounds : S.Bounded config.toContext) (h : S.Carries config.hosts e₁ e₂)
    {top : Bool} {frame : FrameId} (htop : top = true → S.Writable frame) (node : Node) :
    S.Rel (Evaluation.evalNode config e₁ top node frame)
      (Evaluation.evalNode config e₂ top node frame) := by
  cases node with
  | literal token properties => exact evalToken token properties frame
  | form children properties inline location =>
    exact evalForm hbounds h htop ⟨children, properties, inline, location⟩

/-! ### Programs -/

theorem programBy {run₁ run₂ : Node → Eval Value} (hrun : ∀ node, S.Rel (run₁ node) (run₂ node))
    (last : Value) (nodes : List Node) :
    S.Rel (Eval.programBy run₁ last nodes) (Eval.programBy run₂ last nodes) := by
  induction nodes generalizing last with
  | nil => exact S.pure last
  | cons node nodes ih =>
    refine S.bind (S.change (fun _ => .topLevel node) fun _ _ => rfl) fun _ => ?_
    exact S.bind (hrun node) fun value => ih value

end Simulation

end FrameLisp
