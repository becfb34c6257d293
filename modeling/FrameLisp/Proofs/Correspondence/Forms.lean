import FrameLisp.Proofs.Correspondence

/-!
# Corresponding runs of forms

If two evaluators evaluate nodes that are alike alike, then they evaluate alike every form that has
such nodes in it (`Correspondence.evalNode`), under contexts that are alike.  Each form has its
lemma, in the order in which the forms are defined.  The oracles have to give nodes that are alike
one verdict; the oracle of the language does (`Correspondence.oracleAlike_of_standard`), since all
it looks at is how nodes are built.

A pipeline is rewritten before it is evaluated, so it has to be seen that pipelines that are alike
are rewritten alike.
-/

namespace FrameLisp

namespace Correspondence

variable {C : Correspondence} {config : Config} {context' : Context} {form form' : Form}
  {frame frame' : FrameId}

/-- The values of two runs. -/
abbrev ValueAlike (C : Correspondence) : Value → Value → Prop :=
  Value.Alike C.toLikeness

/-- The nodes of two runs. -/
abbrev NodesAlike (C : Correspondence) : List Node → List Node → Prop :=
  List.Forall₂ (Node.Alike C.toLikeness)

/-! ### Rules -/

theorem shape_accepts_eq (shape : Shape) {node node' : Node} (h : node.Alike C.toLikeness node') :
    shape.accepts node' = shape.accepts node := by
  cases shape with
  | identifier =>
    dsimp only [Shape.accepts]
    rw [h.identifier?]
  | form =>
    dsimp only [Shape.accepts]
    match node.form?, node'.form?, h.form? with
    | _, _, .none => rfl
    | _, _, .some hform => rfl
  | pairs =>
    dsimp only [Shape.accepts]
    match node.form?, node'.form?, h.form? with
    | _, _, .none => rfl
    | _, _, .some hform => simp only [Option.any_some, hform.items.length_eq]
  | headedBy name =>
    dsimp only [Shape.accepts]
    match node.form?, node'.form?, h.form? with
    | _, _, .none => rfl
    | _, _, .some hform => simp only [Option.any_some, hform.headIs]

theorem misshape?_eq {nodes nodes' : List Node} (h : C.NodesAlike nodes nodes')
    (shapes : List (Nat × Shape)) :
    Rule.misshape? nodes' shapes = Rule.misshape? nodes shapes := by
  induction shapes with
  | nil => rfl
  | cons entry shapes ih =>
    obtain ⟨position, shape⟩ := entry
    have haccepts : nodes'[position]?.all shape.accepts = nodes[position]?.all shape.accepts := by
      match nodes[position]?, nodes'[position]?, rel_getElem? h position with
      | _, _, .none => rfl
      | _, _, .some hnode => rw [Option.all_some, Option.all_some, shape_accepts_eq shape hnode]
    rw [Rule.misshape?, Rule.misshape?, haccepts, ih]

/-- The oracle of the language does not tell apart nodes that are alike. -/
theorem oracleAlike_of_standard {context context' : Context} (h : context.oracle = Rule.standard)
    (h' : context'.oracle = Rule.standard) : C.OracleAlike context context' := by
  intro rule nodes nodes' hnodes
  rw [h, h']
  unfold Rule.standard
  split
  · unfold Rule.judge
    rw [hnodes.length_eq, misshape?_eq hnodes]
  · rfl

/-! ### Choices -/

section Choices

variable {e e' : Evaluator}

theorem anyOf (he : C.EvaluatorAlike e e') (hframe : C.frame frame frame') {last last' : Value}
    (hlast : C.ValueAlike last last') {nodes nodes' : List Node} (h : C.NodesAlike nodes nodes') :
    C.Alike C.ValueAlike (Evaluation.anyOf e frame last nodes)
      (Evaluation.anyOf e' frame' last' nodes') := by
  induction h generalizing last last' with
  | nil => exact .pure hlast
  | cons hnode hnodes ih =>
    refine .bind (he hnode hframe) fun value value' hvalue => ?_
    rw [hvalue.isTruthy]
    split
    · exact .pure hvalue
    · exact ih hvalue

theorem allOf (he : C.EvaluatorAlike e e') (hframe : C.frame frame frame') {last last' : Value}
    (hlast : C.ValueAlike last last') {nodes nodes' : List Node} (h : C.NodesAlike nodes nodes') :
    C.Alike C.ValueAlike (Evaluation.allOf e frame last nodes)
      (Evaluation.allOf e' frame' last' nodes') := by
  induction h generalizing last last' with
  | nil => exact .pure hlast
  | cons hnode hnodes ih =>
    refine .bind (he hnode hframe) fun value value' hvalue => ?_
    rw [hvalue.isTruthy]
    split
    · exact ih hvalue
    · exact .pure hvalue

theorem ifElse (hcontext : C.ContextAlike config.toContext context') (he : C.EvaluatorAlike e e')
    (hform : form.Alike C.toLikeness form') (hframe : C.frame frame frame') :
    C.Alike C.ValueAlike (Evaluation.ifElse config e form frame)
      (Evaluation.ifElse (config.under context') e' form' frame') := by
  refine .bind (validate hcontext "if" hform.tail hform.headLocation?) fun _ _ _ => ?_
  refine .bind (item hform.tail 0) fun test test' htest => ?_
  refine .bind (he htest hframe) fun value value' hvalue => ?_
  rw [hvalue.isTruthy]
  split
  · exact .bind (item hform.tail 1) fun chosen chosen' hchosen => he hchosen hframe
  · match form.tail[2]?, form'.tail[2]?, rel_getElem? hform.tail 2 with
    | _, _, .none => exact .pure .nil
    | _, _, .some hotherwise => exact he hotherwise hframe

theorem whenTrue (hcontext : C.ContextAlike config.toContext context') (he : C.EvaluatorAlike e e')
    (hform : form.Alike C.toLikeness form') (hframe : C.frame frame frame') :
    C.Alike C.ValueAlike (Evaluation.whenTrue config e form frame)
      (Evaluation.whenTrue (config.under context') e' form' frame') := by
  refine .bind (validate hcontext "when" hform.tail hform.headLocation?) fun _ _ _ => ?_
  refine .bind (item hform.tail 0) fun test test' htest => ?_
  refine .bind (he htest hframe) fun value value' hvalue => ?_
  rw [hvalue.isTruthy]
  split
  · exact .bind (sliceFrom hform.tail 1) fun nodes nodes' hnodes => body he hframe .nil hnodes
  · exact .pure .nil

theorem firstTrue (he : C.EvaluatorAlike e e') (hframe : C.frame frame frame')
    {nodes nodes' : List Node} (h : C.NodesAlike nodes nodes') :
    C.Alike C.ValueAlike (Evaluation.firstTrue e frame nodes)
      (Evaluation.firstTrue e' frame' nodes') := by
  match nodes, nodes', h with
  | [], [], .nil => exact .pure .nil
  | [_], [_], .cons _ .nil => exact .pure .nil
  | test :: result :: rest, test' :: result' :: rest', .cons htest (.cons hresult hrest) =>
    refine .bind (he htest hframe) fun value value' hvalue => ?_
    rw [hvalue.isTruthy]
    split
    · exact he hresult hframe
    · exact firstTrue he hframe hrest

theorem condition (hcontext : C.ContextAlike config.toContext context') (he : C.EvaluatorAlike e e')
    (hform : form.Alike C.toLikeness form') (hframe : C.frame frame frame') :
    C.Alike C.ValueAlike (Evaluation.condition config e form frame)
      (Evaluation.condition (config.under context') e' form' frame') := by
  have hempty : form'.tail.isEmpty = form.tail.isEmpty := by
    match form.tail, form'.tail, hform.tail with
    | _, _, .nil => rfl
    | _, _, .cons hnode hnodes => rfl
  unfold Evaluation.condition
  rw [hempty]
  split
  · exact .pure .nil
  · refine .bind (validate hcontext "cond" hform.tail hform.headLocation?) fun _ _ _ => ?_
    exact firstTrue he hframe hform.tail

end Choices

/-! ### Calls, keys and methods -/

variable {e e' : Context → Evaluator}

theorem callForm (hcontext : C.ContextAlike config.toContext context')
    (he : C.Carries config.hosts e e') {callee callee' : Value}
    (hcallee : C.ValueAlike callee callee') (hform : form.Alike C.toLikeness form')
    (hframe : C.frame frame frame') :
    C.Alike C.ValueAlike (Evaluation.callForm config e callee form frame)
      (Evaluation.callForm (config.under context') e' callee' form' frame') := by
  unfold Evaluation.callForm
  dsimp only
  rw [hform.isDict, hform.tail.length_eq]
  split
  · exact fail (.malformed _ hform.headLocation?)
  · refine .bind (arguments (he.nodes hcontext.related) hframe hform.tail)
      fun args args' hargs => ?_
    exact located hform.headLocation? (call he hcallee hargs)

theorem keywordForm (hcontext : C.ContextAlike config.toContext context')
    (he : C.Carries config.hosts e e') (keyword : String)
    (hform : form.Alike C.toLikeness form') (hframe : C.frame frame frame') :
    C.Alike C.ValueAlike (Evaluation.keywordForm config e keyword form frame)
      (Evaluation.keywordForm (config.under context') e' keyword form' frame') := by
  refine .bind (lookup? hframe C.visible_get) fun found found' hfound => ?_
  refine .bind (orFail (.runtime _ hform.headLocation?) hfound) fun lookup lookup' hlookup => ?_
  rw [hform.tail.length_eq]
  split
  · exact fail (.malformed _ hform.headLocation?)
  · refine .bind (item hform.tail 0) fun first first' hfirst => ?_
    refine .bind (he.nodes hcontext.related hfirst hframe)
      fun collection collection' hcollection => ?_
    have hcall : ∀ default default', C.ValueAlike default default' → C.Alike C.ValueAlike
        (Eval.located form.headLocation?
          (lookup.call config.hosts e [collection, .ofKeyword keyword, default]))
        (Eval.located form'.headLocation?
          (lookup'.call config.hosts e' [collection', .ofKeyword keyword, default'])) := by
      intro default default' hdefault
      refine located hform.headLocation? (call he hlookup ?_)
      exact .cons hcollection (.cons (.keyword _) (.cons hdefault .nil))
    have hsecond := rel_getElem? hform.tail 1
    generalize form.tail[1]? = second at hsecond ⊢
    generalize form'.tail[1]? = second' at hsecond ⊢
    cases hsecond with
    | none => exact .bind (.pure .nil) hcall
    | some hnode => exact .bind (he.nodes hcontext.related hnode hframe) hcall

theorem dotForm (hcontext : C.ContextAlike config.toContext context')
    (he : C.Carries config.hosts e e') (name : String)
    (hform : form.Alike C.toLikeness form') (hframe : C.frame frame frame') :
    C.Alike C.ValueAlike (Evaluation.dotForm config e name form frame)
      (Evaluation.dotForm (config.under context') e' name form' frame') := by
  unfold Evaluation.dotForm
  dsimp only
  split
  · exact fail (.malformed _ hform.headLocation?)
  · refine .bind (validate hcontext "dot-form" hform.tail hform.headLocation?) fun _ _ _ => ?_
    have harguments : C.Alike (Value.AllAlike C.toLikeness)
        (Eval.sliceFrom 1 form.tail >>= fun nodes =>
          Eval.arguments (e config.toContext) frame nodes)
        (Eval.sliceFrom 1 form'.tail >>= fun nodes => Eval.arguments (e' context') frame' nodes) :=
      .bind (sliceFrom hform.tail 1) fun nodes nodes' hnodes =>
        arguments (he.nodes hcontext.related) hframe hnodes
    refine .bind (item hform.tail 0) fun first first' hfirst => ?_
    refine .bind (he.nodes hcontext.related hfirst hframe) fun receiver receiver' hreceiver => ?_
    rw [hreceiver.className?, hreceiver.shown]
    have hclass : Option.Rel Eq receiver.className? receiver.className? := by
      cases receiver.className? with
      | none => exact .none
      | some className => exact .some rfl
    refine .bind (orFail (.mistyped _ hform.headLocation?) hclass) fun className _ hname => ?_
    subst hname
    have hobject := object?_alike hreceiver
    generalize receiver.object? = object at hobject ⊢
    generalize receiver'.object? = object' at hobject ⊢
    cases hobject with
    | @some object object' hobject =>
      dsimp only
      show C.Alike _ (ite (object.has config.hosts _ = true) _ _)
        (ite (object'.has config.hosts _ = true) _ _)
      rw [has_eq config.hosts hobject]
      split
      · rename_i hhas
        refine .bind harguments fun args args' hargs => ?_
        exact located hform.headLocation? (objectCall he hobject hhas hargs)
      · exact fail (.unbound _ hform.headLocation?)
    | none =>
      refine .bind (orFail (.unbound _ hform.headLocation?) (hreceiver.method? _))
        fun found found' hfound => ?_
      refine .bind harguments fun args args' hargs => ?_
      exact located hform.headLocation? (ofCalled (hfound.run hargs) (found.run_stopsAsCalled args))

/-! ### Scopes -/

theorem bindNames (he : C.Carries config.hosts e e') (hframe : C.frame frame frame')
    {location location' : Option Location} (hlocation : C.place location location')
    {lookup lookup' value value' : Value} (hlookup : C.ValueAlike lookup lookup')
    (hvalue : C.ValueAlike value value') (byName : Bool) (i : Nat) {nodes nodes' : List Node}
    (h : C.NodesAlike nodes nodes') :
    C.Alike (fun _ _ => True)
      (Evaluation.bindNames config e frame location lookup value byName i nodes)
      (Evaluation.bindNames (config.under context') e' frame' location' lookup' value' byName i
        nodes') := by
  induction h generalizing i with
  | nil => exact .pure trivial
  | cons hnode hnodes ih =>
    refine .bind (identifier "let" hnode) fun _ name hname => ?_
    obtain ⟨rfl, -⟩ := hname
    have hkey : C.ValueAlike (if byName then Value.ofKeyword name else .ofNat i)
        (if byName then Value.ofKeyword name else .ofNat i) := by
      cases byName with
      | true => exact .keyword _
      | false => exact .int _
    have hargs := List.Forall₂.cons hvalue (.cons hkey (.cons Value.Alike.nil .nil))
    refine .bind (located hlocation (call he hlookup hargs)) fun item item' hitem => ?_
    exact .bind (defineIn hframe name hitem) fun _ _ _ => ih (i + 1)

theorem destructure (he : C.Carries config.hosts e e') (hframe : C.frame frame frame')
    {location location' : Option Location} (hlocation : C.place location location')
    {pattern pattern' : Form} (hpattern : pattern.Alike C.toLikeness pattern')
    {value value' : Value} (hvalue : C.ValueAlike value value') :
    C.Alike (fun _ _ => True) (Evaluation.destructure config e frame location pattern value)
      (Evaluation.destructure (config.under context') e' frame' location' pattern' value') := by
  refine .bind (lookup? hframe C.visible_get) fun found found' hfound => ?_
  refine .bind (orFail (.runtime _ hlocation) hfound) fun lookup lookup' hlookup => ?_
  rw [hpattern.isDict]
  refine bindNames he hframe hlocation hlookup hvalue pattern.isDict 0 ?_
  split
  · exact hpattern.tail
  · exact hpattern.items

theorem bindTargets (hcontext : C.ContextAlike config.toContext context')
    (he : C.Carries config.hosts e e') (hframe : C.frame frame frame')
    {location location' : Option Location} (hlocation : C.place location location')
    {nodes nodes' : List Node} (h : C.NodesAlike nodes nodes') :
    C.Alike (fun _ _ => True) (Evaluation.bindTargets config e frame location nodes)
      (Evaluation.bindTargets (config.under context') e' frame' location' nodes') := by
  match nodes, nodes', h with
  | [], [], .nil => exact .pure trivial
  | [_], [_], .cons _ .nil => exact fail (.malformed _ hlocation)
  | target :: node :: rest, target' :: node' :: rest', .cons htarget (.cons hnode hrest) =>
    have hnext := bindTargets hcontext he hframe hlocation hrest
    refine .bind (he.nodes hcontext.related hnode hframe) fun value value' hvalue => ?_
    dsimp only
    match target.form?, target'.form?, htarget.form? with
    | _, _, .some hpattern =>
      exact .bind (destructure he hframe hlocation hpattern hvalue) fun _ _ _ => hnext
    | _, _, .none =>
      refine .bind (identifier "let" htarget) fun _ name hname => ?_
      obtain ⟨rfl, -⟩ := hname
      exact .bind (defineIn hframe name hvalue) fun _ _ _ => hnext

theorem letBind (hcontext : C.ContextAlike config.toContext context')
    (he : C.Carries config.hosts e e')
    (hform : form.Alike C.toLikeness form') (hframe : C.frame frame frame') :
    C.Alike C.ValueAlike (Evaluation.letBind config e form frame)
      (Evaluation.letBind (config.under context') e' form' frame') := by
  refine .bind (validate hcontext "let" hform.tail hform.headLocation?) fun _ _ _ => ?_
  refine .bind (item hform.tail 0) fun first first' hfirst => ?_
  refine .bind (orFail (.malformed _ hform.headLocation?) hfirst.form?)
    fun bindings bindings' hbindings => ?_
  refine .bind (overlayOn hframe .nil) fun inner inner' hinner => ?_
  refine .bind (bindTargets hcontext he hinner hform.headLocation? hbindings.items) fun _ _ _ => ?_
  exact .bind (sliceFrom hform.tail 1) fun nodes nodes' hnodes =>
    body (he.nodes hcontext.related) hinner .nil hnodes

/-! ### Functions -/

/-- The same names have the same signature, or are refused in the same words. -/
theorem ofNames_matches (form : String) {location location' : Option Location}
    (hlocation : C.place location location') (names : List String) :
    Matches C.StopAlike Eq (Signature.ofNames form location names)
      (Signature.ofNames form location' names) := by
  unfold Signature.ofNames
  split
  · exact .ok rfl
  · split
    · exact .error (.fault (.malformed _ hlocation))
    · split
      · exact .error (.fault (.malformed _ hlocation))
      · split
        · exact .error (.fault (.malformed _ hlocation))
        · unfold Signature.around
          split
          · exact .ok rfl
          · exact .error .outOfBounds

theorem ofForm_matches (form : String) {location location' : Option Location}
    (hlocation : C.place location location') {parameters parameters' : Form}
    (h : parameters.Alike C.toLikeness parameters') :
    Matches C.StopAlike Eq (Signature.ofForm form location parameters)
      (Signature.ofForm form location' parameters') := by
  have hnames := Matches.mapM (fun _ _ hnode => identifierFor form hnode) h.items
  refine .bind (hnames.lift fun _ _ => .fault) fun names names' hsame => ?_
  have heq : names' = names := by
    induction hsame with
    | nil => rfl
    | cons hname _ ih => rw [hname.1, ih]
  rw [heq]
  exact ofNames_matches form hlocation names

theorem makeFunction {context context' : Context} (hcontext : C.context context context')
    (form name : String) {parameters parameters' : Node}
    (hparameters : parameters.Alike C.toLikeness parameters') {nodes nodes' : List Node}
    (h : C.NodesAlike nodes nodes') (hframe : C.frame frame frame')
    {location location' : Option Location} (hlocation : C.place location location') :
    C.Alike C.ValueAlike (Evaluation.makeFunction context form name parameters nodes frame location)
      (Evaluation.makeFunction context' form name parameters' nodes' frame' location') := by
  unfold Evaluation.makeFunction
  rw [hparameters.render]
  refine .bind (orFail (.malformed _ hparameters.location?) hparameters.form?)
    fun inner inner' hinner => ?_
  refine .bind (ofExcept (ofForm_matches form hlocation hinner)) fun signature _ hsignature => ?_
  subst hsignature
  refine .bind freshRef fun ref ref' href => .pure (.function href ?_)
  exact ⟨rfl, rfl, h, hframe, hcontext, hlocation⟩

theorem function (hcontext : C.ContextAlike config.toContext context')
    (hform : form.Alike C.toLikeness form') (hframe : C.frame frame frame') :
    C.Alike C.ValueAlike (Evaluation.function config form frame)
      (Evaluation.function (config.under context') form' frame') := by
  refine .bind (validate hcontext "fn" hform.tail hform.headLocation?) fun _ _ _ => ?_
  refine .bind (item hform.tail 0) fun parameters parameters' hparameters => ?_
  refine .bind (sliceFrom hform.tail 1) fun nodes nodes' hnodes => ?_
  exact makeFunction hcontext.related "fn" Evaluation.anonymous hparameters hnodes hframe
    hform.headLocation?

theorem inlineFunction {context context' : Context} (hcontext : C.context context context')
    (hform : form.Alike C.toLikeness form') (hframe : C.frame frame frame') :
    C.Alike C.ValueAlike (Evaluation.inlineFunction context form frame)
      (Evaluation.inlineFunction context' form' frame') := by
  have hbody : Form.Alike C.toLikeness { children := form.children, location := form.location }
      { children := form'.children, location := form'.location } :=
    ⟨hform.children, rfl, rfl, hform.location⟩
  refine .bind freshRef fun ref ref' href => .pure (.function href ?_)
  exact ⟨rfl, rfl, .cons hbody.toNode .nil, hframe, hcontext, hform.headLocation?⟩

/-! ### Definitions -/

theorem defineBy (once : Bool) (hframe : C.frame frame frame') {name : String}
    (hname : C.visible name) {x y : Eval Value} (hx : C.Alike C.ValueAlike x y) :
    C.Alike C.ValueAlike (Evaluation.defineBy once frame name x)
      (Evaluation.defineBy once frame' name y) := by
  have hcompute : C.Alike C.ValueAlike
      (x >>= fun value => Eval.define frame name value >>= fun _ => pure value)
      (y >>= fun value => Eval.define frame' name value >>= fun _ => pure value) :=
    .bind hx fun _ _ hvalue => .bind (defineIn hframe name hvalue) fun _ _ _ => .pure hvalue
  refine .bind (lookup? hframe hname) fun found found' hfound => ?_
  cases hfound with
  | none => exact hcompute
  | some hexisting =>
    cases once with
    | true => exact .pure hexisting
    | false => exact hcompute

theorem defineValue {e e' : Evaluator}
    (hcontext : C.ContextAlike config.toContext context') (he : C.EvaluatorAlike e e') (once : Bool)
    (hform : form.Alike C.toLikeness form') (hframe : C.frame frame frame') :
    C.Alike C.ValueAlike (Evaluation.define config e once form frame)
      (Evaluation.define (config.under context') e' once form' frame') := by
  refine .bind (validate hcontext _ hform.tail hform.headLocation?) fun _ _ _ => ?_
  refine .bind (item hform.tail 0) fun target target' htarget => ?_
  refine .bind (identifier _ htarget) fun _ name hname => ?_
  obtain ⟨rfl, hvisible⟩ := hname
  refine defineBy once hframe hvisible ?_
  exact .bind (item hform.tail 1) fun node node' hnode => he hnode hframe

theorem defineFunction (hcontext : C.ContextAlike config.toContext context') (once : Bool)
    (hform : form.Alike C.toLikeness form') (hframe : C.frame frame frame') :
    C.Alike C.ValueAlike (Evaluation.defineFunction config once form frame)
      (Evaluation.defineFunction (config.under context') once form' frame') := by
  refine .bind (validate hcontext _ hform.tail hform.headLocation?) fun _ _ _ => ?_
  refine .bind (item hform.tail 0) fun target target' htarget => ?_
  refine .bind (identifier _ htarget) fun _ name hname => ?_
  obtain ⟨rfl, hvisible⟩ := hname
  refine defineBy once hframe hvisible ?_
  refine .bind (item hform.tail 1) fun parameters parameters' hparameters => ?_
  refine .bind (sliceFrom hform.tail 2) fun nodes nodes' hnodes => ?_
  exact makeFunction hcontext.related _ name hparameters hnodes hframe hform.headLocation?

theorem defineModule (hcontext : C.ContextAlike config.toContext context')
    (he : C.Carries config.hosts e e')
    (formName : String) (resolver : Resolver) (hform : form.Alike C.toLikeness form')
    (hframe : C.frame frame frame') :
    C.Alike C.ValueAlike (Evaluation.defineModule config e formName resolver form frame)
      (Evaluation.defineModule (config.under context') e' formName resolver form' frame') := by
  refine .bind (validate hcontext formName hform.tail hform.headLocation?) fun _ _ _ => ?_
  refine .bind (item hform.tail 0) fun target target' htarget => ?_
  refine .bind (identifier formName htarget) fun _ path hpath => ?_
  obtain ⟨rfl, -⟩ := hpath
  refine .bind (lookup? hframe (C.visible_resolver resolver)) fun found found' hfound => ?_
  refine .bind (orFail (.runtime _ hform.headLocation?) hfound) fun resolve resolve' hresolve => ?_
  have hcall := call he hresolve (.cons (.str path) .nil)
  refine .bind (located hform.headLocation? hcall) fun value value' hvalue => ?_
  exact .bind (defineIn hframe _ hvalue) fun _ _ _ => .pure .nil

/-! ### Handlers -/

/-- The same class in both runs, one that may be around. -/
abbrev ClassAlike (C : Correspondence) (kind kind' : Fault.Kind) : Prop :=
  kind' = kind ∧ C.errorClass kind

theorem handledKind {node node' : Node} (hnode : node.Alike C.toLikeness node')
    {value value' : Value} (h : C.ValueAlike value value') :
    C.Alike C.ClassAlike (Evaluation.handledKind node value)
      (Evaluation.handledKind node' value') := by
  have hfail : C.Alike C.ClassAlike
      (Eval.fail (.notAnErrorClass value.typeName node.location?))
      (Eval.fail (.notAnErrorClass value'.typeName node'.location?)) := by
    rw [h.typeName]
    exact fail (.mistyped _ hnode.location?)
  cases h with
  | errorClass h => exact .pure ⟨rfl, h⟩
  | _ => exact hfail

theorem tryCatch {e e' : Evaluator}
    (hcontext : C.ContextAlike config.toContext context') (he : C.EvaluatorAlike e e')
    (hform : form.Alike C.toLikeness form') (hframe : C.frame frame frame') :
    C.Alike C.ValueAlike (Evaluation.tryCatch config e form frame)
      (Evaluation.tryCatch (config.under context') e' form' frame') := by
  refine .bind (validate hcontext "try" hform.tail hform.headLocation?) fun _ _ _ => ?_
  refine .bind (item hform.tail 1) fun last last' hlast => ?_
  refine .bind (orFail (.malformed _ hform.headLocation?) hlast.form?)
    fun clause clause' hclause => ?_
  refine .bind (validate hcontext "catch" hclause.children hform.headLocation?) fun _ _ _ => ?_
  refine .bind (item hclause.children 1) fun classNode classNode' hclassNode => ?_
  refine .bind (he hclassNode hframe) fun value value' hvalue => ?_
  refine .bind (handledKind hclassNode hvalue) fun _ kind hkind => ?_
  obtain ⟨rfl, hclass⟩ := hkind
  refine .bind (item hclause.children 2) fun nameNode nameNode' hnameNode => ?_
  refine .bind (identifier "catch" hnameNode) fun _ name hname => ?_
  obtain ⟨rfl, -⟩ := hname
  refine .bind (item hform.tail 0) fun node node' hnode => ?_
  refine handling hclass (he hnode hframe) fun fault fault' hfault => ?_
  refine .bind freshRef fun ref ref' href => ?_
  have hbound : Bindings.Alike C.toLikeness [(name, .exception ref fault)]
      [(name, .exception ref' fault')] :=
    .cons ⟨rfl, .exception href hfault⟩ .nil
  refine .bind (overlayOn hframe hbound) fun inner inner' hinner => ?_
  exact .bind (sliceFrom hclause.children 3) fun nodes nodes' hnodes => body he hinner .nil hnodes

/-! ### Nodes -/

theorem constant?_matches {token token' : Token} (h : C.token token token') :
    Matches (Fault.Alike C.place) (Option.Rel C.ValueAlike) token.constant? token'.constant? := by
  have hsome : ∀ {value : Value}, C.ValueAlike value value →
      Matches (Fault.Alike C.place) (Option.Rel C.ValueAlike) (.ok (some value))
        (.ok (some value)) :=
    fun hvalue => .ok (.some hvalue)
  unfold Token.constant?
  rw [C.token_kind h, C.token_text h]
  split
  · split
    · exact hsome (.int _)
    · exact .error (.malformed _ (C.token_place h))
  · exact hsome (.str _)
  · exact hsome .nil
  · exact hsome (.bool _)
  · exact hsome (.keyword _)
  all_goals exact .ok .none

mutual

theorem datum_matches {node node' : Node} (h : node.Alike C.toLikeness node') :
    Matches (Fault.Alike C.place) C.ValueAlike node.datum node'.datum := by
  cases h with
  | literal h properties =>
    rw [Node.datum, Node.datum, C.token_text h]
    refine (constant?_matches h).map fun constant constant' hconstant => ?_
    exact .getD hconstant (.symbol _)
  | form h properties inline hlocation =>
    rw [Node.datum, Node.datum]
    exact (data_matches h).map fun _ _ => .list

theorem data_matches {nodes nodes' : List Node} (h : C.NodesAlike nodes nodes') :
    Matches (Fault.Alike C.place) (Value.AllAlike C.toLikeness) (Node.data nodes)
      (Node.data nodes') := by
  cases h with
  | nil =>
    rw [Node.data]
    exact .ok .nil
  | cons hnode hnodes =>
    rw [Node.data, Node.data]
    refine .bind (datum_matches hnode) fun _ _ hvalue => ?_
    refine .bind (data_matches hnodes) fun _ _ hvalues => ?_
    exact .ok (.cons hvalue hvalues)

end

theorem evalToken {token token' : Token} (h : C.token token token') (properties : List String)
    (hframe : C.frame frame frame') :
    C.Alike C.ValueAlike (Evaluation.evalToken token properties frame)
      (Evaluation.evalToken token' properties frame') := by
  refine .bind (ofExcept ((constant?_matches h).lift fun _ _ => .fault))
    fun constant constant' hconstant => ?_
  rw [C.token_text h, C.token_kind h]
  cases hconstant with
  | some hvalue => exact .pure hvalue
  | none =>
    dsimp only
    split
    · exact .pure (.symbol _)
    · split
      · rename_i hkind
        refine .bind (lookup? hframe (C.visible_of_token h hkind)) fun found found' hfound => ?_
        exact orFail (.unbound _ (C.token_place h)) hfound
      · exact fail (.malformed _ (C.token_place h))

theorem stepForm_alike {node node' : Node} (h : node.Alike C.toLikeness node') :
    (Thread.stepForm node).Alike C.toLikeness (Thread.stepForm node') := by
  cases h with
  | literal h properties =>
    exact ⟨.cons (.literal h properties) .nil, rfl, rfl, C.token_place h⟩
  | form h properties inline hlocation => exact ⟨h, rfl, rfl, hlocation⟩

theorem place_alike (thread : Thread) {target target' : Node}
    (htarget : target.Alike C.toLikeness target') {nodes nodes' : List Node}
    (h : C.NodesAlike nodes nodes') :
    C.NodesAlike (thread.place target nodes) (thread.place target' nodes') := by
  cases thread with
  | first =>
    cases h with
    | nil => exact .cons htarget .nil
    | cons hhead hargs => exact .cons hhead (.cons htarget hargs)
  | last => exact List.rel_append h (.cons htarget .nil)

/-- Pipelines that are alike are rewritten alike. -/
theorem nest_alike (thread : Thread) {start start' : Node}
    (hstart : start.Alike C.toLikeness start') {steps steps' : List Node}
    (h : C.NodesAlike steps steps') :
    (thread.nest start steps).Alike C.toLikeness (thread.nest start' steps') := by
  unfold Thread.nest
  induction h generalizing start start' with
  | nil => exact hstart
  | cons hstep hsteps ih =>
    rw [List.foldl_cons, List.foldl_cons]
    have hform := stepForm_alike hstep
    refine ih (Form.Alike.toNode ⟨?_, hform.properties, hform.inline, hform.location⟩)
    exact place_alike thread hstart hform.children

theorem evalPipeline {e e' : Evaluator} (he : C.EvaluatorAlike e e') (thread : Thread)
    (hform : form.Alike C.toLikeness form') (hframe : C.frame frame frame') :
    C.Alike C.ValueAlike (Evaluation.evalPipeline e thread form frame)
      (Evaluation.evalPipeline e' thread form' frame') := by
  unfold Evaluation.evalPipeline
  match form.tail, form'.tail, hform.tail with
  | _, _, .nil => exact .pure .nil
  | _, _, .cons hstart hsteps => exact he (nest_alike thread hstart hsteps) hframe

theorem evalSpecial (hcontext : C.ContextAlike config.toContext context')
    (he : C.Carries config.hosts e e') (top : Bool)
    (special : SpecialForm) (hform : form.Alike C.toLikeness form')
    (hframe : C.frame frame frame') :
    C.Alike C.ValueAlike (Evaluation.evalSpecial config e top special form frame)
      (Evaluation.evalSpecial (config.under context') e' top special form' frame') := by
  have hinside : C.EvaluatorAlike (e config.toContext) (e' context') := he.nodes hcontext.related
  unfold Evaluation.evalSpecial
  split
  · exact fail (.malformed _ hform.headLocation?)
  · cases special with
    | doAll => exact body hinside hframe .nil hform.tail
    | anyOf => exact anyOf hinside hframe .nil hform.tail
    | allOf => exact allOf hinside hframe (.bool true) hform.tail
    | tryCatch => exact tryCatch hcontext hinside hform hframe
    | threadFirst => exact evalPipeline hinside .first hform hframe
    | threadLast => exact evalPipeline hinside .last hform hframe
    | ifElse => exact ifElse hcontext hinside hform hframe
    | whenTrue => exact whenTrue hcontext hinside hform hframe
    | condition => exact condition hcontext hinside hform hframe
    | letBind => exact letBind hcontext he hform hframe
    | function => exact function hcontext hform hframe
    | define => exact defineValue hcontext hinside false hform hframe
    | defineOnce => exact defineValue hcontext hinside true hform hframe
    | defineFunction => exact defineFunction hcontext false hform hframe
    | defineFunctionOnce => exact defineFunction hcontext true hform hframe
    | importModule => exact defineModule hcontext he "import" .imported hform hframe
    | requireModule => exact defineModule hcontext he "require" .required hform hframe

theorem evalHead (hcontext : C.ContextAlike config.toContext context')
    (he : C.Carries config.hosts e e') (top : Bool)
    {head head' : Node} (hhead : head.Alike C.toLikeness head')
    (hform : form.Alike C.toLikeness form') (hframe : C.frame frame frame') :
    C.Alike C.ValueAlike (Evaluation.evalHead config e top head form frame)
      (Evaluation.evalHead (config.under context') e' top head' form' frame') := by
  have hcall : C.Alike C.ValueAlike
      (e config.toContext head frame >>= fun callee =>
        Evaluation.callForm config e callee form frame)
      (e' context' head' frame' >>= fun callee =>
        Evaluation.callForm (config.under context') e' callee form' frame') :=
    .bind (he.nodes hcontext.related hhead hframe) fun _ _ hcallee =>
      callForm hcontext he hcallee hform hframe
  cases hhead with
  | form h properties inline hlocation => exact hcall
  | literal h properties =>
    unfold Evaluation.evalHead
    dsimp only
    rw [C.token_kind h, C.token_text h]
    split
    · exact fail (.malformed _ (C.token_place h))
    · split
      · exact keywordForm hcontext he _ hform hframe
      · split
        · exact evalSpecial hcontext he top _ hform hframe
        · split
          · exact dotForm hcontext he _ hform hframe
          · exact hcall
      · exact fail (.malformed _ (C.token_place h))

theorem evalForm (hcontext : C.ContextAlike config.toContext context')
    (he : C.Carries config.hosts e e') (top : Bool)
    (hform : form.Alike C.toLikeness form') (hframe : C.frame frame frame') :
    C.Alike C.ValueAlike (Evaluation.evalForm config e top form frame)
      (Evaluation.evalForm (config.under context') e' top form' frame') := by
  unfold Evaluation.evalForm
  rw [hform.isQuoted, hform.inline]
  split
  · have hlist := (data_matches hform.children).map fun _ _ => Value.Alike.list
    exact ofExcept (hlist.lift fun _ _ => .fault)
  · split
    · exact inlineFunction hcontext.related hform hframe
    · match form.head?, form'.head?, hform.head? with
      | _, _, .none => exact fail (.malformed _ hform.location)
      | _, _, .some hhead => exact evalHead hcontext he top hhead hform hframe

/-- **Evaluators that evaluate the nodes inside alike do so on the whole.** -/
theorem evalNode (hcontext : C.ContextAlike config.toContext context')
    (he : C.Carries config.hosts e e') (top : Bool)
    {node node' : Node} (hnode : node.Alike C.toLikeness node') (hframe : C.frame frame frame') :
    C.Alike C.ValueAlike (Evaluation.evalNode config e top node frame)
      (Evaluation.evalNode (config.under context') e' top node' frame') := by
  cases hnode with
  | literal h properties => exact evalToken h properties hframe
  | form h properties inline hlocation =>
    exact evalForm hcontext he top ⟨h, rfl, rfl, hlocation⟩ hframe

end Correspondence

end FrameLisp
