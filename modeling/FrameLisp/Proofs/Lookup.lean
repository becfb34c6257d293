import FrameLisp.Proofs.CallSite
import FrameLisp.Proofs.Dict
import FrameLisp.Proofs.Visit

/-!
# Looking a key up

A key is looked up in a dict in four ways: by a call of the prelude's `get`, by the method `get`, by
a call of a keyword and by a pattern of `let`.  `LooksUp` lists these forms; the last two find `get`
in their frame, where it must be the prelude's.  Each comes down to the same entry of the dict, or
to the same default (`LooksUp.eval_eq`), and that entry is what the pairs say that the dict was made
of (`dict_faithful`).
-/

namespace FrameLisp

theorem Machine.lookup?_define_self {machine : Machine} {id : FrameId} {other : String}
    {found : Value} (h : machine.lookup? id other = some found) (name : String) (value : Value) :
    (machine.define id name value).lookup? id name = some value := by
  unfold lookup? frame define at *
  rw [Array.getElem?_modify, if_pos rfl]
  -- a frame with a variable is one that exists
  cases hframe : machine.frames[id]? with
  | none =>
    rw [hframe] at h
    cases h
  | some bindings =>
    show Bindings.find? name (Bindings.insert name value bindings) = some value
    rw [Bindings.find?_insert, if_pos rfl]

namespace Evaluation

/-! ### The forms -/

theorem length_of_arguments {evaluate : Evaluator} {frame : FrameId} {nodes : List Node}
    {values : List Value} {machine last : Machine}
    (h : Eval.arguments evaluate frame nodes machine = .ok values last) :
    values.length = nodes.length := by
  induction nodes generalizing values machine with
  | nil =>
    cases h
    rfl
  | cons node nodes ih =>
    obtain ⟨value, between, -, h₁⟩ := Eval.of_bind_ok h
    obtain ⟨rest, last, hrest, h₂⟩ := Eval.of_bind_ok h₁
    cases h₂
    rw [List.length_cons, List.length_cons, ih hrest]

/-- In the frame, `get` is the prelude's. -/
def FindsGet (machine : Machine) (frame : FrameId) : Prop :=
  ∃ ref, machine.lookup? frame "get" = some (.builtin ref (.operation .get))

/-- The form looks a key up in a collection, with one default or none. -/
inductive LooksUp (config : Config) (form : Form) (frame : FrameId) (machine : Machine)
    (collection : Value) : Value → List Value → Prop
  /-- A call of the prelude's function, as in `(get collection key default)`. -/
  | call {head : Node} {ref : Nat} {key : Value} {defaults : List Value}
    {machine₁ machine₂ : Machine} (hform : HeadedBy form head) (hhead : IsCallee head)
    (hplain : form.isDict = false)
    (hcallee : config.evaluator head frame machine =
      .ok (.builtin ref (.operation .get)) machine₁)
    (hargs : Eval.arguments config.evaluator frame form.tail machine₁ =
      .ok (collection :: key :: defaults) machine₂) :
    LooksUp config form frame machine collection key defaults
  /-- A call of the method, as in `(.get collection key default)`. -/
  | method {head first : Node} {rest : List Node} {count : Nat} {key : Value}
    {defaults : List Value} {machine₁ machine₂ : Machine} (hform : HeadedBy form head)
    (hhead : IsName head ".get") (haccept : config.oracle "dot-form" form.tail = .accept count)
    (htail : form.tail = first :: rest)
    (hreceiver : config.evaluator first frame machine = .ok collection machine₁)
    (hargs : Eval.arguments config.evaluator frame rest machine₁ =
      .ok (key :: defaults) machine₂) :
    LooksUp config form frame machine collection key defaults
  /-- A call of a keyword, as in `(:name collection default)`. -/
  | keyword {token : Token} {properties : List String} {name : String} {defaults : List Value}
    {machine₁ : Machine} (hform : HeadedBy form (.literal token properties))
    (hkind : token.kind = .keyword) (htext : token.text = ":" ++ name)
    (hunquoted : properties.contains quotedProperty = false) (hget : FindsGet machine frame)
    (hargs : Eval.arguments config.evaluator frame form.tail machine =
      .ok (collection :: defaults) machine₁) :
    LooksUp config form frame machine collection (.keyword name) defaults
  /-- A pattern, as in `(let [{name} collection] name)`. -/
  | pattern {head target node nameNode last : Node} {bindings pattern : Form} {count : Nat}
    {name : String} {machine₁ : Machine} (hform : HeadedBy form head)
    (hhead : IsName head SpecialForm.letBind.name)
    (haccept : config.oracle "let" form.tail = .accept count)
    (htail : form.tail = [bindings.toNode, last]) (hitems : bindings.items = [target, node])
    (hpattern : target.form? = some pattern) (hdict : pattern.isDict = true)
    (hnames : pattern.tail = [nameNode]) (hname : nameNode.identifier? = some name)
    (hcolon : name.toList.head? ≠ some ':') (hlast : IsName last name)
    (hvalue : config.evaluator node machine.frames.size (machine.addFrame (machine.frame frame)) =
      .ok collection machine₁)
    (hget : FindsGet machine₁ machine.frames.size)
    (hfree : machine₁.interrupted config.flag = false) :
    LooksUp config form frame machine collection (.keyword name) []

/-! ### What the forms give -/

variable {config : Config} {form : Form} {frame : FrameId} {machine : Machine}
  {entries : List (Key × Value)}

theorem keywordName_colon (name : String) : Value.keywordName (":" ++ name) = name := by
  unfold Value.keywordName
  rw [String.toList_append]
  exact String.ofList_toList

theorem keywordName_of_no_colon {name : String} (h : name.toList.head? ≠ some ':') :
    Value.keywordName name = name := by
  unfold Value.keywordName
  split
  · rename_i heq
    rw [heq] at h
    exact absurd rfl h
  · rfl

/-- A pattern of one name binds it to what `get` gives for its keyword. -/
theorem letBind_pattern {target node nameNode last : Node} {bindings pattern : Form} {count : Nat}
    {name : String} {value : Value} {machine₁ : Machine}
    (haccept : config.oracle "let" form.tail = .accept count)
    (htail : form.tail = [bindings.toNode, last]) (hitems : bindings.items = [target, node])
    (hpattern : target.form? = some pattern) (hdict : pattern.isDict = true)
    (hnames : pattern.tail = [nameNode]) (hname : nameNode.identifier? = some name)
    (hcolon : name.toList.head? ≠ some ':')
    (hvalue : config.evaluator node machine.frames.size (machine.addFrame (machine.frame frame)) =
      .ok (.dict entries) machine₁)
    (hget : FindsGet machine₁ machine.frames.size)
    (hitem : (Operation.entry? entries (.keyword name)).getD .nil = value) :
    letBind config config.evaluators form frame machine =
      (Eval.body config.evaluator machine.frames.size .nil [last])
        (machine₁.define machine.frames.size name value) := by
  obtain ⟨ref, hget⟩ := hget
  have hoverlay : Eval.overlay frame [] machine =
      .ok machine.frames.size (machine.addFrame (machine.frame frame)) := rfl
  have hlookup : Eval.lookup? machine.frames.size "get" machine₁ =
      .ok (some (.builtin ref (.operation .get))) machine₁ := by
    rw [← hget]
    rfl
  have hcall : (Value.builtin ref (.operation .get)).call config.hosts config.evaluators
      [.dict entries, .ofKeyword name, .nil] machine₁ = .ok value machine₁ := by
    have hkey : Value.ofKeyword name = .keyword name :=
      congrArg Value.keyword (keywordName_of_no_colon hcolon)
    have hrun : Operation.get.run [.dict entries, .keyword name, .nil] = .ok value :=
      congrArg Except.ok hitem
    rw [call_operation config.hosts config.evaluators ref (by decide), hkey, hrun]
    rfl
  have hdestructure : destructure config config.evaluators machine.frames.size form.headLocation?
      pattern (.dict entries) machine₁ =
        .ok () (machine₁.define machine.frames.size name value) := by
    unfold destructure
    rw [Eval.bind_ok hlookup]
    simp only [Eval.orFail, pure_bind, hdict, if_true, hnames, bindNames,
      CheckFree.identifier_named hname]
    rw [Eval.bind_ok (Eval.located_eq_ok_iff.mpr hcall)]
    rfl
  have hpairs : bindings.items = [(target, node)].flatMap fun pair => [pair.1, pair.2] := hitems
  rw [CheckFree.letBind_eq haccept htail hpairs]
  unfold letPairs
  rw [Eval.bind_ok hoverlay, bindPairs, bind_assoc,
    Eval.bind_ok (x := config.evaluators config.toContext node machine.frames.size) hvalue]
  simp only [hpattern, bind_assoc]
  rw [Eval.bind_ok hdestructure, bindPairs, pure_bind]
  rfl

namespace LooksUp

variable {key : Value} {defaults : List Value}

/-- **Every way to look a key up gives the entry of the dict, or the default.** -/
theorem evalForm_eq (h : LooksUp config form frame machine (.dict entries) key defaults)
    (hdefaults : defaults.length ≤ 1) (top : Bool) :
    ∃ last, evalForm config config.evaluators top form frame machine =
      .ok ((Operation.entry? entries key).getD (defaults.head?.getD .nil)) last := by
  cases h with
  | @call head ref _ _ machine₁ machine₂ hform hhead hplain hcallee hargs =>
    refine ⟨machine₂, ?_⟩
    rw [CallSite.evalForm_eq hform,
      CallSite.evalHead_eq_call hhead (.inl hplain) hcallee hargs]
    refine Eval.located_eq_ok_iff.mpr ?_
    rw [call_operation config.hosts config.evaluators ref (by decide), Operation.run_get hdefaults]
    rfl
  | @method head first rest count _ _ machine₁ machine₂ hform hhead haccept htail hreceiver
      hargs =>
    have hfound : (Value.dict entries).method? "get" = some (.dict .get entries) := rfl
    refine ⟨machine₂, ?_⟩
    rw [CallSite.evalForm_eq hform, CallSite.evalHead_eq_method hhead (by decide) (by decide)
      (by decide) (by decide) haccept htail hreceiver hfound hargs]
    refine Eval.located_eq_ok_iff.mpr ?_
    show (Eval.ofExcept (DictMethod.get.run entries (key :: defaults)) : Eval Value) machine₂ = _
    rw [DictMethod.run_get hdefaults]
    rfl
  | @keyword token properties name _ machine₁ hform hkind htext hunquoted hget hargs =>
    obtain ⟨ref, hlookup⟩ := hget
    have hcount : (Arity.between 1 2).allows form.tail.length = true := by
      rw [← length_of_arguments hargs, List.length_cons]
      simp only [Arity.allows, Bool.and_eq_true, decide_eq_true_eq]
      omega
    have hkey : Value.ofKeyword token.text = .keyword name :=
      congrArg Value.keyword (htext ▸ keywordName_colon name)
    refine ⟨machine₁, ?_⟩
    rw [CallSite.evalForm_eq hform,
      CallSite.evalHead_eq_keyword hkind hunquoted hlookup hcount hargs]
    refine Eval.located_eq_ok_iff.mpr ?_
    rw [call_operation config.hosts config.evaluators ref (by decide), hkey]
    rfl
  | @pattern head target node nameNode last bindings pattern count name machine₁ hform hhead haccept
      htail hitems hpattern hdict hnames hname hcolon hlast hvalue hget hfree =>
    obtain ⟨token, properties, rfl, hkind, rfl, hunquoted⟩ := hlast
    obtain ⟨ref, hlookup⟩ := hget
    obtain ⟨hadmits, -⟩ := Node.of_eval_ok hvalue
    obtain ⟨hroom, hdepth⟩ := Node.steady_of_eval_ok hvalue
    let value := (Operation.entry? entries (.keyword token.text)).getD .nil
    let bound := machine₁.define machine.frames.size token.text value
    -- the body is the name, which has just been bound
    have hname' : config.evaluator (.literal token properties) machine.frames.size bound =
        .ok value ((bound.inside config.toContext (.literal token properties)).outside
          config.toContext bound.room) := by
      refine Node.eval_name hkind hunquoted ⟨hfree, ?_, ?_⟩ ?_
      · show machine₁.depth config.counter < config.maxDepth
        rw [hdepth]
        exact hadmits.shallow
      · show machine₁.room ≠ 0
        rw [hroom]
        exact hadmits.room
      · exact Machine.lookup?_define_self hlookup token.text value
    have hlet : evalHead config config.evaluators top head form frame =
        letBind config config.evaluators form frame :=
      CallSite.evalHead_name .letBind hhead (by decide)
    refine ⟨(bound.inside config.toContext (.literal token properties)).outside config.toContext
      bound.room, ?_⟩
    rw [CallSite.evalForm_eq hform, hlet, letBind_pattern haccept htail hitems hpattern hdict hnames
      hname hcolon hvalue ⟨ref, hlookup⟩ rfl, Eval.body, Eval.bind_ok hname']
    rfl

/-- The same of the node that the form is. -/
theorem eval_eq {outer : Machine}
    (h : LooksUp config form frame (outer.inside config.toContext form.toNode) (.dict entries) key
      defaults)
    (hdefaults : defaults.length ≤ 1) (hadmits : outer.Admits config.toContext) (top : Bool) :
    ∃ last, form.toNode.eval config top frame outer =
      .ok ((Operation.entry? entries key).getD (defaults.head?.getD .nil)) last := by
  obtain ⟨last, hform⟩ := h.evalForm_eq hdefaults top
  exact ⟨last.outside config.toContext outer.room, Node.eval_ok hadmits hform⟩

end LooksUp

end Evaluation

/-! ### Dicts of pairs -/

/-- The methods of a dict, and the count of it, show its entries, and the dict can be made again of
its items. -/
structure Value.Shows (entries : List (Key × Value)) : Prop where
  /-- The keys in their order. -/
  keys : (dict entries).invoke? "keys" [] =
    some (.ok (.list (entries.map fun entry => entry.1.toValue)))
  /-- The values in the order of the keys. -/
  values : (dict entries).invoke? "values" [] = some (.ok (.list (entries.map Prod.snd)))
  /-- The keys with their values. -/
  items : (dict entries).invoke? "items" [] =
    some (.ok (.list ((entries.map ofEntry).map fun pair => .list [pair.1, pair.2])))
  /-- The number of keys. -/
  count : Operation.count.run [dict entries] = .ok (.ofNat (Bindings.keys entries).length)
  /-- The dict of the items is the same dict. -/
  again : ofPairs (entries.map ofEntry) = .ok (dict entries) ∧
    Operation.dict.run (inTurn (entries.map ofEntry)) = .ok (dict entries)

theorem Operation.run_dict (pairs : List (Value × Value)) :
    dict.run (inTurn pairs) = Stop.lift (Value.ofPairs pairs) :=
  makeDict_inTurn pairs

theorem Value.shows_of_nodup {entries : List (Key × Value)}
    (h : (Bindings.keys entries).Nodup) : Shows entries := by
  refine ⟨rfl, rfl, ?_, ?_, ofPairs_items h, ?_⟩
  · rw [List.map_map]
    rfl
  · show Except.ok (Value.ofNat entries.length) = _
    rw [Bindings.keys, List.length_map]
  · rw [Operation.run_dict, ofPairs_items h]
    rfl

/-- **Dicts are faithful to their pairs, and all ways to look a key up agree.**  No dict is made if
and only if some key cannot be one, and the first of these is to blame.  Otherwise each key has the
place of its first pair and the value of its last, which is what the methods of the dict show, and a
key is looked up in it, in whatever way, as in the pairs. -/
theorem dict_faithful (pairs : List (Value × Value)) :
    ((∃ pair ∈ pairs, pair.1.key? = none) →
      ∃ before key value after, pairs = before ++ (key, value) :: after ∧
        (∀ pair ∈ before, pair.1.key? ≠ none) ∧ key.key? = none ∧
        Value.ofPairs pairs = .error (.unhashable key.typeName) ∧
        Operation.dict.run (inTurn pairs) = .error (.fault (.unhashable key.typeName)) ∧
        (Fault.unhashable key.typeName).kind = .mistyped) ∧
    ((∀ pair ∈ pairs, pair.1.key? ≠ none) →
      ∃ entries, Value.ofPairs pairs = .ok (.dict entries) ∧
        Operation.dict.run (inTurn pairs) = .ok (.dict entries) ∧
        Value.Holds entries pairs ∧ Value.Shows entries ∧
        ∀ (key : Value) (defaults : List Value), defaults.length ≤ 1 →
          ∃ value, Value.IsUnder pairs key (defaults.head?.getD .nil) value ∧
            Operation.get.run (.dict entries :: key :: defaults) = .ok value ∧
            (Value.dict entries).invoke? "get" (key :: defaults) = some (.ok value) ∧
            ∀ (config : Config) (form : Form) (frame : FrameId) (machine : Machine) (top : Bool),
              Evaluation.LooksUp config form frame (machine.inside config.toContext form.toNode)
                (.dict entries) key defaults →
              machine.Admits config.toContext →
              ∃ last, form.toNode.eval config top frame machine = .ok value last) := by
  constructor
  · rintro ⟨pair, hmem, hpair⟩
    obtain ⟨⟨key, value⟩, hfirst⟩ : ∃ first,
        pairs.find? (fun pair => pair.1.key?.isNone) = some first :=
      Option.isSome_iff_exists.mp (List.find?_isSome.mpr ⟨pair, hmem, by rw [hpair]; rfl⟩)
    obtain ⟨hnone, before, after, rfl, hbefore⟩ := List.find?_eq_some_iff_append.mp hfirst
    have hkey : key.key? = none := Option.isNone_iff_eq_none.mp hnone
    have hbefore : ∀ pair ∈ before, pair.1.key? ≠ none := by
      intro pair hpair hnone
      have hsome := hbefore pair hpair
      rw [hnone] at hsome
      cases hsome
    obtain ⟨entries, rfl⟩ := Value.exists_entries hbefore
    have hfails := Value.ofPairs_unhashable entries hkey value after
    refine ⟨_, key, value, after, rfl, hbefore, hkey, hfails, ?_, rfl⟩
    rw [Operation.run_dict, hfails]
    rfl
  · intro h
    obtain ⟨entries, rfl⟩ := Value.exists_entries h
    have hmake := Value.ofPairs_entries entries
    have hempty : (Bindings.keys ([] : List (Key × Value))).Nodup := List.nodup_nil
    refine ⟨_, hmake, by rw [Operation.run_dict, hmake]; rfl, Value.holds_insertAll entries,
      Value.shows_of_nodup (Bindings.nodup_keys_insertAll hempty entries),
      fun key defaults hdefaults => ?_⟩
    refine ⟨_, Value.isUnder_entry? entries key _, Operation.run_get hdefaults,
      congrArg some (DictMethod.run_get hdefaults), ?_⟩
    intro config form frame machine top hlooksUp hadmits
    exact hlooksUp.eval_eq hdefaults hadmits top

/-- A pattern finds the later of two values of a key. -/
theorem dict_faithful_pattern :
    let name (text : String) : Node := .literal ⟨.identifier, text, default⟩ []
    let pattern : Form := { children := [name dictConstructor, name "k"] }
    let bindings : Form := { children := [name listConstructor, pattern.toNode, name "m"] }
    let form : Form := { children := [name "let", bindings.toNode, name "k"] }
    let pairs : List (Value × Value) := [(.keyword "k", .bool false), (.keyword "k", .bool true)]
    let frame : Frame := [("get", .builtin 0 (.operation .get)),
      ("m", .dict [(.keyword "k", .bool true)])]
    let machine : Machine := { frames := #[frame] }
    Value.ofPairs pairs = .ok (.dict [(.keyword "k", .bool true)]) ∧
      ∃ last, form.toNode.eval {} true 0 machine = .ok (.bool true) last := by
  intro name pattern bindings form pairs frame machine
  have hmake : Value.ofPairs pairs = .ok (.dict [(.keyword "k", .bool true)]) := rfl
  obtain ⟨entries, hentries, -, -, -, hlookup⟩ :=
    (dict_faithful pairs).2 (by simp [pairs, Value.key?])
  obtain rfl : [(.keyword "k", .bool true)] = entries :=
    Value.dict.inj (Except.ok.inj (hmake.symm.trans hentries))
  obtain ⟨value, -, hget, -, heval⟩ := hlookup (.keyword "k") [] (Nat.zero_le 1)
  obtain rfl : .bool true = value := Except.ok.inj hget
  let inside : Machine := (machine.inside {} form.toNode).addFrame frame
  have hvalue : (name "m").eval {} false 1 inside =
      .ok (.dict [(.keyword "k", .bool true)])
        ((inside.inside {} (name "m")).outside {} inside.room) :=
    Node.eval_name rfl rfl ⟨rfl, by decide, by decide⟩ rfl
  have haccept : Rule.standard "let" form.tail = .accept 2 := by decide
  have hname (text : String) : Evaluation.IsName (name text) text := ⟨_, _, rfl, rfl, rfl, rfl⟩
  exact ⟨hmake, heval {} form 0 machine true (.pattern ⟨rfl, rfl, rfl⟩ (hname _) haccept rfl rfl rfl
    rfl rfl rfl (by decide) (hname _) hvalue ⟨0, rfl⟩ rfl) ⟨rfl, by decide, by decide⟩⟩

end FrameLisp
