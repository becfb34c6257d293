import FrameLisp.Proofs.CallSite
import FrameLisp.Proofs.Dict
import FrameLisp.Proofs.Interruption
import FrameLisp.Proofs.RoundTrip.SameOrder

/-!
# Data that is shown and evaluated

The text of data is a program.  Its one tree makes lists and dicts by calls of what its brackets
stand for, so it has a value if that is what the prelude binds, if no interruption was asked for and
if there are enough levels left and room for them (`Machine.Ready`): one for each list and dict
around an item and one for the item itself.  Evaluation does nothing then but report (`Eval.Gives`),
and the value is what is read of the text (`Value.Data.standsFor`).

So data that is shown and run comes back if and only if its texts do
(`Session.evalSource_shown_iff`).
-/

namespace FrameLisp

/-! ### Computations that only report -/

/-- In the frame, the brackets stand for what the prelude has them stand for. -/
structure Machine.Constructs (machine : Machine) (frame : FrameId) : Prop where
  /-- Square brackets make lists. -/
  list : ∃ ref, machine.lookup? frame listConstructor = some (.builtin ref (.operation .list))
  /-- Braces make dicts. -/
  dict : ∃ ref, machine.lookup? frame dictConstructor = some (.builtin ref (.operation .dict))

/-- Data can be evaluated in the frame, with a number of levels still to go. -/
structure Machine.Ready (machine : Machine) (context : Context) (frame : FrameId) (levels : Nat) :
    Prop where
  /-- Lists and dicts can be made. -/
  constructs : machine.Constructs frame
  /-- No interruption was asked for. -/
  free : machine.interrupted context.flag = false
  /-- The limit leaves as many levels. -/
  shallow : machine.depth context.counter + levels ≤ context.maxDepth
  /-- There is room for them. -/
  room : levels ≤ machine.room

/-- Whether a value is the builtin of an operation. -/
def Value.isOperation (op : Operation) : Value → Bool
  | builtin _ (.operation other) => other = op
  | _ => false

theorem Value.isOperation_iff {op : Operation} {value : Value} :
    value.isOperation op = true ↔ ∃ ref, value = .builtin ref (.operation op) := by
  constructor
  · intro h
    unfold isOperation at h
    split at h
    · rename_i ref other
      exact ⟨ref, by rw [of_decide_eq_true h]⟩
    · cases h
  · rintro ⟨ref, rfl⟩
    exact decide_eq_true rfl

theorem any_isOperation_iff {op : Operation} {found : Option Value} :
    found.any (Value.isOperation op) = true ↔
      ∃ ref, found = some (.builtin ref (.operation op)) := by
  rw [Option.any_eq_true]
  constructor
  · rintro ⟨value, rfl, h⟩
    obtain ⟨ref, rfl⟩ := Value.isOperation_iff.mp h
    exact ⟨ref, rfl⟩
  · rintro ⟨ref, rfl⟩
    exact ⟨_, rfl, Value.isOperation_iff.mpr ⟨ref, rfl⟩⟩

instance (machine : Machine) (frame : FrameId) : Decidable (machine.Constructs frame) :=
  decidable_of_iff
    ((machine.lookup? frame listConstructor).any (Value.isOperation .list) = true ∧
      (machine.lookup? frame dictConstructor).any (Value.isOperation .dict) = true)
    ⟨fun h => ⟨any_isOperation_iff.mp h.1, any_isOperation_iff.mp h.2⟩,
      fun h => ⟨any_isOperation_iff.mpr h.list, any_isOperation_iff.mpr h.dict⟩⟩

namespace Machine.Ready

variable {machine : Machine} {context : Context} {frame : FrameId} {levels : Nat}

theorem of_same (h : machine.Ready context frame levels) {last : Machine}
    (hsame : machine.SameButEvents last) : last.Ready context frame levels := by
  rw [hsame]
  exact ⟨⟨h.constructs.list, h.constructs.dict⟩, h.free, h.shallow, h.room⟩

theorem inside (h : machine.Ready context frame (levels + 1)) (node : Node) :
    (machine.inside context node).Ready context frame levels := by
  refine ⟨⟨h.constructs.list, h.constructs.dict⟩, h.free, ?_, Nat.le_sub_one_of_lt h.room⟩
  have hshallow := h.shallow
  rw [Machine.depth_inside]
  omega

theorem admits (h : machine.Ready context frame (levels + 1)) : machine.Admits context := by
  have hshallow := h.shallow
  exact ⟨h.free, by omega, Nat.ne_of_gt (Nat.lt_of_lt_of_le levels.succ_pos h.room)⟩

end Machine.Ready

namespace Eval

variable {α β : Type} {machine : Machine}

/-- The computation has a value and does nothing but report. -/
def Gives (x : Eval α) (machine : Machine) (a : α) : Prop :=
  ∃ last, x machine = .ok a last ∧ machine.SameButEvents last

namespace Gives

theorem pure (a : α) (machine : Machine) : (Pure.pure a : Eval α).Gives machine a :=
  ⟨machine, rfl, rfl⟩

theorem bind {x : Eval α} {f : α → Eval β} {a : α} {b : β} (h : x.Gives machine a)
    (hf : ∀ last, machine.SameButEvents last → (f a).Gives last b) :
    (x >>= f).Gives machine b := by
  obtain ⟨last, hx, hsame⟩ := h
  obtain ⟨last', hlast, hsame'⟩ := hf last hsame
  refine ⟨last', ?_, hsame.trans hsame'⟩
  rw [bind_eq, hx]
  exact hlast

theorem located {x : Eval α} {a : α} (h : x.Gives machine a) (location : Option Location) :
    (Eval.located location x).Gives machine a := by
  obtain ⟨last, hx, hsame⟩ := h
  refine ⟨last, ?_, hsame⟩
  unfold Eval.located
  rw [hx]

end Gives

end Eval

/-! ### Trees of data -/

/-- The node has a value if there are so many levels to go. -/
def Node.Yields (node : Node) (config : Config) (levels : Nat) (value : Value) : Prop :=
  ∀ (top : Bool) (frame : FrameId) (machine : Machine),
    machine.Ready config.toContext frame levels →
    (node.eval config top frame).Gives machine value

namespace Evaluation

variable {config : Config} {levels : Nat} {frame : FrameId} {machine : Machine}

theorem gives_eval (top : Bool) {node : Node} {value : Value}
    (hready : machine.Ready config.toContext frame (levels + 1))
    (h : (evalNode config config.evaluators top node frame).Gives
      (machine.inside config.toContext node) value) :
    (node.eval config top frame).Gives machine value := by
  obtain ⟨last, hx, hsame⟩ := h
  refine ⟨_, Node.eval_ok hready.admits hx, ?_⟩
  -- going in and out again leaves the depth and the room as they were
  have hdepth : (last.outside config.toContext machine.room).depth = machine.depth := by
    have hinside : last.depth = (machine.inside config.toContext node).depth := by rw [hsame]
    exact Machine.depth_outside_inside machine.room hinside
  have hlast : last.outside config.toContext machine.room =
      { last with depth := machine.depth, room := machine.room } := by
    rw [← hdepth]
    rfl
  rw [hlast, hsame]
  rfl

theorem yields_constant {token : Token} {value : Value} (h : token.constant? = .ok (some value)) :
    (Node.literal token []).Yields config (levels + 1) value := by
  intro top frame machine hready
  refine gives_eval top hready ?_
  show (evalToken token [] frame).Gives _ value
  unfold evalToken
  rw [h]
  exact .pure value _

theorem gives_name {token : Token} {name : String} {value : Value}
    (hmark : token.mark = (.identifier, name)) (hlookup : machine.lookup? frame name = some value)
    (hready : machine.Ready config.toContext frame (levels + 1)) :
    (config.evaluator (.literal token []) frame).Gives machine value := by
  obtain ⟨hkind, rfl⟩ := Token.mark_eq_iff.mp hmark
  refine gives_eval false hready ?_
  -- entering the name changes no frame
  exact ⟨machine.inside config.toContext (.literal token []), evalToken_name hkind rfl hlookup, rfl⟩

theorem gives_arguments {nodes : List Node} {values : List Value}
    (h : List.Forall₂ (fun node value => node.Yields config levels value) nodes values)
    (hready : machine.Ready config.toContext frame levels) :
    (Eval.arguments config.evaluator frame nodes).Gives machine values := by
  induction h generalizing machine with
  | nil => exact .pure [] machine
  | @cons node value nodes values hnode _ ih =>
    refine Eval.Gives.bind (hnode false frame machine hready) fun last hsame => ?_
    refine Eval.Gives.bind (ih (hready.of_same hsame)) fun last' _ => ?_
    exact .pure _ last'

/-- A call gives what the callee gives for the values of the nodes. -/
theorem gives_call (top : Bool) {form : Form} {head : Node} (hform : HeadedBy form head)
    (hhead : IsCallee head) (hpairs : form.isDict = false ∨ form.tail.length % 2 = 0)
    {callee value : Value} {args : List Value}
    (hcallee : (config.evaluator head frame).Gives machine callee)
    (hnodes : List.Forall₂ (fun node value => node.Yields config levels value) form.tail args)
    (hcall : ∀ last, (callee.call config.hosts config.evaluators args).Gives last value)
    (hready : machine.Ready config.toContext frame levels) :
    (evalForm config config.evaluators top form frame).Gives machine value := by
  rw [CallSite.evalForm_eq hform, CallSite.evalHead_callee hhead]
  refine hcallee.bind fun last hsame => ?_
  rw [CallSite.callForm_eq callee hpairs]
  refine Eval.Gives.bind (gives_arguments hnodes (hready.of_same hsame)) fun last' _ => ?_
  exact (hcall last').located _

end Evaluation

/-! ### Entries -/

theorem forall₂_flatMap_pair {α β γ : Type} {R : β → γ → Prop} {f g : α → β} {f' g' : α → γ}
    {items : List α} (h : ∀ item ∈ items, R (f item) (f' item) ∧ R (g item) (g' item)) :
    List.Forall₂ R (items.flatMap fun item => [f item, g item])
      (items.flatMap fun item => [f' item, g' item]) := by
  induction items with
  | nil => exact .nil
  | cons item items ih =>
    obtain ⟨⟨hf, hg⟩, hitems⟩ := List.forall_mem_cons.mp h
    exact .cons hf (.cons hg (ih hitems))

namespace Operation

/-- Keys and values in turn make the dict in which they are bound one after the other. -/
theorem makeDict_entries (entries : List (Key × Value)) :
    makeDict (entries.flatMap fun entry => [entry.1.toValue, entry.2]) =
      .ok (.dict (Bindings.insertAll [] entries)) := by
  have hdict := makeDict_inTurn (entries.map Value.ofEntry)
  rw [Value.ofPairs_entries, inTurn, List.flatMap_map] at hdict
  exact hdict

end Operation

/-! ### The value of a tree of data -/

namespace Node

/-- Every tree that is the same but for places has the value. -/
def StandsFor (tree : Node) (config : Config) (levels : Nat) (value : Value) : Prop :=
  ∀ node : Node, node.unplaced = tree.unplaced → node.Yields config levels value

variable {config : Config} {levels : Nat}

theorem eq_of_unplaced_toNode {node : Node} {mark : Mark}
    (h : node.unplaced = mark.toNode.unplaced) :
    ∃ token : Token, node = .literal token [] ∧ token.mark = mark := by
  cases node with
  | form children properties inline location =>
    rw [Mark.toNode, unplaced, unplaced] at h
    cases h
  | literal token properties =>
    rw [Mark.toNode, unplaced, unplaced, literal.injEq, Token.unplaced_eq_iff] at h
    exact ⟨token, by rw [h.2], h.1⟩

theorem eq_of_unplaced_headed {node : Node} {name : String} {nodes : List Node}
    (h : node.unplaced = (headed name nodes).unplaced) :
    ∃ (head : Token) (children : List Node) (location : Option Location),
      node = .form (.literal head [] :: children) [] false location ∧
        head.mark = (.identifier, name) ∧ children.map unplaced = nodes.map unplaced := by
  cases node with
  | literal token properties =>
    rw [headed, unplaced, unplaced] at h
    cases h
  | form children properties inline location =>
    rw [headed, unplaced, unplaced, form.injEq] at h
    obtain ⟨hchildren, rfl, rfl, -⟩ := h
    obtain ⟨first, rest, rfl, hfirst, hrest⟩ := List.map_eq_cons_iff.mp hchildren
    obtain ⟨head, rfl, hmark⟩ := eq_of_unplaced_toNode hfirst
    exact ⟨head, rest, location, rfl, hmark, hrest⟩

/-- Trees that are the same but for places have the same values. -/
theorem yields_of_standsFor {trees : List Node} {values : List Value}
    (h : List.Forall₂ (fun tree value => tree.StandsFor config levels value) trees values)
    {nodes : List Node} (hnodes : nodes.map unplaced = trees.map unplaced) :
    List.Forall₂ (fun node value => node.Yields config levels value) nodes values := by
  induction h generalizing nodes with
  | nil =>
    rw [List.map_nil, List.map_eq_nil_iff] at hnodes
    subst hnodes
    exact .nil
  | cons htree _ ih =>
    obtain ⟨node, rest, rfl, hnode, hrest⟩ := List.map_eq_cons_iff.mp hnodes
    exact .cons (htree node hnode) (ih hrest)

/-- Brackets stand for what the operation makes of what is within. -/
theorem standsFor_headed {name : String} (hspecial : SpecialForm.ofName? name = none)
    (hdot : Evaluation.isDotName name = false) {op : Operation} (harity : op.arity < 0)
    (hbound : ∀ {machine : Machine} {frame : FrameId}, machine.Constructs frame →
      ∃ ref, machine.lookup? frame name = some (.builtin ref (.operation op)))
    {trees : List Node} (hpairs : name ≠ dictConstructor ∨ trees.length % 2 = 0)
    {values : List Value} {value : Value}
    (h : List.Forall₂ (fun tree value => tree.StandsFor config (levels + 1) value) trees values)
    (hrun : op.run values = .ok value) :
    (headed name trees).StandsFor config (levels + 2) value := by
  intro node hnode top frame machine hready
  obtain ⟨head, nodes, location, rfl, hhead, hnodes⟩ := eq_of_unplaced_headed hnode
  obtain ⟨hkind, htext⟩ := Token.mark_eq_iff.mp hhead
  let form : Form := ⟨.literal head [] :: nodes, [], false, location⟩
  have hcallee : Evaluation.IsCallee (.literal head []) := by
    refine ⟨hkind, rfl, ?_, ?_⟩
    · rw [htext, hspecial]
    · rw [htext, hdot]
  have hlength : form.tail.length = trees.length := by
    have hmap := congrArg List.length hnodes
    rwa [List.length_map, List.length_map] at hmap
  have hcomplete : form.isDict = false ∨ form.tail.length % 2 = 0 := by
    refine hpairs.imp (fun hne => ?_) fun heven => hlength ▸ heven
    have hname : form.head?.bind identifier? = some name := by
      show (if head.kind = .identifier then some head.text else none) = some name
      rw [if_pos hkind, htext]
    unfold Form.isDict Form.headIs
    rw [hname]
    exact beq_eq_false_iff_ne.mpr fun heq => hne (Option.some.inj heq)
  obtain ⟨ref, hlookup⟩ := hbound hready.constructs
  -- the brackets take one level, and their head and what is within one level less
  refine Evaluation.gives_eval top hready ?_
  refine Evaluation.gives_call top ⟨rfl, rfl, rfl⟩ hcallee hcomplete
    (Evaluation.gives_name hhead hlookup (hready.inside _)) (yields_of_standsFor h hnodes)
    (fun last => ?_) (hready.inside _)
  rw [Evaluation.call_operation config.hosts config.evaluators ref harity, hrun]
  exact .pure value last

end Node

namespace Key

variable {config : Config} {levels : Nat} {key : Key}

/-- What is read of the text of a key stands for the key. -/
theorem IsData.constant?_eq (h : key.IsData) {token : Token} (hmark : token.mark = key.mark) :
    token.constant? = .ok (some key.reread.toValue) := by
  obtain ⟨hkind, htext⟩ := Token.mark_eq_iff.mp hmark
  unfold Token.constant?
  cases h with
  | nil => rw [hkind]; rfl
  | bool b =>
    rw [hkind, htext]
    cases b <;> rfl
  | int n =>
    rw [hkind, htext]
    dsimp only [Key.mark]
    rw [Decimal.read64?_ofInt]
    rfl
  | str text =>
    rw [hkind, htext]
    rfl
  | @keyword name h =>
    have hname : Value.keywordName (":" ++ name) = name := by
      unfold Value.keywordName
      rw [String.toList_append]
      exact String.ofList_toList
    rw [hkind, htext]
    show Except.ok (some (Value.keyword (Value.keywordName (":" ++ name)))) = _
    rw [hname]
    rfl

theorem IsData.standsFor (h : key.IsData) :
    key.mark.toNode.StandsFor config (levels + 1) key.reread.toValue := by
  intro node hnode
  obtain ⟨token, rfl, hmark⟩ := Node.eq_of_unplaced_toNode hnode
  exact Evaluation.yields_constant (h.constant?_eq hmark)

end Key

namespace Value

variable {config : Config} {n : Nat} {value : Value}

/-- **The tree of data stands for what was read.** -/
theorem Data.standsFor (h : value.Data n) :
    value.written.StandsFor config (n + 1) value.reread := by
  induction h with
  | @atom n key h =>
    rw [written_toValue, reread_toValue]
    exact h.standsFor
  | @list n items h ih =>
    rw [written, Value.reread]
    refine Node.standsFor_headed rfl (by decide) (by decide) (fun h => h.list)
      (.inl (by decide)) ?_ rfl
    exact List.forall₂_map_left_iff.mpr (List.forall₂_map_right_iff.mpr (List.forall₂_same.mpr ih))
  | @dict n entries hkeys hnodup h ih =>
    -- keys and values in turn, so that there is a value for each key
    have hlength := length_flatMap_pair (fun entry : Key × Value => entry.1.mark.toNode)
      (fun entry => entry.2.written) entries
    have hrun := Operation.makeDict_entries
      (entries.map fun entry => (entry.1.reread, entry.2.reread))
    rw [List.flatMap_map] at hrun
    rw [written, Value.reread]
    refine Node.standsFor_headed rfl (by decide) (by decide) (fun h => h.dict)
      (.inr (by omega)) ?_ hrun
    exact forall₂_flatMap_pair fun entry hentry => ⟨(hkeys entry hentry).standsFor, ih entry hentry⟩

end Value

/-! ### Running what is shown -/

/-- The characters that come back are those that are not escaped, and two that are; a backslash is
not among them. -/
theorem Text.readsBack_iff_escape {c : Char} :
    ReadsBack c ↔ c ≠ '\\' ∧ (escape '"' c ≠ [c] → c = '\n' ∨ c = '"') := by
  constructor
  · exact fun h => ⟨h.ne_backslash, fun hescaped => h.resolve_left hescaped⟩
  · rintro ⟨-, h⟩
    by_cases hplain : IsPlain c
    · exact .inl hplain
    · exact .inr (h hplain)

namespace Session

/-- **Data that is shown can be run**, and gives what is read of it. -/
theorem evalSource_shown {session : Session} {n : Nat} {value : Value} (hdata : value.Data n)
    (hready : (session.machine.roomFor session.config.maxDepth).Ready session.config.toContext root
      (n + 1))
    (hnesting : n ≤ Node.defaultNesting) (file : String) :
    (session.evalSource value.shown file).1 = .ok value.reread := by
  obtain ⟨tree, hparse, htree⟩ := hdata.parse_shown hnesting file
  have hbuild : Node.build Node.defaultNesting (Token.lex value.shown file) = .ok [tree] := hparse
  -- the commas of a dict are reported before anything runs
  let start := (session.machine.noticing value.shown file).roomFor session.config.maxDepth
  have hgives : (Eval.program session.config root .nil [tree]).Gives start value.reread := by
    have hstart : start.Ready session.config.toContext root (n + 1) := hready.of_same rfl
    have hreport : (Eval.report (.topLevel tree)).Gives start () := ⟨_, rfl, rfl⟩
    refine Eval.Gives.bind hreport fun last hsame => ?_
    refine Eval.Gives.bind (hdata.standsFor tree htree true root last (hstart.of_same hsame))
      fun last' _ => ?_
    exact .pure _ last'
  obtain ⟨last, hprogram, -⟩ := hgives
  unfold evalSource
  rw [evalWithin_eq, hbuild]
  dsimp only
  rw [hprogram]

/-- **Data that is shown comes back when it is run**, if and only if its texts have no backslash in
them and no character with an escape other than those of a newline and of a quote.  A value comes of
it in any case. -/
theorem evalSource_shown_iff {session : Session} {n : Nat} {value : Value} (hdata : value.Data n)
    (hconstructs : session.machine.Constructs root)
    (hdepth : session.machine.depth session.config.counter = 0)
    (hinterrupted : session.machine.interrupted session.config.flag = false)
    (hlevels : n + 1 ≤ session.config.maxDepth) (hnesting : n ≤ 512) (file : String) :
    ∃ again, (session.evalSource value.shown file).1 = .ok again ∧
      (again.equal value = true ∧ again.sameOrder value = true ↔
        ∀ text ∈ value.texts, ∀ c ∈ text.toList,
          c ≠ '\\' ∧ (Text.escape '"' c ≠ [c] → c = '\n' ∨ c = '"')) := by
  have hready : (session.machine.roomFor session.config.maxDepth).Ready
      session.config.toContext root
      (n + 1) := by
    refine ⟨⟨hconstructs.list, hconstructs.dict⟩, hinterrupted, ?_, ?_⟩
    · show session.machine.depth session.config.counter + (n + 1) ≤ session.config.maxDepth
      omega
    · exact Nat.le_trans hlevels (Nat.le_max_left _ _)
  refine ⟨value.reread, evalSource_shown hdata hready hnesting file, ?_⟩
  rw [hdata.reread.equal_and_sameOrder_iff hdata, hdata.reread_eq_iff]
  simp only [Text.readsBack_iff_escape]

/-- A dict in a list comes back.  A dict with a tab and with nothing as its keys does not, as both
keys are read as nothing. -/
theorem evalSource_shown_iff_keys :
    let comes : Value := .list [.dict [(.keyword "", .int Int64.minValue), (.str "\"", .nil)]]
    let fails : Value := .list [.dict [(.str "\t", .bool true), (.str "", .bool false)]]
    let session := standard {}
    (∃ again, (session.evalSource comes.shown "").1 = .ok again ∧ again.equal comes = true ∧
        again.sameOrder comes = true) ∧
      ∃ again, (session.evalSource fails.shown "").1 = .ok again ∧
        ¬ (again.equal fails = true ∧ again.sameOrder fails = true) := by
  intro comes fails session
  have hcomes : comes.Data 2 := by
    refine .list (List.forall_mem_singleton.mpr (.dict ?_ (by decide) ?_))
    · exact List.forall_mem_cons.mpr ⟨.keyword nofun, List.forall_mem_singleton.mpr (.str _)⟩
    · have hint : Value.Data 0 (.int Int64.minValue) := .atom (.int Int64.minValue)
      have hnil : Value.Data 0 .nil := .atom .nil
      exact List.forall_mem_cons.mpr ⟨hint, List.forall_mem_singleton.mpr hnil⟩
  have hfails : fails.Data 2 := by
    refine .list (List.forall_mem_singleton.mpr (.dict ?_ (by decide) ?_))
    · exact List.forall_mem_cons.mpr ⟨.str _, List.forall_mem_singleton.mpr (.str _)⟩
    · have hbool (b : Bool) : Value.Data 0 (.bool b) := .atom (.bool b)
      exact List.forall_mem_cons.mpr ⟨hbool true, List.forall_mem_singleton.mpr (hbool false)⟩
  have hconstructs : session.machine.Constructs root := by decide +kernel
  have hdepth : session.machine.depth session.config.counter = 0 := by decide +kernel
  have hinterrupted : session.machine.interrupted session.config.flag = false := by decide +kernel
  have hlevels : 2 + 1 ≤ session.config.maxDepth := by decide +kernel
  obtain ⟨again, hagain, hiff⟩ := evalSource_shown_iff hcomes hconstructs hdepth hinterrupted
    hlevels (by decide) ""
  obtain ⟨other, hother, hiff'⟩ := evalSource_shown_iff hfails hconstructs hdepth hinterrupted
    hlevels (by decide) ""
  have htexts : comes.texts = ["\""] := by
    simp [comes, Value.texts, Key.texts]
  have htexts' : fails.texts = ["\t", ""] := by
    simp [fails, Value.texts, Key.texts]
  refine ⟨⟨again, hagain, hiff.mpr ?_⟩, ⟨other, hother, fun h => ?_⟩⟩
  · rw [htexts, List.forall_mem_singleton]
    exact List.forall_mem_singleton.mpr (by decide)
  · have htab := hiff'.mp h "\t" (by rw [htexts']; exact List.mem_cons_self) '\t' (by decide)
    exact absurd (htab.2 (by decide)) (by decide)

/-- Once an interruption has been asked for, no program that has a tree is run. -/
theorem evalSource_of_interrupted {session : Session}
    (h : session.machine.interrupted session.config.flag = true) {source file : String}
    {tree : Node} {trees : List Node}
    (hparse : Node.parse source file = .ok (tree :: trees)) :
    (session.evalSource source file).1 = .error (.stop (.fault .interrupted)) := by
  have hbuild : Node.build Node.defaultNesting (Token.lex source file) = .ok (tree :: trees) :=
    hparse
  let start := (session.machine.noticing source file).roomFor session.config.maxDepth
  let reported : Machine := { start with events := start.events.push (.topLevel tree) }
  have hprogram : Eval.program session.config root .nil (tree :: trees) start =
      .error (.fault .interrupted) reported := by
    have hinterrupted : reported.interrupted session.config.flag = true := h
    show (tree.eval session.config true root >>= _) reported = _
    rw [Eval.bind_eq, Node.eval_of_interrupted hinterrupted]
  unfold evalSource
  rw [evalWithin_eq, hbuild]
  dsimp only
  rw [hprogram]

/-- Not even nil comes back if an interruption was asked for. -/
theorem evalSource_shown_interrupted :
    let session : Session :=
      { standard {} with machine := { (standard {}).machine with interrupted := .all true } }
    Value.Data 0 .nil ∧ session.machine.Constructs root ∧
      session.machine.depth session.config.counter = 0 ∧ 0 + 1 ≤ session.config.maxDepth ∧
        Value.nil.texts = [] ∧
      ¬ ∃ again, (session.evalSource Value.nil.shown "").1 = .ok again ∧
        again.equal .nil = true ∧ again.sameOrder .nil = true := by
  intro session
  have hnil : Value.Data 0 .nil := .atom .nil
  have htexts : Value.nil.texts = [] := by simp [Value.texts]
  refine ⟨hnil, by decide +kernel, by decide +kernel, by decide +kernel, htexts, ?_⟩
  obtain ⟨tree, hparse, -⟩ := hnil.parse_shown (Nat.zero_le _) ""
  rintro ⟨again, hagain, -⟩
  have hinterrupted : session.machine.interrupted session.config.flag = true := Cells.get_all true _
  cases (evalSource_of_interrupted hinterrupted hparse).symm.trans hagain

end Session

end FrameLisp
