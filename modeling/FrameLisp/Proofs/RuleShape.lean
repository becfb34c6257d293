import FrameLisp.Rule

/-!
# What the rules of the language accept

`Rule.Fits` says what a rule asks of a list of nodes, and a rule accepts a list exactly if the list
fits (`Rule.judge_accept_iff`).  For each form of the language this gives the nodes that it can have
once `Rule.standard` has accepted them, taken apart the way the form takes them apart: a `let` has a
form with an even number of items in front, a definition has a name there, and so on.  A form that
is accepted needs no further checks of its own.
-/

namespace FrameLisp

/-! ### Shapes -/

theorem Node.form?_eq_some_iff {node : Node} {form : Form} :
    node.form? = some form ↔ node = form.toNode := by
  cases node with
  | literal token properties => simp [form?, Form.toNode]
  | form children properties inline location =>
    obtain ⟨children', properties', inline', location'⟩ := form
    simp [form?, Form.toNode]

namespace Shape

theorem accepts_identifier_iff {node : Node} :
    Shape.identifier.accepts node = true ↔ ∃ name, node.identifier? = some name :=
  Option.isSome_iff_exists

theorem accepts_form_iff {node : Node} :
    Shape.form.accepts node = true ↔ ∃ form : Form, node = form.toNode := by
  show node.form?.isSome = true ↔ _
  rw [Option.isSome_iff_exists]
  exact exists_congr fun form => Node.form?_eq_some_iff

theorem accepts_pairs_iff {node : Node} :
    Shape.pairs.accepts node = true ↔
      ∃ form : Form, node = form.toNode ∧ form.items.length % 2 = 0 := by
  show (node.form?.any fun form => form.items.length % 2 = 0) = true ↔ _
  rw [Option.any_eq_true]
  simp [Node.form?_eq_some_iff]

theorem accepts_headedBy_iff {name : String} {node : Node} :
    (Shape.headedBy name).accepts node = true ↔
      ∃ form : Form, node = form.toNode ∧ form.headIs name = true := by
  show (node.form?.any fun form => form.headIs name) = true ↔ _
  rw [Option.any_eq_true]
  simp [Node.form?_eq_some_iff]

end Shape

/-! ### Rules -/

namespace Rule

/-- What a rule asks of a list of nodes. -/
structure Fits (rule : Rule) (nodes : List Node) : Prop where
  /-- There are as many as there may be. -/
  count : rule.arity.allows nodes.length = true
  /-- They come in pairs if they have to. -/
  even : rule.even = true → nodes.length % 2 = 0
  /-- Each has the shape that is asked for at its position. -/
  shape : ∀ entry ∈ rule.shapes, ∀ node, nodes[entry.1]? = some node → entry.2.accepts node = true

theorem misshape?_eq_none_iff {nodes : List Node} {shapes : List (Nat × Shape)} :
    misshape? nodes shapes = none ↔
      ∀ entry ∈ shapes, ∀ node, nodes[entry.1]? = some node → entry.2.accepts node = true := by
  induction shapes with
  | nil => simp [misshape?]
  | cons entry shapes ih =>
    obtain ⟨position, shape⟩ := entry
    rw [misshape?, List.forall_mem_cons]
    by_cases hall : nodes[position]?.all shape.accepts = true
    · rw [if_pos hall, ih]
      have hentry : ∀ node, nodes[position]? = some node → shape.accepts node = true := by
        intro node hnode
        rw [hnode] at hall
        exact hall
      exact ⟨fun h => ⟨hentry, h⟩, fun h => h.2⟩
    · rw [if_neg hall]
      constructor
      · intro h
        cases h
      · intro h
        refine absurd ?_ hall
        cases hnode : nodes[position]? with
        | none => rfl
        | some node => exact h.1 node hnode

/-- **Acceptance is fitting.** -/
theorem judge_accept_iff {rule : Rule} {nodes : List Node} :
    (∃ count, rule.judge nodes = .accept count) ↔ rule.Fits nodes := by
  unfold judge
  constructor
  · rintro ⟨count, h⟩
    split at h
    · cases h
    · rename_i hcount
      split at h
      · cases h
      · rename_i heven
        split at h
        · cases h
        · rename_i hshape
          refine ⟨Arity.complaint?_eq_none_iff.mp hcount, fun hrule => ?_,
            misshape?_eq_none_iff.mp hshape⟩
          simpa [hrule] using heven
  · intro h
    refine ⟨nodes.length, ?_⟩
    have heven : ¬ (rule.even && nodes.length % 2 ≠ 0) = true := by
      intro hodd
      rw [Bool.and_eq_true] at hodd
      exact of_decide_eq_true hodd.2 (h.even hodd.1)
    rw [Arity.complaint?_eq_none_iff.mpr h.count]
    dsimp only
    rw [if_neg heven, misshape?_eq_none_iff.mpr h.shape]

theorem fits_of_standard {name : String} {rule : Rule} {nodes : List Node} {count : Nat}
    (hrule : find? name = some rule) (h : standard name nodes = .accept count) :
    rule.Fits nodes := by
  unfold standard at h
  rw [hrule] at h
  exact judge_accept_iff.mp ⟨count, h⟩

/-! ### The forms of the language -/

section Forms

variable {nodes : List Node} {count : Nat}

theorem if_length (h : standard "if" nodes = .accept count) : 2 ≤ nodes.length := by
  have hcount := (fits_of_standard rfl h).count
  simp only [Arity.allows, Bool.and_eq_true, decide_eq_true_eq] at hcount
  exact hcount.1

theorem when_length (h : standard "when" nodes = .accept count) : 2 ≤ nodes.length := by
  have hfits := fits_of_standard rfl h
  exact of_decide_eq_true hfits.count

theorem dot_length (h : standard "dot-form" nodes = .accept count) : 1 ≤ nodes.length := by
  have hfits := fits_of_standard rfl h
  exact of_decide_eq_true hfits.count

/-- A `let` has a form of targets and values in turn in front of its body. -/
theorem let_shape (h : standard "let" nodes = .accept count) :
    ∃ (bindings : Form) (body : List Node),
      nodes = bindings.toNode :: body ∧ bindings.items.length % 2 = 0 := by
  have hfits := fits_of_standard rfl h
  have hcount : 1 ≤ nodes.length := of_decide_eq_true hfits.count
  match nodes, hcount, hfits with
  | first :: body, _, hfits =>
    have haccepts := hfits.shape (0, .pairs) (by simp) first rfl
    obtain ⟨bindings, rfl, heven⟩ := Shape.accepts_pairs_iff.mp haccepts
    exact ⟨bindings, body, rfl, heven⟩

/-- A function has a form of parameters in front of its body. -/
theorem fn_shape (h : standard "fn" nodes = .accept count) :
    ∃ (parameters : Form) (body : List Node), nodes = parameters.toNode :: body := by
  have hfits := fits_of_standard rfl h
  have hcount : 1 ≤ nodes.length := of_decide_eq_true hfits.count
  match nodes, hcount, hfits with
  | first :: body, _, hfits =>
    have haccepts := hfits.shape (0, .form) (by simp) first rfl
    obtain ⟨parameters, rfl⟩ := Shape.accepts_form_iff.mp haccepts
    exact ⟨parameters, body, rfl⟩

/-- A definition has a name and a node for its value. -/
theorem def_shape {once : Bool}
    (h : standard (if once then "def?" else "def") nodes = .accept count) :
    ∃ (target node : Node) (name : String),
      nodes = [target, node] ∧ target.identifier? = some name := by
  have hfits : Rule.Fits { arity := .exactly 2, shapes := [(0, .identifier)] } nodes := by
    cases once with
    | false => exact fits_of_standard rfl h
    | true => exact fits_of_standard rfl h
  have hcount : nodes.length = 2 := of_decide_eq_true hfits.count
  match nodes, hcount, hfits with
  | [target, node], _, hfits =>
    have haccepts := hfits.shape (0, .identifier) (by simp) target rfl
    obtain ⟨name, hname⟩ := Shape.accepts_identifier_iff.mp haccepts
    exact ⟨target, node, name, rfl, hname⟩

/-- A definition of a function has a name and a form of parameters in front of its body. -/
theorem defn_shape {once : Bool}
    (h : standard (if once then "defn?" else "defn") nodes = .accept count) :
    ∃ (target : Node) (name : String) (parameters : Form) (body : List Node),
      nodes = target :: parameters.toNode :: body ∧ target.identifier? = some name := by
  have hfits :
      Rule.Fits { arity := .atLeast 2, shapes := [(0, .identifier), (1, .form)] } nodes := by
    cases once with
    | false => exact fits_of_standard rfl h
    | true => exact fits_of_standard rfl h
  have hcount : 2 ≤ nodes.length := of_decide_eq_true hfits.count
  match nodes, hcount, hfits with
  | target :: second :: body, _, hfits =>
    have htarget := hfits.shape (0, .identifier) (by simp) target rfl
    have hsecond := hfits.shape (1, .form) (by simp) second rfl
    obtain ⟨name, hname⟩ := Shape.accepts_identifier_iff.mp htarget
    obtain ⟨parameters, rfl⟩ := Shape.accepts_form_iff.mp hsecond
    exact ⟨target, name, parameters, body, rfl, hname⟩

/-- The forms that bind a module have a name only. -/
theorem module_shape {formName : String} (hform : formName = "import" ∨ formName = "require")
    (h : standard formName nodes = .accept count) :
    ∃ (target : Node) (path : String), nodes = [target] ∧ target.identifier? = some path := by
  have hfits : Rule.Fits { arity := .exactly 1, shapes := [(0, .identifier)] } nodes := by
    rcases hform with rfl | rfl
    · exact fits_of_standard rfl h
    · exact fits_of_standard rfl h
  have hcount : nodes.length = 1 := of_decide_eq_true hfits.count
  match nodes, hcount, hfits with
  | [target], _, hfits =>
    have haccepts := hfits.shape (0, .identifier) (by simp) target rfl
    obtain ⟨path, hpath⟩ := Shape.accepts_identifier_iff.mp haccepts
    exact ⟨target, path, rfl, hpath⟩

/-- A `try` has a node and a clause. -/
theorem try_shape (h : standard "try" nodes = .accept count) :
    ∃ (node : Node) (clause : Form), nodes = [node, clause.toNode] := by
  have hfits := fits_of_standard rfl h
  have hcount : nodes.length = 2 := of_decide_eq_true hfits.count
  match nodes, hcount, hfits with
  | [node, last], _, hfits =>
    have haccepts := hfits.shape (1, .headedBy "catch") (by simp) last rfl
    obtain ⟨clause, rfl, _⟩ := Shape.accepts_headedBy_iff.mp haccepts
    exact ⟨node, clause, rfl⟩

/-- A clause has a class and a name between its head and its body. -/
theorem catch_shape (h : standard "catch" nodes = .accept count) :
    ∃ (head classNode nameNode : Node) (name : String) (body : List Node),
      nodes = head :: classNode :: nameNode :: body ∧ nameNode.identifier? = some name := by
  -- the rule of a clause is asked about all of its nodes, the head among them
  have hfits := fits_of_standard rfl h
  have hcount : 3 ≤ nodes.length := of_decide_eq_true hfits.count
  match nodes, hcount, hfits with
  | head :: classNode :: nameNode :: body, _, hfits =>
    have haccepts := hfits.shape (2, .identifier) (by simp) nameNode rfl
    obtain ⟨name, hname⟩ := Shape.accepts_identifier_iff.mp haccepts
    exact ⟨head, classNode, nameNode, name, body, rfl, hname⟩

end Forms

end Rule

end FrameLisp
