import FrameLisp.Node.Builder
import FrameLisp.Proofs.RoundTrip.Marks

/-!
# What the builder does with marks

The builder is told by the kind and the text of a token what to do, and its place goes no further
than into the node that is made.  Properties wait until there is a node (`steps_properties`), and a
bracket that is opened and closed becomes a form of what was added in between (`enter_awaitAll`,
`addAll_cons_levels`, `step_closing`).
-/

namespace FrameLisp

namespace Builder

variable {builder : Builder} {limit : Nat} {token : Token}

/-! ### What waits -/

/-- Lets properties wait, one after the other. -/
def awaitAll (builder : Builder) (properties : List String) : Builder :=
  properties.foldl await builder

theorem waiting_await (builder : Builder) (property : String) :
    (builder.await property).waiting = builder.waiting ++ [property] := by
  obtain ⟨nodes, pending, levels⟩ := builder
  cases levels with
  | nil => exact List.reverse_cons
  | cons level levels => exact List.reverse_cons

theorem settle_await (builder : Builder) (property : String) :
    (builder.await property).settle = builder.settle := by
  obtain ⟨nodes, pending, levels⟩ := builder
  cases levels <;> rfl

theorem length_levels_await (builder : Builder) (property : String) :
    (builder.await property).levels.length = builder.levels.length := by
  obtain ⟨nodes, pending, levels⟩ := builder
  cases levels <;> rfl

theorem waiting_awaitAll (builder : Builder) (properties : List String) :
    (builder.awaitAll properties).waiting = builder.waiting ++ properties := by
  induction properties generalizing builder with
  | nil => exact (List.append_nil _).symm
  | cons property properties ih =>
    have hrest := ih (builder.await property)
    rw [waiting_await, List.append_assoc] at hrest
    exact hrest

theorem settle_awaitAll (builder : Builder) (properties : List String) :
    (builder.awaitAll properties).settle = builder.settle := by
  induction properties generalizing builder with
  | nil => rfl
  | cons property properties ih => exact (ih _).trans (settle_await builder property)

theorem length_levels_awaitAll (builder : Builder) (properties : List String) :
    (builder.awaitAll properties).levels.length = builder.levels.length := by
  induction properties generalizing builder with
  | nil => rfl
  | cons property properties ih => exact (ih _).trans (length_levels_await builder property)

/-- There is nothing to drop where nothing waits. -/
theorem settle_eq (h : builder.waiting = []) : builder.settle = builder := by
  obtain ⟨nodes, pending, levels⟩ := builder
  cases levels with
  | nil =>
    have hpending : pending = [] := List.reverse_eq_nil_iff.mp h
    rw [hpending]
    rfl
  | cons level levels =>
    have hpending : level.pending = [] := List.reverse_eq_nil_iff.mp h
    unfold settle
    rw [← hpending]

/-! ### What was added -/

/-- Adds nodes, one after the other. -/
def addAll (builder : Builder) (nodes : List Node) : Builder :=
  nodes.foldl add builder

theorem waiting_add (builder : Builder) (node : Node) :
    (builder.add node).waiting = builder.waiting := by
  obtain ⟨nodes, pending, levels⟩ := builder
  cases levels <;> rfl

theorem length_levels_add (builder : Builder) (node : Node) :
    (builder.add node).levels.length = builder.levels.length := by
  obtain ⟨nodes, pending, levels⟩ := builder
  cases levels <;> rfl

/-- The nodes in a bracket are those that were added since it was opened. -/
theorem addAll_cons_levels (nodes : List Node) (pending : List String) (level : Level)
    (levels : List Level) (children : List Node) :
    addAll ⟨nodes, pending, level :: levels⟩ children =
      ⟨nodes, pending, { level with nodes := children.reverse ++ level.nodes } :: levels⟩ := by
  induction children generalizing level with
  | nil => rfl
  | cons child children ih =>
    have hrest := ih { level with nodes := child :: level.nodes }
    rw [List.reverse_cons, List.append_assoc]
    exact hrest

theorem addAll_nil_levels (nodes : List Node) (pending : List String) (children : List Node) :
    addAll ⟨nodes, pending, []⟩ children = ⟨children.reverse ++ nodes, pending, []⟩ := by
  induction children generalizing nodes with
  | nil => rfl
  | cons child children ih =>
    have hrest := ih (child :: nodes)
    rw [List.reverse_cons, List.append_assoc]
    exact hrest

/-! ### Tokens -/

theorem steps_append {first rest : List Token} {middle last : Builder}
    (hfirst : first.foldlM (step limit) builder = .ok middle)
    (hrest : rest.foldlM (step limit) middle = .ok last) :
    (first ++ rest).foldlM (step limit) builder = .ok last := by
  rw [List.foldlM_append, hfirst]
  exact hrest

theorem steps_cons {rest : List Token} {middle last : Builder}
    (hfirst : builder.step limit token = .ok middle)
    (hrest : rest.foldlM (step limit) middle = .ok last) :
    (token :: rest).foldlM (step limit) builder = .ok last := by
  rw [List.foldlM_cons, hfirst]
  exact hrest

/-- A token that is neither a bracket nor a quote mark is a property or a literal. -/
theorem step_word
    (hkind : token.kind ≠ .opening ∧ token.kind ≠ .closing ∧ token.kind ≠ .quote) :
    builder.step limit token =
      match token.property? with
      | some "" => .error (.unnamedProperty token.location)
      | some property => .ok (builder.await property)
      | none => .ok (builder.settle.add (.literal token builder.waiting)) := by
  unfold step
  split
  · exact absurd ‹_› hkind.1
  · exact absurd ‹_› hkind.2.1
  · exact absurd ‹_› hkind.2.2
  · rfl

theorem step_literal (hword : token.mark.Lexical) (hname : token.property? = none) :
    builder.step limit token = .ok (builder.settle.add (.literal token builder.waiting)) := by
  rw [step_word hword.kind_ne, hname]

theorem step_ofProperty {name : String} (h : IsProperty name)
    (hmark : token.mark = Mark.ofProperty name) :
    builder.step limit token = .ok (builder.await name) := by
  unfold Mark.ofProperty at hmark
  split at hmark
  · rename_i hquoted
    unfold step
    rw [(Token.mark_eq_iff.mp hmark).1, hquoted]
  · have hproperty := Token.property?_eq_some_iff.mpr hmark
    have hkind : token.kind ≠ .opening ∧ token.kind ≠ .closing ∧ token.kind ≠ .quote := by
      rw [(Token.mark_eq_iff.mp hmark).1]
      exact ⟨nofun, nofun, nofun⟩
    -- the name is not empty, or else the marker would stand alone
    rw [step_word hkind]
    split
    · rename_i hempty
      rw [hproperty] at hempty
      exact absurd (Option.some.inj hempty) h.nonempty
    · rename_i hname
      rw [hproperty] at hname
      rw [Option.some.inj hname]
    · rename_i hnone
      rw [hproperty] at hnone
      cases hnone

theorem steps_properties {properties : List String} (h : ∀ name ∈ properties, IsProperty name)
    {tokens : List Token} (hmarks : tokens.map Token.mark = properties.map Mark.ofProperty) :
    tokens.foldlM (step limit) builder = .ok (builder.awaitAll properties) := by
  induction properties generalizing tokens builder with
  | nil =>
    rw [List.map_nil, List.map_eq_nil_iff] at hmarks
    subst hmarks
    rfl
  | cons name properties ih =>
    obtain ⟨hname, hrest⟩ := List.forall_mem_cons.mp h
    obtain ⟨token, tokens, rfl, htoken, htokens⟩ := List.map_eq_cons_iff.mp hmarks
    exact steps_cons (step_ofProperty hname htoken) (ih hrest htokens)

theorem enter_awaitAll (h : builder.waiting = []) (properties : List String) (token : Token) :
    (builder.awaitAll properties).enter token =
      ⟨builder.nodes, builder.pending,
        ⟨token.location, token.opensInline, properties, [], []⟩ :: builder.levels⟩ := by
  unfold enter
  rw [settle_awaitAll, settle_eq h, waiting_awaitAll, h, List.nil_append]

theorem step_opening (hkind : token.kind = .opening) (hroom : builder.levels.length < limit) :
    builder.step limit token = .ok (builder.enter token) := by
  unfold step
  rw [hkind]
  exact if_neg (Nat.not_le_of_lt hroom)

theorem step_closing (hkind : token.kind = .closing) {level : Level} {levels : List Level}
    (hlevels : builder.levels = level :: levels) :
    builder.step limit token = .ok ({ builder with levels }.add level.close) := by
  unfold step
  rw [hkind, hlevels]

end Builder

end FrameLisp
