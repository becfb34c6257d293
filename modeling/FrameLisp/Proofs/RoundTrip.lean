import FrameLisp.Proofs.Reading
import FrameLisp.Proofs.RoundTrip.Building

/-!
# Trees that are written and read again

The written form of a tree is a text that can be read.  Is the tree that is read the one that was
written?  It is, but for places and strings, and how far it is for strings is told by `Text.reread`.

The way leads over the marks of a tree, that is, its tokens without places, and over the trees that
are `Readable`: those whose words are words of a source, with few enough brackets in each other.

* All trees of a source are readable, since the builder makes them of words of the source
  (`Node.readable_of_build`).
* A readable tree is written as its marks, strings apart: no two of its words run together, and each
  prefix stands before its node (`Node.Readable.readsOff`).
* The builder makes a readable tree of its marks, whatever their places are
  (`Node.Readable.isBuilt`).

So the tree that is read is the one that was written with its strings read again, which is readable
too.  The two are the same if and only if the strings are (`Node.unplaced_reread_eq_iff`).
-/

namespace FrameLisp

/-- The token without its place. -/
def Token.unplaced (token : Token) : Token := { token with location := default }

theorem Token.unplaced_eq_iff {token other : Token} :
    token.unplaced = other.unplaced ↔ token.mark = other.mark := by
  unfold unplaced
  rw [Token.mk.injEq, mark_eq_iff]
  exact ⟨fun h => ⟨h.1, h.2.1⟩, fun h => ⟨h.1, h.2, rfl⟩⟩

namespace Node

/-- The node without places. -/
def unplaced : Node → Node
  | literal token properties => literal token.unplaced properties
  | form children properties inline _ => form (children.map unplaced) properties inline none

/-- The node as it is when its written form is read. -/
def reread : Node → Node
  | literal token properties => literal token.reread properties
  | form children properties inline location =>
    form (children.map reread) properties inline location

/-- The texts of the strings in a node. -/
def strings : Node → List String
  | literal token _ => if token.kind = .string then [token.text] else []
  | form children _ _ _ => children.flatMap strings

/-- The marks of which a node is built. -/
def marks : Node → List Mark
  | literal token properties => properties.map Mark.ofProperty ++ [token.mark]
  | form children properties inline _ =>
    properties.map Mark.ofProperty ++ (.opening, if inline then "#(" else "(") ::
      (children.flatMap marks ++ [(.closing, ")")])

/-- A node that can be read with a number of brackets around it, of which there are never more than
the limit: its literals are words, and its properties may stand after `^`. -/
inductive Readable (limit : Nat) : Nat → Node → Prop
  /-- A word that is no property. -/
  | literal {height : Nat} {token : Token} {properties : List String} (hword : token.mark.Lexical)
    (hname : token.property? = none) (hproperties : ∀ name ∈ properties, IsProperty name) :
    Readable limit height (literal token properties)
  /-- Nodes in brackets. -/
  | form {height : Nat} {children : List Node} {properties : List String} {inline : Bool}
    {location : Option Location} (hroom : height < limit)
    (hchildren : ∀ child ∈ children, Readable limit (height + 1) child)
    (hproperties : ∀ name ∈ properties, IsProperty name) :
    Readable limit height (form children properties inline location)

end Node

/-! ### What is read is readable -/

/-- Trees of a source are readable. -/
def Reading.readable (limit : Nat) : Reading limit where
  token token := token.mark.OfSource
  place _ := True
  property := IsProperty
  node := Node.Readable limit
  token_place _ := trivial
  property_name h _ := Token.isProperty_of_property? h
  property_quoted := isProperty_quotedProperty
  literal h hopening hclosing hquote hname _ hproperties _ :=
    .literal (((h.resolve_left hopening).resolve_left hclosing).resolve_left hquote) hname
      hproperties
  form hheight _ hchildren _ hproperties _ _ _ := .form hheight hchildren hproperties

/-! ### Writing a node and reading its marks -/

namespace Node

/-- The marks of a node are read off its written form. -/
def ReadsOff (node : Node) : Prop :=
  ∀ rest : List Char, Delimits rest →
    Mark.ofChars (node.render.toList ++ rest) = node.reread.marks ++ Mark.ofChars rest

/-- The written forms of nodes, with a blank between them. -/
def renderAll (nodes : List Node) : String := " ".intercalate (nodes.map render)

theorem ofChars_renderAll {nodes : List Node} (h : ∀ node ∈ nodes, node.ReadsOff)
    {rest : List Char} (hrest : Delimits rest) :
    Mark.ofChars ((renderAll nodes).toList ++ rest) =
      (nodes.map reread).flatMap marks ++ Mark.ofChars rest := by
  have hall := Mark.readsAs_intercalate Mark.separates_blank h
  rw [List.flatMap_map]
  exact hall rest hrest

theorem render_form (children : List Node) (properties : List String) (inline : Bool)
    (location : Option Location) :
    (form children properties inline location).render =
      renderProperties properties ++
        ((if inline then "#(" else "(") ++ (renderAll children ++ ")")) := by
  rw [render, renderEach_eq_map, String.append_assoc, String.append_assoc]
  rfl

/-- **A node that can be read is read off its written form**, as far as its strings allow. -/
theorem Readable.readsOff {limit height : Nat} {node : Node} (h : Readable limit height node) :
    node.ReadsOff := by
  induction h with
  | literal hword _ hproperties =>
    intro rest hrest
    rw [render, reread, marks, String.toList_append, List.append_assoc, List.append_assoc,
      Mark.ofChars_renderProperties hproperties, Token.ofChars_renderToken hword hrest]
    rfl
  | form _ _ hproperties ih =>
    intro rest _
    -- a child is followed by a blank or by the closing bracket, with which no word goes on
    rw [render_form, reread, marks, String.toList_append, String.toList_append,
      String.toList_append, List.append_assoc, List.append_assoc, List.append_assoc,
      Mark.ofChars_renderProperties hproperties, Mark.ofChars_opening,
      ofChars_renderAll ih (delimits_closing rest), Mark.ofChars_closing, List.append_assoc,
      List.cons_append, List.append_assoc]
    rfl

end Node

/-! ### Building a node from its marks -/

namespace Node

/-- Tokens with the marks of the node add it to a level at which nothing waits, but for places. -/
def IsBuilt (limit height : Nat) (node : Node) : Prop :=
  ∀ (tokens : List Token) (builder : Builder), tokens.map Token.mark = node.marks →
    builder.levels.length = height → builder.waiting = [] →
    ∃ built : Node, built.unplaced = node.unplaced ∧
      tokens.foldlM (Builder.step limit) builder = .ok (builder.add built)

theorem isBuilt_literal {limit height : Nat} {token : Token} {properties : List String}
    (hword : token.mark.Lexical) (hname : token.property? = none)
    (hproperties : ∀ name ∈ properties, IsProperty name) :
    IsBuilt limit height (literal token properties) := by
  intro tokens builder hmarks _ hwaiting
  rw [marks] at hmarks
  obtain ⟨before, last, rfl, hbefore, hlast⟩ := List.map_eq_append_iff.mp hmarks
  obtain ⟨word, rfl, hmark⟩ := List.map_eq_singleton_iff.mp hlast
  refine ⟨literal word properties, ?_, ?_⟩
  · rw [unplaced, unplaced, Token.unplaced_eq_iff.mpr hmark]
  · have hlexical : word.mark.Lexical := hmark ▸ hword
    have hnone : word.property? = none := (Token.property?_congr hmark).trans hname
    have hstep : (builder.awaitAll properties).step limit word =
        .ok (builder.add (literal word properties)) := by
      rw [Builder.step_literal hlexical hnone, Builder.settle_awaitAll, Builder.settle_eq hwaiting,
        Builder.waiting_awaitAll, hwaiting, List.nil_append]
    exact Builder.steps_append (Builder.steps_properties hproperties hbefore)
      (Builder.steps_cons hstep rfl)

/-- The nodes in a bracket are built one after the other. -/
theorem steps_children {limit height : Nat} {nodes : List Node}
    (h : ∀ node ∈ nodes, IsBuilt limit height node) {tokens : List Token} {builder : Builder}
    (hmarks : tokens.map Token.mark = nodes.flatMap marks)
    (hheight : builder.levels.length = height) (hwaiting : builder.waiting = []) :
    ∃ built : List Node, built.map unplaced = nodes.map unplaced ∧
      tokens.foldlM (Builder.step limit) builder = .ok (builder.addAll built) := by
  induction nodes generalizing tokens builder with
  | nil =>
    rw [List.flatMap_nil, List.map_eq_nil_iff] at hmarks
    subst hmarks
    exact ⟨[], rfl, rfl⟩
  | cons node nodes ih =>
    obtain ⟨hnode, hnodes⟩ := List.forall_mem_cons.mp h
    rw [List.flatMap_cons] at hmarks
    obtain ⟨first, rest, rfl, hfirst, hrest⟩ := List.map_eq_append_iff.mp hmarks
    obtain ⟨one, hone, hsteps⟩ := hnode first builder hfirst hheight hwaiting
    obtain ⟨more, hmore, hsteps'⟩ := @ih hnodes rest (builder.add one) hrest
      ((Builder.length_levels_add builder one).trans hheight)
      ((Builder.waiting_add builder one).trans hwaiting)
    refine ⟨one :: more, ?_, ?_⟩
    · rw [List.map_cons, List.map_cons, hone, hmore]
    · exact Builder.steps_append hsteps hsteps'

theorem isBuilt_form {limit height : Nat} {children : List Node} {properties : List String}
    {inline : Bool} {location : Option Location} (hroom : height < limit)
    (hchildren : ∀ child ∈ children, IsBuilt limit (height + 1) child)
    (hproperties : ∀ name ∈ properties, IsProperty name) :
    IsBuilt limit height (form children properties inline location) := by
  intro tokens builder hmarks hheight hwaiting
  rw [marks] at hmarks
  -- properties, the opening bracket, what is within, and the closing bracket
  obtain ⟨before, rest, rfl, hbefore, hrest⟩ := List.map_eq_append_iff.mp hmarks
  obtain ⟨bracket, inside, rfl, hbracket, hinside⟩ := List.map_eq_cons_iff.mp hrest
  obtain ⟨within, last, rfl, hwithin, hlast⟩ := List.map_eq_append_iff.mp hinside
  obtain ⟨closing, rfl, hclosing⟩ := List.map_eq_singleton_iff.mp hlast
  let level : Level := ⟨bracket.location, inline, properties, [], []⟩
  let opened : Builder := ⟨builder.nodes, builder.pending, level :: builder.levels⟩
  have hopening : (builder.awaitAll properties).step limit bracket = .ok opened := by
    have hlength := Builder.length_levels_awaitAll builder properties
    rw [Builder.step_opening (congrArg Prod.fst hbracket) (by omega),
      Builder.enter_awaitAll hwaiting, Token.opensInline_eq hbracket]
  -- nothing waits in a bracket that was just opened, so the children are built there
  obtain ⟨built, hbuilt, hsteps⟩ := @steps_children limit (height + 1) children hchildren within
    opened hwithin (congrArg Nat.succ hheight) rfl
  refine ⟨form built properties inline (some bracket.location), ?_, ?_⟩
  · rw [unplaced, unplaced, hbuilt]
  · have hstep : (opened.addAll built).step limit closing =
        .ok (builder.add (form built properties inline (some bracket.location))) := by
      rw [Builder.addAll_cons_levels, Builder.step_closing (congrArg Prod.fst hclosing) rfl]
      unfold Level.close
      rw [List.append_nil, List.reverse_reverse]
    exact Builder.steps_append (Builder.steps_properties hproperties hbefore)
      (Builder.steps_cons hopening (Builder.steps_append hsteps (Builder.steps_cons hstep rfl)))

/-- **A node that can be read is built from its marks**, but for places. -/
theorem Readable.isBuilt {limit height : Nat} {node : Node} (h : Readable limit height node) :
    IsBuilt limit height node := by
  induction h with
  | literal hword hname hproperties => exact isBuilt_literal hword hname hproperties
  | form hroom _ hproperties ih => exact isBuilt_form hroom ih hproperties

theorem build_of_marks {limit : Nat} {nodes : List Node} (h : ∀ node ∈ nodes, Readable limit 0 node)
    {tokens : List Token} (hmarks : tokens.map Token.mark = nodes.flatMap marks) :
    ∃ built : List Node, built.map unplaced = nodes.map unplaced ∧
      build limit tokens = .ok built := by
  obtain ⟨built, hbuilt, hsteps⟩ := @steps_children limit 0 nodes
    (fun node hnode => (h node hnode).isBuilt) tokens {} hmarks rfl rfl
  refine ⟨built, hbuilt, ?_⟩
  unfold build
  rw [hsteps, Builder.addAll_nil_levels]
  show Except.ok (built.reverse ++ []).reverse = _
  rw [List.append_nil, List.reverse_reverse]

/-! ### Strings that come back -/

theorem Readable.reread {limit height : Nat} {node : Node} (h : Readable limit height node) :
    Readable limit height node.reread := by
  induction h with
  | literal hword hname hproperties =>
    rw [Node.reread]
    exact .literal (Token.lexical_reread hword) ((Token.property?_reread _).trans hname) hproperties
  | form hroom _ hproperties ih =>
    rw [Node.reread]
    refine .form hroom ?_ hproperties
    intro child hchild
    obtain ⟨source, hsource, rfl⟩ := List.mem_map.mp hchild
    exact ih source hsource

/-- A string of a node that can be read contains no backslash. -/
theorem Readable.backslash_not_mem {limit height : Nat} {node : Node}
    (h : Readable limit height node) : ∀ text ∈ node.strings, '\\' ∉ text.toList := by
  induction h with
  | literal hword _ _ =>
    rw [strings]
    split
    · rename_i hstring
      rw [List.forall_mem_singleton]
      exact hword.backslash_not_mem hstring
    · nofun
  | form _ _ _ ih =>
    rw [strings]
    intro text htext
    obtain ⟨child, hchild, hmem⟩ := List.mem_flatMap.mp htext
    exact ih child hchild text hmem

/-- A node comes back if and only if its strings do. -/
theorem unplaced_reread_eq_iff (node : Node) :
    node.reread.unplaced = node.unplaced ↔ ∀ text ∈ node.strings, Text.reread text = text := by
  fun_induction strings node with
  | case1 token properties hstring =>
    rw [reread, unplaced, unplaced, literal.injEq, Token.unplaced_eq_iff, Token.mark_reread_eq_iff,
      List.forall_mem_singleton]
    exact ⟨fun h => h.1 hstring, fun h => ⟨fun _ => h, rfl⟩⟩
  | case2 token properties hstring =>
    rw [reread, unplaced, unplaced, literal.injEq, Token.unplaced_eq_iff, Token.mark_reread_eq_iff]
    exact ⟨fun _ => nofun, fun _ => ⟨fun h => absurd h hstring, rfl⟩⟩
  | case3 children properties inline location ih =>
    have hmap : (children.map reread).map unplaced = children.map unplaced ↔
        ∀ child ∈ children, child.reread.unplaced = child.unplaced := by
      rw [List.map_map]
      exact List.map_inj_left
    rw [reread, unplaced, unplaced, form.injEq, hmap]
    constructor
    · intro h text htext
      obtain ⟨child, hchild, hmem⟩ := List.mem_flatMap.mp htext
      exact (ih child hchild).mp (h.1 child hchild) text hmem
    · intro h
      refine ⟨fun child hchild => (ih child hchild).mpr fun text htext => ?_, rfl, rfl, rfl⟩
      exact h text (List.mem_flatMap.mpr ⟨child, hchild, htext⟩)

/-! ### The round trip -/

/-- Trees that were built from the tokens of a source can be read. -/
theorem readable_of_build {limit : Nat} {source file : String} {nodes : List Node}
    (h : build limit (Token.lex source file) = .ok nodes) :
    ∀ node ∈ nodes, Readable limit 0 node := by
  have htokens : ∀ token ∈ Token.lex source file, token.mark.OfSource :=
    fun _ => Token.ofSource_of_mem_lex
  have hgives := (Reading.readable limit).gives_build htokens
  rw [h] at hgives
  exact hgives

/-- Trees that can be read are read off their written form, but for places and as far as their
strings allow. -/
theorem build_lex_renderAll {limit : Nat} {nodes : List Node}
    (h : ∀ node ∈ nodes, Readable limit 0 node) (file : String) :
    ∃ again : List Node, build limit (Token.lex (renderAll nodes) file) = .ok again ∧
      again.map unplaced = nodes.map fun node => node.reread.unplaced := by
  -- the text has the marks of the trees with their strings read again, which are readable too
  have hmarks : (Token.lex (renderAll nodes) file).map Token.mark =
      (nodes.map reread).flatMap marks := by
    have hall := @ofChars_renderAll nodes (fun node hnode => (h node hnode).readsOff) [] nofun
    rw [Token.map_mark_lex, ← List.append_nil (renderAll nodes).toList, hall, Mark.ofChars,
      List.append_nil]
  obtain ⟨again, hagain, hbuild⟩ := build_of_marks
    (List.forall_mem_map.mpr fun node hnode => (h node hnode).reread) hmarks
  refine ⟨again, hbuild, hagain.trans ?_⟩
  rw [List.map_map]
  rfl

/-- **Trees that are written and read again are the same, but for places, if and only if no string
in them contains a character with an escape that the lexer does not know.**  They can be read in any
case.  There is no backslash in a string that was read, so the characters that do not come back are
those that are not printable, but for a newline. -/
theorem parse_renderAll {source file : String} {nodes : List Node}
    (h : parse source file = .ok nodes) (file' : String) :
    (∃ again : List Node, parse (renderAll nodes) file' = .ok again ∧
      (again.map unplaced = nodes.map unplaced ↔
        ∀ node ∈ nodes, ∀ text ∈ node.strings, ∀ c ∈ text.toList, Text.ReadsBack c)) ∧
      ∀ node ∈ nodes, ∀ text ∈ node.strings, ∀ c ∈ text.toList, c ≠ '\\' ∧
        (Text.ReadsBack c ↔
          c = '\n' ∨ c ≠ '\r' ∧ c ≠ '\t' ∧ c ≠ '\x00' ∧ Text.isPrintable c = true) := by
  have hreadable := readable_of_build h
  obtain ⟨again, hbuild, hagain⟩ := build_lex_renderAll hreadable file'
  refine ⟨⟨again, hbuild, ?_⟩, fun node hnode text htext c hc => ?_⟩
  · rw [hagain, List.map_inj_left]
    refine forall₂_congr fun node _ => ?_
    rw [unplaced_reread_eq_iff]
    exact forall₂_congr fun text _ => Text.reread_eq_iff text
  · have hbackslash : c ≠ '\\' := by
      rintro rfl
      exact (hreadable node hnode).backslash_not_mem text htext hc
    exact ⟨hbackslash, Text.readsBack_iff hbackslash⟩

/-- A tab in a string of an inline function with two properties does not come back. -/
theorem parse_renderAll_tab :
    ∃ nodes again : List Node, parse "'^a #(f \"\t\")" "a" = .ok nodes ∧
      parse (renderAll nodes) "b" = .ok again ∧ again.map unplaced ≠ nodes.map unplaced := by
  let name : Node := literal ⟨.identifier, "f", ⟨"a", 1, 7⟩⟩ []
  let tab : Node := literal ⟨.string, "\t", ⟨"a", 1, 9⟩⟩ []
  let nodes : List Node := [form [name, tab] ["quoted:true", "a"] true (some ⟨"a", 1, 5⟩)]
  have hparse : parse "'^a #(f \"\t\")" "a" = .ok nodes := by with_unfolding_all rfl
  obtain ⟨⟨again, hagain, hsame⟩, -⟩ := parse_renderAll hparse "b"
  refine ⟨nodes, again, hparse, hagain, fun heq => ?_⟩
  have htab : "\t" ∈ (form [name, tab] ["quoted:true", "a"] true (some ⟨"a", 1, 5⟩)).strings := by
    rw [strings, List.mem_flatMap]
    refine ⟨tab, by simp, ?_⟩
    rw [strings]
    exact List.mem_singleton.mpr rfl
  exact absurd (hsame.mp heq _ List.mem_cons_self "\t" htab '\t' (by decide)) (by decide)

end Node

end FrameLisp
