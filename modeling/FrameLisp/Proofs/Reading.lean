import FrameLisp.Node.Builder

/-!
# What is true of all trees that are read

The builder makes trees out of tokens only, one at a time.  So what is true of tokens, and is handed
on from tokens and properties to literals, and from the nodes in a bracket to the form that it
closes, is true of all trees that are read.  A `Reading` is such a property.  It may speak of the
number of brackets around a node, of which there are never more than the limit.

The invariant behind this is `Reading.Builds`: what waits or lies in an open bracket is as it should
be, with the number of brackets around it being its position in the stack.
-/

namespace FrameLisp

/-- What is true of tokens and of all that is built from them, with at most `limit` brackets open.
-/
structure Reading (limit : Nat) where
  /-- What is true of tokens. -/
  token : Token → Prop
  /-- What is true of their places. -/
  place : Location → Prop
  /-- What is true of properties. -/
  property : String → Prop
  /-- What is true of nodes with a number of brackets around them. -/
  node : Nat → Node → Prop
  /-- Tokens have places. -/
  token_place {t : Token} (h : token t) : place t.location
  /-- Names that become properties. -/
  property_name {t : Token} (h : token t) {name : String} (hname : t.property? = some name)
    (hne : name ≠ "") : property name
  /-- Quote marks become a property. -/
  property_quoted : property quotedProperty
  /-- Tokens that are neither brackets nor properties become literals. -/
  literal {t : Token} (h : token t) (hopening : t.kind ≠ .opening) (hclosing : t.kind ≠ .closing)
    (hquote : t.kind ≠ .quote) (hname : t.property? = none) {properties : List String}
    (hproperties : ∀ name ∈ properties, property name) (height : Nat) :
    node height (.literal t properties)
  /-- Nodes in brackets become forms. -/
  form {height : Nat} (hheight : height < limit) {children : List Node}
    (hchildren : ∀ child ∈ children, node (height + 1) child) {properties : List String}
    (hproperties : ∀ name ∈ properties, property name) (inline : Bool) {location : Location}
    (hlocation : place location) : node height (.form children properties inline (some location))

namespace Reading

variable {limit : Nat} (R : Reading limit)

/-- An open bracket with some brackets around it, and what has been read in it. -/
structure BuildsLevel (height : Nat) (level : Level) : Prop where
  /-- There was room for it. -/
  room : height < limit
  /-- It has a place. -/
  place : R.place level.location
  /-- The properties of the form to be. -/
  properties : ∀ name ∈ level.properties, R.property name
  /-- The nodes in it. -/
  nodes : ∀ node ∈ level.nodes, R.node (height + 1) node
  /-- The properties that wait in it. -/
  pending : ∀ name ∈ level.pending, R.property name

/-- All open brackets, the innermost first. -/
def BuildsLevels : List Level → Prop
  | [] => True
  | level :: levels => R.BuildsLevel levels.length level ∧ BuildsLevels levels

/-- All that has been read so far. -/
structure Builds (builder : Builder) : Prop where
  /-- The nodes outside of all brackets. -/
  nodes : ∀ node ∈ builder.nodes, R.node 0 node
  /-- The properties that wait there. -/
  pending : ∀ name ∈ builder.pending, R.property name
  /-- The open brackets. -/
  levels : R.BuildsLevels builder.levels

/-- What is read is as it should be, or the token to blame has a place. -/
def Gives {α : Type} (good : α → Prop) : Except Misread α → Prop
  | .ok a => good a
  | .error misread => R.place misread.location

variable {R} {builder : Builder}

namespace Builds

theorem waiting (h : R.Builds builder) : ∀ name ∈ builder.waiting, R.property name := by
  unfold Builder.waiting
  split
  · exact fun name hname => h.pending name (List.mem_reverse.mp hname)
  · rename_i level levels hlevels
    have hall := h.levels
    rw [hlevels] at hall
    exact fun name hname => hall.1.pending name (List.mem_reverse.mp hname)

theorem await (h : R.Builds builder) {name : String} (hname : R.property name) :
    R.Builds (builder.await name) := by
  unfold Builder.await
  split
  · exact ⟨h.nodes, List.forall_mem_cons.mpr ⟨hname, h.pending⟩, h.levels⟩
  · rename_i level levels hlevels
    have hall := h.levels
    rw [hlevels] at hall
    obtain ⟨hlevel, hrest⟩ := hall
    have hpending := List.forall_mem_cons.mpr ⟨hname, hlevel.pending⟩
    exact ⟨h.nodes, h.pending,
      ⟨hlevel.room, hlevel.place, hlevel.properties, hlevel.nodes, hpending⟩, hrest⟩

theorem settle (h : R.Builds builder) : R.Builds builder.settle := by
  unfold Builder.settle
  split
  · exact ⟨h.nodes, nofun, h.levels⟩
  · rename_i level levels hlevels
    have hall := h.levels
    rw [hlevels] at hall
    obtain ⟨hlevel, hrest⟩ := hall
    exact ⟨h.nodes, h.pending,
      ⟨hlevel.room, hlevel.place, hlevel.properties, hlevel.nodes, nofun⟩, hrest⟩

theorem add (h : R.Builds builder) {node : Node} (hnode : R.node builder.levels.length node) :
    R.Builds (builder.add node) := by
  unfold Builder.add
  split
  · rename_i hlevels
    rw [hlevels] at hnode
    exact ⟨List.forall_mem_cons.mpr ⟨hnode, h.nodes⟩, h.pending, h.levels⟩
  · rename_i level levels hlevels
    have hall := h.levels
    rw [hlevels] at hall hnode
    obtain ⟨hlevel, hrest⟩ := hall
    have hnodes := List.forall_mem_cons.mpr ⟨hnode, hlevel.nodes⟩
    exact ⟨h.nodes, h.pending,
      ⟨hlevel.room, hlevel.place, hlevel.properties, hnodes, hlevel.pending⟩, hrest⟩

end Builds

/-- Dropping what waits keeps the brackets. -/
theorem length_settle (builder : Builder) :
    builder.settle.levels.length = builder.levels.length := by
  unfold Builder.settle
  split
  · rfl
  · rename_i level levels hlevels
    rw [hlevels]
    rfl

theorem Builds.enter (h : R.Builds builder) (hroom : builder.levels.length < limit) {token : Token}
    (htoken : R.token token) : R.Builds (builder.enter token) := by
  have hheight : builder.settle.levels.length < limit := by
    rw [length_settle]
    exact hroom
  exact ⟨h.settle.nodes, h.settle.pending,
    ⟨hheight, R.token_place htoken, h.waiting, nofun, nofun⟩, h.settle.levels⟩

theorem BuildsLevel.close {height : Nat} {level : Level} (h : R.BuildsLevel height level) :
    R.node height level.close :=
  R.form h.room (fun child hchild => h.nodes child (List.mem_reverse.mp hchild)) h.properties
    level.inline h.place

theorem gives_step (h : R.Builds builder) {token : Token} (htoken : R.token token) :
    R.Gives R.Builds (builder.step limit token) := by
  have hplace := R.token_place htoken
  unfold Builder.step
  split
  · split
    · exact hplace
    · rename_i hroom
      exact h.enter (Nat.lt_of_not_le hroom) htoken
  · split
    · exact hplace
    · -- the level that is closed becomes a node of the one around it
      rename_i level levels hlevels
      have hall := h.levels
      rw [hlevels] at hall
      have hbuilds : R.Builds { builder with levels } := ⟨h.nodes, h.pending, hall.2⟩
      exact hbuilds.add hall.1.close
  · exact h.await R.property_quoted
  · rename_i hopening hclosing hquote
    split
    · exact hplace
    · rename_i name hne hname
      exact h.await (R.property_name htoken hname hne)
    · rename_i hname
      exact h.settle.add (R.literal htoken hopening hclosing hquote hname h.waiting _)

theorem gives_steps (h : R.Builds builder) {tokens : List Token}
    (htokens : ∀ token ∈ tokens, R.token token) :
    R.Gives R.Builds (tokens.foldlM (Builder.step limit) builder) := by
  induction tokens generalizing builder with
  | nil => exact h
  | cons token tokens ih =>
    obtain ⟨htoken, hrest⟩ := List.forall_mem_cons.mp htokens
    have hstep := gives_step h htoken
    rw [List.foldlM_cons]
    cases hresult : builder.step limit token with
    | error misread =>
      rw [hresult] at hstep
      exact hstep
    | ok next =>
      rw [hresult] at hstep
      exact ih hstep hrest

/-- The outermost bracket that is open has a place. -/
theorem BuildsLevels.place_of_mem {levels : List Level} (h : R.BuildsLevels levels) {level : Level}
    (hlevel : level ∈ levels) : R.place level.location := by
  induction levels with
  | nil => cases hlevel
  | cons first rest ih =>
    rcases List.mem_cons.mp hlevel with rfl | hrest
    · exact h.1.place
    · exact ih h.2 hrest

/-- **Trees are what their tokens make of them**, and a source that is misread is misread at a
token. -/
theorem gives_build (R : Reading limit) {tokens : List Token}
    (htokens : ∀ token ∈ tokens, R.token token) :
    R.Gives (fun nodes => ∀ node ∈ nodes, R.node 0 node) (Node.build limit tokens) := by
  have hempty : R.Builds {} := ⟨nofun, nofun, trivial⟩
  have hsteps := gives_steps hempty htokens
  unfold Node.build
  cases hresult : tokens.foldlM (Builder.step limit) {} with
  | error misread =>
    rw [hresult] at hsteps
    exact hsteps
  | ok builder =>
    rw [hresult] at hsteps
    have hbuilder : R.Builds builder := hsteps
    show R.Gives _ builder.finish
    unfold Builder.finish
    split
    · rename_i outermost hlast
      exact hbuilder.levels.place_of_mem (List.mem_of_getLast? hlast)
    · exact fun node hnode => hbuilder.nodes node (List.mem_reverse.mp hnode)

end Reading

end FrameLisp
