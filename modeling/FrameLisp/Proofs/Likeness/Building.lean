import FrameLisp.Node.Builder
import FrameLisp.Proofs.Likeness.Operation

/-!
# Trees of tokens that are alike

The builder looks at the kind and the text of a token, and puts its place into the tree.  So given
tokens that are alike it is refused in the same words, or gives trees that are alike
(`Node.build_alike`).  Two builders stay alike from token to token (`Builder.Alike.step`): they have
the same brackets open, with nodes in them that are alike.
-/

namespace FrameLisp

variable {L : Likeness} {limit : Nat}

/-- Brackets that were opened alike, with nodes in them that are alike. -/
structure Level.Alike (L : Likeness) (level level' : Level) : Prop where
  /-- They are at places that are alike. -/
  location : L.place (some level.location) (some level'.location)
  /-- Both open inline functions, or none does. -/
  inline : level'.inline = level.inline
  /-- The forms to be have the same properties. -/
  properties : level'.properties = level.properties
  /-- The nodes in them are alike. -/
  nodes : List.Forall₂ (Node.Alike L) level.nodes level'.nodes
  /-- The same properties wait. -/
  pending : level'.pending = level.pending

theorem Level.Alike.close {level level' : Level} (h : level.Alike L level') :
    level.close.Alike L level'.close := by
  have hnodes := List.rel_reverse h.nodes
  unfold Level.close
  rw [h.inline, h.properties]
  exact .form hnodes _ _ h.location

/-- Builders that have read alike tokens. -/
structure Builder.Alike (L : Likeness) (builder builder' : Builder) : Prop where
  /-- The nodes outside of all brackets are alike. -/
  nodes : List.Forall₂ (Node.Alike L) builder.nodes builder'.nodes
  /-- The same properties wait outside of all brackets. -/
  pending : builder'.pending = builder.pending
  /-- The open brackets are alike. -/
  levels : List.Forall₂ (Level.Alike L) builder.levels builder'.levels

namespace Builder.Alike

variable {builder builder' : Builder}

theorem waiting (h : builder.Alike L builder') : builder'.waiting = builder.waiting := by
  obtain ⟨nodes, pending, levels⟩ := builder
  obtain ⟨nodes', pending', levels'⟩ := builder'
  obtain ⟨hnodes, hpending, hlevels⟩ := h
  cases hlevels with
  | nil => exact congrArg List.reverse hpending
  | cons hlevel hlevels => exact congrArg List.reverse hlevel.pending

theorem settle (h : builder.Alike L builder') : builder.settle.Alike L builder'.settle := by
  obtain ⟨nodes, pending, levels⟩ := builder
  obtain ⟨nodes', pending', levels'⟩ := builder'
  obtain ⟨hnodes, hpending, hlevels⟩ := h
  cases hlevels with
  | nil => exact ⟨hnodes, rfl, .nil⟩
  | cons hlevel hlevels => exact ⟨hnodes, hpending, .cons { hlevel with pending := rfl } hlevels⟩

theorem await (h : builder.Alike L builder') (property : String) :
    (builder.await property).Alike L (builder'.await property) := by
  obtain ⟨nodes, pending, levels⟩ := builder
  obtain ⟨nodes', pending', levels'⟩ := builder'
  obtain ⟨hnodes, hpending, hlevels⟩ := h
  cases hlevels with
  | nil => exact ⟨hnodes, congrArg (property :: ·) hpending, .nil⟩
  | cons hlevel hlevels =>
    have hwaits := congrArg (property :: ·) hlevel.pending
    exact ⟨hnodes, hpending, .cons { hlevel with pending := hwaits } hlevels⟩

theorem add (h : builder.Alike L builder') {node node' : Node} (hnode : node.Alike L node') :
    (builder.add node).Alike L (builder'.add node') := by
  obtain ⟨nodes, pending, levels⟩ := builder
  obtain ⟨nodes', pending', levels'⟩ := builder'
  obtain ⟨hnodes, hpending, hlevels⟩ := h
  cases hlevels with
  | nil => exact ⟨.cons hnode hnodes, hpending, .nil⟩
  | cons hlevel hlevels =>
    have hmore := List.Forall₂.cons hnode hlevel.nodes
    exact ⟨hnodes, hpending, .cons { hlevel with nodes := hmore } hlevels⟩

theorem enter (h : builder.Alike L builder') {token token' : Token}
    (htoken : L.token token token') :
    (builder.enter token).Alike L (builder'.enter token') := by
  have hinline : token'.opensInline = token.opensInline := by
    unfold Token.opensInline
    rw [L.token_kind htoken, L.token_text htoken]
  have hlevel : Level.Alike L ⟨token.location, token.opensInline, builder.waiting, [], []⟩
      ⟨token'.location, token'.opensInline, builder'.waiting, [], []⟩ :=
    ⟨L.token_place htoken, hinline, h.waiting, .nil, rfl⟩
  exact ⟨h.settle.nodes, h.settle.pending, .cons hlevel h.settle.levels⟩

/-- **Tokens that are alike are read alike**, or refused in the same words. -/
theorem step (h : builder.Alike L builder') {token token' : Token} (htoken : L.token token token') :
    Matches (fun misread misread' => misread'.message = misread.message) (Builder.Alike L)
      (builder.step limit token) (builder'.step limit token') := by
  have hproperty : token'.property? = token.property? := by
    unfold Token.property?
    rw [L.token_kind htoken, L.token_text htoken]
  unfold Builder.step
  rw [L.token_kind htoken]
  split
  · rw [← h.levels.length_eq]
    split
    · exact .error rfl
    · exact .ok (h.enter htoken)
  · obtain ⟨nodes, pending, levels⟩ := builder
    obtain ⟨nodes', pending', levels'⟩ := builder'
    obtain ⟨hnodes, hpending, hlevels⟩ := h
    cases hlevels with
    | nil => exact .error rfl
    | @cons level level' levels levels' hlevel hlevels =>
      have houter : Builder.Alike L ⟨nodes, pending, levels⟩ ⟨nodes', pending', levels'⟩ :=
        ⟨hnodes, hpending, hlevels⟩
      exact .ok (houter.add hlevel.close)
  · exact .ok (h.await _)
  · rw [hproperty]
    split
    · exact .error rfl
    · exact .ok (h.await _)
    · rw [h.waiting]
      exact .ok (h.settle.add (.literal htoken _))

theorem finish (h : builder.Alike L builder') :
    Matches (fun misread misread' => misread'.message = misread.message)
      (List.Forall₂ (Node.Alike L)) builder.finish builder'.finish := by
  obtain ⟨nodes, pending, levels⟩ := builder
  obtain ⟨nodes', pending', levels'⟩ := builder'
  obtain ⟨hnodes, hpending, hlevels⟩ := h
  unfold Builder.finish
  cases hlevels with
  | nil => exact .ok (List.rel_reverse hnodes)
  | cons hlevel hlevels =>
    rw [List.getLast?_cons, List.getLast?_cons]
    exact .error rfl

end Builder.Alike

/-- **Trees of tokens that are alike are alike.** -/
theorem Node.build_alike (limit : Nat) {tokens tokens' : List Token}
    (h : List.Forall₂ L.token tokens tokens') :
    Matches (fun misread misread' => misread'.message = misread.message)
      (List.Forall₂ (Node.Alike L)) (build limit tokens) (build limit tokens') := by
  have hempty : Builder.Alike L {} {} := ⟨.nil, rfl, .nil⟩
  unfold build
  refine Matches.bind (Matches.foldlM ?_ h hempty) fun _ _ hlast => hlast.finish
  intro builder builder' token token' hbuilder htoken
  exact hbuilder.step htoken

end FrameLisp
