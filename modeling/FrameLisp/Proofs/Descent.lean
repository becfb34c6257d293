import FrameLisp.Proofs.Reading
import FrameLisp.Proofs.RoundTrip.Building

/-!
# Reading by recursive descent

There are two ways to find the trees of a sequence of tokens.  The builder goes through the tokens
once and keeps a stack of the brackets that are open.  `Node.descend` goes down into a bracket
instead: it looks for the bracket that closes it, `Token.boundary`, reads the tokens in between on
their own, and goes on after them.  The first counts nothing, the second keeps no stack.

If the builder has an answer, the descent has the same one (`Node.descend_eq_of_build`).  The
invariant ties the height of the stack to the count of `Token.closingFrom`: a bracket that is open
is closed by the first token after which the stack is lower than it is, and that is where the count
comes down to none (`Builder.exists_closing`).  So the tokens up to there are read at one level,
with all that they open closed again, and a level at which that is so has the nodes that the descent
finds, and what waits there waits for no one else (`Builder.descends`).
-/

namespace FrameLisp

/-- What follows an item of a list. -/
theorem drop_append_cons {α : Type} (before after : List α) (a : α) :
    (before ++ a :: after).drop (before.length + 1) = after := by
  rw [List.append_cons]
  exact List.drop_left' List.length_append

/-! ### Where a bracket ends -/

namespace Token

/-- To close some brackets and then some more is to close all of them. -/
theorem closingFrom_add {inner outer : Nat} (hinner : 1 ≤ inner) (houter : 1 ≤ outer)
    (tokens : List Token) :
    closingFrom (inner + outer) tokens =
      (closingFrom inner tokens).bind fun i =>
        (closingFrom outer (tokens.drop (i + 1))).map (· + (i + 1)) := by
  induction tokens generalizing inner with
  | nil => rfl
  | cons token tokens ih =>
    -- one token further, the index found is one more
    have hnext : ∀ depth, 1 ≤ depth →
        (closingFrom (depth + outer) tokens).map (· + 1) =
          ((closingFrom depth tokens).map (· + 1)).bind fun i =>
            (closingFrom outer ((token :: tokens).drop (i + 1))).map (· + (i + 1)) := by
      intro depth hdepth
      rw [ih hdepth]
      cases closingFrom depth tokens with
      | none => rfl
      | some i =>
        simp only [Option.bind_some, Option.map_some, Option.map_map, List.drop_succ_cons]
        congr 1
    rw [closingFrom, closingFrom]
    split
    · have hdepth := hnext (inner + 1) (by omega)
      rwa [show inner + 1 + outer = inner + outer + 1 by omega] at hdepth
    · by_cases hone : inner ≤ 1
      · have hlast : inner = 1 := by omega
        subst hlast
        rw [if_neg (by omega), if_pos (Nat.le_refl 1), Option.bind_some,
          show 1 + outer - 1 = outer by omega]
        rfl
      · have hdepth := hnext (inner - 1) (by omega)
        rw [if_neg (by omega), if_neg hone]
        rwa [show inner - 1 + outer = inner + outer - 1 by omega] at hdepth
    · exact hnext inner hinner

/-- A token that is no bracket is not counted. -/
theorem closingFrom_cons_eq_none {depth : Nat} {token : Token} {tokens : List Token}
    (hopening : token.kind ≠ .opening) (hclosing : token.kind ≠ .closing) :
    closingFrom depth (token :: tokens) = none ↔ closingFrom depth tokens = none := by
  rw [closingFrom]
  split
  · exact absurd ‹_› hopening
  · exact absurd ‹_› hclosing
  · exact Option.map_eq_none_iff

/-- A closing bracket closes the last one that is open. -/
theorem closingFrom_one_cons_ne_none {token : Token} (tokens : List Token)
    (h : token.kind = .closing) : closingFrom 1 (token :: tokens) ≠ none := by
  rw [closingFrom, h]
  exact nofun

end Token

namespace Node

/-- The trees of a sequence of tokens, with the properties that wait for the first of them.  A
bracket is read by itself, from the token after it up to the one that closes it; there are no trees
if a bracket is not closed. -/
def descend (pending : List String) : List Token → Option (List Node)
  | [] => some []
  | token :: tokens =>
    match token.kind with
    | .opening =>
      match Token.boundary (token :: tokens) with
      | none => none
      | some j => do
        let children ← descend [] (tokens.take (j - 1))
        let rest ← descend [] (tokens.drop j)
        return .form children pending token.opensInline (some token.location) :: rest
    | .quote => descend (pending ++ [quotedProperty]) tokens
    | _ =>
      match token.property? with
      | some name => descend (pending ++ [name]) tokens
      | none => do
        let rest ← descend [] tokens
        return .literal token pending :: rest
termination_by tokens => tokens.length
decreasing_by
  · rw [List.length_take, List.length_cons]
    omega
  · rw [List.length_drop, List.length_cons]
    omega
  · exact Nat.lt_succ_self _
  · exact Nat.lt_succ_self _
  · exact Nat.lt_succ_self _

end Node

/-! ### The height of the stack -/

namespace Builder

variable {builder last next : Builder} {limit : Nat} {token : Token} {tokens : List Token}

/-- What a token does, if it does anything. -/
theorem step_cases (h : builder.step limit token = .ok next) :
    token.kind = .opening ∧ builder.levels.length < limit ∧ next = builder.enter token ∨
    (token.kind = .closing ∧ ∃ level levels, builder.levels = level :: levels ∧
      next = { builder with levels }.add level.close) ∨
    token.kind = .quote ∧ next = builder.await quotedProperty ∨
    (token.kind ≠ .opening ∧ token.kind ≠ .closing ∧ token.kind ≠ .quote) ∧
      ((∃ name, token.property? = some name ∧ name ≠ "" ∧ next = builder.await name) ∨
        token.property? = none ∧ next = builder.settle.add (.literal token builder.waiting)) := by
  unfold step at h
  split at h
  · rename_i hkind
    split at h
    · cases h
    · rename_i hroom
      exact .inl ⟨hkind, Nat.lt_of_not_le hroom, (Except.ok.inj h).symm⟩
  · rename_i hkind
    split at h
    · cases h
    · rename_i level levels hlevels
      exact .inr (.inl ⟨hkind, level, levels, hlevels, (Except.ok.inj h).symm⟩)
  · rename_i hkind
    exact .inr (.inr (.inl ⟨hkind, (Except.ok.inj h).symm⟩))
  · rename_i hopening hclosing hquote
    refine .inr (.inr (.inr ⟨⟨hopening, hclosing, hquote⟩, ?_⟩))
    split at h
    · cases h
    · rename_i name hne hname
      exact .inl ⟨name, hname, hne, (Except.ok.inj h).symm⟩
    · rename_i hname
      exact .inr ⟨hname, (Except.ok.inj h).symm⟩

/-- What a token does to the number of open brackets. -/
theorem length_levels_step (h : builder.step limit token = .ok next) :
    (token.kind = .opening → next.levels.length = builder.levels.length + 1) ∧
    (token.kind = .closing → next.levels.length + 1 = builder.levels.length) ∧
    (token.kind ≠ .opening → token.kind ≠ .closing →
      next.levels.length = builder.levels.length) := by
  obtain ⟨hkind, -, rfl⟩ | ⟨hkind, level, levels, hlevels, rfl⟩ | ⟨hkind, rfl⟩ |
    ⟨⟨hopening, hclosing, -⟩, ⟨name, -, -, rfl⟩ | ⟨-, rfl⟩⟩ := step_cases h
  · rw [hkind]
    refine ⟨fun _ => ?_, nofun, fun hother => absurd rfl hother⟩
    exact congrArg Nat.succ (Reading.length_settle builder)
  · rw [hkind]
    refine ⟨nofun, fun _ => ?_, fun _ hother => absurd rfl hother⟩
    rw [length_levels_add, hlevels, List.length_cons]
  · rw [hkind]
    exact ⟨nofun, nofun, fun _ _ => length_levels_await builder _⟩
  · exact ⟨fun hkind => absurd hkind hopening, fun hkind => absurd hkind hclosing,
      fun _ _ => length_levels_await builder name⟩
  · refine ⟨fun hkind => absurd hkind hopening, fun hkind => absurd hkind hclosing, fun _ _ => ?_⟩
    rw [length_levels_add, Reading.length_settle]

/-- The first token of a sequence, and the rest of it. -/
theorem steps_cons_ok (h : (token :: tokens).foldlM (step limit) builder = .ok last) :
    ∃ next, builder.step limit token = .ok next ∧ tokens.foldlM (step limit) next = .ok last := by
  rw [List.foldlM_cons] at h
  cases hnext : builder.step limit token with
  | error misread =>
    rw [hnext] at h
    cases h
  | ok next =>
    rw [hnext] at h
    exact ⟨next, rfl, h⟩

/-- **No more brackets are closed than there are.** -/
theorem closingFrom_eq_none (h : tokens.foldlM (step limit) builder = .ok last) :
    Token.closingFrom (builder.levels.length + 1) tokens = none := by
  induction tokens generalizing builder with
  | nil => rfl
  | cons token tokens ih =>
    obtain ⟨next, hnext, hrest⟩ := steps_cons_ok h
    obtain ⟨hopening, hclosing, hother⟩ := length_levels_step hnext
    have hnone := ih hrest
    rw [Token.closingFrom]
    split
    · rename_i hkind
      rw [hopening hkind] at hnone
      rw [hnone, Option.map_none]
    · rename_i hkind
      rw [hclosing hkind] at hnone
      have hopen := hclosing hkind
      rw [if_neg (by omega), Nat.add_sub_cancel, hnone, Option.map_none]
    · rename_i hkind hkind'
      rw [hother hkind hkind'] at hnone
      rw [hnone, Option.map_none]

/-- **A bracket is closed where the count comes down to none.**  Of the brackets that are open, some
are counted; if they are all closed in the end, there is a first token after which this is so. -/
theorem exists_closing {depth outer : Nat} (hdepth : 1 ≤ depth)
    (hheight : builder.levels.length = depth + outer)
    (h : tokens.foldlM (step limit) builder = .ok last) (hlast : last.levels.length ≤ outer) :
    ∃ inner closing rest middle, tokens = inner ++ closing :: rest ∧ closing.kind = .closing ∧
      Token.closingFrom depth tokens = some inner.length ∧ Token.closingFrom depth inner = none ∧
      inner.foldlM (step limit) builder = .ok middle ∧ middle.levels.length = outer + 1 ∧
      (closing :: rest).foldlM (step limit) middle = .ok last := by
  induction tokens generalizing builder depth with
  | nil =>
    cases h
    omega
  | cons token tokens ih =>
    obtain ⟨next, hnext, hrest⟩ := steps_cons_ok h
    obtain ⟨hopening, hclosing, hother⟩ := length_levels_step hnext
    by_cases hdone : token.kind = .closing ∧ depth = 1
    · obtain ⟨hkind, rfl⟩ := hdone
      refine ⟨[], token, tokens, builder, rfl, hkind, ?_, rfl, rfl, by omega, h⟩
      rw [Token.closingFrom, hkind]
      rfl
    · -- the token is read before the bracket is closed, and changes the count as it does the stack
      obtain ⟨depth', hdepth', hheight', hcount⟩ : ∃ depth', 1 ≤ depth' ∧
          next.levels.length = depth' + outer ∧
          ∀ tokens, Token.closingFrom depth (token :: tokens) =
            (Token.closingFrom depth' tokens).map (· + 1) := by
        cases hkind : token.kind with
        | opening =>
          have hnext := hopening hkind
          refine ⟨depth + 1, by omega, by omega, fun tokens => ?_⟩
          rw [Token.closingFrom, hkind]
        | closing =>
          have hnext := hclosing hkind
          have hmore : depth ≠ 1 := fun hone => hdone ⟨hkind, hone⟩
          refine ⟨depth - 1, by omega, by omega, fun tokens => ?_⟩
          rw [Token.closingFrom, hkind]
          exact if_neg (by omega)
        | _ =>
          have hnext := hother (by rw [hkind]; nofun) (by rw [hkind]; nofun)
          refine ⟨depth, hdepth, by omega, fun tokens => ?_⟩
          rw [Token.closingFrom, hkind]
      obtain ⟨inner, closing, rest, middle, rfl, hkind, hfound, hnone, hinner, hmiddle, hrest⟩ :=
        ih hdepth' hheight' hrest
      refine ⟨token :: inner, closing, rest, middle, rfl, hkind, ?_, ?_, steps_cons hnext hinner,
        hmiddle, hrest⟩
      · rw [hcount, hfound]
        rfl
      · rw [hcount, hnone]
        rfl

/-! ### One level at a time -/

theorem waiting_settle (builder : Builder) : builder.settle.waiting = [] := by
  obtain ⟨nodes, pending, levels⟩ := builder
  cases levels <;> rfl

/-- What waits in a bracket is dropped when it is closed. -/
theorem step_settle_of_closing (hkind : token.kind = .closing) :
    builder.settle.step limit token = builder.step limit token := by
  obtain ⟨nodes, pending, levels⟩ := builder
  unfold step
  rw [hkind]
  cases levels <;> rfl

/-- A bracket that is closed is one more node of the level where it was opened. -/
theorem step_closing_enter {children : List Node} {closing : Token}
    (hkind : closing.kind = .closing) {middle : Builder}
    (hmiddle : middle.settle = (builder.enter token).addAll children) :
    middle.step limit closing =
      .ok (builder.settle.add
        (.form children builder.waiting token.opensInline (some token.location))) := by
  have hlevels : middle.settle.levels =
      ⟨token.location, token.opensInline, builder.waiting, children.reverse, []⟩ ::
        builder.settle.levels := by
    rw [hmiddle, enter, addAll_cons_levels]
    simp
  have hrest : { middle.settle with levels := builder.settle.levels } = builder.settle := by
    rw [hmiddle, enter, addAll_cons_levels]
  rw [← step_settle_of_closing hkind, step_closing hkind hlevels, hrest, Level.close,
    List.reverse_reverse]

/-- A node that is added is the first of the nodes that are. -/
theorem descends_cons {nodes : List Node} {node : Node}
    (h : last.settle = (builder.settle.add node).settle.addAll nodes) :
    last.settle = builder.settle.addAll (node :: nodes) := by
  have hnone : (builder.settle.add node).waiting = [] := by
    rw [waiting_add, waiting_settle]
  rw [settle_eq hnone] at h
  exact h

/-- A bracket is opened and closed at one level: what stands in it is read at the level above, and
the descent looks for it at the right place. -/
theorem exists_boundary (hkind : token.kind = .opening)
    (hsteps : (token :: tokens).foldlM (step limit) builder = .ok last)
    (hclosed : Token.closingFrom 1 (token :: tokens) = none)
    (hheight : last.levels.length = builder.levels.length) :
    ∃ inner closing rest middle, tokens = inner ++ closing :: rest ∧ closing.kind = .closing ∧
      Token.boundary (token :: tokens) = some (inner.length + 1) ∧
      inner.foldlM (step limit) (builder.enter token) = .ok middle ∧
      Token.closingFrom 1 inner = none ∧
      middle.levels.length = (builder.enter token).levels.length ∧
      (closing :: rest).foldlM (step limit) middle = .ok last ∧
      Token.closingFrom 1 rest = none := by
  obtain ⟨next, hnext, hrest⟩ := steps_cons_ok hsteps
  obtain ⟨-, -, rfl⟩ | ⟨hother, -⟩ | ⟨hother, -⟩ | ⟨⟨hother, -⟩, -⟩ := step_cases hnext
  rotate_left
  · exact absurd (hkind.symm.trans hother) nofun
  · exact absurd (hkind.symm.trans hother) nofun
  · exact absurd hkind hother
  have hopen := (length_levels_step hnext).1 hkind
  obtain ⟨inner, closing, rest, middle, rfl, hclosing, hfound, hnone, hinner, hmiddle, hlast⟩ :=
    exists_closing (Nat.le_refl 1) (hopen.trans (Nat.add_comm _ 1)) hrest (Nat.le_of_eq hheight)
  refine ⟨inner, closing, rest, middle, rfl, hclosing, ?_, hinner, hnone,
    hmiddle.trans hopen.symm, hlast, ?_⟩
  · rw [Token.boundary, if_pos hkind, hfound]
    rfl
  · -- of two brackets to close, the first is closed by the token found
    rw [Token.closingFrom, hkind] at hclosed
    have htwo := Token.closingFrom_add (Nat.le_refl 1) (Nat.le_refl 1) (inner ++ closing :: rest)
    rw [Option.map_eq_none_iff.mp hclosed, hfound, Option.bind_some, drop_append_cons] at htwo
    exact Option.map_eq_none_iff.mp htwo.symm

/-- **A level of the stack has the nodes that the descent finds.**  The tokens are read at one
level, so the brackets among them that are opened are closed again, and no other bracket is. -/
theorem descends {pending : List String} (hpending : builder.waiting = pending)
    (hsteps : tokens.foldlM (step limit) builder = .ok last)
    (hclosed : Token.closingFrom 1 tokens = none)
    (hheight : last.levels.length = builder.levels.length) :
    ∃ nodes, Node.descend pending tokens = some nodes ∧
      last.settle = builder.settle.addAll nodes := by
  fun_induction Node.descend pending tokens generalizing builder last with
  | case1 pending =>
    cases hsteps
    exact ⟨[], rfl, rfl⟩
  | case2 pending token tokens hkind hboundary =>
    obtain ⟨inner, _, _, _, _, _, hfound, _⟩ := exists_boundary hkind hsteps hclosed hheight
    rw [hboundary] at hfound
    cases hfound
  | case3 pending token tokens hkind j hboundary ihinner ihrest =>
    obtain ⟨inner, closing, rest, middle, rfl, hclosing, hfound, hinner, hnone, hmiddle, hlast,
      hafter⟩ := exists_boundary hkind hsteps hclosed hheight
    cases hboundary.symm.trans hfound
    have htake : (inner ++ closing :: rest).take (inner.length + 1 - 1) = inner :=
      List.take_left
    rw [htake] at ihinner ⊢
    rw [drop_append_cons] at ihrest ⊢
    obtain ⟨children, hchildren, hlevel⟩ := ihinner rfl hinner hnone hmiddle
    obtain ⟨next, hnext, hrest⟩ := steps_cons_ok hlast
    cases (step_closing_enter hclosing hlevel).symm.trans hnext
    obtain ⟨nodes, hnodes, hadded⟩ := ihrest (by rw [waiting_add, waiting_settle]) hrest hafter
      (by rw [length_levels_add, Reading.length_settle, hheight])
    refine ⟨_, ?_, descends_cons hadded⟩
    rw [hchildren, hnodes, hpending]
    rfl
  | case4 pending token tokens hkind ih =>
    obtain ⟨next, hnext, hrest⟩ := steps_cons_ok hsteps
    obtain ⟨hother, -⟩ | ⟨hother, -⟩ | ⟨-, rfl⟩ | ⟨⟨-, -, hother⟩, -⟩ := step_cases hnext
    · exact absurd (hkind.symm.trans hother) nofun
    · exact absurd (hkind.symm.trans hother) nofun
    · have hnone := (Token.closingFrom_cons_eq_none (by rw [hkind]; nofun)
        (by rw [hkind]; nofun)).mp hclosed
      obtain ⟨nodes, hnodes, hadded⟩ := ih (by rw [waiting_await, hpending]) hrest hnone
        (by rw [length_levels_await, hheight])
      exact ⟨nodes, hnodes, by rw [hadded, settle_await]⟩
    · exact absurd hkind hother
  | case5 pending token tokens name hname hopening hquote ih =>
    obtain ⟨next, hnext, hrest⟩ := steps_cons_ok hsteps
    obtain ⟨hkind, -⟩ | ⟨hkind, -⟩ | ⟨hkind, -⟩ |
      ⟨⟨-, hclosing, -⟩, ⟨name', hname', -, rfl⟩ | ⟨hnone, -⟩⟩ := step_cases hnext
    · exact absurd hkind hopening
    · exact absurd hclosed (Token.closingFrom_one_cons_ne_none tokens hkind)
    · exact absurd hkind hquote
    · cases hname.symm.trans hname'
      have hnone := (Token.closingFrom_cons_eq_none hopening hclosing).mp hclosed
      obtain ⟨nodes, hnodes, hadded⟩ := ih (by rw [waiting_await, hpending]) hrest hnone
        (by rw [length_levels_await, hheight])
      exact ⟨nodes, hnodes, by rw [hadded, settle_await]⟩
    · cases hname.symm.trans hnone
  | case6 pending token tokens hname hopening hquote ih =>
    obtain ⟨next, hnext, hrest⟩ := steps_cons_ok hsteps
    obtain ⟨hkind, -⟩ | ⟨hkind, -⟩ | ⟨hkind, -⟩ |
      ⟨⟨-, hclosing, -⟩, ⟨name, hname', -⟩ | ⟨-, rfl⟩⟩ := step_cases hnext
    · exact absurd hkind hopening
    · exact absurd hclosed (Token.closingFrom_one_cons_ne_none tokens hkind)
    · exact absurd hkind hquote
    · cases hname.symm.trans hname'
    · have hnone := (Token.closingFrom_cons_eq_none hopening hclosing).mp hclosed
      obtain ⟨nodes, hnodes, hadded⟩ := ih (by rw [waiting_add, waiting_settle]) hrest hnone
        (by rw [length_levels_add, Reading.length_settle, hheight])
      refine ⟨_, ?_, descends_cons hadded⟩
      rw [hnodes, hpending]
      rfl

end Builder

/-! ### Whole sequences -/

namespace Node

/-- There are trees if all tokens can be read and no bracket is left open. -/
theorem build_eq_ok_iff {limit : Nat} {tokens : List Token} {nodes : List Node} :
    build limit tokens = .ok nodes ↔ ∃ last : Builder,
      tokens.foldlM (Builder.step limit) {} = .ok last ∧ last.levels = [] ∧
        nodes = last.nodes.reverse := by
  unfold build
  cases hsteps : tokens.foldlM (Builder.step limit) {} with
  | error misread => exact ⟨nofun, fun ⟨_, h, _⟩ => nomatch h⟩
  | ok last =>
    show last.finish = .ok nodes ↔ _
    unfold Builder.finish
    constructor
    · intro h
      split at h
      · cases h
      · rename_i hlevels
        exact ⟨last, rfl, List.getLast?_eq_none_iff.mp hlevels, (Except.ok.inj h).symm⟩
    · rintro ⟨last', hlast, hlevels, rfl⟩
      cases hlast
      rw [hlevels]
      rfl

/-- **The trees that the builder makes are those of the recursive descent.**  In particular, each
bracket that the descent comes to is closed. -/
theorem descend_eq_of_build {limit : Nat} {tokens : List Token} {nodes : List Node}
    (h : build limit tokens = .ok nodes) : descend [] tokens = some nodes := by
  obtain ⟨last, hsteps, hlevels, rfl⟩ := build_eq_ok_iff.mp h
  obtain ⟨found, hfound, hadded⟩ := Builder.descends rfl hsteps
    (Builder.closingFrom_eq_none hsteps) (by rw [hlevels])
  have hnodes : last.nodes = found.reverse := by
    have hsettle : last.settle.nodes = last.nodes := by
      rw [Builder.settle, hlevels]
    have hall := congrArg Builder.nodes (Builder.addAll_nil_levels [] [] found)
    rw [← hsettle, hadded]
    exact hall.trans (List.append_nil _)
  rw [hnodes, List.reverse_reverse]
  exact hfound

/-- A property that waits for a bracket becomes its own, and one that waits in a bracket is dropped
with it: the tokens of `^p #(a '() ^q) nil '`. -/
theorem descend_dropped_properties :
    let tokens : List Token := [
      ⟨.identifier, "^p", ⟨"", 1, 1⟩⟩, ⟨.opening, "#(", ⟨"", 1, 4⟩⟩,
      ⟨.identifier, "a", ⟨"", 1, 6⟩⟩, ⟨.quote, "'", ⟨"", 1, 8⟩⟩,
      ⟨.opening, "(", ⟨"", 1, 9⟩⟩, ⟨.closing, ")", ⟨"", 1, 10⟩⟩,
      ⟨.identifier, "^q", ⟨"", 1, 12⟩⟩, ⟨.closing, ")", ⟨"", 1, 14⟩⟩,
      ⟨.nil, "nil", ⟨"", 1, 16⟩⟩, ⟨.quote, "'", ⟨"", 1, 20⟩⟩]
    let nodes : List Node := [
      .form [.literal ⟨.identifier, "a", ⟨"", 1, 6⟩⟩ [],
        .form [] [quotedProperty] false (some ⟨"", 1, 9⟩)] ["p"] true (some ⟨"", 1, 4⟩),
      .literal ⟨.nil, "nil", ⟨"", 1, 16⟩⟩ []]
    build 2 tokens = .ok nodes ∧ descend [] tokens = some nodes := by
  intro tokens nodes
  have hbuild : build 2 tokens = .ok nodes := rfl
  exact ⟨hbuild, descend_eq_of_build hbuild⟩

end Node

end FrameLisp
