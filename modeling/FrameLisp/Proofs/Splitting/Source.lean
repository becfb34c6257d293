import FrameLisp.Node.Builder
import FrameLisp.Proofs.Descent

/-!
# Reading a source in two parts

A source may be split at a line break: the tokens of the whole are those of the first part and
after them those of the second, further down by as many lines as the first part has
(`Token.lex_newline`).  Only a string that is left open in the first part would take in more.

The trees are those of the parts as well (`Node.build_append`), unless the first part ends with a
property that waits for what it is put on.  The builder that has read the first part holds its trees
and nothing else: properties wait in the innermost bracket only (`Builder.Tidy`), and none waits
after a token that is no property.  From there it does what an empty builder does
(`Builder.step_downAfter`).
-/

namespace FrameLisp

/-! ### Moving down -/

/-- The place some lines further down. -/
def Place.down (lines : Nat) (place : Place) : Place := { place with line := place.line + lines }

/-- The location some lines further down. -/
def Location.down (lines : Nat) (location : Location) : Location :=
  { location with line := location.line + lines }

/-- The token some lines further down. -/
def Token.down (lines : Nat) (token : Token) : Token :=
  { token with location := token.location.down lines }

/-- What was found some lines further down. -/
def Finding.down (lines : Nat) : Finding → Finding
  | .token found => .token (found.down lines)
  | .notice (.stray c location) => .notice (.stray c (location.down lines))
  | .notice (.unterminated location) => .notice (.unterminated (location.down lines))

/-- The node some lines further down. -/
def Node.down (lines : Nat) : Node → Node
  | literal token properties => literal (token.down lines) properties
  | form children properties inline location =>
    form (children.map (down lines)) properties inline (location.map (Location.down lines))

@[simp]
theorem Token.kind_down (lines : Nat) (token : Token) : (token.down lines).kind = token.kind := rfl

@[simp]
theorem Token.property?_down (lines : Nat) (token : Token) :
    (token.down lines).property? = token.property? := rfl

namespace Place

theorem after_down (lines : Nat) (place : Place) (cs : List Char) :
    (place.down lines).after cs = (place.after cs).down lines := by
  induction cs generalizing place with
  | nil => rfl
  | cons c cs ih =>
    have hadvance : (place.down lines).advance c = (place.advance c).down lines := by
      unfold advance down
      split
      · rw [Place.mk.injEq]
        exact ⟨Nat.add_right_comm _ _ _, rfl⟩
      · rfl
    rw [after_cons, after_cons, hadvance, ih]

/-- The line after reading a text. -/
theorem line_after (place : Place) (cs : List Char) :
    (place.after cs).line = place.line + cs.count '\n' := by
  induction cs generalizing place with
  | nil => rfl
  | cons c cs ih =>
    rw [after_cons, ih, List.count_cons]
    unfold advance
    split
    · rename_i hc
      rw [if_pos (beq_iff_eq.mpr hc)]
      exact Nat.add_right_comm _ _ _
    · rename_i hc
      rw [if_neg (by simpa using hc)]
      rfl

/-- After a line break one is at the start of a line. -/
theorem after_newline (cs : List Char) :
    start.after (cs ++ ['\n']) = start.down (cs.count '\n' + 1) := by
  rw [after_append, after_cons, after_nil]
  unfold advance down
  rw [if_pos rfl, line_after, Place.mk.injEq]
  exact ⟨Nat.add_assoc _ _ _, rfl⟩

end Place

/-! ### Lexemes before a line break -/

namespace Lexeme

variable {c : Char} {rest : List Char}

theorem takeWhile_newline {part : Char → Bool} (h : part '\n' = false) (cs ds : List Char) :
    (cs ++ '\n' :: ds).takeWhile part = cs.takeWhile part := by
  induction cs with
  | nil => exact List.takeWhile_cons_of_neg (by rw [h]; nofun)
  | cons c cs ih => rw [List.cons_append, List.takeWhile_cons, List.takeWhile_cons, ih]

theorem run_newline (kind : List Char → Token.Kind) {part : Char → Bool} (h : part '\n' = false)
    (c : Char) (cs ds : List Char) : run kind part c (cs ++ '\n' :: ds) = run kind part c cs := by
  unfold run
  rw [takeWhile_newline h]

/-- A comment ends with its line, or takes the line break that ends the text. -/
theorem lineLength_newline (cs ds : List Char) :
    lineLength (cs ++ '\n' :: ds) = lineLength cs ∨
      lineLength cs = cs.length ∧ lineLength (cs ++ '\n' :: ds) = cs.length + 1 := by
  have htaken : (cs.takeWhile (· ≠ '\n')).length ≤ cs.length := (List.takeWhile_sublist _).length_le
  unfold lineLength
  rw [takeWhile_newline (by decide), List.length_append, List.length_cons]
  omega

/-- A character that starts no escape is no backslash. -/
theorem ne_backslash (hlast : c = '\\' → rest = [] → False)
    (hescape : ∀ e more, c = '\\' → rest = e :: more → False) : c ≠ '\\' := by
  rintro rfl
  cases rest with
  | nil => exact hlast rfl rfl
  | cons e rest => exact hescape e rest rfl rfl

/-- A string that has an end has it whatever follows. -/
theorem stringBody_append {cs : List Char} {body : List Char × Nat} (h : stringBody cs = some body)
    (more : List Char) : stringBody (cs ++ more) = some body := by
  fun_induction stringBody cs generalizing body with
  | case1 => cases h
  | case2 rest => exact h
  | case3 => cases h
  | case4 e rest ih =>
    obtain ⟨inner, hinner, rfl⟩ := Option.map_eq_some_iff.mp h
    rw [List.cons_append, List.cons_append, stringBody, ih hinner]
    rfl
  | case5 c rest hquote hlast hescape ih =>
    obtain ⟨inner, hinner, rfl⟩ := Option.map_eq_some_iff.mp h
    exact stringBody_cons hquote (ne_backslash hlast hescape) (ih hinner)

theorem first_comment (hinline : ¬ (c = '#' ∧ rest.head? = some '(')) (h : c = ';' ∨ c = '#') :
    first c rest = (.blank, lineLength rest) := by
  rw [first, if_neg hinline, if_pos h]

/-- **A lexeme before a line break is the same whatever follows**, unless it is a string without an
end; only a comment at the end takes the line break as well. -/
theorem first_newline (h : (first c rest).1 ≠ .unterminated) (ds : List Char) :
    first c (rest ++ '\n' :: ds) = first c rest ∨
      first c rest = (.blank, rest.length) ∧
        first c (rest ++ '\n' :: ds) = (.blank, rest.length + 1) := by
  have hhead : (rest ++ '\n' :: ds).head? = some '(' ↔ rest.head? = some '(' := by
    cases rest with
    | nil => exact ⟨nofun, nofun⟩
    | cons d rest => exact Iff.rfl
  have hdigit : (rest ++ '\n' :: ds).head?.any Char.isDigit = rest.head?.any Char.isDigit := by
    cases rest with
    | nil => rfl
    | cons d rest => rfl
  by_cases hinline : c = '#' ∧ rest.head? = some '('
  · left
    rw [first, first, if_pos hinline, if_pos ⟨hinline.1, hhead.mpr hinline.2⟩]
  have hinline' : ¬ (c = '#' ∧ (rest ++ '\n' :: ds).head? = some '(') :=
    fun hwhole => hinline ⟨hwhole.1, hhead.mp hwhole.2⟩
  by_cases hcomment : c = ';' ∨ c = '#'
  · rw [first_comment hinline hcomment, first_comment hinline' hcomment]
    rcases lineLength_newline rest ds with hsame | ⟨hrest, hwhole⟩
    · exact .inl (by rw [hsame])
    · exact .inr ⟨by rw [hrest], by rw [hwhole]⟩
  by_cases hstring : c = '"'
  · subst hstring
    left
    cases hbody : stringBody rest with
    | none =>
      exact absurd (congrArg Prod.fst (first_unterminated hbody)) h
    | some body =>
      obtain ⟨body, taken⟩ := body
      rw [first_string hbody, first_string (stringBody_append hbody _)]
  -- all else that is looked at is the same in both
  left
  unfold first
  rw [if_neg hinline, if_neg hinline', if_neg hcomment, if_neg hcomment, if_neg hstring,
    if_neg hstring, run_newline _ (by decide), run_newline _ (by decide), hdigit]

theorem stringBody_taken_le {cs : List Char} {body : List Char × Nat}
    (h : stringBody cs = some body) : body.2 ≤ cs.length := by
  fun_induction stringBody cs generalizing body with
  | case1 => cases h
  | case2 rest =>
    cases h
    exact Nat.succ_le_succ (Nat.zero_le _)
  | case3 => cases h
  | case4 e rest ih =>
    obtain ⟨inner, hinner, rfl⟩ := Option.map_eq_some_iff.mp h
    exact Nat.add_le_add_right (ih hinner) 2
  | case5 c rest hquote hlast hescape ih =>
    obtain ⟨inner, hinner, rfl⟩ := Option.map_eq_some_iff.mp h
    exact Nat.add_le_add_right (ih hinner) 1

/-- A lexeme takes no more than there is. -/
theorem first_taken_le (c : Char) (rest : List Char) : (first c rest).2 ≤ rest.length := by
  fun_cases first c rest with
  | case1 hinline =>
    cases rest with
    | nil => cases hinline.2
    | cons d rest => exact Nat.succ_le_succ (Nat.zero_le _)
  | case2 => exact Nat.min_le_right _ _
  | case3 => exact (List.takeWhile_sublist _).length_le
  | case4 => exact (List.takeWhile_sublist _).length_le
  | case5 => exact (List.takeWhile_sublist _).length_le
  | case6 _ _ _ _ _ _ text taken hbody => exact stringBody_taken_le hbody
  | case7 => exact Nat.le_refl _
  | _ => exact Nat.zero_le _

end Lexeme

/-! ### Tokens -/

namespace Token

theorem findings_down (lines : Nat) (location : Location) (lexeme : Lexeme) :
    lexeme.findings (location.down lines) =
      (lexeme.findings location).map (Finding.down lines) := by
  cases lexeme <;> rfl

/-- What is found further down is further down. -/
theorem scan_down (file : String) (lines : Nat) (place : Place) (cs : List Char) :
    scan file (place.down lines) cs = (scan file place cs).map (Finding.down lines) := by
  fun_induction scan file place cs with
  | case1 place =>
    rw [scan]
    rfl
  | case2 place c rest found ih =>
    have hfindings := findings_down lines (place.inFile file) found.1
    rw [scan, List.map_append, ← ih, ← hfindings, Place.after_down]
    rfl

/-- Nothing was left out for want of a closing quote. -/
def Terminated (findings : List Finding) : Prop :=
  ∀ location, .notice (.unterminated location) ∉ findings

/-- **A text before a line break is read by itself.** -/
theorem scan_newline (file : String) (place : Place) (cs ds : List Char)
    (h : Terminated (scan file place cs)) :
    scan file place (cs ++ '\n' :: ds) =
      scan file place cs ++ scan file (place.after (cs ++ ['\n'])) ds := by
  fun_induction scan file place cs with
  | case1 place =>
    rw [List.nil_append, scan]
    rfl
  | case2 place c rest found ih =>
    have hfound : found.1 ≠ .unterminated := by
      intro hfound
      refine h (place.inFile file) (List.mem_append_left _ ?_)
      rw [hfound]
      exact List.mem_singleton.mpr rfl
    have hrest :
        Terminated (scan file (place.after (c :: rest.take found.2)) (rest.drop found.2)) :=
      fun location hmem => h location (List.mem_append_right _ hmem)
    have htaken : found.2 ≤ rest.length := Lexeme.first_taken_le c rest
    rcases Lexeme.first_newline hfound ds with hsame | ⟨hcomment, hwhole⟩
    · have hplace : (place.after (c :: rest.take found.2)).after (rest.drop found.2 ++ ['\n']) =
          place.after (c :: rest ++ ['\n']) := by
        rw [← Place.after_append, List.cons_append, ← List.append_assoc, List.take_append_drop]
        rfl
      rw [List.cons_append, scan, hsame, List.take_append_of_le_length htaken,
        List.drop_append_of_le_length htaken, ih hrest, hplace, List.append_assoc]
    · -- a comment at the end, which takes the line break as well
      have hempty : scan file (place.after (c :: rest.take found.2)) (rest.drop found.2) = [] := by
        have hall : found.2 = rest.length := congrArg Prod.snd hcomment
        rw [hall, List.drop_length, scan]
      have hblank : found.1 = .blank := congrArg Prod.fst hcomment
      have htake : (rest ++ '\n' :: ds).take (rest.length + 1) = rest ++ ['\n'] := by
        rw [List.append_cons]
        exact List.take_left' List.length_append
      rw [List.cons_append, scan, hwhole, htake, drop_append_cons, hempty, hblank]
      rfl

/-- The findings of a source that is split at a line break. -/
theorem findings_newline {a file : String} (h : Terminated (findings a file)) (b : String) :
    findings (a ++ "\n" ++ b) file =
      findings a file ++ (findings b file).map (Finding.down (a.toList.count '\n' + 1)) := by
  unfold findings
  rw [String.append_assoc, String.toList_append, String.toList_append]
  show scan file .start (a.toList ++ '\n' :: b.toList) = _
  rw [scan_newline file .start a.toList b.toList h, Place.after_newline, scan_down]

/-- **The tokens of a source that is split at a line break.** -/
theorem lex_newline {a file : String} (h : Terminated (findings a file)) (b : String) :
    lex (a ++ "\n" ++ b) file =
      lex a file ++ (lex b file).map (Token.down (a.toList.count '\n' + 1)) := by
  unfold lex
  rw [findings_newline h, List.filterMap_append, List.filterMap_map, List.map_filterMap]
  congr 2
  funext finding
  cases finding with
  | token found => rfl
  | notice notice => cases notice <;> rfl

end Token

/-! ### Trees -/

/-- The bracket some lines further down, with all that has been read in it. -/
def Level.down (lines : Nat) (level : Level) : Level where
  location := level.location.down lines
  inline := level.inline
  properties := level.properties
  nodes := level.nodes.map (Node.down lines)
  pending := level.pending

namespace Builder

variable {builder next last : Builder} {limit : Nat} {token : Token} {tokens : List Token}

/-- The builder some lines further down, after nodes that have been read before. -/
def downAfter (lines : Nat) (nodes : List Node) (builder : Builder) : Builder where
  nodes := builder.nodes.map (Node.down lines) ++ nodes
  pending := builder.pending
  levels := builder.levels.map (Level.down lines)

/-! #### Further down -/

variable (lines : Nat) (nodes : List Node)

theorem waiting_downAfter (builder : Builder) :
    (builder.downAfter lines nodes).waiting = builder.waiting := by
  obtain ⟨read, pending, levels⟩ := builder
  cases levels <;> rfl

theorem settle_downAfter (builder : Builder) :
    (builder.downAfter lines nodes).settle = builder.settle.downAfter lines nodes := by
  obtain ⟨read, pending, levels⟩ := builder
  cases levels <;> rfl

theorem await_downAfter (builder : Builder) (property : String) :
    (builder.downAfter lines nodes).await property =
      (builder.await property).downAfter lines nodes := by
  obtain ⟨read, pending, levels⟩ := builder
  cases levels <;> rfl

theorem add_downAfter (builder : Builder) (node : Node) :
    (builder.downAfter lines nodes).add (node.down lines) =
      (builder.add node).downAfter lines nodes := by
  obtain ⟨read, pending, levels⟩ := builder
  cases levels <;> rfl

theorem enter_downAfter (builder : Builder) (token : Token) :
    (builder.downAfter lines nodes).enter (token.down lines) =
      (builder.enter token).downAfter lines nodes := by
  unfold enter
  rw [waiting_downAfter, settle_downAfter]
  rfl

theorem close_down (level : Level) : (level.down lines).close = level.close.down lines := by
  unfold Level.close
  rw [Node.down, List.map_reverse]
  rfl

/-- **A token does further down what it does above**, whatever was read before. -/
theorem step_downAfter (h : builder.step limit token = .ok next) :
    (builder.downAfter lines nodes).step limit (token.down lines) =
      .ok (next.downAfter lines nodes) := by
  obtain ⟨hkind, hroom, rfl⟩ | ⟨hkind, level, levels, hlevels, rfl⟩ | ⟨hkind, rfl⟩ |
    ⟨hkind, ⟨name, hname, hne, rfl⟩ | ⟨hname, rfl⟩⟩ := step_cases h
  all_goals rw [← Token.kind_down lines token] at hkind
  · have hroom' : (builder.downAfter lines nodes).levels.length < limit := by
      rw [downAfter, List.length_map]
      exact hroom
    rw [step_opening hkind hroom', enter_downAfter]
  · have hlevels' : (builder.downAfter lines nodes).levels =
        level.down lines :: levels.map (Level.down lines) := by
      rw [downAfter, hlevels, List.map_cons]
    rw [step_closing hkind hlevels', close_down, ← add_downAfter]
    rfl
  · rw [← await_downAfter, step, hkind]
  · rw [step_word hkind, Token.property?_down, hname, ← await_downAfter]
    split
    · rename_i hempty
      exact absurd (Option.some.inj hempty) hne
    · rename_i hsome
      rw [Option.some.inj hsome]
    · rename_i hnone
      cases hnone
  · rw [step_word hkind, Token.property?_down, hname, waiting_downAfter, settle_downAfter,
      ← add_downAfter, Node.down]

theorem steps_downAfter (h : tokens.foldlM (step limit) builder = .ok last) :
    (tokens.map (Token.down lines)).foldlM (step limit) (builder.downAfter lines nodes) =
      .ok (last.downAfter lines nodes) := by
  induction tokens generalizing builder with
  | nil =>
    cases h
    rfl
  | cons token tokens ih =>
    obtain ⟨next, hnext, hrest⟩ := steps_cons_ok h
    exact steps_cons (step_downAfter lines nodes hnext) (ih hrest)

/-! #### Nothing waits -/

/-- Properties wait in the innermost bracket only. -/
def Tidy (builder : Builder) : Prop :=
  match builder.levels with
  | [] => True
  | _ :: levels => builder.pending = [] ∧ ∀ level ∈ levels, level.pending = []

theorem Tidy.enter (h : builder.Tidy) (token : Token) : (builder.enter token).Tidy := by
  obtain ⟨read, pending, levels⟩ := builder
  cases levels with
  | nil => exact ⟨rfl, nofun⟩
  | cons level levels => exact ⟨h.1, List.forall_mem_cons.mpr ⟨rfl, h.2⟩⟩

theorem Tidy.await (h : builder.Tidy) (property : String) : (builder.await property).Tidy := by
  obtain ⟨read, pending, levels⟩ := builder
  cases levels with
  | nil => trivial
  | cons level levels => exact h

theorem Tidy.settle (h : builder.Tidy) : builder.settle.Tidy := by
  obtain ⟨read, pending, levels⟩ := builder
  cases levels with
  | nil => trivial
  | cons level levels => exact h

theorem Tidy.add (h : builder.Tidy) (node : Node) : (builder.add node).Tidy := by
  obtain ⟨read, pending, levels⟩ := builder
  cases levels with
  | nil => trivial
  | cons level levels => exact h

/-- Where a bracket has been closed, nothing waits. -/
theorem Tidy.leave {read : List Node} {pending : List String} {level : Level} {levels : List Level}
    (h : Tidy ⟨read, pending, level :: levels⟩) :
    Tidy ⟨read, pending, levels⟩ ∧ waiting ⟨read, pending, levels⟩ = [] := by
  obtain ⟨hpending, hlevels⟩ := h
  cases levels with
  | nil => exact ⟨trivial, congrArg List.reverse hpending⟩
  | cons outer levels =>
    obtain ⟨houter, hrest⟩ := List.forall_mem_cons.mp hlevels
    exact ⟨⟨hpending, hrest⟩, congrArg List.reverse houter⟩

/-- **After a token that is no property, nothing waits.** -/
theorem Tidy.step (htidy : builder.Tidy) (h : builder.step limit token = .ok next) :
    next.Tidy ∧ (token.kind ≠ .quote → token.property? = none → next.waiting = []) := by
  obtain ⟨-, -, rfl⟩ | ⟨-, level, levels, hlevels, rfl⟩ | ⟨hkind, rfl⟩ |
    ⟨-, ⟨name, hname, -, rfl⟩ | ⟨-, rfl⟩⟩ := step_cases h
  · exact ⟨htidy.enter token, fun _ _ => rfl⟩
  · obtain ⟨read, pending, _⟩ := builder
    cases hlevels
    obtain ⟨hleft, hnone⟩ := htidy.leave
    exact ⟨hleft.add _, fun _ _ => (waiting_add _ _).trans hnone⟩
  · exact ⟨htidy.await _, fun hother => absurd hkind hother⟩
  · refine ⟨htidy.await _, fun _ hnone => ?_⟩
    cases hname.symm.trans hnone
  · exact ⟨htidy.settle.add _, fun _ _ => (waiting_add _ _).trans (waiting_settle _)⟩

theorem Tidy.steps (htidy : builder.Tidy)
    (h : tokens.foldlM (Builder.step limit) builder = .ok last) : last.Tidy := by
  induction tokens generalizing builder with
  | nil =>
    cases h
    exact htidy
  | cons token tokens ih =>
    obtain ⟨next, hnext, hrest⟩ := steps_cons_ok h
    exact ih (htidy.step hnext).1 hrest

end Builder

/-- The tokens do not end with a property that waits for what follows. -/
def Token.Settled (tokens : List Token) : Prop :=
  ∀ token ∈ tokens.getLast?, token.kind ≠ .quote ∧ token.property? = none

namespace Builder

variable {builder last : Builder} {limit : Nat} {tokens : List Token}

theorem waiting_of_settled (htokens : Token.Settled tokens)
    (h : tokens.foldlM (step limit) {} = .ok last) : last.waiting = [] := by
  rcases List.eq_nil_or_concat tokens with rfl | ⟨before, token, rfl⟩
  · cases h
    rfl
  · rw [List.concat_eq_append] at h htokens
    rw [List.foldlM_append] at h
    cases hbefore : before.foldlM (step limit) {} with
    | error misread =>
      rw [hbefore] at h
      cases h
    | ok middle =>
      rw [hbefore] at h
      obtain ⟨next, hnext, hdone⟩ := steps_cons_ok h
      cases hdone
      have hempty : Tidy {} := trivial
      have htidy : middle.Tidy := hempty.steps hbefore
      obtain ⟨hkind, hname⟩ := htokens token (by rw [List.getLast?_concat]; rfl)
      exact (htidy.step hnext).2 hkind hname

end Builder

namespace Node

/-- **The trees of a source that is split at a line break.** -/
theorem build_append {limit lines : Nat} {first second : List Token} {trees trees' : List Node}
    (hsettled : Token.Settled first) (hfirst : build limit first = .ok trees)
    (hsecond : build limit second = .ok trees') :
    build limit (first ++ second.map (Token.down lines)) =
      .ok (trees ++ trees'.map (Node.down lines)) := by
  obtain ⟨last, hsteps, hlevels, rfl⟩ := build_eq_ok_iff.mp hfirst
  obtain ⟨last', hsteps', hlevels', rfl⟩ := build_eq_ok_iff.mp hsecond
  have hwaiting := Builder.waiting_of_settled hsettled hsteps
  have hstart : last = Builder.downAfter lines last.nodes {} := by
    obtain ⟨nodes, pending, levels⟩ := last
    cases hlevels
    have hpending : pending = [] := List.reverse_eq_nil_iff.mp hwaiting
    rw [hpending]
    rfl
  refine build_eq_ok_iff.mpr ⟨last'.downAfter lines last.nodes, ?_, ?_, ?_⟩
  · refine Builder.steps_append hsteps ?_
    rw [hstart]
    exact Builder.steps_downAfter lines _ hsteps'
  · rw [Builder.downAfter, hlevels', List.map_nil]
  · rw [Builder.downAfter, List.reverse_append, List.map_reverse]

end Node

end FrameLisp
