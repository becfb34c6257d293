import FrameLisp.Proofs.Descent
import Mathlib.Data.List.Induction

/-!
# Balanced brackets

Which sequences of tokens have trees can be said by counting: in no prefix are more brackets closed
than opened, in none are more than the limit open, in the whole as many are closed as are opened,
and no `^` stands alone (`Token.Balanced`).  Where that fails, the builder blames a token: the first
that it refuses, given how many brackets are open before it (`Token.Refused`), or else, at the end,
the outermost bracket that is still open (`Token.Blamed`).

The stack of the builder is tied to the counts by an invariant over what has been read
(`Builder.Tallies`): it is as high as brackets are open, and at its bottom is the last bracket that
was opened while none was, since when one has been open all along.  That is the first bracket for
which `Token.boundary` finds no end, because the scan of `Token.boundary` counts the same brackets
(`Token.closingFrom_eq_none_iff`).
-/

namespace FrameLisp

namespace Token

/-! ### Counting brackets -/

/-- How many brackets are opened. -/
def opened (tokens : List Token) : Nat :=
  tokens.countP fun token => token.kind = .opening

/-- How many brackets are closed. -/
def closed (tokens : List Token) : Nat :=
  tokens.countP fun token => token.kind = .closing

variable {token : Token} {tokens : List Token} {depth i j : Nat}

@[simp]
theorem opened_nil : opened [] = 0 := rfl

@[simp]
theorem closed_nil : closed [] = 0 := rfl

theorem counts_append (tokens more : List Token) :
    opened (tokens ++ more) = opened tokens + opened more ∧
      closed (tokens ++ more) = closed tokens + closed more :=
  ⟨List.countP_append, List.countP_append⟩

/-- What one token counts. -/
theorem counts_singleton (token : Token) :
    opened [token] = (if token.kind = .opening then 1 else 0) ∧
      closed [token] = if token.kind = .closing then 1 else 0 := by
  simp [opened, closed, List.countP_cons]

/-- One token more in front. -/
theorem counts_cons (token : Token) (tokens : List Token) :
    opened (token :: tokens) = opened [token] + opened tokens ∧
      closed (token :: tokens) = closed [token] + closed tokens :=
  counts_append [token] tokens

/-- One token more at the end. -/
theorem counts_take_succ (h : tokens[i]? = some token) :
    opened (tokens.take (i + 1)) = opened (tokens.take i) + opened [token] ∧
      closed (tokens.take (i + 1)) = closed (tokens.take i) + closed [token] := by
  rw [List.take_add_one, h]
  exact counts_append (tokens.take i) [token]

/-- What stands before an index, and some of what stands from there on. -/
theorem counts_take_add (tokens : List Token) (i n : Nat) :
    opened (tokens.take (i + n)) = opened (tokens.take i) + opened ((tokens.drop i).take n) ∧
      closed (tokens.take (i + n)) = closed (tokens.take i) + closed ((tokens.drop i).take n) := by
  rw [List.take_add]
  exact counts_append (tokens.take i) ((tokens.drop i).take n)

/-! ### Where a bracket ends -/

/-- The scan ends at a token, or goes on and counts it. -/
theorem closingFrom_cons (hdepth : 1 ≤ depth) (token : Token) (tokens : List Token) :
    (token.kind = .closing ∧ depth = 1) ∧ closingFrom depth (token :: tokens) = some 0 ∨
      ∃ depth', 1 ≤ depth' ∧ depth' + closed [token] = depth + opened [token] ∧
        closingFrom depth (token :: tokens) = (closingFrom depth' tokens).map (· + 1) := by
  obtain ⟨hopened, hclosed⟩ := counts_singleton token
  rw [closingFrom, hopened, hclosed]
  split
  · rename_i hkind
    exact .inr ⟨depth + 1, by omega, by simp [hkind], rfl⟩
  · rename_i hkind
    by_cases hlast : depth ≤ 1
    · exact .inl ⟨⟨hkind, by omega⟩, if_pos hlast⟩
    · refine .inr ⟨depth - 1, by omega, ?_, if_neg hlast⟩
      simp only [hkind, reduceCtorEq, if_false, if_true]
      omega
  · rename_i hopening hclosing
    exact .inr ⟨depth, hdepth, by rw [if_neg hopening, if_neg hclosing], rfl⟩

/-- The scan finds no end if and only if some bracket is open after each prefix. -/
theorem closingFrom_eq_none_iff (hdepth : 1 ≤ depth) :
    closingFrom depth tokens = none ↔
      ∀ n, closed (tokens.take n) < opened (tokens.take n) + depth := by
  induction tokens generalizing depth with
  | nil =>
    refine ⟨fun _ n => ?_, fun _ => rfl⟩
    rw [List.take_nil, closed_nil, opened_nil]
    omega
  | cons token tokens ih =>
    obtain ⟨⟨hkind, rfl⟩, hfound⟩ | ⟨depth', hdepth', hcount, hnext⟩ :=
      closingFrom_cons hdepth token tokens
    · rw [hfound]
      refine ⟨nofun, fun h => ?_⟩
      obtain ⟨hopened, hclosed⟩ := counts_singleton token
      have hfirst := h 1
      rw [List.take_succ_cons, List.take_zero, hopened, hclosed, hkind] at hfirst
      simp at hfirst
    · rw [hnext, Option.map_eq_none_iff, ih hdepth']
      -- the prefixes are the empty one and those that start with the token
      have hbefore : ∀ n, closed ((token :: tokens).take (n + 1)) <
          opened ((token :: tokens).take (n + 1)) + depth ↔
            closed (tokens.take n) < opened (tokens.take n) + depth' := by
        intro n
        obtain ⟨hopened, hclosed⟩ := counts_cons token (tokens.take n)
        rw [List.take_succ_cons]
        omega
      refine ⟨fun h n => ?_, fun h n => (hbefore n).mp (h (n + 1))⟩
      cases n with
      | zero =>
        rw [List.take_zero, closed_nil, opened_nil]
        omega
      | succ n => exact (hbefore n).mpr (h n)

/-- Where the scan ends, all brackets are closed that were to be, and some was open before. -/
theorem of_closingFrom_eq_some (hdepth : 1 ≤ depth) (h : closingFrom depth tokens = some j) :
    j < tokens.length ∧ closed (tokens.take (j + 1)) = opened (tokens.take (j + 1)) + depth ∧
      ∀ n ≤ j, closed (tokens.take n) < opened (tokens.take n) + depth := by
  induction tokens generalizing depth j with
  | nil => cases h
  | cons token tokens ih =>
    obtain ⟨⟨hkind, rfl⟩, hfound⟩ | ⟨depth', hdepth', hcount, hnext⟩ :=
      closingFrom_cons hdepth token tokens
    · cases hfound.symm.trans h
      refine ⟨Nat.succ_pos _, ?_, fun n hn => ?_⟩
      · obtain ⟨hopened, hclosed⟩ := counts_singleton token
        rw [List.take_succ_cons, List.take_zero, hopened, hclosed, hkind]
        rfl
      · rw [Nat.le_zero.mp hn, List.take_zero, closed_nil, opened_nil]
        exact Nat.one_pos
    · rw [hnext] at h
      obtain ⟨j, hj, rfl⟩ := Option.map_eq_some_iff.mp h
      obtain ⟨hlength, hlast, hbefore⟩ := ih hdepth' hj
      refine ⟨Nat.succ_lt_succ hlength, ?_, fun n hn => ?_⟩
      · obtain ⟨hopened, hclosed⟩ := counts_cons token (tokens.take (j + 1))
        rw [List.take_succ_cons]
        omega
      · cases n with
        | zero =>
          rw [List.take_zero, closed_nil, opened_nil]
          omega
        | succ n =>
          obtain ⟨hopened, hclosed⟩ := counts_cons token (tokens.take n)
          have hopen := hbefore n (by omega)
          rw [List.take_succ_cons]
          omega

/-- The first token is a bracket that is opened, and up to the index, and up to no index before it,
as many brackets are closed as are opened. -/
structure ClosesAt (tokens : List Token) (j : Nat) : Prop where
  /-- A bracket is opened. -/
  opens : ∃ token, tokens[0]? = some token ∧ token.kind = .opening
  /-- There is a token at the index. -/
  length : j < tokens.length
  /-- As many are closed as are opened. -/
  level : closed (tokens.take (j + 1)) = opened (tokens.take (j + 1))
  /-- At no index before is it so. -/
  least : ∀ k < j, closed (tokens.take (k + 1)) ≠ opened (tokens.take (k + 1))

/-- A bracket that is opened has no end if and only if more brackets are opened than closed from
there on, as far as one looks. -/
theorem boundary_drop_eq_none_iff (htoken : tokens[i]? = some token)
    (hkind : token.kind = .opening) :
    boundary (tokens.drop i) = none ↔
      ∀ n > i, closed (tokens.take n) + opened (tokens.take i) <
        opened (tokens.take n) + closed (tokens.take i) := by
  obtain ⟨hi, rfl⟩ := List.getElem?_eq_some_iff.mp htoken
  rw [List.drop_eq_getElem_cons hi, boundary, if_pos hkind, Option.map_eq_none_iff,
    closingFrom_eq_none_iff (Nat.le_refl 1)]
  -- the bracket itself and what follows it
  obtain ⟨hopened, hclosed⟩ := counts_take_succ htoken
  obtain ⟨hone, hnone⟩ := counts_singleton tokens[i]
  simp only [hkind, reduceCtorEq, if_false, if_true] at hone hnone
  constructor
  · intro h n hn
    obtain ⟨m, rfl⟩ : ∃ m, n = i + 1 + m := ⟨n - (i + 1), by omega⟩
    obtain ⟨hopened', hclosed'⟩ := counts_take_add tokens (i + 1) m
    have hopen := h m
    omega
  · intro h m
    obtain ⟨hopened', hclosed'⟩ := counts_take_add tokens (i + 1) m
    have hopen := h (i + 1 + m) (by omega)
    omega

theorem closesAt_of_boundary (h : boundary tokens = some j) : ClosesAt tokens j := by
  cases tokens with
  | nil => cases h
  | cons token tokens =>
    rw [boundary] at h
    split at h
    · rename_i hkind
      obtain ⟨j, hj, rfl⟩ := Option.map_eq_some_iff.mp h
      obtain ⟨hlength, hlast, hbefore⟩ := of_closingFrom_eq_some (Nat.le_refl 1) hj
      obtain ⟨hone, hnone⟩ := counts_singleton token
      simp only [hkind, reduceCtorEq, if_false, if_true] at hone hnone
      refine ⟨⟨token, rfl, hkind⟩, Nat.succ_lt_succ hlength, ?_, fun k hk => ?_⟩
      · obtain ⟨hopened, hclosed⟩ := counts_cons token (tokens.take (j + 1))
        rw [List.take_succ_cons]
        omega
      · obtain ⟨hopened, hclosed⟩ := counts_cons token (tokens.take k)
        have hopen := hbefore k (by omega)
        rw [List.take_succ_cons]
        omega
    · cases h

/-- There is one index at most where a bracket is closed. -/
theorem ClosesAt.eq {k : Nat} (h : ClosesAt tokens j) (h' : ClosesAt tokens k) : j = k := by
  obtain hlt | heq | hgt := Nat.lt_trichotomy j k
  · exact absurd h.level (h'.least j hlt)
  · exact heq
  · exact absurd h'.level (h.least k hgt)

/-- **The end of a bracket is the least index up to which brackets are level.** -/
theorem boundary_eq_some_iff : boundary tokens = some j ↔ ClosesAt tokens j := by
  refine ⟨closesAt_of_boundary, fun h => ?_⟩
  obtain ⟨token, hfirst, hkind⟩ := h.opens
  cases hboundary : boundary tokens with
  | none =>
    have hopen := (boundary_drop_eq_none_iff hfirst hkind).mp hboundary (j + 1) (Nat.succ_pos j)
    have hlevel := h.level
    rw [List.take_zero, opened_nil, closed_nil] at hopen
    omega
  | some k => rw [(closesAt_of_boundary hboundary).eq h]

/-- The scan for the end of a bracket, from a number of open brackets and an index.  The number is
taken down with a check: there is no answer if it would fall below none. -/
def scanEnd (depth index : Nat) : List Token → Option (Option Nat)
  | [] => some none
  | token :: tokens =>
    match token.kind with
    | .opening => scanEnd (depth + 1) (index + 1) tokens
    | .closing =>
      if depth = 0 then none
      else if depth - 1 = 0 then some (some index)
      else scanEnd (depth - 1) (index + 1) tokens
    | _ => scanEnd depth (index + 1) tokens

/-- The end of the bracket that a sequence starts with, by a checked scan of all of it. -/
def checkedBoundary (tokens : List Token) : Option (Option Nat) :=
  match tokens with
  | [] => some none
  | token :: _ => if token.kind = .opening then scanEnd 0 0 tokens else some none

theorem scanEnd_eq (hdepth : 1 ≤ depth) (index : Nat) :
    scanEnd depth index tokens = some ((closingFrom depth tokens).map (· + index)) := by
  induction tokens generalizing depth index with
  | nil => rfl
  | cons token tokens ih =>
    have hshift : ∀ found : Option Nat,
        (found.map (· + 1)).map (· + index) = found.map (· + (index + 1)) := by
      intro found
      rw [Option.map_map]
      congr 1
      funext k
      exact Nat.add_right_comm k 1 index
    cases hkind : token.kind with
    | opening =>
      rw [scanEnd, closingFrom, hkind]
      dsimp only
      rw [ih (by omega), hshift]
    | closing =>
      rw [scanEnd, closingFrom, hkind]
      dsimp only
      rw [if_neg (by omega)]
      by_cases hlast : depth ≤ 1
      · rw [if_pos (by omega), if_pos hlast, Option.map_some, Nat.zero_add]
      · rw [if_neg (by omega), if_neg hlast, ih (by omega), hshift]
    | _ =>
      rw [scanEnd, closingFrom, hkind]
      dsimp only
      rw [ih hdepth, hshift]

/-- **The count of a scan never falls below none.** -/
theorem checkedBoundary_eq (tokens : List Token) :
    checkedBoundary tokens = some (boundary tokens) := by
  cases tokens with
  | nil => rfl
  | cons token tokens =>
    unfold checkedBoundary boundary
    dsimp only
    split
    · rename_i hkind
      rw [scanEnd, hkind]
      exact scanEnd_eq (Nat.le_refl 1) 1
    · rfl

/-! ### What is refused -/

/-- Why a token is refused after those before it, in words. -/
inductive Refused (limit : Nat) (before : List Token) (token : Token) : String → Prop
  /-- A bracket is opened while as many as allowed are open. -/
  | tooDeep (hkind : token.kind = .opening) (hopen : opened before = closed before + limit) :
    Refused limit before token
      ("brackets nested deeper than " ++ Decimal.ofNat limit ++ " levels")
  /-- A bracket is closed while none is open. -/
  | unexpected (hkind : token.kind = .closing) (hopen : opened before = closed before) :
    Refused limit before token "unbalanced brackets: unexpected closing bracket"
  /-- A name of a property is missing. -/
  | unnamed (hname : token.isIdentifier "^" = true) :
    Refused limit before token "property marker `^` must be followed by a name"

/-- None of the first `n` tokens is refused after those before it. -/
def NoneRefused (limit : Nat) (tokens : List Token) (n : Nat) : Prop :=
  ∀ k < n, ∀ token message, tokens[k]? = some token →
    ¬ Refused limit (tokens.take k) token message

/-- Where and in which words a sequence of tokens is refused. -/
inductive Blamed (limit : Nat) (tokens : List Token) : Location → String → Prop
  /-- The first token that is refused is to blame. -/
  | first {i : Nat} {token : Token} {message : String} (htoken : tokens[i]? = some token)
    (hrefused : Refused limit (tokens.take i) token message)
    (hfirst : NoneRefused limit tokens i) :
    Blamed limit tokens token.location message
  /-- No token is refused, and the first bracket that has no end is to blame. -/
  | unclosed (hnone : NoneRefused limit tokens tokens.length) {i : Nat} {token : Token}
    (htoken : tokens[i]? = some token) (hkind : token.kind = .opening)
    (hend : boundary (tokens.drop i) = none)
    (hfirst : ∀ k < i, ∀ other, tokens[k]? = some other → other.kind = .opening →
      boundary (tokens.drop k) ≠ none) :
    Blamed limit tokens token.location "unbalanced brackets: this bracket is never closed"

/-- Brackets are closed in turn, at most `limit` are open at a time, and properties have names. -/
structure Balanced (limit : Nat) (tokens : List Token) : Prop where
  /-- In no prefix are more brackets closed than opened. -/
  least : ∀ n, closed (tokens.take n) ≤ opened (tokens.take n)
  /-- In the whole as many are closed as are opened. -/
  level : closed tokens = opened tokens
  /-- In no prefix are more than allowed open. -/
  most : ∀ n, opened (tokens.take n) ≤ closed (tokens.take n) + limit
  /-- No `^` stands alone. -/
  named : ∀ token ∈ tokens, token.isIdentifier "^" = false

namespace NoneRefused

variable {limit n : Nat}

theorem succ (h : NoneRefused limit tokens n) (htoken : tokens[n]? = some token)
    (hread : ∀ message, ¬ Refused limit (tokens.take n) token message) :
    NoneRefused limit tokens (n + 1) := by
  intro k hk other message hother
  obtain hlt | rfl := Nat.lt_succ_iff_lt_or_eq.mp hk
  · exact h k hlt other message hother
  · cases htoken.symm.trans hother
    exact hread message

/-- What comes after makes no difference. -/
theorem append (h : NoneRefused limit tokens n) (hn : n ≤ tokens.length) (more : List Token) :
    NoneRefused limit (tokens ++ more) n := by
  intro k hk other message hother
  rw [List.getElem?_append_left (by omega)] at hother
  rw [List.take_append_of_le_length (by omega)]
  exact h k hk other message hother

end NoneRefused

/-- A property without a name is a lone `^`. -/
theorem property?_eq_some_empty_iff :
    token.property? = some "" ↔ token.isIdentifier "^" = true := by
  rw [property?_eq_some_iff, mark_eq_iff, String.append_empty]
  unfold isIdentifier
  rw [Bool.and_eq_true, decide_eq_true_iff, decide_eq_true_iff]

/-- No token of a balanced sequence is refused. -/
theorem Balanced.noneRefused {limit : Nat} (h : Balanced limit tokens) (n : Nat) :
    NoneRefused limit tokens n := by
  intro i _ token message htoken hrefused
  obtain ⟨hopened, hclosed⟩ := counts_take_succ htoken
  obtain ⟨hone, hnone⟩ := counts_singleton token
  cases hrefused with
  | tooDeep hkind hopen =>
    simp only [hkind, reduceCtorEq, if_false, if_true] at hone hnone
    have hmost := h.most (i + 1)
    omega
  | unexpected hkind hopen =>
    simp only [hkind, reduceCtorEq, if_false, if_true] at hone hnone
    have hleast := h.least (i + 1)
    omega
  | unnamed hname =>
    have hnamed := h.named token (List.mem_of_getElem? htoken)
    exact Bool.false_ne_true (hnamed.symm.trans hname)

end Token

/-! ### The stack of the builder -/

namespace Builder

variable {builder next : Builder} {limit : Nat} {token : Token} {before tokens : List Token}

/-- The places of the open brackets, the innermost first. -/
def brackets (builder : Builder) : List Location :=
  builder.levels.map Level.location

theorem brackets_await (builder : Builder) (property : String) :
    (builder.await property).brackets = builder.brackets := by
  obtain ⟨nodes, pending, levels⟩ := builder
  cases levels <;> rfl

theorem brackets_settle (builder : Builder) : builder.settle.brackets = builder.brackets := by
  obtain ⟨nodes, pending, levels⟩ := builder
  cases levels <;> rfl

theorem brackets_add (builder : Builder) (node : Node) :
    (builder.add node).brackets = builder.brackets := by
  obtain ⟨nodes, pending, levels⟩ := builder
  cases levels <;> rfl

theorem length_brackets (builder : Builder) : builder.brackets.length = builder.levels.length :=
  List.length_map _

/-- What a token does to the open brackets, unless it is refused. -/
theorem brackets_step (h : builder.step limit token = .ok next) :
    (token.kind = .opening ∧ builder.brackets.length < limit ∧
      next.brackets = token.location :: builder.brackets) ∨
    (token.kind = .closing ∧ ∃ location, builder.brackets = location :: next.brackets) ∨
    (token.kind ≠ .opening ∧ token.kind ≠ .closing ∧ token.isIdentifier "^" = false) ∧
      next.brackets = builder.brackets := by
  obtain ⟨hkind, hroom, rfl⟩ | ⟨hkind, level, levels, hlevels, rfl⟩ | ⟨hkind, rfl⟩ |
    ⟨⟨hopening, hclosing, -⟩, hname⟩ := step_cases h
  · refine .inl ⟨hkind, by rwa [length_brackets], ?_⟩
    exact congrArg (token.location :: ·) (brackets_settle builder)
  · refine .inr (.inl ⟨hkind, level.location, ?_⟩)
    rw [brackets_add, brackets, hlevels]
    rfl
  · have hbare : token.isIdentifier "^" = false := by
      simp [Token.isIdentifier, hkind]
    refine .inr (.inr ⟨⟨by rw [hkind]; nofun, by rw [hkind]; nofun, hbare⟩, ?_⟩)
    exact brackets_await builder _
  · obtain ⟨name, hname, hne, rfl⟩ | ⟨hname, rfl⟩ := hname
    · have hbare : token.isIdentifier "^" = false := by
        refine Bool.eq_false_iff.mpr fun hbare => ?_
        cases hname.symm.trans (Token.property?_eq_some_empty_iff.mpr hbare)
        exact hne rfl
      exact .inr (.inr ⟨⟨hopening, hclosing, hbare⟩, brackets_await builder _⟩)
    · have hbare : token.isIdentifier "^" = false := by
        refine Bool.eq_false_iff.mpr fun hbare => ?_
        cases hname.symm.trans (Token.property?_eq_some_empty_iff.mpr hbare)
      refine .inr (.inr ⟨⟨hopening, hclosing, hbare⟩, ?_⟩)
      rw [brackets_add, brackets_settle]

/-- What the builder is like after some tokens: it has as many brackets open as were opened and not
closed, and the outermost was opened while none was open, since when one has been all along. -/
structure Tallies (limit : Nat) (before : List Token) (builder : Builder) : Prop where
  /-- The brackets that are open are counted. -/
  height : Token.opened before = Token.closed before + builder.brackets.length
  /-- No more were closed than opened at any time, and no more than allowed were open. -/
  within : ∀ n, Token.closed (before.take n) ≤ Token.opened (before.take n) ∧
    Token.opened (before.take n) ≤ Token.closed (before.take n) + limit
  /-- The outermost of them. -/
  outermost : ∀ location, builder.brackets.getLast? = some location →
    ∃ i token, before[i]? = some token ∧ token.kind = .opening ∧ token.location = location ∧
      Token.opened (before.take i) = Token.closed (before.take i) ∧
      ∀ n > i, Token.closed (before.take n) < Token.opened (before.take n)

theorem Tallies.start (limit : Nat) : Tallies limit [] {} where
  height := rfl
  within n := by
    rw [List.take_nil]
    exact ⟨Nat.le_refl _, Nat.zero_le _⟩
  outermost := nofun

/-- No more brackets are open than are allowed. -/
theorem Tallies.room (h : Tallies limit before builder) : builder.brackets.length ≤ limit := by
  have hheight := h.height
  have hwithin := h.within before.length
  rw [List.take_length] at hwithin
  omega

/-- Whatever is open, the outermost bracket stays where it is until it is closed. -/
theorem outermost_step (h : builder.step limit token = .ok next) {location : Location}
    (hlast : next.brackets.getLast? = some location) :
    builder.brackets = [] ∧ token.kind = .opening ∧ token.location = location ∨
      builder.brackets.getLast? = some location := by
  obtain ⟨hkind, -, hnext⟩ | ⟨-, closed, hnext⟩ | ⟨-, hnext⟩ := brackets_step h
  · cases hbefore : builder.brackets with
    | nil =>
      rw [hnext, hbefore] at hlast
      exact .inl ⟨rfl, hkind, Option.some.inj hlast⟩
    | cons inner outer =>
      rw [hnext, hbefore, List.getLast?_cons_cons] at hlast
      exact .inr hlast
  · rw [hnext, List.getLast?_cons, hlast]
    exact .inr rfl
  · rw [hnext] at hlast
    exact .inr hlast

/-- **One more token.** -/
theorem Tallies.step (h : Tallies limit before builder)
    (hnext : builder.step limit token = .ok next) :
    Tallies limit (before ++ [token]) next := by
  obtain ⟨hopened, hclosed⟩ := Token.counts_append before [token]
  obtain ⟨hone, hnone⟩ := Token.counts_singleton token
  have hheight := h.height
  have hroom := h.room
  -- the counts first, since the outermost bracket is told by them
  have hcount : Token.opened (before ++ [token]) =
      Token.closed (before ++ [token]) + next.brackets.length ∧ next.brackets.length ≤ limit := by
    obtain ⟨hkind, hlimit, hnext⟩ | ⟨hkind, location, hnext⟩ | ⟨⟨hopening, hclosing, -⟩, hnext⟩ :=
      brackets_step hnext
    · simp only [hkind, reduceCtorEq, if_false, if_true] at hone hnone
      rw [hnext, List.length_cons]
      omega
    · simp only [hkind, reduceCtorEq, if_false, if_true] at hone hnone
      rw [hnext, List.length_cons] at hheight hroom
      omega
    · rw [if_neg hopening] at hone
      rw [if_neg hclosing] at hnone
      rw [hnext]
      omega
  have hall : ∀ n > before.length, (before ++ [token]).take n = before ++ [token] := by
    intro n hn
    refine List.take_of_length_le ?_
    rw [List.length_append]
    exact hn
  refine ⟨hcount.1, fun n => ?_, fun location hlast => ?_⟩
  · by_cases hbefore : n ≤ before.length
    · rw [List.take_append_of_le_length hbefore]
      exact h.within n
    · rw [hall n (Nat.lt_of_not_le hbefore)]
      omega
  have hopen : Token.closed (before ++ [token]) < Token.opened (before ++ [token]) := by
    have hlength : 0 < next.brackets.length :=
      List.length_pos_of_mem (List.mem_of_getLast? hlast)
    omega
  obtain ⟨hempty, hkind, hlocation⟩ | hlast := outermost_step hnext hlast
  · rw [hempty] at hheight
    refine ⟨before.length, token, List.getElem?_concat_length, hkind, hlocation, ?_, ?_⟩
    · rw [List.take_left]
      exact hheight
    · intro n hn
      rw [hall n hn]
      exact hopen
  · obtain ⟨i, first, hfirst, hkind, hlocation, hlevel, hsince⟩ := h.outermost location hlast
    have hi : i < before.length := (List.getElem?_eq_some_iff.mp hfirst).1
    refine ⟨i, first, ?_, hkind, hlocation, ?_, ?_⟩
    · rw [List.getElem?_append_left hi]
      exact hfirst
    · rw [List.take_append_of_le_length (Nat.le_of_lt hi)]
      exact hlevel
    · intro n hn
      by_cases hbefore : n ≤ before.length
      · rw [List.take_append_of_le_length hbefore]
        exact hsince n hn
      · rw [hall n (Nat.lt_of_not_le hbefore)]
        exact hopen

/-- A token that is read is not refused. -/
theorem Tallies.not_refused (h : Tallies limit before builder)
    (hnext : builder.step limit token = .ok next) (message : String) :
    ¬ Token.Refused limit before token message := by
  have hheight := h.height
  intro hrefused
  obtain ⟨hkind, hlimit, -⟩ | ⟨hkind, location, hopen⟩ | ⟨⟨hopening, hclosing, hbare⟩, -⟩ :=
    brackets_step hnext
  · cases hrefused with
    | tooDeep hkind' hopen => omega
    | unexpected hkind' hopen => cases hkind.symm.trans hkind'
    | unnamed hname => simp [Token.isIdentifier, hkind] at hname
  · rw [hopen, List.length_cons] at hheight
    cases hrefused with
    | tooDeep hkind' hopen => cases hkind.symm.trans hkind'
    | unexpected hkind' hopen => omega
    | unnamed hname => simp [Token.isIdentifier, hkind] at hname
  · cases hrefused with
    | tooDeep hkind' hopen => exact hopening hkind'
    | unexpected hkind' hopen => exact hclosing hkind'
    | unnamed hname => exact Bool.false_ne_true (hbare.symm.trans hname)

/-- A token that is not read is refused for the reason that is given. -/
theorem Tallies.refused (h : Tallies limit before builder) {misread : Misread}
    (herror : builder.step limit token = .error misread) :
    misread.location = token.location ∧ Token.Refused limit before token misread.message := by
  have hheight := h.height
  have hroom := h.room
  rw [length_brackets] at hheight hroom
  unfold Builder.step at herror
  split at herror
  · rename_i hkind
    split at herror
    · cases herror
      exact ⟨rfl, .tooDeep hkind (by omega)⟩
    · cases herror
  · rename_i hkind
    split at herror
    · rename_i hlevels
      cases herror
      rw [hlevels] at hheight
      exact ⟨rfl, .unexpected hkind hheight⟩
    · cases herror
  · cases herror
  · split at herror
    · rename_i hname
      cases herror
      exact ⟨rfl, .unnamed (Token.property?_eq_some_empty_iff.mp hname)⟩
    · cases herror
    · cases herror

theorem steps_concat (hsteps : tokens.foldlM (Builder.step limit) {} = .ok builder) :
    (tokens ++ [token]).foldlM (Builder.step limit) {} = builder.step limit token := by
  rw [List.foldlM_append, hsteps]
  show [token].foldlM (Builder.step limit) builder = _
  rw [List.foldlM_cons]
  cases builder.step limit token <;> rfl

/-- **What a run of the builder comes to.**  It has read all tokens and refused none, or it has
stopped at the first that is refused. -/
theorem steps_cases (limit : Nat) (tokens : List Token) :
    (∃ last, tokens.foldlM (Builder.step limit) {} = .ok last ∧ Tallies limit tokens last ∧
      Token.NoneRefused limit tokens tokens.length) ∨
    ∃ misread i token, tokens.foldlM (Builder.step limit) {} = .error misread ∧
      tokens[i]? = some token ∧ misread.location = token.location ∧
      Token.Refused limit (tokens.take i) token misread.message ∧
      Token.NoneRefused limit tokens i := by
  induction tokens using List.reverseRecOn with
  | nil => exact .inl ⟨{}, rfl, .start limit, nofun⟩
  | append_singleton tokens token ih =>
    obtain ⟨builder, hsteps, htallies, hnone⟩ |
      ⟨misread, i, first, hsteps, hfirst, hlocation, hrefused, hnone⟩ := ih
    · have hnone := hnone.append (Nat.le_refl _) [token]
      have hlast : (tokens ++ [token])[tokens.length]? = some token :=
        List.getElem?_concat_length
      have htake : (tokens ++ [token]).take tokens.length = tokens := List.take_left
      rw [steps_concat hsteps]
      cases hnext : builder.step limit token with
      | ok next =>
        have hread := htallies.not_refused hnext
        refine .inl ⟨next, rfl, htallies.step hnext, ?_⟩
        rw [List.length_append]
        exact hnone.succ hlast (by rwa [htake])
      | error misread =>
        obtain ⟨hlocation, hrefused⟩ := htallies.refused hnext
        rw [← htake] at hrefused
        exact .inr ⟨misread, tokens.length, token, rfl, hlast, hlocation, hrefused, hnone⟩
    · -- the run has stopped before
      have hi : i < tokens.length := (List.getElem?_eq_some_iff.mp hfirst).1
      have hstopped : (tokens ++ [token]).foldlM (Builder.step limit) {} = .error misread := by
        rw [List.foldlM_append, hsteps]
        rfl
      have htaken : (tokens ++ [token]).take i = tokens.take i :=
        List.take_append_of_le_length (Nat.le_of_lt hi)
      have hkept : (tokens ++ [token])[i]? = tokens[i]? := List.getElem?_append_left hi
      rw [← htaken] at hrefused
      rw [← hkept] at hfirst
      exact .inr ⟨misread, i, first, hstopped, hfirst, hlocation, hrefused,
        hnone.append (Nat.le_of_lt hi) [token]⟩

/-- A token that is read is read in the same way if more brackets may be open. -/
theorem step_of_le {limit' : Nat} (hlimit : limit ≤ limit')
    (h : builder.step limit token = .ok next) : builder.step limit' token = .ok next := by
  by_cases hkind : token.kind = .opening
  · unfold Builder.step at h ⊢
    rw [hkind] at h ⊢
    dsimp only at h ⊢
    split at h
    · cases h
    · rw [if_neg (by omega)]
      exact h
  · -- no other token asks for the limit
    rw [← h]
    unfold Builder.step
    split
    · exact absurd ‹_› hkind
    · rfl
    · rfl
    · rfl

theorem steps_of_le {limit' : Nat} (hlimit : limit ≤ limit')
    (h : tokens.foldlM (Builder.step limit) builder = .ok next) :
    tokens.foldlM (Builder.step limit') builder = .ok next := by
  induction tokens generalizing builder with
  | nil => exact h
  | cons token tokens ih =>
    obtain ⟨middle, hmiddle, hrest⟩ := steps_cons_ok h
    exact steps_cons (step_of_le hlimit hmiddle) (ih hrest)

/-- The outermost bracket that is left open is the first without an end. -/
theorem Tallies.unclosed (h : Tallies limit tokens builder) {location : Location}
    (hlast : builder.brackets.getLast? = some location) :
    ∃ i token, tokens[i]? = some token ∧ token.location = location ∧ token.kind = .opening ∧
      Token.boundary (tokens.drop i) = none ∧
      ∀ k < i, ∀ other, tokens[k]? = some other → other.kind = .opening →
        Token.boundary (tokens.drop k) ≠ none := by
  obtain ⟨i, token, htoken, hkind, hlocation, hlevel, hsince⟩ := h.outermost location hlast
  refine ⟨i, token, htoken, hlocation, hkind, ?_, fun k hk other hother hkind' => ?_⟩
  · refine (Token.boundary_drop_eq_none_iff htoken hkind).mpr fun n hn => ?_
    have hopen := hsince n hn
    omega
  · -- no bracket is open before the outermost, so all that were opened have been closed
    intro hend
    have hopen := (Token.boundary_drop_eq_none_iff hother hkind').mp hend i hk
    have hleast := (h.within k).1
    omega

end Builder

/-! ### Whole sequences -/

namespace Node

variable {limit : Nat} {tokens : List Token}

/-- There are trees if and only if the tokens are balanced. -/
theorem build_isOk_iff :
    (∃ nodes, build limit tokens = .ok nodes) ↔ Token.Balanced limit tokens := by
  constructor
  · rintro ⟨nodes, hbuild⟩
    obtain ⟨last, hsteps, hlevels, -⟩ := build_eq_ok_iff.mp hbuild
    obtain ⟨last', hsteps', htallies, hnone⟩ | ⟨misread, _, _, herror, -⟩ :=
      Builder.steps_cases limit tokens
    · cases hsteps.symm.trans hsteps'
      have hheight := htallies.height
      rw [Builder.length_brackets, hlevels] at hheight
      refine ⟨fun n => (htallies.within n).1, hheight.symm, fun n => (htallies.within n).2, ?_⟩
      intro token htoken
      obtain ⟨i, hi⟩ := List.getElem?_of_mem htoken
      have hlength : i < tokens.length := (List.getElem?_eq_some_iff.mp hi).1
      exact Bool.eq_false_iff.mpr fun hname => hnone i hlength token _ hi (.unnamed hname)
    · cases hsteps.symm.trans herror
  · intro hbalanced
    obtain ⟨last, hsteps, htallies, -⟩ | ⟨_, i, token, _, hi, _, hrefused, _⟩ :=
      Builder.steps_cases limit tokens
    · have hheight := htallies.height
      have hlevel := hbalanced.level
      rw [Builder.length_brackets] at hheight
      have hlevels : last.levels = [] := List.length_eq_zero_iff.mp (by omega)
      exact ⟨_, build_eq_ok_iff.mpr ⟨last, hsteps, hlevels, rfl⟩⟩
    · exact absurd hrefused (hbalanced.noneRefused (i + 1) i (Nat.lt_succ_self i) token _ hi)

theorem build_of_le {limit' : Nat} (hlimit : limit ≤ limit') {nodes : List Node}
    (h : build limit tokens = .ok nodes) : build limit' tokens = .ok nodes := by
  obtain ⟨last, hsteps, hlevels, rfl⟩ := build_eq_ok_iff.mp h
  exact build_eq_ok_iff.mpr ⟨last, Builder.steps_of_le hlimit hsteps, hlevels, rfl⟩

/-- What is reported is the token to blame, in the words for it. -/
theorem blamed_of_build {misread : Misread} (h : build limit tokens = .error misread) :
    Token.Blamed limit tokens misread.location misread.message := by
  unfold build at h
  obtain ⟨last, hsteps, htallies, hnone⟩ |
    ⟨found, i, token, herror, hi, hplace, hrefused, hfirst⟩ := Builder.steps_cases limit tokens
  · rw [hsteps] at h
    have hfinish : last.finish = .error misread := h
    unfold Builder.finish at hfinish
    split at hfinish
    · rename_i outermost hlast
      cases hfinish
      have hbottom : last.brackets.getLast? = some outermost.location := by
        rw [Builder.brackets, List.getLast?_map, hlast]
        rfl
      obtain ⟨i, token, hi, hplace, hkind, hend, hfirst⟩ := htallies.unclosed hbottom
      rw [Misread.location, ← hplace]
      exact .unclosed hnone hi hkind hend hfirst
    · cases hfinish
  · rw [herror] at h
    cases h
    rw [hplace]
    exact .first hi hrefused hfirst

/-- **The builder accepts exactly the balanced sequences and blames the right token.**  The trees
do not depend on the limit.  The end of a bracket, by which an unclosed one is told, is the least
index up to which as many brackets are closed as are opened, and the scan for it never counts below
none. -/
theorem build_accepts_balanced (limit : Nat) (tokens : List Token) :
    ((∃ nodes, build limit tokens = .ok nodes) ↔ Token.Balanced limit tokens) ∧
      (∀ limit' nodes nodes', build limit tokens = .ok nodes → build limit' tokens = .ok nodes' →
        nodes' = nodes) ∧
      (∀ misread, build limit tokens = .error misread →
        Token.Blamed limit tokens misread.location misread.message) ∧
      (∀ j, Token.boundary tokens = some j ↔ Token.ClosesAt tokens j) ∧
      Token.checkedBoundary tokens = some (Token.boundary tokens) := by
  refine ⟨build_isOk_iff, fun limit' nodes nodes' h h' => ?_, fun _ => blamed_of_build,
    fun _ => Token.boundary_eq_some_iff, Token.checkedBoundary_eq tokens⟩
  obtain hlimit | hlimit := Nat.le_total limit limit'
  · exact Except.ok.inj (h'.symm.trans (build_of_le hlimit h))
  · exact Except.ok.inj ((build_of_le hlimit h').symm.trans h)

end Node

end FrameLisp
