import FrameLisp.Operation
import FrameLisp.Proofs.Rounding.Conversion

/-!
# Comparisons of whole numbers

`=` compares whole numbers as they are.  The orderings compare the floats that they are rounded to,
so two numbers that are rounded alike are neither less nor greater than one another, though they
are not equal.  Rounding keeps the order, and that is the only way in which an ordering can differ
from the order of the numbers themselves: a chain whose neighbours are told apart by rounding is
judged right (`tells_order`), and up to `2 ^ 53` all numbers are told apart.
-/

namespace FrameLisp.Operation

open Float64 (rounded)

/-- The operations that compare by an order. -/
inductive Comparison where
  /-- Each less than the next. -/
  | less
  /-- Each greater than the next. -/
  | greater
  /-- Each at most the next. -/
  | atMost
  /-- Each at least the next. -/
  | atLeast

namespace Comparison

/-- The operation. -/
def operation : Comparison → Operation
  | less => .less
  | greater => .greater
  | atMost => .atMost
  | atLeast => .atLeast

/-- The order of whole numbers that it is named after. -/
def rel : Comparison → Int → Int → Prop
  | less => (· < ·)
  | greater => (· > ·)
  | atMost => (· ≤ ·)
  | atLeast => (· ≥ ·)

/-- The orderings that it admits. -/
def holds : Comparison → Ordering → Bool
  | less => (· = .lt)
  | greater => (· = .gt)
  | atMost => (· ≠ .gt)
  | atLeast => (· ≠ .lt)

variable (c : Comparison)

theorem run_operation (args : List Value) :
    c.operation.run args = Stop.lift (comparison c.operation.name c.holds args) := by
  cases c <;> rfl

theorem holds_compare (a b : Int) : c.holds (compare a b) = true ↔ c.rel a b := by
  have hlt : compare a b = .lt ↔ a < b := compare_lt_iff_lt
  have hgt : compare a b = .gt ↔ a > b := compare_gt_iff_gt
  cases c <;> simp only [holds, rel, ne_eq, decide_eq_true_eq, hlt, hgt] <;> omega

/-- Rounding changes the order of two numbers only by making them equal. -/
theorem rel_rounded {a b : Int} (h : rounded a = rounded b → a = b) :
    c.rel (rounded a) (rounded b) ↔ c.rel a b := by
  have hle {a b : Int} : a ≤ b → rounded a ≤ rounded b :=
    (Float64.isNearest_rounded a).mono (Float64.isNearest_rounded b)
  have hab := @hle a b
  have hba := @hle b a
  cases c <;> simp only [rel] <;> omega

end Comparison

/-- An operation gives a truth value, which is whether something holds. -/
def Tells (op : Operation) (args : List Value) (p : Prop) : Prop :=
  ∃ b : Bool, op.run args = .ok (.bool b) ∧ (b = true ↔ p)

theorem Tells.congr {op : Operation} {args : List Value} {p q : Prop} (h : op.Tells args p)
    (hiff : p ↔ q) : op.Tells args q := by
  obtain ⟨b, hrun, hb⟩ := h
  exact ⟨b, hrun, hb.trans hiff⟩

theorem order?_ints (operator : String) (a b : Int64) :
    order? operator (.int a) (.int b) =
      .ok (some (compare (rounded a.toInt) (rounded b.toInt))) := by
  have hbound (n : Int64) : n.toInt.natAbs < 2 ^ 64 := by
    have hlow := n.le_toInt
    have hhigh := n.toInt_lt
    omega
  exact congrArg _ (Float64.floatOrder?_ofInt (hbound a) (hbound b))

/-- Whole numbers are compared one with the next, up to the first two that fail. -/
theorem allOrdered_ints (c : Comparison) (operator : String) (ns : List Int64) :
    ∃ b, allOrdered operator c.holds (ns.map .int) = .ok b ∧
      (b = true ↔ ns.IsChain fun m n => c.rel (rounded m.toInt) (rounded n.toInt)) := by
  induction ns with
  | nil => exact ⟨true, rfl, by simp⟩
  | cons m rest ih =>
    cases rest with
    | nil => exact ⟨true, rfl, by simp⟩
    | cons n rest =>
      obtain ⟨b, hrun, hb⟩ := ih
      have hfirst := c.holds_compare (rounded m.toInt) (rounded n.toInt)
      have hstep : allOrdered operator c.holds ((m :: n :: rest).map .int) =
          if c.holds (compare (rounded m.toInt) (rounded n.toInt)) then .ok b else .ok false := by
        rw [← hrun]
        show (order? operator (.int m) (.int n) >>= _) = _
        rw [order?_ints]
        rfl
      rw [List.isChain_cons_cons, hstep]
      by_cases h : c.holds (compare (rounded m.toInt) (rounded n.toInt))
      · rw [if_pos h]
        exact ⟨b, rfl, by rw [hb, ← hfirst, and_iff_right h]⟩
      · rw [if_neg h]
        exact ⟨false, rfl, by simp [← hfirst, h]⟩

theorem tells_rounded (c : Comparison) (n : Int64) (ns : List Int64) :
    c.operation.Tells ((n :: ns).map .int)
      ((n :: ns).IsChain fun m n => c.rel (rounded m.toInt) (rounded n.toInt)) := by
  obtain ⟨b, hrun, hb⟩ := allOrdered_ints c c.operation.name (n :: ns)
  refine ⟨b, ?_, hb⟩
  rw [c.run_operation]
  show Stop.lift ((allOrdered _ _ _).map Value.bool) = _
  rw [hrun]
  rfl

/-- Whole numbers none of which is rounded to the same float as the next, unless it is the next. -/
def ToldApart (ns : List Int64) : Prop :=
  ns.IsChain fun m n => rounded m.toInt = rounded n.toInt → m.toInt = n.toInt

theorem isChain_rounded (c : Comparison) {ns : List Int64} (h : ToldApart ns) :
    (ns.IsChain fun m n => c.rel (rounded m.toInt) (rounded n.toInt)) ↔
      ns.IsChain fun m n => c.rel m.toInt n.toInt := by
  unfold ToldApart at h
  induction ns with
  | nil => simp
  | cons m rest ih =>
    cases rest with
    | nil => simp
    | cons n rest =>
      rw [List.isChain_cons_cons] at h
      rw [List.isChain_cons_cons, List.isChain_cons_cons, c.rel_rounded h.1, ih h.2]

/-- What needs no more than 53 bits is not changed by rounding. -/
theorem rounded_of_le {n : Int} (h : |n| ≤ 2 ^ 53) : rounded n = n := by
  refine (Float64.isNearest_rounded n).eq_of_exact ?_
  rcases lt_or_eq_of_le h with hlt | heq
  · exact Float64.exact_of_lt hlt
  · rcases (abs_eq (by norm_num)).mp heq with rfl | rfl
    · exact ⟨1, 53, by norm_num, by norm_num⟩
    · exact ⟨-1, 53, by norm_num, by norm_num⟩

theorem toldApart_of_le {ns : List Int64} (h : ∀ n ∈ ns, |n.toInt| ≤ 2 ^ 53) : ToldApart ns := by
  unfold ToldApart
  induction ns with
  | nil => exact .nil
  | cons m rest ih =>
    cases rest with
    | nil => exact .singleton m
    | cons n rest =>
      refine .cons_cons (fun heq => ?_) (ih fun n hn => h n (.tail _ hn))
      rwa [rounded_of_le (h m (by simp)), rounded_of_le (h n (by simp))] at heq

theorem allEqual_ints (n : Int64) (ns : List Int64) :
    allEqual ((n :: ns).map .int) = true ↔ ∀ m ∈ ns, m = n := by
  induction ns generalizing n with
  | nil => simp [allEqual]
  | cons m rest ih =>
    have hstep : allEqual ((n :: m :: rest).map .int) =
        (n == m && allEqual ((m :: rest).map .int)) := by
      show ((Value.int n).equal (.int m) && _) = _
      rw [Value.equal]
      rfl
    rw [hstep, Bool.and_eq_true, beq_iff_eq, ih m, List.forall_mem_cons]
    constructor
    · rintro ⟨rfl, hrest⟩
      exact ⟨rfl, hrest⟩
    · rintro ⟨rfl, hrest⟩
      exact ⟨rfl, hrest⟩

theorem tells_same (n : Int64) (ns : List Int64) :
    equal.Tells ((n :: ns).map .int) (∀ m ∈ ns, m.toInt = n.toInt) := by
  refine ⟨_, rfl, (allEqual_ints n ns).trans ?_⟩
  simp only [Int64.toInt_inj]

theorem tells_pair (c : Comparison) (a b : Int64) :
    c.operation.Tells [.int a, .int b] (c.rel (rounded a.toInt) (rounded b.toInt)) :=
  (tells_rounded c a [b]).congr (by simp)

/-- Two numbers are in exactly one of three relations, unless they are rounded alike and differ;
then they are in none. -/
theorem trichotomy_of_pair (a b : Int64) :
    ∃ x y z : Bool, less.run [.int a, .int b] = .ok (.bool x) ∧
      equal.run [.int a, .int b] = .ok (.bool y) ∧
      greater.run [.int a, .int b] = .ok (.bool z) ∧
      ([x, y, z].count true = 1 ↔ (rounded a.toInt = rounded b.toInt → a.toInt = b.toInt)) := by
  obtain ⟨x, hx, hless⟩ := tells_pair .less a b
  obtain ⟨y, hy, hsame⟩ := tells_same a [b]
  obtain ⟨z, hz, hgreater⟩ := tells_pair .greater a b
  refine ⟨x, y, z, hx, hy, hz, ?_⟩
  have heq : b.toInt = a.toInt → rounded b.toInt = rounded a.toInt := congrArg rounded
  rw [List.forall_mem_singleton] at hsame
  have hdecide {v : Bool} {p : Prop} [Decidable p] (h : v = true ↔ p) : v = decide p :=
    Bool.eq_iff_iff.mpr (h.trans decide_eq_true_iff.symm)
  obtain rfl : x = decide (rounded a.toInt < rounded b.toInt) := hdecide hless
  obtain rfl := hdecide hsame
  obtain rfl : z = decide (rounded b.toInt < rounded a.toInt) := hdecide hgreater
  simp only [List.count_cons, List.count_nil, beq_true, decide_eq_true_eq]
  split_ifs <;> omega

/-- **Orderings compare what whole numbers are rounded to, and `=` compares the numbers.**  An
ordering of one or more numbers tells whether all neighbours are in that order after rounding.
That is whether the numbers themselves are, if rounding tells neighbours apart, as it does up to
`2 ^ 53`; and `=` tells whether all numbers are the same.  Of two numbers exactly one of `<`, `=`
and `>` holds, unless they differ and are rounded alike. -/
theorem orderings_round (c : Comparison) (n : Int64) (ns : List Int64) :
    c.operation.Tells ((n :: ns).map .int)
        ((n :: ns).IsChain fun a b => c.rel (rounded a.toInt) (rounded b.toInt)) ∧
      (ToldApart (n :: ns) → c.operation.Tells ((n :: ns).map .int)
        ((n :: ns).IsChain fun a b => c.rel a.toInt b.toInt)) ∧
      ((∀ a ∈ n :: ns, |a.toInt| ≤ 2 ^ 53) → ToldApart (n :: ns)) ∧
      equal.Tells ((n :: ns).map .int) (∀ a ∈ ns, a.toInt = n.toInt) ∧
      ∀ a b : Int64, ∃ x y z : Bool, less.run [.int a, .int b] = .ok (.bool x) ∧
        equal.run [.int a, .int b] = .ok (.bool y) ∧
        greater.run [.int a, .int b] = .ok (.bool z) ∧
        ([x, y, z].count true = 1 ↔
          (rounded a.toInt = rounded b.toInt → a.toInt = b.toInt)) := by
  have hrounded := tells_rounded c n ns
  exact ⟨hrounded, fun h => hrounded.congr (isChain_rounded c h), toldApart_of_le, tells_same n ns,
    trichotomy_of_pair⟩

/-- From `2 ^ 53` on, neighbouring whole numbers are rounded alike: the first is less than the
second, but no ordering says so, and none of `<`, `=` and `>` holds. -/
theorem ordering_not_exact :
    (9007199254740992 : Int64).toInt < (9007199254740993 : Int64).toInt ∧
      ¬ less.Tells [.int 9007199254740992, .int 9007199254740993]
        ((9007199254740992 : Int64).toInt < (9007199254740993 : Int64).toInt) ∧
      less.run [.int 9007199254740992, .int 9007199254740993] = .ok (.bool false) ∧
      equal.run [.int 9007199254740992, .int 9007199254740993] = .ok (.bool false) ∧
      greater.run [.int 9007199254740992, .int 9007199254740993] = .ok (.bool false) := by
  have hlt : (9007199254740992 : Int64).toInt < (9007199254740993 : Int64).toInt := by decide
  have halike : rounded (9007199254740992 : Int64).toInt =
      rounded (9007199254740993 : Int64).toInt := by
    decide +kernel
  have hrun (op : Operation) {p : Prop}
      (h : op.Tells [.int 9007199254740992, .int 9007199254740993] p) (hp : ¬ p) :
      op.run [.int 9007199254740992, .int 9007199254740993] = .ok (.bool false) := by
    obtain ⟨b, hb, hiff⟩ := h
    rw [hb, Bool.eq_false_iff.mpr (hp ∘ hiff.mp)]
  have hless := hrun less (tells_pair .less _ _) (by
    show ¬ rounded _ < rounded _
    omega)
  refine ⟨hlt, ?_, hless, hrun equal (tells_same _ [_]) (by simp), hrun greater
    (tells_pair .greater _ _) (by
      show ¬ rounded _ < rounded _
      omega)⟩
  rintro ⟨b, hb, hiff⟩
  rw [hless] at hb
  cases hb
  exact Bool.false_ne_true (hiff.mpr hlt)

end FrameLisp.Operation
