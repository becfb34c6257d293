import FrameLisp.Float64
import Mathlib.Algebra.Order.Ring.Abs
import Mathlib.Algebra.Order.Ring.Int
import Mathlib.Tactic.Linarith
import Mathlib.Tactic.Ring

/-!
# Rounding to 53 bits

A float has 53 bits, and zeros after them.  A whole number that needs more becomes the nearest of
those that do not, and one that is half-way between two becomes the one with an even last bit.
`rounded` computes this on whole numbers alone, by dividing by the distance between neighbouring
floats, and `isNearest_rounded` says that it is the nearest one.  Two facts about rounding need
nothing else: it keeps the order (`IsNearest.mono`), and it leaves alone what a float can hold
(`IsNearest.eq_of_exact`).
-/

namespace FrameLisp.Float64

/-! ### Rounding -/

/-- The whole number nearest to a quotient; of two that are equally near, the even one. -/
def quotientToEven (n d : Nat) : Nat :=
  if 2 * (n % d) < d ∨ 2 * (n % d) = d ∧ n / d % 2 = 0 then n / d else n / d + 1

/-- The distance between floats that are as great as a number. -/
def spacing (n : Nat) : Nat :=
  2 ^ (n.log2 - 52)

/-- A natural number rounded to 53 bits. -/
def roundedNat (n : Nat) : Nat :=
  quotientToEven n (spacing n) * spacing n

/-- A whole number rounded to 53 bits. -/
def rounded (n : Int) : Int :=
  n.sign * roundedNat n.natAbs

theorem rounded_neg (n : Int) : rounded (-n) = -rounded n := by
  unfold rounded
  rw [Int.sign_neg, Int.natAbs_neg, Int.neg_mul]

theorem rounded_natCast (n : Nat) : rounded n = roundedNat n := by
  unfold rounded
  rcases Nat.eq_zero_or_pos n with rfl | hpos
  · rfl
  · rw [Int.sign_natCast_of_ne_zero (by omega), Int.natAbs_natCast, Int.one_mul]

theorem quotientToEven_one (n : Nat) : quotientToEven n 1 = n := by
  simp [quotientToEven, Nat.mod_one]

theorem quotientToEven_mul (n d : Nat) {c : Nat} (hc : 0 < c) :
    quotientToEven (n * c) (d * c) = quotientToEven n d := by
  have hdiv : n * c / (d * c) = n / d := Nat.mul_div_mul_right _ _ hc
  have hmod : n * c % (d * c) = n % d * c := Nat.mul_mod_mul_right _ _ _
  have hlt : 2 * (n % d * c) < d * c ↔ 2 * (n % d) < d := by
    rw [← Nat.mul_assoc]
    exact Nat.mul_lt_mul_right hc
  have heq : 2 * (n % d * c) = d * c ↔ 2 * (n % d) = d := by
    rw [← Nat.mul_assoc]
    exact Nat.mul_left_inj (by omega)
  unfold quotientToEven
  simp only [hdiv, hmod, hlt, heq]

theorem quotientToEven_self (n : Nat) {d : Nat} (hd : 0 < d) : quotientToEven (n * d) d = n := by
  have h := quotientToEven_mul n 1 hd
  rwa [Nat.one_mul, quotientToEven_one] at h

theorem log2_mul_two_pow {n : Nat} (h : n ≠ 0) (k : Nat) : (n * 2 ^ k).log2 = n.log2 + k := by
  have hpos : 0 < 2 ^ k := Nat.two_pow_pos k
  rw [Nat.log2_eq_iff (Nat.mul_ne_zero h (by omega))]
  constructor
  · rw [Nat.pow_add]
    exact Nat.mul_le_mul_right _ (Nat.log2_self_le h)
  · rw [Nat.add_right_comm, Nat.pow_add]
    exact Nat.mul_lt_mul_of_pos_right Nat.lt_log2_self hpos

/-- What is left of a number when all but 53 bits are rounded away has 53 bits, or is the next power
of two. -/
theorem quotientToEven_bounds {m k : Nat} (hlog : m.log2 = 52 + k) :
    2 ^ 52 ≤ quotientToEven m (2 ^ k) ∧ quotientToEven m (2 ^ k) ≤ 2 ^ 53 := by
  have hne : m ≠ 0 := by
    rintro rfl
    rw [Nat.log2_zero] at hlog
    omega
  have hpos : 0 < 2 ^ k := Nat.two_pow_pos k
  have hlow : 2 ^ 52 * 2 ^ k ≤ m := by
    rw [← Nat.pow_add, ← hlog]
    exact Nat.log2_self_le hne
  have hhigh : m < 2 ^ 53 * 2 ^ k := by
    rw [← Nat.pow_add, show 53 + k = m.log2 + 1 by omega]
    exact Nat.lt_log2_self
  have hdiv : 2 ^ 52 ≤ m / 2 ^ k := (Nat.le_div_iff_mul_le hpos).mpr hlow
  have hdiv' : m / 2 ^ k < 2 ^ 53 := (Nat.div_lt_iff_lt_mul hpos).mpr hhigh
  unfold quotientToEven
  split <;> omega

theorem roundedNat_of_lt {n : Nat} (hn : n < 2 ^ 53) : roundedNat n = n := by
  have hlog : n.log2 ≤ 52 := by
    rcases Nat.eq_zero_or_pos n with rfl | hpos
    · simp
    · have hlt := (Nat.log2_lt (by omega)).mpr hn
      omega
  unfold roundedNat spacing
  rw [Nat.sub_eq_zero_of_le hlog, Nat.pow_zero, quotientToEven_one, Nat.mul_one]

/-! ### The nearest float -/

/-- The whole numbers that a float holds: 53 bits, and zeros after them. -/
def Exact (n : Int) : Prop :=
  ∃ (c : Int) (k : Nat), |c| < 2 ^ 53 ∧ n = c * 2 ^ k

theorem Exact.neg {n : Int} (h : Exact n) : Exact (-n) := by
  obtain ⟨c, k, hc, rfl⟩ := h
  exact ⟨-c, k, by rwa [abs_neg], by ring⟩

/-- One whole number is what another is rounded to. -/
structure IsNearest (n m : Int) : Prop where
  /-- A float holds it. -/
  exact : Exact m
  /-- No other that a float holds is nearer. -/
  closest : ∀ k, Exact k → |n - m| ≤ |n - k|
  /-- It is an even multiple of its distance to another that is as near. -/
  even : ∀ k, Exact k → k ≠ m → |n - k| = |n - m| → 2 * (m - k) ∣ m

/-- Which of two numbers is nearer to a third is decided by the middle between them. -/
theorem nearer_iff {n m k : Int} (h : m < k) :
    (|n - k| ≤ |n - m| ↔ m + k ≤ 2 * n) ∧ (|n - m| ≤ |n - k| ↔ 2 * n ≤ m + k) := by
  rcases abs_cases (n - k) with ⟨hk, _⟩ | ⟨hk, _⟩ <;>
    rcases abs_cases (n - m) with ⟨hm, _⟩ | ⟨hm, _⟩ <;> rw [hk, hm] <;> omega

namespace IsNearest

variable {n m n' m' : Int}

theorem neg (h : IsNearest n m) : IsNearest (-n) (-m) := by
  have hdist (k : Int) : |-n - k| = |n - -k| := by
    rw [← abs_neg]
    congr 1
    ring
  have hself : |-n - -m| = |n - m| := by rw [hdist, neg_neg]
  refine ⟨h.exact.neg, fun k hk => ?_, fun k hk hne htie => ?_⟩
  · rw [hself, hdist]
    exact h.closest (-k) hk.neg
  · rw [hself, hdist] at htie
    have heven := h.even (-k) hk.neg (by omega) htie
    rw [show 2 * (-m - k) = -(2 * (m - -k)) by ring]
    exact Int.neg_dvd.mpr (Int.dvd_neg.mpr heven)

theorem eq_of_exact (h : IsNearest n m) (hn : Exact n) : m = n := by
  have hclosest := h.closest n hn
  rw [sub_self, abs_zero] at hclosest
  have hzero : n - m = 0 := abs_eq_zero.mp (le_antisymm hclosest (abs_nonneg _))
  omega

theorem unique (h : IsNearest n m) (h' : IsNearest n m') : m = m' := by
  by_contra hne
  have htie : |n - m'| = |n - m| := le_antisymm (h'.closest m h.exact) (h.closest m' h'.exact)
  have heven : 2 * (m - m') ∣ m := h.even m' h'.exact (Ne.symm hne) htie
  have heven' : 2 * (m - m') ∣ m' := by
    have hswap := h'.even m h.exact hne htie.symm
    rw [show 2 * (m' - m) = -(2 * (m - m')) by ring] at hswap
    exact Int.neg_dvd.mp hswap
  -- twice the distance would divide the distance
  obtain ⟨c, hc⟩ := Int.dvd_sub heven heven'
  have hfactor : (m - m') * (2 * c - 1) = 0 := by linarith
  rcases Int.mul_eq_zero.mp hfactor with hzero | hodd <;> omega

/-- **Rounding keeps the order.**  If it did not, each of two numbers would be nearer to what the
other is rounded to, and the first would be beyond the middle between the two, the second before
it. -/
theorem mono (h : IsNearest n m) (h' : IsNearest n' m') (hle : n ≤ n') : m ≤ m' := by
  by_contra hlt
  have hfirst : m' + m ≤ 2 * n := (nearer_iff (by omega)).1.mp (h.closest m' h'.exact)
  have hsecond : 2 * n' ≤ m' + m := (nearer_iff (by omega)).2.mp (h'.closest m h.exact)
  have heq : n = n' := by omega
  subst heq
  exact hlt (h.unique h').le

end IsNearest

/-- How far a quotient is rounded: by a half at most, and by a half only to an even number. -/
theorem quotientToEven_error (n : Nat) {d : Nat} (hd : 0 < d) :
    2 * |(n : Int) - quotientToEven n d * d| ≤ d ∧
      (2 * |(n : Int) - quotientToEven n d * d| = d → quotientToEven n d % 2 = 0) := by
  have hsplit : (n : Int) = n / d * d + n % d := by
    exact_mod_cast (Nat.div_add_mod' n d).symm
  have hlt : n % d < d := Nat.mod_lt _ hd
  unfold quotientToEven
  split
  · rename_i hdown
    have habs : |(n : Int) - (n / d : Nat) * d| = n % d := by
      rw [abs_of_nonneg] <;> push_cast <;> omega
    rw [habs]
    omega
  · rename_i hup
    have hnext : ((n / d + 1 : Nat) : Int) * d = n / d * d + d := by
      push_cast
      ring
    have habs : |(n : Int) - (n / d + 1 : Nat) * d| = d - n % d := by
      rw [hnext, abs_of_nonpos] <;> omega
    rw [habs]
    omega

/-- A rounded quotient gives the nearest multiple. -/
theorem quotientToEven_nearest (n : Nat) {d : Nat} (hd : 0 < d) (j : Int) :
    |(n : Int) - quotientToEven n d * d| ≤ |(n : Int) - j * d| ∧
      (j ≠ quotientToEven n d → |(n : Int) - j * d| = |(n : Int) - quotientToEven n d * d| →
        2 * (quotientToEven n d * d - j * d) ∣ (quotientToEven n d * d : Int)) := by
  obtain ⟨hhalf, heven⟩ := quotientToEven_error n hd
  generalize quotientToEven n d = q at *
  by_cases hj : j = q
  · subst hj
    exact ⟨le_refl _, fun hne => absurd rfl hne⟩
  have hgap : (d : Int) ≤ |(q : Int) * d - j * d| := by
    rw [← sub_mul, abs_mul, Nat.abs_cast]
    have hone : 1 ≤ |(q : Int) - j| := Int.one_le_abs (by omega)
    nlinarith
  have htriangle : |(q : Int) * d - j * d| ≤ |(n : Int) - q * d| + |(n : Int) - j * d| := by
    rw [abs_sub_comm (n : Int) (q * d)]
    exact abs_sub_le _ _ _
  refine ⟨by omega, fun _ htie => ?_⟩
  -- both are half a step away, so they are one step apart
  have hstep : |(q : Int) * d - j * d| = d := by omega
  obtain ⟨c, hc⟩ : 2 ∣ (q : Int) := by
    have hq : q % 2 = 0 := heven (by omega)
    omega
  rcases (abs_eq (by omega)).mp hstep with h | h
  · rw [h, hc]
    exact ⟨c, by ring⟩
  · rw [h, hc]
    exact ⟨-c, by ring⟩

/-- What a float holds is a multiple of the spacing, or less than all numbers of so many bits. -/
theorem Exact.cases {k : Int} (hk : Exact k) (n : Nat) :
    (∃ j, k = j * spacing n) ∨ k < 2 ^ 52 * spacing n := by
  have hspacing : (spacing n : Int) = 2 ^ (n.log2 - 52) := by
    unfold spacing
    push_cast
    rfl
  obtain ⟨c, e, hc, rfl⟩ := hk
  rcases Nat.lt_or_ge e (n.log2 - 52) with hlt | hge
  · right
    have hhalf : (2 : Int) * 2 ^ e ≤ spacing n := by
      rw [hspacing, ← pow_succ']
      exact_mod_cast Nat.pow_le_pow_right (by decide) hlt
    have hcle : c < 2 ^ 53 := (abs_lt.mp hc).2
    have hpos : (0 : Int) < 2 ^ e := by positivity
    nlinarith
  · left
    refine ⟨c * 2 ^ (e - (n.log2 - 52)), ?_⟩
    rw [hspacing, mul_assoc, ← pow_add, Nat.sub_add_cancel hge]

section Great

variable {n : Nat} (hn : 2 ^ 53 ≤ n)
include hn

theorem spacing_le : 2 ^ 52 * spacing n ≤ n := by
  have hlog : 53 ≤ n.log2 := (Nat.le_log2 (by omega)).mpr hn
  unfold spacing
  rw [← Nat.pow_add, Nat.add_sub_cancel' (by omega)]
  exact Nat.log2_self_le (by omega)

theorem exact_roundedNat : Exact (roundedNat n) := by
  have hlog : 53 ≤ n.log2 := (Nat.le_log2 (by omega)).mpr hn
  obtain ⟨-, hmost⟩ := quotientToEven_bounds (m := n) (k := n.log2 - 52) (by omega)
  unfold roundedNat spacing
  rcases Nat.lt_or_eq_of_le hmost with hlt | heq
  · refine ⟨quotientToEven n (2 ^ (n.log2 - 52)), n.log2 - 52, ?_, by push_cast; rfl⟩
    rw [Nat.abs_cast]
    exact_mod_cast hlt
  · refine ⟨2 ^ 52, n.log2 - 52 + 1, by norm_num, ?_⟩
    rw [heq]
    push_cast
    ring

theorem isNearest_roundedNat : IsNearest n (roundedNat n) := by
  have hpos : 0 < spacing n := Nat.two_pow_pos _
  have hcast : (roundedNat n : Int) = quotientToEven n (spacing n) * spacing n := by
    unfold roundedNat
    push_cast
    rfl
  -- the least number of so many bits is a multiple, and all that is less is farther away
  have hbelow (k : Int) (hk : k < 2 ^ 52 * spacing n) : |(n : Int) - roundedNat n| < |n - k| := by
    have hleast := (quotientToEven_nearest n hpos (2 ^ 52)).1
    have hle : (2 ^ 52 * spacing n : Int) ≤ n := by exact_mod_cast spacing_le hn
    rw [abs_of_nonneg (by omega : (0 : Int) ≤ n - 2 ^ 52 * spacing n)] at hleast
    rw [hcast, abs_of_nonneg (by omega : (0 : Int) ≤ n - k)]
    omega
  refine ⟨exact_roundedNat hn, fun k hk => ?_, fun k hk hne htie => ?_⟩
  · rcases hk.cases n with ⟨j, rfl⟩ | hless
    · rw [hcast]
      exact (quotientToEven_nearest n hpos j).1
    · exact (hbelow k hless).le
  · rcases hk.cases n with ⟨j, rfl⟩ | hless
    · rw [hcast] at hne htie ⊢
      exact (quotientToEven_nearest n hpos j).2 (fun heq => hne (by rw [heq])) htie
    · exact absurd htie (hbelow k hless).ne'

end Great

/-- A number of 53 bits is itself the nearest. -/
theorem IsNearest.of_exact {n : Int} (h : Exact n) : IsNearest n n := by
  have habs : |n - n| = 0 := by rw [sub_self, abs_zero]
  refine ⟨h, fun k _ => ?_, fun k _ hne htie => ?_⟩
  · rw [habs]
    exact abs_nonneg _
  · rw [habs, abs_eq_zero] at htie
    omega

theorem exact_of_lt {n : Int} (h : |n| < 2 ^ 53) : Exact n :=
  ⟨n, 0, h, by ring⟩

/-- **Rounding gives the nearest float.** -/
theorem isNearest_rounded (n : Int) : IsNearest n (rounded n) := by
  have hnat (n : Nat) : IsNearest n (roundedNat n) := by
    rcases Nat.lt_or_ge n (2 ^ 53) with hn | hn
    · rw [roundedNat_of_lt hn]
      exact .of_exact (exact_of_lt (by rw [Nat.abs_cast]; exact_mod_cast hn))
    · exact isNearest_roundedNat hn
  rcases Int.natAbs_eq n with h | h
  · rw [h, rounded_natCast]
    exact hnat _
  · rw [h, rounded_neg, rounded_natCast]
    exact (hnat _).neg

end FrameLisp.Float64
