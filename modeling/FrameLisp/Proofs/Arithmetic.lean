import FrameLisp.Operation

/-!
# Arithmetic of whole numbers

Whole numbers are combined from the left, and the first step that fails decides (`Folds`).  What
one step gives is said without the code: a sum, difference or product is the exact number or is
refused because it needs more than 64 bits (`ExactStep`), and a modulus is the remainder that has
the sign of the divisor (`ModStep`, `Floored`), of which there is only one.  `exists_folds` goes
from one step to all.
-/

namespace FrameLisp.Operation

/-- A whole number has 64 bits. -/
def Fits (n : Int) : Prop :=
  -0x8000000000000000 ≤ n ∧ n < 0x8000000000000000

theorem fits_toInt (w : Int64) : Fits w.toInt :=
  ⟨w.le_toInt, w.toInt_lt⟩

theorem fit64_of_fits {n : Int} (h : Fits n) : ∃ w, fit64 n = some w ∧ w.toInt = n := by
  have hofInt : (Int64.ofInt n).toInt = n := Int64.toInt_ofInt_of_le h.1 h.2
  exact ⟨Int64.ofInt n, fit64_eq_some_iff.mpr hofInt, hofInt⟩

theorem fit64_of_not_fits {n : Int} (h : ¬ Fits n) : fit64 n = none := by
  cases hfit : fit64 n with
  | none => rfl
  | some w =>
    rw [← fit64_eq_some_iff.mp hfit] at h
    exact absurd (fits_toInt w) h

/-! ### From one step to all -/

/-- Numbers are combined from the left, up to the first step that fails. -/
inductive Folds (step : Int64 → Int64 → Except Fault Int64 → Prop) :
    Int64 → List Int64 → Except Fault Int64 → Prop
  /-- Nothing is left to combine with. -/
  | done (a : Int64) : Folds step a [] (.ok a)
  /-- A step fails, and no other is made. -/
  | failed {a b : Int64} {fault : Fault} (rest : List Int64) (h : step a b (.error fault)) :
    Folds step a (b :: rest) (.error fault)
  /-- A step gives a number, and the rest is combined with that. -/
  | next {a b c : Int64} {rest : List Int64} {result : Except Fault Int64}
    (h : step a b (.ok c)) (hrest : Folds step c rest result) : Folds step a (b :: rest) result

theorem exists_folds {op : Value → Value → Except Fault Value}
    {step : Int64 → Int64 → Except Fault Int64 → Prop}
    (hstep : ∀ a b, ∃ result, step a b result ∧ op (.int a) (.int b) = result.map .int)
    (n : Int64) (ns : List Int64) :
    ∃ result, Folds step n ns result ∧ (ns.map .int).foldlM op (.int n) = result.map .int := by
  induction ns generalizing n with
  | nil => exact ⟨.ok n, .done n, rfl⟩
  | cons m rest ih =>
    obtain ⟨result, h, hop⟩ := hstep n m
    rw [List.map_cons, List.foldlM_cons, hop]
    cases result with
    | error fault => exact ⟨.error fault, .failed rest h, rfl⟩
    | ok c =>
      obtain ⟨result, hrest, hrun⟩ := ih c
      exact ⟨result, .next h hrest, hrun⟩

/-! ### Sums, differences and products -/

/-- The operations that give exact whole numbers. -/
inductive Exact where
  /-- The sum. -/
  | sum
  /-- The difference. -/
  | difference
  /-- The product. -/
  | product

namespace Exact

/-- The operation. -/
def operation : Exact → Operation
  | sum => .add
  | difference => .subtract
  | product => .multiply

/-- What it computes. -/
def apply : Exact → Int → Int → Int
  | sum => (· + ·)
  | difference => (· - ·)
  | product => (· * ·)

/-- The exact results of combining a number with none, one and more of the others. -/
def results (e : Exact) (n : Int64) (ns : List Int64) : List Int :=
  (ns.map Int64.toInt).scanl e.apply n.toInt

/-- The exact result of combining a number with all others. -/
def result (e : Exact) (n : Int64) (ns : List Int64) : Int :=
  (ns.map Int64.toInt).foldl e.apply n.toInt

/-- One step gives the exact number, or is refused if that does not fit. -/
inductive Step (e : Exact) (a b : Int64) : Except Fault Int64 → Prop
  /-- The number fits. -/
  | fits {c : Int64} (h : c.toInt = e.apply a.toInt b.toInt) : Step e a b (.ok c)
  /-- It does not. -/
  | refused (h : ¬ Fits (e.apply a.toInt b.toInt)) :
    Step e a b (.error (.integerOverflow e.operation.name))

theorem exists_step (e : Exact) {op : Value → Value → Except Fault Value}
    (rounded : Float → Float → Float) {a b : Int64}
    (hop : op (.int a) (.int b) =
      numeric e.operation.name e.apply rounded (.int a) (.int b)) :
    ∃ result, e.Step a b result ∧ op (.int a) (.int b) = result.map .int := by
  rw [hop]
  unfold numeric
  by_cases h : Fits (e.apply a.toInt b.toInt)
  · obtain ⟨c, hfit, hc⟩ := fit64_of_fits h
    exact ⟨.ok c, .fits hc, by simp only [hfit]; rfl⟩
  · exact ⟨_, .refused h, by simp only [fit64_of_not_fits h]; rfl⟩

theorem exists_folds (e : Exact) (n : Int64) (ns : List Int64) :
    ∃ result, Folds e.Step n ns result ∧
      e.operation.run ((n :: ns).map .int) = Stop.lift (result.map .int) := by
  obtain ⟨op, hrun, hstep⟩ : ∃ op : Value → Value → Except Fault Value,
      (∀ args, e.operation.run args = Stop.lift (combine e.operation.name op args)) ∧
        ∀ a b, ∃ result, e.Step a b result ∧ op (.int a) (.int b) = result.map .int := by
    cases e with
    | sum => exact ⟨Operation.sum, fun _ => rfl, fun _ _ => exists_step .sum (· + ·) rfl⟩
    | difference =>
      exact ⟨Operation.difference, fun _ => rfl, fun _ _ => exists_step .difference (· - ·) rfl⟩
    | product =>
      exact ⟨Operation.product, fun _ => rfl, fun _ _ => exists_step .product (· * ·) rfl⟩
  obtain ⟨result, hfolds, hfoldlM⟩ := Operation.exists_folds hstep n ns
  exact ⟨result, hfolds, by rw [hrun, ← hfoldlM]; rfl⟩

/-- Combining gives the exact result if all results on the way fit, and else is refused. -/
theorem of_folds (e : Exact) {n : Int64} {ns : List Int64} {result : Except Fault Int64}
    (h : Folds e.Step n ns result) :
    (∀ m ∈ e.results n ns, Fits m) ∧ (∃ w, result = .ok w ∧ w.toInt = e.result n ns) ∨
      (¬ ∀ m ∈ e.results n ns, Fits m) ∧
        result = .error (.integerOverflow e.operation.name) := by
  induction h with
  | done a =>
    refine .inl ⟨fun m hm => ?_, a, rfl, rfl⟩
    obtain rfl : m = a.toInt := by simpa [results] using hm
    exact fits_toInt a
  | @failed a b fault rest h =>
    cases h with
    | refused h =>
      refine .inr ⟨fun hall => h (hall _ ?_), rfl⟩
      cases rest <;> simp [results, List.scanl_cons]
  | @next a b c rest result h _ ih =>
    cases h with
    | fits h =>
      have hresults : e.results a (b :: rest) = a.toInt :: e.results c rest := by
        simp [results, List.scanl_cons, h]
      have hresult : e.result a (b :: rest) = e.result c rest := by
        simp [Exact.result, h]
      rw [hresults, hresult, List.forall_mem_cons, and_iff_right (fits_toInt a)]
      exact ih

end Exact

/-! ### The modulus -/

/-- The remainder of a division that leaves one of the sign of the divisor. -/
structure Floored (a b r : Int) : Prop where
  /-- It is a remainder. -/
  dvd : b ∣ a - r
  /-- It is less than the divisor. -/
  small : r.natAbs < b.natAbs
  /-- It is zero or has the divisor's sign. -/
  sign : r = 0 ∨ r.sign = b.sign

theorem Floored.unique {a b r r' : Int} (h : Floored a b r) (h' : Floored a b r') : r = r' := by
  have hdvd : b ∣ r - r' := by
    have hsub := Int.dvd_sub h'.dvd h.dvd
    rwa [show a - r' - (a - r) = r - r' by omega] at hsub
  have hbounds (r : Int) (h : Floored a b r) : 0 ≤ r ∧ 0 ≤ b ∨ r ≤ 0 ∧ b ≤ 0 := by
    rcases h.sign with rfl | hsign
    · omega
    · rcases Int.lt_trichotomy b 0 with hneg | rfl | hpos
      · rw [Int.sign_eq_neg_one_of_neg hneg, Int.sign_eq_neg_one_iff_neg] at hsign
        omega
      · rw [Int.sign_zero, Int.sign_eq_zero_iff_zero] at hsign
        omega
      · rw [Int.sign_eq_one_of_pos hpos, Int.sign_eq_one_iff_pos] at hsign
        omega
  -- both are between zero and the divisor, so their distance is less than the divisor
  have hsmall : (r - r').natAbs < b.natAbs := by
    have hr := hbounds r h
    have hr' := hbounds r' h'
    have hless := h.small
    have hless' := h'.small
    omega
  have hzero := Int.eq_zero_of_dvd_of_natAbs_lt_natAbs hdvd hsmall
  omega

/-- It is less than a divisor of 64 bits, so it has no more. -/
theorem Floored.fits {a r : Int} {b : Int64} (h : Floored a b.toInt r) : Fits r := by
  have hsmall := h.small
  have hb := fits_toInt b
  unfold Fits at hb ⊢
  omega

/-- The remainder of a division toward zero, moved by the divisor if their signs differ. -/
theorem floored_tmod (a : Int) {b : Int} (hb : b ≠ 0) :
    Floored a b (if a.tmod b ≠ 0 ∧ decide (a.tmod b < 0) ≠ decide (b < 0)
      then a.tmod b + b else a.tmod b) := by
  have hdvd : b ∣ a - a.tmod b := Int.dvd_self_sub_tmod
  have hsmall : (a.tmod b).natAbs < b.natAbs := by
    rw [Int.natAbs_tmod]
    exact Nat.mod_lt _ (by omega)
  generalize a.tmod b = r at *
  split
  · rename_i hmove
    rw [ne_eq, ne_eq, decide_eq_decide] at hmove
    refine ⟨?_, by omega, .inr ?_⟩
    · rw [show a - (r + b) = a - r - b by omega]
      exact Int.dvd_sub hdvd (Int.dvd_refl b)
    · rcases Int.lt_or_gt_of_ne hb with hneg | hpos
      · rw [Int.sign_eq_neg_one_of_neg hneg, Int.sign_eq_neg_one_iff_neg]
        omega
      · rw [Int.sign_eq_one_of_pos hpos, Int.sign_eq_one_iff_pos]
        omega
  · rename_i hstay
    rw [ne_eq, ne_eq, decide_eq_decide] at hstay
    refine ⟨hdvd, hsmall, ?_⟩
    rcases Int.lt_trichotomy r 0 with hneg | hzero | hpos
    · have hb' : b < 0 := by omega
      exact .inr (by rw [Int.sign_eq_neg_one_of_neg hneg, Int.sign_eq_neg_one_of_neg hb'])
    · exact .inl hzero
    · have hb' : 0 < b := by omega
      exact .inr (by rw [Int.sign_eq_one_of_pos hpos, Int.sign_eq_one_of_pos hb'])

/-- Moving a remainder by the divisor never makes it too great. -/
theorem fits_moved (a : Int) {b : Int64}
    (h : a.tmod b.toInt < 0 ∧ 0 < b.toInt ∨ 0 < a.tmod b.toInt ∧ b.toInt < 0) :
    Fits (a.tmod b.toInt + b.toInt) := by
  have hfloored := floored_tmod a (b := b.toInt) (by omega)
  rw [if_pos (by rw [ne_eq, ne_eq, decide_eq_decide]; omega)] at hfloored
  exact hfloored.fits

/-- What one step of `mod` gives. -/
inductive ModStep (a b : Int64) : Except Fault Int64 → Prop
  /-- There is no remainder of a division by zero. -/
  | zero (h : b = 0) : ModStep a b (.error (.zeroDivision "integer modulo by zero"))
  /-- The quotient of the least number and minus one does not fit. -/
  | least (ha : a = Int64.minValue) (hb : b = -1) :
    ModStep a b (.error (.integerOverflow "mod"))
  /-- Any other two numbers have a remainder with the sign of the divisor. -/
  | floored {r : Int64} (hb : b ≠ 0) (hleast : ¬ (a = Int64.minValue ∧ b = -1))
    (h : Floored a.toInt b.toInt r.toInt) : ModStep a b (.ok r)

theorem exists_modStep (a b : Int64) :
    ∃ result, ModStep a b result ∧ modulus (.int a) (.int b) = result.map .int := by
  show ∃ result, ModStep a b result ∧ wholeModulus a b = result.map .int
  unfold wholeModulus
  by_cases hzero : b = 0
  · rw [if_pos hzero]
    exact ⟨_, .zero hzero, rfl⟩
  by_cases hleast : a = Int64.minValue ∧ b = -1
  · rw [if_neg hzero, if_pos hleast]
    exact ⟨_, .least hleast.1 hleast.2, rfl⟩
  have hb : b.toInt ≠ 0 := fun h => hzero (Int64.toInt_inj.mp (h.trans Int64.toInt_zero.symm))
  have hfloored := floored_tmod a.toInt hb
  obtain ⟨r, hfit, hr⟩ := fit64_of_fits hfloored.fits
  rw [if_neg hzero, if_neg hleast]
  dsimp only
  rw [hfit]
  exact ⟨.ok r, .floored hzero hleast (by rwa [hr]), rfl⟩

theorem exists_folds_modStep (n : Int64) (ns : List Int64) :
    ∃ result, Folds ModStep n ns result ∧
      modulo.run ((n :: ns).map .int) = Stop.lift (result.map .int) := by
  obtain ⟨result, hfolds, hfoldlM⟩ := exists_folds exists_modStep n ns
  exact ⟨result, hfolds, by rw [← hfoldlM]; rfl⟩

/-- **Whole numbers are combined exactly, or not at all.**  A sum, difference or product of one or
more numbers is the exact result if and only if all results on the way have 64 bits, and otherwise
it is refused; a modulus is taken step by step, the first step that has none decides, and moving a
remainder to the sign of the divisor never makes it too great. -/
theorem arithmetic_exact_or_refused (n : Int64) (ns : List Int64) :
    (∀ e : Exact,
      ((∃ w, e.operation.run ((n :: ns).map .int) = .ok (.int w) ∧ w.toInt = e.result n ns) ↔
        ∀ m ∈ e.results n ns, Fits m) ∧
      ((¬ ∀ m ∈ e.results n ns, Fits m) →
        e.operation.run ((n :: ns).map .int) =
          .error (.fault (.integerOverflow e.operation.name))) ∧
      ∃ result, Folds e.Step n ns result ∧
        e.operation.run ((n :: ns).map .int) = Stop.lift (result.map .int)) ∧
      (∃ result, Folds ModStep n ns result ∧
        modulo.run ((n :: ns).map .int) = Stop.lift (result.map .int)) ∧
      (∀ a b r r', Floored a b r → Floored a b r' → r = r') ∧
      (∀ a b : Int64, a.toInt.tmod b.toInt < 0 ∧ 0 < b.toInt ∨
        0 < a.toInt.tmod b.toInt ∧ b.toInt < 0 → Fits (a.toInt.tmod b.toInt + b.toInt)) ∧
      (∀ operator, (Fault.integerOverflow operator).kind = .arithmetic) ∧
      ∀ message, (Fault.zeroDivision message).kind = .zeroDivision := by
  refine ⟨fun e => ?_, exists_folds_modStep n ns, fun _ _ _ _ h h' => h.unique h',
    fun a _ h => fits_moved a.toInt h, fun _ => rfl, fun _ => rfl⟩
  obtain ⟨result, hfolds, hrun⟩ := e.exists_folds n ns
  refine ⟨?_, ?_, result, hfolds, hrun⟩
  · rcases e.of_folds hfolds with ⟨hall, w, rfl, hw⟩ | ⟨hnot, rfl⟩
    · exact iff_of_true ⟨w, hrun, hw⟩ hall
    · refine iff_of_false ?_ hnot
      rintro ⟨w, hok, -⟩
      rw [hrun] at hok
      cases hok
  · intro hnot
    rcases e.of_folds hfolds with ⟨hall, -⟩ | ⟨-, rfl⟩
    · exact absurd hall hnot
    · exact hrun

end FrameLisp.Operation
