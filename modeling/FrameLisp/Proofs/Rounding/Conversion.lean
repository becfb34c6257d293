import FrameLisp.Operation.Order
import FrameLisp.Proofs.Rounding
import Mathlib

/-!
# Whole numbers as floats

A whole number becomes a float in two ways.  Of 53 bits or fewer it is moved up until there are
exactly 53; of more it is moved up first and then all but 53 are rounded away.  Either way a
mantissa of exactly 53 bits comes out (`Whole`), and its value is the number rounded
(`whole_ofInt`).  With the same number of bits in all of them, floats can be compared by their
exponents first, so the order of two converted numbers is that of their roundings
(`floatOrder?_ofInt`).
-/

namespace FrameLisp.Float64

/-! ### Conversion to a float -/

open Float.Model Float.Model.UnpackedFloat

/-- Dropping bits leaves a quotient, its first dropped bit, and whether any other was set. -/
theorem shiftRight_eq (m k : Nat) :
    (ExtendedMantissa.ofMantissaAndAccuracy m .exact >>> k : ExtendedMantissa) =
      { mantissa := m / 2 ^ k
        roundBit := decide (2 ^ k ≤ 2 * (m % 2 ^ k))
        stickyBit := decide (m % 2 ^ k ≠ 0 ∧ 2 * (m % 2 ^ k) ≠ 2 ^ k) } := by
  show k.repeat ExtendedMantissa.shiftRightOne _ = _
  induction k with
  | zero => simp [Nat.repeat, ExtendedMantissa.ofMantissaAndAccuracy, Nat.mod_one]
  | succ k ih =>
    have hlt : m % 2 ^ k < 2 ^ k := Nat.mod_lt _ (Nat.two_pow_pos k)
    have hmod : m % 2 ^ (k + 1) = m % 2 ^ k + 2 ^ k * (m / 2 ^ k % 2) := by
      rw [Nat.pow_succ, Nat.mod_mul]
    have hdiv : m / 2 ^ (k + 1) = m / 2 ^ k / 2 := by
      rw [Nat.pow_succ, Nat.div_div_eq_div_mul]
    have hpow : 2 ^ (k + 1) = 2 * 2 ^ k := by rw [Nat.pow_succ, Nat.mul_comm]
    rw [Nat.repeat, ih, ExtendedMantissa.shiftRightOne, hmod, hdiv, hpow]
    dsimp only
    -- the next bit to drop decides, and what was dropped before is less than it
    rcases Nat.mod_two_eq_zero_or_one (m / 2 ^ k) with hbit | hbit
    · rw [hbit, ← Bool.decide_or]
      congr 1
      · simp
        omega
      · rw [decide_eq_decide]
        omega
    · rw [hbit, ← Bool.decide_or]
      congr 1
      · simp
      · rw [decide_eq_decide]
        omega

theorem roundedMantissa_shiftRight (m k : Nat) :
    (ExtendedMantissa.ofMantissaAndAccuracy m .exact >>> k).roundedMantissa =
      quotientToEven m (2 ^ k) := by
  have hlt : m % 2 ^ k < 2 ^ k := Nat.mod_lt _ (Nat.two_pow_pos k)
  rw [shiftRight_eq]
  unfold ExtendedMantissa.roundedMantissa ExtendedMantissa.accuracy quotientToEven
  generalize m % 2 ^ k = r at *
  generalize m / 2 ^ k = q at *
  generalize 2 ^ k = d at *
  rcases Nat.lt_trichotomy (2 * r) d with hless | heq | hmore
  · have hround : decide (d ≤ 2 * r) = false := decide_eq_false (by omega)
    rw [hround, if_pos (.inl hless)]
    cases decide (r ≠ 0 ∧ 2 * r ≠ d) with
    | false => rfl
    | true => rfl
  · have hround : decide (d ≤ 2 * r) = true := decide_eq_true (by omega)
    have hsticky : decide (r ≠ 0 ∧ 2 * r ≠ d) = false := decide_eq_false (by omega)
    rw [hround, hsticky]
    show q + q % 2 = _
    split <;> omega
  · have hround : decide (d ≤ 2 * r) = true := decide_eq_true (by omega)
    have hsticky : decide (r ≠ 0 ∧ 2 * r ≠ d) = true := decide_eq_true (by omega)
    rw [hround, hsticky, if_neg (by omega)]
    rfl

/-- A float is a whole number.  Its mantissa has exactly 53 bits, and the number is
`mantissa * 2 ^ scale / 2 ^ 52`. -/
inductive Whole : UnpackedFloat → Int → Prop
  /-- Zero, of either sign. -/
  | zero (sign : Sign) : Whole (.zero sign) 0
  /-- Any other. -/
  | normal (sign : Sign) {m scale n : Nat} (hpos : 0 < m) (least : 2 ^ 52 ≤ m) (most : m < 2 ^ 53)
    (bound : scale < 1024) (value : n * 2 ^ 52 = m * 2 ^ scale) :
    Whole (.finite sign m (scale - 52) hpos) (sign.apply n)

theorem log2_eq {m : Nat} (least : 2 ^ 52 ≤ m) (most : m < 2 ^ 53) : m.log2 = 52 :=
  (Nat.log2_eq_iff (by omega)).mpr ⟨least, most⟩

theorem minExponent_eq : Format.binary64.minExponent = -1074 := by decide

theorem mantissaBits_eq : Format.binary64.mantissaBits = 53 := rfl

theorem exponentBias_eq : Format.binary64.exponentBias = 1023 := by decide

theorem unpack_pack (sign : Sign) {m scale : Nat} (hpos : 0 < m) (least : 2 ^ 52 ≤ m)
    (most : m < 2 ^ 53) (bound : scale < 1024) :
    (Float.Model.pack (.finite sign m (scale - 52) hpos)).unpack =
      .finite sign m (scale - 52) hpos := by
  have hlog : m.log2 + 1 = Format.binary64.mantissaBits := by
    rw [log2_eq least most, mantissaBits_eq]
  have hbiased : ((scale : Int) - 52 + Format.binary64.exponentBias +
      Format.binary64.mantissaBitsWithoutImplicit).toNat = scale + 1023 := by
    rw [exponentBias_eq]
    show ((scale : Int) - 52 + 1023 + 52).toNat = _
    omega
  have hback : ((scale + 1023 : Nat) : Int) - (Format.binary64.exponentBias +
      Format.binary64.mantissaBitsWithoutImplicit) = scale - 52 := by
    rw [exponentBias_eq]
    push_cast
    omega
  have hfits : ¬ 2 ^ Format.binary64.exponentBits ≤ scale + 1023 + 1 := by
    show ¬ 2048 ≤ scale + 1023 + 1
    omega
  have hexponent : (BitVec.ofNat 11 (scale + 1023)).toNat = scale + 1023 := by
    rw [BitVec.toNat_ofNat, Nat.mod_eq_of_lt (by omega)]
  -- the exponent is neither that of the infinities nor that of zero
  have hfinite : BitVec.ofNat 11 (scale + 1023) ≠ -1#11 := by
    intro heq
    have hnat := congrArg BitVec.toNat heq
    rw [hexponent, show (-1#11).toNat = 2047 from rfl] at hnat
    omega
  have hnormal : BitVec.ofNat 11 (scale + 1023) ≠ 0#11 := by
    intro heq
    have hnat := congrArg BitVec.toNat heq
    rw [hexponent, show (0#11).toNat = 0 from rfl] at hnat
    omega
  -- the highest bit of the mantissa is left out and put back
  have hmantissa : (1#1 ++ BitVec.ofNat 52 m).toNat = m := by
    rw [BitVec.toNat_append, ← Nat.shiftLeft_add_eq_or_of_lt (BitVec.isLt _), BitVec.toNat_ofNat]
    show 2 ^ 52 + m % 2 ^ 52 = m
    omega
  unfold Float.Model.unpack Float.Model.pack
  dsimp only
  unfold UnpackedFloat.pack
  dsimp only
  rw [hbiased, if_neg hfits, if_pos hlog]
  unfold UnpackedFloat.unpack
  simp only [unpackMantissa_packComponents, unpackExponent_packComponents,
    unpackSign_packComponents, Sign.ofBitVec_toBitVec, if_neg hfinite, if_neg hnormal, hexponent,
    hmantissa, hback]

theorem shiftToTargetExponent_eq {m k : Nat} {e : Int} (hlog : m.log2 = 52 + k)
    (he : -1000 ≤ e) :
    shiftToTargetExponent Format.binary64 m e .exact =
      (ExtendedMantissa.ofMantissaAndAccuracy m .exact >>> k, e + k) := by
  have hshift : (Format.binary64.targetExponent (totalExponent m e) - e).toNat = k := by
    unfold Format.targetExponent totalExponent
    rw [minExponent_eq, mantissaBits_eq]
    omega
  unfold shiftToTargetExponent shiftToExponent
  dsimp only
  rw [hshift]

/-- **What rounding does to a mantissa** of 53 bits and `k` more: it rounds the quotient. -/
theorem whole_roundWithAccuracy (sign : Sign) {m k : Nat} {e : Int} (scale n : Nat)
    (hlog : m.log2 = 52 + k) (he : -1000 ≤ e) (hscale : e + k = scale - 52) (bound : scale < 1023)
    (value : n * 2 ^ 52 = quotientToEven m (2 ^ k) * 2 ^ scale) :
    Whole (roundWithAccuracy Format.binary64 sign m e .exact) (sign.apply n) := by
  obtain ⟨least, most⟩ := quotientToEven_bounds hlog
  unfold roundWithAccuracy
  rw [shiftToTargetExponent_eq hlog he]
  dsimp only
  rw [roundedMantissa_shiftRight]
  generalize quotientToEven m (2 ^ k) = q at *
  rcases Nat.lt_or_eq_of_le most with hlt | rfl
  · have hlog' : q.log2 = 52 + 0 := log2_eq least hlt
    have hq : (ExtendedMantissa.ofMantissaAndAccuracy q .exact >>> 0).mantissa = q := rfl
    have hexponent : e + k + (0 : Nat) = scale - 52 := by omega
    rw [shiftToTargetExponent_eq hlog' (by omega)]
    dsimp only
    rw [dif_neg (by rw [hq]; omega), hexponent]
    exact .normal sign (by omega) least hlt (by omega) value
  · -- rounded up to a power of two, which has one bit more
    have hlog' : (2 ^ 53).log2 = 52 + 1 := Nat.log2_two_pow
    have hq : (ExtendedMantissa.ofMantissaAndAccuracy (2 ^ 53) .exact >>> 1).mantissa = 2 ^ 52 := by
      rw [shiftRight_eq]
      rfl
    have hexponent : e + k + (1 : Nat) = (scale + 1 : Nat) - 52 := by omega
    rw [shiftToTargetExponent_eq hlog' (by omega)]
    dsimp only
    rw [dif_neg (by rw [hq]; decide), hexponent]
    simp only [hq]
    refine .normal sign (by decide) (Nat.le_refl _) (by decide) (by omega) ?_
    rw [value, Nat.pow_succ 2 scale]
    ring

namespace Whole

variable {u v : UnpackedFloat} {a b : Int}

theorem unpack_pack (h : Whole u a) : (Float.Model.pack u).unpack = u := by
  cases h with
  | zero sign => cases sign <;> rfl
  | normal sign hpos least most bound value =>
    exact Float64.unpack_pack sign hpos least most bound

theorem neg (h : Whole u a) : Whole u.neg (-a) := by
  cases h with
  | zero sign => exact .zero (-sign)
  | @normal sign m scale n hpos least most bound value =>
    have hsign : -sign.apply n = (-sign).apply n := by
      cases sign with
      | negative => exact Int.neg_neg _
      | positive => rfl
    rw [hsign]
    exact .normal (-sign) hpos least most bound value

/-- Multiplying by one changes nothing; its mantissa is a one and 52 zeros. -/
theorem mul_one (h : Whole u a) (ha : a.natAbs < 2 ^ 53) {one : UnpackedFloat}
    (hone : one = .finite .positive (2 ^ 52) (-52) (by decide)) :
    Whole (UnpackedFloat.mul Format.binary64 u one) a := by
  subst hone
  cases h with
  | zero sign => exact .zero _
  | @normal sign m scale n hpos least most bound value =>
    have hsign : sign * .positive = sign := by cases sign <;> rfl
    have hlog : (m * 2 ^ 52).log2 = 52 + 52 := by
      rw [log2_mul_two_pow (by omega), log2_eq least most]
    have hn : n < 2 ^ 53 := by
      cases sign with
      | negative =>
        have habs : (-(n : Int)).natAbs < 2 ^ 53 := ha
        rwa [Int.natAbs_neg, Int.natAbs_natCast] at habs
      | positive => exact ha
    have hscale : scale < 53 := by
      have hle : 2 ^ 52 * 2 ^ scale ≤ m * 2 ^ scale := Nat.mul_le_mul_right _ least
      exact (Nat.pow_lt_pow_iff_right (by decide)).mp (by omega : 2 ^ scale < 2 ^ 53)
    show Whole (roundWithAccuracy _ (sign * .positive) (m * 2 ^ 52) (scale - 52 + -52) .exact) _
    rw [hsign]
    refine whole_roundWithAccuracy sign scale n hlog (by omega) (by omega) (by omega) ?_
    rw [quotientToEven_self _ (by decide)]
    exact value

end Whole

/-- Few enough bits are moved up until there are 53. -/
theorem whole_unpackedOfInt {n : Nat} (hn : n < 2 ^ 53) :
    Whole (UnpackedFloat.ofInt Format.binary64 n) n := by
  rcases Nat.eq_zero_or_pos n with rfl | hpos
  · exact .zero _
  have hlog : n.log2 < 53 := (Nat.log2_lt (by omega)).mpr hn
  have hgt : compare (n : Int) 0 = .gt := Int.compare_eq_gt.mpr (by omega)
  have hshift : (0 - Format.binary64.targetExponent (totalExponent n 0)).toNat = 52 - n.log2 := by
    unfold Format.targetExponent totalExponent
    rw [minExponent_eq, mantissaBits_eq]
    omega
  unfold UnpackedFloat.ofInt UnpackedFloat.normalize
  rw [hgt]
  dsimp only
  unfold UnpackedFloat.round decreaseExponent
  dsimp only
  rw [Int.toNat_natCast, hshift, Nat.shiftLeft_eq]
  refine whole_roundWithAccuracy .positive n.log2 n (k := 0) ?_ (by omega) (by omega) (by omega) ?_
  · rw [log2_mul_two_pow (by omega)]
    omega
  · rw [Nat.pow_zero, quotientToEven_one, Nat.mul_assoc, ← Nat.pow_add,
      Nat.sub_add_cancel (by omega)]

theorem unpack_mul (x y : Float) :
    (x * y).toModel.unpack =
      (Float.Model.pack
        (UnpackedFloat.mul Format.binary64 x.toModel.unpack y.toModel.unpack)).unpack :=
  rfl

/-- Of 53 bits none is lost. -/
theorem whole_ofNat_of_lt {n : Nat} (hn : n < 2 ^ 53) :
    Whole (Float.ofNat n).toModel.unpack n := by
  have hword : n.toUInt64.toNat = n := UInt64.toNat_ofNat_of_lt' (by show n < 2 ^ 64; omega)
  have hfloat : Whole n.toUInt64.toFloat.toModel.unpack n := by
    have hwhole := whole_unpackedOfInt hn
    show Whole (Float.Model.pack (UnpackedFloat.ofInt _ n.toUInt64.toNat)).unpack n
    rw [hword, hwhole.unpack_pack]
    exact hwhole
  -- the power of ten that the number is multiplied by is the first
  have hone (h : 0 < Float.exactlyRepresentablePowersOfTen.size) :
      Float.exactlyRepresentablePowersOfTen[0].toModel.unpack =
        .finite .positive (2 ^ 52) (-52) (by decide) := by
    show (Float.ofBits 0x3FF0000000000000).toModel.unpack = _
    rfl
  have hmul := hfloat.mul_one hn (hone (by decide))
  show Whole (Float.ofScientific n false 0).toModel.unpack _
  unfold Float.ofScientific
  rw [dif_pos ⟨hn, by decide⟩]
  dsimp only
  rw [if_neg Bool.false_ne_true, unpack_mul, hmul.unpack_pack]
  exact hmul

/-- Of more than 53 bits all others are rounded away. -/
theorem whole_ofNat_of_le {n : Nat} (hlow : 2 ^ 53 ≤ n) (hhigh : n < 2 ^ 64) :
    Whole (Float.ofNat n).toModel.unpack (roundedNat n) := by
  have hne : n ≠ 0 := by omega
  have hlog : 53 ≤ n.log2 := (Nat.le_log2 hne).mpr hlow
  have hlog' : n.log2 < 64 := (Nat.log2_lt hne).mpr hhigh
  have hround : Whole (roundWithAccuracy Format.binary64 .positive (n * 2 ^ 53) (-53) .exact)
      (roundedNat n) := by
    have hbits : (n * 2 ^ 53).log2 = 52 + (n.log2 - 52 + 53) := by
      rw [log2_mul_two_pow hne]
      omega
    refine whole_roundWithAccuracy .positive n.log2 (roundedNat n) hbits (by omega) (by omega)
      (by omega) ?_
    unfold roundedNat spacing
    rw [Nat.pow_add, quotientToEven_mul _ _ (by decide), Nat.mul_assoc, ← Nat.pow_add,
      Nat.sub_add_cancel (by omega)]
  have hscientific : UnpackedFloat.ofScientific Format.binary64 n 0 =
      roundWithAccuracy Format.binary64 .positive (n * 2 ^ 53) (-53) .exact := by
    unfold UnpackedFloat.ofScientific
    rw [dif_neg hne, if_neg (by decide), if_neg (by show ¬ (0 : Int) < -(2 ^ 11 + _); omega),
      if_pos (by decide)]
    show roundWithAccuracy Format.binary64 (.positive * .positive)
      ((n <<< Format.binary64.mantissaBits) * 10 ^ (0 : Int).toNat)
      (-(Format.binary64.mantissaBits : Int) + 0) .exact = _
    rw [mantissaBits_eq, Nat.shiftLeft_eq, Int.toNat_zero, Nat.pow_zero, Nat.mul_one]
    rfl
  show Whole (Float.ofScientific n false 0).toModel.unpack _
  unfold Float.ofScientific
  rw [dif_neg fun h => absurd h.1 (by omega)]
  show Whole (Float.Model.pack (UnpackedFloat.ofScientific Format.binary64 n 0)).unpack _
  rw [hscientific, hround.unpack_pack]
  exact hround

/-- **The float of a whole number is the number rounded.** -/
theorem whole_ofInt {n : Int} (hn : n.natAbs < 2 ^ 64) :
    Whole (Float.ofInt n).toModel.unpack (rounded n) := by
  have hnat {n : Nat} (hn : n < 2 ^ 64) : Whole (Float.ofNat n).toModel.unpack (rounded n) := by
    rw [rounded_natCast]
    rcases Nat.lt_or_ge n (2 ^ 53) with hlt | hge
    · rw [roundedNat_of_lt hlt]
      exact whole_ofNat_of_lt hlt
    · exact whole_ofNat_of_le hge hn
  cases n with
  | ofNat n => exact hnat hn
  | negSucc n =>
    have hwhole := (hnat (n := n + 1) hn).neg
    rw [← rounded_neg] at hwhole
    show Whole (Float.Model.pack (Float.ofNat (n + 1)).toModel.unpack.neg).unpack _
    rw [hwhole.unpack_pack]
    exact hwhole

/-! ### The order of floats that are whole numbers -/

section Magnitudes

variable {m m' scale scale' n n' : Nat}

/-- A greater exponent makes a greater number, whatever the mantissas are. -/
theorem lt_of_scale_lt (least : 2 ^ 52 ≤ m') (most : m < 2 ^ 53)
    (value : n * 2 ^ 52 = m * 2 ^ scale) (value' : n' * 2 ^ 52 = m' * 2 ^ scale')
    (h : scale < scale') : n < n' := by
  have hscaled : n * 2 ^ 52 < n' * 2 ^ 52 := by
    calc n * 2 ^ 52 = m * 2 ^ scale := value
      _ < 2 ^ 53 * 2 ^ scale := Nat.mul_lt_mul_of_pos_right most (Nat.two_pow_pos scale)
      _ = 2 ^ 52 * 2 ^ (scale + 1) := by ring
      _ ≤ 2 ^ 52 * 2 ^ scale' := Nat.mul_le_mul_left _ (Nat.pow_le_pow_right (by decide) h)
      _ ≤ m' * 2 ^ scale' := Nat.mul_le_mul_right _ least
      _ = n' * 2 ^ 52 := value'.symm
  omega

/-- With the same exponent, the greater mantissa makes the greater number. -/
theorem lt_of_mantissa_lt (value : n * 2 ^ 52 = m * 2 ^ scale)
    (value' : n' * 2 ^ 52 = m' * 2 ^ scale) (h : m < m') : n < n' := by
  have hscaled : m * 2 ^ scale < m' * 2 ^ scale :=
    Nat.mul_lt_mul_of_pos_right h (Nat.two_pow_pos scale)
  omega

theorem compare_magnitudes (least : 2 ^ 52 ≤ m) (most : m < 2 ^ 53) (least' : 2 ^ 52 ≤ m')
    (most' : m' < 2 ^ 53) (value : n * 2 ^ 52 = m * 2 ^ scale)
    (value' : n' * 2 ^ 52 = m' * 2 ^ scale') :
    (compare ((scale : Int) - 52) (scale' - 52)).then (compare m m') =
      compare (n : Int) n' := by
  rcases Nat.lt_trichotomy scale scale' with hlt | rfl | hgt
  · have hn := lt_of_scale_lt least' most value value' hlt
    rw [compare_lt_iff_lt.mpr (by omega : (scale : Int) - 52 < scale' - 52),
      compare_lt_iff_lt.mpr (Int.ofNat_lt.mpr hn)]
    rfl
  · rw [compare_eq_iff_eq.mpr rfl]
    show compare m m' = _
    rcases Nat.lt_trichotomy m m' with hm | rfl | hm
    · have hn := lt_of_mantissa_lt value value' hm
      rw [compare_lt_iff_lt.mpr hm, compare_lt_iff_lt.mpr (by omega)]
    · rw [compare_eq_iff_eq.mpr rfl, compare_eq_iff_eq.mpr (by omega)]
    · have hn := lt_of_mantissa_lt value' value hm
      rw [compare_gt_iff_gt.mpr hm, compare_gt_iff_gt.mpr (by omega)]
  · have hn := lt_of_scale_lt least most' value' value hgt
    rw [compare_gt_iff_gt.mpr (by omega : (scale : Int) - 52 > scale' - 52),
      compare_gt_iff_gt.mpr (Int.ofNat_lt.mpr hn)]
    rfl

theorem compare_neg_neg (a b : Int) : compare (-a) (-b) = (compare a b).swap := by
  rcases Int.lt_trichotomy a b with hlt | rfl | hgt
  · rw [compare_lt_iff_lt.mpr hlt, compare_gt_iff_gt.mpr (by omega)]
    rfl
  · rw [compare_eq_iff_eq.mpr rfl, compare_eq_iff_eq.mpr rfl]
    rfl
  · rw [compare_gt_iff_gt.mpr hgt, compare_lt_iff_lt.mpr (by omega)]
    rfl

end Magnitudes

/-- Floats that are whole numbers are ordered as those are. -/
theorem Whole.compare_eq {u v : UnpackedFloat} {a b : Int} (hu : Whole u a) (hv : Whole v b) :
    u.compare v = some (compare a b) := by
  have hpositive {m scale n : Nat} (hpos : 0 < m) (value : n * 2 ^ 52 = m * 2 ^ scale) :
      0 < (n : Int) := by
    have hscaled : 0 < m * 2 ^ scale := Nat.mul_pos hpos (Nat.two_pow_pos scale)
    omega
  cases hu with
  | zero sign =>
    cases hv with
    | zero sign' => rfl
    | normal sign' hpos' least' most' bound' value' =>
      have hb := hpositive hpos' value'
      cases sign' with
      | negative => exact congrArg some (compare_gt_iff_gt.mpr (Int.neg_neg_of_pos hb)).symm
      | positive => exact congrArg some (compare_lt_iff_lt.mpr hb).symm
  | normal sign hpos least most bound value =>
    have ha := hpositive hpos value
    cases hv with
    | zero sign' =>
      cases sign with
      | negative => exact congrArg some (compare_lt_iff_lt.mpr (Int.neg_neg_of_pos ha)).symm
      | positive => exact congrArg some (compare_gt_iff_gt.mpr ha).symm
    | normal sign' hpos' least' most' bound' value' =>
      have hb := hpositive hpos' value'
      have hmagnitudes := compare_magnitudes least most least' most' value value'
      cases sign <;> cases sign'
      case negative.negative =>
        exact congrArg some ((congrArg Ordering.swap hmagnitudes).trans (compare_neg_neg _ _).symm)
      case negative.positive =>
        exact congrArg some (compare_lt_iff_lt.mpr ((Int.neg_neg_of_pos ha).trans hb)).symm
      case positive.negative =>
        exact congrArg some (compare_gt_iff_gt.mpr ((Int.neg_neg_of_pos hb).trans ha)).symm
      case positive.positive => exact congrArg some hmagnitudes

/-- **Whole numbers are ordered as floats in the order of what they are rounded to.** -/
theorem floatOrder?_ofInt {a b : Int} (ha : a.natAbs < 2 ^ 64) (hb : b.natAbs < 2 ^ 64) :
    Operation.floatOrder? (Float.ofInt a) (Float.ofInt b) =
      some (compare (rounded a) (rounded b)) := by
  have hab := (whole_ofInt ha).compare_eq (whole_ofInt hb)
  have hba := (whole_ofInt hb).compare_eq (whole_ofInt ha)
  have hless (x y : Float) : x < y ↔ x.toModel.unpack.compare y.toModel.unpack = some .lt := by
    show decide ((x.toModel.unpack.compare y.toModel.unpack == some .lt) = true) = true ↔ _
    rw [decide_eq_true_iff, beq_iff_eq]
  have hsame (x y : Float) :
      (x == y) = true ↔ x.toModel.unpack.compare y.toModel.unpack = some .eq := by
    show (x.toModel.unpack.compare y.toModel.unpack == some .eq) = true ↔ _
    rw [beq_iff_eq]
  unfold Operation.floatOrder?
  simp only [hless, hsame, hab, hba, Option.some.injEq, compare_lt_iff_lt, compare_eq_iff_eq]
  rcases Int.lt_trichotomy (rounded a) (rounded b) with hlt | heq | hgt
  · rw [if_pos hlt, compare_lt_iff_lt.mpr hlt]
  · rw [if_neg (by omega), if_pos heq, compare_eq_iff_eq.mpr heq]
  · rw [if_neg (by omega), if_neg (by omega), if_pos hgt, compare_gt_iff_gt.mpr hgt]

end FrameLisp.Float64
