import EventText.Number.Double
import Mathlib

namespace EventText.Double

open Float.Model Float.Model.UnpackedFloat

-- The doubles of integers, as the integers that they are. A double has 53 significant bits, so
-- that from 2⁵³ on not every integer is one.

-- The quotient rounded to the nearest integer, a half to the even one.
def divideToEven (n d : Nat) : Nat :=
  if 2 * (n % d) < d then n / d
  else if 2 * (n % d) = d then n / d + n / d % 2
  else n / d + 1

theorem divideToEven_bounds (n d : Nat) :
    n / d ≤ divideToEven n d ∧ divideToEven n d ≤ n / d + 1 := by
  unfold divideToEven
  split
  · omega
  · split <;> omega

theorem divideToEven_mono {m n : Nat} (d : Nat) (h : m ≤ n) :
    divideToEven m d ≤ divideToEven n d := by
  obtain hlt | heq := Nat.lt_or_eq_of_le (Nat.div_le_div_right (c := d) h)
  · exact (divideToEven_bounds m d).2.trans (Nat.le_trans hlt (divideToEven_bounds n d).1)
  · have hm := Nat.div_add_mod m d
    have hn := Nat.div_add_mod n d
    rw [heq] at hm
    have hrest : m % d ≤ n % d := by omega
    unfold divideToEven
    rw [heq]
    split <;> split <;> (try split) <;> (try split) <;> omega

@[simp] theorem divideToEven_one (n : Nat) : divideToEven n 1 = n := by
  simp [divideToEven, Nat.mod_one]

-- A number of `k` bits more than a mantissa has is brought to its size.
theorem divideToEven_range {m k : Nat} (h : m.log2 = 52 + k) :
    2 ^ 52 ≤ divideToEven m (2 ^ k) ∧ divideToEven m (2 ^ k) ≤ 2 ^ 53 := by
  have hne : m ≠ 0 := by
    rintro rfl
    simp at h
    omega
  obtain ⟨hlow, hhigh⟩ := (Nat.log2_eq_iff hne).mp h
  have hfloor : 2 ^ 52 ≤ m / 2 ^ k := by
    rw [Nat.le_div_iff_mul_le (Nat.two_pow_pos k), ← Nat.pow_add]
    exact hlow
  have hceil : m / 2 ^ k < 2 ^ 53 := by
    rw [Nat.div_lt_iff_lt_mul (Nat.two_pow_pos k), ← Nat.pow_add, Nat.add_right_comm 52 1 k]
    exact hhigh
  have := divideToEven_bounds m (2 ^ k)
  omega

-- The nearest natural number of 53 significant bits, a tie to the even mantissa.
def nearestNat (n : Nat) : Nat := divideToEven n (2 ^ (n.log2 - 52)) * 2 ^ (n.log2 - 52)

theorem nearestNat_bounds {n : Nat} (hn : n ≠ 0) :
    2 ^ n.log2 ≤ nearestNat n ∧ nearestNat n ≤ 2 ^ (n.log2 + 1) := by
  obtain h | h := Nat.lt_or_ge n.log2 52
  · have hnone : n.log2 - 52 = 0 := by omega
    simp only [nearestNat, hnone, Nat.pow_zero, divideToEven_one, Nat.mul_one]
    exact ⟨Nat.log2_self_le hn, Nat.lt_log2_self.le⟩
  · obtain ⟨k, hk⟩ := Nat.exists_eq_add_of_le h
    obtain ⟨hlow, hhigh⟩ := divideToEven_range hk
    rw [nearestNat, hk, Nat.add_sub_cancel_left, Nat.add_right_comm, Nat.pow_add, Nat.pow_add]
    exact ⟨Nat.mul_le_mul_right _ hlow, Nat.mul_le_mul_right _ hhigh⟩

theorem nearestNat_pos {n : Nat} (hn : n ≠ 0) : 0 < nearestNat n :=
  Nat.lt_of_lt_of_le (Nat.two_pow_pos _) (nearestNat_bounds hn).1

theorem nearestNat_mono {m n : Nat} (h : m ≤ n) : nearestNat m ≤ nearestNat n := by
  rcases Nat.eq_zero_or_pos m with rfl | hm
  · exact Nat.zero_le _
  · have hlog : m.log2 ≤ n.log2 :=
      (Nat.le_log2 (by omega)).mpr ((Nat.log2_self_le hm.ne').trans h)
    obtain hlt | heq := Nat.lt_or_eq_of_le hlog
    · calc nearestNat m ≤ 2 ^ (m.log2 + 1) := (nearestNat_bounds hm.ne').2
        _ ≤ 2 ^ n.log2 := Nat.pow_le_pow_right (by decide) hlt
        _ ≤ nearestNat n := (nearestNat_bounds (by omega)).1
    · rw [nearestNat, nearestNat, heq]
      exact Nat.mul_le_mul_right _ (divideToEven_mono _ h)

-- The nearest double keeps the sign of an integer.
def nearest (n : Int) : Int := if n < 0 then -(nearestNat n.natAbs) else nearestNat n.natAbs

theorem nearest_natCast (n : Nat) : nearest n = nearestNat n :=
  if_neg (Int.not_lt.mpr (Int.natCast_nonneg n))

theorem nearest_mono {m n : Int} (h : m ≤ n) : nearest m ≤ nearest n := by
  unfold nearest
  split <;> split
  · have := nearestNat_mono (m := n.natAbs) (n := m.natAbs) (by omega)
    omega
  · omega
  · omega
  · have := nearestNat_mono (m := m.natAbs) (n := n.natAbs) (by omega)
    omega

theorem nearest_ne_zero {n : Int} (hn : n ≠ 0) : nearest n ≠ 0 := by
  have := nearestNat_pos (n := n.natAbs) (by omega)
  unfold nearest
  split <;> omega

-- Rounding a mantissa. What is shifted out leaves its highest bit and a mark for the others,
-- and these two say how the rest compares with a half.

theorem shiftRight_succ (m k : Nat) :
    ExtendedMantissa.mk m false false >>> (k + 1)
      = ⟨m / 2 ^ (k + 1), m / 2 ^ k % 2 != 0, m % 2 ^ k != 0⟩ := by
  induction k with
  | zero =>
      simp [HShiftRight.hShiftRight, Nat.repeat, ExtendedMantissa.shiftRightOne, Nat.mod_one]
  | succ k ih =>
      have hmod : m % 2 ^ (k + 1) = m % 2 ^ k + 2 ^ k * (m / 2 ^ k % 2) := Nat.mod_pow_succ
      have hone : ExtendedMantissa.mk m false false >>> (k + 2)
          = (ExtendedMantissa.mk m false false >>> (k + 1)).shiftRightOne := rfl
      rw [hone, ih, ExtendedMantissa.shiftRightOne]
      simp only [ExtendedMantissa.mk.injEq]
      refine ⟨?_, trivial, ?_⟩
      · rw [Nat.div_div_eq_div_mul, ← Nat.pow_succ]
      · obtain hbit | hbit := Nat.mod_two_eq_zero_or_one (m / 2 ^ k) <;> simp [hmod, hbit]

theorem mantissa_shiftRight (m k : Nat) :
    (ExtendedMantissa.mk m false false >>> k).mantissa = m / 2 ^ k := by
  cases k with
  | zero => simp [HShiftRight.hShiftRight, Nat.repeat]
  | succ k => rw [shiftRight_succ]

theorem roundedMantissa_shiftRight (m k : Nat) :
    (ExtendedMantissa.mk m false false >>> k).roundedMantissa = divideToEven m (2 ^ k) := by
  cases k with
  | zero =>
      rw [Nat.pow_zero, divideToEven_one]
      rfl
  | succ k =>
      have hmod : m % 2 ^ (k + 1) = m % 2 ^ k + 2 ^ k * (m / 2 ^ k % 2) := Nat.mod_pow_succ
      have hlt : m % 2 ^ k < 2 ^ k := Nat.mod_lt _ (Nat.two_pow_pos k)
      have hdouble : (2 ^ (k + 1) : Nat) = 2 * 2 ^ k := Nat.pow_succ'
      rw [shiftRight_succ, divideToEven, hmod]
      obtain hround | hround := Nat.mod_two_eq_zero_or_one (m / 2 ^ k) <;>
        cases hsticky : m % 2 ^ k != 0 <;> simp at hsticky <;> rw [hround]
      · rw [if_pos (by omega)]
        rfl
      · rw [if_pos (by omega)]
        rfl
      · rw [if_neg (by omega), if_pos (by omega)]
        rfl
      · rw [if_neg (by omega), if_neg (by omega)]
        rfl

theorem shiftToTargetExponent_eq (m : Nat) {e : Int} (h : -1022 ≤ m.log2 + e) :
    shiftToTargetExponent Format.binary64 m e .exact
      = (ExtendedMantissa.mk m false false >>> (m.log2 - 52), e + (m.log2 - 52 : Nat)) := by
  have htarget : Format.binary64.targetExponent (totalExponent m e) = m.log2 + e - 52 := by
    simp only [Format.targetExponent, totalExponent, Format.mantissaBits, Format.minExponent]
    omega
  have hshift : (m.log2 + e - 52 - e).toNat = m.log2 - 52 := by omega
  simp only [shiftToTargetExponent, shiftToExponent, htarget, hshift,
    ExtendedMantissa.ofMantissaAndAccuracy]

-- Rounding may carry into one bit more. The mantissa is then a power of two and is halved.
theorem roundWithAccuracy_eq (sign : Sign) {m k : Nat} {e : Int} (hm : m.log2 = 52 + k)
    (he : -1022 ≤ e) : ∃ mantissa up, ∃ hpos : 0 < mantissa,
      roundWithAccuracy Format.binary64 sign m e .exact
        = .finite sign mantissa (e + (k + up : Nat)) hpos ∧
      (2 ^ 52 ≤ mantissa ∧ mantissa < 2 ^ 53) ∧ up ≤ 1 ∧
      mantissa * 2 ^ up = divideToEven m (2 ^ k) := by
  have hk : m.log2 - 52 = k := by omega
  obtain ⟨hlow, hhigh⟩ := divideToEven_range hm
  generalize hr : divideToEven m (2 ^ k) = r at hlow hhigh ⊢
  have hlog : 52 ≤ r.log2 := (Nat.le_log2 (by omega)).mpr hlow
  have heq : roundWithAccuracy Format.binary64 sign m e .exact =
      if h : r / 2 ^ (r.log2 - 52) = 0 then .zero sign
      else .finite sign (r / 2 ^ (r.log2 - 52)) (e + k + (r.log2 - 52 : Nat))
        (Nat.pos_of_ne_zero h) := by
    simp only [roundWithAccuracy, shiftToTargetExponent_eq m (e := e) (by omega), hk,
      roundedMantissa_shiftRight, hr, shiftToTargetExponent_eq r (e := e + k) (by omega),
      mantissa_shiftRight]
  obtain hlt | rfl := Nat.lt_or_eq_of_le hhigh
  · have hstay : r.log2 - 52 = 0 := by
      have := (Nat.log2_eq_iff (by omega)).mpr ⟨hlow, hlt⟩
      omega
    refine ⟨r, 0, by omega, ?_, ⟨hlow, hlt⟩, by omega, by simp⟩
    rw [heq, dif_neg (by rw [hstay]; simp; omega)]
    simp [hstay]
  · have hone : (2 ^ 53 : Nat).log2 - 52 = 1 := by rw [Nat.log2_two_pow]
    refine ⟨2 ^ 52, 1, by decide, ?_, by decide, Nat.le_refl 1, by decide⟩
    rw [heq, dif_neg (by rw [hone]; decide), finite.injEq, hone]
    exact ⟨rfl, by decide, by omega⟩

theorem log2_shiftLeft {n : Nat} (h : n ≠ 0) (s : Nat) : (n <<< s).log2 = n.log2 + s := by
  rw [Nat.shiftLeft_eq]
  induction s with
  | zero => simp
  | succ s ih =>
      rw [Nat.pow_succ', Nat.mul_left_comm, Nat.log2_two_mul (by positivity), ih]
      rfl

-- Small numbers are shifted up before they are rounded, large ones are shifted down.
theorem divideToEven_shiftLeft (n : Nat) :
    divideToEven (n <<< (52 - n.log2)) (2 ^ (n.log2 - 52)) * 2 ^ n.log2
      = nearestNat n * 2 ^ 52 := by
  rw [nearestNat]
  obtain h | h := Nat.le_total 52 n.log2
  · have hnone : 52 - n.log2 = 0 := by omega
    rw [hnone, Nat.shiftLeft_zero, Nat.mul_assoc, ← Nat.pow_add, Nat.sub_add_cancel h]
  · have hnone : n.log2 - 52 = 0 := by omega
    rw [hnone, Nat.pow_zero, divideToEven_one, divideToEven_one, Nat.shiftLeft_eq, Nat.mul_one,
      Nat.mul_assoc, ← Nat.pow_add, Nat.sub_add_cancel h]

theorem round_eq (sign : Sign) {n : Nat} (hn : n ≠ 0) :
    ∃ mantissa, ∃ scale : Nat, ∃ hpos : 0 < mantissa,
      UnpackedFloat.round Format.binary64 sign n 0 = .finite sign mantissa (scale - 52) hpos ∧
      (2 ^ 52 ≤ mantissa ∧ mantissa < 2 ^ 53) ∧ scale ≤ n.log2 + 1 ∧
      mantissa * 2 ^ scale = nearestNat n * 2 ^ 52 := by
  have hlog : (n <<< (52 - n.log2)).log2 = 52 + (n.log2 - 52) := by
    rw [log2_shiftLeft hn]
    omega
  have htarget : Format.binary64.targetExponent (totalExponent n 0) = n.log2 - 52 := by
    simp only [Format.targetExponent, totalExponent, Format.mantissaBits, Format.minExponent]
    omega
  have hshift : (0 - ((n.log2 : Int) - 52)).toNat = 52 - n.log2 := by omega
  have hround : UnpackedFloat.round Format.binary64 sign n 0
      = roundWithAccuracy Format.binary64 sign (n <<< (52 - n.log2))
          (0 - (52 - n.log2 : Nat)) .exact := by
    simp only [UnpackedFloat.round, htarget, decreaseExponent, hshift]
  obtain ⟨mantissa, up, hpos, heq, hmantissa, hup, hvalue⟩ :=
    roundWithAccuracy_eq sign (e := 0 - (52 - n.log2 : Nat)) hlog (by omega)
  refine ⟨mantissa, n.log2 + up, hpos, ?_, hmantissa, by omega, ?_⟩
  · rw [hround, heq]
    congr 1
    omega
  · rw [← divideToEven_shiftLeft, ← hvalue, Nat.pow_add, Nat.mul_assoc, Nat.mul_comm (2 ^ up)]

-- Packing a double into its bits and taking it out of them.

theorem ofBitVec_unpackSign {spec : Format} {sign : Sign} {exponent : BitVec spec.exponentBits}
    {mantissa : BitVec spec.mantissaBitsWithoutImplicit} :
    Sign.ofBitVec (unpackSign (packComponents spec sign exponent mantissa)) = sign := by
  have hsign : unpackSign (packComponents spec sign exponent mantissa) = sign.toBitVec := by
    ext i hi
    obtain rfl : i = 0 := by omega
    simp [unpackSign, packComponents, BitVec.getLsbD_append, BitVec.getElem_append]
  rw [hsign]
  cases sign <;> rfl

-- The exponent of a normal double is stored without its least and its greatest value, which mark
-- other doubles, and the mantissa without its first bit.
theorem unpack_pack {sign : Sign} {mantissa : Nat} {exponent : Int} (hpos : 0 < mantissa)
    (hmantissa : 2 ^ 52 ≤ mantissa ∧ mantissa < 2 ^ 53)
    (hexponent : -1074 ≤ exponent ∧ exponent ≤ 971) :
    (Float.Model.pack (.finite sign mantissa exponent hpos)).unpack
      = .finite sign mantissa exponent hpos := by
  have hlog : mantissa.log2 = 52 := (Nat.log2_eq_iff (by omega)).mpr hmantissa
  obtain ⟨stored, hstored⟩ : ∃ stored : Nat, exponent + 1075 = stored :=
    ⟨(exponent + 1075).toNat, by omega⟩
  have hpack : UnpackedFloat.pack Format.binary64 (.finite sign mantissa exponent hpos)
      = packComponents Format.binary64 sign (BitVec.ofNat 11 stored)
          (BitVec.ofNat 52 mantissa) := by
    have hbias : (exponent + 1023 + 52).toNat = stored := by omega
    simp [UnpackedFloat.pack, Format.exponentBias, Format.mantissaBits, hlog, hbias]
    omega
  have hleast : BitVec.ofNat 11 stored ≠ 0#11 := by
    intro h
    have := congrArg BitVec.toNat h
    simp at this
    omega
  have hgreatest : BitVec.ofNat 11 stored ≠ -1#11 := by
    intro h
    have := congrArg BitVec.toNat h
    simp at this
    omega
  have hfirst : (BitVec.ofNat 52 mantissa).toNat = mantissa - 2 ^ 52 := by
    rw [BitVec.toNat_ofNat]
    omega
  have hbits (f : UnpackedFloat) : (Float.Model.pack f).unpack
      = UnpackedFloat.unpack Format.binary64 (UnpackedFloat.pack Format.binary64 f) := rfl
  rw [hbits, hpack]
  simp only [UnpackedFloat.unpack, unpackExponent_packComponents, unpackMantissa_packComponents,
    ofBitVec_unpackSign, hleast, hgreatest, if_false, finite.injEq, true_and]
  constructor
  · rw [BitVec.toNat_append, hfirst, ← Nat.shiftLeft_add_eq_or_of_lt (by omega)]
    simp
    omega
  · simp [Format.exponentBias]
    omega

-- The whole number of units of 2⁻⁵² that a finite double is, if its last place is no finer.
inductive CountsFor : UnpackedFloat → Int → Prop
  | zero (sign : Sign) : CountsFor (.zero sign) 0
  | positive {mantissa scale : Nat} (hpos : 0 < mantissa)
      (hmantissa : 2 ^ 52 ≤ mantissa ∧ mantissa < 2 ^ 53) (hscale : scale ≤ 1023) :
      CountsFor (.finite .positive mantissa (scale - 52) hpos) (mantissa * 2 ^ scale : Nat)
  | negative {mantissa scale : Nat} (hpos : 0 < mantissa)
      (hmantissa : 2 ^ 52 ≤ mantissa ∧ mantissa < 2 ^ 53) (hscale : scale ≤ 1023) :
      CountsFor (.finite .negative mantissa (scale - 52) hpos) (-(mantissa * 2 ^ scale : Nat))

-- Scales are compared first, then mantissas, and that is the order of the products.
theorem compare_scaled {m n s t : Nat} (hm : 2 ^ 52 ≤ m ∧ m < 2 ^ 53)
    (hn : 2 ^ 52 ≤ n ∧ n < 2 ^ 53) :
    (compare ((s : Int) - 52) (t - 52)).then (compare m n)
      = compare ((m * 2 ^ s : Nat) : Int) (n * 2 ^ t : Nat) := by
  have hlt {m n s t : Nat} (hm : m < 2 ^ 53) (hn : 2 ^ 52 ≤ n) (h : s < t) :
      m * 2 ^ s < n * 2 ^ t := by
    calc m * 2 ^ s < 2 ^ 53 * 2 ^ s := Nat.mul_lt_mul_of_pos_right hm (Nat.two_pow_pos s)
      _ = 2 ^ 52 * 2 ^ (s + 1) := by ring
      _ ≤ n * 2 ^ t := Nat.mul_le_mul hn (Nat.pow_le_pow_right (by decide) h)
  rcases Nat.lt_trichotomy s t with h | rfl | h
  · have hproducts := hlt hm.2 hn.1 h
    rw [compare_lt_iff_lt.mpr (by omega), compare_lt_iff_lt.mpr (Int.ofNat_lt.mpr hproducts)]
    rfl
  · have hpos : 0 < (2 ^ s : Nat) := Nat.two_pow_pos s
    rw [compare_eq_iff_eq.mpr rfl, Ordering.eq_then]
    simp only [Nat.compare_eq_ite_lt, Int.compare_eq_ite_lt, Int.ofNat_lt,
      Nat.mul_lt_mul_right hpos]
  · have hproducts := hlt hn.2 hm.1 h
    rw [compare_gt_iff_gt.mpr (by omega), compare_gt_iff_gt.mpr (Int.ofNat_lt.mpr hproducts)]
    rfl

namespace CountsFor

variable {x y : UnpackedFloat} {v w : Int}

theorem compare_eq (hx : CountsFor x v) (hy : CountsFor y w) :
    x.compare y = some (compare v w) := by
  have hproduct {m s : Nat} (hm : 0 < m) : (0 : Int) < (m * 2 ^ s : Nat) :=
    Int.natCast_pos.mpr (Nat.mul_pos hm (Nat.two_pow_pos s))
  match hx, hy with
  | .zero _, .zero _ => rfl
  | .zero _, .positive hn .. => exact congrArg some (compare_lt_iff_lt.mpr (hproduct hn)).symm
  | .zero _, .negative hn .. =>
      exact congrArg some (compare_gt_iff_gt.mpr (Int.neg_neg_of_pos (hproduct hn))).symm
  | .positive hm .., .zero _ => exact congrArg some (compare_gt_iff_gt.mpr (hproduct hm)).symm
  | .negative hm .., .zero _ =>
      exact congrArg some (compare_lt_iff_lt.mpr (Int.neg_neg_of_pos (hproduct hm))).symm
  | .positive hm .., .negative hn .. =>
      exact congrArg some (compare_gt_iff_gt.mpr
        ((Int.neg_neg_of_pos (hproduct hn)).trans (hproduct hm))).symm
  | .negative hm .., .positive hn .. =>
      exact congrArg some (compare_lt_iff_lt.mpr
        ((Int.neg_neg_of_pos (hproduct hm)).trans (hproduct hn))).symm
  | .positive _ hm _, .positive _ hn _ => exact congrArg some (compare_scaled hm hn)
  | @negative m s _ hm _, @negative n t _ hn _ =>
      have hswap := congrArg Ordering.swap (compare_scaled (s := s) (t := t) hm hn)
      rw [Int.compare_swap] at hswap
      refine congrArg some (hswap.trans ?_)
      simp only [Int.compare_eq_ite_lt, Int.neg_lt_neg_iff]

theorem neg (h : CountsFor x v) : CountsFor (Float.Model.pack x.neg).unpack (-v) := by
  cases h with
  | zero sign => cases sign <;> exact .zero _
  | positive hpos hmantissa hscale =>
      have hneg := negative hpos hmantissa hscale
      rw [← unpack_pack hpos hmantissa (by omega)] at hneg
      exact hneg
  | negative hpos hmantissa hscale =>
      have hneg := positive hpos hmantissa hscale
      rw [← unpack_pack hpos hmantissa (by omega)] at hneg
      rw [Int.neg_neg]
      exact hneg

end CountsFor

-- A double that is an integer.
def IsWhole (x : Float) (n : Int) : Prop := CountsFor x.toModel.unpack (n * 2 ^ 52)

namespace IsWhole

variable {x y : Float} {m n : Int}

theorem neg (h : IsWhole x n) : IsWhole (-x) (-n) := by
  have hneg := CountsFor.neg h
  rw [← Int.neg_mul] at hneg
  exact hneg

theorem compare_eq (hx : IsWhole x m) (hy : IsWhole y n) :
    x.toModel.unpack.compare y.toModel.unpack = some (compare m n) := by
  have hpos : (0 : Int) < 2 ^ 52 := by decide
  rw [CountsFor.compare_eq hx hy]
  simp only [Int.compare_eq_ite_lt, Int.mul_lt_mul_right hpos]

theorem lt_iff (hx : IsWhole x m) (hy : IsWhole y n) : x < y ↔ m < n := by
  have hunfold : x < y ↔ (x.toModel.unpack.compare y.toModel.unpack == some .lt) = true :=
    decide_eq_true_iff
  rw [hunfold, hx.compare_eq hy]
  simp [compare_lt_iff_lt]

theorem beq_eq (hx : IsWhole x m) (hy : IsWhole y n) : (x == y) = decide (m = n) := by
  have hunfold : (x == y) = (x.toModel.unpack.compare y.toModel.unpack == some .eq) := rfl
  rw [hunfold, hx.compare_eq hy, Bool.eq_iff_iff]
  simp

end IsWhole

theorem isWhole_zero : IsWhole 0 0 := .zero .positive

theorem isWhole_toFloat (n : UInt64) : IsWhole n.toFloat (nearestNat n.toNat) := by
  have hunpack : n.toFloat.toModel.unpack
      = (Float.Model.pack (UnpackedFloat.normalize Format.binary64 n.toNat 0 .positive)).unpack :=
    rfl
  rw [IsWhole, hunpack, UnpackedFloat.normalize]
  rcases Nat.eq_zero_or_pos n.toNat with hzero | hpos
  · rw [hzero]
    exact .zero .positive
  · obtain ⟨mantissa, scale, hmantissa_pos, hround, hmantissa, hscale, hvalue⟩ :=
      round_eq .positive hpos.ne'
    have hlog : n.toNat.log2 < 64 := (Nat.log2_lt hpos.ne').mpr n.toNat_lt
    have hcounts := @CountsFor.positive _ scale hmantissa_pos hmantissa (by omega)
    rw [hvalue] at hcounts
    rw [Int.compare_eq_gt.mpr (by omega)]
    simp only [Int.toNat_natCast, hround]
    rw [unpack_pack hmantissa_pos hmantissa (by omega)]
    exact_mod_cast hcounts

theorem toInt_eq_ite (n : Int64) :
    n.toInt = if 2 * n.toUInt64.toNat < 2 ^ 64 then (n.toUInt64.toNat : Int)
      else n.toUInt64.toNat - 2 ^ 64 :=
  BitVec.toInt_eq_toNat_cond n.toBitVec

theorem isWhole_floatOfInt64 (n : Int64) : IsWhole (floatOfInt64 n) (nearest n.toInt) := by
  have hbound : n.toUInt64.toNat < 2 ^ 64 := n.toUInt64.toNat_lt
  have hcode := toInt_eq_ite n
  unfold floatOfInt64 nearest
  by_cases hn : n < 0
  · have hnegative : n.toInt < 0 := Int64.lt_iff_toInt_lt.mp hn
    have hcomplement : (-n).toUInt64.toNat = (2 ^ 64 - n.toUInt64.toNat) % 2 ^ 64 :=
      BitVec.toNat_neg n.toBitVec
    have hmagnitude : (-n).toUInt64.toNat = n.toInt.natAbs := by
      split at hcode <;> omega
    rw [if_pos hn, if_pos hnegative, ← hmagnitude]
    exact (isWhole_toFloat _).neg
  · have hnonnegative : ¬ n.toInt < 0 := fun h => hn (Int64.lt_iff_toInt_lt.mpr h)
    have hmagnitude : n.toUInt64.toNat = n.toInt.natAbs := by
      split at hcode <;> omega
    rw [if_neg hn, if_neg hnonnegative, ← hmagnitude]
    exact isWhole_toFloat _

-- Only zero is written as a double that equals zero.
theorem floatOfInt64_beq_zero {n : Int64} (hn : n ≠ 0) : (floatOfInt64 n == 0) = false := by
  rw [(isWhole_floatOfInt64 n).beq_eq isWhole_zero]
  have hvalue : n.toInt ≠ 0 := fun h => hn (Int64.toInt_inj.mp h)
  exact decide_eq_false (nearest_ne_zero hvalue)

end EventText.Double
