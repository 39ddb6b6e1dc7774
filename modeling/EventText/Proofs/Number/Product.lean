import EventText.Proofs.Number.Nearest

namespace EventText.Double

open Float.Model Float.Model.UnpackedFloat

-- The product of doubles that are integers is the double nearest to the product of the integers.

theorem divideToEven_mul_mul (n d : Nat) {c : Nat} (hc : 0 < c) :
    divideToEven (n * c) (d * c) = divideToEven n d := by
  have hlt : 2 * (n % d * c) < d * c ↔ 2 * (n % d) < d := by
    rw [← Nat.mul_assoc, Nat.mul_lt_mul_right hc]
  have heq : 2 * (n % d * c) = d * c ↔ 2 * (n % d) = d := by
    rw [← Nat.mul_assoc, Nat.mul_left_inj hc.ne']
  unfold divideToEven
  rw [Nat.mul_mod_mul_right, Nat.mul_div_mul_right _ _ hc]
  simp only [hlt, heq]

theorem nearestNat_of_lt {n : Nat} (h : n < 2 ^ 53) : nearestNat n = n := by
  have hnone : n.log2 - 52 = 0 := by
    rcases Nat.eq_zero_or_pos n with rfl | hpos
    · rfl
    · have := (Nat.log2_lt hpos.ne').mpr h
      omega
  rw [nearestNat, hnone, Nat.pow_zero, divideToEven_one, Nat.mul_one]

theorem nearestNat_mul_two (n : Nat) : nearestNat (n * 2) = nearestNat n * 2 := by
  rcases Nat.eq_zero_or_pos n with rfl | hpos
  · rfl
  have hlog : (n * 2).log2 = n.log2 + 1 := by
    rw [Nat.mul_comm, Nat.log2_two_mul hpos.ne']
  obtain h | h := Nat.lt_or_ge n.log2 52
  · have hsmall : n < 2 ^ 52 := (Nat.log2_lt hpos.ne').mp h
    rw [nearestNat_of_lt (by omega), nearestNat_of_lt (by omega)]
  · have hplace : n.log2 + 1 - 52 = n.log2 - 52 + 1 := by omega
    rw [nearestNat, nearestNat, hlog, hplace, Nat.pow_succ, divideToEven_mul_mul _ _ Nat.two_pos,
      Nat.mul_assoc]

-- Powers of two leave the mantissa as it is.
theorem nearestNat_mul_two_pow (n k : Nat) : nearestNat (n * 2 ^ k) = nearestNat n * 2 ^ k := by
  induction k with
  | zero => simp
  | succ k ih => rw [Nat.pow_succ, ← Nat.mul_assoc, nearestNat_mul_two, ih, Nat.mul_assoc]

theorem nearest_apply (sign : Sign) (n : Nat) :
    nearest (sign.apply n) = sign.apply (nearestNat n) := by
  have hzero : nearestNat 0 = 0 := rfl
  unfold nearest
  cases sign with
  | positive => exact if_neg (Int.not_lt.mpr (Int.natCast_nonneg n))
  | negative =>
      simp only [Sign.apply, Int.natAbs_neg, Int.natAbs_natCast]
      rcases Nat.eq_zero_or_pos n with rfl | hpos
      · rw [hzero]
        rfl
      · exact if_pos (by omega)

theorem nearest_neg_iff {n : Int} : nearest n < 0 ↔ n < 0 := by
  unfold nearest
  split
  · have := nearestNat_pos (n := n.natAbs) (by omega)
    omega
  · omega

theorem natAbs_nearest (n : Int) : (nearest n).natAbs = nearestNat n.natAbs := by
  unfold nearest
  split <;> omega

theorem nearest_of_lt {n : Int} (h : n.natAbs < 2 ^ 53) : nearest n = n := by
  rw [nearest, nearestNat_of_lt h]
  omega

theorem nearest_eq_zero_iff {n : Int} : nearest n = 0 ↔ n = 0 := by
  constructor
  · exact fun h => by_contra fun hne => nearest_ne_zero hne h
  · rintro rfl
    rfl

theorem apply_mul (s t : Sign) (m n : Int) : (s * t).apply (m * n) = s.apply m * t.apply n := by
  match s, t with
  | .positive, .positive => rfl
  | .positive, .negative => exact (Int.mul_neg m n).symm
  | .negative, .positive => exact (Int.neg_mul m n).symm
  | .negative, .negative => exact (Int.neg_mul_neg m n).symm

-- The mantissas of a product make a number of 105 or 106 bits.
theorem exists_product (sign : Sign) {m n s t : Nat} (hm : 2 ^ 52 ≤ m ∧ m < 2 ^ 53)
    (hn : 2 ^ 52 ≤ n ∧ n < 2 ^ 53) (hscale : s + t ≤ 256) :
    ∃ mantissa, ∃ scale : Nat, ∃ hpos : 0 < mantissa,
      roundWithAccuracy Format.binary64 sign (m * n) (s - 52 + (t - 52)) .exact
        = .finite sign mantissa (scale - 52) hpos ∧
      (2 ^ 52 ≤ mantissa ∧ mantissa < 2 ^ 53) ∧ scale ≤ 1023 ∧
      mantissa * 2 ^ scale * 2 ^ 52 = nearestNat (m * n) * 2 ^ (s + t) := by
  have hlow : 2 ^ 52 * 2 ^ 52 ≤ m * n := Nat.mul_le_mul hm.1 hn.1
  have hhigh : m * n < 2 ^ 53 * 2 ^ 53 := Nat.mul_lt_mul'' hm.2 hn.2
  have hne : m * n ≠ 0 := by omega
  have hbits : 104 ≤ (m * n).log2 ∧ (m * n).log2 < 106 :=
    ⟨(Nat.le_log2 hne).mpr (by omega), (Nat.log2_lt hne).mpr (by omega)⟩
  obtain ⟨k, hk⟩ := Nat.exists_eq_add_of_le (Nat.le_trans (by decide : 52 ≤ 104) hbits.1)
  obtain ⟨mantissa, up, hpos, hround, hmantissa, hup, hvalue⟩ :=
    roundWithAccuracy_eq sign (e := s - 52 + (t - 52)) hk (by omega)
  refine ⟨mantissa, s + t + (k - 52) + up, hpos, ?_, hmantissa, by omega, ?_⟩
  · rw [hround]
    congr 1
    omega
  · have hplace : s + t + (k - 52) + up + 52 = up + (k + (s + t)) := by omega
    have hshift : (m * n).log2 - 52 = k := by omega
    rw [Nat.mul_assoc, ← Nat.pow_add, hplace, Nat.pow_add, ← Nat.mul_assoc, hvalue, Nat.pow_add,
      ← Nat.mul_assoc, nearestNat, hshift]

-- Two integers, each counted by a mantissa at a place.

section Places

variable {m n a b i j : Nat} (hm : m * 2 ^ 52 = a * 2 ^ i) (hn : n * 2 ^ 52 = b * 2 ^ j)
include hm hn

theorem mul_places : m * n * 2 ^ 104 = a * b * 2 ^ (i + j) := by
  rw [Nat.pow_add 2 i j, Nat.mul_mul_mul_comm a, ← hm, ← hn]
  ring

theorem add_scale_le (ha : 2 ^ 52 ≤ a) (hb : 2 ^ 52 ≤ b) (hsmall : m * n < 2 ^ 256) :
    i + j ≤ 256 := by
  have hlow : 2 ^ 104 ≤ a * b := by
    have := Nat.mul_le_mul ha hb
    omega
  have hshift : 2 ^ (i + j) ≤ m * n := by
    refine Nat.le_of_mul_le_mul_right ?_ (Nat.two_pow_pos 104)
    rw [mul_places hm hn, Nat.mul_comm]
    exact Nat.mul_le_mul_right _ hlow
  exact ((Nat.pow_lt_pow_iff_right (by decide)).mp (Nat.lt_of_le_of_lt hshift hsmall)).le

theorem nearestNat_of_places {mantissa scale : Nat}
    (h : mantissa * 2 ^ scale * 2 ^ 52 = nearestNat (a * b) * 2 ^ (i + j)) :
    mantissa * 2 ^ scale = nearestNat (m * n) * 2 ^ 52 := by
  refine Nat.eq_of_mul_eq_mul_right (Nat.two_pow_pos 52) ?_
  rw [h, ← nearestNat_mul_two_pow, ← mul_places hm hn, nearestNat_mul_two_pow, Nat.mul_assoc,
    ← Nat.pow_add]

end Places

namespace CountsFor

theorem finite (sign : Sign) {mantissa scale : Nat} (hpos : 0 < mantissa)
    (hmantissa : 2 ^ 52 ≤ mantissa ∧ mantissa < 2 ^ 53) (hscale : scale ≤ 1023) :
    CountsFor (.finite sign mantissa (scale - 52) hpos)
      (sign.apply (mantissa * 2 ^ scale : Nat)) := by
  cases sign with
  | positive => exact .positive hpos hmantissa hscale
  | negative => exact .negative hpos hmantissa hscale

theorem cases_apply {x : UnpackedFloat} {v : Int} (h : CountsFor x v) :
    (∃ sign, x = .zero sign ∧ v = 0) ∨
    ∃ sign mantissa, ∃ scale : Nat, ∃ hpos : 0 < mantissa,
      x = .finite sign mantissa (scale - 52) hpos ∧
      v = sign.apply (mantissa * 2 ^ scale : Nat) ∧ 2 ^ 52 ≤ mantissa ∧ mantissa < 2 ^ 53 := by
  cases h with
  | zero sign => exact .inl ⟨sign, rfl, rfl⟩
  | positive hpos hmantissa _ => exact .inr ⟨.positive, _, _, hpos, rfl, rfl, hmantissa⟩
  | negative hpos hmantissa _ => exact .inr ⟨.negative, _, _, hpos, rfl, rfl, hmantissa⟩

end CountsFor

namespace IsWhole

variable {x y : Float} {m n : Int}

-- The integer has the sign of the double, and its magnitude is counted by the mantissa.
theorem cases_apply (h : IsWhole x n) :
    (∃ sign, x.toModel.unpack = .zero sign ∧ n = 0) ∨
    ∃ sign mantissa, ∃ scale : Nat, ∃ hpos : 0 < mantissa,
      x.toModel.unpack = .finite sign mantissa (scale - 52) hpos ∧
      n = sign.apply n.natAbs ∧ n.natAbs * 2 ^ 52 = mantissa * 2 ^ scale ∧
      2 ^ 52 ≤ mantissa ∧ mantissa < 2 ^ 53 := by
  obtain ⟨sign, hunpack, hvalue⟩ | ⟨sign, mantissa, scale, hpos, hunpack, hvalue, hmantissa⟩ :=
    CountsFor.cases_apply h
  · exact .inl ⟨sign, hunpack, by omega⟩
  · refine .inr ⟨sign, mantissa, scale, hpos, hunpack, ?_, ?_, hmantissa⟩ <;>
      cases sign <;> simp only [Sign.apply] at hvalue ⊢ <;> omega

theorem isFinite (h : IsWhole x n) : x.isFinite = true := by
  have hfinite : x.isFinite = x.toModel.unpack.isFinite := rfl
  rw [hfinite]
  obtain ⟨_, hunpack, -⟩ | ⟨_, _, _, _, hunpack, -⟩ := h.cases_apply
  · rw [hunpack]
    rfl
  · rw [hunpack]
    rfl

theorem mul (hx : IsWhole x m) (hy : IsWhole y n) (hsmall : (m * n).natAbs < 2 ^ 256) :
    IsWhole (x * y) (nearest (m * n)) := by
  have hmul : (x * y).toModel.unpack = (Float.Model.pack
      (UnpackedFloat.mul Format.binary64 x.toModel.unpack y.toModel.unpack)).unpack := rfl
  have hzero (sign : Sign) : CountsFor (Float.Model.pack (.zero sign)).unpack 0 := by
    cases sign <;> exact .zero _
  rw [IsWhole, hmul]
  obtain ⟨s, hleft, rfl⟩ | ⟨s, a, i, hapos, hleft, hm, ha, hamantissa⟩ := hx.cases_apply
  · rw [Int.zero_mul, hleft]
    obtain ⟨t, hright, -⟩ | ⟨t, _, _, _, hright, -⟩ := hy.cases_apply
    · rw [hright]
      exact hzero _
    · rw [hright]
      exact hzero _
  obtain ⟨t, hright, rfl⟩ | ⟨t, b, j, hbpos, hright, hn, hb, hbmantissa⟩ := hy.cases_apply
  · rw [Int.mul_zero, hleft, hright]
    exact hzero _
  rw [Int.natAbs_mul] at hsmall
  obtain ⟨mantissa, scale, hpos, hround, hmantissa, hbound, hvalue⟩ := exists_product (s * t)
    hamantissa hbmantissa (add_scale_le ha hb hamantissa.1 hbmantissa.1 hsmall)
  have hproduct : nearest (m * n) * 2 ^ 52
      = (s * t).apply (mantissa * 2 ^ scale : Nat) := by
    conv_lhs => rw [hm, hn]
    rw [← apply_mul, ← Int.natCast_mul, nearest_apply, nearestNat_of_places ha hb hvalue,
      Int.natCast_mul]
    cases s * t with
    | positive => rfl
    | negative => exact Int.neg_mul _ _
  rw [hleft, hright, hproduct]
  simp only [UnpackedFloat.mul, hround]
  rw [unpack_pack hpos hmantissa (by omega)]
  exact .finite (s * t) hpos hmantissa hbound

end IsWhole

theorem isWhole_hundred : IsWhole 100 100 := by
  have hunpack : (100 : Float).toModel.unpack
      = .finite .positive (100 * 2 ^ 46) ((6 : Nat) - 52) (by decide) := by
    rfl
  rw [IsWhole, hunpack]
  exact .positive _ (by decide) (by decide)

end EventText.Double
