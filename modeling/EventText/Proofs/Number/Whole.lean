import EventText.Proofs.Number.Product
import EventText.Proofs.Number.Shortest

namespace EventText

-- The shortest digits of a double that is an integer make an integer too, and the same one as long
-- as the last place of the double is not in front of the point.

namespace Decimal

open Binary

variable {b : Binary} {d : Decimal} {n : Nat}

theorem ShortestFor.value_eq_zero_iff (h : d.ShortestFor b) : d.value = 0 ↔ b.value = 0 := by
  constructor
  · intro hzero
    by_contra hne
    have hlow := h.readsBack.lowest_le
    rw [hzero] at hlow
    exact absurd (lowest_pos (mantissa_ne_zero hne)) (not_lt.mpr hlow)
  · intro hzero
    have hnone : value ⟨[], 0⟩ = b.value := by
      rw [hzero, value, Digits.toNat_nil, Nat.cast_zero, zero_mul]
    have hnear := h.nearest ⟨[], 0⟩ (hnone ▸ readsBack_value) (Nat.zero_le _)
    rw [hnone, hzero, sub_zero, sub_zero, abs_zero] at hnear
    exact abs_nonpos_iff.mp hnear

-- A decimal with places behind the point would have fewer than the integer has in front of it, and
-- would lie below its first place. The power of ten there is nearer and has one digit.
theorem ShortestFor.exists_natCast (h : d.ShortestFor b) (hn : b.value = n) :
    ∃ q : Nat, d.value = q := by
  obtain hplace | hplace := le_or_gt 0 (d.point - d.digits.length)
  · refine ⟨Digits.toNat d.digits * 10 ^ (d.point - d.digits.length).toNat, ?_⟩
    push_cast
    rw [value, ← zpow_natCast, Int.toNat_of_nonneg hplace]
  rcases Nat.eq_zero_or_pos n with rfl | hpos
  · rw [Nat.cast_zero] at hn
    exact ⟨0, by rw [h.value_eq_zero_iff.mpr hn, Nat.cast_zero]⟩
  exfalso
  have hmantissa : b.mantissa ≠ 0 := mantissa_ne_zero (by rw [hn]; exact_mod_cast hpos.ne')
  have hfirst := le_value (digit_ofNat_ne_zero hpos.ne')
  rw [value_ofNat, ← hn] at hfirst
  have hfew : d.digits.length ≤ (Digits.ofNat n).length :=
    h.fewest (ofNat n) (Digits.ofNat_ne_nil n) (by
      rw [value_ofNat, ← hn]
      exact readsBack_value)
  have hone : value ⟨[1], (ofNat n).point⟩ = 10 ^ ((ofNat n).point - 1) := by
    simp [value, Digits.toNat_cons]
  have hbelow : d.value < 10 ^ ((ofNat n).point - 1) := by
    refine d.value_lt.trans_le (zpow_le_zpow_right₀ (by norm_num) ?_)
    simp only [ofNat]
    omega
  have hback : b.ReadsBack (value ⟨[1], (ofNat n).point⟩) :=
    h.readsBack.of_between readsBack_value (hone ▸ hbelow.le) (hone ▸ hfirst)
  have hnear := h.nearest _ hback
    (List.length_pos_iff_ne_nil.mpr (digits_ne_nil hmantissa h.readsBack))
  rw [hone, abs_of_nonpos (by linarith), abs_of_nonpos (by linarith)] at hnear
  linarith

-- Where the last place of a double is not in front of the point, it is read from one integer only.
theorem ShortestFor.natCast_unique (h : d.ShortestFor b) (hn : b.value = n) (hb : b.exponent ≤ 0)
    {q : Nat} (hq : d.value = q) : q = n := by
  have hunit : (2 : ℚ) ^ b.exponent ≤ 1 := zpow_le_one_of_nonpos₀ (by norm_num) hb
  have hlow := h.readsBack.lowest_le
  have hhigh := h.readsBack.le_highest
  have hwide : b.value - 1 / 2 ≤ b.lowest := by
    unfold lowest
    split <;> linarith
  rw [highest] at hhigh
  rw [hq, hn] at hhigh
  rw [hn] at hwide
  rw [hq] at hlow
  have hbelow : (q : ℚ) < n + 1 := by linarith
  have habove : (n : ℚ) < q + 1 := by linarith
  exact Nat.le_antisymm (Nat.lt_succ_iff.mp (by exact_mod_cast hbelow))
    (Nat.lt_succ_iff.mp (by exact_mod_cast habove))

end Decimal

namespace Double

open Float.Model Float.Model.UnpackedFloat

variable {x : Float} {n : Int}

theorem IsWhole.value (h : IsWhole x n) :
    (Binary.ofBits x.toBits.toNat).value = n.natAbs := by
  obtain ⟨_, hunpack, rfl⟩ | ⟨sign, mantissa, scale, hpos, hunpack, -, hcount, -⟩ := h.cases_apply
  · have hmantissa : (Binary.ofBits x.toBits.toNat).mantissa = 0 :=
      @mantissa_of_unpack_zero x.toBits.toBitVec _ hunpack
    rw [Binary.value, hmantissa]
    simp
  · have hcast : (n.natAbs : ℚ) * 2 ^ 52 = mantissa * 2 ^ scale := by exact_mod_cast hcount
    rw [value_ofBits hunpack, zpow_sub₀ (by norm_num), zpow_natCast, ← mul_div_assoc, ← hcast]
    exact mul_div_cancel_right₀ _ (by norm_num)

theorem IsWhole.exponent_nonpos (h : IsWhole x n) (hne : n ≠ 0) (hn : n.natAbs < 2 ^ 53) :
    (Binary.ofBits x.toBits.toNat).exponent ≤ 0 := by
  obtain ⟨_, -, hzero⟩ | ⟨sign, mantissa, scale, hpos, hunpack, -, hcount, hmantissa, -⟩ :=
    h.cases_apply
  · exact absurd hzero hne
  · have hexponent : (Binary.ofBits x.toBits.toNat).exponent = scale - 52 :=
      (@ofBits_of_unpack x.toBits.toBitVec _ _ _ _ hunpack).2
    have hscale : scale < 53 := by
      refine (Nat.pow_lt_pow_iff_right (a := 2) (by decide)).mp ?_
      refine Nat.lt_of_mul_lt_mul_left (a := 2 ^ 52) ?_
      calc 2 ^ 52 * 2 ^ scale ≤ mantissa * 2 ^ scale := Nat.mul_le_mul_right _ hmantissa
        _ = n.natAbs * 2 ^ 52 := hcount.symm
        _ < 2 ^ 52 * 2 ^ 53 := by omega
    omega

end Double

end EventText
