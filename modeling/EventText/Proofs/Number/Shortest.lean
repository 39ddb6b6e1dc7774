import EventText.Proofs.Number.Grid
import EventText.Proofs.Number.Rounding
import EventText.Proofs.Number.Sign

namespace EventText

-- Of all decimals that read back as a double the shortest has the fewest digits, and is the nearest
-- of those.

namespace Digits

theorem exists_eq_dropTrailingZeros_append (digits : List Digit) :
    ∃ zeros, digits = dropTrailingZeros digits ++ List.replicate zeros 0 := by
  have hzeros : ∀ d ∈ digits.rtakeWhile (· == 0), d = 0 := fun d hd => by
    simpa using List.mem_rtakeWhile_imp hd
  refine ⟨(digits.rtakeWhile (· == 0)).length, ?_⟩
  rw [← List.eq_replicate_of_mem hzeros]
  exact List.rdropWhile_append_rtakeWhile.symm

theorem ofNat_ten_pow (k : Nat) : ofNat (10 ^ k) = 1 :: List.replicate k 0 := by
  induction k with
  | zero =>
      unfold ofNat
      rfl
  | succ k ih =>
      have hpos : 0 < (10 : Nat) ^ k := Nat.pow_pos Nat.ofNat_pos
      rw [ofNat, dif_neg (by omega), Nat.pow_succ, Nat.mul_div_cancel _ Nat.ofNat_pos, ih,
        List.cons_append]
      simp [List.replicate_succ']

theorem dropTrailingZeros_append_zeros (digits : List Digit) (zeros : Nat) :
    dropTrailingZeros (digits ++ List.replicate zeros 0) = dropTrailingZeros digits := by
  have hzeros : ∀ d ∈ List.replicate zeros (0 : Digit), (d == 0) = true := by
    intro d hd
    rw [List.eq_of_mem_replicate hd, beq_self_eq_true]
  rw [dropTrailingZeros, List.reverse_append, List.reverse_replicate,
    List.dropWhile_append_of_pos hzeros, dropTrailingZeros]

theorem length_dropTrailingZeros_le {n k : Nat} (hk : 0 < k) (h : n ≤ 10 ^ k) :
    (dropTrailingZeros (ofNat n)).length ≤ k := by
  obtain rfl | hlt := eq_or_lt_of_le h
  · have hone := dropTrailingZeros_append_zeros [1] k
    rw [List.singleton_append, ← ofNat_ten_pow] at hone
    rw [hone]
    exact hk
  · obtain ⟨zeros, hzeros⟩ := exists_eq_dropTrailingZeros_append (ofNat n)
    have hlength := length_ofNat_le hk hlt
    rw [hzeros, List.length_append] at hlength
    exact (Nat.le_add_right _ _).trans hlength

end Digits

namespace Decimal

open Binary Digits

variable {b : Binary}

-- Among the decimals that read back as a double, one of the fewest digits, and of those the
-- nearest.
structure ShortestFor (b : Binary) (d : Decimal) : Prop where
  readsBack : b.ReadsBack d.value
  fewest : ∀ e : Decimal, e.digits ≠ [] → b.ReadsBack e.value →
    d.digits.length ≤ e.digits.length
  nearest : ∀ e : Decimal, b.ReadsBack e.value → e.digits.length ≤ d.digits.length →
    |d.value - b.value| ≤ |e.value - b.value|

-- The search ends on a grid, and no coarser one below the first digit has a value that reads back.
theorem shortest_spec (hb : b.WellFormed) (h : b.mantissa ≠ 0) :
    ∃ (n : Nat) (power place : Int),
      shortest b = ⟨dropTrailingZeros (Digits.ofNat n), (Digits.ofNat n).length + power⟩ ∧
      power < place ∧ 10 ^ (place - 1) ≤ b.value ∧ b.value < 10 ^ place ∧
      Shortest.hit? b power = some n ∧
      ∀ coarser, power < coarser → coarser < place → Shortest.hit? b coarser = none := by
  have hnum : 0 < (Shortest.ratioOf b).num := by
    refine Nat.pos_of_ne_zero fun hzero => (value_pos h).ne' ?_
    rw [← Shortest.toRat_ratioOf, Ratio.toRat, hzero, Nat.cast_zero, zero_div]
  have hplace := Shortest.point_spec hnum (Shortest.den_ratioOf_pos b)
  rw [Shortest.toRat_ratioOf] at hplace
  have hfine : (10 : ℚ) ^ (Shortest.point (Shortest.ratioOf b) - 1 - (16 : Nat))
      < b.highest - b.lowest := by
    refine lt_of_le_of_lt ?_ hb.width
    rw [zpow_sub₀ (by norm_num), zpow_natCast]
    exact div_le_div_of_nonneg_right hplace.1 (by positivity)
  obtain ⟨n, power, hsearch, hfound, hle, hnone⟩ := Shortest.search_spec (Shortest.ratioOf b)
    (Shortest.interval b) (by decide : 16 < 20) (Shortest.hit?_ne_none h hfine)
  refine ⟨n, power, Shortest.point (Shortest.ratioOf b), ?_, by omega, hplace.1, hplace.2, hfound,
    fun coarser hlt hless => hnone coarser hlt (by omega)⟩
  rw [shortest, if_neg h]
  exact congrArg (fun hit : Nat × Int => (⟨dropTrailingZeros (Digits.ofNat hit.1),
    (Digits.ofNat hit.1).length + hit.2⟩ : Decimal)) hsearch

-- A decimal of so few digits can be brought to a grid so coarse without leaving the reals that read
-- back and without going away from the number.
theorem exists_onGrid {d : Decimal} (hd : b.ReadsBack d.value) (hne : d.digits ≠ [])
    {power place : Int} (hplace : 10 ^ (place - 1) ≤ b.value)
    (hfew : d.digits.length + power ≤ place) :
    ∃ k : Nat, b.ReadsBack (k * 10 ^ power) ∧
      |k * 10 ^ power - b.value| ≤ |d.value - b.value| := by
  have hpos := List.length_pos_iff_ne_nil.mpr hne
  obtain hcoarse | hfine := le_or_gt power (d.point - d.digits.length)
  · have hvalue : ((toNat d.digits * 10 ^ (d.point - d.digits.length - power).toNat : Nat) : ℚ)
        * 10 ^ power = d.value := by
      push_cast
      rw [← zpow_natCast, Int.toNat_of_nonneg (by omega), mul_assoc, ← zpow_add₀ (by norm_num),
        sub_add_cancel, value]
    exact ⟨_, hvalue ▸ hd, hvalue ▸ le_rfl⟩
  · have hvalue : ((10 ^ (d.digits.length - 1) : Nat) : ℚ) * 10 ^ power
        = 10 ^ (d.digits.length - 1 + power) := by
      push_cast
      rw [← zpow_natCast, ← zpow_add₀ (by norm_num), Nat.cast_sub hpos, Nat.cast_one]
    have hbelow : d.value ≤ ((10 ^ (d.digits.length - 1) : Nat) : ℚ) * 10 ^ power := by
      rw [hvalue]
      exact d.value_lt.le.trans (zpow_le_zpow_right₀ (by norm_num) (by omega))
    have habove : ((10 ^ (d.digits.length - 1) : Nat) : ℚ) * 10 ^ power ≤ b.value := by
      rw [hvalue]
      exact (zpow_le_zpow_right₀ (by norm_num) (by omega)).trans hplace
    refine ⟨_, hd.of_between readsBack_value hbelow habove, ?_⟩
    rw [abs_of_nonpos (by linarith), abs_of_nonpos (by linarith)]
    linarith

theorem value_dropTrailingZeros (digits : List Digit) (power : Int) :
    value ⟨dropTrailingZeros digits, digits.length + power⟩ = toNat digits * 10 ^ power := by
  obtain ⟨zeros, hzeros⟩ := exists_eq_dropTrailingZeros_append digits
  have hlength : (digits.length : ℤ) = (dropTrailingZeros digits).length + zeros := by
    conv_lhs => rw [hzeros, List.length_append, List.length_replicate]
    exact Nat.cast_add _ _
  have hplace : (digits.length : ℤ) + power - (dropTrailingZeros digits).length = zeros + power := by
    omega
  rw [value, hplace, zpow_add₀ (by norm_num), zpow_natCast, ← mul_assoc]
  conv_rhs => rw [hzeros, toNat_append_zeros]
  push_cast
  rfl

theorem digits_ne_nil (h : b.mantissa ≠ 0) {d : Decimal} (hd : b.ReadsBack d.value) :
    d.digits ≠ [] := by
  intro hnil
  have hzero : d.value = 0 := by
    rw [value, hnil, toNat_nil, Nat.cast_zero, zero_mul]
  exact absurd hd.lowest_le (by rw [hzero]; exact not_le.mpr (lowest_pos h))

theorem shortestFor_zero (h : b.mantissa = 0) : ShortestFor b (shortest b) := by
  have hshortest : shortest b = ⟨[0], 1⟩ := if_pos h
  have hnumber : b.value = 0 := by
    rw [Binary.value, h, Nat.cast_zero, zero_mul]
  have hvalue : (shortest b).value = b.value := by
    have hzero : toNat [0] = 0 := rfl
    rw [hshortest, hnumber, value, hzero, Nat.cast_zero, zero_mul]
  refine ⟨hvalue ▸ readsBack_value, fun e hne _ => ?_, fun e _ _ => ?_⟩
  · rw [hshortest]
    exact List.length_pos_iff_ne_nil.mpr hne
  · rw [hvalue, sub_self, abs_zero]
    exact abs_nonneg _

theorem shortestFor_positive (hb : b.WellFormed) (h : b.mantissa ≠ 0) :
    ShortestFor b (shortest b) := by
  obtain ⟨n, power, place, heq, hpower, hlow, hhigh, hhit, hnone⟩ := shortest_spec hb h
  obtain ⟨hback, hnext, hnear⟩ := Shortest.readsBack_of_hit? h hhit
  have hvalue : (shortest b).value = n * 10 ^ power := by
    rw [heq, value_dropTrailingZeros, toNat_ofNat]
  have hlength : ((shortest b).digits.length : ℤ) + power ≤ place := by
    obtain ⟨k, hk⟩ := Int.eq_ofNat_of_zero_le (by omega : 0 ≤ place - power)
    obtain rfl : place = k + power := by omega
    have hten : (0 : ℚ) < 10 ^ power := by positivity
    have hn : (n : ℚ) < 10 ^ k + 1 := by
      rw [zpow_add₀ (by norm_num), zpow_natCast] at hhigh
      rw [← mul_lt_mul_iff_left₀ hten]
      linarith
    have hdigits := @length_dropTrailingZeros_le n k (by omega)
      (Nat.le_of_lt_succ (by exact_mod_cast hn))
    rw [heq]
    simp only
    omega
  refine ⟨hvalue ▸ hback, fun e hne he => ?_, fun e he hfew => ?_⟩
  · by_contra hless
    obtain ⟨k, hk, -⟩ := @exists_onGrid b e he hne (power + 1) place hlow (by omega)
    have hfirst := List.length_pos_iff_ne_nil.mpr hne
    exact Shortest.not_readsBack_of_hit? h (hnone (power + 1) (by omega) (by omega)) k hk
  · obtain ⟨k, hk, hnearer⟩ := @exists_onGrid b e he (digits_ne_nil h he) power place hlow (by omega)
    rw [hvalue]
    exact (hnear k hk).trans hnearer

theorem shortestFor_shortest (hb : b.WellFormed) : ShortestFor b (shortest b) := by
  by_cases h : b.mantissa = 0
  · exact shortestFor_zero h
  · exact shortestFor_positive hb h

theorem digit_shortest_ne_zero (hb : b.WellFormed) (h : b.mantissa ≠ 0) :
    (shortest b).digit 0 ≠ 0 := by
  obtain ⟨n, power, place, heq, -, -, -, hhit, -⟩ := shortest_spec hb h
  obtain ⟨zeros, hzeros⟩ := exists_eq_dropTrailingZeros_append (Digits.ofNat n)
  have hback : b.ReadsBack (shortest b).value := (shortestFor_shortest hb).readsBack
  have hne := digits_ne_nil h hback
  rw [heq] at hne ⊢
  obtain ⟨d, digits, hcons⟩ := List.exists_cons_of_ne_nil hne
  intro hzero
  simp only at hcons
  rw [← Nat.cast_zero, digit_natCast] at hzero
  simp only [hcons] at hzero
  obtain rfl : d = 0 := hzero
  rw [hcons, List.cons_append] at hzeros
  have hsingle : dropTrailingZeros (Digits.ofNat n) = [] := by
    rw [hzeros, Digits.ofNat_eq_zero_cons hzeros]
    rfl
  rw [hsingle] at hcons
  cases hcons

theorem noLeadingZero_shortest (hb : b.WellFormed) : (shortest b).NoLeadingZero := by
  by_cases h : b.mantissa = 0
  · rw [shortest, if_pos h]
    exact fun hpoint => absurd hpoint (by decide)
  · exact fun _ => digit_shortest_ne_zero hb h

end Decimal

namespace Double

open Float.Model Float.Model.UnpackedFloat

-- The fields of a double, read as a mantissa and an exponent.

theorem toNat_unpackMantissa (bits : BitVec 64) :
    (@unpackMantissa Format.binary64 bits).toNat = bits.toNat % 2 ^ 52 := by
  simp [unpackMantissa, BitVec.extractLsb]

theorem toNat_unpackExponent (bits : BitVec 64) :
    (@unpackExponent Format.binary64 bits).toNat = bits.toNat / 2 ^ 52 % 2 ^ 11 := by
  simp [unpackExponent, BitVec.extractLsb, Nat.shiftRight_eq_div_pow]

theorem ofBits_of_unpack {bits : BitVec 64} {sign : Sign} {mantissa : Nat} {exponent : Int}
    {hm : 0 < mantissa}
    (h : UnpackedFloat.unpack Format.binary64 bits = .finite sign mantissa exponent hm) :
    (Binary.ofBits bits.toNat).mantissa = mantissa ∧
      (Binary.ofBits bits.toNat).exponent = exponent := by
  have hfraction := toNat_unpackMantissa bits
  have hfield := toNat_unpackExponent bits
  unfold UnpackedFloat.unpack at h
  simp only at h
  split_ifs at h with hspecial hinfinite hfield' hzero'
  · -- a subnormal double
    injection h with _ hmantissa hexponent
    have hzero : bits.toNat / 2 ^ 52 % 2 ^ 11 = 0 := by
      rw [← hfield, hfield']
      rfl
    rw [Binary.ofBits]
    simp only [hzero, ite_true]
    rw [← hmantissa, ← hexponent, hfraction, hfield']
    exact ⟨rfl, rfl⟩
  · injection h with _ hmantissa hexponent
    have hnonzero : bits.toNat / 2 ^ 52 % 2 ^ 11 ≠ 0 := by
      rw [← hfield]
      intro hzero
      exact hfield' (BitVec.eq_of_toNat_eq hzero)
    rw [Binary.ofBits]
    simp only [hnonzero, ite_false]
    rw [← hmantissa, ← hexponent, hfield]
    refine ⟨?_, ?_⟩
    · rw [BitVec.toNat_append, hfraction]
      exact Nat.shiftLeft_add_eq_or_of_lt (Nat.mod_lt _ (Nat.two_pow_pos 52)) 1
    · rfl

theorem mantissa_of_unpack_zero {bits : BitVec 64} {sign : Sign}
    (h : UnpackedFloat.unpack Format.binary64 bits = .zero sign) :
    (Binary.ofBits bits.toNat).mantissa = 0 := by
  have hfraction := toNat_unpackMantissa bits
  have hfield := toNat_unpackExponent bits
  unfold UnpackedFloat.unpack at h
  simp only at h
  split_ifs at h with hspecial hinfinite hfield' hzero'
  have hzero : bits.toNat / 2 ^ 52 % 2 ^ 11 = 0 := by
    rw [← hfield, hfield']
    rfl
  rw [Binary.ofBits]
  simp only [hzero, ite_true]
  rw [← hfraction, hzero']
  rfl

theorem beq_zero_iff {x : Float} (hx : x.isFinite = true) :
    (x == 0) = true ↔ (Binary.ofBits x.toBits.toNat).mantissa = 0 := by
  have hfinite : x.toModel.unpack.isFinite = true := hx
  have hunfold : (x == 0) = (x.toModel.unpack.compare (.zero .positive) == some .eq) := rfl
  rw [hunfold]
  cases hunpack : x.toModel.unpack with
  | notANumber => simp [hunpack, UnpackedFloat.isFinite] at hfinite
  | infinity sign => simp [hunpack, UnpackedFloat.isFinite] at hfinite
  | zero sign =>
      have hmantissa := @mantissa_of_unpack_zero x.toBits.toBitVec _ hunpack
      exact iff_of_true rfl hmantissa
  | finite sign mantissa exponent hpos =>
      have hmantissa := (@ofBits_of_unpack x.toBits.toBitVec _ _ _ _ hunpack).1
      refine iff_of_false ?_ fun hzero => hpos.ne' (hmantissa.symm.trans hzero)
      cases sign <;> exact Bool.false_ne_true

-- A double is the number that its fields make.
theorem value_ofBits {x : Float} {sign : Sign} {mantissa : Nat} {exponent : Int}
    {hm : 0 < mantissa} (h : x.toModel.unpack = .finite sign mantissa exponent hm) :
    (Binary.ofBits x.toBits.toNat).value = mantissa * 2 ^ exponent := by
  obtain ⟨hmantissa, hexponent⟩ := @ofBits_of_unpack x.toBits.toBitVec _ _ _ _ h
  rw [Binary.value, ← hmantissa, ← hexponent]
  rfl

end Double

theorem shortestFor_floatDecimal (x : Float) :
    (floatDecimal x).ShortestFor (Binary.ofBits x.toBits.toNat) :=
  Decimal.shortestFor_shortest (Binary.wellFormed_ofBits _)

theorem noLeadingZero_floatDecimal (x : Float) : (floatDecimal x).NoLeadingZero :=
  Decimal.noLeadingZero_shortest (Binary.wellFormed_ofBits _)

end EventText
