import EventText.Number.Shortest
import EventText.Proofs.Number.Digits
import Mathlib

namespace EventText

-- The reals that read back as a double, the values of a decimal grid among them, and the grid on
-- which the search for the shortest one ends.

namespace Ratio

def toRat (r : Ratio) : ℚ := r.num / r.den

theorem den_scale_pos {r : Ratio} (h : 0 < r.den) {base : Nat} (hbase : 0 < base) (power : Int) :
    0 < (r.scale base power).den := by
  unfold scale
  split
  · exact h
  · exact Nat.mul_pos h (Nat.pow_pos hbase)

theorem toRat_scale (r : Ratio) {base : Nat} (hbase : 0 < base) (power : Int) :
    (r.scale base power).toRat = r.toRat * base ^ power := by
  have hne : (base : ℚ) ≠ 0 := by positivity
  unfold scale
  split
  · next hpower =>
      obtain ⟨k, rfl⟩ := Int.eq_ofNat_of_zero_le hpower
      simp only [toRat, Int.toNat_natCast]
      push_cast
      rw [zpow_natCast]
      ring
  · next hpower =>
      obtain ⟨k, hk⟩ := Int.eq_ofNat_of_zero_le (by omega : 0 ≤ -power)
      obtain rfl : power = -k := by omega
      simp only [toRat, neg_neg, Int.toNat_natCast]
      push_cast
      rw [zpow_neg, zpow_natCast]
      field_simp

theorem le_iff {a b : Ratio} (ha : 0 < a.den) (hb : 0 < b.den) :
    a.le b = true ↔ a.toRat ≤ b.toRat := by
  rw [le, decide_eq_true_iff, toRat, toRat, div_le_div_iff₀ (by positivity) (by positivity)]
  norm_cast

theorem lt_iff {a b : Ratio} (ha : 0 < a.den) (hb : 0 < b.den) :
    a.lt b = true ↔ a.toRat < b.toRat := by
  rw [lt, decide_eq_true_iff, toRat, toRat, div_lt_div_iff₀ (by positivity) (by positivity)]
  norm_cast

end Ratio

namespace Binary

def value (b : Binary) : ℚ := b.mantissa * 2 ^ b.exponent

-- The middle between a number and its neighbour below, and above.
def lowest (b : Binary) : ℚ :=
  b.value - (if b.narrowBelow then 1 / 4 else 1 / 2) * 2 ^ b.exponent

def highest (b : Binary) : ℚ := b.value + 1 / 2 * 2 ^ b.exponent

-- A real is read as the nearest double, and in the middle as the one with the even mantissa.
def ReadsBack (b : Binary) (q : ℚ) : Prop :=
  if b.mantissa % 2 = 0 then b.lowest ≤ q ∧ q ≤ b.highest else b.lowest < q ∧ q < b.highest

-- The mantissa has 53 bits, and the gap below is narrow at the start of a binade only.
structure WellFormed (b : Binary) : Prop where
  mantissa_lt : b.mantissa < 2 ^ 53
  mantissa_eq : b.narrowBelow = true → b.mantissa = 2 ^ 52

theorem wellFormed_ofBits (bits : Nat) : (ofBits bits).WellFormed := by
  have hfraction : bits % 2 ^ 52 < 2 ^ 52 := Nat.mod_lt _ (by decide)
  unfold ofBits
  simp only
  split
  · exact ⟨by simp only; omega, nofun⟩
  · refine ⟨by simp only; omega, fun hnarrow => ?_⟩
    simp only [Bool.and_eq_true, decide_eq_true_eq] at hnarrow ⊢
    omega

variable {b : Binary}

theorem ReadsBack.of_between {p q r : ℚ} (hp : b.ReadsBack p) (hr : b.ReadsBack r) (hpq : p ≤ q)
    (hqr : q ≤ r) : b.ReadsBack q := by
  unfold ReadsBack at hp hr ⊢
  split at hp
  · next heven =>
      rw [if_pos heven] at hr ⊢
      exact ⟨hp.1.trans hpq, hqr.trans hr.2⟩
  · next hodd =>
      rw [if_neg hodd] at hr ⊢
      exact ⟨hp.1.trans_le hpq, hqr.trans_lt hr.2⟩

theorem readsBack_of_lt {q : ℚ} (hlow : b.lowest < q) (hhigh : q < b.highest) : b.ReadsBack q := by
  unfold ReadsBack
  split
  · exact ⟨hlow.le, hhigh.le⟩
  · exact ⟨hlow, hhigh⟩

theorem ReadsBack.lowest_le {q : ℚ} (h : b.ReadsBack q) : b.lowest ≤ q := by
  unfold ReadsBack at h
  split at h
  · exact h.1
  · exact h.1.le

theorem ReadsBack.le_highest {q : ℚ} (h : b.ReadsBack q) : q ≤ b.highest := by
  unfold ReadsBack at h
  split at h
  · exact h.2
  · exact h.2.le

theorem lowest_lt_value : b.lowest < b.value := by
  have hpow : (0 : ℚ) < 2 ^ b.exponent := by positivity
  unfold lowest
  split <;> linarith

theorem value_lt_highest : b.value < b.highest := by
  have hpow : (0 : ℚ) < 2 ^ b.exponent := by positivity
  unfold highest
  linarith

theorem readsBack_value : b.ReadsBack b.value := readsBack_of_lt lowest_lt_value value_lt_highest

theorem mantissa_ne_zero (h : b.value ≠ 0) : b.mantissa ≠ 0 := by
  intro hzero
  rw [value, hzero, Nat.cast_zero, zero_mul] at h
  exact h rfl

theorem value_pos (h : b.mantissa ≠ 0) : 0 < b.value := by
  have hpos : (0 : ℚ) < b.mantissa := by exact_mod_cast Nat.pos_of_ne_zero h
  unfold value
  positivity

theorem lowest_pos (h : b.mantissa ≠ 0) : 0 < b.lowest := by
  have hone : (1 : ℚ) ≤ b.mantissa := by exact_mod_cast Nat.one_le_iff_ne_zero.mpr h
  have hpow : (0 : ℚ) < 2 ^ b.exponent := by positivity
  unfold lowest value
  split <;> nlinarith

-- The reals that read back fill more than a unit of the sixteenth place behind the first digit.
theorem WellFormed.width (h : b.WellFormed) : b.value / 10 ^ 16 < b.highest - b.lowest := by
  have hpow : (0 : ℚ) < 2 ^ b.exponent := by positivity
  have hmantissa : (b.mantissa : ℚ) < 2 ^ 53 := by exact_mod_cast h.mantissa_lt
  unfold highest lowest value
  split
  · next hnarrow =>
      have hstart : (b.mantissa : ℚ) = 2 ^ 52 := by exact_mod_cast h.mantissa_eq hnarrow
      rw [hstart]
      nlinarith
  · nlinarith

end Binary

namespace Shortest

open Binary

variable {b : Binary}

def ratioOf (b : Binary) : Ratio := Ratio.scale ⟨b.mantissa, 1⟩ 2 b.exponent

theorem den_ratioOf_pos (b : Binary) : 0 < (ratioOf b).den :=
  Ratio.den_scale_pos Nat.one_pos Nat.two_pos _

theorem toRat_ratioOf (b : Binary) : (ratioOf b).toRat = b.value := by
  rw [ratioOf, Ratio.toRat_scale _ Nat.two_pos, value, Ratio.toRat]
  push_cast
  ring

theorem contains_iff (h : b.mantissa ≠ 0) {r : Ratio} (hr : 0 < r.den) :
    (interval b).contains r = true ↔ b.ReadsBack r.toRat := by
  have hquarter (n : Nat) : (Ratio.scale ⟨n, 4⟩ 2 b.exponent).toRat = n / 4 * 2 ^ b.exponent := by
    rw [Ratio.toRat_scale _ Nat.two_pos]
    rfl
  have hden (n : Nat) : 0 < (Ratio.scale ⟨n, 4⟩ 2 b.exponent).den :=
    Ratio.den_scale_pos (Nat.ofNat_pos) Nat.two_pos _
  have hlow : (interval b).low.toRat = b.lowest := by
    have hfour : 2 ≤ 4 * b.mantissa := by omega
    simp only [interval, hquarter, lowest, value]
    split
    · rw [Nat.cast_sub (by omega)]
      push_cast
      ring
    · rw [Nat.cast_sub hfour]
      push_cast
      ring
  have hhigh : (interval b).high.toRat = b.highest := by
    simp only [interval, hquarter, highest, value]
    push_cast
    ring
  have hlowDen : 0 < (interval b).low.den := hden _
  have hhighDen : 0 < (interval b).high.den := hden _
  rw [Interval.contains, ReadsBack]
  have hclosed : (interval b).closed = decide (b.mantissa % 2 = 0) := rfl
  by_cases heven : b.mantissa % 2 = 0
  · simp only [hclosed, heven, decide_true, ite_true, Bool.and_eq_true]
    rw [Ratio.le_iff hlowDen hr, Ratio.le_iff hr hhighDen, hlow, hhigh]
  · simp only [hclosed, heven, decide_false, ite_false, Bool.and_eq_true, Bool.false_eq_true]
    rw [Ratio.lt_iff hlowDen hr, Ratio.lt_iff hr hhighDen, hlow, hhigh]

-- The zeros are counted until the number, so many places up, is a tenth or more.
theorem leadingZeros_spec {r : Ratio} {fuel : Nat} (hlt : r.num < r.den)
    (hfuel : r.den ≤ r.num * 10 ^ (fuel + 1)) (zeros : Nat) :
    ∃ more, leadingZeros r fuel zeros = zeros + more ∧ r.num * 10 ^ more < r.den ∧
      r.den ≤ r.num * 10 ^ (more + 1) := by
  induction fuel generalizing r zeros with
  | zero => exact ⟨0, rfl, by simpa using hlt, hfuel⟩
  | succ fuel ih =>
      unfold leadingZeros
      split
      · next hten => exact ⟨0, rfl, by simpa using hlt, by simpa using hten⟩
      · next hten =>
          have hfuel' : r.den ≤ r.num * 10 * 10 ^ (fuel + 1) := by
            rwa [Nat.mul_assoc, ← Nat.pow_succ']
          obtain ⟨more, hcount, hlow, hhigh⟩ := @ih ⟨r.num * 10, r.den⟩ (not_le.mp hten) hfuel'
            (zeros + 1)
          refine ⟨more + 1, by rw [hcount]; omega, ?_, ?_⟩
          · rwa [Nat.pow_succ', ← Nat.mul_assoc]
          · rwa [Nat.pow_succ', ← Nat.mul_assoc]

-- The first digit stands right behind the power of ten below the number.
theorem point_spec {r : Ratio} (hnum : 0 < r.num) (hden : 0 < r.den) :
    10 ^ (point r - 1) ≤ r.toRat ∧ r.toRat < 10 ^ point r := by
  have hdenRat : (0 : ℚ) < r.den := by exact_mod_cast hden
  unfold point Ratio.toRat
  rw [le_div_iff₀ hdenRat, div_lt_iff₀ hdenRat]
  split
  · next hge =>
      obtain ⟨more, hmore⟩ := Nat.exists_eq_succ_of_ne_zero
        (List.length_pos_iff_ne_nil.mpr (Digits.ofNat_ne_nil (r.num / r.den))).ne'
      have hlow : 10 ^ more ≤ r.num / r.den := by
        obtain rfl | hpos := Nat.eq_zero_or_pos more
        · exact Nat.div_pos hge hden
        · by_contra hless
          have := Digits.length_ofNat_le hpos (not_le.mp hless)
          omega
      have hhigh := Digits.toNat_lt (Digits.ofNat (r.num / r.den))
      rw [Digits.toNat_ofNat, Nat.div_lt_iff_lt_mul hden] at hhigh
      rw [Nat.le_div_iff_mul_le hden] at hlow
      have hplace : ((Digits.ofNat (r.num / r.den)).length : ℤ) - 1 = more := by omega
      rw [hplace, zpow_natCast, zpow_natCast]
      exact ⟨by exact_mod_cast hlow, by exact_mod_cast hhigh⟩
  · next hlt =>
      have hfuel : r.den ≤ r.num * 10 ^ (r.den.log2 + 1) := by
        calc r.den
            ≤ 2 ^ (r.den.log2 + 1) := Nat.lt_log2_self.le
          _ ≤ 10 ^ (r.den.log2 + 1) := Nat.pow_le_pow_left (by decide) _
          _ ≤ r.num * 10 ^ (r.den.log2 + 1) := Nat.le_mul_of_pos_left _ hnum
      obtain ⟨more, hcount, hlow, hhigh⟩ := leadingZeros_spec (not_le.mp hlt) hfuel 0
      have hpow : (0 : ℚ) < 10 ^ more := by positivity
      have hlow' : (r.num * 10 ^ more : ℚ) < r.den := by exact_mod_cast hlow
      have hhigh' : (r.den : ℚ) ≤ r.num * 10 ^ (more + 1) := by exact_mod_cast hhigh
      have hplace : -((0 + more : Nat) : ℤ) - 1 = -((more + 1 : Nat) : ℤ) := by omega
      rw [hcount, hplace, Nat.zero_add, zpow_neg, zpow_neg, zpow_natCast, zpow_natCast,
        inv_mul_le_iff₀ (by positivity), lt_inv_mul_iff₀ hpow]
      exact ⟨by linarith, by linarith⟩

-- A number between two neighbours of a grid, and how far it is from the lower one.
theorem grid_bounds {r : Ratio} (hr : 0 < r.den) :
    ((r.num / r.den : Nat) : ℚ) ≤ r.toRat ∧ r.toRat < (r.num / r.den : Nat) + 1 ∧
      (2 * (r.num % r.den) < r.den ↔ r.toRat - (r.num / r.den : Nat) < 1 / 2) := by
  have hden : (0 : ℚ) < r.den := by exact_mod_cast hr
  have hsplit : (r.num : ℚ) = r.den * (r.num / r.den : Nat) + (r.num % r.den : Nat) := by
    exact_mod_cast (Nat.div_add_mod r.num r.den).symm
  have hrest : ((r.num % r.den : Nat) : ℚ) < r.den := by exact_mod_cast Nat.mod_lt _ hr
  have hrat : r.toRat = (r.num / r.den : Nat) + ((r.num % r.den : Nat) : ℚ) / r.den := by
    rw [Ratio.toRat, hsplit]
    field_simp
  have hless : ((r.num % r.den : Nat) : ℚ) / r.den < 1 := (div_lt_one hden).mpr hrest
  have hnonneg : (0 : ℚ) ≤ ((r.num % r.den : Nat) : ℚ) / r.den := by positivity
  refine ⟨by linarith, by linarith, ?_⟩
  rw [hrat, add_sub_cancel_left, div_lt_div_iff₀ hden two_pos, one_mul, mul_comm 2]
  exact_mod_cast Iff.rfl

theorem contains_grid_iff (h : b.mantissa ≠ 0) (n : Nat) (power : Int) :
    (interval b).contains (Ratio.scale ⟨n, 1⟩ 10 power) = true ↔
      b.ReadsBack (n * 10 ^ power) := by
  rw [contains_iff h (Ratio.den_scale_pos Nat.one_pos Nat.ofNat_pos _),
    Ratio.toRat_scale _ Nat.ofNat_pos]
  simp [Ratio.toRat]

theorem toRat_steps (b : Binary) (power : Int) :
    ((ratioOf b).scale 10 (-power)).toRat * 10 ^ power = b.value := by
  rw [Ratio.toRat_scale _ Nat.ofNat_pos, toRat_ratioOf, mul_assoc, Nat.cast_ofNat,
    ← zpow_add₀ (by norm_num), neg_add_cancel, zpow_zero, mul_one]

-- The value that the grid of step `10 ^ power` has to offer.
def hit? (b : Binary) (power : Int) : Option Nat := onGrid (ratioOf b) (interval b) power

-- What a grid has to offer: its two values around the number, the nearer one of those that read
-- back.
theorem hit?_cases (h : b.mantissa ≠ 0) (power : Int) :
    ∃ below : Nat, (below : ℚ) * 10 ^ power ≤ b.value ∧
      b.value < (below + 1 : Nat) * 10 ^ power ∧
      ((b.ReadsBack (below * 10 ^ power) ∧
          (b.ReadsBack ((below + 1 : Nat) * 10 ^ power) →
            b.value - below * 10 ^ power ≤ (below + 1 : Nat) * 10 ^ power - b.value) ∧
          hit? b power = some below) ∨
        (b.ReadsBack ((below + 1 : Nat) * 10 ^ power) ∧
          (b.ReadsBack (below * 10 ^ power) →
            (below + 1 : Nat) * 10 ^ power - b.value ≤ b.value - below * 10 ^ power) ∧
          hit? b power = some (below + 1)) ∨
        (¬b.ReadsBack (below * 10 ^ power) ∧ ¬b.ReadsBack ((below + 1 : Nat) * 10 ^ power) ∧
          hit? b power = none)) := by
  have hten : (0 : ℚ) < 10 ^ power := by positivity
  have hcontains (n : Nat) := contains_grid_iff h n power
  have hsteps := toRat_steps b power
  obtain ⟨hlow, hhigh, hhalf⟩ := @grid_bounds ((ratioOf b).scale 10 (-power))
    (Ratio.den_scale_pos (den_ratioOf_pos b) Nat.ofNat_pos _)
  generalize hgrid : (ratioOf b).scale 10 (-power) = steps at hsteps hlow hhigh hhalf
  refine ⟨steps.num / steps.den, ?_, ?_, ?_⟩
  · rw [← hsteps]
    exact mul_le_mul_of_nonneg_right hlow hten.le
  · rw [← hsteps]
    push_cast
    exact mul_lt_mul_of_pos_right hhigh hten
  · have hnear : 2 * (steps.num % steps.den) < steps.den ↔
        b.value - (steps.num / steps.den : Nat) * 10 ^ power
          < (steps.num / steps.den + 1 : Nat) * 10 ^ power - b.value := by
      rw [hhalf, ← hsteps, ← mul_lt_mul_iff_left₀ hten]
      push_cast
      constructor <;> intro hless <;> linarith
    have hnot (n : Nat) (hn : ¬b.ReadsBack (n * 10 ^ power)) :
        (interval b).contains (Ratio.scale ⟨n, 1⟩ 10 power) = false :=
      Bool.eq_false_iff.mpr fun hback => hn ((hcontains n).mp hback)
    simp only [hit?, onGrid, hgrid]
    by_cases hbelow : b.ReadsBack ((steps.num / steps.den : Nat) * 10 ^ power) <;>
      by_cases habove : b.ReadsBack ((steps.num / steps.den + 1 : Nat) * 10 ^ power)
    · rw [(hcontains _).mpr hbelow, (hcontains _).mpr habove]
      simp only [hnear]
      split
      · next hless => exact .inl ⟨hbelow, fun _ => hless.le, rfl⟩
      · next hless => exact .inr (.inl ⟨habove, fun _ => not_lt.mp hless, rfl⟩)
    · rw [(hcontains _).mpr hbelow, hnot _ habove]
      exact .inl ⟨hbelow, fun hback => absurd hback habove, rfl⟩
    · rw [hnot _ hbelow, (hcontains _).mpr habove]
      exact .inr (.inl ⟨habove, fun hback => absurd hback hbelow, rfl⟩)
    · rw [hnot _ hbelow, hnot _ habove]
      exact .inr (.inr ⟨hbelow, habove, rfl⟩)

-- A hit reads back, lies next to the number, and no other value of the grid that reads back is
-- nearer.
theorem readsBack_of_hit? (h : b.mantissa ≠ 0) {power : Int} {n : Nat}
    (hn : hit? b power = some n) :
    b.ReadsBack (n * 10 ^ power) ∧ (n : ℚ) * 10 ^ power ≤ b.value + 10 ^ power ∧
      ∀ k : Nat, b.ReadsBack (k * 10 ^ power) →
        |n * 10 ^ power - b.value| ≤ |k * 10 ^ power - b.value| := by
  have hten : (0 : ℚ) < 10 ^ power := by positivity
  obtain ⟨below, hlow, hhigh, hcases⟩ := hit?_cases h power
  push_cast at hhigh hcases
  have hside (k : Nat) : (k : ℚ) * 10 ^ power ≤ below * 10 ^ power ∨
      ((below : ℚ) + 1) * 10 ^ power ≤ k * 10 ^ power := by
    obtain hle | hgt := Nat.lt_or_ge below k
    · exact .inr (mul_le_mul_of_nonneg_right (by exact_mod_cast hle) hten.le)
    · exact .inl (mul_le_mul_of_nonneg_right (by exact_mod_cast hgt) hten.le)
  rcases hcases with ⟨hback, hnear, hgrid⟩ | ⟨hback, hnear, hgrid⟩ | ⟨-, -, hgrid⟩
  · obtain rfl := Option.some.inj (hgrid.symm.trans hn)
    refine ⟨hback, by linarith, fun k hk => ?_⟩
    rw [abs_of_nonpos (by linarith)]
    rcases hside k with hk' | hk'
    · rw [abs_of_nonpos (by linarith)]
      linarith
    · have hnext := hnear (readsBack_value.of_between hk hhigh.le hk')
      rw [abs_of_nonneg (by linarith)]
      linarith
  · obtain rfl := Option.some.inj (hgrid.symm.trans hn)
    push_cast
    refine ⟨hback, by linarith, fun k hk => ?_⟩
    rw [abs_of_nonneg (by linarith)]
    rcases hside k with hk' | hk'
    · have hnext := hnear (hk.of_between readsBack_value hk' hlow)
      rw [abs_of_nonpos (by linarith)]
      linarith
    · rw [abs_of_nonneg (by linarith)]
      linarith
  · rw [hgrid] at hn
    cases hn

theorem not_readsBack_of_hit? (h : b.mantissa ≠ 0) {power : Int}
    (hn : hit? b power = none) (k : Nat) :
    ¬b.ReadsBack (k * 10 ^ power) := by
  have hten : (0 : ℚ) < 10 ^ power := by positivity
  obtain ⟨below, hlow, hhigh, hcases⟩ := hit?_cases h power
  rcases hcases with ⟨-, -, hgrid⟩ | ⟨-, -, hgrid⟩ | ⟨hbelow, habove, -⟩
  · rw [hgrid] at hn
    cases hn
  · rw [hgrid] at hn
    cases hn
  · intro hk
    obtain hle | hgt := Nat.lt_or_ge below k
    · refine habove (readsBack_value.of_between hk hhigh.le ?_)
      exact mul_le_mul_of_nonneg_right (by exact_mod_cast hle) hten.le
    · refine hbelow (hk.of_between readsBack_value ?_ hlow)
      exact mul_le_mul_of_nonneg_right (by exact_mod_cast hgt) hten.le

-- On a grid finer than the reals that read back there is a hit.
theorem hit?_ne_none (h : b.mantissa ≠ 0) {power : Int}
    (hpower : (10 : ℚ) ^ power < b.highest - b.lowest) :
    hit? b power ≠ none := by
  obtain ⟨below, hlow, hhigh, hcases⟩ := hit?_cases h power
  push_cast at hhigh hcases
  rcases hcases with ⟨-, -, hgrid⟩ | ⟨-, -, hgrid⟩ | ⟨hbelow, habove, -⟩
  · simp [hgrid]
  · simp [hgrid]
  · have hbelow' : (below : ℚ) * 10 ^ power ≤ b.lowest := by
      by_contra hless
      exact hbelow (readsBack_of_lt (not_le.mp hless) (hlow.trans_lt value_lt_highest))
    have habove' : b.highest ≤ ((below : ℚ) + 1) * 10 ^ power := by
      by_contra hless
      exact habove (readsBack_of_lt (lowest_lt_value.trans hhigh) (not_le.mp hless))
    linarith

-- The first hit from the coarse grids to the fine ones.
theorem search_spec (value : Ratio) (range : Interval) {power : Int} {fuel depth : Nat}
    (hdepth : depth < fuel) (hit : onGrid value range (power - depth) ≠ none) :
    ∃ n found, search value range power fuel = (n, found) ∧
      onGrid value range found = some n ∧ found ≤ power ∧
      ∀ coarser, found < coarser → coarser ≤ power → onGrid value range coarser = none := by
  induction fuel generalizing power depth with
  | zero => cases hdepth
  | succ fuel ih =>
      unfold search
      cases hgrid : onGrid value range power with
      | some n =>
          exact ⟨n, power, rfl, hgrid, le_rfl, fun coarser hlt hle => absurd hlt (not_lt.mpr hle)⟩
      | none =>
          cases depth with
          | zero =>
              rw [Nat.cast_zero, sub_zero] at hit
              exact absurd hgrid hit
          | succ depth =>
              have hnext : power - ((depth + 1 : Nat) : ℤ) = power - 1 - depth := by omega
              rw [hnext] at hit
              obtain ⟨n, found, hsearch, hfound, hle, hnone⟩ := ih (by omega) hit
              refine ⟨n, found, hsearch, hfound, by omega, fun coarser hlt hcoarser => ?_⟩
              obtain rfl | hless := eq_or_lt_of_le hcoarser
              · exact hgrid
              · exact hnone coarser hlt (by omega)

end Shortest

end EventText
