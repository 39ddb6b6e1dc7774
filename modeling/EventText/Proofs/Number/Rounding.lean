import EventText.Number.Rounding
import EventText.Proofs.Number.Digits
import Mathlib

namespace EventText

-- What the digits of a decimal denote, and what is left of it when it is rounded.

namespace Digits

@[simp] theorem toNat_nil : toNat [] = 0 := rfl

theorem toNat_join (front back : List Digit) :
    toNat (front ++ back) = toNat front * 10 ^ back.length + toNat back := by
  induction back using List.reverseRecOn with
  | nil => simp [toNat]
  | append_singleton back d ih =>
      rw [← List.append_assoc, toNat_append, ih, toNat_append, List.length_append,
        List.length_singleton]
      ring

theorem toNat_cons (d : Digit) (digits : List Digit) :
    toNat (d :: digits) = d.val * 10 ^ digits.length + toNat digits := by
  have hjoin := toNat_join [d] digits
  have hfirst : toNat [d] = d.val := by simp [toNat]
  rwa [hfirst] at hjoin

theorem toNat_zeros_append (count : Nat) (digits : List Digit) :
    toNat (List.replicate count 0 ++ digits) = toNat digits := by
  have hpad := toNat_padLeft (digits.length + count) digits
  rwa [padLeft, Nat.add_sub_cancel_left] at hpad

theorem toNat_zeros (count : Nat) : toNat (List.replicate count 0) = 0 := by
  have hzeros := toNat_zeros_append count []
  rwa [List.append_nil] at hzeros

theorem toNat_append_zeros (digits : List Digit) (count : Nat) :
    toNat (digits ++ List.replicate count 0) = toNat digits * 10 ^ count := by
  rw [toNat_join, toNat_zeros, List.length_replicate, Nat.add_zero]

theorem toNat_eq_zero_iff {digits : List Digit} : toNat digits = 0 ↔ ∀ d ∈ digits, d = 0 := by
  induction digits with
  | nil => exact iff_of_true rfl nofun
  | cons d digits ih =>
      have hpow : (10 : Nat) ^ digits.length ≠ 0 := (Nat.pow_pos (by decide)).ne'
      rw [toNat_cons, Nat.add_eq_zero_iff, ih, List.forall_mem_cons, Nat.mul_eq_zero,
        or_iff_left hpow, Fin.val_eq_zero_iff]

theorem pow_le_toNat {d : Digit} {digits : List Digit} (h : d ≠ 0) :
    10 ^ digits.length ≤ toNat (d :: digits) := by
  have hpos : 0 < d.val := Fin.pos_iff_ne_zero.mpr h
  rw [toNat_cons]
  exact (Nat.le_mul_of_pos_left _ hpos).trans (Nat.le_add_right _ _)

-- Digits are those of the number that they denote, unless a zero stands in front of others.
theorem ofNat_toNat {digits : List Digit} (hne : digits ≠ [])
    (hzero : ∀ rest, digits = 0 :: rest → rest = []) : ofNat (toNat digits) = digits := by
  induction digits using List.reverseRecOn with
  | nil => exact absurd rfl hne
  | append_singleton front d ih =>
      have hd := d.isLt
      cases front with
      | nil =>
          have hone : toNat [d] = d.val := by simp [toNat]
          rw [List.nil_append, hone, ofNat, dif_pos hd]
      | cons first rest =>
          have hfirst : first ≠ 0 := by
            rintro rfl
            exact List.append_ne_nil_of_right_ne_nil rest (List.cons_ne_nil d [])
              (hzero (rest ++ [d]) rfl)
          have hpos := (Nat.pow_pos (by decide)).trans_le (@pow_le_toNat first rest hfirst)
          have hdiv : (toNat (first :: rest) * 10 + d.val) / 10 = toNat (first :: rest) := by omega
          have hmod : (toNat (first :: rest) * 10 + d.val) % 10 = d.val := by omega
          have hfront := ih (List.cons_ne_nil _ _) fun rest h => absurd (List.cons.inj h).1 hfirst
          rw [toNat_append, ofNat, dif_neg (by omega), hdiv, hfront]
          simp only [hmod]

theorem length_increment (digits : List Digit) :
    (increment digits).2.length = digits.length := by
  fun_induction increment digits <;> simp_all

-- The carry stands one place in front of the digits.
theorem toNat_increment (digits : List Digit) :
    (increment digits).1.toNat * 10 ^ digits.length + toNat (increment digits).2
      = toNat digits + 1 := by
  induction digits with
  | nil => rfl
  | cons d digits ih =>
      have hlength := length_increment digits
      rcases h : increment digits with ⟨carry, rest⟩
      rw [h] at ih hlength
      rw [toNat_cons, increment, h]
      cases carry with
      | false =>
          simp only [Bool.toNat_false, Nat.zero_mul, Nat.zero_add] at ih
          simp [toNat_cons, hlength, ih, Nat.add_assoc]
      | true =>
          simp only [Bool.toNat_true, Nat.one_mul] at ih
          by_cases hnine : d = 9
          · subst hnine
            simp only [ite_true, toNat_cons, List.length_cons, hlength, pow_succ, Bool.toNat_true]
            simp
            omega
          · have hsucc : (d + 1).val = d.val + 1 :=
              (by decide : ∀ d : Digit, d ≠ 9 → (d + 1).val = d.val + 1) d hnine
            simp only [ite_true, hnine, ite_false, toNat_cons, hlength, hsucc, Bool.toNat_false]
            simp only [Nat.zero_mul, Nat.zero_add, Nat.add_mul, Nat.one_mul]
            omega

theorem getD_increment_ne_zero {digits up : List Digit} (h : increment digits = (false, up))
    (hfirst : digits.getD 0 0 ≠ 0) : up.getD 0 0 ≠ 0 := by
  cases digits with
  | nil => cases h
  | cons d digits =>
      rcases hrest : increment digits with ⟨_ | _, rest⟩
      · simp only [increment, hrest] at h
        obtain ⟨-, rfl⟩ := Prod.mk.inj h
        exact hfirst
      · simp only [increment, hrest, ite_true] at h
        split at h
        · cases h
        · next hnine =>
            obtain ⟨-, rfl⟩ := Prod.mk.inj h
            exact (by decide : ∀ d : Digit, d ≠ 9 → d + 1 ≠ 0) d hnine

-- The cut falls behind `kept`, and the first digit behind it decides.
theorem round_join (kept cut : List Digit) :
    round ((toNat (kept ++ cut) : ℚ) / 10 ^ cut.length)
      = toNat kept + if 5 ≤ cut.headD 0 then 1 else 0 := by
  have hpow : (0 : ℚ) < 10 ^ cut.length := by positivity
  have hsplit : (toNat (kept ++ cut) : ℚ) / 10 ^ cut.length
      = (toNat kept : ℤ) + (toNat cut : ℚ) / 10 ^ cut.length := by
    rw [toNat_join]
    push_cast
    field_simp
  rw [hsplit, round_intCast_add, add_right_inj]
  cases cut with
  | nil => simp [toNat]
  | cons d rest =>
      have hrest : (toNat rest : ℚ) + 1 ≤ 10 ^ rest.length := by exact_mod_cast toNat_lt rest
      have hpow : (0 : ℚ) < 10 ^ rest.length := by positivity
      have hcut : (toNat (d :: rest) : ℚ) / 10 ^ (d :: rest).length
          = (d.val + toNat rest / 10 ^ rest.length) / 10 := by
        rw [toNat_cons, List.length_cons, pow_succ]
        push_cast
        field_simp
      have htail : (toNat rest : ℚ) / 10 ^ rest.length < 1 := by
        rw [div_lt_one hpow]
        linarith
      have htail' : (0 : ℚ) ≤ (toNat rest : ℚ) / 10 ^ rest.length := by positivity
      rw [hcut, round_eq_iff, Set.mem_Ico, List.headD_cons]
      split
      · next hd =>
          have hlow : (5 : ℚ) ≤ d.val := by exact_mod_cast hd
          have hhigh : (d.val : ℚ) ≤ 9 := by exact_mod_cast Nat.le_of_lt_succ d.isLt
          constructor <;> push_cast <;> linarith
      · next hd =>
          have hhigh : (d.val : ℚ) ≤ 4 := by exact_mod_cast Nat.le_of_lt_succ (not_le.mp hd)
          have hlow : (0 : ℚ) ≤ d.val := by positivity
          constructor <;> push_cast <;> linarith

end Digits

namespace Decimal

open Digits

-- The digits stand in front of a power of ten.
def value (d : Decimal) : ℚ := toNat d.digits * 10 ^ (d.point - d.digits.length)

theorem value_lt (d : Decimal) : d.value < 10 ^ d.point := by
  have hdigits : (toNat d.digits : ℚ) < 10 ^ (d.digits.length : ℤ) := by
    exact_mod_cast toNat_lt d.digits
  calc d.value
      < 10 ^ (d.digits.length : ℤ) * 10 ^ (d.point - d.digits.length) :=
        mul_lt_mul_of_pos_right hdigits (by positivity)
    _ = 10 ^ d.point := by
        rw [← zpow_add₀ (by norm_num), add_sub_cancel]

theorem value_mul_zpow (d : Decimal) (places : Int) :
    d.value * 10 ^ places = toNat d.digits * 10 ^ (d.point + places - d.digits.length) := by
  rw [value, mul_assoc, ← zpow_add₀ (by norm_num)]
  congr 2
  ring

theorem digit_natCast (d : Decimal) (i : Nat) : d.digit i = d.digits.getD i 0 := by
  rw [digit, if_pos (Int.natCast_nonneg i), Int.toNat_natCast]

theorem digit_of_neg (d : Decimal) {i : Int} (hi : i < 0) : d.digit i = 0 :=
  if_neg (by omega)

theorem exists_digits_of_digit_ne_zero {d : Decimal} (h : d.digit 0 ≠ 0) :
    ∃ first rest, d.digits = first :: rest ∧ first ≠ 0 := by
  rw [← Nat.cast_zero, digit_natCast] at h
  cases hdigits : d.digits with
  | nil =>
      rw [hdigits] at h
      exact absurd rfl h
  | cons first rest =>
      rw [hdigits] at h
      exact ⟨first, rest, rfl, h⟩

theorem le_value {d : Decimal} (h : d.digit 0 ≠ 0) : 10 ^ (d.point - 1) ≤ d.value := by
  obtain ⟨first, rest, hdigits, hfirst⟩ := exists_digits_of_digit_ne_zero h
  have hten : (10 : ℚ) ≠ 0 := by norm_num
  have hlow : (10 : ℚ) ^ (rest.length : ℤ) ≤ toNat (first :: rest) := by
    exact_mod_cast pow_le_toNat hfirst
  calc (10 : ℚ) ^ (d.point - 1)
      = 10 ^ (rest.length : ℤ) * 10 ^ (d.point - d.digits.length) := by
        rw [← zpow_add₀ hten, hdigits, List.length_cons]
        congr 1
        push_cast
        ring
    _ ≤ toNat (first :: rest) * 10 ^ (d.point - d.digits.length) :=
        mul_le_mul_of_nonneg_right hlow (by positivity)
    _ = d.value := by rw [value, hdigits]

-- Where no digit is cut off nothing is rounded.
theorem roundTo_of_length_le (d : Decimal) {count : Nat} (h : d.digits.length ≤ count) :
    d.roundTo count = d := by
  have hdigit : d.digit count = 0 := by
    rw [digit_natCast, List.getD_eq_default _ _ h]
  simp [roundTo, hdigit, List.take_of_length_le h]

theorem roundTo_of_neg (d : Decimal) {count : Int} (h : count < 0) :
    d.roundTo count = ⟨[], d.point⟩ := if_pos h

-- Digits are cut off, the last one that is kept goes up, or a new one comes in front of them.
theorem roundTo_cases (d : Decimal) (count : Nat) :
    (¬5 ≤ d.digit count ∧ d.roundTo count = ⟨d.digits.take count, d.point⟩) ∨
    (5 ≤ d.digit count ∧ ∃ digits, increment (d.digits.take count) = (false, digits) ∧
      d.roundTo count = ⟨digits, d.point⟩) ∨
    (5 ≤ d.digit count ∧ ∃ digits, increment (d.digits.take count) = (true, digits) ∧
      d.roundTo count = ⟨1 :: digits, d.point + 1⟩) := by
  rw [roundTo, if_neg (by omega), Int.toNat_natCast]
  by_cases hup : 5 ≤ d.digit count
  · rcases hcarry : increment (d.digits.take count) with ⟨_ | _, digits⟩
    · exact .inr (.inl ⟨hup, digits, rfl, by simp only [hup, ite_true, hcarry]⟩)
    · exact .inr (.inr ⟨hup, digits, rfl, by simp only [hup, ite_true, hcarry]⟩)
  · exact .inl ⟨hup, if_neg hup⟩

-- In front of the cut stand the digits that are kept, one more when the cut is not below a half.
theorem value_roundTo_of_lt (d : Decimal) {count : Nat} (h : count < d.digits.length) :
    (d.roundTo count).value
      = (toNat (d.digits.take count) + if 5 ≤ d.digit count then 1 else 0)
        * 10 ^ (d.point - count) := by
  have hlength : (d.digits.take count).length = count := List.length_take_of_le h.le
  have hincrement := toNat_increment (d.digits.take count)
  have hsame := length_increment (d.digits.take count)
  rw [hlength] at hincrement hsame
  rcases d.roundTo_cases count with ⟨hdown, hround⟩ | ⟨hup, digits, hcarry, hround⟩ |
    ⟨hup, digits, hcarry, hround⟩
  · rw [hround, if_neg hdown, add_zero, value, hlength]
  · simp only [hcarry, Bool.toNat_false, Nat.zero_mul, Nat.zero_add] at hincrement hsame
    rw [hround, if_pos hup, value, hsame, hincrement]
    push_cast
    rfl
  · simp only [hcarry, Bool.toNat_true, Nat.one_mul] at hincrement hsame
    have hone : (1 : Digit).val = 1 := rfl
    have hplace : d.point + 1 - ((count + 1 : Nat) : ℤ) = d.point - count := by
      push_cast
      ring
    rw [hround, if_pos hup, value, toNat_cons, hone, Nat.one_mul, hsame, hincrement,
      List.length_cons, hsame, hplace]
    push_cast
    rfl

-- A number is below a tenth where the cut falls before its first place.
theorem round_value_of_neg (d : Decimal) {count : Int} (h : count < 0) :
    round (d.value * 10 ^ (count - d.point)) = 0 := by
  have hlow : 0 ≤ d.value * 10 ^ (count - d.point) := by
    rw [value]
    positivity
  have hhigh : d.value * 10 ^ (count - d.point) < 1 / 2 := by
    calc d.value * 10 ^ (count - d.point)
        < 10 ^ d.point * 10 ^ (count - d.point) :=
          mul_lt_mul_of_pos_right d.value_lt (by positivity)
      _ = 10 ^ count := by rw [← zpow_add₀ (by norm_num), add_sub_cancel]
      _ ≤ 10 ^ (-1 : ℤ) := zpow_le_zpow_right₀ (by norm_num) (by omega)
      _ < 1 / 2 := by norm_num
  exact round_eq_zero_iff.mpr ⟨by linarith, hhigh⟩

theorem value_roundTo (d : Decimal) (count : Int) :
    (d.roundTo count).value
      = round (d.value * 10 ^ (count - d.point)) * 10 ^ (d.point - count) := by
  have hscaled : d.value * 10 ^ (count - d.point)
      = toNat d.digits * 10 ^ (count - d.digits.length) := by
    rw [value_mul_zpow, add_sub_cancel]
  obtain hneg | hnonneg := lt_or_ge count 0
  · rw [round_value_of_neg d hneg, roundTo_of_neg d hneg]
    simp [value]
  · obtain ⟨count, rfl⟩ := Int.eq_ofNat_of_zero_le hnonneg
    obtain hle | hlt := le_or_gt d.digits.length count
    · have hwhole : d.value * 10 ^ ((count : ℤ) - d.point)
          = (toNat d.digits * 10 ^ (count - d.digits.length) : Nat) := by
        rw [hscaled]
        push_cast
        rw [← zpow_natCast, Nat.cast_sub hle]
      rw [hwhole, round_natCast, Int.cast_natCast, ← hwhole, roundTo_of_length_le d hle, mul_assoc,
        ← zpow_add₀ (by norm_num), sub_add_sub_cancel', sub_self, zpow_zero, mul_one]
    · have hdigit : d.digit count = (d.digits.drop count).headD 0 := by
        rw [digit_natCast, List.headD_eq_head?_getD, List.head?_drop, List.getD_eq_getElem?_getD]
      have hcut : d.value * 10 ^ ((count : ℤ) - d.point)
          = toNat (d.digits.take count ++ d.digits.drop count)
            / 10 ^ (d.digits.drop count).length := by
        rw [hscaled, List.take_append_drop, List.length_drop, div_eq_mul_inv, ← zpow_natCast,
          ← zpow_neg, Nat.cast_sub hlt.le, neg_sub]
      rw [value_roundTo_of_lt d hlt, hcut, round_join, hdigit]
      push_cast
      rfl

-- Nothing is left behind the cut.
theorem length_roundTo_le (d : Decimal) (count : Nat) :
    ((d.roundTo count).digits.length : ℤ) ≤ count + ((d.roundTo count).point - d.point) := by
  have hkept : (d.digits.take count).length ≤ count := List.length_take_le _ _
  have hsame := length_increment (d.digits.take count)
  rcases d.roundTo_cases count with ⟨-, hround⟩ | ⟨-, digits, hcarry, hround⟩ |
    ⟨-, digits, hcarry, hround⟩
  · rw [hround]
    simpa only [sub_self, add_zero, Nat.cast_le] using hkept
  · rw [hcarry] at hsame
    simp only [hround] at hsame ⊢
    omega
  · rw [hcarry] at hsame
    simp only [hround, List.length_cons] at hsame ⊢
    omega

-- Places of a decimal in order. Those outside its digits are zeros.

theorem length_slice (d : Decimal) (start : Int) (count : Nat) :
    (d.slice start count).length = count := by
  rw [slice, List.length_map, List.length_range]

theorem slice_add (d : Decimal) (start : Int) (m n : Nat) :
    d.slice start (m + n) = d.slice start m ++ d.slice (start + m) n := by
  simp only [slice, List.range_add, List.map_append, List.map_map]
  congr 1
  refine List.map_congr_left fun i _ => ?_
  rw [Function.comp_apply, Nat.cast_add, add_assoc]

theorem slice_zero (d : Decimal) {count : Nat} (h : d.digits.length ≤ count) :
    d.slice 0 count = d.digits ++ List.replicate (count - d.digits.length) 0 := by
  have hlength : (d.digits ++ List.replicate (count - d.digits.length) 0).length = count := by
    rw [List.length_append, List.length_replicate, Nat.add_sub_cancel' h]
  refine List.ext_getElem (by rw [length_slice, hlength]) fun i hi _ => ?_
  simp only [slice, List.getElem_map, List.getElem_range, zero_add, digit_natCast]
  rw [List.getElem_append]
  split
  · next hlt => exact List.getD_eq_getElem _ _ hlt
  · next hge => rw [List.getElem_replicate, List.getD_eq_default _ _ (not_lt.mp hge)]

theorem slice_of_neg (d : Decimal) {start : Int} {count : Nat} (h : start + count ≤ 0) :
    d.slice start count = List.replicate count 0 := by
  refine List.ext_getElem (by rw [length_slice, List.length_replicate]) fun i hi _ => ?_
  rw [length_slice] at hi
  simp only [slice, List.getElem_map, List.getElem_range, List.getElem_replicate]
  exact d.digit_of_neg (by omega)

-- The digits in front of the point, at least one.
def integer (d : Decimal) : List Digit :=
  if d.point ≤ 0 then [0] else d.slice 0 d.point.toNat

theorem fixed_eq (d : Decimal) (decimals : Nat) :
    d.fixed decimals = ((d.roundTo (d.point + decimals)).integer,
      (d.roundTo (d.point + decimals)).slice (d.roundTo (d.point + decimals)).point decimals) := rfl

theorem integer_ne_nil (d : Decimal) : d.integer ≠ [] := by
  unfold integer
  split
  · exact List.cons_ne_nil _ _
  · rw [← List.length_pos_iff_ne_nil, length_slice]
    omega

-- The places up to the cut hold all digits, and zeros at both ends.
theorem toNat_integer_append_slice (d : Decimal) {decimals : Nat}
    (h : (d.digits.length : ℤ) ≤ d.point + decimals) :
    toNat (d.integer ++ d.slice d.point decimals)
      = toNat d.digits * 10 ^ ((d.point + decimals).toNat - d.digits.length) := by
  have hplaces : toNat (d.slice 0 (d.point + decimals).toNat)
      = toNat d.digits * 10 ^ ((d.point + decimals).toNat - d.digits.length) := by
    rw [slice_zero d (by omega), toNat_append_zeros]
  rw [← hplaces, integer]
  split
  · next hpoint =>
      have hcount : decimals = (-d.point).toNat + (d.point + decimals).toNat := by omega
      have hstart : d.point + ((-d.point).toNat : ℤ) = 0 := by omega
      have hslice : d.slice d.point decimals = List.replicate (-d.point).toNat 0
          ++ d.slice 0 (d.point + decimals).toNat := by
        conv_lhs => rw [hcount, slice_add, hstart, d.slice_of_neg hstart.le]
      rw [hslice]
      exact toNat_zeros_append ((-d.point).toNat + 1) _
  · next hpoint =>
      have hcount : (d.point + decimals).toNat = d.point.toNat + decimals := by omega
      have hstart : 0 + (d.point.toNat : ℤ) = d.point := by omega
      rw [hcount, slice_add, hstart]

-- Read as one number, the digits count the units of the last place that make the rounded number.
theorem toNat_fixed (d : Decimal) (decimals : Nat) :
    (toNat ((d.fixed decimals).1 ++ (d.fixed decimals).2) : ℤ)
      = round (d.value * 10 ^ decimals) := by
  have hvalue := d.value_roundTo (d.point + decimals)
  rw [add_sub_cancel_left, sub_add_cancel_left, zpow_natCast] at hvalue
  rw [fixed_eq]
  obtain hneg | hnonneg := lt_or_ge (d.point + (decimals : ℤ)) 0
  · have hzero := d.round_value_of_neg hneg
    rw [add_sub_cancel_left, zpow_natCast] at hzero
    have hpoint : d.point ≤ 0 := by omega
    rw [hzero, d.roundTo_of_neg hneg, integer, if_pos hpoint, slice_of_neg _ hneg.le]
    exact congrArg Nat.cast (toNat_zeros (decimals + 1))
  · obtain ⟨count, hcount⟩ := Int.eq_ofNat_of_zero_le hnonneg
    have hlength := d.length_roundTo_le count
    rw [← hcount] at hlength
    generalize d.roundTo (d.point + decimals) = rounded at hvalue hlength ⊢
    have hfits : (rounded.digits.length : ℤ) ≤ rounded.point + decimals := by omega
    have hcast : ((toNat rounded.digits
        * 10 ^ ((rounded.point + decimals).toNat - rounded.digits.length) : Nat) : ℚ)
        = round (d.value * 10 ^ decimals) := by
      calc ((toNat rounded.digits
            * 10 ^ ((rounded.point + decimals).toNat - rounded.digits.length) : Nat) : ℚ)
          = rounded.value * 10 ^ (decimals : ℤ) := by
            rw [value_mul_zpow]
            push_cast
            rw [← zpow_natCast, Nat.cast_sub (by omega), Int.toNat_of_nonneg (by omega)]
        _ = round (d.value * 10 ^ decimals) := by
            rw [hvalue, mul_assoc, ← zpow_add₀ (by norm_num), neg_add_cancel, zpow_zero, mul_one]
    rw [toNat_integer_append_slice _ hfits]
    exact_mod_cast hcast

theorem length_fixed_fraction (d : Decimal) (decimals : Nat) :
    (d.fixed decimals).2.length = decimals :=
  length_slice _ _ _

theorem fixed_integer_ne_nil (d : Decimal) (decimals : Nat) : (d.fixed decimals).1 ≠ [] :=
  integer_ne_nil _

-- A number of several integer digits does not start with a zero.
def NoLeadingZero (d : Decimal) : Prop := 1 < d.point → d.digit 0 ≠ 0

theorem NoLeadingZero.integer {d : Decimal} (h : d.NoLeadingZero) {digits : List Digit}
    (hdigits : d.integer = 0 :: digits) : digits = [] := by
  unfold Decimal.integer at hdigits
  split at hdigits
  · exact (List.cons.inj hdigits).2.symm
  · next hpoint =>
      have hlength : d.point.toNat = digits.length + 1 := by
        rw [← length_slice d 0 d.point.toNat, hdigits, List.length_cons]
      have hhead : d.digit 0 = 0 := by
        rw [hlength, Nat.add_comm, slice_add] at hdigits
        exact (List.cons.inj hdigits).1
      refine List.length_eq_zero_iff.mp ?_
      by_contra hmore
      exact h (by omega) hhead

-- Neither a cut behind the first digit nor a carry makes it a zero.
theorem digit_roundTo_ne_zero {d : Decimal} (h : d.digit 0 ≠ 0) {count : Nat} (hcount : 0 < count) :
    (d.roundTo count).digit 0 ≠ 0 := by
  rw [← Nat.cast_zero, digit_natCast] at h ⊢
  have hkept : (d.digits.take count).getD 0 0 ≠ 0 := by
    rwa [List.getD_eq_getElem?_getD, List.getElem?_take_of_lt hcount, ← List.getD_eq_getElem?_getD]
  rcases d.roundTo_cases count with ⟨-, hround⟩ | ⟨-, digits, hcarry, hround⟩ |
    ⟨-, digits, hcarry, hround⟩
  · rwa [hround]
  · rw [hround]
    exact getD_increment_ne_zero hcarry hkept
  · rw [hround]
    exact one_ne_zero

theorem NoLeadingZero.roundTo {d : Decimal} (h : d.NoLeadingZero) {count : Nat}
    (hcount : d.point ≤ count) : (d.roundTo count).NoLeadingZero := by
  intro hpoint
  by_cases hlong : 1 < d.point
  · exact digit_roundTo_ne_zero (h hlong) (by omega)
  · -- only a carry makes a second integer digit
    rcases d.roundTo_cases count with ⟨-, hround⟩ | ⟨-, digits, -, hround⟩ |
      ⟨-, digits, -, hround⟩
    · rw [hround] at hpoint
      exact absurd hpoint hlong
    · rw [hround] at hpoint
      exact absurd hpoint hlong
    · rw [hround]
      exact one_ne_zero

theorem NoLeadingZero.fixed {d : Decimal} (h : d.NoLeadingZero) {decimals : Nat}
    {digits : List Digit} (hdigits : (d.fixed decimals).1 = 0 :: digits) : digits = [] := by
  rw [fixed_eq] at hdigits
  obtain hneg | hnonneg := lt_or_ge (d.point + (decimals : ℤ)) 0
  · have hpoint : d.point ≤ 0 := by omega
    rw [d.roundTo_of_neg hneg, Decimal.integer, if_pos hpoint] at hdigits
    exact (List.cons.inj hdigits).2.symm
  · obtain ⟨count, hcount⟩ := Int.eq_ofNat_of_zero_le hnonneg
    rw [hcount] at hdigits
    exact (h.roundTo (by omega)).integer hdigits

theorem value_ofNat (n : Nat) : (ofNat n).value = n := by
  rw [value, ofNat, toNat_ofNat, sub_self, zpow_zero, mul_one]

theorem digit_ofNat_ne_zero {n : Nat} (h : n ≠ 0) : (ofNat n).digit 0 ≠ 0 := by
  rw [← Nat.cast_zero, digit_natCast, ofNat]
  cases hdigits : Digits.ofNat n with
  | nil => exact absurd hdigits (Digits.ofNat_ne_nil n)
  | cons d digits =>
      rintro rfl
      have hvalue := toNat_ofNat n
      rw [hdigits, Digits.ofNat_eq_zero_cons hdigits] at hvalue
      exact h hvalue.symm

theorem noLeadingZero_ofNat (n : Nat) : (ofNat n).NoLeadingZero := by
  intro hpoint
  refine digit_ofNat_ne_zero ?_
  rintro rfl
  rw [ofNat, Digits.ofNat.eq_1] at hpoint
  exact absurd hpoint (by decide)

end Decimal

end EventText
