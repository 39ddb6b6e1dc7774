import EventText.Proofs.Number.FixedPoint

namespace EventText

-- A number in figures with a power of ten behind a letter.
structure Scientific where
  mantissa : Figures
  exponentNegative : Bool
  exponentDigits : List Digit

namespace Scientific

def exponent (m : Scientific) : Int :=
  if m.exponentNegative then -(Digits.toNat m.exponentDigits) else Digits.toNat m.exponentDigits

def magnitude (m : Scientific) : ℚ := m.mantissa.magnitude * 10 ^ m.exponent

def text (letter : Char) (culture : Culture) (m : Scientific) : List Char :=
  m.mantissa.text culture
    ++ letter :: (if m.exponentNegative then '-' else '+') :: Digits.text m.exponentDigits

end Scientific

namespace Digits

-- Only nines carry, and they leave zeros behind.
theorem eq_zeros_of_increment {digits up : List Digit} (h : increment digits = (true, up)) :
    up = List.replicate digits.length 0 := by
  have hlength := length_increment digits
  have hvalue := toNat_increment digits
  have hbound := toNat_lt digits
  rw [h] at hlength hvalue
  simp only [Bool.toNat_true, Nat.one_mul] at hlength hvalue
  have hzero : toNat up = 0 := by omega
  rw [← hlength]
  exact List.eq_replicate_of_mem (toNat_eq_zero_iff.mp hzero)

end Digits

namespace Decimal

open Digits

variable {d : Decimal}

theorem value_ne_zero (h : d.digit 0 ≠ 0) : d.value ≠ 0 :=
  (lt_of_lt_of_le (by positivity) (le_value h)).ne'

-- The first digit stands at the place of the number's logarithm.
theorem log_value (h : d.digit 0 ≠ 0) : Int.log 10 d.value = d.point - 1 := by
  have hpos : 0 < d.value := lt_of_lt_of_le (by positivity) (le_value h)
  have hlow := (Int.zpow_le_iff_le_log (b := 10) (by decide) hpos).mp (by exact_mod_cast le_value h)
  have hhigh := (Int.lt_zpow_iff_log_lt (b := 10) (by decide) hpos).mp
    (by exact_mod_cast d.value_lt)
  omega

end Decimal

namespace Number

-- A magnitude at so many significant digits, counted from the first that is not zero. A half is
-- rounded up, which is away from zero.
def roundSignificant (count : Nat) (magnitude : ℚ) : ℚ :=
  let unit : ℚ := 10 ^ (Int.log 10 magnitude + 1 - count)
  round (magnitude / unit) * unit

end Number

namespace Decimal

open Digits

variable {d : Decimal}

theorem value_roundTo_significant (h : d.digit 0 ≠ 0) (count : Nat) :
    (d.roundTo count).value = Number.roundSignificant count d.value := by
  have hunit : d.value / 10 ^ (d.point - count) = d.value * 10 ^ ((count : ℤ) - d.point) := by
    rw [div_eq_mul_inv, ← zpow_neg, neg_sub]
  rw [Number.roundSignificant, log_value h, sub_add_cancel, value_roundTo, hunit]

-- So many places hold all digits, but for a zero behind them.
theorem toNat_slice_zero (d : Decimal) {count : Nat} (h : d.digits.length ≤ count + 1)
    (hzero : d.digit count = 0) :
    (toNat (d.slice 0 count) : ℚ) * 10 ^ (d.point - count) = d.value := by
  have hlast : d.slice (0 + count) 1 = [0] := by
    rw [slice, List.range_one, List.map_singleton, zero_add, Nat.cast_zero, add_zero, hzero]
  have hsplit := d.slice_add 0 count 1
  rw [hlast, slice_zero d h] at hsplit
  have hvalue := congrArg toNat hsplit
  rw [toNat_append_zeros, toNat_append, Fin.val_zero, Nat.add_zero] at hvalue
  have hcast : (toNat d.digits : ℚ) * 10 ^ (count + 1 - d.digits.length)
      = toNat (d.slice 0 count) * 10 := by
    exact_mod_cast hvalue
  have hplace : d.point - d.digits.length
      = (count + 1 - d.digits.length : Nat) + (d.point - count - 1) := by
    omega
  rw [value, hplace, zpow_add₀ (by norm_num), zpow_natCast, ← mul_assoc, hcast,
    zpow_sub_one₀ (by norm_num)]
  field_simp

-- A carry makes a digit more than are kept, and the last one is a zero.
theorem toNat_slice_roundTo (d : Decimal) {count : Nat} (hcount : 0 < count) :
    (toNat ((d.roundTo count).slice 0 count) : ℚ) * 10 ^ ((d.roundTo count).point - count)
      = (d.roundTo count).value := by
  have hkept : (d.digits.take count).length ≤ count := List.length_take_le _ _
  have hsame := length_increment (d.digits.take count)
  rcases d.roundTo_cases count with ⟨-, hround⟩ | ⟨-, digits, hcarry, hround⟩ |
    ⟨-, digits, hcarry, hround⟩
  · rw [hround]
    refine toNat_slice_zero _ (hkept.trans (Nat.le_succ _)) ?_
    rw [digit_natCast, List.getD_eq_default _ _ hkept]
  · rw [hcarry] at hsame
    rw [hround]
    refine toNat_slice_zero _ ((hsame.trans_le hkept).trans (Nat.le_succ _)) ?_
    rw [digit_natCast, List.getD_eq_default _ _ (hsame.trans_le hkept)]
  · rw [hcarry] at hsame
    rw [hround]
    refine toNat_slice_zero _ (Nat.succ_le_succ (hsame.trans_le hkept)) ?_
    obtain ⟨below, rfl⟩ := Nat.exists_eq_succ_of_ne_zero hcount.ne'
    rw [digit_natCast, eq_zeros_of_increment hcarry, List.getD_cons_succ,
      List.getD_eq_getElem?_getD, List.getElem?_replicate]
    split <;> rfl

end Decimal

namespace Number

variable {n : Number}

-- A double is zero with either sign.
def Zero : Number → Prop
  | .int n => n.toInt = 0
  | .uint n => n.toNat = 0
  | .float x => (x == 0) = true

instance : (n : Number) → Decidable n.Zero
  | .int n => inferInstanceAs (Decidable (n.toInt = 0))
  | .uint n => inferInstanceAs (Decidable (n.toNat = 0))
  | .float x => inferInstanceAs (Decidable ((x == 0) = true))

theorem magnitude_of_zero (hn : n.Finite) (h : n.Zero) : n.magnitude = 0 := by
  cases n with
  | int n =>
      have hzero : n.toInt = 0 := h
      rw [magnitude, hzero]
      rfl
  | uint n =>
      have hzero : n.toNat = 0 := h
      rw [magnitude, hzero, Nat.cast_zero]
  | float x =>
      have hshortest : floatDecimal x = ⟨[0], 1⟩ := if_pos ((Double.beq_zero_iff hn).mp h)
      rw [magnitude, hshortest, Decimal.value, Digits.toNat_cons]
      simp

theorem digit_decimal_ne_zero (hn : n.Finite) (h : ¬n.Zero) : n.decimal.digit 0 ≠ 0 := by
  cases n with
  | int n => exact Decimal.digit_ofNat_ne_zero fun hzero => h (Int.natAbs_eq_zero.mp hzero)
  | uint n => exact Decimal.digit_ofNat_ne_zero h
  | float x =>
      have hfinite : x.isFinite = true := hn
      rw [decimal, if_pos hfinite]
      exact Decimal.digit_shortest_ne_zero (Binary.wellFormed_ofBits _)
        fun hzero => h ((Double.beq_zero_iff hn).mpr hzero)

-- What figures of so many decimals with an exponent have to show of a number.
structure Exponential (n : Number) (decimals : Nat) (m : Scientific) : Prop where
  taken : n.TakenAs n.magnitude
  magnitude_eq : m.magnitude = roundSignificant (decimals + 1) n.magnitude
  negative_iff : m.mantissa.negative = true ↔ n.Negative
  groups_eq : m.mantissa.groups = [m.mantissa.integer]
  length_integer : m.mantissa.integer.length = 1
  length_fraction : m.mantissa.fraction.length = decimals
  length_exponent : 3 ≤ m.exponentDigits.length
  first_ne_zero : ¬n.Zero → m.mantissa.integer ≠ [0]
  exponent_of_zero : n.Zero → m.exponentNegative = false ∧ m.exponentDigits = [0, 0, 0]

theorem allZero_roundTo_iff (hn : n.Finite) {count : Nat} (hcount : 0 < count) :
    allZero (n.decimal.roundTo count).digits = true ↔ n.Zero := by
  rw [Digits.allZero_iff]
  constructor
  · intro hzero
    by_contra hnonzero
    have hvalue := Decimal.value_ne_zero
      (Decimal.digit_roundTo_ne_zero (digit_decimal_ne_zero hn hnonzero) hcount)
    rw [Decimal.value, hzero, Nat.cast_zero, zero_mul] at hvalue
    exact hvalue rfl
  · intro hzero
    have hvalue : (n.decimal.roundTo count).value = 0 := by
      rw [Decimal.value_roundTo, value_decimal hn, magnitude_of_zero hn hzero]
      simp
    have hpow : (10 : ℚ) ^ ((n.decimal.roundTo count).point
      - (n.decimal.roundTo count).digits.length) ≠ 0 := by positivity
    exact_mod_cast (mul_eq_zero_iff_right hpow).mp hvalue

theorem value_roundTo_decimal (hn : n.Finite) (count : Nat) :
    (n.decimal.roundTo count).value = roundSignificant count n.magnitude := by
  by_cases hzero : n.Zero
  · rw [Decimal.value_roundTo, value_decimal hn, magnitude_of_zero hn hzero, roundSignificant]
    simp
  · rw [Decimal.value_roundTo_significant (digit_decimal_ne_zero hn hzero), value_decimal hn]

theorem not_zero_of_negative (hn : n.Finite) (h : n.Negative) : ¬n.Zero := by
  cases n with
  | int n => exact Int.ne_of_lt h
  | uint n => exact h.elim
  | float x =>
      have hne := ((Double.lt_zero_iff (Double.isNaN_of_isFinite hn)).mp h).2
      rw [bne, Bool.not_eq_true', ← Bool.not_eq_true] at hne
      exact hne

-- The figures of a rounded number, the first of them in front of the point. Zero has its own
-- exponent, and no figure for it to stand behind.
theorem magnitude_of_places (hn : n.Finite) {decimals : Nat} {m : Scientific}
    (hdigits : m.mantissa.digits
      = (n.decimal.roundTo (decimals + 1 : Nat)).slice 0 (decimals + 1))
    (hlength : m.mantissa.fraction.length = decimals)
    (hexponent : m.exponent = if n.Zero then 0
      else (n.decimal.roundTo (decimals + 1 : Nat)).point - 1) :
    m.magnitude = roundSignificant (decimals + 1) n.magnitude := by
  have hvalue := n.decimal.toNat_slice_roundTo (Nat.succ_pos decimals)
  rw [value_roundTo_decimal hn, ← hdigits] at hvalue
  rw [Scientific.magnitude, Figures.magnitude, hlength]
  by_cases h : n.Zero
  · rw [magnitude_of_zero hn h, roundSignificant, zero_div, round_zero, Int.cast_zero,
      zero_mul] at hvalue ⊢
    have hpow : (10 : ℚ) ^ ((n.decimal.roundTo (decimals + 1 : Nat)).point
      - ((decimals + 1 : Nat) : ℤ)) ≠ 0 := by positivity
    rw [(mul_eq_zero_iff_right hpow).mp hvalue, zero_div, zero_mul]
  · rw [if_neg h] at hexponent
    have hplace : (n.decimal.roundTo (decimals + 1 : Nat)).point - ((decimals + 1 : Nat) : ℤ)
        = m.exponent - decimals := by
      omega
    rw [← hvalue, hplace, zpow_sub₀ (by norm_num), zpow_natCast, div_mul_eq_mul_div,
      mul_div_assoc]

theorem exists_exponential (hn : n.Finite) (decimals : Nat) (letter : Char) (culture : Culture) :
    ∃ m : Scientific, n.exponentialText decimals letter culture = m.text letter culture ∧
      n.Exponential decimals m := by
  have hpos : 0 < decimals + 1 := Nat.succ_pos decimals
  have hzero := allZero_roundTo_iff hn hpos
  have hfirst := fun h => Decimal.digit_roundTo_ne_zero (digit_decimal_ne_zero hn h) hpos
  have hmagnitude := @magnitude_of_places n hn decimals
  generalize hrounded : n.decimal.roundTo (decimals + 1 : Nat) = rounded
    at hzero hfirst hmagnitude
  obtain ⟨mantissa, hnegative, hinteger, hfraction, hgroups, htext⟩ := exists_figures culture
    (n.isNegative && !allZero rounded.digits) false [rounded.digit 0] (rounded.slice 1 decimals)
  generalize hexponent : (if allZero rounded.digits then 0 else rounded.point - 1) = exponent
  refine ⟨⟨mantissa, decide (exponent < 0), Digits.padLeft 3 (Digits.ofNat exponent.natAbs)⟩,
    ?_, ?_⟩
  · rw [exponentialText]
    simp only [← Nat.cast_succ, hrounded, hexponent]
    rw [Scientific.text, ← htext]
    simp [integerText, Digits.text, natTextPadded]
  · have hexp : Scientific.exponent ⟨mantissa, decide (exponent < 0),
        Digits.padLeft 3 (Digits.ofNat exponent.natAbs)⟩ = exponent := by
      rw [Scientific.exponent, Digits.toNat_padLeft, Digits.toNat_ofNat]
      simp only [decide_eq_true_eq]
      split <;> omega
    have hdigits : mantissa.digits = rounded.slice 0 (decimals + 1) := by
      rw [Figures.digits, hinteger, hfraction, Nat.add_comm, Decimal.slice_add]
      rfl
    have hlength : mantissa.fraction.length = decimals := by
      rw [hfraction, Decimal.length_slice]
    constructor
    case taken => exact n.takenAs_magnitude
    case magnitude_eq =>
      refine hmagnitude hdigits hlength ?_
      rw [hexp, ← hexponent]
      exact if_congr hzero rfl rfl
    case negative_iff =>
      rw [hnegative, Bool.and_eq_true, isNegative_iff hn, Bool.not_eq_true', ← Bool.not_eq_true,
        hzero]
      exact and_iff_left_of_imp (not_zero_of_negative hn)
    case groups_eq => simpa using hgroups
    case length_integer =>
      rw [hinteger]
      rfl
    case length_fraction => exact hlength
    case length_exponent => exact Digits.le_length_padLeft _ _
    case first_ne_zero =>
      intro hnonzero
      rw [hinteger]
      exact fun h => hfirst hnonzero (List.singleton_inj.mp h)
    case exponent_of_zero =>
      intro h
      rw [if_pos (hzero.mpr h)] at hexponent
      subst hexponent
      exact ⟨rfl, congrArg (Digits.padLeft 3) (Digits.ofNat.eq_1 0)⟩

-- Numbers with an exponent. Every number is taken, and its magnitude at one significant digit more
-- than the precision.
theorem text?_exponential (hn : n.Finite) {letter : Char} (hletter : letter ∈ ['E', 'e'])
    {precision : List Digit} (hprecision : precision ≠ [])
    (hlimit : Digits.toNat precision ≤ 99) (culture : Culture) :
    ∃ m : Scientific,
      n.text? (letter :: Digits.text precision) culture = some (m.text letter culture) ∧
      n.Exponential (Digits.toNat precision) m := by
  obtain ⟨halpha, hstandard⟩ : letter.isAlpha = true ∧
      n.standardText letter (some (Digits.toNat precision)) culture
        = some (n.exponentialText (Digits.toNat precision) letter culture) := by
    simp only [List.mem_cons, List.not_mem_nil, or_false] at hletter
    rcases hletter with rfl | rfl <;> exact ⟨rfl, rfl⟩
  obtain ⟨m, htext, hexponential⟩ :=
    exists_exponential hn (Digits.toNat precision) letter culture
  refine ⟨m, ?_, hexponential⟩
  rw [text?_standard hn halpha hprecision hlimit, hstandard, htext]

-- Nines up to the first digit leave one digit in front of the point and raise the exponent.
theorem text?_exponential_nines :
    ((Number.float (-0.00099996)).Finite ∧ 'E' ∈ ['E', 'e'] ∧ ([3] : List Digit) ≠ [] ∧
        Digits.toNat [3] ≤ 99) ∧
      ∃ m : Scientific, m.text 'E' .invariant = "-1.000E-003".toList ∧
        (Number.float (-0.00099996)).Exponential 3 m := by
  have hfinite : (Number.float (-0.00099996)).Finite := by
    unfold Finite
    decide +kernel
  have hletter : 'E' ∈ ['E', 'e'] := by decide
  have hwritten : (Number.float (-0.00099996)).text? ['E', '3'] .invariant
      = some "-1.000E-003".toList := by
    decide +kernel
  obtain ⟨m, htext, hexponential⟩ := text?_exponential hfinite hletter
    (List.cons_ne_nil 3 []) (by decide : Digits.toNat [3] ≤ 99) .invariant
  exact ⟨⟨hfinite, hletter, List.cons_ne_nil _ _, by decide⟩, m,
    Option.some.inj (htext.symm.trans hwritten), hexponential⟩

end Number

end EventText
