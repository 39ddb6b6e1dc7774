import EventText.Proofs.Number.FixedPoint
import EventText.Proofs.Number.Whole

namespace EventText

-- The percentage of an integer is the hundredfold of the nearest double, in the shortest digits of
-- that. It is a whole number, and not always the hundredfold of the integer.

namespace Double

variable {x : Float} {n : Int}

theorem natAbs_hundredfold_lt (h : n.natAbs < 2 ^ 64) : (nearest n * 100).natAbs < 2 ^ 256 := by
  have hbound := nearestNat_mono h.le
  have hlimit : nearestNat (2 ^ 64) = 2 ^ 64 := nearestNat_mul_two_pow 1 64
  rw [Int.natAbs_mul, natAbs_nearest]
  calc nearestNat n.natAbs * 100 ≤ 2 ^ 64 * 2 ^ 7 :=
        Nat.mul_le_mul (hbound.trans hlimit.le) (by decide)
    _ < 2 ^ 256 := by
        rw [← Nat.pow_add]
        exact Nat.pow_lt_pow_right (by decide) (by decide)

-- What the double of a hundredfold shows. It is zero for zero only, and exact as long as all
-- integers are doubles.
theorem exists_shown (h : IsWhole x (nearest (nearest n * 100))) :
    ∃ q : Nat, (floatDecimal x).value = q ∧ (q = 0 ↔ n = 0) ∧
      ((100 * n).natAbs < 2 ^ 53 → q = (100 * n).natAbs) := by
  have hvalue := h.value
  have hshortest := shortestFor_floatDecimal x
  obtain ⟨q, hq⟩ := hshortest.exists_natCast hvalue
  have hzero : q = 0 ↔ n = 0 := by
    rw [← @Nat.cast_eq_zero ℚ, ← hq, hshortest.value_eq_zero_iff, hvalue, Nat.cast_eq_zero,
      Int.natAbs_eq_zero, nearest_eq_zero_iff, Int.mul_eq_zero, nearest_eq_zero_iff,
      or_iff_left (by decide)]
  refine ⟨q, hq, hzero, fun hlt => ?_⟩
  rw [@nearest_of_lt n (by omega), nearest_of_lt (by omega), Int.mul_comm] at h hvalue
  rcases eq_or_ne n 0 with hn | hn
  · rw [hzero.mpr hn, hn]
    rfl
  · exact hshortest.natCast_unique hvalue (h.exponent_nonpos (by omega) hlt) hq

end Double

namespace Number

-- Separators stand where so many characters are still to come, so that a longer text is longer with
-- them as well.
theorem length_grouped (separator text : List Char) :
    (grouped separator text).length = text.length + (text.length - 1) / 3 * separator.length := by
  induction text with
  | nil => simp [grouped]
  | cons c rest ih =>
      rw [grouped]
      split
      · next hfull =>
          have hpos := List.length_pos_iff_ne_nil.mpr hfull.1
          have hgroups : rest.length / 3 = (rest.length - 1) / 3 + 1 := by omega
          simp only [List.length_append, List.length_cons, ih, Nat.add_sub_cancel, hgroups]
          ring
      · next hopen =>
          have hgroups : rest.length / 3 = (rest.length - 1) / 3 := by
            by_cases hempty : rest.length = 0
            · rw [hempty]
            · have : rest.length % 3 ≠ 0 := fun h => hopen ⟨by rintro rfl; exact hempty rfl, h⟩
              omega
          simp only [List.length_cons, ih, Nat.add_sub_cancel, hgroups]
          ring

theorem grouped_injective (separator : List Char) : Function.Injective (grouped separator) := by
  intro front back h
  have hlength : front.length = back.length := by
    have hsame := congrArg List.length h
    have hmono {m n : Nat} (hlt : m < n) :
        m + (m - 1) / 3 * separator.length < n + (n - 1) / 3 * separator.length :=
      Nat.add_lt_add_of_lt_of_le hlt (Nat.mul_le_mul_right _ (by omega))
    rw [length_grouped, length_grouped] at hsame
    rcases Nat.lt_trichotomy front.length back.length with hlt | heq | hlt
    · exact absurd hsame (hmono hlt).ne
    · exact heq
    · exact absurd hsame (hmono hlt).ne'
  induction front generalizing back with
  | nil => exact (List.length_eq_zero_iff.mp hlength.symm).symm
  | cons c front ih =>
      cases back with
      | nil => cases hlength
      | cons d back =>
          have hrest : front.length = back.length := Nat.succ.inj hlength
          have hempty : front ≠ [] ↔ back ≠ [] := by
            rw [← List.length_pos_iff_ne_nil, hrest, List.length_pos_iff_ne_nil]
          simp only [grouped, hempty, hrest] at h
          split at h
          · obtain ⟨rfl, hgroups⟩ := List.cons.inj h
            rw [ih (List.append_cancel_left hgroups) hrest]
          · obtain ⟨rfl, hgroups⟩ := List.cons.inj h
            rw [ih hgroups hrest]

-- A whole number of any size in groups, at so many decimals.
def wholeText (decimals : Nat) (culture : Culture) (value : Int) : List Char :=
  signText (value < 0) ++ integerText culture true (Digits.ofNat value.natAbs)
    ++ fractionText culture (List.replicate decimals 0)

theorem integerText_ofNat_eq_cons (culture : Culture) (n : Nat) :
    ∃ c rest, integerText culture true (Digits.ofNat n) = c :: rest ∧ c.isDigit = true := by
  obtain ⟨c, rest, hcons, hdigit⟩ := natText_eq_cons n
  rw [natText] at hcons
  rw [integerText, if_pos rfl, hcons, grouped]
  split
  · exact ⟨c, _, rfl, hdigit⟩
  · exact ⟨c, _, rfl, hdigit⟩

theorem integerText_ofNat_inj {culture : Culture} {m n : Nat}
    (h : integerText culture true (Digits.ofNat m) = integerText culture true (Digits.ofNat n)) :
    m = n := by
  have hread := congrArg Digits.read? (grouped_injective _ h)
  rw [Digits.read?_text (Digits.ofNat_ne_nil m), Digits.read?_text (Digits.ofNat_ne_nil n),
    Digits.toNat_ofNat, Digits.toNat_ofNat] at hread
  exact Option.some.inj hread

-- A text tells whether it has a sign, since there are digits behind it.
theorem wholeText_injective (decimals : Nat) (culture : Culture) :
    Function.Injective (wholeText decimals culture) := by
  intro m n h
  have hsigned := List.append_cancel_right h
  obtain ⟨c, front, hm, hc⟩ := integerText_ofNat_eq_cons culture m.natAbs
  obtain ⟨d, back, hn, hd⟩ := integerText_ofNat_eq_cons culture n.natAbs
  by_cases hmneg : m < 0 <;> by_cases hnneg : n < 0 <;>
    simp only [signText, hmneg, hnneg, decide_true, decide_false, ite_true, ite_false,
      List.nil_append, List.singleton_append, Bool.false_eq_true] at hsigned
  · have := integerText_ofNat_inj (List.cons.inj hsigned).2
    omega
  · rw [hn] at hsigned
    rw [← (List.cons.inj hsigned).1] at hd
    cases hd
  · rw [hm] at hsigned
    rw [(List.cons.inj hsigned).1] at hc
    cases hc
  · have := integerText_ofNat_inj hsigned
    omega

variable {n : Number}

-- Nothing is left behind the point of a whole number.
theorem fixed_of_magnitude (hn : n.Finite) {m : Nat} (hm : n.magnitude = m) (decimals : Nat) :
    n.decimal.fixed decimals = (Digits.ofNat m, List.replicate decimals 0) := by
  have hround := toNat_fixed hn decimals
  have hlength := n.decimal.length_fixed_fraction decimals
  have hne := n.decimal.fixed_integer_ne_nil decimals
  have hzero := fun rest => @Decimal.NoLeadingZero.fixed _ (noLeadingZero_decimal hn) decimals rest
  generalize n.decimal.fixed decimals = places at hround hlength hne hzero ⊢
  obtain ⟨integer, fraction⟩ := places
  have hpow : (10 : ℚ) ^ decimals ≠ 0 := by positivity
  have hwhole : round ((m : ℚ) * 10 ^ decimals) = (m * 10 ^ decimals : Nat) := by
    rw [← Nat.cast_ofNat, ← Nat.cast_pow, ← Nat.cast_mul, round_natCast]
  rw [roundAt, hm, hwhole, div_left_inj' hpow, Int.cast_natCast, Nat.cast_inj, Digits.toNat_join,
    hlength] at hround
  have hfraction : Digits.toNat fraction < 10 ^ decimals := hlength ▸ Digits.toNat_lt fraction
  have hnone : Digits.toNat fraction = 0 := by
    have hrest := congrArg (fun k : Nat => k % 10 ^ decimals) hround
    simp only [Nat.mul_add_mod_of_lt hfraction, Nat.mul_mod_left] at hrest
    exact hrest
  have hinteger : Digits.toNat integer = m := by
    rw [hnone, Nat.add_zero] at hround
    exact Nat.eq_of_mul_eq_mul_right (Nat.pow_pos (by decide)) hround
  rw [← hinteger, Digits.ofNat_toNat hne hzero, ← hlength,
    ← List.eq_replicate_of_mem (Digits.toNat_eq_zero_iff.mp hnone)]

theorem fixedText_of_magnitude (hn : n.Finite) {value : Int} (hvalue : n.magnitude = value.natAbs)
    (hsign : n.Negative ↔ value < 0) (decimals : Nat) (culture : Culture) :
    n.fixedText decimals true culture = wholeText decimals culture value := by
  have hzero : allZero (Digits.ofNat value.natAbs ++ List.replicate decimals 0) = true ↔
      value = 0 := by
    rw [Digits.allZero_iff, Digits.toNat_append_zeros, Digits.toNat_ofNat, Nat.mul_eq_zero,
      or_iff_left (Nat.pow_pos (by decide)).ne', Int.natAbs_eq_zero]
  have hnegative : (n.isNegative && !allZero (Digits.ofNat value.natAbs
      ++ List.replicate decimals 0)) = decide (value < 0) := by
    rw [Bool.eq_iff_iff, Bool.and_eq_true, isNegative_iff hn, hsign, Bool.not_eq_true',
      ← Bool.not_eq_true, hzero, decide_eq_true_iff]
    omega
  rw [fixedText, fixed_of_magnitude hn hvalue]
  simp only [hnegative]
  rfl

-- The integer that an integer number stands for.
def integer? : Number → Option Int
  | .int n => some n.toInt
  | .uint n => some n.toNat
  | .float _ => none

theorem isWhole_toFloat_of_integer {k : Int} (h : n.integer? = some k) :
    Double.IsWhole n.toFloat (Double.nearest k) ∧ k.natAbs < 2 ^ 64 := by
  cases n with
  | int n =>
      obtain rfl : n.toInt = k := Option.some.inj h
      have := n.le_toInt
      have := n.toInt_lt
      exact ⟨Double.isWhole_floatOfInt64 n, by omega⟩
  | uint n =>
      obtain rfl : (n.toNat : Int) = k := Option.some.inj h
      rw [Double.nearest_natCast, Int.natAbs_natCast]
      exact ⟨Double.isWhole_toFloat n, n.toNat_lt⟩
  | float x => cases h

theorem finite_of_integer {k : Int} (h : n.integer? = some k) : n.Finite := by
  cases n with
  | int n => trivial
  | uint n => trivial
  | float x => cases h

theorem fixedText_of_integer {k : Int} (h : n.integer? = some k) (decimals : Nat)
    (culture : Culture) : n.fixedText decimals true culture = wholeText decimals culture k := by
  have hn := finite_of_integer h
  cases n with
  | int n =>
      obtain rfl : n.toInt = k := Option.some.inj h
      exact fixedText_of_magnitude hn rfl Iff.rfl decimals culture
  | uint n =>
      obtain rfl : (n.toNat : Int) = k := Option.some.inj h
      refine fixedText_of_magnitude hn ?_ ?_ decimals culture
      · rfl
      · exact iff_of_false id (Int.not_lt.mpr (Int.natCast_nonneg _))
  | float x => cases h

theorem exists_sign_eq {q : Nat} {k : Int} (h : q = 0 ↔ k = 0) :
    ∃ shown : Int, shown.natAbs = q ∧ shown.sign = k.sign := by
  rcases lt_trichotomy k 0 with hk | hk | hk
  · refine ⟨-q, Int.natAbs_neg q, ?_⟩
    rw [Int.sign_eq_neg_one_of_neg hk, Int.sign_eq_neg_one_of_neg (by omega)]
  · refine ⟨q, rfl, ?_⟩
    rw [h.mpr hk, hk]
    rfl
  · refine ⟨q, rfl, ?_⟩
    rw [Int.sign_eq_one_of_pos hk, Int.sign_eq_one_of_pos (by omega)]

-- What stands in the percentage of an integer: a double, and the whole number that its shortest
-- digits are.
structure Percentage (k : Int) (x : Float) (shown : Int) : Prop where
  product : Double.IsWhole x (Double.nearest (Double.nearest k * 100))
  taken : (Number.float x).TakenAs |(shown : ℚ)|
  sign_eq : shown.sign = k.sign
  exact_of_lt : (100 * k).natAbs < 2 ^ 53 → shown = 100 * k

theorem exists_percentage {k : Int} (h : n.integer? = some k) :
    ∃ shown, Percentage k (n.toFloat * 100) shown ∧ ∀ decimals culture,
      Number.fixedText (.float (n.toFloat * 100)) decimals true culture
        = wholeText decimals culture shown := by
  obtain ⟨hfloat, hk⟩ := isWhole_toFloat_of_integer h
  have hproduct := hfloat.mul Double.isWhole_hundred (Double.natAbs_hundredfold_lt hk)
  obtain ⟨q, hq, hzero, hexact⟩ := Double.exists_shown hproduct
  obtain ⟨shown, hmagnitude, hsign⟩ := exists_sign_eq hzero
  have hneg : shown < 0 ↔ k < 0 := by
    rw [← Int.sign_eq_neg_one_iff_neg, hsign, Int.sign_eq_neg_one_iff_neg]
  have hnegative : (Number.float (n.toFloat * 100)).Negative ↔ shown < 0 := by
    refine (hproduct.lt_iff Double.isWhole_zero).trans ?_
    rw [hneg, Double.nearest_neg_iff, ← @Double.nearest_neg_iff k]
    omega
  refine ⟨shown, ⟨hproduct, ?_, hsign, fun hlt => ?_⟩, fun decimals culture => ?_⟩
  · refine ⟨_, shortestFor_floatDecimal _, ?_⟩
    rw [hq, ← hmagnitude, Nat.cast_natAbs, Int.cast_abs]
  · have := hexact hlt
    omega
  · rw [← hmagnitude] at hq
    exact @fixedText_of_magnitude (.float _) hproduct.isFinite _ hq hnegative decimals culture

theorem standardText_percent {letter : Char} (hletter : letter ∈ ['P', 'p']) (n : Number)
    (decimals : Nat) (culture : Culture) :
    n.standardText letter (some decimals) culture
      = some (Number.fixedText (.float (n.toFloat * 100)) decimals true culture ++ [' ', '%']) := by
  simp only [List.mem_cons, List.not_mem_nil, or_false] at hletter
  rcases hletter with rfl | rfl <;> rfl

-- The text is that of the hundredfold of the integer just where this is what the double shows, and
-- below 2⁵³ it always is.
theorem text?_percent {k : Int} (hk : n.integer? = some k) {letter : Char}
    (hletter : letter ∈ ['P', 'p']) {precision : List Digit} (hprecision : precision ≠ [])
    (hlimit : Digits.toNat precision ≤ 99) (culture : Culture) :
    n.text? ('N' :: Digits.text precision) culture
        = some (wholeText (Digits.toNat precision) culture k) ∧
      ∃ shown, Percentage k (n.toFloat * 100) shown ∧
        n.text? (letter :: Digits.text precision) culture
          = some (wholeText (Digits.toNat precision) culture shown ++ [' ', '%']) ∧
        (n.text? (letter :: Digits.text precision) culture
          = some (wholeText (Digits.toNat precision) culture (100 * k) ++ [' ', '%']) ↔
            shown = 100 * k) := by
  have hn := finite_of_integer hk
  have halpha : letter.isAlpha = true := by
    simp only [List.mem_cons, List.not_mem_nil, or_false] at hletter
    rcases hletter with rfl | rfl <;> rfl
  have hgrouped : n.text? ('N' :: Digits.text precision) culture
      = some (wholeText (Digits.toNat precision) culture k) := by
    rw [text?_standard hn (by decide) hprecision hlimit, ← fixedText_of_integer hk]
    rfl
  obtain ⟨shown, hpercentage, htext⟩ := exists_percentage hk
  have hshown : n.text? (letter :: Digits.text precision) culture
      = some (wholeText (Digits.toNat precision) culture shown ++ [' ', '%']) := by
    rw [text?_standard hn halpha hprecision hlimit, standardText_percent hletter, htext]
  refine ⟨hgrouped, shown, hpercentage, hshown, ?_⟩
  rw [hshown, Option.some.injEq, List.append_left_inj]
  exact (wholeText_injective _ _).eq_iff

theorem text?_percent_negative :
    ((Number.int (-12345)).integer? = some (-12345) ∧ 'P' ∈ ['P', 'p'] ∧ ([2] : List Digit) ≠ [] ∧
        Digits.toNat [2] ≤ 99) ∧
      (Number.int (-12345)).text? ['P', '2'] .invariant = some "-1,234,500.00 %".toList := by
  have hinteger : (Number.int (-12345)).integer? = some (-12345) := by decide
  have hletter : 'P' ∈ ['P', 'p'] := by decide
  obtain ⟨-, shown, hpercentage, -, hiff⟩ := text?_percent hinteger hletter
    (List.cons_ne_nil 2 []) (by decide : Digits.toNat [2] ≤ 99) .invariant
  have htext := hiff.mpr (hpercentage.exact_of_lt (by decide))
  have hwritten : wholeText 2 .invariant (100 * -12345) ++ [' ', '%']
      = "-1,234,500.00 %".toList := by
    decide +kernel
  exact ⟨⟨hinteger, hletter, List.cons_ne_nil _ _, by decide⟩,
    htext.trans (congrArg some hwritten)⟩

-- The double next to 2⁵³ + 1 is one less, and its hundredfold is no double.
theorem text?_percent_inexact :
    (Number.int 9007199254740993).text? ['P', '0'] .invariant
        = some "900,719,925,474,099,200 %".toList ∧
      wholeText 0 .invariant (100 * 9007199254740993) ++ [' ', '%']
        = "900,719,925,474,099,300 %".toList := by
  decide +kernel

end Number

end EventText
