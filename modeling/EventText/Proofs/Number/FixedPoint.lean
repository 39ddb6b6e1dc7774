import EventText.Proofs.Number.Figures
import EventText.Proofs.Number.Shortest
import EventText.Proofs.Number.Sign

namespace EventText

namespace Digits

theorem allZero_iff {digits : List Digit} : Number.allZero digits = true ↔ toNat digits = 0 := by
  rw [Number.allZero, List.all_eq_true, toNat_eq_zero_iff]
  simp only [beq_iff_eq]

end Digits

namespace Number

def Finite : Number → Prop
  | .float x => x.isFinite = true
  | _ => True

def magnitude : Number → ℚ
  | .int n => n.toInt.natAbs
  | .uint n => n.toNat
  | .float x => (floatDecimal x).value

-- Integers are taken exactly, a double by a decimal that is shortest for it.
def TakenAs : Number → ℚ → Prop
  | .int n, q => q = |(n.toInt : ℚ)|
  | .uint n, q => q = n.toNat
  | .float x, q => ∃ d : Decimal, d.ShortestFor (Binary.ofBits x.toBits.toNat) ∧ q = d.value

def Negative : Number → Prop
  | .int n => n.toInt < 0
  | .uint _ => False
  | .float x => x < 0

-- A magnitude at so many decimals. A half is rounded up, which is away from zero.
def roundAt (decimals : Nat) (magnitude : ℚ) : ℚ :=
  round (magnitude * 10 ^ decimals) / 10 ^ decimals

variable {n : Number}

theorem notFinite?_of_finite (hn : n.Finite) : n.notFinite? = none := by
  cases n with
  | float x => exact if_pos hn
  | _ => rfl

theorem isNegative_iff (hn : n.Finite) : n.isNegative = true ↔ n.Negative := by
  cases n with
  | int n => exact decide_eq_true_iff.trans Int64.lt_iff_toInt_lt
  | uint n => exact iff_of_false nofun nofun
  | float x =>
      have hnan : x.isNaN = false := Double.isNaN_of_isFinite hn
      rw [isNegative, Bool.and_eq_true, ← Double.lt_zero_iff hnan, Negative]

theorem takenAs_magnitude (n : Number) : n.TakenAs n.magnitude := by
  cases n with
  | int n => exact (Nat.cast_natAbs n.toInt).trans Int.cast_abs
  | uint n => rfl
  | float x => exact ⟨floatDecimal x, shortestFor_floatDecimal x, rfl⟩

theorem value_decimal (hn : n.Finite) : n.decimal.value = n.magnitude := by
  cases n with
  | int n => exact Decimal.value_ofNat _
  | uint n => exact Decimal.value_ofNat _
  | float x => exact congrArg Decimal.value (if_pos hn)

theorem noLeadingZero_decimal (hn : n.Finite) : n.decimal.NoLeadingZero := by
  cases n with
  | int n => exact Decimal.noLeadingZero_ofNat _
  | uint n => exact Decimal.noLeadingZero_ofNat _
  | float x =>
      have hfinite : x.isFinite = true := hn
      rw [decimal, if_pos hfinite]
      exact noLeadingZero_floatDecimal x

theorem toNat_fixed (hn : n.Finite) (decimals : Nat) :
    (Digits.toNat ((n.decimal.fixed decimals).1 ++ (n.decimal.fixed decimals).2) : ℚ)
        / 10 ^ decimals = roundAt decimals n.magnitude := by
  rw [roundAt, ← value_decimal hn, ← Decimal.toNat_fixed, Int.cast_natCast]

-- The pieces of a text are those of figures.
theorem exists_figures (culture : Culture) (negative group : Bool) (integer fraction : List Digit) :
    ∃ m : Figures, m.negative = negative ∧ m.integer = integer ∧ m.fraction = fraction ∧
      (if group then Digits.InThrees m.groups else m.groups = [m.integer]) ∧
      signText negative ++ integerText culture group integer ++ fractionText culture fraction
        = m.text culture := by
  have hfraction : fractionText culture fraction
      = if fraction = [] then [] else culture.decimalSeparator.toList ++ Digits.text fraction := by
    cases fraction <;> rfl
  cases group with
  | false =>
      refine ⟨⟨negative, [integer], fraction⟩, rfl, List.flatten_singleton, rfl, ?_, ?_⟩
      · exact congrArg (fun i => [i]) List.flatten_singleton.symm
      · rw [hfraction, Figures.text, Figures.integerText, List.map_singleton,
          List.intercalate_singleton]
        rfl
  | true =>
      obtain ⟨groups, hthrees, hflatten, htext⟩ :=
        Digits.exists_groups culture.groupSeparator.toList integer
      refine ⟨⟨negative, groups, fraction⟩, rfl, hflatten, rfl, hthrees, ?_⟩
      rw [hfraction, integerText, if_pos rfl, htext]
      rfl

-- What figures of so many decimals have to show of a number.
structure FixedPoint (n : Number) (decimals : Nat) (m : Figures) : Prop where
  taken : n.TakenAs n.magnitude
  magnitude_eq : m.magnitude = roundAt decimals n.magnitude
  negative_iff : m.negative = true ↔ n.Negative ∧ roundAt decimals n.magnitude ≠ 0
  length_fraction : m.fraction.length = decimals
  integer_ne : m.integer ≠ []
  no_leading_zero : ∀ digits, m.integer = 0 :: digits → digits = []

theorem exists_fixedPoint (hn : n.Finite) (decimals : Nat) (group : Bool) (culture : Culture) :
    ∃ m : Figures, n.fixedText decimals group culture = m.text culture ∧
      n.FixedPoint decimals m ∧
      (if group then Digits.InThrees m.groups else m.groups = [m.integer]) := by
  obtain ⟨m, hnegative, hinteger, hfraction, hgroups, htext⟩ := exists_figures culture
    (n.isNegative && !allZero ((n.decimal.fixed decimals).1 ++ (n.decimal.fixed decimals).2))
    group (n.decimal.fixed decimals).1 (n.decimal.fixed decimals).2
  have hlength : m.fraction.length = decimals := by
    rw [hfraction, Decimal.length_fixed_fraction]
  have hmagnitude : m.magnitude = roundAt decimals n.magnitude := by
    rw [← toNat_fixed hn, Figures.magnitude, hlength, Figures.digits, hinteger, hfraction]
  have hzero : roundAt decimals n.magnitude = 0 ↔
      Digits.toNat ((n.decimal.fixed decimals).1 ++ (n.decimal.fixed decimals).2) = 0 := by
    have hpow : (10 : ℚ) ^ decimals ≠ 0 := by positivity
    rw [← toNat_fixed hn, div_eq_zero_iff, or_iff_left hpow, Nat.cast_eq_zero]
  refine ⟨m, htext, ⟨n.takenAs_magnitude, hmagnitude, ?_, hlength, ?_, ?_⟩, hgroups⟩
  · rw [hnegative, Bool.and_eq_true, isNegative_iff hn, Bool.not_eq_true', ne_eq, hzero,
      ← Digits.allZero_iff, Bool.not_eq_true]
  · rw [hinteger]
    exact Decimal.fixed_integer_ne_nil _ _
  · intro digits hdigits
    exact (noLeadingZero_decimal hn).fixed (hinteger ▸ hdigits)

theorem read?_standard {letter : Char} (hletter : letter.isAlpha = true) {precision : List Digit}
    (hprecision : precision ≠ []) (hlimit : Digits.toNat precision ≤ maxPrecision) :
    Format.read? (letter :: Digits.text precision)
      = some (.standard letter (some (Digits.toNat precision))) := by
  have hdigits : (Digits.text precision).all Char.isDigit = true := by
    rw [List.all_eq_true]
    intro c hc
    obtain ⟨d, -, rfl⟩ := List.mem_map.mp hc
    exact d.isDigit_toChar
  have hne : Digits.text precision ≠ [] := by simpa [Digits.text] using hprecision
  have hsmall : Digits.toNat precision < 2 ^ 64 := by
    have : maxPrecision = 99 := rfl
    omega
  rw [Format.read?, if_pos ⟨hletter, hdigits⟩, if_neg hne, Digits.read?_text hprecision,
    Option.bind_some, if_pos hsmall, Nat.min_eq_left hlimit]

theorem text?_standard (hn : n.Finite) {letter : Char} (hletter : letter.isAlpha = true)
    {precision : List Digit} (hprecision : precision ≠ [])
    (hlimit : Digits.toNat precision ≤ maxPrecision) (culture : Culture) :
    n.text? (letter :: Digits.text precision) culture
      = n.standardText letter (some (Digits.toNat precision)) culture := by
  rw [text?, notFinite?_of_finite hn]
  simp only [read?_standard hletter hprecision hlimit]

-- Numbers at so many decimals, under `N` with separators between groups and under `F` without.
theorem text?_fixedPoint (hn : n.Finite) {culture : Culture} (hculture : culture.Readable)
    {letter : Char} (hletter : letter ∈ ['F', 'f', 'N', 'n']) {precision : List Digit}
    (hprecision : precision ≠ []) (hlimit : Digits.toNat precision ≤ 99) :
    ∃ m : Figures,
      n.text? (letter :: Digits.text precision) culture = some (m.text culture) ∧
      culture.ungroup (m.text culture) = m.joined.text culture ∧
      n.FixedPoint (Digits.toNat precision) m ∧
      if letter ∈ ['N', 'n'] then Digits.InThrees m.groups else m.groups = [m.integer] := by
  obtain ⟨halpha, hstandard⟩ : letter.isAlpha = true ∧
      n.standardText letter (some (Digits.toNat precision)) culture
        = some (n.fixedText (Digits.toNat precision) (decide (letter ∈ ['N', 'n'])) culture) := by
    simp only [List.mem_cons, List.not_mem_nil, or_false] at hletter
    rcases hletter with rfl | rfl | rfl | rfl <;> exact ⟨rfl, rfl⟩
  obtain ⟨m, htext, hfixed, hgroups⟩ :=
    exists_fixedPoint hn (Digits.toNat precision) (decide (letter ∈ ['N', 'n'])) culture
  have hne : m.groups ≠ [] := fun hnil => hfixed.integer_ne (congrArg List.flatten hnil)
  have hfilled : ∀ group ∈ m.groups, group ≠ [] := by
    split at hgroups
    · exact hgroups.ne_nil
    · rw [hgroups]
      exact List.forall_mem_singleton.mpr hfixed.integer_ne
  refine ⟨m, ?_, Figures.ungroup_text hculture hne hfilled, hfixed, ?_⟩
  · rw [text?, notFinite?_of_finite hn]
    simp only [read?_standard halpha hprecision hlimit]
    rw [hstandard, htext]
  · simpa only [decide_eq_true_eq] using hgroups

-- Nines all the way up to the first digit make one digit and one group more.

private def continental : Culture := ⟨",", "."⟩

theorem text?_fixedPoint_nines :
    ((Number.float (-99999.996)).Finite ∧ continental.Readable ∧ 'N' ∈ ['F', 'f', 'N', 'n'] ∧
        ([2] : List Digit) ≠ [] ∧ Digits.toNat [2] ≤ 99) ∧
      ∃ m : Figures, m.text continental = "-100.000,00".toList ∧
        continental.ungroup (m.text continental) = m.joined.text continental ∧
        (Number.float (-99999.996)).FixedPoint 2 m ∧ Digits.InThrees m.groups := by
  have hfinite : (Number.float (-99999.996)).Finite := by
    unfold Finite
    decide +kernel
  have hreadable : continental.Readable :=
    ⟨List.cons_ne_nil _ _, List.cons_ne_nil _ _, by decide,
      List.forall_mem_singleton.mpr ⟨rfl, by decide⟩,
      List.forall_mem_singleton.mpr ⟨rfl, by decide⟩⟩
  have hletter : 'N' ∈ ['F', 'f', 'N', 'n'] := by decide
  have hwritten : (Number.float (-99999.996)).text? ['N', '2'] continental
      = some "-100.000,00".toList := by
    decide +kernel
  obtain ⟨m, htext, hungroup, hfixed, hgroups⟩ := text?_fixedPoint hfinite hreadable hletter
    (List.cons_ne_nil 2 []) (by decide : Digits.toNat [2] ≤ 99)
  exact ⟨⟨hfinite, hreadable, hletter, List.cons_ne_nil _ _, by decide⟩, m,
    Option.some.inj (htext.symm.trans hwritten), hungroup, hfixed, hgroups⟩

end Number

end EventText
