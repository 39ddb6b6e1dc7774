import EventText.Proofs.Time.Clock

namespace EventText

-- Timestamps are read back from their texts.

-- A date of a year with four digits and a time of the day, in a zone whole minutes away. The
-- fraction of the second is what seven digits tell, and the second is no leap second.
structure Timestamp.Regular (t : Timestamp) : Prop where
  year : 0 ≤ t.year ∧ t.year ≤ 9999
  date : Calendar.isDate t.year t.month t.day = true
  hour : t.hour < 24
  minute : t.minute < 60
  second : t.second < 60
  noLeap : t.nanosecond < 1000000000
  hundreds : t.nanosecond % 100 = 0
  offset : t.offset.natAbs < 86400
  wholeMinutes : t.offset % 60 = 0

namespace Timestamp

variable {t : Timestamp}

theorem Regular.told (h : t.Regular) : t.Told where
  year := h.year
  date := h.date
  hour := h.hour
  minute := h.minute
  second := h.second
  nanosecond := Nat.lt_trans h.noLeap (by decide)
  offset := h.offset
  wholeMinutes := h.wholeMinutes
  leap := fun hleap => absurd h.noLeap (Nat.not_lt.mpr hleap)

-- A clock does not show the last second as a leap second, and a text does.

theorem Told.shown_of_leap (h : t.Told) (hleap : t.Leap) :
    t.second = 59 ∧ t.nanosecond / 1000000000 = 1 := by
  have hlimit := h.nanosecond
  have hover : 1000000000 ≤ t.nanosecond := hleap
  exact ⟨h.leap hleap, by omega⟩

theorem shown_of_not_leap (hleap : ¬t.Leap) : t.nanosecond / 1000000000 = 0 :=
  Nat.div_eq_of_lt (Nat.not_le.mp hleap)

-- What the text of a timestamp is read back as. In a leap second the fraction has eight digits, the
-- first of them for the second that has passed, and is read as less than a second all the same.
def reread (t : Timestamp) : Timestamp :=
  { t with nanosecond :=
      if t.Leap then t.nanosecond / 100 * 10 + 1000000000 else t.nanosecond / 100 * 100 }

theorem reread_of_not_leap (hleap : ¬t.Leap) (hhundreds : t.nanosecond % 100 = 0) :
    t.reread = t := by
  have hnanosecond : t.nanosecond / 100 * 100 = t.nanosecond := by omega
  rw [reread, if_neg hleap, hnanosecond]

-- No leap second is a ninth of a second and more beyond the whole one in units of 100 ns.
theorem sameMoment_reread (h : t.Told) (hhundreds : t.nanosecond % 100 = 0) :
    t.reread.sameMoment t = true ↔ ¬t.Leap := by
  constructor
  · intro hsame hleap
    obtain ⟨-, hnanosecond⟩ := Bool.and_eq_true_iff.mp hsame
    rw [reread, if_pos hleap, beq_iff_eq] at hnanosecond
    have hlimit := h.nanosecond
    have hover : 1000000000 ≤ t.nanosecond := hleap
    simp only at hnanosecond
    omega
  · intro hleap
    rw [reread_of_not_leap hleap hhundreds, sameMoment, beq_self_eq_true, beq_self_eq_true,
      Bool.and_self]

end Timestamp

namespace Rfc3339

theorem field_natTextPadded {n count : Nat} (hcount : 0 < count) (h : n < 10 ^ count)
    (rest : List Char) : field count (natTextPadded count n ++ rest) = some (n, rest) := by
  have hlength := length_natTextPadded hcount h
  have hpadded : Digits.padLeft count (Digits.ofNat n) ≠ [] := by
    intro hnil
    have hzero := Digits.length_padLeft hcount h
    rw [hnil] at hzero
    exact Nat.ne_of_lt hcount hzero
  have hread : Digits.read? (natTextPadded count n) = some n := by
    rw [natTextPadded, Digits.read?_text hpadded, Digits.toNat_padLeft, Digits.toNat_ofNat]
  rw [field, List.take_left' hlength, List.drop_left' hlength, hread, Option.bind_some,
    if_pos hlength]

theorem mark_cons {expected : List Char} {c : Char} (h : c ∈ expected) (rest : List Char) :
    mark expected (c :: rest) = some rest := if_pos h

theorem fraction_natTextPadded {n count : Nat} (hcount : 0 < count ∧ count ≤ 9)
    (hlength : (Digits.padLeft 7 (Digits.ofNat n)).length = count) {rest : List Char}
    (hrest : ∀ c ∈ rest.head?, Digit.ofChar? c = none) :
    fraction ('.' :: (natTextPadded 7 n ++ rest)) = some (n * 10 ^ (9 - count), rest) := by
  have hvalue : Digits.toNat (Digits.padLeft 7 (Digits.ofNat n)) = n := by
    rw [Digits.toNat_padLeft, Digits.toNat_ofNat]
  rw [fraction, natTextPadded, Digits.scan_text _ hrest]
  generalize Digits.padLeft 7 (Digits.ofNat n) = digits at hlength hvalue
  cases digits with
  | nil =>
    rw [← hlength] at hcount
    cases hcount.1
  | cons d digits =>
    simp only
    rw [List.take_of_length_le (by omega), hvalue, hlength]

-- The digits of a fraction in units of 100 ns.
theorem fraction_text {t : Timestamp} (h : t.Told) {rest : List Char}
    (hrest : ∀ c ∈ rest.head?, Digit.ofChar? c = none) :
    fraction ('.' :: (natTextPadded 7 (t.nanosecond / 100) ++ rest))
      = some (if t.Leap then t.nanosecond / 100 * 10 else t.nanosecond / 100 * 100, rest) := by
  have hnanosecond := h.nanosecond
  by_cases hleap : t.Leap
  · have hover : 1000000000 ≤ t.nanosecond := hleap
    have hlength : (Digits.padLeft 7 (Digits.ofNat (t.nanosecond / 100))).length = 8 := by
      have hmost := @Digits.length_ofNat_le (t.nanosecond / 100) 8 (by decide) (by omega)
      have hleast := Digits.lt_length_ofNat (n := t.nanosecond / 100) (k := 7) (by omega)
      rw [Digits.padLeft, List.length_append, List.length_replicate]
      omega
    rw [if_pos hleap, fraction_natTextPadded (by decide) hlength hrest]
    rfl
  · have hseven : t.nanosecond / 100 < 10 ^ 7 := by
      have : ¬1000000000 ≤ t.nanosecond := hleap
      omega
    rw [if_neg hleap, fraction_natTextPadded (by decide) (Digits.length_padLeft (by decide) hseven)
      hrest]
    rfl

-- Whole minutes are not rounded.
theorem nearestOffsetText_eq {offset : Int} (hminutes : offset % 60 = 0) :
    Timestamp.nearestOffsetText offset = Timestamp.offsetText offset := by
  have hhours : (offset.natAbs + 30) / 60 / 60 = offset.natAbs / 3600 := by omega
  have hminute : (offset.natAbs + 30) / 60 % 60 = offset.natAbs % 3600 / 60 := by omega
  simp only [Timestamp.nearestOffsetText, Timestamp.offsetText, hhours, hminute]

theorem zone_offsetText {offset : Int} (h : offset.natAbs < 86400) (hminutes : offset % 60 = 0) :
    zone (Timestamp.offsetText offset) = some (offset, []) := by
  have hhours : offset.natAbs / 3600 < 10 ^ 2 := by omega
  have hminute : offset.natAbs % 3600 / 60 < 10 ^ 2 := by omega
  have hrange : offset.natAbs / 3600 < 24 ∧ offset.natAbs % 3600 / 60 < 60 := by omega
  have hfirst := field_natTextPadded (by decide) hhours
    (':' :: natTextPadded 2 (offset.natAbs % 3600 / 60))
  have hlast := field_natTextPadded (by decide) hminute []
  rw [List.append_nil] at hlast
  have hmark := mark_cons (List.mem_singleton_self ':')
    (natTextPadded 2 (offset.natAbs % 3600 / 60))
  unfold Timestamp.offsetText
  split
  · next hnegative =>
    have hseconds : -((offset.natAbs / 3600 : Nat) * 3600 +
        (offset.natAbs % 3600 / 60 : Nat) * 60 : Int) = offset := by omega
    rw [List.cons_append, zone, if_neg (by decide), if_neg (by decide), if_pos (.inl rfl)]
    simp only [hfirst, hmark, hlast, Option.bind_eq_bind, Option.bind_some, if_pos hrange]
    exact congrArg (fun seconds => some (seconds, [])) hseconds
  · next hpositive =>
    have hseconds : ((offset.natAbs / 3600 : Nat) * 3600 +
        (offset.natAbs % 3600 / 60 : Nat) * 60 : Int) = offset := by omega
    rw [List.cons_append, zone, if_neg (by decide), if_pos rfl]
    simp only [hfirst, hmark, hlast, Option.bind_eq_bind, Option.bind_some, if_pos hrange]
    exact congrArg (fun seconds => some (seconds, [])) hseconds

theorem offsetText_head (offset : Int) :
    ∀ c ∈ (Timestamp.offsetText offset).head?, Digit.ofChar? c = none := by
  unfold Timestamp.offsetText
  rintro c ⟨⟩
  split <;> rfl

theorem read?_text_of_told {t : Timestamp} (h : t.Told) : read? t.text = some t.reread := by
  obtain ⟨hmonth, hday⟩ := Calendar.le_of_isDate h.date
  have hyear : t.year.natAbs < 10 ^ 4 := by
    have := h.year
    omega
  have hhour : t.hour < 10 ^ 2 := Nat.lt_trans h.hour (by decide)
  have hminute : t.minute < 10 ^ 2 := Nat.lt_trans h.minute (by decide)
  have hsecond : t.second + t.nanosecond / 1000000000 ≤ 60 := by
    have := h.second
    have := h.nanosecond
    omega
  have hfraction := fraction_text h (offsetText_head t.offset)
  have hzone := zone_offsetText h.offset h.wholeMinutes
  have hfield {n : Nat} (hn : n < 10 ^ 2) := field_natTextPadded (Nat.zero_lt_two) hn
  have hdash := mark_cons (List.mem_singleton_self '-')
  have hcolon := mark_cons (List.mem_singleton_self ':')
  have hT := mark_cons (by decide : 'T' ∈ ['T', 't', ' '])
  rw [Timestamp.text, nearestOffsetText_eq h.wholeMinutes, Timestamp.clockText,
    Timestamp.yearText, if_pos h.year]
  simp only [List.append_assoc, List.cons_append]
  refine Option.bind_eq_some_iff.mpr ⟨_, field_natTextPadded (by decide) hyear _, ?_⟩
  refine Option.bind_eq_some_iff.mpr ⟨_, hdash _, ?_⟩
  refine Option.bind_eq_some_iff.mpr ⟨_, hfield (by omega) _, ?_⟩
  refine Option.bind_eq_some_iff.mpr ⟨_, hdash _, ?_⟩
  refine Option.bind_eq_some_iff.mpr ⟨_, hfield (by omega) _, ?_⟩
  refine Option.bind_eq_some_iff.mpr ⟨_, hT _, ?_⟩
  refine Option.bind_eq_some_iff.mpr ⟨_, hfield hhour _, ?_⟩
  refine Option.bind_eq_some_iff.mpr ⟨_, hcolon _, ?_⟩
  refine Option.bind_eq_some_iff.mpr ⟨_, hfield hminute _, ?_⟩
  refine Option.bind_eq_some_iff.mpr ⟨_, hcolon _, ?_⟩
  refine Option.bind_eq_some_iff.mpr ⟨_, hfield (Nat.lt_of_le_of_lt hsecond (by decide)) _, ?_⟩
  refine Option.bind_eq_some_iff.mpr ⟨_, hfraction, ?_⟩
  refine Option.bind_eq_some_iff.mpr ⟨_, hzone, ?_⟩
  simp only [Int.natAbs_of_nonneg h.year.1]
  rw [if_pos ⟨trivial, h.date, h.hour, h.minute, hsecond⟩, Timestamp.reread]
  by_cases hleap : t.Leap
  · obtain ⟨hlast, hshown⟩ := h.shown_of_leap hleap
    simp [hleap, hlast, hshown]
  · have hshown := Timestamp.shown_of_not_leap hleap
    have hmin : min t.second 59 = t.second := Nat.min_eq_left (Nat.le_of_lt_succ h.second)
    simp [hleap, hshown, hmin, Nat.ne_of_lt h.second]

theorem read?_text {t : Timestamp} (h : t.Regular) : read? t.text = some t := by
  have hleap : ¬t.Leap := Nat.not_le.mpr h.noLeap
  rw [read?_text_of_told h.told, Timestamp.reread_of_not_leap hleap h.hundreds]

end Rfc3339

end EventText
