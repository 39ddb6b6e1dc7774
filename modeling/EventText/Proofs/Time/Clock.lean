import EventText.Proofs.Number.Digits
import EventText.Proofs.Time.Calendar
import EventText.Time.Rfc3339

namespace EventText

namespace Timestamp

-- What a clock can show: a date and a time of the day, in a zone less than a day away. Its
-- calendar covers the years from -262144 to 262143 of UTC.
structure OnClock (t : Timestamp) : Prop where
  date : Calendar.isDate t.year t.month t.day = true
  hour : t.hour < 24
  minute : t.minute < 60
  second : t.second < 60
  nanosecond : t.nanosecond < 2000000000
  offset : t.offset.natAbs < 86400
  covered : Calendar.dayNumber (-262144) 1 1 * 86400 ≤ t.instant ∧
    t.instant < Calendar.dayNumber 262144 1 1 * 86400

theorem OnClock.month_day {t : Timestamp} (h : t.OnClock) : t.month ≤ 12 ∧ t.day ≤ 31 :=
  Calendar.le_of_isDate h.date

-- Years have six digits at most, also where a zone leads out of the years of UTC.
theorem OnClock.year {t : Timestamp} (h : t.OnClock) : t.year.natAbs < 1000000 := by
  obtain ⟨hmonth, hday⟩ := h.month_day
  obtain ⟨hfirst, hlast⟩ := h.covered
  have hfrom : Calendar.dayNumber (-262144) 1 1 = -96465658 := rfl
  have hto : Calendar.dayNumber 262144 1 1 = 95026602 := rfl
  have hhour := h.hour
  have hminute := h.minute
  have hsecond := h.second
  have hoffset := h.offset
  rw [hfrom] at hfirst
  rw [hto] at hlast
  rw [instant] at hfirst hlast
  have hnumber : -96465700 ≤ Calendar.dayNumber t.year t.month t.day ∧
      Calendar.dayNumber t.year t.month t.day ≤ 95026700 := by omega
  clear hfirst hlast
  simp only [Calendar.dayNumber] at hnumber
  split at hnumber
  · omega
  · omega

-- A leap second has the number 59 on a clock, and nanoseconds beyond one second.
def Leap (t : Timestamp) : Prop := 1000000000 ≤ t.nanosecond

instance (t : Timestamp) : Decidable t.Leap := Nat.decLe _ _

-- What a text can tell: a year of four digits, a zone whole minutes away, and a leap second at the
-- end of a minute.
structure Told (t : Timestamp) : Prop where
  year : 0 ≤ t.year ∧ t.year ≤ 9999
  date : Calendar.isDate t.year t.month t.day = true
  hour : t.hour < 24
  minute : t.minute < 60
  second : t.second < 60
  nanosecond : t.nanosecond < 2000000000
  offset : t.offset.natAbs < 86400
  wholeMinutes : t.offset % 60 = 0
  leap : t.Leap → t.second = 59

theorem instant_atOffset (t : Timestamp) (offset : Int) :
    (t.atOffset offset).instant = t.instant := by
  have hday := (Calendar.ofDayNumber_spec ((t.instant + offset) / 86400)).2
  have hclock : ((((t.instant + offset) % 86400).toNat / 3600 : Nat) : Int) * 3600
      + (((t.instant + offset) % 86400).toNat / 60 % 60 : Nat) * 60
      + (((t.instant + offset) % 86400).toNat % 60 : Nat) = (t.instant + offset) % 86400 := by omega
  rw [instant, atOffset]
  simp only
  rw [hday]
  omega

-- The clocks of two zones show the same moments.
theorem OnClock.atOffset {t : Timestamp} (h : t.OnClock) {offset : Int}
    (hoffset : offset.natAbs < 86400) : (t.atOffset offset).OnClock where
  date := (Calendar.ofDayNumber_spec _).1
  hour := by
    simp only [Timestamp.atOffset]
    omega
  minute := by
    simp only [Timestamp.atOffset]
    omega
  second := by
    simp only [Timestamp.atOffset]
    omega
  nanosecond := h.nanosecond
  offset := hoffset
  covered := by
    rw [instant_atOffset]
    exact h.covered

end Timestamp

namespace Rfc3339

theorem field_spec {count n : Nat} {chars rest : List Char}
    (h : field count chars = some (n, rest)) :
    n < 10 ^ count ∧ rest = chars.drop count := by
  obtain ⟨read, hread, hsplit⟩ := Option.bind_eq_some_iff.mp h
  split at hsplit
  · next hlength =>
    obtain ⟨rfl, rfl⟩ := Prod.mk.inj (Option.some.inj hsplit)
    have hbound := Digits.lt_of_read? hread
    rw [hlength] at hbound
    exact ⟨hbound, rfl⟩
  · cases hsplit

theorem drop_of_mark {expected chars rest : List Char} (h : mark expected chars = some rest) :
    rest = chars.drop 1 := by
  cases chars with
  | nil => cases h
  | cons c chars =>
      rw [mark] at h
      split at h
      · exact (Option.some.inj h).symm
      · cases h

theorem lt_of_fraction {chars rest : List Char} {nanosecond : Nat}
    (h : fraction chars = some (nanosecond, rest)) : nanosecond < 1000000000 := by
  unfold fraction at h
  split at h
  · split at h
    · cases h
    · next digits after hdigits hscan =>
      obtain ⟨rfl, -⟩ := Prod.mk.inj (Option.some.inj h)
      have hkept : (digits.take 9).length ≤ 9 := List.length_take_le 9 digits
      calc Digits.toNat (digits.take 9) * 10 ^ (9 - (digits.take 9).length)
          < 10 ^ (digits.take 9).length * 10 ^ (9 - (digits.take 9).length) :=
            Nat.mul_lt_mul_of_pos_right (Digits.toNat_lt _) (Nat.pow_pos (by decide))
        _ = 10 ^ 9 := by rw [← Nat.pow_add, Nat.add_sub_cancel' hkept]
  · obtain ⟨rfl, -⟩ := Prod.mk.inj (Option.some.inj h)
    decide

private theorem distance_bounds {negative : Bool} {chars rest : List Char} {offset : Int}
    (h : ((field 2 chars).bind fun hours => (mark [':'] hours.2).bind fun after =>
      (field 2 after).bind fun minutes =>
        if hours.1 < 24 ∧ minutes.1 < 60 then
          let seconds : Int := hours.1 * 3600 + minutes.1 * 60
          some (if negative then -seconds else seconds, minutes.2)
        else none) = some (offset, rest)) : offset.natAbs < 86400 ∧ offset % 60 = 0 := by
  obtain ⟨hours, -, h⟩ := Option.bind_eq_some_iff.mp h
  obtain ⟨after, -, h⟩ := Option.bind_eq_some_iff.mp h
  obtain ⟨minutes, -, h⟩ := Option.bind_eq_some_iff.mp h
  split at h
  · next hrange =>
    obtain ⟨rfl, -⟩ := Prod.mk.inj (Option.some.inj h)
    split <;> omega
  · cases h

theorem zone_bounds {chars rest : List Char} {offset : Int}
    (h : zone chars = some (offset, rest)) : offset.natAbs < 86400 ∧ offset % 60 = 0 := by
  unfold zone at h
  split at h
  · cases h
  · split at h
    · cases h
      decide
    · simp only at h
      split at h
      · exact distance_bounds h
      · split at h
        · exact distance_bounds h
        · cases h

-- A date and a time have so many characters in front of the second.
theorem told_of_read? {chars : List Char} {t : Timestamp} (h : read? chars = some t) :
    t.Told ∧ ∃ second rest, field 2 (chars.drop 17) = some (second, rest) ∧
      (t.Leap ↔ second = 60) := by
  unfold read? at h
  obtain ⟨⟨year, _⟩, hyear, h⟩ := Option.bind_eq_some_iff.mp h
  obtain ⟨hyear, rfl⟩ := field_spec hyear
  obtain ⟨_, hdash, h⟩ := Option.bind_eq_some_iff.mp h
  obtain rfl := drop_of_mark hdash
  obtain ⟨⟨month, _⟩, hmonth, h⟩ := Option.bind_eq_some_iff.mp h
  obtain ⟨-, rfl⟩ := field_spec hmonth
  obtain ⟨_, hdash, h⟩ := Option.bind_eq_some_iff.mp h
  obtain rfl := drop_of_mark hdash
  obtain ⟨⟨day, _⟩, hday, h⟩ := Option.bind_eq_some_iff.mp h
  obtain ⟨-, rfl⟩ := field_spec hday
  obtain ⟨_, hclock, h⟩ := Option.bind_eq_some_iff.mp h
  obtain rfl := drop_of_mark hclock
  obtain ⟨⟨hour, _⟩, hhour, h⟩ := Option.bind_eq_some_iff.mp h
  obtain ⟨-, rfl⟩ := field_spec hhour
  obtain ⟨_, hcolon, h⟩ := Option.bind_eq_some_iff.mp h
  obtain rfl := drop_of_mark hcolon
  obtain ⟨⟨minute, _⟩, hminute, h⟩ := Option.bind_eq_some_iff.mp h
  obtain ⟨-, rfl⟩ := field_spec hminute
  obtain ⟨_, hcolon, h⟩ := Option.bind_eq_some_iff.mp h
  obtain rfl := drop_of_mark hcolon
  obtain ⟨⟨second, _⟩, hsecond, h⟩ := Option.bind_eq_some_iff.mp h
  obtain ⟨⟨nanosecond, _⟩, hnanosecond, h⟩ := Option.bind_eq_some_iff.mp h
  obtain ⟨⟨offset, _⟩, hoffset, h⟩ := Option.bind_eq_some_iff.mp h
  have hnanosecond := lt_of_fraction hnanosecond
  obtain ⟨hoffset, hminutes⟩ := zone_bounds hoffset
  simp only [List.drop_drop] at hsecond
  simp only at h
  split at h
  · next hvalid =>
    obtain ⟨-, hdate, hhour, hminute, hsixty⟩ := hvalid
    obtain rfl := Option.some.inj h
    have hleap : (1000000000 ≤ nanosecond + if second = 60 then 1000000000 else 0) ↔
        second = 60 := by
      split <;> omega
    refine ⟨⟨by simp only; omega, hdate, hhour, hminute, by simp only; omega, ?_, hoffset, hminutes,
      ?_⟩, second, _, hsecond, hleap⟩
    · simp only
      split <;> omega
    · intro h
      have := hleap.mp h
      simp only
      omega
  · cases h

end Rfc3339

end EventText
