import EventText.Time.Calendar
import Mathlib.Tactic.IntervalCases

namespace EventText.Calendar

-- Day numbers and dates tell the same days. Years are counted from March on here, and `m` is the
-- number of whole months that have passed since.

theorem monthLength_le (year : Int) (month : Nat) : monthLength year month ≤ 31 := by
  unfold monthLength
  split
  · split <;> decide
  all_goals decide

theorem le_of_isDate {year : Int} {month day : Nat} (h : isDate year month day = true) :
    month ≤ 12 ∧ day ≤ 31 := by
  have hlength := monthLength_le year month
  simp only [isDate, Bool.and_eq_true, decide_eq_true_eq] at h
  omega

-- The years of an era are told by the century `c`, the day `r` of the century and the number `q`
-- of leap days before it. The last day of the era belongs to no century.
private theorem yearOfEra_spec {dayOfEra : Int} (h : 0 ≤ dayOfEra ∧ dayOfEra < 146097) :
    let year := (dayOfEra - dayOfEra / 1460 + dayOfEra / 36524 - dayOfEra / 146096) / 365
    let day := dayOfEra - (365 * year + year / 4 - year / 100)
    (0 ≤ year ∧ year < 400) ∧ (0 ≤ day ∧ day ≤ 365) ∧
      (day = 365 → (year + 1) % 4 = 0 ∧ ((year + 1) % 100 = 0 → (year + 1) % 400 = 0)) := by
  intro year day
  by_cases hlast : dayOfEra = 146096
  · have hyear : year = 399 := by
      simp only [year, hlast]
      rfl
    have hday : day = 365 := by
      simp only [day, hyear, hlast]
      rfl
    omega
  obtain ⟨c, hc⟩ : ∃ c, c = dayOfEra / 36524 := ⟨_, rfl⟩
  obtain ⟨r, hr⟩ : ∃ r, dayOfEra = 36524 * c + r := ⟨dayOfEra - 36524 * c, by omega⟩
  obtain ⟨q, hq⟩ : ∃ q, q = (24 * c + r) / 1460 := ⟨_, rfl⟩
  obtain ⟨y, hy⟩ : ∃ y, y = (r - q) / 365 := ⟨_, rfl⟩
  have hcentury : 0 ≤ c ∧ c ≤ 3 := by omega
  have hrest : 0 ≤ r ∧ r < 36524 := by omega
  have hzero : dayOfEra / 146096 = 0 := by omega
  have hspan : dayOfEra / 1460 = 25 * c + q := by omega
  have hyear : year = 100 * c + y := by
    simp only [year]
    rw [hspan, ← hc, hzero]
    omega
  have hrange : 0 ≤ y ∧ y < 100 := by omega
  have hleaps : year / 4 = 25 * c + y / 4 ∧ year / 100 = c := by omega
  have hday : day = r - 365 * y - y / 4 := by
    simp only [day]
    rw [hleaps.1, hleaps.2]
    omega
  clear_value year day
  have hlength : 0 ≤ day ∧ day ≤ 365 ∧ (day = 365 → y % 4 = 3 ∧ y ≠ 99) := by omega
  omega

-- The lengths repeat after five months, which have 153 days.
private theorem monthLength_fromMarch (year : Int) {m : Nat} (hm : m < 11) :
    (monthLength year (if m < 10 then m + 3 else m - 9) : Int)
      = (153 * (m + 1) + 2) / 5 - (153 * m + 2) / 5 := by
  interval_cases m <;> rfl

private theorem day_le_monthLength {dayOfYear year : Int} {m : Nat} (hyear : dayOfYear ≤ 365)
    (hm : m = (5 * dayOfYear + 2) / 153) (hleap : dayOfYear = 365 → isLeap year = true) :
    dayOfYear - (153 * m + 2) / 5 + 1 ≤ monthLength year (if m < 10 then m + 3 else m - 9) := by
  by_cases hlast : m < 11
  · rw [monthLength_fromMarch year hlast]
    omega
  · obtain rfl : m = 11 := by omega
    change _ ≤ ((if isLeap year then 29 else 28 : Nat) : Int)
    split
    · omega
    · next hcommon =>
      have hday := mt hleap hcommon
      omega

private theorem dayNumber_fromMarch (marchYear : Int) {m : Nat} (hm : m ≤ 11) (day : Nat) :
    dayNumber (if m < 10 then marchYear else marchYear + 1) (if m < 10 then m + 3 else m - 9) day
      = 365 * marchYear + marchYear / 4 - marchYear / 100 + marchYear / 400
        + ((153 * m + 2) / 5 + day - 1) - 719468 := by
  rw [dayNumber]
  by_cases hfront : m < 10
  · have hmonth : (((m + 3 : Nat) : Int) + 9) % 12 = m := by omega
    rw [if_pos hfront, if_pos hfront, if_neg (by omega), hmonth]
  · have hmonth : (((m - 9 : Nat) : Int) + 9) % 12 = m := by omega
    rw [if_neg hfront, if_neg hfront, if_pos (by omega), hmonth, Int.add_sub_cancel]

private theorem ofDayNumber_month {number era dayOfEra yearOfEra dayOfYear : Int} {m : Nat}
    (hera : (number + 719468) / 146097 = era) (hdayOfEra : (number + 719468) % 146097 = dayOfEra)
    (hyear : (dayOfEra - dayOfEra / 1460 + dayOfEra / 36524 - dayOfEra / 146096) / 365 = yearOfEra)
    (hday : dayOfEra - (365 * yearOfEra + yearOfEra / 4 - yearOfEra / 100) = dayOfYear)
    (hm : m = (5 * dayOfYear + 2) / 153) (hlast : m ≤ 11) :
    ofDayNumber number =
      (if m < 10 then yearOfEra + era * 400 else yearOfEra + era * 400 + 1,
        if m < 10 then m + 3 else m - 9, (dayOfYear - (153 * m + 2) / 5 + 1).toNat) := by
  rw [ofDayNumber]
  simp only [hera, hdayOfEra, hyear, hday, ← hm]
  clear hera hdayOfEra hyear hday hm
  by_cases hfront : m < 10
  · have hmonth : (if (m : Int) < 10 then (m : Int) + 3 else m - 9) = (m + 3 : Nat) := by omega
    rw [hmonth, Int.toNat_natCast, if_neg (by omega), if_pos hfront, if_pos hfront]
  · have hmonth : (if (m : Int) < 10 then (m : Int) + 3 else m - 9) = (m - 9 : Nat) := by omega
    rw [hmonth, Int.toNat_natCast, if_pos (by omega), if_neg hfront, if_neg hfront]

private theorem exists_fromMarch (number : Int) :
    ∃ (era yearOfEra dayOfYear : Int) (m : Nat),
      number = 146097 * era + (365 * yearOfEra + yearOfEra / 4 - yearOfEra / 100) + dayOfYear
        - 719468 ∧
      (0 ≤ yearOfEra ∧ yearOfEra < 400) ∧ (0 ≤ dayOfYear ∧ dayOfYear ≤ 365) ∧
      (dayOfYear = 365 → isLeap (yearOfEra + era * 400 + 1) = true) ∧
      m = (5 * dayOfYear + 2) / 153 ∧
      ofDayNumber number =
        (if m < 10 then yearOfEra + era * 400 else yearOfEra + era * 400 + 1,
          if m < 10 then m + 3 else m - 9, (dayOfYear - (153 * m + 2) / 5 + 1).toNat) := by
  obtain ⟨era, hera⟩ : ∃ era, (number + 719468) / 146097 = era := ⟨_, rfl⟩
  obtain ⟨dayOfEra, hdayOfEra⟩ : ∃ day, (number + 719468) % 146097 = day := ⟨_, rfl⟩
  have hspec := @yearOfEra_spec dayOfEra (by omega)
  simp only at hspec
  generalize hyear : (dayOfEra - dayOfEra / 1460 + dayOfEra / 36524 - dayOfEra / 146096) / 365
    = yearOfEra at hspec
  generalize hday : dayOfEra - (365 * yearOfEra + yearOfEra / 4 - yearOfEra / 100) = dayOfYear
    at hspec
  obtain ⟨hyears, hdays, hlong⟩ := hspec
  obtain ⟨m, hm⟩ : ∃ m : Nat, m = (5 * dayOfYear + 2) / 153 :=
    ⟨((5 * dayOfYear + 2) / 153).toNat, by omega⟩
  refine ⟨era, yearOfEra, dayOfYear, m, by omega, hyears, hdays, ?_, hm,
    ofDayNumber_month hera hdayOfEra hyear hday hm (by omega)⟩
  intro hlast
  have hleap := hlong hlast
  clear hera hdayOfEra hyear hday hm hlong
  simp only [isLeap, Bool.and_eq_true, Bool.or_eq_true, beq_iff_eq, bne_iff_ne]
  omega

theorem ofDayNumber_spec (number : Int) :
    isDate (ofDayNumber number).1 (ofDayNumber number).2.1 (ofDayNumber number).2.2 = true ∧
      dayNumber (ofDayNumber number).1 (ofDayNumber number).2.1 (ofDayNumber number).2.2
        = number := by
  obtain ⟨era, yearOfEra, dayOfYear, m, hnumber, hyears, hdays, hleap, hm, hdate⟩ :=
    exists_fromMarch number
  have hlast : m ≤ 11 := by omega
  have hmonth : 1 ≤ (if m < 10 then m + 3 else m - 9) ∧
      (if m < 10 then m + 3 else m - 9) ≤ 12 := by
    split <;> omega
  have hlength : dayOfYear - (153 * m + 2) / 5 + 1 ≤ monthLength
      (if m < 10 then yearOfEra + era * 400 else yearOfEra + era * 400 + 1)
      (if m < 10 then m + 3 else m - 9) := by
    refine day_le_monthLength hdays.2 hm ?_
    intro hlong
    rw [if_neg (by omega)]
    exact hleap hlong
  have hback := dayNumber_fromMarch (yearOfEra + era * 400) hlast
    (dayOfYear - (153 * m + 2) / 5 + 1).toNat
  -- An era has a whole number of leap days, which the divisions can put aside.
  have hfour : (yearOfEra + era * 400) / 4 = yearOfEra / 4 + 100 * era := by omega
  have hhundred : (yearOfEra + era * 400) / 100 = yearOfEra / 100 + 4 * era := by omega
  have hera : (yearOfEra + era * 400) / 400 = era := by omega
  rw [hdate]
  constructor
  · simp only [isDate, Bool.and_eq_true, decide_eq_true_eq]
    exact ⟨⟨hmonth, by omega⟩, by omega⟩
  · rw [hback, hfour, hhundred, hera]
    omega

end EventText.Calendar
