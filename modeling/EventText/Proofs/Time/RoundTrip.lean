import EventText.Proofs.Time.Layout
import EventText.Proofs.Time.Rfc3339
import EventText.Value.Basic

namespace EventText

-- The plain text of a timestamp and the round-trip layout.

namespace Timestamp

-- Everything up to the second is written alike.
def minuteText (t : Timestamp) : List Char :=
  yearText t.year ++ '-' :: natTextPadded 2 t.month ++ '-' :: natTextPadded 2 t.day
    ++ 'T' :: natTextPadded 2 t.hour ++ ':' :: natTextPadded 2 t.minute ++ [':']

theorem Told.text_eq {t : Timestamp} (h : t.Told) :
    t.text = t.minuteText ++ (natTextPadded 2 (t.second + t.nanosecond / 1000000000)
      ++ ('.' :: natTextPadded 7 (t.nanosecond / 100) ++ offsetText t.offset)) := by
  simp [text, Rfc3339.nearestOffsetText_eq h.wholeMinutes, clockText, minuteText]

end Timestamp

theorem Rfc3339.field_sixty_iff {chars rest : List Char} {n : Nat}
    (h : field 2 chars = some (n, rest)) : n = 60 ↔ chars.take 2 = ['6', '0'] := by
  obtain ⟨read, hread, hsplit⟩ := Option.bind_eq_some_iff.mp h
  split at hsplit
  · next hlength =>
    obtain ⟨rfl, -⟩ := Prod.mk.inj (Option.some.inj hsplit)
    obtain ⟨digits, hdigits, rfl⟩ := Digits.exists_text_of_read? hread
    rw [hdigits, Digits.length_text] at hlength
    rw [hdigits]
    have hsixty : ∀ d e : Digit,
        Digits.toNat [d, e] = 60 ↔ Digits.text [d, e] = ['6', '0'] := by decide
    match digits, hlength with
    | [d, e], _ => exact hsixty d e
  · cases hsplit

namespace Layout

theorem roundTrip_eq : roundTrip = ⟨[.year 4, .literal ['-'], .month 2, .literal ['-'], .day 2,
    .literal ['T'], .hour24 2, .literal [':'], .minute 2, .literal [':'], .second 2,
    .literal ['.'], .fraction 7, .fullOffset], false⟩ := by
  decide +kernel

theorem roundTrip_text {t : Timestamp} (hyear : 0 ≤ t.year ∧ t.year ≤ 9999) :
    roundTrip.text t = t.minuteText ++ (natTextPadded 2 t.second
      ++ ('.' :: natTextPadded 7 (min t.nanosecond 999999999 / 100)
        ++ Timestamp.offsetText t.offset)) := by
  have hplain : intTextPadded 4 t.year = Timestamp.yearText t.year := by
    rw [intTextPadded, if_neg (Int.not_lt.mpr hyear.1), Timestamp.yearText, if_pos hyear,
      natTextPadded]
  have hwide : roundTrip.isTooWide = false := by
    rw [roundTrip_eq]
    decide
  rw [text_eq hwide, roundTrip_eq]
  simp [zoned, pieceText, numberOrName, shortOrTwo, fractionText, hplain, Timestamp.minuteText]

-- Off leap seconds the two texts are the same. In a leap second one tells the second 60 and the
-- other one the second 59.
theorem text_eq_roundTrip_iff {chars : List Char} {t : Timestamp}
    (h : Rfc3339.read? chars = some t) :
    ((Scalar.timestamp t).text = (ofPattern? none).text t ↔ ¬t.Leap) ∧
      (t.Leap ↔ (chars.drop 17).take 2 = ['6', '0']) := by
  obtain ⟨htold, second, rest, hsecond, hleap⟩ := Rfc3339.told_of_read? h
  refine ⟨?_, hleap.trans (Rfc3339.field_sixty_iff hsecond)⟩
  have hplain : (Scalar.timestamp t).text = t.text := rfl
  have hlayout : ofPattern? none = roundTrip := rfl
  rw [hplain, hlayout, htold.text_eq, roundTrip_text htold.year, List.append_right_inj]
  constructor
  · intro heq hleap
    obtain ⟨hlast, hshown⟩ := htold.shown_of_leap hleap
    have hread := congrArg (Rfc3339.field 2) heq
    rw [hlast, hshown, Rfc3339.field_natTextPadded (by decide) (by decide),
      Rfc3339.field_natTextPadded (by decide) (by decide)] at hread
    cases hread
  · intro hleap
    have hkept : min t.nanosecond 999999999 = t.nanosecond := by
      have : ¬1000000000 ≤ t.nanosecond := hleap
      omega
    rw [Timestamp.shown_of_not_leap hleap, Nat.add_zero, hkept]

theorem text_eq_roundTrip_iff_leap :
    let t : Timestamp := ⟨1990, 12, 31, 15, 59, 59, 1250000000, -28800⟩
    Rfc3339.read? "1990-12-31T15:59:60.25-08:00".toList = some t ∧
      (Scalar.timestamp t).text ≠ (ofPattern? none).text t := by
  intro t
  have hread : Rfc3339.read? "1990-12-31T15:59:60.25-08:00".toList = some t := by decide +kernel
  obtain ⟨hiff, hleap⟩ := text_eq_roundTrip_iff hread
  exact ⟨hread, fun heq => hiff.mp heq (hleap.mpr (by decide))⟩

end Layout

end EventText
