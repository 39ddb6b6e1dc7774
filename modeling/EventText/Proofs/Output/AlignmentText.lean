import EventText.Output.Alignment
import EventText.Proofs.Number.Digits
import Mathlib.Data.List.TakeWhile

namespace EventText

namespace Text

theorem trim_of_not_blank {chars : List Char} (h : ∀ c ∈ chars, isBlank c = false) :
    trim chars = chars := by
  have hkeep {line : List Char} (hline : ∀ c ∈ line, isBlank c = false) :
      line.dropWhile isBlank = line := by
    cases line with
    | nil => rfl
    | cons c rest => exact List.dropWhile_cons_of_neg (by simp [hline c List.mem_cons_self])
  rw [trim, hkeep h, hkeep fun c hc => h c (List.mem_reverse.mp hc), List.reverse_reverse]

theorem blank_or_mem_trim {chars : List Char} {c : Char} (h : c ∈ chars) :
    isBlank c = true ∨ c ∈ trim chars := by
  have hsplit {line : List Char} (hline : c ∈ line) :
      isBlank c = true ∨ c ∈ line.dropWhile isBlank := by
    rw [← List.takeWhile_append_dropWhile (p := isBlank) (l := line)] at hline
    exact (List.mem_append.mp hline).imp_left List.mem_takeWhile_imp
  rcases hsplit h with hblank | hfront
  · exact .inl hblank
  · exact (hsplit (List.mem_reverse.mpr hfront)).imp_right List.mem_reverse.mpr

end Text

namespace Alignment

-- How an alignment is spelled: perhaps a sign, and decimal digits. Only a minus sign stands for the
-- left side.
inductive Spelled : Alignment → List Char → Prop
  | left {digits : List Digit} (hne : digits ≠ []) (hfits : Digits.toNat digits < 2 ^ 64) :
      Spelled ⟨.left, Digits.toNat digits⟩ ('-' :: Digits.text digits)
  | right {sign : List Char} {digits : List Digit} (hsign : sign = [] ∨ sign = ['+'])
      (hne : digits ≠ []) (hfits : Digits.toNat digits < 2 ^ 64) :
      Spelled ⟨.right, Digits.toNat digits⟩ (sign ++ Digits.text digits)

theorem digits_of_read? {chars : List Char} {n : Nat} (h : Digits.read? chars = some n) :
    ∃ digits, digits ≠ [] ∧ chars = Digits.text digits ∧ n = Digits.toNat digits := by
  obtain ⟨digits, rfl, rfl⟩ := Digits.exists_text_of_read? h
  refine ⟨digits, ?_, rfl, rfl⟩
  rintro rfl
  cases h

-- The digits of an alignment whose sign has been taken off.
theorem width_eq_some_iff {chars : List Char} {side : Side} {alignment : Alignment} :
    ((Digits.read? chars).bind fun width =>
        if width < 2 ^ 64 then some (Alignment.mk side width) else none) = some alignment ↔
      ∃ digits, digits ≠ [] ∧ Digits.toNat digits < 2 ^ 64 ∧ chars = Digits.text digits ∧
        alignment = ⟨side, Digits.toNat digits⟩ := by
  constructor
  · intro h
    obtain ⟨width, hread, hwidth⟩ := Option.bind_eq_some_iff.mp h
    obtain ⟨digits, hne, hchars, rfl⟩ := digits_of_read? hread
    split at hwidth
    · next hfits => exact ⟨digits, hne, hfits, hchars, (Option.some.inj hwidth).symm⟩
    · cases hwidth
  · rintro ⟨digits, hne, hfits, rfl, rfl⟩
    rw [Digits.read?_text hne, Option.bind_some, if_pos hfits]

theorem text_ne_cons {c : Char} (hc : c.isDigit = false) (digits : List Digit)
    (rest : List Char) : Digits.text digits ≠ c :: rest := by
  cases digits with
  | nil => exact (List.cons_ne_nil _ _).symm
  | cons d digits =>
    intro h
    have hd := d.isDigit_toChar
    rw [(List.cons.inj h).1, hc] at hd
    cases hd

-- A text is read as an alignment exactly if that is what it spells between its blanks.
theorem read?_eq_some_iff {text : List Char} {alignment : Alignment} :
    read? text = some alignment ↔ alignment.Spelled (Text.trim text) := by
  unfold read?
  generalize Text.trim text = chars
  constructor
  · intro h
    dsimp only at h
    split at h
    · obtain ⟨digits, hne, hfits, rfl, rfl⟩ := width_eq_some_iff.mp h
      exact .left hne hfits
    · obtain ⟨digits, hne, hfits, rfl, rfl⟩ := width_eq_some_iff.mp h
      exact .right (.inr rfl) hne hfits
    · obtain ⟨digits, hne, hfits, rfl, rfl⟩ := width_eq_some_iff.mp h
      exact .right (.inl rfl) hne hfits
  · intro h
    cases h with
    | left hne hfits => exact width_eq_some_iff.mpr ⟨_, hne, hfits, rfl, rfl⟩
    | @right sign digits hsign hne hfits =>
      have hwidth := (@width_eq_some_iff _ .right _).mpr ⟨digits, hne, hfits, rfl, rfl⟩
      rcases hsign with rfl | rfl
      · rw [List.nil_append]
        split
        next side rest hsplit =>
        split at hsplit
        · next heq => exact absurd heq (text_ne_cons (by decide) _ _)
        · next heq => exact absurd heq (text_ne_cons (by decide) _ _)
        · cases hsplit
          exact hwidth
      · exact hwidth

theorem Spelled.mem {alignment : Alignment} {text : List Char} (h : alignment.Spelled text)
    {c : Char} (hc : c ∈ text) : c = '-' ∨ c = '+' ∨ c.isDigit = true := by
  have hdigit {digits : List Digit} (hmem : c ∈ Digits.text digits) : c.isDigit = true := by
    obtain ⟨d, -, rfl⟩ := List.mem_map.mp hmem
    exact d.isDigit_toChar
  cases h with
  | left hne hfits =>
    rcases List.mem_cons.mp hc with rfl | hmem
    · exact .inl rfl
    · exact .inr (.inr (hdigit hmem))
  | right hsign hne hfits =>
    rcases List.mem_append.mp hc with hmem | hmem
    · rcases hsign with rfl | rfl
      · cases hmem
      · exact .inr (.inl (List.mem_singleton.mp hmem))
    · exact .inr (.inr (hdigit hmem))

theorem Spelled.not_mem {alignment : Alignment} {text : List Char} (h : alignment.Spelled text)
    {c : Char} (hc : c.isDigit = false ∧ c ∉ ['-', '+']) : c ∉ text := by
  intro hmem
  rcases h.mem hmem with rfl | rfl | hdigit
  · simp at hc
  · simp at hc
  · rw [hc.1] at hdigit
    cases hdigit

theorem Spelled.trim {alignment : Alignment} {text : List Char} (h : alignment.Spelled text) :
    Text.trim text = text := by
  refine Text.trim_of_not_blank fun c hc => ?_
  rcases h.mem hc with rfl | rfl | hdigit
  · decide
  · decide
  · obtain ⟨d, hd⟩ := Digit.exists_ofChar? hdigit
    rw [← Digit.toChar_of_ofChar? hd]
    exact (by decide : ∀ d : Digit, Text.isBlank d.toChar = false) d

theorem Spelled.read?_eq {alignment : Alignment} {text : List Char} (h : alignment.Spelled text) :
    read? text = some alignment := by
  rw [read?_eq_some_iff, h.trim]
  exact h

-- What else can stand in a text that is read as an alignment are blanks.
theorem not_mem_of_read? {text : List Char} {alignment : Alignment}
    (h : read? text = some alignment) {c : Char} (hblank : Text.isBlank c = false)
    (hc : c.isDigit = false ∧ c ∉ ['-', '+']) : c ∉ text := by
  intro hmem
  rcases Text.blank_or_mem_trim hmem with hb | htrim
  · rw [hblank] at hb
    cases hb
  · exact (read?_eq_some_iff.mp h).not_mem hc htrim

end Alignment

end EventText
