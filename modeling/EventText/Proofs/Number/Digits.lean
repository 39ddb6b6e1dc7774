import EventText.Number.Digits

namespace EventText

-- A run of digits at the front of a text, taken apart from what follows it.

theorem Digit.toChar_of_ofChar? {c : Char} {d : Digit} (h : Digit.ofChar? c = some d) :
    d.toChar = c := by
  unfold Digit.ofChar? at h
  split at h
  · next hrange =>
    obtain rfl := Option.some.inj h
    have hcode : '0'.toNat + (c.toNat - '0'.toNat) = c.toNat := Nat.add_sub_cancel' hrange.1
    simp only [Digit.toChar, hcode, Char.ofNat_toNat]
  · cases h

theorem Digit.exists_ofChar? {c : Char} (h : c.isDigit) : ∃ d, Digit.ofChar? c = some d := by
  simp only [Char.isDigit, Bool.and_eq_true, decide_eq_true_eq] at h
  exact ⟨_, dif_pos ⟨UInt32.le_iff_toNat_le.mp h.1, UInt32.le_iff_toNat_le.mp h.2⟩⟩

@[simp] theorem Digit.ofChar?_toChar (d : Digit) : Digit.ofChar? d.toChar = some d :=
  (by decide : ∀ d : Digit, Digit.ofChar? d.toChar = some d) d

namespace Digits

theorem toNat_append (digits : List Digit) (d : Digit) :
    toNat (digits ++ [d]) = toNat digits * 10 + d.val := by
  simp only [toNat, List.foldl_append, List.foldl_cons, List.foldl_nil]

theorem toNat_ofNat (n : Nat) : toNat (ofNat n) = n := by
  fun_induction ofNat n with
  | case1 n h => simp [toNat]
  | case2 n h ih =>
    rw [toNat_append, ih]
    exact Nat.div_add_mod' n 10

theorem toNat_lt (digits : List Digit) : toNat digits < 10 ^ digits.length := by
  have hfold (value : Nat) : digits.foldl (fun value d => value * 10 + d.val) value
      < (value + 1) * 10 ^ digits.length := by
    induction digits generalizing value with
    | nil => exact Nat.lt_of_lt_of_eq (Nat.lt_succ_self value) (Nat.mul_one _).symm
    | cons d digits ih =>
        have hd : value * 10 + d.val + 1 ≤ (value + 1) * 10 := by
          have := d.isLt
          omega
        calc digits.foldl (fun value d => value * 10 + d.val) (value * 10 + d.val)
            < (value * 10 + d.val + 1) * 10 ^ digits.length := ih _
          _ ≤ (value + 1) * 10 * 10 ^ digits.length := Nat.mul_le_mul_right _ hd
          _ = (value + 1) * 10 ^ (digits.length + 1) := by
            rw [Nat.pow_succ', Nat.mul_assoc]
  have hzero := hfold 0
  rwa [Nat.zero_add, Nat.one_mul] at hzero

theorem ofNat_ne_nil (n : Nat) : ofNat n ≠ [] := by
  unfold ofNat
  split <;> simp

-- No zero stands in front of another digit.
theorem ofNat_eq_zero_cons {n : Nat} {digits : List Digit} (h : ofNat n = 0 :: digits) :
    digits = [] := by
  have hn := toNat_ofNat n
  unfold ofNat at h
  split at h
  · exact (List.cons.inj h).2.symm
  · next hge =>
    cases hfront : ofNat (n / 10) with
    | nil => exact absurd hfront (ofNat_ne_nil _)
    | cons d front =>
      rw [hfront] at h
      obtain ⟨rfl, -⟩ := List.cons.inj h
      have hempty := ofNat_eq_zero_cons hfront
      have hten := toNat_ofNat (n / 10)
      rw [hfront, hempty] at hten
      have hzero : n / 10 = 0 := hten.symm
      omega
termination_by n

@[simp] theorem length_text (digits : List Digit) : (text digits).length = digits.length :=
  List.length_map _

theorem text_scan (chars : List Char) : text (scan chars).1 ++ (scan chars).2 = chars := by
  induction chars with
  | nil => rfl
  | cons c rest ih =>
    unfold scan
    split
    · rfl
    · next d hd =>
      simp only [text, List.map_cons, List.cons_append, Digit.toChar_of_ofChar? hd]
      exact congrArg (c :: ·) ih

theorem length_scan (chars : List Char) :
    (scan chars).1.length + (scan chars).2.length = chars.length := by
  have h := congrArg List.length (text_scan chars)
  simpa only [List.length_append, length_text] using h

theorem drop_scan (chars : List Char) : chars.drop (scan chars).1.length = (scan chars).2 := by
  have h := congrArg (List.drop (scan chars).1.length) (text_scan chars)
  rw [List.drop_left' (length_text _)] at h
  exact h.symm

-- Digits are found again in front of anything but a digit.
theorem scan_text (digits : List Digit) {tail : List Char}
    (h : ∀ c ∈ tail.head?, Digit.ofChar? c = none) :
    scan (text digits ++ tail) = (digits, tail) := by
  induction digits with
  | nil =>
    cases tail with
    | nil => rfl
    | cons c rest =>
      have hc := h c rfl
      simp only [text, List.map_nil, List.nil_append, scan, hc]
  | cons d digits ih =>
    have hd := Digit.ofChar?_toChar d
    rw [text] at ih ⊢
    rw [List.map_cons, List.cons_append, scan, hd]
    simp only [ih]

theorem scan_text_all (digits : List Digit) : scan (text digits) = (digits, []) := by
  have h := @scan_text digits [] nofun
  rwa [List.append_nil] at h

theorem scan_append {chars : List Char} (tail : List Char) (h : (scan chars).2 ≠ []) :
    scan (chars ++ tail) = ((scan chars).1, (scan chars).2 ++ tail) := by
  induction chars with
  | nil => exact absurd rfl h
  | cons c rest ih =>
    rw [List.cons_append]
    unfold scan at h ⊢
    split
    · rfl
    · next d hd =>
      rw [hd] at h
      rw [ih h]

theorem toNat_padLeft (width : Nat) (digits : List Digit) :
    toNat (padLeft width digits) = toNat digits := by
  have hzeros (count : Nat) : (List.replicate count (0 : Digit)).foldl
      (fun value d => value * 10 + d.val) 0 = 0 := by
    induction count with
    | zero => rfl
    | succ count ih => exact ih
  rw [toNat, padLeft, List.foldl_append, hzeros, toNat]

theorem le_length_padLeft (width : Nat) (digits : List Digit) :
    width ≤ (padLeft width digits).length := by
  rw [padLeft, List.length_append, List.length_replicate]
  omega

-- The width is reached by the numbers below its power of ten.
theorem length_ofNat_le {n width : Nat} (hwidth : 0 < width) (h : n < 10 ^ width) :
    (ofNat n).length ≤ width := by
  induction width generalizing n with
  | zero => cases hwidth
  | succ width ih =>
    unfold ofNat
    split
    · exact Nat.succ_le_succ (Nat.zero_le width)
    · next hten =>
      have hpos : 0 < width := by
        refine Nat.pos_of_ne_zero ?_
        rintro rfl
        exact hten h
      have hdiv : n / 10 < 10 ^ width := by
        rw [Nat.pow_succ] at h
        exact Nat.div_lt_of_lt_mul (Nat.mul_comm _ _ ▸ h)
      rw [List.length_append]
      exact Nat.succ_le_succ (ih hpos hdiv)

theorem lt_length_ofNat {n k : Nat} (h : 10 ^ k ≤ n) : k < (ofNat n).length := by
  have hlt := toNat_lt (ofNat n)
  rw [toNat_ofNat] at hlt
  exact (Nat.pow_lt_pow_iff_right (by decide)).mp (Nat.lt_of_le_of_lt h hlt)

theorem length_padLeft {n width : Nat} (hwidth : 0 < width) (h : n < 10 ^ width) :
    (padLeft width (ofNat n)).length = width := by
  have := length_ofNat_le hwidth h
  rw [padLeft, List.length_append, List.length_replicate]
  omega

theorem read?_text {digits : List Digit} (h : digits ≠ []) :
    read? (text digits) = some (toNat digits) := by
  cases digits with
  | nil => exact absurd rfl h
  | cons d digits => rw [read?, scan_text_all]

theorem exists_text_of_read? {chars : List Char} {n : Nat} (h : read? chars = some n) :
    ∃ digits, chars = text digits ∧ toNat digits = n := by
  have htext := text_scan chars
  unfold read? at h
  split at h
  · next d digits hscan =>
    rw [hscan, List.append_nil] at htext
    exact ⟨d :: digits, htext.symm, Option.some.inj h⟩
  · cases h

theorem lt_of_read? {chars : List Char} {n : Nat} (h : read? chars = some n) :
    n < 10 ^ chars.length := by
  obtain ⟨digits, rfl, rfl⟩ := exists_text_of_read? h
  rw [length_text]
  exact toNat_lt digits

end Digits

theorem Digit.isDigit_toChar (d : Digit) : d.toChar.isDigit = true :=
  (by decide : ∀ d : Digit, d.toChar.isDigit = true) d

theorem natText_eq_cons (n : Nat) : ∃ c rest, natText n = c :: rest ∧ c.isDigit = true := by
  cases h : Digits.ofNat n with
  | nil => exact absurd h (Digits.ofNat_ne_nil n)
  | cons d digits => exact ⟨_, _, by rw [natText, h]; rfl, d.isDigit_toChar⟩

theorem length_natTextPadded {n width : Nat} (hwidth : 0 < width) (h : n < 10 ^ width) :
    (natTextPadded width n).length = width := by
  rw [natTextPadded, Digits.length_text, Digits.length_padLeft hwidth h]

end EventText
