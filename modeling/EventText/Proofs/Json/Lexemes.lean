import EventText.Json.Reader
import EventText.Json.Writer
import EventText.Proofs.Number.Digits

namespace EventText.Json

-- Strings and numbers are read back from their texts.

theorem hexDigit?_hexDigitUpper : ∀ n < 16, hexDigit? (hexDigitUpper n) = some n := by decide

theorem unicodeEscape_control {c : Char} (h : c.toNat < 0x20) (rest : List Char) :
    unicodeEscape ('0' :: '0' :: hexDigitUpper (c.toNat / 16) :: hexDigitUpper (c.toNat % 16) ::
      rest) = some (c, rest) := by
  have hhigh := hexDigit?_hexDigitUpper (c.toNat / 16) (by omega)
  have hlow := hexDigit?_hexDigitUpper (c.toNat % 16) (Nat.mod_lt _ (by decide))
  have hzero : hexDigit? '0' = some 0 := rfl
  have hcode : ((0 * 16 + 0) * 16 + c.toNat / 16) * 16 + c.toNat % 16 = c.toNat := by omega
  simp only [unicodeEscape, hexFour, hzero, hhigh, hlow, Option.bind_eq_bind, Option.bind_some,
    hcode]
  rw [if_pos (.inl (by omega)), Char.ofNat_toNat]

theorem stringTail_escapeChar (c : Char) {fuel : Nat} {rest : List Char} :
    stringTail (fuel + 1) (escapeChar c ++ rest) =
      (stringTail fuel rest).map fun r => (c :: r.1, r.2) := by
  have short {letter : Char} (hu : letter ≠ 'u') (hletter : shortEscape? letter = some c) :
      stringTail (fuel + 1) ('\\' :: letter :: rest) =
        (stringTail fuel rest).map fun r => (c :: r.1, r.2) := by
    rw [stringTail, if_neg (by decide), if_pos rfl, hletter]
    · cases stringTail fuel rest <;> rfl
    · exact hu
  unfold escapeChar
  split
  · next h => exact short (by decide) (by rw [h]; rfl)
  split
  · next h => exact short (by decide) (by rw [h]; rfl)
  split
  · next h => exact short (by decide) (by rw [h]; rfl)
  split
  · next h => exact short (by decide) (by rw [h]; rfl)
  split
  · next h => exact short (by decide) (by rw [h]; rfl)
  split
  · next h => exact short (by decide) (by rw [h]; rfl)
  split
  · next hcontrol =>
    have hescape := unicodeEscape_control hcontrol rest
    simp only [List.cons_append, List.nil_append]
    rw [stringTail, if_neg (by decide), if_pos rfl]
    simp only [hescape, Option.bind_eq_bind, Option.bind_some]
    cases stringTail fuel rest <;> rfl
  · next hquote hbackslash _ _ _ _ hcontrol =>
    rw [List.singleton_append]
    rw [stringTail.eq_def (fuel + 1)]
    simp only [if_neg hquote, if_neg hbackslash, if_neg hcontrol]
    cases stringTail fuel rest <;> rfl

theorem stringTail_escaped (chars : List Char) {fuel : Nat} (h : chars.length < fuel)
    (rest : List Char) :
    stringTail fuel (chars.flatMap escapeChar ++ '"' :: rest) = some (chars, rest) := by
  induction chars generalizing fuel with
  | nil =>
    obtain ⟨fuel, rfl⟩ := Nat.exists_eq_succ_of_ne_zero (Nat.ne_of_gt h)
    rfl
  | cons c chars ih =>
    obtain ⟨fuel, rfl⟩ := Nat.exists_eq_succ_of_ne_zero (Nat.ne_of_gt (Nat.zero_lt_of_lt h))
    rw [List.flatMap_cons, List.append_assoc, stringTail_escapeChar,
      ih (Nat.lt_of_succ_lt_succ h)]
    rfl

theorem length_le_flatMap_escapeChar (chars : List Char) :
    chars.length ≤ (chars.flatMap escapeChar).length := by
  induction chars with
  | nil => exact Nat.le_refl _
  | cons c chars ih =>
    have hpos : 0 < (escapeChar c).length := by
      unfold escapeChar
      repeat' split <;> try exact Nat.succ_pos _
    rw [List.flatMap_cons, List.length_append, List.length_cons]
    omega

theorem quoted_quoteString (text : String) (rest : List Char) :
    quoted (quoteString text ++ rest) = some (text, rest) := by
  have hlength := length_le_flatMap_escapeChar text.toList
  have hfuel : text.toList.length <
      (text.toList.flatMap escapeChar ++ '"' :: rest).length + 1 := by
    rw [List.length_append]
    omega
  have htail := stringTail_escaped text.toList hfuel rest
  simp only [quoteString, quote, List.cons_append, List.append_assoc, List.nil_append, quoted,
    htail, Option.bind_eq_bind, Option.bind_some, String.ofList_toList]

-- Numbers

-- Nothing behind a text of a value that could belong to a number.
def Closed (rest : List Char) : Prop := ∀ c ∈ rest.head?, c = ',' ∨ c = ']' ∨ c = '\x7d'

theorem Closed.scan_text {rest : List Char} (h : Closed rest) (digits : List Digit) :
    Digits.scan (Digits.text digits ++ rest) = (digits, rest) := by
  refine Digits.scan_text digits fun c hc => ?_
  rcases h c hc with rfl | rfl | rfl <;> rfl

theorem significand_ofNat_le (digits : List Digit) (value : Nat)
    (h : digits.foldl (fun value d => value * 10 + d.val) value < UInt64.size) :
    significand value digits = (digits.foldl (fun value d => value * 10 + d.val) value, 0) := by
  induction digits generalizing value with
  | nil => rfl
  | cons d digits ih =>
    have hle (digits : List Digit) (start : Nat) :
        start ≤ digits.foldl (fun value d => value * 10 + d.val) start := by
      induction digits generalizing start with
      | nil => exact Nat.le_refl _
      | cons d digits ih =>
        exact Nat.le_trans (by omega : start ≤ start * 10 + d.val) (ih _)
    rw [List.foldl_cons] at h ⊢
    rw [significand, if_pos (Nat.lt_of_le_of_lt (hle digits _) h), ih _ h]

theorem significand_toNat {n : Nat} (h : n < UInt64.size) :
    significand 0 (Digits.ofNat n) = (n, 0) := by
  have hn := Digits.toNat_ofNat n
  rw [Digits.toNat] at hn
  rw [significand_ofNat_le _ _ (by rwa [hn]), hn]

theorem Closed.fractionPart {rest : List Char} (h : Closed rest) :
    fractionPart rest = some (none, rest) := by
  unfold Json.fractionPart
  split
  · exact absurd (h '.' rfl) (by decide)
  · rfl

theorem Closed.exponentPart {rest : List Char} (h : Closed rest) :
    exponentPart rest = some (none, rest) := by
  unfold Json.exponentPart
  split
  · exact absurd (h 'e' rfl) (by decide)
  · exact absurd (h 'E' rfl) (by decide)
  · rfl

theorem integerPart_natText (n : Nat) {rest : List Char} (h : Closed rest) :
    integerPart (natText n ++ rest) = some (Digits.ofNat n, rest) := by
  have hscan := h.scan_text (Digits.ofNat n)
  rw [integerPart, natText, hscan]
  cases hdigits : Digits.ofNat n with
  | nil => exact absurd hdigits (Digits.ofNat_ne_nil n)
  | cons d digits =>
    have hzero : ¬ (d = 0 ∧ digits ≠ []) := by
      rintro ⟨rfl, hne⟩
      exact hne (Digits.ofNat_eq_zero_cons hdigits)
    simp only [if_neg hzero]

theorem unsigned_natText (n : Nat) {rest : List Char} (h : Closed rest) (negative : Bool) :
    unsigned negative (natText n ++ rest) =
      (numberOf negative (Digits.ofNat n) none none).map fun number => (number, rest) := by
  simp only [unsigned, integerPart_natText n h, h.fractionPart, h.exponentPart,
    Option.bind_eq_bind, Option.bind_some]
  cases numberOf negative (Digits.ofNat n) none none <;> rfl

-- The narrower one of the two integer types is preferred.
def ofNatural (n : Nat) : Json :=
  if n < 2 ^ 63 then .int (Int64.ofNat n) else .uint (UInt64.ofNat n)

theorem number_natText {n : Nat} (hn : n < UInt64.size) {rest : List Char} (h : Closed rest) :
    number (natText n ++ rest) = some (ofNatural n, rest) := by
  have hunsigned : number (natText n ++ rest) = unsigned false (natText n ++ rest) := by
    obtain ⟨c, text, htext, hdigit⟩ := natText_eq_cons n
    rw [htext, List.cons_append, number]
    intro _ heq
    obtain ⟨rfl, -⟩ := List.cons.inj heq
    cases hdigit
  rw [hunsigned, unsigned_natText n h]
  simp only [numberOf, significand_toNat hn]
  rfl

theorem number_negative {n : Nat} (hpos : 0 < n) (hn : n ≤ 2 ^ 63) {rest : List Char}
    (h : Closed rest) :
    number ('-' :: natText n ++ rest) = some (.int (Int64.ofInt (-n)), rest) := by
  have hsize : n < UInt64.size := Nat.lt_of_le_of_lt hn (by decide)
  have hrange : ¬ (n = 0 ∨ 2 ^ 63 < n) := by omega
  rw [List.cons_append, number, unsigned_natText n h]
  simp only [numberOf, significand_toNat hsize, if_neg hrange]
  rfl

end EventText.Json
