import EventText.Proofs.Expr.RoundTrip
import EventText.Proofs.Output.ScalarText

namespace EventText

open ExprReader

-- Integers that are written as text, in decimal or in hexadecimal digits, and read again.

namespace Lexer

theorem hexDigit_digit {upper : Bool} {n : Nat} (h : n < 16) :
    isHexDigit (Number.hexDigit upper n) = true ∧ hexValue (Number.hexDigit upper n) = n :=
  (by decide : ∀ (upper : Bool) (d : Fin 16), isHexDigit (Number.hexDigit upper d) = true ∧
    hexValue (Number.hexDigit upper d) = d) upper ⟨n, h⟩

theorem hexNumber_append (digits : List Char) (c : Char) :
    hexNumber (digits ++ [c]) = hexNumber digits * 16 + hexValue c := by
  rw [hexNumber, List.foldl_append]
  rfl

-- Characters that are read as a number in hexadecimal digits.
structure IsHexadecimal (chars : List Char) (n : Nat) : Prop where
  ne_nil : chars ≠ []
  digits : ∀ c ∈ chars, isHexDigit c = true
  value : hexNumber chars = n

theorem isHexadecimal_hexText (upper : Bool) (n : Nat) :
    IsHexadecimal (Number.hexText upper n) n := by
  fun_induction Number.hexText upper n with
  | case1 n h =>
    obtain ⟨hdigit, hvalue⟩ := hexDigit_digit h
    refine ⟨List.cons_ne_nil _ _, List.forall_mem_singleton.mpr hdigit, ?_⟩
    rw [← List.nil_append [_], hexNumber_append, hvalue]
    exact Nat.zero_add n
  | case2 n h ih =>
    obtain ⟨hdigit, hvalue⟩ := hexDigit_digit (Nat.mod_lt n (by decide : 16 > 0))
    refine ⟨by simp, List.forall_mem_append.mpr
      ⟨ih.digits, List.forall_mem_singleton.mpr hdigit⟩, ?_⟩
    rw [hexNumber_append, ih.value, hvalue]
    exact Nat.div_add_mod' n 16

theorem IsHexadecimal.padZeros {chars : List Char} {n : Nat} (h : IsHexadecimal chars n)
    (width : Nat) : IsHexadecimal (Number.padZeros width chars) n := by
  have hzeros (count : Nat) : (List.replicate count '0').foldl
      (fun n c => n * 16 + hexValue c) 0 = 0 := by
    induction count with
    | zero => rfl
    | succ count ih => exact ih
  refine ⟨by simp [Number.padZeros, h.ne_nil], List.forall_mem_append.mpr ⟨?_, h.digits⟩, ?_⟩
  · intro c hc
    rw [List.eq_of_mem_replicate hc]
    rfl
  · rw [hexNumber, Number.padZeros, List.foldl_append, hzeros]
    exact h.value

theorem IsHexadecimal.lexes {chars : List Char} {n : Nat} (h : IsHexadecimal chars n)
    (hn : n < 2 ^ 63) : Word.Lexes ⟨.integer (Int64.ofNat n), '0' :: 'x' :: chars⟩ := by
  have htoken : hexToken? chars = some (.integer (Int64.ofNat n)) := by
    have hfits : ¬ (chars = [] ∨ UInt64.size ≤ n) := by
      have hsize : UInt64.size = 2 ^ 64 := rfl
      exact not_or.mpr ⟨h.ne_nil, by omega⟩
    simp only [hexToken?, h.value, if_neg hfits, if_pos hn]
  refine ⟨⟨'0', rfl, by decide⟩, fun tail ht => ?_⟩
  have htake := ht.takeWhile_append (by decide) h.digits
  have hscanned := @Scanned.hexadecimal 'x' (chars ++ tail) _ (.inl rfl) (by rwa [htake])
  rwa [htake] at hscanned

end Lexer

-- A reader of some level that gets to the end of a source has read it as a whole.
theorem Expr.read_of_reader {source : String} {k : Nat} {s s' : Lookahead} {e : Expr} (hk : k ≤ 8)
    (hs : Lookahead.ofCursor (Cursor.ofString source) = .ok s)
    (hread : reader k s = goOn k e s') (heof : s'.token = .eof)
    (hsign : k = 8 → s.atKeyword "not" = false ∧ s.atSymbol .minus = false) :
    Expr.read source = .ok e := by
  have hwhole : expression s = .ok (e, s') :=
    reader_descend (Nat.zero_le k) hk hread (by rw [heof]; exact loose_of_lt (by decide)) hsign
  simp only [Expr.read, hs, ok_bind, hwhole, heof]
  rfl

namespace Word

variable {w : Word} {m : Scalar}

theorem follows_alone (h : w.Lexes) (position : Nat) :
    ∃ s s', Lookahead.ofCursor ⟨w.chars, position⟩ = .ok s ∧ Follows [w] s s' ∧
      s'.token = .eof := by
  have hline := follows_line (List.forall_mem_singleton.mpr h) position
  rwa [line, show spaced [] = [] from rfl, List.append_nil] at hline

theorem read_number (h : w.Lexes) (hm : Numeral.magnitude? w.token = some m) :
    Expr.read (String.ofList w.chars) = .ok (.constant m) := by
  obtain ⟨s, s', hs, ⟨htoken, s₁, hadvance, rfl⟩, heof⟩ := follows_alone h 0
  rw [← htoken] at hm
  refine Expr.read_of_reader (Nat.le_refl 8) ?_ (reader_primary (primary_number hm hadvance)) heof
    fun _ => sign_of_magnitude? hm
  rw [Cursor.ofString, String.toList_ofList]
  exact hs

-- A minus sign is applied to the number directly behind it.
theorem read_negative (h : w.Lexes) (hm : Numeral.magnitude? w.token = some m) :
    Expr.read (String.ofList ('-' :: w.chars)) = .ok (negation (.constant m)) := by
  obtain ⟨s₁, s', hs₁, ⟨htoken, s₂, hadvance₁, rfl⟩, heof⟩ := follows_alone h 1
  let s : Lookahead := ⟨⟨.symbol .minus, 0, 1⟩, ⟨w.chars, 1⟩⟩
  have hs : Lookahead.ofCursor ⟨'-' :: w.chars, 0⟩ = .ok s := rfl
  rw [← htoken] at hm
  have hread : reader 7 s = .ok (negation (.constant m), s₂) :=
    reader_negative rfl hs₁ hm hadvance₁ (by rw [heof]; exact loose_of_lt (by decide))
  refine Expr.read_of_reader (k := 7) (by decide) ?_ hread heof nofun
  rw [Cursor.ofString, String.toList_ofList]
  exact hs

end Word

theorem Numeral.Spells.read {numeral : Numeral} {c : Scalar} (h : numeral.Spells c) :
    Expr.read (String.ofList (Number.signText numeral.negative ++ numeral.chars))
      = .ok (.constant c) := by
  obtain ⟨m, hm, hvalue⟩ := h.value
  have hlexes := Word.lexes_number h.decimal
  rw [← hvalue]
  cases numeral.negative with
  | true =>
    rw [if_pos rfl, ← Word.read_negative hlexes hm]
    rfl
  | false =>
    rw [if_neg (by decide), ← Word.read_number hlexes hm]
    rfl

-- The digits of the least integer alone are too large for an integer, so that they are read as a
-- float before the sign is applied.
theorem Numeral.spells_least {digits : List Digit} (hdigits : digits ≠ [])
    (hvalue : Digits.toNat digits = 2 ^ 63) :
    Spells ⟨true, Digits.text digits⟩ (.float (-floatOfDigits digits [])) := by
  refine ⟨isDecimal_text hdigits, .float (floatOfDigits digits []), ?_, rfl⟩
  simp only [Lexer.decimalToken_text, Lexer.wholeToken, hvalue, Nat.lt_irrefl, if_false]
  rfl

-- A format of one of these letters, with a precision or without one.
def Number.Format.IsStandard (letters : List Char) (format : String) : Prop :=
  ∃ letter ∈ letters, ∃ precision, read? format.toList = some (.standard letter precision)

namespace Scalar

open Number.Format (IsStandard)

variable (n : Int64) (culture : Culture)

theorem formatted_decimal {format : Option String} (h : ∀ f ∈ format, IsStandard ['D', 'd'] f) :
    ∃ width, (Scalar.int n).formatted format culture
      = Number.signText (decide (n.toInt < 0)) ++ natTextPadded width n.toInt.natAbs := by
  have hsign : (Number.int n).isNegative = decide (n.toInt < 0) :=
    decide_eq_decide.mpr Int64.lt_iff_toInt_lt
  cases format with
  | none =>
    refine ⟨0, ?_⟩
    have hpadded : natTextPadded 0 n.toInt.natAbs = natText n.toInt.natAbs := by
      simp [natTextPadded, natText, Digits.padLeft]
    show intText n.toInt = _
    rw [hpadded, intText]
    by_cases hneg : n.toInt < 0 <;> simp [hneg, Number.signText]
  | some format =>
    obtain ⟨letter, hletter, precision, hformat⟩ := h format rfl
    refine ⟨precision.getD 1, ?_⟩
    rw [← hsign, formatted, numberText, Option.bind_some, Number.text?]
    simp only [Number.notFinite?, hformat]
    simp only [List.mem_cons, List.not_mem_nil, or_false] at hletter
    rcases hletter with rfl | rfl <;> rfl

theorem formatted_hexadecimal {format : String} (h : IsStandard ['X', 'x'] format)
    (hn : 0 ≤ n.toInt) :
    ∃ width upper, (Scalar.int n).formatted (some format) culture
      = Number.padZeros width (Number.hexText upper n.toInt.toNat) := by
  have hbits : n.toInt.toNat = n.toUInt64.toNat := by
    have hbits : n.toUInt64.toNat = n.toBitVec.toNat := rfl
    have hint : n.toInt = n.toBitVec.toInt := rfl
    have hlt := n.toBitVec.isLt
    rw [BitVec.toInt_eq_toNat_cond] at hint
    split at hint <;> omega
  obtain ⟨letter, hletter, precision, hformat⟩ := h
  refine ⟨precision.getD 1, letter == 'X', ?_⟩
  rw [hbits, formatted, numberText, Option.bind_some, Number.text?]
  simp only [Number.notFinite?, hformat]
  simp only [List.mem_cons, List.not_mem_nil, or_false] at hletter
  rcases hletter with rfl | rfl <;> rfl

end Scalar

namespace Expr

open Number.Format (IsStandard)

-- What the function writes, which is also what `D` writes up to zeros in front, is read as the same
-- integer unless it is the least one. The digits of `X` are, of integers that are not negative.
theorem read_integer (n : Int64) :
    let written (format : Option String) (culture : Culture) :=
      String.ofList ((Scalar.int n).formatted format culture)
    (∀ format clock ignoreCase, BuiltinFunction.toString.apply clock ignoreCase
        (.scalar (.int n) :: (format.map Outcome.string).toList)
      = .string (written format Culture.invariant)) ∧
    (∀ format culture, (∀ f ∈ format, IsStandard ['D', 'd'] f) →
      (Expr.read (written format culture) = .ok (.constant (.int n)) ↔ n ≠ Int64.minValue)) ∧
    (∀ format culture, IsStandard ['X', 'x'] format → 0 ≤ n →
      Expr.read ("0x" ++ written (some format) culture) = .ok (.constant (.int n))) := by
  intro written
  refine ⟨BuiltinFunction.apply_toString (s := .int n) nofun, fun format culture hformat => ?_,
    fun format culture hformat hn => ?_⟩
  · obtain ⟨width, htext⟩ := Scalar.formatted_decimal n culture hformat
    have hdigits : Digits.padLeft width (Digits.ofNat n.toInt.natAbs) ≠ [] := by
      simp [Digits.padLeft, Digits.ofNat_ne_nil]
    have hvalue := (Digits.toNat_padLeft width _).trans (Digits.toNat_ofNat n.toInt.natAbs)
    simp only [written, htext]
    constructor
    · rintro hread rfl
      have hleast := (Numeral.spells_least hdigits hvalue).read
      rw [show decide (Int64.minValue.toInt < 0) = true from rfl, natTextPadded, hleast] at hread
      cases hread
    · exact fun h => (Numeral.spells_int hdigits hvalue h).read
  · have hpos : 0 ≤ n.toInt := Int64.le_iff_toInt_le.mp hn
    obtain ⟨width, upper, htext⟩ := Scalar.formatted_hexadecimal n culture hformat hpos
    have hlt : n.toInt.toNat < 2 ^ 63 := by
      have := n.toInt_lt
      omega
    have hint : Int64.ofNat n.toInt.toNat = n := by
      rw [← Int64.toInt_inj, Int64.toInt_ofNat_of_lt hlt, Int.toNat_of_nonneg hpos]
    have hlexes := ((Lexer.isHexadecimal_hexText upper n.toInt.toNat).padZeros width).lexes hlt
    have hread := Word.read_number hlexes rfl
    rw [hint] at hread
    rw [← hread]
    refine congrArg Expr.read (String.toList_inj.mp ?_)
    simp [written, htext]

-- The magnitude of the least integer is the first one that is read as a float.
theorem read_least_integer :
    String.ofList ((Scalar.int Int64.minValue).formatted none Culture.invariant)
        = "-9223372036854775808" ∧
      (∃ x, Expr.read "-9223372036854775808" = .ok (.constant (.float x))) ∧
      Expr.read "-9223372036854775808" ≠ .ok (.constant (.int Int64.minValue)) := by
  have hread : ∃ x, Expr.read "-9223372036854775808" = .ok (.constant (.float x)) := ⟨_, rfl⟩
  refine ⟨by decide +kernel, hread, ?_⟩
  obtain ⟨x, hx⟩ := hread
  rw [hx]
  exact nofun

theorem read_integer_bounds :
    (Number.Format.IsStandard ['D', 'd'] "D21" ∧ (-9223372036854775807 : Int64) ≠ Int64.minValue ∧
      Expr.read "-009223372036854775807" = .ok (.constant (.int (-9223372036854775807)))) ∧
    (Number.Format.IsStandard ['X', 'x'] "x17" ∧ (0 : Int64) ≤ Int64.maxValue ∧
      Expr.read "0x07fffffffffffffff" = .ok (.constant (.int Int64.maxValue))) := by
  have hdecimal : Number.Format.IsStandard ['D', 'd'] "D21" := ⟨'D', by decide, some 21, rfl⟩
  have hhexadecimal : Number.Format.IsStandard ['X', 'x'] "x17" := ⟨'x', by decide, some 17, rfl⟩
  have hne : (-9223372036854775807 : Int64) ≠ Int64.minValue := by decide
  have hpos : (0 : Int64) ≤ Int64.maxValue := by decide
  obtain ⟨-, hsigned, -⟩ := read_integer (-9223372036854775807)
  obtain ⟨-, -, hunsigned⟩ := read_integer Int64.maxValue
  have hformat : ∀ f ∈ some "D21", Number.Format.IsStandard ['D', 'd'] f :=
    fun f hf => Option.some.inj hf ▸ hdecimal
  refine ⟨⟨hdecimal, hne, ?_⟩, hhexadecimal, hpos, ?_⟩
  · rw [← (hsigned (some "D21") Culture.invariant hformat).mpr hne]
    exact congrArg Expr.read (by decide +kernel)
  · rw [← hunsigned "x17" Culture.invariant hhexadecimal hpos]
    exact congrArg Expr.read (by decide +kernel)

end Expr

end EventText
