import EventText.Text.Utf8

namespace EventText.Text

-- A text is decoded from its encoding. The first byte of a character tells how many bytes follow
-- it, each of which carries six bits.

deriving instance DecidableEq for Pending

theorem toNat_continuation : ∀ k < 64, (UInt8.ofNat (k + 128)).toNat = k + 128 ∧
    (UInt8.ofNat (k + 128) - 0x80).toNat = k := by decide

theorem leadByte_one : ∀ k < 128, leadByte (UInt8.ofNat k) = ([Char.ofNat k], none) := by
  decide +kernel

-- Overlong forms, surrogates and codes beyond the last plane are kept out by the range of the
-- second byte.

theorem leadByte_two : ∀ k < 32, 2 ≤ k →
    leadByte (UInt8.ofNat (k + 192)) = ([], some ⟨1, 0x80, 0xBF, k⟩) := by decide

theorem leadByte_three : ∀ k < 16, leadByte (UInt8.ofNat (k + 224)) =
    ([], some ⟨2, if k = 0 then 0xA0 else 0x80, if k = 13 then 0x9F else 0xBF, k⟩) := by decide

theorem leadByte_four : ∀ k < 5, leadByte (UInt8.ofNat (k + 240)) =
    ([], some ⟨3, if k = 0 then 0x90 else 0x80, if k = 4 then 0x8F else 0xBF, k⟩) := by decide

theorem decodeFrom_lead {b : UInt8} {chars : List Char} {state : Option Pending}
    (h : leadByte b = (chars, state)) (rest : Bytes) :
    decodeFrom none (b :: rest) = chars ++ decodeFrom state rest := by
  rw [decodeFrom, h]

theorem continuation_mem {low high : UInt8} {k : Nat} (hk : k < 64) (hlow : low.toNat ≤ k + 128)
    (hhigh : k + 128 ≤ high.toNat) :
    low ≤ UInt8.ofNat (k + 128) ∧ UInt8.ofNat (k + 128) ≤ high := by
  rw [UInt8.le_iff_toNat_le, UInt8.le_iff_toNat_le, (toNat_continuation k hk).1]
  exact ⟨hlow, hhigh⟩

theorem decodeFrom_last {low high : UInt8} {k : Nat} (hk : k < 64) (hlow : low.toNat ≤ k + 128)
    (hhigh : k + 128 ≤ high.toNat) (code : Nat) (rest : Bytes) :
    decodeFrom (some ⟨1, low, high, code⟩) (UInt8.ofNat (k + 128) :: rest) =
      Char.ofNat (code * 64 + k) :: decodeFrom none rest := by
  rw [decodeFrom, if_pos (continuation_mem hk hlow hhigh), (toNat_continuation k hk).2]
  rfl

theorem decodeFrom_next {low high : UInt8} {k : Nat} (hk : k < 64) (hlow : low.toNat ≤ k + 128)
    (hhigh : k + 128 ≤ high.toNat) (left code : Nat) (rest : Bytes) :
    decodeFrom (some ⟨left + 2, low, high, code⟩) (UInt8.ofNat (k + 128) :: rest) =
      decodeFrom (some ⟨left + 1, 0x80, 0xBF, code * 64 + k⟩) rest := by
  rw [decodeFrom, if_pos (continuation_mem hk hlow hhigh), (toNat_continuation k hk).2]
  rfl

theorem decodeFrom_utf8EncodeChar (c : Char) (rest : Bytes) :
    decodeFrom none (String.utf8EncodeChar c ++ rest) = c :: decodeFrom none rest := by
  have hvalid : c.val.toNat < 0xD800 ∨ (0xDFFF < c.val.toNat ∧ c.val.toNat < 0x110000) := c.valid
  have hchar : Char.ofNat c.val.toNat = c := Char.ofNat_toNat c
  unfold String.utf8EncodeChar
  generalize c.val.toNat = v at hvalid hchar
  have hsix (n : Nat) : n % 64 < 64 := Nat.mod_lt n (by decide)
  have hleast (n : Nat) : UInt8.toNat 0x80 ≤ n % 64 + 128 := Nat.le_add_left 128 _
  have hgreatest (n : Nat) : n % 64 + 128 ≤ UInt8.toNat 0xBF :=
    Nat.le_trans (by omega) (by decide : 191 ≤ UInt8.toNat 0xBF)
  simp only
  split
  · next hone =>
    rw [List.singleton_append, decodeFrom_lead (leadByte_one v (Nat.lt_succ_of_le hone)), hchar]
    rfl
  split
  · next hone htwo =>
    have hhead : v / 64 % 32 = v / 64 := by omega
    have hcode : v / 64 * 64 + v % 64 = v := by omega
    have hlead := leadByte_two (v / 64) (by omega) (by omega)
    simp only [hhead, List.cons_append, List.nil_append]
    rw [decodeFrom_lead hlead, decodeFrom_last (hsix v) (hleast v) (hgreatest v), hcode, hchar]
    rfl
  split
  · next htwo hthree =>
    have hhead : v / 4096 % 16 = v / 4096 := by omega
    have hcode : (v / 4096 * 64 + v / 64 % 64) * 64 + v % 64 = v := by omega
    have hlead := leadByte_three (v / 4096) (by omega)
    have hlow : (if v / 4096 = 0 then (0xA0 : UInt8) else 0x80).toNat ≤ v / 64 % 64 + 128 := by
      split
      · exact Nat.le_trans (by decide : UInt8.toNat 0xA0 ≤ 160) (by omega)
      · exact hleast _
    have hhigh : v / 64 % 64 + 128 ≤ (if v / 4096 = 13 then (0x9F : UInt8) else 0xBF).toNat := by
      split
      · exact Nat.le_trans (by omega) (by decide : 159 ≤ UInt8.toNat 0x9F)
      · exact hgreatest _
    simp only [hhead, List.cons_append, List.nil_append]
    rw [decodeFrom_lead hlead, decodeFrom_next (hsix (v / 64)) hlow hhigh,
      decodeFrom_last (hsix v) (hleast v) (hgreatest v), hcode, hchar]
    rfl
  · next hthree =>
    have hhead : v / 262144 % 8 = v / 262144 := by omega
    have hcode : ((v / 262144 * 64 + v / 4096 % 64) * 64 + v / 64 % 64) * 64 + v % 64 = v := by
      omega
    have hlead := leadByte_four (v / 262144) (by omega)
    have hlow : (if v / 262144 = 0 then (0x90 : UInt8) else 0x80).toNat ≤
        v / 4096 % 64 + 128 := by
      split
      · exact Nat.le_trans (by decide : UInt8.toNat 0x90 ≤ 144) (by omega)
      · exact hleast _
    have hhigh : v / 4096 % 64 + 128 ≤
        (if v / 262144 = 4 then (0x8F : UInt8) else 0xBF).toNat := by
      split
      · exact Nat.le_trans (by omega) (by decide : 143 ≤ UInt8.toNat 0x8F)
      · exact hgreatest _
    simp only [hhead, List.cons_append, List.nil_append]
    rw [decodeFrom_lead hlead, decodeFrom_next (hsix (v / 4096)) hlow hhigh,
      decodeFrom_next (hsix (v / 64)) (hleast _) (hgreatest _),
      decodeFrom_last (hsix v) (hleast v) (hgreatest v), hcode, hchar]
    rfl

-- The UTF-8 encoding of characters one after the other.
def encodeChars (chars : List Char) : Bytes := chars.flatMap String.utf8EncodeChar

theorem encodeChars_append (xs ys : List Char) :
    encodeChars (xs ++ ys) = encodeChars xs ++ encodeChars ys := List.flatMap_append

theorem encode_ofList (chars : List Char) : encode (String.ofList chars) = encodeChars chars := by
  rw [encode, String.toList_ofList]
  rfl

theorem decodeFrom_encodeChars (chars : List Char) :
    decodeFrom none (encodeChars chars) = chars := by
  induction chars with
  | nil => rfl
  | cons c chars ih =>
      have hfirst := decodeFrom_utf8EncodeChar c (encodeChars chars)
      rw [ih] at hfirst
      exact hfirst

theorem decode_encodeChars (chars : List Char) :
    decode (encodeChars chars) = String.ofList chars := by
  rw [decode, decodeFrom_encodeChars]

theorem decode_encode (text : String) : decode (encode text) = text := by
  have hdecode := decode_encodeChars text.toList
  rw [String.ofList_toList] at hdecode
  exact hdecode

-- Of the bytes of a character all but the first one continue it, so that counting the other bytes
-- counts characters.

theorem columns_append (xs ys : Bytes) : columns (xs ++ ys) = columns xs + columns ys :=
  List.countP_append

private theorem isContinuation_tail : ∀ k < 64,
    isContinuation (UInt8.ofNat (k + 128)) = true := by decide

private theorem not_isContinuation_ascii : ∀ k < 128,
    isContinuation (UInt8.ofNat k) = false := by decide

private theorem not_isContinuation_two : ∀ k < 32,
    isContinuation (UInt8.ofNat (k + 192)) = false := by decide

private theorem not_isContinuation_three : ∀ k < 16,
    isContinuation (UInt8.ofNat (k + 224)) = false := by decide

private theorem not_isContinuation_four : ∀ k < 8,
    isContinuation (UInt8.ofNat (k + 240)) = false := by decide

theorem columns_utf8EncodeChar (c : Char) : columns (String.utf8EncodeChar c) = 1 := by
  have htail (n : Nat) : isContinuation (UInt8.ofNat (n % 64 + 128)) = true :=
    isContinuation_tail _ (Nat.mod_lt n (by decide))
  unfold String.utf8EncodeChar
  generalize c.val.toNat = v
  simp only
  split
  · next hone =>
    simp [columns, not_isContinuation_ascii v (by omega)]
  split
  · have hlead := not_isContinuation_two (v / 64 % 32) (by omega)
    simp [columns, htail, hlead, -UInt8.ofNat_add]
  split
  · have hlead := not_isContinuation_three (v / 4096 % 16) (by omega)
    simp [columns, htail, hlead, -UInt8.ofNat_add]
  · have hlead := not_isContinuation_four (v / 262144 % 8) (by omega)
    simp [columns, htail, hlead, -UInt8.ofNat_add]

theorem encodedLength_append (xs ys : List Char) :
    encodedLength (xs ++ ys) = encodedLength xs + encodedLength ys := by
  simp [encodedLength]

theorem length_encodeChars (chars : List Char) :
    (encodeChars chars).length = encodedLength chars := by
  simp only [encodeChars, encodedLength, List.length_flatMap, String.length_utf8EncodeChar]

-- Characters of seven bits are their own bytes.
theorem length_encodeChars_ascii {chars : List Char} (h : ∀ c ∈ chars, c.toNat < 128) :
    (encodeChars chars).length = chars.length := by
  induction chars with
  | nil => rfl
  | cons c chars ih =>
      have hc : c.val ≤ 127 := Nat.le_of_lt_succ (h c List.mem_cons_self)
      have hsize : (String.utf8EncodeChar c).length = 1 := by
        rw [String.length_utf8EncodeChar, Char.utf8Size_eq_one_iff.mpr hc]
      have hrest := ih fun other hother => h other (List.mem_cons_of_mem _ hother)
      have happend : (encodeChars (c :: chars)).length
          = (String.utf8EncodeChar c).length + (encodeChars chars).length := List.length_append
      rw [happend, hsize, hrest, List.length_cons, Nat.add_comm]

end EventText.Text
