import EventText.Proofs.Number.Nearest

namespace EventText.Double

-- What the bits of a double say of its sign, and what a double says of itself.

open Float.Model Float.Model.UnpackedFloat

theorem compare_self (f : UnpackedFloat) :
    f.compare f = if f.isNaN then none else some Ordering.eq := by
  cases f with
  | infinity s => cases s <;> rfl
  | notANumber => rfl
  | zero s => rfl
  | finite s m e h => cases s <;> simp [UnpackedFloat.compare, UnpackedFloat.isNaN]

theorem beq_self (x : Float) : (x == x) = !x.isNaN := by
  have hunfold : (x == x) = (x.toModel.unpack.compare x.toModel.unpack == some .eq) := rfl
  have hnan : x.isNaN = x.toModel.unpack.isNaN := rfl
  rw [hunfold, hnan, compare_self]
  cases x.toModel.unpack <;> rfl

theorem beq_of_isNaN (x : Float) {y : Float} (hy : y.isNaN = true) : (x == y) = false := by
  have hunfold : (x == y) = (x.toModel.unpack.compare y.toModel.unpack == some .eq) := rfl
  have hnan : y.toModel.unpack.isNaN = true := hy
  rw [hunfold]
  cases hunpack : y.toModel.unpack with
  | notANumber => cases x.toModel.unpack <;> rfl
  | _ => simp [hunpack, UnpackedFloat.isNaN] at hnan

theorem isNaN_of_isFinite {x : Float} (h : x.isFinite = true) : x.isNaN = false := by
  have hfinite : x.toModel.unpack.isFinite = true := h
  have hnan : x.isNaN = x.toModel.unpack.isNaN := rfl
  rw [hnan]
  cases hunpack : x.toModel.unpack with
  | notANumber => simp [hunpack, UnpackedFloat.isFinite] at hfinite
  | _ => rfl

theorem hasSignBit_iff (x : Float) : hasSignBit x = true ↔
    Sign.ofBitVec (@unpackSign Format.binary64 x.toBits.toBitVec) = .negative := by
  have hlt : x.toBits.toNat < 2 ^ 64 := x.toBits.toNat_lt
  have hsign : (@unpackSign Format.binary64 x.toBits.toBitVec).toNat
      = x.toBits.toNat / 2 ^ 63 := by
    simp [unpackSign, BitVec.extractLsb, Nat.shiftRight_eq_div_pow]
    omega
  rw [hasSignBit, beq_iff_eq, ← hsign, Sign.ofBitVec]
  split
  · next h =>
      rw [h]
      simp
  · next h =>
      have hone : (@unpackSign Format.binary64 x.toBits.toBitVec).toNat = 1 := by
        have := (@unpackSign Format.binary64 x.toBits.toBitVec).isLt
        have hne : (@unpackSign Format.binary64 x.toBits.toBitVec).toNat ≠ 0 :=
          fun hzero => h (BitVec.eq_of_toNat_eq hzero)
        omega
      exact iff_of_true hone rfl

-- The sign of a double that is a number.
def sign? : UnpackedFloat → Option Sign
  | .notANumber => none
  | .infinity sign => some sign
  | .zero sign => some sign
  | .finite sign _ _ _ => some sign

theorem sign?_unpack {bits : BitVec 64}
    (h : (UnpackedFloat.unpack Format.binary64 bits).isNaN = false) :
    sign? (UnpackedFloat.unpack Format.binary64 bits)
      = some (Sign.ofBitVec (@unpackSign Format.binary64 bits)) := by
  unfold UnpackedFloat.unpack at h ⊢
  simp only at h ⊢
  split_ifs at h ⊢
  · rfl
  · cases h
  · rfl
  · rfl
  · rfl

theorem compare_zero_eq_lt_iff {f : UnpackedFloat} {sign : Sign} (h : sign? f = some sign) :
    f.compare (.zero .positive) = some .lt ↔
      sign = .negative ∧ f.compare (.zero .positive) ≠ some .eq := by
  cases f with
  | notANumber => cases h
  | infinity s =>
      obtain rfl := Option.some.inj h
      cases s
      · exact iff_of_true rfl ⟨rfl, nofun⟩
      · exact iff_of_false nofun nofun
  | zero s => exact iff_of_false nofun fun h => h.2 rfl
  | finite s m e hpos =>
      obtain rfl := Option.some.inj h
      cases s
      · exact iff_of_true rfl ⟨rfl, nofun⟩
      · exact iff_of_false nofun nofun

theorem lt_zero_iff {x : Float} (hx : x.isNaN = false) :
    x < 0 ↔ hasSignBit x = true ∧ (x != 0) = true := by
  have hlt : x < 0 ↔ (x.toModel.unpack.compare (.zero .positive) == some .lt) = true :=
    decide_eq_true_iff
  have hne : (x != 0) = !(x.toModel.unpack.compare (.zero .positive) == some .eq) := rfl
  have hsign : sign? x.toModel.unpack
      = some (Sign.ofBitVec (@unpackSign Format.binary64 x.toBits.toBitVec)) :=
    sign?_unpack hx
  rw [hlt, hne, hasSignBit_iff, beq_iff_eq, compare_zero_eq_lt_iff hsign, Bool.not_eq_true',
    beq_eq_false_iff_ne]

end EventText.Double
