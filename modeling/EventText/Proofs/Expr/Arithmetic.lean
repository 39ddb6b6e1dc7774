import EventText.Proofs.Expr.Integers

namespace EventText

-- The arithmetic of signed integers in expressions. It leaves the integers only where it has to,
-- but for one remainder.

namespace BinaryOp

-- The operators that have an exact result on integers whatever their size, up to divisibility.
def arithmetic : List BinaryOp := [.add, .subtract, .multiply, .divide, .modulo]

theorem mem_arithmetic {op : BinaryOp} : op ∈ arithmetic ↔
    op = .add ∨ op = .subtract ∨ op = .multiply ∨ op = .divide ∨ op = .modulo := by
  simp [arithmetic]

def DividesByZero (op : BinaryOp) (b : Int64) : Prop := (op = .divide ∨ op = .modulo) ∧ b = 0

-- The integer `n` is the result of the operator on `a` and `b`. Remainders are those of the
-- division that rounds towards zero.
def IsExact (op : BinaryOp) (a b n : Int) : Prop :=
  match op with
  | .add => n = a + b
  | .subtract => n = a - b
  | .multiply => n = a * b
  | .divide => n * b = a
  | .modulo => n = Int.tmod a b
  | _ => False

end BinaryOp

theorem isSome_int64OfInt? {n : Int} (hlow : -2 ^ 63 ≤ n) (hhigh : n < 2 ^ 63) :
    ∃ k, int64OfInt? n = some k := by
  cases h : int64OfInt? n with
  | some k => exact ⟨k, rfl⟩
  | none =>
      have := int64OfInt?_eq_none_iff.mp h
      omega

theorem int64OfInt?_tdiv {a b : Int64} (hb : b ≠ 0) (hleast : ¬(a = Int64.minValue ∧ b = -1)) :
    ∃ k, int64OfInt? (Int.tdiv a.toInt b.toInt) = some k := by
  have halow := a.le_toInt
  have hahigh := a.toInt_lt
  have hnonzero : b.toInt ≠ 0 := fun h => hb (Int64.toInt_inj.mp h)
  have hmagnitude : (Int.tdiv a.toInt b.toInt).natAbs = a.toInt.natAbs / b.toInt.natAbs :=
    Int.natAbs_tdiv a.toInt b.toInt
  by_cases hunit : b.toInt.natAbs = 1
  · obtain hone | hminus : b.toInt = 1 ∨ b.toInt = -1 := by omega
    · rw [hone, Int.tdiv_one]
      exact isSome_int64OfInt? halow hahigh
    · have hne : a.toInt ≠ -2 ^ 63 := fun h =>
        hleast ⟨Int64.toInt_inj.mp (h.trans Int64.toInt_minValue.symm), Int64.toInt_inj.mp hminus⟩
      rw [hminus, Int.tdiv_neg, Int.tdiv_one]
      exact isSome_int64OfInt? (by omega) (by omega)
  · have hhalf : a.toInt.natAbs / b.toInt.natAbs ≤ a.toInt.natAbs / 2 :=
      Nat.div_le_div_left (by omega) (by decide)
    exact isSome_int64OfInt? (by omega) (by omega)

namespace Quantity

theorem integerResult?_eq_some_iff {op : BinaryOp} (hop : op ∈ BinaryOp.arithmetic) {a b : Int64}
    (hb : ¬op.DividesByZero b) (hleast : ¬(op = .modulo ∧ a = Int64.minValue ∧ b = -1))
    {n : Int64} :
    integerResult? op a.toInt b.toInt = some n ↔ op.IsExact a.toInt b.toInt n.toInt := by
  have hnonzero (hdivides : op = .divide ∨ op = .modulo) : b.toInt ≠ 0 :=
    fun h => hb ⟨hdivides, Int64.toInt_inj.mp h⟩
  obtain rfl | rfl | rfl | rfl | rfl := BinaryOp.mem_arithmetic.mp hop
  · exact int64OfInt?_eq_some_iff
  · exact int64OfInt?_eq_some_iff
  · exact int64OfInt?_eq_some_iff
  · have hne := hnonzero (.inl rfl)
    simp only [integerResult?, BinaryOp.IsExact]
    split
    · next hdivides =>
        rw [int64OfInt?_eq_some_iff]
        have hcancel : Int.tdiv a.toInt b.toInt * b.toInt = a.toInt :=
          Int.tdiv_mul_cancel (Int.dvd_of_tmod_eq_zero hdivides)
        constructor
        · intro h
          rw [h, hcancel]
        · intro h
          exact Int.eq_of_mul_eq_mul_right hne (h.trans hcancel.symm)
    · next hrest =>
        refine iff_of_false nofun fun h => hrest ?_
        rw [← h, Int.mul_tmod_left]
  · obtain ⟨k, hk⟩ := int64OfInt?_tdiv (fun h => hb ⟨.inr rfl, h⟩) fun h => hleast ⟨rfl, h⟩
    simp only [integerResult?, BinaryOp.IsExact, hk, Option.bind_some, int64OfInt?_eq_some_iff]

theorem exists_floatResult? {op : BinaryOp} (hop : op ∈ BinaryOp.arithmetic) {a b : Int64}
    (hb : ¬op.DividesByZero b) :
    ∃ x, floatResult? op (floatOfInt64 a) (floatOfInt64 b) = some x := by
  have hnonzero (hdivides : op = .divide ∨ op = .modulo) : (floatOfInt64 b == 0) = false :=
    Double.floatOfInt64_beq_zero fun h => hb ⟨hdivides, h⟩
  obtain rfl | rfl | rfl | rfl | rfl := BinaryOp.mem_arithmetic.mp hop
  · exact ⟨_, rfl⟩
  · exact ⟨_, rfl⟩
  · exact ⟨_, rfl⟩
  · rw [floatResult?, hnonzero (.inl rfl)]
    exact ⟨_, rfl⟩
  · rw [floatResult?, hnonzero (.inr rfl)]
    exact ⟨_, rfl⟩

end Quantity

namespace Outcome

-- An outcome is the integer that is asked for if that integer has 64 bits, and a float if not.
def StaysExact (exact : Int → Prop) (o : Outcome) : Prop :=
  (∀ n : Int64, exact n.toInt → o = .int n) ∧
    ((∀ n : Int64, ¬exact n.toInt) → ∃ x, o = .float x)

theorem staysExact_of {exact : Int → Prop} {result : Option Int64} {x : Float} {o : Outcome}
    (ho : o = (match result with | some k => .int k | none => .float x))
    (hresult : ∀ n, result = some n ↔ exact n.toInt) : StaysExact exact o := by
  subst ho
  constructor
  · intro n hn
    rw [(hresult n).mpr hn]
  · intro hnone
    cases result with
    | some k => exact absurd ((hresult k).mp rfl) (hnone k)
    | none => exact ⟨x, rfl⟩

section

variable {op : BinaryOp} (ignoreCase : Bool) (a b : Int64)

theorem apply_int (hop : op ∈ BinaryOp.arithmetic) :
    op.apply ignoreCase (.int a) (.int b)
      = match Quantity.arithmetic? op (.int a) (.int b) with
        | some z => z.toOutcome
        | none => .undefined := by
  obtain rfl | rfl | rfl | rfl | rfl := BinaryOp.mem_arithmetic.mp hop <;> rfl

theorem apply_int_of_dividesByZero (hop : op ∈ BinaryOp.arithmetic) (hb : op.DividesByZero b) :
    op.apply ignoreCase (.int a) (.int b) = .undefined := by
  unfold BinaryOp.DividesByZero at hb
  rw [apply_int ignoreCase a b hop, Quantity.arithmetic?, if_pos hb]

theorem apply_int_of_not_dividesByZero (hop : op ∈ BinaryOp.arithmetic)
    (hb : ¬op.DividesByZero b) :
    ∃ x, op.apply ignoreCase (.int a) (.int b)
      = match Quantity.integerResult? op a.toInt b.toInt with
        | some k => .int k
        | none => .float x := by
  obtain ⟨x, hx⟩ := Quantity.exists_floatResult? hop hb (a := a)
  refine ⟨x, ?_⟩
  unfold BinaryOp.DividesByZero at hb
  rw [apply_int ignoreCase a b hop, Quantity.arithmetic?, if_neg hb]
  cases Quantity.integerResult? op a.toInt b.toInt with
  | some k => rfl
  | none => simp only [hx, Option.map_some, Quantity.toOutcome]

theorem negate_staysExact : StaysExact (· = -a.toInt) (UnaryOp.negate.apply (.int a)) := by
  refine staysExact_of (x := -floatOfInt64 a) ?_ fun n => int64OfInt?_eq_some_iff
  cases h : int64OfInt? (-a.toInt) <;>
    simp only [UnaryOp.apply, negate, Quantity.ofOutcome?, int, scalar?, Option.bind_some,
      Quantity.ofScalar?, Quantity.negate, h, Quantity.toOutcome]

theorem exists_float_of_least : ∃ x,
    BinaryOp.modulo.apply ignoreCase (.int Int64.minValue) (.int (-1)) = .float x := by
  have hmodulo : BinaryOp.modulo ∈ BinaryOp.arithmetic := by decide
  obtain ⟨x, hx⟩ := apply_int_of_not_dividesByZero ignoreCase Int64.minValue (-1) hmodulo
    fun h => absurd h.2 (by decide)
  have hnone : Quantity.integerResult? .modulo Int64.minValue.toInt (-1 : Int64).toInt = none := by
    decide
  rw [hnone] at hx
  exact ⟨x, hx⟩

theorem isExact_of_least :
    BinaryOp.modulo.IsExact Int64.minValue.toInt (-1 : Int64).toInt (0 : Int64).toInt := by
  unfold BinaryOp.IsExact
  decide

theorem not_staysExact_of_least :
    ¬StaysExact (BinaryOp.modulo.IsExact Int64.minValue.toInt (-1 : Int64).toInt)
      (BinaryOp.modulo.apply ignoreCase (.int Int64.minValue) (.int (-1))) := by
  rintro ⟨hint, -⟩
  obtain ⟨x, hx⟩ := exists_float_of_least ignoreCase
  have hzero := hint 0 isExact_of_least
  rw [hx] at hzero
  cases hzero

-- The results are integers wherever these are exact, and floats elsewhere, with one exception.
theorem arithmetic_int (hop : op ∈ BinaryOp.arithmetic) :
    (op.DividesByZero b → op.apply ignoreCase (.int a) (.int b) = .undefined) ∧
      (¬op.DividesByZero b →
        (StaysExact (op.IsExact a.toInt b.toInt) (op.apply ignoreCase (.int a) (.int b))
          ↔ ¬(op = .modulo ∧ a = Int64.minValue ∧ b = -1))) ∧
      StaysExact (· = -a.toInt) (UnaryOp.negate.apply (.int a)) := by
  refine ⟨apply_int_of_dividesByZero ignoreCase a b hop, ?_, negate_staysExact a⟩
  intro hb
  constructor
  · rintro hexact ⟨rfl, rfl, rfl⟩
    exact not_staysExact_of_least ignoreCase hexact
  · intro hleast
    obtain ⟨x, hx⟩ := apply_int_of_not_dividesByZero ignoreCase a b hop hb
    exact staysExact_of hx fun n => Quantity.integerResult?_eq_some_iff hop hb hleast

end

-- The quotient of the least integer by minus one has 65 bits.
theorem arithmetic_int_least :
    BinaryOp.divide ∈ BinaryOp.arithmetic ∧
      StaysExact (BinaryOp.divide.IsExact Int64.minValue.toInt (-1 : Int64).toInt)
        (BinaryOp.divide.apply false (.int Int64.minValue) (.int (-1))) :=
  ⟨by decide, ((arithmetic_int false Int64.minValue (-1) (by decide)).2.1
    fun h => absurd h.2 (by decide)).mpr fun h => absurd h.1 (by decide)⟩

-- The remainder is zero.
theorem modulo_inexact :
    BinaryOp.modulo.IsExact Int64.minValue.toInt (-1 : Int64).toInt (0 : Int64).toInt ∧
      BinaryOp.modulo.apply false (.int Int64.minValue) (.int (-1)) ≠ .int 0 ∧
      ∃ x, BinaryOp.modulo.apply false (.int Int64.minValue) (.int (-1)) = .float x := by
  obtain ⟨x, hx⟩ := exists_float_of_least false
  refine ⟨isExact_of_least, ?_, x, hx⟩
  rw [hx]
  nofun

end Outcome

end EventText
