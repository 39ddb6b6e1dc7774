import EventText.Expr.Operators
import EventText.Proofs.Number.Nearest

namespace EventText

-- The order of integers in expressions.

theorem int64OfInt?_eq_some_iff {n : Int} {k : Int64} : int64OfInt? n = some k ↔ k.toInt = n := by
  unfold int64OfInt?
  rw [Int64.toInt_minValue, Int64.toInt_maxValue]
  have hlow := k.le_toInt
  have hhigh := k.toInt_lt
  split
  · next h =>
    have hvalue : (Int64.ofInt n).toInt = n := Int64.toInt_ofInt_of_le h.1 (by omega)
    rw [Option.some.injEq]
    constructor
    · rintro rfl
      exact hvalue
    · rintro rfl
      exact Int64.ofInt_toInt k
  · constructor
    · nofun
    · rintro rfl
      omega

theorem int64OfInt?_eq_none_iff {n : Int} :
    int64OfInt? n = none ↔ n < -2 ^ 63 ∨ 2 ^ 63 ≤ n := by
  unfold int64OfInt?
  rw [Int64.toInt_minValue, Int64.toInt_maxValue]
  split
  · simp
    omega
  · simp
    omega

-- The integer that a scalar is, whether it has a sign or not.
def Scalar.integer? : Scalar → Option Int
  | .int n => some n.toInt
  | .uint n => some n.toNat
  | _ => none

-- Two integers of which one is beyond 64 signed bits are ordered as the doubles nearest to them,
-- and there they may be one and the same.
def Blurred (x y : Int) : Prop :=
  (2 ^ 63 ≤ x ∨ 2 ^ 63 ≤ y) ∧ Double.nearest x = Double.nearest y
deriving Decidable

theorem compare_nearest (x y : Int) :
    compare (Double.nearest x) (Double.nearest y)
      = if Double.nearest x = Double.nearest y then .eq else compare x y := by
  split
  · next h => rw [h, compare_eq_iff_eq]
  · next h =>
    rcases Int.lt_trichotomy x y with hlt | rfl | hgt
    · have hle := Double.nearest_mono hlt.le
      rw [compare_lt_iff_lt.mpr hlt, compare_lt_iff_lt]
      omega
    · exact absurd rfl h
    · have hle := Double.nearest_mono hgt.le
      rw [compare_gt_iff_gt.mpr hgt, compare_gt_iff_gt]
      omega

namespace Quantity

-- An integer as arithmetic takes it, exactly if it has 64 signed bits and as a double if not.
theorem ofScalar?_integer {s : Scalar} {x : Int} (h : s.integer? = some x) :
    ∃ q, ofScalar? s = some q ∧ Double.IsWhole q.toFloat (Double.nearest x) ∧
      ((∃ n : Int64, q = .int n ∧ n.toInt = x) ∨ (∃ f, q = .float f) ∧ 2 ^ 63 ≤ x) := by
  cases s with
  | int n =>
      obtain rfl := Option.some.inj h
      exact ⟨_, rfl, Double.isWhole_floatOfInt64 n, .inl ⟨n, rfl, rfl⟩⟩
  | uint n =>
      obtain rfl := Option.some.inj h
      cases hk : int64OfInt? n.toNat with
      | some k =>
          have hvalue := int64OfInt?_eq_some_iff.mp hk
          refine ⟨.int k, by simp only [ofScalar?, hk], ?_, .inl ⟨k, rfl, hvalue⟩⟩
          rw [← hvalue]
          exact Double.isWhole_floatOfInt64 k
      | none =>
          have hlarge := int64OfInt?_eq_none_iff.mp hk
          refine ⟨.float n.toFloat, by simp only [ofScalar?, hk], ?_, .inr ⟨⟨_, rfl⟩, by omega⟩⟩
          rw [Double.nearest_natCast]
          exact Double.isWhole_toFloat n
  | _ => cases h

theorem compare?_of_isWhole {q r : Quantity} {x y : Int} (hq : Double.IsWhole q.toFloat x)
    (hr : Double.IsWhole r.toFloat y) (hfloat : (∃ f, q = .float f) ∨ ∃ f, r = .float f) :
    compare? q r = some (compare x y) := by
  have hdoubles : compare? q r = if q.toFloat < r.toFloat then some .lt
      else if q.toFloat == r.toFloat then some .eq
      else if r.toFloat < q.toFloat then some .gt else none := by
    obtain ⟨f, rfl⟩ | ⟨f, rfl⟩ := hfloat
    · rfl
    · cases q <;> rfl
  rw [hdoubles]
  simp only [hq.lt_iff hr, hq.beq_eq hr, hr.lt_iff hq, decide_eq_true_eq, Int.compare_eq_ite_lt]
  split <;> (try split) <;> (try split) <;> first | rfl | omega

end Quantity

namespace Outcome

variable {s t : Scalar} {x y : Int}

theorem compare?_integer (hs : s.integer? = some x) (ht : t.integer? = some y) :
    compare? (.value (.scalar s)) (.value (.scalar t))
      = some (if Blurred x y then .eq else Ord.compare x y) := by
  obtain ⟨q, hq, hqwhole, hqkind⟩ := Quantity.ofScalar?_integer hs
  obtain ⟨r, hr, hrwhole, hrkind⟩ := Quantity.ofScalar?_integer ht
  have hcompare : compare? (.value (.scalar s)) (.value (.scalar t)) = Quantity.compare? q r := by
    cases s with
    | int n => simp only [compare?, scalar?, hq, hr]
    | uint n => simp only [compare?, scalar?, hq, hr]
    | _ => cases hs
  rw [hcompare]
  by_cases hlarge : 2 ^ 63 ≤ x ∨ 2 ^ 63 ≤ y
  · have hfloat : (∃ f, q = .float f) ∨ ∃ f, r = .float f := by
      obtain ⟨n, -, rfl⟩ | ⟨hf, -⟩ := hqkind
      · obtain ⟨m, -, rfl⟩ | ⟨hf, -⟩ := hrkind
        · have hn := n.toInt_lt
          have hm := m.toInt_lt
          omega
        · exact .inr hf
      · exact .inl hf
    rw [Quantity.compare?_of_isWhole hqwhole hrwhole hfloat, compare_nearest]
    simp only [Blurred, hlarge, true_and]
  · obtain ⟨n, rfl, rfl⟩ | ⟨-, hx⟩ := hqkind
    · obtain ⟨m, rfl, rfl⟩ | ⟨-, hy⟩ := hrkind
      · rw [if_neg fun h => hlarge h.1]
        rfl
      · exact absurd (.inr hy) hlarge
    · exact absurd (.inl hx) hlarge

theorem equal_integer (ignoreCase : Bool) (hs : s.integer? = some x) (ht : t.integer? = some y) :
    Outcome.equal ignoreCase (.value (.scalar s)) (.value (.scalar t)) = bool (decide (x = y)) := by
  have hscalars : s.equal ignoreCase t = decide (x = y) := by
    cases s with
    | int m =>
        obtain rfl := Option.some.inj hs
        cases t with
        | int n =>
            obtain rfl := Option.some.inj ht
            rw [Scalar.equal, Bool.eq_iff_iff, beq_iff_eq, decide_eq_true_iff, Int64.toInt_inj]
        | uint n =>
            obtain rfl := Option.some.inj ht
            rfl
        | _ => cases ht
    | uint m =>
        obtain rfl := Option.some.inj hs
        cases t with
        | int n =>
            obtain rfl := Option.some.inj ht
            rw [Scalar.equal, Bool.eq_iff_iff, beq_iff_eq, decide_eq_true_iff, eq_comm]
        | uint n =>
            obtain rfl := Option.some.inj ht
            rw [Scalar.equal, Bool.eq_iff_iff, beq_iff_eq, decide_eq_true_iff, Int.natCast_inj,
              UInt64.toNat_inj]
        | _ => cases ht
    | _ => cases hs
  simp only [equal, Value.equal, hscalars]

theorem compare_integer (test : Ordering → Bool) (hs : s.integer? = some x)
    (ht : t.integer? = some y) :
    compare test (.value (.scalar s)) (.value (.scalar t))
      = bool (test (if Blurred x y then .eq else Ord.compare x y)) := by
  rw [compare, compare?_integer hs ht]
  rfl

-- The operators see two outcomes as the integers `x` and `y`.
structure OrderedAs (ignoreCase : Bool) (a b : Outcome) (x y : Int) : Prop where
  less : BinaryOp.less.apply ignoreCase a b = bool (decide (x < y))
  equal : BinaryOp.equal.apply ignoreCase a b = bool (decide (x = y))
  greater : BinaryOp.greater.apply ignoreCase a b = bool (decide (y < x))
  lessOrEqual : BinaryOp.lessOrEqual.apply ignoreCase a b = bool (decide (x < y ∨ x = y))
  greaterOrEqual :
    BinaryOp.greaterOrEqual.apply ignoreCase a b = BinaryOp.lessOrEqual.apply ignoreCase b a

-- Integers are ordered by their values, except that two different ones of which one is beyond 64
-- signed bits count as neither less nor greater if the same double is nearest to both.
theorem orderedAs_iff_of_integer (ignoreCase : Bool) (hs : s.integer? = some x)
    (ht : t.integer? = some y) :
    OrderedAs ignoreCase (.value (.scalar s)) (.value (.scalar t)) x y
      ↔ (Blurred x y → x = y) := by
  constructor
  · rintro ⟨hless, -, hgreater, -, -⟩ hblurred
    simp only [BinaryOp.apply, compare_integer _ hs ht, if_pos hblurred, bool_inj]
      at hless hgreater
    have hnotless : ¬ x < y := of_decide_eq_false hless.symm
    have hnotgreater : ¬ y < x := of_decide_eq_false hgreater.symm
    omega
  · intro h
    have hforth (test : Ordering → Bool) : compare test (.value (.scalar s)) (.value (.scalar t))
        = bool (test (Ord.compare x y)) := by
      rw [compare_integer test hs ht]
      split
      · next hblurred => rw [h hblurred, compare_eq_iff_eq.mpr rfl]
      · rfl
    have hback (test : Ordering → Bool) : compare test (.value (.scalar t)) (.value (.scalar s))
        = bool (test (Ord.compare y x)) := by
      rw [compare_integer test ht hs]
      split
      · next hblurred =>
          rw [h ⟨hblurred.1.symm, hblurred.2.symm⟩, compare_eq_iff_eq.mpr rfl]
      · rfl
    refine ⟨?_, equal_integer ignoreCase hs ht, ?_, ?_, ?_⟩
    · refine (hforth _).trans (bool_inj.mpr (Bool.eq_iff_iff.mpr ?_))
      rw [Ordering.isLT_iff_eq_lt, Int.compare_eq_lt, decide_eq_true_iff]
    · refine (hforth _).trans (bool_inj.mpr (Bool.eq_iff_iff.mpr ?_))
      rw [Ordering.isGT_iff_eq_gt, Int.compare_eq_gt, decide_eq_true_iff]
    · refine (hforth _).trans (bool_inj.mpr (Bool.eq_iff_iff.mpr ?_))
      rw [Int.isLE_compare, decide_eq_true_iff, Int.le_iff_lt_or_eq]
    · refine (hforth _).trans (Eq.trans (bool_inj.mpr (Bool.eq_iff_iff.mpr ?_)) (hback _).symm)
      rw [Int.isGE_compare, Int.isLE_compare]

-- 2⁶³ + 2¹¹, the double after 2⁶³, and the greatest signed integer
theorem orderedAs_next_double :
    let s : Scalar := .uint 9223372036854777856
    let t : Scalar := .int 9223372036854775807
    (s.integer? = some 9223372036854777856 ∧ t.integer? = some 9223372036854775807) ∧
      OrderedAs false (.value (.scalar s)) (.value (.scalar t)) 9223372036854777856
        9223372036854775807 :=
  ⟨⟨rfl, rfl⟩, (orderedAs_iff_of_integer false rfl rfl).mpr (by decide +kernel)⟩

-- 2⁶³ is the double nearest to the integer after it as well.
theorem integers_unordered :
    let a : Outcome := .value (.scalar (.uint 9223372036854775808))
    let b : Outcome := .value (.scalar (.uint 9223372036854775809))
    BinaryOp.less.apply false a b = bool false ∧ BinaryOp.equal.apply false a b = bool false ∧
      BinaryOp.greater.apply false a b = bool false ∧
      BinaryOp.lessOrEqual.apply false a b = bool true ∧
      BinaryOp.greaterOrEqual.apply false a b = bool true := by
  intro a b
  have hcompare (test : Ordering → Bool) : compare test a b = bool (test .eq) :=
    (compare_integer test rfl rfl).trans (by rw [if_pos (by decide +kernel)])
  have hequal : Outcome.equal false a b = bool false :=
    (equal_integer (x := 9223372036854775808) (y := 9223372036854775809) false rfl rfl).trans
      (bool_inj.mpr (by decide))
  exact ⟨hcompare _, hequal, hcompare _, hcompare _, hcompare _⟩

end Outcome

end EventText
