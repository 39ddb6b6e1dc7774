import EventText.Proofs.Expr.Nulls

namespace EventText

namespace Value

theorem eq_null_of_isNull {v : Value} (h : v.isNull = true) : v = .null := by
  unfold isNull at h
  split at h
  · rfl
  · cases h

theorem equal_null {v : Value} (h : v.isNull = false) (ignoreCase : Bool) :
    v.equal ignoreCase .null = false := by
  cases v with
  | scalar s => cases s <;> simp_all [isNull, null, equal, Scalar.equal]
  | sequence items => simp [null, equal]
  | record members tag => simp [null, equal]
  | dictionary entries => simp [null, equal]

end Value

namespace Outcome

theorem ofValue_of_not_isNull {v : Value} (h : v.isNull = false) : ofValue v = .value v := by
  unfold ofValue
  split
  · cases h
  · rfl

theorem ofValue_ne_undefined (v : Value) : ofValue v ≠ .undefined := by
  unfold ofValue
  split <;> simp

-- Where both sides are defined, a comparison is true or false.
theorem equal_of_defined {a b : Outcome} (ha : a ≠ .undefined) (hb : b ≠ .undefined)
    (ignoreCase : Bool) : a.equal ignoreCase b = .bool (a.equal ignoreCase b).isTrue := by
  cases a with
  | undefined => exact absurd rfl ha
  | null => cases b <;> first | exact absurd rfl hb | rfl
  | value v =>
    cases b with
    | undefined => exact absurd rfl hb
    | null => rfl
    | value w => rw [equal, isTrue_bool]

theorem isTrue_notEqual {a b : Outcome} (ha : a ≠ .undefined) (hb : b ≠ .undefined)
    (ignoreCase : Bool) :
    (BinaryOp.notEqual.apply ignoreCase a b).isTrue = !(a.equal ignoreCase b).isTrue := by
  rw [BinaryOp.apply, equal_of_defined ha hb, isTrue_bool]
  exact isTrue_bool _

-- A null that is looked for equals the nulls among the items, a value equals no null.
theorem isIn_sequence {o : Outcome} (hdefined : o ≠ .undefined) (hnormal : o.Normal)
    (ignoreCase : Bool) (items : List Value) :
    o.isIn ignoreCase (.value (.sequence items))
      = .bool (items.any fun item => (o.equal ignoreCase (ofValue item)).isTrue) := by
  cases o with
  | undefined => exact absurd rfl hdefined
  | null =>
    have hitem (item : Value) : item.isNull = (equal ignoreCase .null (ofValue item)).isTrue := by
      cases h : item.isNull with
      | true =>
        rw [Value.eq_null_of_isNull h]
        rfl
      | false =>
        rw [ofValue_of_not_isNull h]
        rfl
    simp only [isIn, ← hitem]
  | value v =>
    have hitem (item : Value) :
        v.equal ignoreCase item = (equal ignoreCase (.value v) (ofValue item)).isTrue := by
      cases h : item.isNull with
      | true =>
        rw [Value.eq_null_of_isNull h, Value.equal_null hnormal]
        rfl
      | false => rw [ofValue_of_not_isNull h, equal, isTrue_bool]
    simp only [isIn, ← hitem]

-- Some item is equal, or every item is different.

theorem over_any_equal {o : Outcome} (hdefined : o ≠ .undefined) (hnormal : o.Normal)
    (ignoreCase : Bool) (items : List Value) :
    Quantifier.any.over (.value (.sequence items)) (BinaryOp.equal.apply ignoreCase o)
      = BinaryOp.isIn.apply ignoreCase o (.value (.sequence items)) := by
  rw [BinaryOp.apply, isIn_sequence hdefined hnormal]
  rfl

theorem over_all_notEqual {o : Outcome} (hdefined : o ≠ .undefined) (hnormal : o.Normal)
    (ignoreCase : Bool) (items : List Value) :
    Quantifier.all.over (.value (.sequence items)) (BinaryOp.notEqual.apply ignoreCase o)
      = BinaryOp.notIn.apply ignoreCase o (.value (.sequence items)) := by
  have hitem (item : Value) : (BinaryOp.notEqual.apply ignoreCase o (ofValue item)).isTrue
      = !(o.equal ignoreCase (ofValue item)).isTrue :=
    isTrue_notEqual hdefined (ofValue_ne_undefined item) ignoreCase
  change bool (items.all fun item => (BinaryOp.notEqual.apply ignoreCase o (ofValue item)).isTrue)
    = (o.isIn ignoreCase (.value (.sequence items))).not
  rw [isIn_sequence hdefined hnormal]
  simp only [hitem, ← List.not_any_eq_all_not]
  rfl

end Outcome

namespace Expr

variable {within : Surroundings} {env : Environment}

-- A comparison with the elements of a collection is made for each of them.
theorem meaning_binary_wildcard {x xs : Expr} (hx : x.WildcardFree) (hxs : xs.WildcardFree)
    (op : BinaryOp) (q : Quantifier) (ignoreCase : Bool) (position : Nat) :
    (binary op x (.wildcard xs q) ignoreCase position).meaning within env
      = q.over (xs.meaning within env) (op.apply ignoreCase (x.meaning within env)) := by
  change x.pass within env (fun o => xs.pass within env fun collection =>
    q.over collection (op.apply ignoreCase o)) = _
  rw [pass_of_wildcardFree hx, pass_of_wildcardFree hxs]

end Expr

namespace Surroundings

variable {within : Surroundings} {next : Nat} {scope : Scope}

-- Without wildcards in its operands an operator gives what it makes of their values.
theorem Gives.binary {left right : Expr} {a b : Outcome} (ha : within.Gives next scope left a)
    (hb : within.Gives next scope right b) (hleft : left.WildcardFree)
    (hright : right.WildcardFree) (hleftBelow : left.SlotsBelow next)
    (hrightBelow : right.SlotsBelow next) (op : BinaryOp) (ignoreCase : Bool) (position : Nat) :
    within.Gives next scope (.binary op left right ignoreCase position)
      (op.apply ignoreCase a b) := by
  have hbelow : (Expr.binary op left right ignoreCase position).SlotsBelow next :=
    Expr.slotsBelow_of_children nofun
      (List.forall_mem_cons.mpr ⟨hleftBelow, List.forall_mem_singleton.mpr hrightBelow⟩)
  rw [ha.eq_meaning hleftBelow, hb.eq_meaning hrightBelow,
    ← Expr.meaning_binary (hleft.pull_eq_none 0) (hright.pull_eq_none 0) op ignoreCase position]
  exact gives_of_children rfl hbelow
    (List.forall_mem_cons.mpr ⟨⟨a, ha⟩, List.forall_mem_singleton.mpr ⟨b, hb⟩⟩)

-- With a wildcard behind its right operand it is asked for each element of it.
theorem Gives.binary_wildcard {left right : Expr} {a b : Outcome}
    (ha : within.Gives next scope left a) (hb : within.Gives next scope right b)
    (hleft : left.WildcardFree) (hright : right.WildcardFree) (hleftBelow : left.SlotsBelow next)
    (hrightBelow : right.SlotsBelow next) (op : BinaryOp) (q : Quantifier) (ignoreCase : Bool)
    (position : Nat) :
    within.Gives next scope (.binary op left (.wildcard right q) ignoreCase position)
      (q.over b (op.apply ignoreCase a)) := by
  have hrangeBelow : (Expr.wildcard right q).SlotsBelow next :=
    Expr.slotsBelow_of_children nofun (List.forall_mem_singleton.mpr hrightBelow)
  have hbelow : (Expr.binary op left (.wildcard right q) ignoreCase position).SlotsBelow next :=
    Expr.slotsBelow_of_children nofun
      (List.forall_mem_cons.mpr ⟨hleftBelow, List.forall_mem_singleton.mpr hrangeBelow⟩)
  have hrange := gives_of_children rfl hrangeBelow (List.forall_mem_singleton.mpr ⟨b, hb⟩)
  rw [ha.eq_meaning hleftBelow, hb.eq_meaning hrightBelow,
    ← Expr.meaning_binary_wildcard hleft hright op q ignoreCase position]
  exact gives_of_children rfl hbelow
    (List.forall_mem_cons.mpr ⟨⟨a, ha⟩, List.forall_mem_singleton.mpr ⟨_, hrange⟩⟩)

-- To be in a sequence is to be equal to some of its items, not to be in it is to be different from
-- all of them. The bindings and the caller's functions may hold no null as a value: such a null
-- would be in a sequence with a null, and equal to none of its items.
theorem gives_membership (hresolver : within.resolver.Normal) (hscope : scope.Normal)
    {x xs : Expr} (hx : x.WildcardFree) (hxs : xs.WildcardFree) (hxbelow : x.SlotsBelow next)
    (hxsbelow : xs.SlotsBelow next) {o : Outcome} (hvalue : within.Gives next scope x o)
    (hdefined : o ≠ .undefined) {items : List Value}
    (hitems : within.Gives next scope xs (.value (.sequence items)))
    (ignoreCase : Bool) (position : Nat) :
    ∃ found,
      within.Gives next scope (.binary .isIn x xs ignoreCase position) (.bool found) ∧
      within.Gives next scope (.binary .equal x (.wildcard xs .any) ignoreCase position)
        (.bool found) ∧
      within.Gives next scope (.binary .notIn x xs ignoreCase position) (.bool !found) ∧
      within.Gives next scope (.binary .notEqual x (.wildcard xs .all) ignoreCase position)
        (.bool !found) ∧
      (found = true ↔ ∃ item ∈ items, o.equal ignoreCase (.ofValue item) = .bool true) := by
  have hnormal := hvalue.normal hresolver hscope
  have hany := Outcome.over_any_equal hdefined hnormal ignoreCase items
  have hall := Outcome.over_all_notEqual hdefined hnormal ignoreCase items
  have hin : BinaryOp.isIn.apply ignoreCase o (.value (.sequence items))
      = .bool (items.any fun item => (o.equal ignoreCase (.ofValue item)).isTrue) :=
    Outcome.isIn_sequence hdefined hnormal ignoreCase items
  have hnotIn : BinaryOp.notIn.apply ignoreCase o (.value (.sequence items))
      = .bool !(items.any fun item => (o.equal ignoreCase (.ofValue item)).isTrue) :=
    congrArg Outcome.not hin
  have hplain (op : BinaryOp) :=
    hvalue.binary hitems hx hxs hxbelow hxsbelow op ignoreCase position
  have hranged (op : BinaryOp) (q : Quantifier) :=
    hvalue.binary_wildcard hitems hx hxs hxbelow hxsbelow op q ignoreCase position
  refine ⟨_, hin ▸ hplain .isIn, (hany.trans hin) ▸ hranged .equal .any, hnotIn ▸ hplain .notIn,
    (hall.trans hnotIn) ▸ hranged .notEqual .all, ?_⟩
  have hequal (item : Value) : (o.equal ignoreCase (.ofValue item)).isTrue = true
      ↔ o.equal ignoreCase (.ofValue item) = .bool true := by
    rw [Outcome.equal_of_defined hdefined (Outcome.ofValue_ne_undefined item),
      Outcome.isTrue_bool, Outcome.bool_inj]
  simp only [List.any_eq_true, hequal]

-- `null in Xs` and `null <> Xs[*]` with a null among the `Xs`

private def mixedItems : List Value := [.sequence [.null], .scalar (.int 1), .null]

private def mixedScope : Scope :=
  .ofEvent { timestamp := midday, level := .information, messageTemplate := ""
             exception := none, properties := .ofList [("Xs", .sequence mixedItems)] } midday

theorem gives_membership_null :
    (Surroundings.mk Resolver.empty []).Gives 0 mixedScope
      (.binary .isIn (.constant .null) (.property "Xs") false 0) (.bool true) ∧
    (Surroundings.mk Resolver.empty []).Gives 0 mixedScope
      (.binary .notEqual (.constant .null) (.wildcard (.property "Xs") .all) false 0)
      (.bool false) := by
  have hnull : (Surroundings.mk Resolver.empty []).Gives 0 mixedScope (.constant .null) .null :=
    ⟨.constant .null, 0, by rw [lower, Outcome.scalar, Outcome.ofValue], rfl⟩
  have hitems : (Surroundings.mk Resolver.empty []).Gives 0 mixedScope (.property "Xs")
      (.value (.sequence mixedItems)) :=
    ⟨.property "Xs", 0, by rw [lower], rfl⟩
  obtain ⟨found, hin, -, -, hdifferent, hfound⟩ := gives_membership Resolver.normal_empty
    (Scope.normal_ofEvent _ _) (Expr.wildcardFree_of_leaf (by simp) rfl)
    (Expr.wildcardFree_of_leaf (by simp) rfl) ((Expr.slotless_constant _).slotsBelow 0)
    ((Expr.slotless_property _).slotsBelow 0) hnull (by simp) hitems false 0
  obtain rfl : found = true := hfound.mpr ⟨.null, by simp [mixedItems], rfl⟩
  exact ⟨hin, hdifferent⟩

end Surroundings

end EventText
