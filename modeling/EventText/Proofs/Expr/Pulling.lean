import EventText.Proofs.Expr.Binding

namespace EventText

namespace Expr

-- The first wildcard that an expression ranges over as a whole, on its own path or on the path of
-- an operand.
def ranging (n : Nat) : Expr → Option (Pulled Expr)
  | .call name arguments ignoreCase position =>
      (pullFirst n arguments).map (·.map fun arguments => .call name arguments ignoreCase position)
  | .unary op operand => (pull n operand).map (·.map fun operand => .unary op operand)
  | .binary op left right ignoreCase position =>
      (pullEither n left right).map (·.map fun operands =>
        .binary op operands.1 operands.2 ignoreCase position)
  | e => pull n e

theorem size_ranging {n : Nat} {e : Expr} {p : Pulled Expr} (h : ranging n e = some p) :
    p.collection.size < e.size ∧ p.body.size < e.size := by
  cases e with
  | call name arguments ignoreCase position =>
      obtain ⟨inner, hinner, rfl⟩ := Option.map_eq_some_iff.mp h
      have := size_pullFirst hinner
      simp only [Pulled.map, size]
      omega
  | unary op operand =>
      obtain ⟨inner, hinner, rfl⟩ := Option.map_eq_some_iff.mp h
      have := size_pull hinner
      simp only [Pulled.map, size]
      omega
  | binary op left right ignoreCase position =>
      obtain ⟨inner, hinner, rfl⟩ := Option.map_eq_some_iff.mp h
      have := size_pullEither hinner
      simp only [Pulled.map, size]
      omega
  | _ => exact size_pull (n := n) h

theorem pullEither_eq_none {n : Nat} {left right : Expr} :
    pullEither n left right = none ↔ pull n left = none ∧ pull n right = none := by
  unfold pullEither
  cases pull n left <;> simp

-- A collection that is pulled out stands in the expression as it is.

theorem pull_collection_occurs {n : Nat} {e : Expr} {p : Pulled Expr} (h : pull n e = some p) :
    p.collection.Occurs e := by
  fun_induction pull n e generalizing p with
  | case1 target q inner hinner ih =>
      cases h
      have hdeep : inner.collection.Occurs target := ih hinner
      exact hdeep.trans (.inside List.mem_cons_self .here)
  | case2 target q hinner =>
      cases h
      exact .inside List.mem_cons_self .here
  | case3 target name ih =>
      obtain ⟨inner, hinner, rfl⟩ := Option.map_eq_some_iff.mp h
      have hdeep : inner.collection.Occurs target := ih hinner
      exact hdeep.trans (.inside List.mem_cons_self .here)
  | case4 target key ih =>
      obtain ⟨inner, hinner, rfl⟩ := Option.map_eq_some_iff.mp h
      have hdeep : inner.collection.Occurs target := ih hinner
      exact hdeep.trans (.inside List.mem_cons_self .here)
  | case5 => cases h

theorem pullFirst_collection_occurs {n : Nat} {es : List Expr} {p : Pulled (List Expr)}
    (h : pullFirst n es = some p) : ∃ e ∈ es, p.collection.Occurs e := by
  fun_induction pullFirst n es generalizing p with
  | case1 => cases h
  | case2 e rest inner hinner =>
      cases h
      exact ⟨e, List.mem_cons_self, pull_collection_occurs hinner⟩
  | case3 e rest hnone ih =>
      obtain ⟨inner, hinner, rfl⟩ := Option.map_eq_some_iff.mp h
      obtain ⟨other, hother, hoccurs⟩ := ih hinner
      exact ⟨other, List.mem_cons_of_mem _ hother, hoccurs⟩

theorem pullEither_collection_occurs {n : Nat} {left right : Expr} {p : Pulled (Expr × Expr)}
    (h : pullEither n left right = some p) :
    p.collection.Occurs left ∨ p.collection.Occurs right := by
  unfold pullEither at h
  split at h
  · rename_i inner hinner
    cases h
    exact .inl (pull_collection_occurs hinner)
  · obtain ⟨inner, hinner, rfl⟩ := Option.map_eq_some_iff.mp h
    exact .inr (pull_collection_occurs hinner)

theorem ranging_collection_occurs {n : Nat} {e : Expr} {p : Pulled Expr}
    (h : ranging n e = some p) : p.collection.Occurs e := by
  cases e with
  | call name arguments ignoreCase position =>
      obtain ⟨inner, hinner, rfl⟩ := Option.map_eq_some_iff.mp h
      obtain ⟨e, he, hoccurs⟩ := pullFirst_collection_occurs hinner
      exact .inside he hoccurs
  | unary op operand =>
      obtain ⟨inner, hinner, rfl⟩ := Option.map_eq_some_iff.mp h
      have hoccurs : inner.collection.Occurs operand := pull_collection_occurs hinner
      exact hoccurs.trans (.inside List.mem_cons_self .here)
  | binary op left right ignoreCase position =>
      obtain ⟨inner, hinner, rfl⟩ := Option.map_eq_some_iff.mp h
      have hoccurs : inner.collection.Occurs left ∨ inner.collection.Occurs right :=
        pullEither_collection_occurs hinner
      rcases hoccurs with hoccurs | hoccurs
      · exact hoccurs.trans (.inside List.mem_cons_self .here)
      · exact hoccurs.trans (.inside (List.mem_cons_of_mem _ List.mem_cons_self) .here)
  | _ => exact pull_collection_occurs (n := n) h

-- What is left of the expression has the slots that it had before, and the one of the element.

theorem slot_of_pull_body {n m : Nat} {e : Expr} {p : Pulled Expr} (h : pull n e = some p)
    (hm : (Expr.slot m).Occurs p.body) : m = n ∨ (Expr.slot m).Occurs e := by
  fun_induction pull n e generalizing p with
  | case1 target q inner hinner ih =>
      cases h
      have hbody : (Expr.slot m).Occurs inner.body := slot_of_only_child rfl hm
      exact (ih hinner hbody).imp_right (.inside List.mem_cons_self)
  | case2 target q hinner =>
      cases h
      rcases occurs_iff.mp hm with heq | ⟨c, hc, -⟩
      · exact .inl (Expr.slot.inj heq)
      · cases hc
  | case3 target name ih =>
      obtain ⟨inner, hinner, rfl⟩ := Option.map_eq_some_iff.mp h
      have hbody : (Expr.slot m).Occurs inner.body := slot_of_only_child rfl hm
      exact (ih hinner hbody).imp_right (.inside List.mem_cons_self)
  | case4 target key ih =>
      obtain ⟨inner, hinner, rfl⟩ := Option.map_eq_some_iff.mp h
      obtain ⟨c, hc, hdeep⟩ := hm.exists_child (by simp [Pulled.map])
      obtain rfl | rfl : c = inner.body ∨ c = key := by simpa [Pulled.map, children] using hc
      · exact (ih hinner hdeep).imp_right (.inside List.mem_cons_self)
      · exact .inr (.inside (List.mem_cons_of_mem _ List.mem_cons_self) hdeep)
  | case5 => cases h

theorem slot_of_pullFirst_body {n m : Nat} {es : List Expr} {p : Pulled (List Expr)}
    (h : pullFirst n es = some p) {body : Expr} (hbody : body ∈ p.body)
    (hm : (Expr.slot m).Occurs body) : m = n ∨ ∃ e ∈ es, (Expr.slot m).Occurs e := by
  fun_induction pullFirst n es generalizing p with
  | case1 => cases h
  | case2 e rest inner hinner =>
      cases h
      rcases List.mem_cons.mp hbody with rfl | hrest
      · exact (slot_of_pull_body hinner hm).imp_right fun hm => ⟨e, List.mem_cons_self, hm⟩
      · exact .inr ⟨body, List.mem_cons_of_mem _ hrest, hm⟩
  | case3 e rest hnone ih =>
      obtain ⟨inner, hinner, rfl⟩ := Option.map_eq_some_iff.mp h
      rcases List.mem_cons.mp hbody with rfl | hrest
      · exact .inr ⟨body, List.mem_cons_self, hm⟩
      · refine (ih hinner hrest).imp_right ?_
        rintro ⟨other, hother, hm⟩
        exact ⟨other, List.mem_cons_of_mem _ hother, hm⟩

theorem slot_of_pullEither_body {n m : Nat} {left right : Expr} {p : Pulled (Expr × Expr)}
    (h : pullEither n left right = some p)
    (hm : (Expr.slot m).Occurs p.body.1 ∨ (Expr.slot m).Occurs p.body.2) :
    m = n ∨ (Expr.slot m).Occurs left ∨ (Expr.slot m).Occurs right := by
  unfold pullEither at h
  split at h
  · rename_i inner hinner
    cases h
    rcases hm with hm | hm
    · exact (slot_of_pull_body hinner hm).imp_right .inl
    · exact .inr (.inr hm)
  · obtain ⟨inner, hinner, rfl⟩ := Option.map_eq_some_iff.mp h
    rcases hm with hm | hm
    · exact .inr (.inl hm)
    · exact (slot_of_pull_body hinner hm).imp_right .inr

theorem slot_of_ranging_body {n m : Nat} {e : Expr} {p : Pulled Expr} (h : ranging n e = some p)
    (hm : (Expr.slot m).Occurs p.body) : m = n ∨ (Expr.slot m).Occurs e := by
  cases e with
  | call name arguments ignoreCase position =>
      obtain ⟨inner, hinner, rfl⟩ := Option.map_eq_some_iff.mp h
      obtain ⟨body, hbody, hm⟩ := hm.exists_child (by simp [Pulled.map])
      refine (slot_of_pullFirst_body hinner hbody hm).imp_right ?_
      rintro ⟨e, he, hm⟩
      exact .inside he hm
  | unary op operand =>
      obtain ⟨inner, hinner, rfl⟩ := Option.map_eq_some_iff.mp h
      have hbody : (Expr.slot m).Occurs inner.body := slot_of_only_child rfl hm
      exact (slot_of_pull_body hinner hbody).imp_right (.inside List.mem_cons_self)
  | binary op left right ignoreCase position =>
      obtain ⟨inner, hinner, rfl⟩ := Option.map_eq_some_iff.mp h
      obtain ⟨c, hc, hdeep⟩ := hm.exists_child (by simp [Pulled.map])
      have hbody : (Expr.slot m).Occurs inner.body.1 ∨ (Expr.slot m).Occurs inner.body.2 := by
        obtain rfl | rfl : c = inner.body.1 ∨ c = inner.body.2 := by
          simpa [Pulled.map, children] using hc
        · exact .inl hdeep
        · exact .inr hdeep
      refine (slot_of_pullEither_body hinner hbody).imp_right ?_
      rintro (hm | hm)
      · exact .inside List.mem_cons_self hm
      · exact .inside (List.mem_cons_of_mem _ List.mem_cons_self) hm
  | _ => exact slot_of_pull_body (n := n) h hm

-- Both sides can be lowered behind the slot of the element.

theorem SlotsBelow.collection {n : Nat} {e : Expr} {p : Pulled Expr} (h : e.SlotsBelow n)
    (found : ranging n e = some p) : p.collection.SlotsBelow (n + 1) := fun m hm =>
  Nat.lt_succ_of_lt (h m (hm.trans (ranging_collection_occurs found)))

theorem SlotsBelow.body {n middle : Nat} {e : Expr} {p : Pulled Expr} (h : e.SlotsBelow n)
    (found : ranging n e = some p) (hle : n + 1 ≤ middle) : p.body.SlotsBelow middle := by
  intro m hm
  rcases slot_of_ranging_body found hm with rfl | hm
  · exact hle
  · have := h m hm
    omega

-- Reading an expression whose first wildcard is pulled out: what is left of it is read for every
-- element, which stands in a slot that is not used otherwise.

variable {within : Surroundings} {env : Environment}

private theorem represents_bindSlot {n : Nat} {e : Expr} (hfresh : ¬ (Expr.slot n).Occurs e)
    (o : Outcome) : (env.bindSlot n o).Represents env [] e where
  event := rfl
  clock := rfl
  plain := fun _ _ => rfl
  slot := by
    intro m hm
    have hne : m ≠ n := by
      rintro rfl
      exact hfresh hm
    simp [Environment.bindSlot, hne]

private theorem pass_bindSlot {n : Nat} {e : Expr} (hfresh : ¬ (Expr.slot n).Occurs e)
    (o : Outcome) : e.pass within (env.bindSlot n o) = e.pass within env :=
  funext fun operation => pass_congr (represents_bindSlot hfresh o) operation

private theorem meaning_bindSlot {n : Nat} {e : Expr} (hfresh : ¬ (Expr.slot n).Occurs e)
    (o : Outcome) : e.meaning within (env.bindSlot n o) = e.meaning within env :=
  meaning_congr (represents_bindSlot hfresh o)

private theorem passAll_bindSlot {n : Nat} {es : List Expr}
    (hfresh : ∀ e ∈ es, ¬ (Expr.slot n).Occurs e) (o : Outcome) :
    passAll within (env.bindSlot n o) es = passAll within env es := by
  induction es with
  | nil =>
      funext operation
      simp only [passAll]
  | cons e rest ih =>
      have hrest := ih fun other hother => hfresh other (List.mem_cons_of_mem _ hother)
      funext operation
      simp only [passAll, pass_bindSlot (hfresh e List.mem_cons_self), hrest]

theorem pass_pull {n : Nat} {e : Expr} {p : Pulled Expr} (h : pull n e = some p)
    (hfresh : ¬ (Expr.slot n).Occurs e) (operation : Outcome → Outcome) :
    e.pass within env operation = p.quantifier.over (p.collection.meaning within env)
      fun o => p.body.pass within (env.bindSlot n o) operation := by
  fun_induction pull n e generalizing p operation with
  | case1 target q inner hinner ih =>
      cases h
      have htarget : ¬ (Expr.slot n).Occurs target := fun hn =>
        hfresh (.inside List.mem_cons_self hn)
      rw [pass, ih hinner htarget]
      simp only [Pulled.map, pass]
  | case2 target q hinner =>
      cases h
      rw [pass, pass_of_pull_none hinner]
      simp only [pass, Environment.bindSlot, if_true]
  | case3 target name ih =>
      obtain ⟨inner, hinner, rfl⟩ := Option.map_eq_some_iff.mp h
      have htarget : ¬ (Expr.slot n).Occurs target := fun hn =>
        hfresh (.inside List.mem_cons_self hn)
      rw [pass, ih hinner htarget]
      simp only [Pulled.map, pass]
  | case4 target key ih =>
      obtain ⟨inner, hinner, rfl⟩ := Option.map_eq_some_iff.mp h
      have htarget : ¬ (Expr.slot n).Occurs target := fun hn =>
        hfresh (.inside List.mem_cons_self hn)
      have hkey : ¬ (Expr.slot n).Occurs key := fun hn =>
        hfresh (.inside (List.mem_cons_of_mem _ List.mem_cons_self) hn)
      rw [pass, ih hinner htarget]
      simp only [Pulled.map, pass, pass_bindSlot hkey]
  | case5 => cases h

theorem passAll_pullFirst {n : Nat} {es : List Expr} {p : Pulled (List Expr)}
    (h : pullFirst n es = some p) (hfresh : ∀ e ∈ es, ¬ (Expr.slot n).Occurs e)
    (operation : List Outcome → Outcome) :
    passAll within env es operation = p.quantifier.over (p.collection.meaning within env)
      fun o => passAll within (env.bindSlot n o) p.body operation := by
  fun_induction pullFirst n es generalizing p operation with
  | case1 => cases h
  | case2 e rest inner hinner =>
      cases h
      have hrest : ∀ e ∈ rest, ¬ (Expr.slot n).Occurs e := fun other hother =>
        hfresh other (List.mem_cons_of_mem _ hother)
      rw [passAll, pass_pull hinner (hfresh e List.mem_cons_self)]
      simp only [Pulled.map, passAll, passAll_bindSlot hrest]
  | case3 e rest hnone ih =>
      obtain ⟨inner, hinner, rfl⟩ := Option.map_eq_some_iff.mp h
      have hrest : ∀ e ∈ rest, ¬ (Expr.slot n).Occurs e := fun other hother =>
        hfresh other (List.mem_cons_of_mem _ hother)
      rw [passAll, pass_of_pull_none hnone, ih hinner hrest]
      simp only [Pulled.map, passAll, pass_of_pull_none hnone,
        meaning_bindSlot (hfresh e List.mem_cons_self)]

theorem pass_pullEither {n : Nat} {left right : Expr} {p : Pulled (Expr × Expr)}
    (h : pullEither n left right = some p) (hleft : ¬ (Expr.slot n).Occurs left)
    (hright : ¬ (Expr.slot n).Occurs right) (operation : Outcome → Outcome → Outcome) :
    (left.pass within env fun x => right.pass within env (operation x))
      = p.quantifier.over (p.collection.meaning within env) fun o =>
          p.body.1.pass within (env.bindSlot n o) fun x =>
            p.body.2.pass within (env.bindSlot n o) (operation x) := by
  unfold pullEither at h
  split at h
  · rename_i inner hinner
    cases h
    rw [pass_pull hinner hleft]
    simp only [Pulled.map, pass_bindSlot hright]
  · rename_i hnone
    obtain ⟨inner, hinner, rfl⟩ := Option.map_eq_some_iff.mp h
    rw [pass_of_pull_none hnone, pass_pull hinner hright]
    simp only [Pulled.map, pass_of_pull_none hnone, meaning_bindSlot hleft]

-- A call with arguments is no call of `rest()`.
theorem isRest_of_pullFirst_some {n : Nat} {es : List Expr} {p : Pulled (List Expr)}
    (h : pullFirst n es = some p) (name : String) (ignoreCase : Bool) :
    Surroundings.isRest name es ignoreCase = false
      ∧ Surroundings.isRest name p.body ignoreCase = false := by
  cases es with
  | nil => cases h
  | cons e rest =>
      refine ⟨rfl, ?_⟩
      unfold pullFirst at h
      split at h
      · cases h
        rfl
      · obtain ⟨inner, hinner, rfl⟩ := Option.map_eq_some_iff.mp h
        rfl

theorem meaning_ranging {n : Nat} {e : Expr} {p : Pulled Expr} (h : ranging n e = some p)
    (hfresh : ¬ (Expr.slot n).Occurs e) :
    e.meaning within env = p.quantifier.over (p.collection.meaning within env)
      fun o => p.body.meaning within (env.bindSlot n o) := by
  cases e with
  | call name arguments ignoreCase position =>
      obtain ⟨inner, hinner, rfl⟩ := Option.map_eq_some_iff.mp h
      have harguments : ∀ e ∈ arguments, ¬ (Expr.slot n).Occurs e := fun e he hn =>
        hfresh (.inside he hn)
      obtain ⟨hrest, hbody⟩ := isRest_of_pullFirst_some hinner name ignoreCase
      simp only [meaning, pass, Pulled.map, id_eq, hrest, hbody, Bool.false_eq_true, if_false,
        passAll_pullFirst hinner harguments]
      rfl
  | unary op operand =>
      obtain ⟨inner, hinner, rfl⟩ := Option.map_eq_some_iff.mp h
      have hoperand : ¬ (Expr.slot n).Occurs operand := fun hn =>
        hfresh (.inside List.mem_cons_self hn)
      simp only [meaning, pass, pass_pull hinner hoperand, Pulled.map, id_eq]
  | binary op left right ignoreCase position =>
      obtain ⟨inner, hinner, rfl⟩ := Option.map_eq_some_iff.mp h
      have hleft : ¬ (Expr.slot n).Occurs left := fun hn => hfresh (.inside List.mem_cons_self hn)
      have hright : ¬ (Expr.slot n).Occurs right := fun hn =>
        hfresh (.inside (List.mem_cons_of_mem _ List.mem_cons_self) hn)
      simp only [meaning, pass, Pulled.map, id_eq, pass_pullEither hinner hleft hright]
  | _ => exact pass_pull (n := n) h hfresh id

end Expr

end EventText
