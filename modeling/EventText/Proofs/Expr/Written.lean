import EventText.Expr.Reader
import EventText.Proofs.Expr.Parts
import EventText.Proofs.Failure

namespace EventText

namespace ExprReader

-- Whatever a reader reads has a property.
def Yields (P : α → Prop) (read : ExprReader α) : Prop :=
  ∀ s a s', read s = .ok (a, s') → P a

theorem yields_separated {item : ExprReader α} {P : α → Prop} (h : Yields P item) (budget : Nat) :
    Yields (fun items => ∀ a ∈ items, P a) (separated item budget) := by
  induction budget with
  | zero =>
      intro s items s' hread
      cases hread
      simp
  | succ budget ih =>
      intro s items s' hread
      obtain ⟨⟨first, next⟩, hfirst, hread⟩ := bind_eq_ok.mp hread
      have hitem := h _ _ _ hfirst
      dsimp only at hread
      split at hread
      · obtain ⟨after, -, hread⟩ := bind_eq_ok.mp hread
        obtain ⟨⟨rest, last⟩, hrest, hread⟩ := bind_eq_ok.mp hread
        cases hread
        exact List.forall_mem_cons.mpr ⟨hitem, ih _ _ _ hrest⟩
      · cases hread
        exact List.forall_mem_singleton.mpr hitem

theorem yields_listUntil {item : ExprReader α} {P : α → Prop} (h : Yields P item)
    (closing : Symbol) : Yields (fun items => ∀ a ∈ items, P a) (listUntil closing item) := by
  intro s items s' hread
  unfold listUntil at hread
  split at hread
  · obtain ⟨after, -, hread⟩ := bind_eq_ok.mp hread
    cases hread
    simp
  · obtain ⟨⟨found, next⟩, hfound, hread⟩ := bind_eq_ok.mp hread
    obtain ⟨after, -, hread⟩ := bind_eq_ok.mp hread
    cases hread
    exact yields_separated h _ _ _ _ hfound

section

variable {inner : ExprReader Expr} (h : Yields Expr.Slotless inner)

include h

theorem yields_element : Yields (fun e => e.content.Slotless) (element inner) := by
  intro s e s' hread
  unfold element at hread
  split at hread
  · obtain ⟨after, -, hread⟩ := bind_eq_ok.mp hread
    obtain ⟨⟨content, next⟩, hcontent, hread⟩ := bind_eq_ok.mp hread
    cases hread
    exact h _ _ _ hcontent
  · obtain ⟨⟨content, next⟩, hcontent, hread⟩ := bind_eq_ok.mp hread
    cases hread
    exact h _ _ _ hcontent

omit h in
theorem slotless_memberName {s : Lookahead} {name : String} {e : Expr}
    (hread : memberName s = .ok (name, some e)) : e.Slotless := by
  unfold memberName at hread
  split at hread
  · cases hread
    simp
  · obtain ⟨p, -, hread⟩ := bind_eq_ok.mp hread
    cases hread
    simp
  · cases hread
  · cases hread

theorem yields_member : Yields (fun m => m.content.Slotless) (member inner) := by
  intro s m s' hread
  unfold member at hread
  split at hread
  · obtain ⟨after, -, hread⟩ := bind_eq_ok.mp hread
    obtain ⟨⟨content, next⟩, hcontent, hread⟩ := bind_eq_ok.mp hread
    cases hread
    exact h _ _ _ hcontent
  · obtain ⟨next, -, hread⟩ := bind_eq_ok.mp hread
    obtain ⟨⟨name, shorthand⟩, hname, hread⟩ := bind_eq_ok.mp hread
    dsimp only at hread
    split at hread
    · obtain ⟨after, -, hread⟩ := bind_eq_ok.mp hread
      obtain ⟨⟨content, last⟩, hcontent, hread⟩ := bind_eq_ok.mp hread
      cases hread
      exact h _ _ _ hcontent
    · split at hread
      · cases hread
        exact slotless_memberName hname
      · cases hread

theorem yields_conditional : Yields Expr.Slotless (conditional inner) := by
  intro s e s' hread
  obtain ⟨⟨condition, _⟩, hcondition, hread⟩ := bind_eq_ok.mp hread
  obtain ⟨_, -, hread⟩ := bind_eq_ok.mp hread
  obtain ⟨⟨consequent, _⟩, hconsequent, hread⟩ := bind_eq_ok.mp hread
  obtain ⟨⟨hasAlternative, _⟩, -, hread⟩ := bind_eq_ok.mp hread
  have hconditionSlotless := h _ _ _ hcondition
  have hconsequentSlotless := h _ _ _ hconsequent
  dsimp only at hread
  split at hread
  · obtain ⟨⟨alternative, _⟩, halternative, hread⟩ := bind_eq_ok.mp hread
    cases hread
    have halternativeSlotless := h _ _ _ halternative
    exact Expr.slotless_of_children (by simp) (by simp [Expr.children, *])
  · cases hread
    exact Expr.slotless_of_children (by simp) (by simp [Expr.children, *])

theorem yields_nameOrCall (name : String) (position : Nat) :
    Yields Expr.Slotless (nameOrCall inner name position) := by
  intro s e s' hread
  unfold nameOrCall at hread
  split at hread
  · obtain ⟨_, -, hread⟩ := bind_eq_ok.mp hread
    obtain ⟨⟨arguments, _⟩, harguments, hread⟩ := bind_eq_ok.mp hread
    obtain ⟨⟨ignoreCase, _⟩, -, hread⟩ := bind_eq_ok.mp hread
    cases hread
    exact Expr.slotless_of_children (by simp) (yields_listUntil h _ _ _ _ harguments)
  · cases hread
    simp

theorem yields_primary : Yields Expr.Slotless (primary inner) := by
  intro s e s' hread
  unfold primary at hread
  split at hread
  · obtain ⟨_, -, hread⟩ := bind_eq_ok.mp hread
    cases hread
    simp
  · obtain ⟨_, -, hread⟩ := bind_eq_ok.mp hread
    cases hread
    simp
  · obtain ⟨_, -, hread⟩ := bind_eq_ok.mp hread
    cases hread
    simp
  · obtain ⟨_, -, hread⟩ := bind_eq_ok.mp hread
    obtain ⟨_, -, hread⟩ := bind_eq_ok.mp hread
    cases hread
    simp
  · obtain ⟨_, -, hread⟩ := bind_eq_ok.mp hread
    obtain ⟨⟨content, _⟩, hcontent, hread⟩ := bind_eq_ok.mp hread
    obtain ⟨_, -, hread⟩ := bind_eq_ok.mp hread
    cases hread
    exact h _ _ _ hcontent
  · obtain ⟨_, -, hread⟩ := bind_eq_ok.mp hread
    obtain ⟨⟨elements, _⟩, helements, hread⟩ := bind_eq_ok.mp hread
    cases hread
    have hcontents := yields_listUntil (yields_element h) _ _ _ _ helements
    exact Expr.slotless_of_children (by simp) (by simpa [Expr.children] using hcontents)
  · obtain ⟨_, -, hread⟩ := bind_eq_ok.mp hread
    obtain ⟨⟨members, _⟩, hmembers, hread⟩ := bind_eq_ok.mp hread
    cases hread
    have hcontents := yields_listUntil (yields_member h) _ _ _ _ hmembers
    exact Expr.slotless_of_children (by simp) (by simpa [Expr.children] using hcontents)
  · obtain ⟨next, -, hread⟩ := bind_eq_ok.mp hread
    split at hread
    · cases hread
      simp
    · split at hread
      · cases hread
        simp
      · split at hread
        · cases hread
          simp
        · split at hread
          · exact yields_conditional h _ _ _ hread
          · exact yields_nameOrCall h _ _ _ _ _ hread
  · cases hread

theorem yields_accessors (budget : Nat) {target : Expr} (htarget : target.Slotless) :
    Yields Expr.Slotless (accessors inner budget target) := by
  induction budget generalizing target with
  | zero =>
      intro s e s' hread
      cases hread
      exact htarget
  | succ budget ih =>
      intro s e s' hread
      unfold accessors at hread
      split at hread
      · obtain ⟨_, -, hread⟩ := bind_eq_ok.mp hread
        obtain ⟨⟨extended, _⟩, hextended, hread⟩ := bind_eq_ok.mp hread
        refine ih ?_ _ _ _ hread
        unfold memberAccess at hextended
        obtain ⟨_, -, hextended⟩ := bind_eq_ok.mp hextended
        split at hextended <;> cases hextended
        exact Expr.slotless_of_only_child rfl htarget
      · split at hread
        · obtain ⟨_, -, hread⟩ := bind_eq_ok.mp hread
          obtain ⟨⟨extended, _⟩, hextended, hread⟩ := bind_eq_ok.mp hread
          refine ih ?_ _ _ _ hread
          unfold bracketAccess at hextended
          split at hextended
          · obtain ⟨_, -, hextended⟩ := bind_eq_ok.mp hextended
            obtain ⟨_, -, hextended⟩ := bind_eq_ok.mp hextended
            cases hextended
            exact Expr.slotless_of_only_child rfl htarget
          · obtain ⟨⟨key, _⟩, hkey, hextended⟩ := bind_eq_ok.mp hextended
            obtain ⟨_, -, hextended⟩ := bind_eq_ok.mp hextended
            cases hextended
            have hkeySlotless := h _ _ _ hkey
            exact Expr.slotless_of_children (by simp) (by simp [Expr.children, *])
        · cases hread
          exact htarget

theorem yields_path : Yields Expr.Slotless (path inner) := by
  intro s e s' hread
  obtain ⟨⟨target, _⟩, htarget, hread⟩ := bind_eq_ok.mp hread
  exact yields_accessors h _ (yields_primary h _ _ _ htarget) _ _ _ hread

omit h in
theorem slotless_negation {e : Expr} (he : e.Slotless) : (negation e).Slotless := by
  unfold negation
  split
  · split
    · exact Expr.slotless_of_only_child rfl (Expr.slotless_constant _)
    · simp
  · simp
  · exact Expr.slotless_of_only_child rfl he

theorem yields_signed (budget : Nat) : Yields Expr.Slotless (signed inner budget) := by
  induction budget with
  | zero => exact yields_path h
  | succ budget ih =>
      intro s e s' hread
      unfold signed at hread
      split at hread
      · obtain ⟨_, -, hread⟩ := bind_eq_ok.mp hread
        obtain ⟨⟨operand, _⟩, hoperand, hread⟩ := bind_eq_ok.mp hread
        cases hread
        exact Expr.slotless_of_only_child rfl (ih _ _ _ hoperand)
      · split at hread
        · obtain ⟨_, -, hread⟩ := bind_eq_ok.mp hread
          obtain ⟨⟨operand, _⟩, hoperand, hread⟩ := bind_eq_ok.mp hread
          cases hread
          exact slotless_negation (ih _ _ _ hoperand)
        · exact yields_path h _ _ _ hread

omit h in
theorem slotless_binary {left right : Expr} (hleft : left.Slotless) (hright : right.Slotless)
    (op : BinaryOp) (ignoreCase : Bool) (position : Nat) :
    (Expr.binary op left right ignoreCase position).Slotless :=
  Expr.slotless_of_children (by simp) (by simp [Expr.children, *])

theorem yields_powers (budget : Nat) : Yields Expr.Slotless (powers inner budget) := by
  induction budget with
  | zero => exact fun s => yields_signed h s.budget s
  | succ budget ih =>
      intro s e s' hread
      obtain ⟨⟨base, _⟩, hbase, hread⟩ := bind_eq_ok.mp hread
      have hslotless := yields_signed h _ _ _ _ hbase
      dsimp only at hread
      split at hread
      · obtain ⟨_, -, hread⟩ := bind_eq_ok.mp hread
        obtain ⟨⟨exponent, _⟩, hexponent, hread⟩ := bind_eq_ok.mp hread
        cases hread
        exact slotless_binary hslotless (ih _ _ _ hexponent) _ _ _
      · cases hread
        exact hslotless

end

section

variable {operand : ExprReader Expr} (h : Yields Expr.Slotless operand)

include h

theorem yields_leftGrouped (operator? : Token → Option BinaryOp) (budget : Nat) {left : Expr}
    (hleft : left.Slotless) :
    Yields Expr.Slotless (leftGrouped operator? operand budget left) := by
  induction budget generalizing left with
  | zero =>
      intro s e s' hread
      cases hread
      exact hleft
  | succ budget ih =>
      intro s e s' hread
      unfold leftGrouped at hread
      split at hread
      · cases hread
        exact hleft
      · obtain ⟨_, -, hread⟩ := bind_eq_ok.mp hread
        obtain ⟨⟨right, _⟩, hright, hread⟩ := bind_eq_ok.mp hread
        exact ih (slotless_binary hleft (h _ _ _ hright) _ _ _) _ _ _ hread

theorem yields_level (operator? : Token → Option BinaryOp) :
    Yields Expr.Slotless (level operator? operand) := by
  intro s e s' hread
  obtain ⟨⟨left, _⟩, hleft, hread⟩ := bind_eq_ok.mp hread
  exact yields_leftGrouped h operator? _ (h _ _ _ hleft) _ _ _ hread

theorem yields_compared (op : BinaryOp) {left : Expr} (hleft : left.Slotless) (position : Nat) :
    Yields Expr.Slotless (compared operand op left position) := by
  intro s e s' hread
  obtain ⟨_, -, hread⟩ := bind_eq_ok.mp hread
  obtain ⟨⟨right, _⟩, hright, hread⟩ := bind_eq_ok.mp hread
  obtain ⟨⟨ignoreCase, _⟩, -, hread⟩ := bind_eq_ok.mp hread
  cases hread
  exact slotless_binary hleft (h _ _ _ hright) _ _ _

theorem yields_comparisonStep {left : Expr} (hleft : left.Slotless) :
    Yields (fun found => ∀ e ∈ found, e.Slotless) (comparisonStep operand left) := by
  intro s found s' hread
  unfold comparisonStep at hread
  split at hread
  · obtain ⟨⟨e, _⟩, he, hread⟩ := bind_eq_ok.mp hread
    cases hread
    simpa using yields_compared h _ hleft _ _ _ _ he
  · split at hread
    · obtain ⟨_, -, hread⟩ := bind_eq_ok.mp hread
      dsimp only at hread
      split at hread
      · obtain ⟨⟨e, _⟩, he, hread⟩ := bind_eq_ok.mp hread
        cases hread
        simpa using yields_compared h _ hleft _ _ _ _ he
      · cases hread
    · split at hread
      · obtain ⟨_, -, hread⟩ := bind_eq_ok.mp hread
        obtain ⟨⟨isNot, _⟩, -, hread⟩ := bind_eq_ok.mp hread
        obtain ⟨_, -, hread⟩ := bind_eq_ok.mp hread
        cases hread
        simpa using Expr.slotless_of_only_child rfl hleft
      · cases hread
        simp

theorem yields_comparisons (budget : Nat) {left : Expr} (hleft : left.Slotless) :
    Yields Expr.Slotless (comparisons operand budget left) := by
  induction budget generalizing left with
  | zero =>
      intro s e s' hread
      cases hread
      exact hleft
  | succ budget ih =>
      intro s e s' hread
      obtain ⟨⟨found, next⟩, hfound, hread⟩ := bind_eq_ok.mp hread
      have hfound := yields_comparisonStep h hleft _ _ _ hfound
      cases found with
      | some extended => exact ih (hfound extended rfl) _ _ _ hread
      | none =>
          cases hread
          exact hleft

end

theorem yields_nested (budget : Nat) : Yields Expr.Slotless (nested budget) := by
  induction budget with
  | zero =>
      intro s e s' hread
      cases hread
  | succ budget ih =>
      have hsum : Yields Expr.Slotless (sum (nested budget)) :=
        yields_level (yields_level (fun s => yields_powers ih s.budget s) _) _
      have hcomparison : Yields Expr.Slotless (comparison (nested budget)) := by
        intro s e s' hread
        obtain ⟨⟨left, _⟩, hleft, hread⟩ := bind_eq_ok.mp hread
        exact yields_comparisons hsum _ (hsum _ _ _ hleft) _ _ _ hread
      exact yields_level (yields_level hcomparison _) _

theorem yields_expression : Yields Expr.Slotless expression :=
  fun s => yields_nested s.budget s

end ExprReader

end EventText
