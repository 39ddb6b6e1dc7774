import EventText.Proofs.Expr.Passage

namespace EventText

namespace Passage

-- The readers of the grammar, level by level, on a source and on another one. The budgets may
-- differ as long as both of them last: every nested reader and every round of a loop stands behind
-- a token. A mark in place of the end is only taken for a part of the expression where the reader
-- would need more of it anyway: as a comma or a closing brace inside of brackets, and as the colon
-- behind the name of a member.

variable {T : Passage} {d : Depth}

-- A comparison takes a step, no comparison takes none.
def comparisonOutlook (T : Passage) : Option Expr × Lookahead → Outlook
  | (some _, s) => (T.outlook s).succ
  | (none, s) => T.outlook s

section

variable {bound : Nat}

theorem reads_separated {item item' : ExprReader α} {image : α → α}
    (h : T.ReadsBelow .inner bound image item item') {n n' : Nat} {s : Lookahead}
    (hs : T.left s < bound) (hn : T.left s < n) (hn' : T.left s < n') :
    T.ReadsAt .inner (List.map image) s (ExprReader.separated item n s)
      (ExprReader.separated item' n' (T.image s)) := by
  induction n generalizing n' s with
  | zero => omega
  | succ n ih =>
    cases n' with
    | zero => omega
    | succ n' =>
      refine (h s hs).bind ?_
      rintro ⟨first, s1⟩ (hs1 : T.left s1 ≤ T.left s)
      refine Mirrors.ite_atSymbol (s := s1) (fun hcomma => ?_) (ReadsAt.ok rfl) fun r hr => ?_
      · refine .pass (Placement.ne_eof_of_atSymbol hcomma) fun s2 hs2 => ?_
        refine (ih (by omega) (by omega) (by omega)).bind ?_
        rintro ⟨rest, s3⟩ -
        exact ReadsAt.ok rfl
      · cases hr
        rfl

theorem reads_listUntil {item item' : ExprReader α} {image : α → α} (closing : Symbol)
    (h : T.ReadsBelow .inner bound image item item') :
    T.ReadsBelow .outer bound (List.map image) (ExprReader.listUntil closing item)
      (ExprReader.listUntil closing item') := by
  intro s hs
  have hitems := reads_separated h hs (T.left_lt_budget s) (T.left_lt_budget_image s)
  unfold ExprReader.listUntil
  refine .unless_end (s := s) (fun hsame => ?_) fun hend r hr => ?_
  · have hadvance := reads_advance (d := .outer) hsame
    rw [hsame, Placement.atSymbol_lookahead, ← hsame]
    refine .ite (fun _ => hadvance.bind fun _ _ => ReadsAt.ok rfl) fun _ => ?_
    refine hitems.bind_of ?_ (fun _ _ => T.sees_of_errors) ?_
    · rintro ⟨items, s1⟩ - -
      exact (reads_expectSymbol closing s1).bind fun _ _ => ReadsAt.ok rfl
    · rintro ⟨items, s1⟩ r hr hreach
      obtain ⟨s2, hexpect, -⟩ := bind_eq_ok.mp hr
      exact T.sees_inner (Placement.ne_eof_of_expectSymbol hexpect) hreach
  · have heof := eof_of_left hend
    rw [if_neg fun hat => Placement.ne_eof_of_atSymbol hat heof] at hr
    obtain ⟨⟨items, s1⟩, hread, hr⟩ := bind_eq_ok.mp hr
    obtain ⟨s2, hexpect, -⟩ := bind_eq_ok.mp hr
    rw [hread] at hitems
    have hle : T.left s1 ≤ T.left s := hitems.1.left
    have hpos : T.left s1 = s1.rest.chars.length + 1 :=
      T.left_of_ne (Placement.ne_eof_of_expectSymbol hexpect)
    omega

variable {inner inner' : ExprReader Expr}
  (h : T.ReadsBelow .outer bound T.shift inner inner')

include h

theorem reads_element :
    T.ReadsBelow .outer bound (Element.map T.shift) (ExprReader.element inner)
      (ExprReader.element inner') := by
  intro s hs
  unfold ExprReader.element
  rw [atSymbol_image (by decide)]
  refine .ite (fun hdots => ?_) fun _ => ?_
  · refine .pass (Placement.ne_eof_of_atSymbol hdots) fun s1 hs1 => ?_
    refine (h s1 (Nat.lt_trans hs1 hs)).bind ?_
    rintro ⟨content, s2⟩ -
    exact ReadsAt.ok rfl
  · refine (h s hs).bind ?_
    rintro ⟨content, s1⟩ -
    exact ReadsAt.ok rfl

omit h in
theorem reads_builtin (o : Outlook) (name : String) (position : Nat) :
    T.Reads d o (fun _ => o) id (ExprReader.builtin name position)
      (ExprReader.builtin name (position + T.placement.offset)) := by
  unfold ExprReader.builtin
  split
  · exact .ok (fun _ => o) fun _ => rfl
  · exact .error fun _ => rfl

omit h in
theorem reads_memberName (o : Outlook) {s : Lookahead}
    (hsame : T.image s = T.placement.lookahead s) :
    T.Reads d o (fun _ => o) (Prod.map id (Option.map T.shift)) (ExprReader.memberName s)
      (ExprReader.memberName (T.image s)) := by
  unfold ExprReader.memberName
  rw [hsame, Placement.token_lookahead]
  split
  · exact .ok (fun _ => o) fun _ => rfl
  · exact (reads_builtin o _ _).bind fun _ _ => .ok (fun _ => o) fun _ => rfl
  · exact .ok (fun _ => o) fun _ => rfl
  · exact .error fun _ => rfl

theorem reads_member :
    T.ReadsBelow .inner bound (Member.map T.shift) (ExprReader.member inner)
      (ExprReader.member inner') := by
  intro s hs
  unfold ExprReader.member
  rw [atSymbol_image (by decide)]
  refine .ite (fun hdots => ?_) fun _ => ?_
  · refine .pass (Placement.ne_eof_of_atSymbol hdots) fun s1 hs1 => ?_
    refine (Mirrors.deepen (h s1 (Nat.lt_trans hs1 hs))).bind ?_
    rintro ⟨content, s2⟩ -
    exact ReadsAt.ok rfl
  · refine .unless_end (s := s) (fun hsame => ?_) fun hend r hr => ?_
    · refine (reads_advance hsame).bind fun s1 (hs1 : T.left s1 ≤ T.left s) => ?_
      refine (reads_memberName (T.outlook s1) hsame).bind ?_
      rintro ⟨name, shorthand⟩ -
      refine .ite_atSymbol (s := s1) (fun hcolon => ?_) ?_ ?_
      · refine .pass (Placement.ne_eof_of_atSymbol hcolon) fun s2 hs2 => ?_
        refine (Mirrors.deepen (h s2 (by omega))).bind ?_
        rintro ⟨content, s3⟩ -
        exact ReadsAt.ok rfl
      · cases shorthand with
        | some content => exact ReadsAt.ok rfl
        | none => exact .error fun herrors => unexpected_image herrors _
      · intro r hr
        cases shorthand <;> cases hr
        rfl
    -- There is no name at the end.
    · obtain ⟨s1, -, hr⟩ := bind_eq_ok.mp hr
      obtain ⟨named, hname, -⟩ := bind_eq_ok.mp hr
      rw [ExprReader.memberName, eof_of_left hend] at hname
      cases hname

theorem reads_conditional :
    T.ReadsBelow .outer bound T.shift (ExprReader.conditional inner)
      (ExprReader.conditional inner') := by
  intro s hs
  refine (h s hs).bind ?_
  rintro ⟨condition, s1⟩ hs1
  refine (reads_expectKeyword "then" s1).bind fun s2 hs2 => ?_
  have hlt2 : T.left s2 < bound := Nat.lt_of_le_of_lt (Nat.le_trans hs2 hs1) hs
  refine (h s2 hlt2).bind ?_
  rintro ⟨consequent, s3⟩ hs3
  refine (reads_acceptKeyword "else" s3).bind ?_
  rintro ⟨hasAlternative, s4⟩ hs4
  refine .ite (fun _ => ?_) fun _ => ReadsAt.ok rfl
  have hlt4 : T.left s4 < bound := Nat.lt_of_le_of_lt (Nat.le_trans hs4 hs3) hlt2
  refine (h s4 hlt4).bind ?_
  rintro ⟨alternative, s5⟩ -
  exact ReadsAt.ok rfl

theorem reads_nameOrCall (name : String) (position : Nat) :
    T.ReadsBelow .outer bound T.shift (ExprReader.nameOrCall inner name position)
      (ExprReader.nameOrCall inner' name (position + T.placement.offset)) := by
  intro s hs
  unfold ExprReader.nameOrCall
  rw [atSymbol_image (by decide)]
  refine .ite (fun hopen => ?_) fun _ => ReadsAt.ok rfl
  refine .pass (Placement.ne_eof_of_atSymbol hopen) fun s1 hs1 => ?_
  refine (reads_listUntil .rightParen (fun s hs => Mirrors.deepen (h s hs)) s1
    (Nat.lt_trans hs1 hs)).bind ?_
  rintro ⟨arguments, s2⟩ -
  refine (reads_acceptKeyword "ci" s2).bind ?_
  rintro ⟨ignoreCase, s3⟩ -
  exact ReadsAt.ok (by simp [shift, Expr.mapPositions])

theorem reads_primary :
    T.ReadsBelow .outer (bound + 1) T.shift (ExprReader.primary inner)
      (ExprReader.primary inner') := by
  intro s hs
  have below {s' : Lookahead} (hs' : T.left s' < T.left s) : T.left s' < bound := by omega
  refine .unless_end (s := s) (fun hsame => ?_) fun hend r hr => ?_
  · have htoken : (T.image s).token = s.token := by
      rw [hsame]
      rfl
    have hadvance := reads_advance (d := .outer) hsame
    unfold ExprReader.primary
    rw [htoken]
    split
    · exact hadvance.bind fun _ _ => ReadsAt.ok rfl
    · exact hadvance.bind fun _ _ => ReadsAt.ok rfl
    · exact hadvance.bind fun _ _ => ReadsAt.ok rfl
    · next name htoken =>
      refine .pass (by simp [htoken]) fun s1 _ => ?_
      rw [position_image (by simp [htoken])]
      exact (reads_builtin (T.outlook s1) _ _).bind fun _ _ => ReadsAt.ok rfl
    · next htoken =>
      refine .pass (by simp [htoken]) fun s1 hs1 => ?_
      refine (h s1 (below hs1)).bind ?_
      rintro ⟨content, s2⟩ -
      exact (reads_expectSymbol _ s2).bind fun _ _ => ReadsAt.ok rfl
    · next htoken =>
      refine .pass (by simp [htoken]) fun s1 hs1 => ?_
      refine (reads_listUntil .rightBracket
        (fun s hs => Mirrors.deepen (reads_element h s hs)) s1 (below hs1)).bind ?_
      rintro ⟨elements, s2⟩ -
      exact ReadsAt.ok (by simp [shift, Expr.mapPositions])
    · next htoken =>
      refine .pass (by simp [htoken]) fun s1 hs1 => ?_
      refine (reads_listUntil .rightBrace (reads_member h) s1 (below hs1)).bind ?_
      rintro ⟨members, s2⟩ -
      exact ReadsAt.ok (by simp [shift, Expr.mapPositions])
    · next name htoken =>
      refine .pass (by simp [htoken]) fun s1 hs1 => ?_
      rw [atKeyword_image, atKeyword_image, atKeyword_image, atKeyword_image,
        position_image (by simp [htoken])]
      refine .ite (fun _ => ReadsAt.ok rfl) fun _ => ?_
      refine .ite (fun _ => ReadsAt.ok rfl) fun _ => ?_
      refine .ite (fun _ => ReadsAt.ok rfl) fun _ => ?_
      refine .ite (fun _ => reads_conditional h s1 (below hs1)) fun _ => ?_
      exact reads_nameOrCall h name s.position s1 (below hs1)
    · exact .error fun herrors => unexpected_image herrors _
  · rw [ExprReader.primary, eof_of_left hend] at hr
    cases hr

omit h in
theorem reads_memberAccess (target : Expr) (s : Lookahead) :
    T.ReadsAt .outer T.shift s (ExprReader.memberAccess target s)
      (ExprReader.memberAccess (T.shift target) (T.image s)) := by
  refine .unless_end (s := s) (fun hsame => ?_) fun hend r hr => ?_
  · refine (reads_advance hsame).bind fun s1 _ => ?_
    rw [hsame, Placement.token_lookahead]
    split
    · exact ReadsAt.ok rfl
    · exact .error fun _ => rfl
  · obtain ⟨s1, -, hr⟩ := bind_eq_ok.mp hr
    rw [eof_of_left hend] at hr
    cases hr

theorem reads_bracketAccess (target : Expr) :
    T.ReadsBelow .outer bound T.shift (ExprReader.bracketAccess inner target)
      (ExprReader.bracketAccess inner' (T.shift target)) := by
  intro s hs
  unfold ExprReader.bracketAccess
  rw [T.apply_token ExprReader.quantifier? (by rintro (_ | _ | _) <;> rfl)]
  split
  · next q hq =>
    have hne : s.token ≠ .eof := by
      intro heof
      rw [heof] at hq
      cases hq
    refine .pass hne fun s1 _ => ?_
    exact (reads_expectSymbol _ s1).bind fun _ _ => ReadsAt.ok rfl
  · refine (h s hs).bind ?_
    rintro ⟨key, s1⟩ -
    exact (reads_expectSymbol _ s1).bind fun _ _ => ReadsAt.ok rfl

theorem reads_accessors {n n' : Nat} {s : Lookahead} (target : Expr) (hs : T.left s < bound + 1)
    (hn : T.left s < n) (hn' : T.left s < n') :
    T.ReadsAt .outer T.shift s (ExprReader.accessors inner n target s)
      (ExprReader.accessors inner' n' (T.shift target) (T.image s)) := by
  induction n generalizing n' s target with
  | zero => omega
  | succ n ih =>
    cases n' with
    | zero => omega
    | succ n' =>
      unfold ExprReader.accessors
      rw [atSymbol_image (by decide),
        atSymbol_image (by decide)]
      refine .ite (fun hdot => ?_) fun _ => .ite (fun hbracket => ?_) fun _ => ReadsAt.ok rfl
      · refine .pass (Placement.ne_eof_of_atSymbol hdot) fun s1 hs1 => ?_
        refine (reads_memberAccess target s1).bind ?_
        rintro ⟨extended, s2⟩ (hs2 : T.left s2 ≤ T.left s1)
        exact ih (s := s2) extended (by omega) (by omega) (by omega)
      · refine .pass (Placement.ne_eof_of_atSymbol hbracket) fun s1 hs1 => ?_
        refine (reads_bracketAccess h target s1 (by omega)).bind ?_
        rintro ⟨extended, s2⟩ (hs2 : T.left s2 ≤ T.left s1)
        exact ih (s := s2) extended (by omega) (by omega) (by omega)

theorem reads_path :
    T.ReadsBelow .outer (bound + 1) T.shift (ExprReader.path inner)
      (ExprReader.path inner') := by
  intro s hs
  refine (reads_primary h s hs).bind ?_
  rintro ⟨target, s1⟩ hs1
  exact reads_accessors h target (Nat.lt_of_le_of_lt hs1 hs) (T.left_lt_budget s1)
    (T.left_lt_budget_image s1)

omit T h in
theorem shift_negation (distance : Nat) (e : Expr) :
    ExprReader.negation (e.shift distance) = (ExprReader.negation e).shift distance := by
  have hshift : (Expr.unary .negate e).shift distance = .unary .negate (e.shift distance) := rfl
  cases e with
  | constant c =>
    cases c with
    | int n =>
      unfold ExprReader.negation
      dsimp only [Expr.shift, Expr.mapPositions]
      split <;> rfl
    | _ => rfl
  | conditional condition consequent alternative => cases alternative <;> rfl
  | _ => rfl

theorem reads_signed {n n' : Nat} {s : Lookahead} (hs : T.left s < bound + 1)
    (hn : T.left s < n) (hn' : T.left s < n') :
    T.ReadsAt .outer T.shift s (ExprReader.signed inner n s)
      (ExprReader.signed inner' n' (T.image s)) := by
  induction n generalizing n' s with
  | zero => omega
  | succ n ih =>
    cases n' with
    | zero => omega
    | succ n' =>
      unfold ExprReader.signed
      rw [atKeyword_image, atSymbol_image (by decide)]
      refine .ite (fun hnot => ?_) fun _ => .ite (fun hminus => ?_) fun _ =>
        reads_path h s hs
      · refine .pass (Placement.ne_eof_of_atKeyword hnot) fun s1 hs1 => ?_
        refine (ih (by omega) (by omega) (by omega)).bind ?_
        rintro ⟨operand, s2⟩ -
        exact ReadsAt.ok rfl
      · refine .pass (Placement.ne_eof_of_atSymbol hminus) fun s1 hs1 => ?_
        refine (ih (by omega) (by omega) (by omega)).bind ?_
        rintro ⟨operand, s2⟩ -
        exact ReadsAt.ok (shift_negation T.placement.offset operand)

theorem reads_powers {n n' : Nat} {s : Lookahead} (hs : T.left s < bound + 1)
    (hn : T.left s < n) (hn' : T.left s < n') :
    T.ReadsAt .outer T.shift s (ExprReader.powers inner n s)
      (ExprReader.powers inner' n' (T.image s)) := by
  induction n generalizing n' s with
  | zero => omega
  | succ n ih =>
    cases n' with
    | zero => omega
    | succ n' =>
      refine (reads_signed h hs (T.left_lt_budget s) (T.left_lt_budget_image s)).bind ?_
      rintro ⟨base, s1⟩ (hs1 : T.left s1 ≤ T.left s)
      dsimp only [Prod.map_apply]
      rw [atSymbol_image (by decide)]
      refine .ite (fun hcaret => ?_) fun _ => ReadsAt.ok rfl
      have hne := Placement.ne_eof_of_atSymbol hcaret
      rw [position_image hne]
      refine .pass hne fun s2 hs2 => ?_
      refine (ih (by omega) (by omega) (by omega)).bind ?_
      rintro ⟨exponent, s3⟩ -
      exact ReadsAt.ok rfl

section

omit h

variable {operand operand' : ExprReader Expr}
  (hoperand : T.ReadsBelow .outer bound T.shift operand operand')

include hoperand

theorem reads_leftGrouped {operator? : Token → Option BinaryOp} (hend : operator? .eof = none)
    (himage : ∀ s, operator? (T.image s).token = operator? s.token) {n n' : Nat} {s : Lookahead}
    (left : Expr) (hs : T.left s < bound) (hn : T.left s < n) (hn' : T.left s < n') :
    T.ReadsAt .outer T.shift s (ExprReader.leftGrouped operator? operand n left s)
      (ExprReader.leftGrouped operator? operand' n' (T.shift left) (T.image s)) := by
  induction n generalizing n' s left with
  | zero => omega
  | succ n ih =>
    cases n' with
    | zero => omega
    | succ n' =>
      unfold ExprReader.leftGrouped
      rw [himage]
      split
      · exact ReadsAt.ok rfl
      · next op hop =>
        have hne : s.token ≠ .eof := by
          rintro heof
          simp [heof, hend] at hop
        rw [position_image hne]
        refine .pass hne fun s1 hs1 => ?_
        refine (hoperand s1 (by omega)).bind ?_
        rintro ⟨right, s2⟩ (hs2 : T.left s2 ≤ T.left s1)
        exact ih (s := s2) _ (by omega) (by omega) (by omega)

theorem reads_level {operator? : Token → Option BinaryOp} (hend : operator? .eof = none)
    (himage : ∀ s, operator? (T.image s).token = operator? s.token) :
    T.ReadsBelow .outer bound T.shift (ExprReader.level operator? operand)
      (ExprReader.level operator? operand') := by
  intro s hs
  refine (hoperand s hs).bind ?_
  rintro ⟨left, s1⟩ hs1
  exact reads_leftGrouped hoperand hend himage left (Nat.lt_of_le_of_lt hs1 hs)
    (T.left_lt_budget s1) (T.left_lt_budget_image s1)

theorem reads_compared (op : BinaryOp) (left : Expr) (position : Nat) {s : Lookahead}
    (hs : T.left s ≤ bound) (hne : s.token ≠ .eof) :
    T.Reads .outer (T.outlook s) (fun r : Expr × Lookahead => (T.outlook r.2).succ)
      (Prod.map T.shift T.image) (ExprReader.compared operand op left position s)
      (ExprReader.compared operand' op (T.shift left) (position + T.placement.offset)
        (T.image s)) := by
  refine .step hne fun s1 hs1 => ?_
  refine (Mirrors.afterStep (hoperand s1 (by omega))).bind ?_
  rintro ⟨right, s2⟩ -
  refine (Mirrors.afterStep (reads_acceptKeyword "ci" s2)).bind ?_
  rintro ⟨ignoreCase, s3⟩ -
  exact Mirrors.afterStep (ReadsAt.ok rfl)

theorem reads_comparisonStep (left : Expr) {s : Lookahead} (hs : T.left s < bound) :
    T.Reads .outer (T.outlook s) T.comparisonOutlook (Prod.map (Option.map T.shift) T.image)
      (ExprReader.comparisonStep operand left s)
      (ExprReader.comparisonStep operand' (T.shift left) (T.image s)) := by
  have found (e : Expr) (s' : Lookahead) : T.Reads .outer (T.outlook s').succ T.comparisonOutlook
      (Prod.map (Option.map T.shift) T.image)
      (.ok (some e, s')) (.ok (some (T.shift e), T.image s')) :=
    Mirrors.ok (r := (some e, s')) T.comparisonOutlook fun _ => rfl
  unfold ExprReader.comparisonStep
  rw [T.apply_token ExprReader.comparison? (by rintro (_ | _ | _) <;> rfl), atKeyword_image,
    atKeyword_image]
  split
  · next op hop =>
    have hne : s.token ≠ .eof := by
      intro heof
      rw [heof] at hop
      cases hop
    rw [position_image hne]
    refine (reads_compared hoperand op left s.position (Nat.le_of_lt hs) hne).bind ?_
    exact fun r _ => found r.1 r.2
  · refine .ite (fun hnot => ?_) fun _ => .ite (fun his => ?_) fun _ => ?_
    · have hne := Placement.ne_eof_of_atKeyword hnot
      rw [position_image hne]
      refine .pass hne fun s1 hs1 => ?_
      rw [T.apply_token ExprReader.negated? fun _ => rfl]
      split
      · next op hop =>
        have hne : s1.token ≠ .eof := by
          intro heof
          rw [heof] at hop
          cases hop
        refine (reads_compared hoperand op left s.position (by omega) hne).bind ?_
        exact fun r _ => found r.1 r.2
      · exact .error fun herrors => unexpected_image herrors _
    · refine .step (Placement.ne_eof_of_atKeyword his) fun s1 _ => ?_
      refine (Mirrors.afterStep (reads_acceptKeyword "not" s1)).bind ?_
      rintro ⟨isNot, s2⟩ -
      exact (Mirrors.afterStep (reads_expectKeyword "null" s2)).bind fun s3 _ => found _ s3
    · exact Mirrors.ok (r := (none, s)) T.comparisonOutlook fun _ => rfl

theorem reads_comparisons {n n' : Nat} {s : Lookahead} (left : Expr) (hs : T.left s < bound)
    (hn : T.left s < n) (hn' : T.left s < n') :
    T.ReadsAt .outer T.shift s (ExprReader.comparisons operand n left s)
      (ExprReader.comparisons operand' n' (T.shift left) (T.image s)) := by
  induction n generalizing n' s left with
  | zero => omega
  | succ n ih =>
    cases n' with
    | zero => omega
    | succ n' =>
      refine (reads_comparisonStep hoperand left hs).bind ?_
      rintro ⟨found, s1⟩ hs1
      cases found with
      | none => exact ReadsAt.ok rfl
      | some e =>
        have hlt : T.left s1 < T.left s := hs1
        exact (ih (s := s1) e (by omega) (by omega) (by omega)).mono (T.outlook s1).reaches_succ

end

theorem reads_sum :
    T.ReadsBelow .outer (bound + 1) T.shift (ExprReader.sum inner)
      (ExprReader.sum inner') := by
  refine reads_level (reads_level (fun s hs => ?_) rfl ?_) rfl ?_
  · exact reads_powers h hs (T.left_lt_budget s) (T.left_lt_budget_image s)
  · exact T.apply_token ExprReader.multiplicative? (by rintro (_ | _ | _) <;> rfl)
  · exact T.apply_token ExprReader.additive? (by rintro (_ | _ | _) <;> rfl)

theorem reads_comparison :
    T.ReadsBelow .outer (bound + 1) T.shift (ExprReader.comparison inner)
      (ExprReader.comparison inner') := by
  intro s hs
  refine (reads_sum h s hs).bind ?_
  rintro ⟨left, s1⟩ hs1
  exact reads_comparisons (reads_sum h) left (Nat.lt_of_le_of_lt hs1 hs) (T.left_lt_budget s1)
    (T.left_lt_budget_image s1)

theorem reads_conjunction :
    T.ReadsBelow .outer (bound + 1) T.shift (ExprReader.conjunction inner)
      (ExprReader.conjunction inner') :=
  reads_level (reads_comparison h) rfl (T.apply_token _ fun _ => rfl)

theorem reads_disjunction :
    T.ReadsBelow .outer (bound + 1) T.shift (ExprReader.disjunction inner)
      (ExprReader.disjunction inner') :=
  reads_level (reads_conjunction h) rfl (T.apply_token _ fun _ => rfl)

omit h in
theorem reads_nested {n n' : Nat} (hn : bound ≤ n) (hn' : bound ≤ n') :
    T.ReadsBelow .outer bound T.shift (ExprReader.nested n) (ExprReader.nested n') := by
  induction bound generalizing n n' with
  | zero => exact fun s hs => absurd hs (Nat.not_lt_zero _)
  | succ bound ih =>
    obtain ⟨n, rfl⟩ := Nat.exists_eq_succ_of_ne_zero (by omega : n ≠ 0)
    obtain ⟨n', rfl⟩ := Nat.exists_eq_succ_of_ne_zero (by omega : n' ≠ 0)
    exact reads_disjunction (ih (by omega) (by omega))

end

theorem reads_expression (s : Lookahead) :
    T.ReadsAt .outer T.shift s (ExprReader.expression s)
      (ExprReader.expression (T.image s)) :=
  reads_nested (T.left_lt_budget s) (T.left_lt_budget_image s) s (Nat.lt_succ_self _)

end Passage

end EventText
