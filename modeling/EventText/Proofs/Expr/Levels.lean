import EventText.Proofs.Expr.Relocation

namespace EventText

-- The readers of the grammar without their budgets. A budget that is enough can be any other one
-- that is enough, so that each loop goes on from where it stands as if it had started there.

namespace Placement

-- A source as the whole of itself.
def whole : Placement := ⟨0, []⟩

@[simp] theorem image_whole (s : Lookahead) : whole.passage.image s = s := by
  obtain ⟨⟨_, _, _⟩, ⟨_, _⟩⟩ := s
  simp [whole, passage, lookahead, lexeme, cursor]

@[simp] theorem shift_whole (e : Expr) : whole.passage.shift e = e := Expr.mapPositions_id e

theorem eq_of_reads {s : Lookahead} {x x' : Except TemplateError (Expr × Lookahead)}
    (h : whole.passage.ReadsAt .outer whole.passage.shift s x x') : x' = x := by
  cases x with
  | error e =>
    rw [h rfl]
    cases e <;> rfl
  | ok r =>
    rw [h.2 (.inl rfl)]
    simp only [Prod.map, shift_whole, image_whole]

end Placement

open Placement Passage

theorem Lookahead.left_of_advance {s s' : Lookahead} (hs : s.token ≠ .eof)
    (h : s.advance = .ok s') : s'.left < s.left := by
  have hrest := agrees_ofCursor (p := whole) s.rest
  rw [show Lookahead.ofCursor s.rest = .ok s' from h] at hrest
  rw [left_eq hs]
  exact Nat.lt_succ_of_le hrest.1.left

-- A place further on is within the budget of the next round of a loop.
theorem Lookahead.lt_of_left_lt {s s' : Lookahead} (h : s'.left < s.left) :
    s'.left < s.rest.chars.length + 1 :=
  Nat.lt_of_lt_of_le h (Nat.le_of_lt_succ s.left_lt_budget)

namespace ExprReader

-- A reader that reads the same however much of a budget is left to the readers inside it.
def Steady (read : ExprReader Expr) : Prop :=
  ∀ s, whole.Reads (Expr.shift whole.offset) s (read s) (read s)

theorem Steady.left_le {read : ExprReader Expr} (h : Steady read) {s s' : Lookahead} {e : Expr}
    (hread : read s = .ok (e, s')) : s'.left ≤ s.left := by
  have hs := h s
  rw [hread] at hs
  exact hs.1.left

theorem steady_of_readsBelow {read : ExprReader Expr} (h : ∀ bound,
    whole.passage.ReadsBelow .outer (bound + 1) whole.passage.shift read read) : Steady read := by
  intro s
  have hs := agrees_iff_mirrors.mpr (h s.left s (Nat.lt_succ_self _))
  rwa [image_whole] at hs

theorem readsBelow_expression (bound : Nat) :
    whole.passage.ReadsBelow .outer bound whole.passage.shift expression expression :=
  fun s _ => reads_expression s

-- The readers from the loosest level to the tightest one. The first is that of whole expressions.
def reader : Nat → ExprReader Expr
  | 0 => expression
  | 1 => disjunction expression
  | 2 => conjunction expression
  | 3 => comparison expression
  | 4 => sum expression
  | 5 => level multiplicative? fun s => powers expression s.budget s
  | 6 => fun s => powers expression s.budget s
  | 7 => fun s => signed expression s.budget s
  | _ => path expression

theorem steady_reader (k : Nat) : Steady (reader k) := by
  match k with
  | 0 => exact steady_of_readsBelow fun bound => readsBelow_expression _
  | 1 => exact steady_of_readsBelow fun bound => reads_disjunction (readsBelow_expression bound)
  | 2 =>
    exact steady_of_readsBelow fun bound =>
      reads_conjunction (readsBelow_expression bound)
  | 3 => exact steady_of_readsBelow fun bound => reads_comparison (readsBelow_expression bound)
  | 4 => exact steady_of_readsBelow fun bound => reads_sum (readsBelow_expression bound)
  | 5 =>
    refine steady_of_readsBelow fun bound => reads_level (fun s hs => ?_) rfl fun _ => rfl
    exact reads_powers (readsBelow_expression bound) hs s.left_lt_budget
      (whole.passage.left_lt_budget_image s)
  | 6 =>
    exact steady_of_readsBelow fun bound s hs =>
      reads_powers (readsBelow_expression bound) hs s.left_lt_budget
        (whole.passage.left_lt_budget_image s)
  | 7 =>
    exact steady_of_readsBelow fun bound s hs =>
      reads_signed (readsBelow_expression bound) hs s.left_lt_budget
        (whole.passage.left_lt_budget_image s)
  | _ + 8 => exact steady_of_readsBelow fun bound => reads_path (readsBelow_expression bound)

section

variable {n n' : Nat} {s : Lookahead} (hn : s.left < n) (hn' : s.left < n')

include hn hn'

theorem accessors_eq (target : Expr) :
    accessors expression n' target s = accessors expression n target s := by
  have h := reads_accessors (readsBelow_expression s.left) target (Nat.lt_succ_self _) hn hn'
  rw [image_whole, shift_whole] at h
  exact eq_of_reads h

theorem signed_eq : signed expression n' s = signed expression n s := by
  have h := reads_signed (readsBelow_expression s.left) (Nat.lt_succ_self _) hn hn'
  rw [image_whole] at h
  exact eq_of_reads h

theorem powers_eq : powers expression n' s = powers expression n s := by
  have h := reads_powers (readsBelow_expression s.left) (Nat.lt_succ_self _) hn hn'
  rw [image_whole] at h
  exact eq_of_reads h

theorem comparisons_eq (left : Expr) :
    comparisons (reader 4) n' left s = comparisons (reader 4) n left s := by
  have h := reads_comparisons (reads_sum (readsBelow_expression s.left)) left
    (Nat.lt_succ_self _) hn hn'
  rw [image_whole, shift_whole] at h
  exact eq_of_reads h

theorem leftGrouped_eq {operator? : Token → Option BinaryOp} (hoperator : operator? .eof = none)
    (k : Nat) (left : Expr) : leftGrouped operator? (reader k) n' left s =
      leftGrouped operator? (reader k) n left s := by
  have hoperand : whole.passage.ReadsBelow .outer (s.left + 1) whole.passage.shift (reader k)
      (reader k) := by
    intro s _
    rw [image_whole]
    exact agrees_iff_mirrors.mp (steady_reader k s)
  have h := reads_leftGrouped hoperand hoperator (fun _ => rfl) left (Nat.lt_succ_self _) hn hn'
  rw [image_whole, shift_whole] at h
  exact eq_of_reads h

end

theorem expression_eq (s : Lookahead) : expression s = disjunction expression s := by
  have hleft : s.left ≤ s.rest.chars.length + 1 := Nat.le_of_lt_succ s.left_lt_budget
  have hbelow : whole.passage.ReadsBelow .outer s.left whole.passage.shift
      (nested (s.rest.chars.length + 1)) expression := fun s' hs' =>
    reads_nested (Nat.le_trans hs' hleft) (whole.passage.left_lt_budget_image s') s'
      (Nat.lt_succ_self _)
  have h := reads_disjunction hbelow s (Nat.lt_succ_self _)
  rw [image_whole] at h
  exact (eq_of_reads h).symm

-- The operators of the levels that group to the left, comparisons apart.
def operatorAt : Nat → Token → Option BinaryOp
  | 1 => keywordOperator? "or" .or
  | 2 => keywordOperator? "and" .and
  | 4 => additive?
  | 5 => multiplicative?
  | _ => fun _ => none

theorem operatorAt_eof (k : Nat) : operatorAt k .eof = none := by
  unfold operatorAt
  split <;> rfl

-- What is read at a level behind a finished operand of that level.
def goOn : Nat → Expr → ExprReader Expr
  | 3 => fun left s => comparisons (reader 4) s.budget left s
  | 8 => fun target s => accessors expression s.budget target s
  | k => fun left s => leftGrouped (operatorAt k) (reader (k + 1)) s.budget left s

-- Whether an operand of a level that stands in front of a token is only a part of something larger.
def grips : Nat → Token → Bool
  | 3, t => (comparison? t).isSome || t.isKeyword "not" || t.isKeyword "is"
  | 7, t => t.isSymbol .caret
  | 8, t => t.isSymbol .dot || t.isSymbol .leftBracket
  | k, t => (operatorAt k t).isSome

theorem leftGrouped_stop {operator? : Token → Option BinaryOp} {operand : ExprReader Expr}
    {s : Lookahead} (h : (operator? s.token).isSome = false) (n : Nat) (left : Expr) :
    leftGrouped operator? operand n left s = .ok (left, s) := by
  have hnone : operator? s.token = none := Option.not_isSome_iff_eq_none.mp (by simp [h])
  cases n with
  | zero => rfl
  | succ n =>
    rw [leftGrouped, hnone]
    rfl

theorem goOn_stop {k : Nat} {s : Lookahead} (h : grips k s.token = false) (e : Expr) :
    goOn k e s = .ok (e, s) := by
  match k with
  | 1 | 2 | 4 | 5 => exact leftGrouped_stop h _ e
  | 3 =>
    simp only [grips, Bool.or_eq_false_iff] at h
    obtain ⟨⟨hop, hnot⟩, his⟩ := h
    have hnone : comparison? s.token = none := Option.not_isSome_iff_eq_none.mp (by simp [hop])
    have hstep : comparisonStep (reader 4) e s = .ok (none, s) := by
      simp only [comparisonStep, hnone, Lookahead.atKeyword, hnot, his]
      rfl
    show comparisons (reader 4) (s.rest.chars.length + 2) e s = _
    rw [comparisons, hstep]
    rfl
  | 8 =>
    simp only [grips, Bool.or_eq_false_iff] at h
    show accessors expression (s.rest.chars.length + 2) e s = _
    simp only [accessors, Lookahead.atSymbol, h.1, h.2]
    rfl
  | 0 | 6 | 7 | _ + 9 => rfl

-- Nothing tighter than a level goes on in front of a token.
def Loose (k : Nat) (t : Token) : Prop := ∀ j, k < j → grips j t = false

theorem Loose.mono {k m : Nat} {t : Token} (h : Loose k t) (hle : k ≤ m) : Loose m t :=
  fun j hj => h j (Nat.lt_of_le_of_lt hle hj)

theorem loose_of_lt {k : Nat} {t : Token} (h : ∀ j < 9, k < j → grips j t = false) :
    Loose k t := by
  intro j hj
  by_cases hlt : j < 9
  · exact h j hlt hj
  · obtain ⟨i, rfl⟩ := Nat.exists_eq_add_of_le' (Nat.not_lt.mp hlt)
    rfl

theorem reader_eq_bind {k : Nat} (hpos : 0 < k) (hk : k < 6) (s : Lookahead) :
    reader k s = (reader (k + 1) s >>= fun r => goOn k r.1 r.2) := by
  match k with
  | 1 | 2 | 3 | 4 | 5 => rfl

-- A level further out reads the same where neither has anything to go on with.
theorem reader_step {k : Nat} {s s' : Lookahead} {e : Expr} (hk : k < 8)
    (h : reader (k + 1) s = .ok (e, s')) (hloose : Loose k s'.token)
    (hsign : k = 7 → s.atKeyword "not" = false ∧ s.atSymbol .minus = false) :
    reader k s = goOn k e s' := by
  match k with
  | 0 =>
    show expression s = _
    rw [expression_eq]
    exact h
  | 1 | 2 | 3 | 4 | 5 =>
    rw [reader_eq_bind (by decide) (by decide), h]
    rfl
  | 6 =>
    have hcaret : s'.atSymbol .caret = false := hloose 7 (by decide)
    show (reader 7 s >>= _) = _
    rw [h]
    simp only [bind, Except.bind, hcaret]
    rfl
  | 7 =>
    obtain ⟨hnot, hminus⟩ := hsign rfl
    show signed expression (s.rest.chars.length + 2) s = _
    simp only [signed, hnot, hminus]
    exact h

theorem reader_descend {j k : Nat} {s s' : Lookahead} {e : Expr} (hj : j ≤ k) (hk : k ≤ 8)
    (h : reader k s = goOn k e s') (hloose : Loose j s'.token)
    (hsign : k = 8 → s.atKeyword "not" = false ∧ s.atSymbol .minus = false) :
    reader j s = goOn j e s' := by
  induction k with
  | zero =>
    obtain rfl := Nat.le_zero.mp hj
    exact h
  | succ k ih =>
    rcases Nat.lt_or_eq_of_le hj with hlt | rfl
    · have hle := Nat.le_of_lt_succ hlt
      rw [goOn_stop (hloose _ hlt)] at h
      refine ih hle (Nat.le_of_succ_le hk) ?_ ?_
      · exact reader_step hk h (hloose.mono hle) fun h7 => hsign (by rw [h7])
      · exact fun h8 => absurd hk (by omega)
    · exact h

-- One round of each loop.

section

variable {s s₁ s₂ s' : Lookahead}

theorem goOn_operator {k : Nat} {op : BinaryOp} {left right : Expr}
    (hop : operatorAt k s.token = some op) (hadvance : s.advance = .ok s₁)
    (hright : reader (k + 1) s₁ = .ok (right, s')) :
    goOn k left s = goOn k (.binary op left right false s.position) s' := by
  have hne : s.token ≠ .eof := by
    intro heof
    simp [heof, operatorAt_eof] at hop
  have hlt := Lookahead.left_of_advance hne hadvance
  have hle := (steady_reader (k + 1)).left_le hright
  have hround : leftGrouped (operatorAt k) (reader (k + 1)) s.budget left s =
      leftGrouped (operatorAt k) (reader (k + 1)) s'.budget
        (.binary op left right false s.position) s' := by
    show leftGrouped _ _ (s.rest.chars.length + 1 + 1) left s = _
    rw [leftGrouped, hop]
    dsimp only
    rw [hadvance, show (Except.ok s₁ >>= _) = (reader (k + 1) s₁ >>= _) from rfl, hright]
    exact leftGrouped_eq s'.left_lt_budget
      (Lookahead.lt_of_left_lt (Nat.lt_of_le_of_lt hle hlt)) (operatorAt_eof k) (k + 1) _
  match k with
  | 3 | 8 => cases hop
  | 0 | 1 | 2 | 4 | 5 | 6 | 7 | _ + 9 => exact hround

theorem goOn_comparison {left e : Expr}
    (hstep : comparisonStep (reader 4) left s = .ok (some e, s')) (hlt : s'.left < s.left) :
    goOn 3 left s = goOn 3 e s' := by
  show comparisons (reader 4) (s.rest.chars.length + 1 + 1) left s = _
  rw [comparisons, hstep]
  exact comparisons_eq s'.left_lt_budget (Lookahead.lt_of_left_lt hlt) e

theorem goOn_member {target : Expr} {name : String} (hdot : s.token = .symbol .dot)
    (hadvance : s.advance = .ok s₁) (hname : s₁.token = .identifier name)
    (hadvance₁ : s₁.advance = .ok s') : goOn 8 target s = goOn 8 (.member target name) s' := by
  have hlt := Lookahead.left_of_advance (by simp [hdot]) hadvance
  have hlt₁ := Lookahead.left_of_advance (by simp [hname]) hadvance₁
  have haccess : memberAccess target s₁ = .ok (.member target name, s') := by
    simp only [memberAccess, hadvance₁, hname]
    rfl
  show accessors expression (s.rest.chars.length + 1 + 1) target s = _
  rw [accessors, if_pos (by simp [Lookahead.atSymbol, hdot, Token.isSymbol]), hadvance,
    show (Except.ok s₁ >>= _) = (memberAccess target s₁ >>= _) from rfl, haccess]
  exact accessors_eq s'.left_lt_budget (Lookahead.lt_of_left_lt (Nat.lt_trans hlt₁ hlt)) _

theorem goOn_bracket {target e : Expr} (hbracket : s.token = .symbol .leftBracket)
    (hadvance : s.advance = .ok s₁)
    (haccess : bracketAccess expression target s₁ = .ok (e, s')) :
    goOn 8 target s = goOn 8 e s' := by
  have hlt := Lookahead.left_of_advance (by simp [hbracket]) hadvance
  have hle : s'.left ≤ s₁.left := by
    have h := reads_bracketAccess (readsBelow_expression _) target s₁ (Nat.lt_succ_self _)
    rw [haccess] at h
    exact h.1.left
  have hdot : s.atSymbol .dot = false := by simp [Lookahead.atSymbol, hbracket, Token.isSymbol]
  show accessors expression (s.rest.chars.length + 1 + 1) target s = _
  rw [accessors, hdot, if_neg (by decide),
    if_pos (by simp [Lookahead.atSymbol, hbracket, Token.isSymbol]), hadvance,
    show (Except.ok s₁ >>= _) = (bracketAccess expression target s₁ >>= _) from rfl, haccess]
  exact accessors_eq s'.left_lt_budget (Lookahead.lt_of_left_lt (Nat.lt_of_le_of_lt hle hlt)) _

theorem reader_not {operand : Expr} (hnot : s.atKeyword "not" = true)
    (hadvance : s.advance = .ok s₁) (hoperand : reader 7 s₁ = .ok (operand, s')) :
    reader 7 s = .ok (.unary .not operand, s') := by
  have hlt := Lookahead.left_of_advance (ne_eof_of_atKeyword hnot) hadvance
  have hround : signed expression (s.rest.chars.length + 1) s₁ = .ok (operand, s') := by
    rw [← hoperand]
    exact signed_eq s₁.left_lt_budget (Lookahead.lt_of_left_lt hlt)
  show signed expression (s.rest.chars.length + 1 + 1) s = _
  rw [signed, if_pos hnot, hadvance]
  show (signed expression _ s₁ >>= _) = _
  rw [hround]
  rfl

theorem reader_minus {operand : Expr} (hminus : s.token = .symbol .minus)
    (hadvance : s.advance = .ok s₁) (hoperand : reader 7 s₁ = .ok (operand, s')) :
    reader 7 s = .ok (negation operand, s') := by
  have hlt := Lookahead.left_of_advance (by simp [hminus]) hadvance
  have hround : signed expression (s.rest.chars.length + 1) s₁ = .ok (operand, s') := by
    rw [← hoperand]
    exact signed_eq s₁.left_lt_budget (Lookahead.lt_of_left_lt hlt)
  have hnot : s.atKeyword "not" = false := by simp [Lookahead.atKeyword, hminus, Token.isKeyword]
  show signed expression (s.rest.chars.length + 1 + 1) s = _
  rw [signed, hnot, if_neg (by decide),
    if_pos (by simp [Lookahead.atSymbol, hminus, Token.isSymbol]), hadvance]
  show (signed expression _ s₁ >>= _) = _
  rw [hround]
  rfl

theorem reader_power {base exponent : Expr} (hbase : reader 7 s = .ok (base, s₁))
    (hcaret : s₁.token = .symbol .caret) (hadvance : s₁.advance = .ok s₂)
    (hexponent : reader 6 s₂ = .ok (exponent, s')) :
    reader 6 s = .ok (.binary .power base exponent false s₁.position, s') := by
  have hle := (steady_reader 7).left_le hbase
  have hlt := Lookahead.left_of_advance (by simp [hcaret]) hadvance
  have hround : powers expression (s.rest.chars.length + 1) s₂ = .ok (exponent, s') := by
    rw [← hexponent]
    exact powers_eq s₂.left_lt_budget (Lookahead.lt_of_left_lt (Nat.lt_of_lt_of_le hlt hle))
  show powers expression (s.rest.chars.length + 1 + 1) s = _
  rw [powers]
  show (reader 7 s >>= _) = _
  rw [hbase]
  show (if s₁.atSymbol .caret then _ else _) = _
  rw [if_pos (by simp [Lookahead.atSymbol, hcaret, Token.isSymbol]), hadvance]
  show (powers expression _ s₂ >>= _) = _
  rw [hround]
  rfl

theorem reader_primary {e : Expr} (h : primary expression s = .ok (e, s')) :
    reader 8 s = goOn 8 e s' := by
  show (primary expression s >>= _) = _
  rw [h]
  rfl

end

end ExprReader

end EventText
