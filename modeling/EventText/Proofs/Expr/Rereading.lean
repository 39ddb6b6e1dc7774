import EventText.Proofs.Expr.Printing

namespace EventText

open ExprReader

namespace ExprReader

section

variable (spell : Float → Numeral)

-- What stands behind a part of a text that is an operand of a level: nothing that binds tighter,
-- and nothing that would make the end of that part something else.
structure Ends (k : Nat) (e : Expr) (t : Token) : Prop where
  loose : Loose k t
  call : t.isSymbol .leftParen = false
  ignoreCase : t.isKeyword "ci" = false
  alternative : k = 0 → e.dangles = true → t.isKeyword "else" = false

-- A reader of a level gets to the end of an expression.
def Reaches (k : Nat) (e : Expr) (s s' : Lookahead) : Prop :=
  ∃ e', reader k s = goOn k e' s' ∧ e'.bare = e.bare

-- An expression is read at every level from the words that stand for it there.
def Arrives (e : Expr) : Prop :=
  ∀ k ≤ 8, ∀ s s', Follows (enclosed k (e.level spell) (e.words spell)) s s' →
    Ends k e s'.token → Reaches k e s s'

-- An expression is read where it stands alone.
def ArrivesAlone (e : Expr) : Prop :=
  ∀ s s', Follows (e.words spell) s s' → Ends 0 e s'.token → Reaches 0 e s s'

end

variable {spell : Float → Numeral} {k : Nat} {e : Expr} {s s' : Lookahead}

theorem Reaches.reads (h : Reaches k e s s') (hstop : grips k s'.token = false) :
    ∃ e', reader k s = .ok (e', s') ∧ e'.bare = e.bare := by
  obtain ⟨e', hread, hbare⟩ := h
  rw [goOn_stop hstop] at hread
  exact ⟨e', hread, hbare⟩

theorem Arrives.reads_operand (h : Arrives spell e) (hk : k ≤ 8)
    (hf : Follows (enclosed k (e.level spell) (e.words spell)) s s') (hends : Ends k e s'.token)
    (hstop : grips k s'.token = false) : ∃ e', reader k s = .ok (e', s') ∧ e'.bare = e.bare :=
  (h k hk s s' hf hends).reads hstop

theorem Arrives.alone (h : Arrives spell e) : ArrivesAlone spell e := h 0 (Nat.zero_le _)

theorem ArrivesAlone.reads_whole (h : ArrivesAlone spell e) (hf : Follows (e.words spell) s s')
    (hends : Ends 0 e s'.token) : ∃ e', expression s = .ok (e', s') ∧ e'.bare = e.bare :=
  (h s s' hf hends).reads rfl

theorem Arrives.reads_whole (h : Arrives spell e) (hf : Follows (e.words spell) s s')
    (hends : Ends 0 e s'.token) : ∃ e', expression s = .ok (e', s') ∧ e'.bare = e.bare :=
  h.alone.reads_whole hf hends

theorem ends_rightParen (e : Expr) : Ends 0 e (.symbol .rightParen) :=
  ⟨loose_of_lt (by decide), rfl, rfl, fun _ _ => rfl⟩

theorem reaches_parenthesized (h : ArrivesAlone spell e) (hk : k ≤ 8)
    (hf : Follows (parenthesized (e.words spell)) s s') (hloose : Loose k s'.token) :
    Reaches k e s s' := by
  obtain ⟨htoken, s₁, hadvance, hf⟩ := hf
  obtain ⟨s₂, hwords, hclose, s₃, hadvance₂, rfl⟩ := follows_append.mp hf
  obtain ⟨e', hread, hbare⟩ := h.reads_whole hwords (by rw [hclose]; exact ends_rightParen e)
  have hprimary : primary expression s = .ok (e', s₃) := by
    simp only [primary, htoken, Word.symbol]
    rw [hadvance, ok_bind, hread, ok_bind, Lookahead.expectSymbol_of hclose hadvance₂]
    rfl
  refine ⟨e', reader_descend hk (Nat.le_refl 8) (reader_primary hprimary) hloose ?_, hbare⟩
  intro _
  simp [Lookahead.atKeyword, Lookahead.atSymbol, htoken, Word.symbol, Token.isKeyword,
    Token.isSymbol]

theorem Ends.of_pos {t : Token} (hk : 0 < k) (hloose : Loose k t)
    (hcall : t.isSymbol .leftParen = false) (hcase : t.isKeyword "ci" = false) : Ends k e t :=
  ⟨hloose, hcall, hcase, fun h => absurd h (Nat.ne_of_gt hk)⟩

-- Where an operand ends, the operand that stands at its end ends as well.
theorem Ends.last {m : Nat} {c : Expr} {t : Token} (h : Ends k e t) (hm : 0 < m) (hle : k ≤ m) :
    Ends m c t :=
  .of_pos hm (h.loose.mono hle) h.call h.ignoreCase

section

variable {op : BinaryOp} {left right : Expr} {ignoreCase : Bool} {position : Nat}

-- The operators of the levels that group to the left are single words.
theorem word_operatorAt (hcomparison : op.level ≠ 3) (hpower : op ≠ .power) :
    ∃ w, op.words = [w] ∧ operatorAt op.level w.token = some op ∧
      ∀ e, Ends op.level e w.token := by
  cases op <;> first
    | exact absurd rfl hcomparison
    | exact absurd rfl hpower
    | exact ⟨_, rfl, by decide, fun e => .of_pos (by decide) (loose_of_lt (by decide)) rfl
        (by decide)⟩

theorem reaches_operator (hl : Arrives spell left) (hr : Arrives spell right)
    (hcomparison : op.level ≠ 3) (hpower : op ≠ .power)
    (hf : Follows ((Expr.binary op left right false position).words spell) s s')
    (hends : Ends op.level e s'.token) :
    Reaches op.level (.binary op left right false position) s s' := by
  obtain ⟨w, hwords, hop, hword⟩ := word_operatorAt hcomparison hpower
  have hlevels : op.leftLevel = op.level ∧ op.rightLevel = op.level + 1 := by
    cases op <;> first | exact absurd rfl hpower | exact ⟨rfl, rfl⟩
  have hpos : 0 < op.level ∧ op.level < 6 := by
    cases op <;> first | exact absurd rfl hpower | decide
  rw [Expr.words, hwords, hlevels.1, hlevels.2] at hf
  obtain ⟨s₁, hleft, htoken, s₂, hadvance, hright⟩ := follows_append.mp hf
  obtain ⟨l, hl, hlbare⟩ := hl _ (by omega) _ _ hleft (by rw [htoken]; exact hword left)
  obtain ⟨r, hr, hrbare⟩ := hr.reads_operand (by omega) hright
    (hends.last (Nat.succ_pos _) (Nat.le_succ _)) (hends.loose _ (Nat.lt_succ_self _))
  rw [goOn_operator (by rw [htoken]; exact hop) hadvance hr] at hl
  exact ⟨_, hl, by simp only [Expr.mapPositions, hlbare, hrbare]⟩

theorem reaches_power (hl : Arrives spell left) (hr : Arrives spell right)
    (hf : Follows ((Expr.binary .power left right false position).words spell) s s')
    (hends : Ends 6 e s'.token) : Reaches 6 (.binary .power left right false position) s s' := by
  obtain ⟨s₁, hleft, hcaret, s₂, hadvance, hright⟩ := follows_append.mp hf
  have hcaret' : s₁.token = .symbol .caret := hcaret
  obtain ⟨l, hl, hlbare⟩ := hl 7 (by decide) _ _ hleft
    (by rw [hcaret']; exact .of_pos (by decide) (loose_of_lt (by decide)) rfl rfl)
  obtain ⟨r, hr, hrbare⟩ := hr.reads_operand (by decide) hright
    (hends.last (by decide) (Nat.le_refl _)) rfl
  exact ⟨_, reader_power hl hcaret' hadvance hr, by simp only [Expr.mapPositions, hlbare, hrbare]⟩

-- The right side of a comparison with what tells that case does not count.
theorem compared_eq (op : BinaryOp) (position : Nat) (hr : Arrives spell right)
    (hf : Follows (if ignoreCase then parenthesized (right.words spell) ++ [Word.name "ci"]
      else enclosed 4 (right.level spell) (right.words spell)) s s')
    (hends : Ends 3 e s'.token) (left : Expr) {s₀ : Lookahead} (hadvance : s₀.advance = .ok s) :
    ∃ r, compared (reader 4) op left position s₀ =
      .ok (.binary op left r ignoreCase position, s') ∧ r.bare = right.bare := by
  cases ignoreCase with
  | false =>
    obtain ⟨r, hr, hbare⟩ := hr.reads_operand (by decide) hf
      (hends.last (by decide) (by decide)) (hends.loose 4 (by decide))
    refine ⟨r, ?_, hbare⟩
    simp only [compared, hadvance, ok_bind, hr, Lookahead.acceptKeyword_of_not hends.ignoreCase]
    rfl
  | true =>
    obtain ⟨s₁, hright, hci, s₂, hadvance₁, rfl⟩ := follows_append.mp hf
    have hreach : Reaches 4 right s s₁ := reaches_parenthesized hr.alone (by decide) hright
      (by rw [hci]; exact loose_of_lt (by decide))
    obtain ⟨r, hr, hbare⟩ := hreach.reads (by rw [hci]; decide)
    refine ⟨r, ?_, hbare⟩
    have hkeyword : s₁.atKeyword "ci" = true := by rw [Lookahead.atKeyword, hci]; decide
    simp only [compared, hadvance, ok_bind, hr, Lookahead.acceptKeyword_of hkeyword hadvance₁]
    rfl

theorem words_comparison (h : op.level = 3) :
    (∃ w, op.words = [w] ∧ comparison? w.token = some op ∧ ∀ e, Ends 3 e w.token) ∨
      ∃ w, op.words = [.name "not", w] ∧ negated? w.token = some op := by
  cases op <;> first
    | exact absurd h (by decide)
    | exact .inl ⟨_, rfl, by decide, fun e => .of_pos (by decide) (loose_of_lt (by decide)) rfl
        (by decide)⟩
    | exact .inr ⟨_, rfl, by decide⟩

theorem reaches_comparison (hl : Arrives spell left) (hr : Arrives spell right)
    (hcomparison : op.level = 3)
    (hf : Follows ((Expr.binary op left right ignoreCase position).words spell) s s')
    (hends : Ends 3 e s'.token) : Reaches 3 (.binary op left right ignoreCase position) s s' := by
  have hlevels : op.leftLevel = 3 ∧ op.rightLevel = 4 := by
    cases op <;> first | exact absurd hcomparison (by decide) | exact ⟨rfl, rfl⟩
  rw [Expr.words, hlevels.1, hlevels.2] at hf
  obtain ⟨s₁, hleft, hf⟩ := follows_append.mp hf
  rcases words_comparison hcomparison with ⟨w, hwords, hop, hword⟩ | ⟨w, hwords, hop⟩
  · rw [hwords] at hf
    obtain ⟨htoken, s₂, hadvance, hright⟩ := hf
    rw [← htoken] at hop hword
    obtain ⟨l, hl, hlbare⟩ := hl 3 (by decide) _ _ hleft (hword left)
    obtain ⟨r, hr, hrbare⟩ := compared_eq op s₁.position hr hright hends l hadvance
    have hstep : comparisonStep (reader 4) l s₁ =
        .ok (some (.binary op l r ignoreCase s₁.position), s') := by
      simp only [comparisonStep, hop]
      rw [hr]
      rfl
    have hlt : s'.left < s₁.left :=
      Nat.lt_of_le_of_lt (left_of_follows hright) (Lookahead.left_of_advance (by
        rintro heof
        rw [heof] at hop
        cases hop) hadvance)
    rw [goOn_comparison hstep hlt] at hl
    exact ⟨_, hl, by simp only [Expr.mapPositions, hlbare, hrbare]⟩
  · rw [hwords] at hf
    obtain ⟨hnot, s₂, hadvance, htoken, s₃, hadvance₂, hright⟩ := hf
    have hnot : s₁.token = .identifier "not" := hnot
    rw [← htoken] at hop
    obtain ⟨l, hl, hlbare⟩ := hl 3 (by decide) _ _ hleft
      (by rw [hnot]; exact .of_pos (by decide) (loose_of_lt (by decide)) rfl (by decide))
    obtain ⟨r, hr, hrbare⟩ := compared_eq op s₁.position hr hright hends l hadvance₂
    have hstep : comparisonStep (reader 4) l s₁ =
        .ok (some (.binary op l r ignoreCase s₁.position), s') := by
      have hnone : comparison? s₁.token = none := by rw [hnot]; decide
      have hkeyword : s₁.atKeyword "not" = true := by rw [Lookahead.atKeyword, hnot]; decide
      simp only [comparisonStep, hnone, hkeyword, if_true]
      rw [hadvance, ok_bind, hop]
      dsimp only
      rw [hr]
      rfl
    have hlt : s'.left < s₁.left := by
      have h₁ := Lookahead.left_of_advance (by simp [hnot]) hadvance
      have hword : Follows [w] s₂ s₃ := ⟨htoken, s₃, hadvance₂, rfl⟩
      have h₂ := left_of_follows hword
      have h₃ := left_of_follows hright
      omega
    rw [goOn_comparison hstep hlt] at hl
    exact ⟨_, hl, by simp only [Expr.mapPositions, hlbare, hrbare]⟩

theorem reaches_nullCheck {op : UnaryOp} {operand : Expr} (ho : Arrives spell operand)
    (hop : op = .isNull ∨ op = .isNotNull)
    (hf : Follows ((Expr.unary op operand).words spell) s s') :
    Reaches 3 (.unary op operand) s s' := by
  -- Both checks start with the same word.
  have start {s₁ : Lookahead} (his : s₁.token = .identifier "is") : Ends 3 operand s₁.token ∧
      comparison? s₁.token = none ∧ s₁.atKeyword "not" = false ∧ s₁.atKeyword "is" = true := by
    rw [Lookahead.atKeyword, Lookahead.atKeyword, his]
    exact ⟨.of_pos (by decide) (loose_of_lt (by decide)) rfl (by decide), by decide⟩
  rcases hop with rfl | rfl
  · obtain ⟨s₁, hoperand, his, s₂, hadvance, hnull, s₃, hadvance₂, rfl⟩ := follows_append.mp hf
    obtain ⟨hends, hop, hnot, hkeyword⟩ := start his
    obtain ⟨o, ho, hobare⟩ := ho 3 (by decide) _ _ hoperand hends
    have hnot₂ : s₂.atKeyword "not" = false := by rw [Lookahead.atKeyword, hnull]; decide
    have hnull₂ : s₂.atKeyword "null" = true := by rw [Lookahead.atKeyword, hnull]; decide
    have hstep : comparisonStep (reader 4) o s₁ = .ok (some (.unary .isNull o), s₃) := by
      simp only [comparisonStep, hop, hnot, hkeyword, if_true, Bool.false_eq_true, if_false]
      rw [hadvance, ok_bind, Lookahead.acceptKeyword_of_not hnot₂, ok_bind,
        Lookahead.expectKeyword_of hnull₂ hadvance₂]
      rfl
    have h₁ := Lookahead.left_of_advance (Placement.ne_eof_of_atKeyword hkeyword) hadvance
    have h₂ := Lookahead.left_of_advance (Placement.ne_eof_of_atKeyword hnull₂) hadvance₂
    rw [goOn_comparison hstep (by omega)] at ho
    exact ⟨_, ho, by simp only [Expr.mapPositions, hobare]⟩
  · obtain ⟨s₁, hoperand, his, s₂, hadvance, hnot', s₃, hadvance₂, hnull, s₄, hadvance₃, rfl⟩ :=
      follows_append.mp hf
    obtain ⟨hends, hop, hnot, hkeyword⟩ := start his
    obtain ⟨o, ho, hobare⟩ := ho 3 (by decide) _ _ hoperand hends
    have hnot₂ : s₂.atKeyword "not" = true := by rw [Lookahead.atKeyword, hnot']; decide
    have hnull₃ : s₃.atKeyword "null" = true := by rw [Lookahead.atKeyword, hnull]; decide
    have hstep : comparisonStep (reader 4) o s₁ = .ok (some (.unary .isNotNull o), s₄) := by
      simp only [comparisonStep, hop, hnot, hkeyword, if_true, Bool.false_eq_true, if_false]
      rw [hadvance, ok_bind, Lookahead.acceptKeyword_of hnot₂ hadvance₂, ok_bind,
        Lookahead.expectKeyword_of hnull₃ hadvance₃]
      rfl
    have h₁ := Lookahead.left_of_advance (Placement.ne_eof_of_atKeyword hkeyword) hadvance
    have h₂ := Lookahead.left_of_advance (Placement.ne_eof_of_atKeyword hnot₂) hadvance₂
    have h₃ := Lookahead.left_of_advance (Placement.ne_eof_of_atKeyword hnull₃) hadvance₃
    rw [goOn_comparison hstep (by omega)] at ho
    exact ⟨_, ho, by simp only [Expr.mapPositions, hobare]⟩

theorem reaches_not {operand : Expr} (ho : Arrives spell operand)
    (hf : Follows ((Expr.unary .not operand).words spell) s s') (hends : Ends 7 e s'.token) :
    Reaches 7 (.unary .not operand) s s' := by
  obtain ⟨hnot, s₁, hadvance, hoperand⟩ := hf
  obtain ⟨o, ho, hobare⟩ := ho 7 (by decide) _ _ hoperand (hends.last (by decide) (Nat.le_refl _))
  have hnot : s.atKeyword "not" = true := by rw [Lookahead.atKeyword, hnot]; decide
  exact ⟨_, reader_not hnot hadvance ho, by simp only [Expr.mapPositions, hobare]⟩

-- A minus sign makes a number of a number only.
theorem negation_of_bare {o operand : Expr} (hbare : o.bare = operand.bare)
    (hw : (Expr.unary .negate operand).IsWritable spell) :
    negation o = .unary .negate o := by
  cases o with
  | constant s =>
    have hconstant : operand = .constant s := by
      cases operand with
      | constant => simpa [Expr.mapPositions, eq_comm] using hbare
      | conditional _ _ alternative => cases alternative <;> simp [Expr.mapPositions] at hbare
      | _ => simp [Expr.mapPositions] at hbare
    subst hconstant
    cases s with
    | int | float => exact hw.elim
    | _ => rfl
  | _ => rfl

theorem reaches_negate {operand : Expr} (ho : Arrives spell operand)
    (hw : (Expr.unary .negate operand).IsWritable spell)
    (hf : Follows ((Expr.unary .negate operand).words spell) s s') (hends : Ends 7 e s'.token) :
    Reaches 7 (.unary .negate operand) s s' := by
  obtain ⟨hminus, s₁, hadvance, hoperand⟩ := hf
  obtain ⟨o, ho, hobare⟩ := ho 7 (by decide) _ _ hoperand (hends.last (by decide) (Nat.le_refl _))
  have hread := reader_minus hminus hadvance ho
  rw [negation_of_bare hobare hw] at hread
  exact ⟨_, hread, by simp only [Expr.mapPositions, hobare]⟩

theorem reaches_member {target : Expr} {name : String} (ht : Arrives spell target)
    (hf : Follows ((Expr.member target name).words spell) s s') :
    Reaches 8 (.member target name) s s' := by
  obtain ⟨s₁, htarget, hdot, s₂, hadvance, hname, s₃, hadvance₂, rfl⟩ := follows_append.mp hf
  obtain ⟨t, ht, htbare⟩ := ht 8 (by decide) _ _ htarget
    (by rw [hdot]; exact .of_pos (by decide) (loose_of_lt (by decide)) rfl rfl)
  rw [goOn_member hdot hadvance hname hadvance₂] at ht
  exact ⟨_, ht, by simp only [Expr.mapPositions, htbare]⟩

theorem ends_leftBracket (target : Expr) : Ends 8 target (.symbol .leftBracket) :=
  .of_pos (by decide) (loose_of_lt (by decide)) rfl rfl

theorem reaches_wildcard {target : Expr} {q : Quantifier} (ht : Arrives spell target)
    (hf : Follows ((Expr.wildcard target q).words spell) s s') :
    Reaches 8 (.wildcard target q) s s' := by
  obtain ⟨s₁, htarget, hopen, s₂, hadvance, hq, s₃, hadvance₂, hclose, s₄, hadvance₃, rfl⟩ :=
    follows_append.mp hf
  obtain ⟨t, ht, htbare⟩ := ht 8 (by decide) _ _ htarget (by rw [hopen]; exact ends_leftBracket _)
  have hquantifier : quantifier? s₂.token = some q := by
    rw [hq]
    cases q <;> rfl
  have haccess : bracketAccess expression t s₂ = .ok (.wildcard t q, s₄) := by
    simp only [bracketAccess, hquantifier, hadvance₂, ok_bind,
      Lookahead.expectSymbol_of hclose hadvance₃]
    rfl
  rw [goOn_bracket hopen hadvance haccess] at ht
  exact ⟨_, ht, by simp only [Expr.mapPositions, htbare]⟩

end

-- A reader that succeeds has called the next tighter one, or there is a sign.
theorem reader_inner {r : Expr × Lookahead} (hk : k < 8) (h : reader k s = .ok r) :
    (∃ r', reader (k + 1) s = .ok r') ∨ s.atKeyword "not" = true ∨ s.atSymbol .minus = true := by
  match k with
  | 0 =>
    refine .inl ⟨r, ?_⟩
    rw [← h]
    exact (expression_eq s).symm
  | 1 | 2 | 3 | 4 | 5 =>
    rw [reader_eq_bind (by decide) (by decide)] at h
    obtain ⟨r', hr', -⟩ := bind_eq_ok.mp h
    exact .inl ⟨r', hr'⟩
  | 6 =>
    have h : powers expression (s.rest.chars.length + 1 + 1) s = .ok r := h
    rw [powers] at h
    obtain ⟨r', hr', -⟩ := bind_eq_ok.mp h
    exact .inl ⟨r', hr'⟩
  | 7 =>
    have h : signed expression (s.rest.chars.length + 1 + 1) s = .ok r := h
    rw [signed] at h
    split at h
    · next hnot => exact .inr (.inl hnot)
    · split at h
      · next hminus => exact .inr (.inr hminus)
      · exact .inl ⟨r, h⟩

-- The symbols that an expression can start with.
theorem symbol_of_primary {symbol : Symbol} {r : Expr × Lookahead}
    (h : primary expression s = .ok r) (hs : s.token = .symbol symbol) :
    symbol ∈ [.leftParen, .leftBracket, .leftBrace] := by
  unfold primary at h
  rw [hs] at h
  cases symbol <;> first | decide | cases h

theorem symbol_of_reader {symbol : Symbol} {r : Expr × Lookahead} (hk : k ≤ 8)
    (h : reader k s = .ok r) (hs : s.token = .symbol symbol) :
    symbol ∈ [.minus, .leftParen, .leftBracket, .leftBrace] := by
  induction hk using Nat.decreasingInduction generalizing r with
  | self =>
    obtain ⟨r', hr', -⟩ := bind_eq_ok.mp (show (primary expression s >>= _) = _ from h)
    exact List.mem_cons_of_mem _ (symbol_of_primary hr' hs)
  | of_succ k hk ih =>
    rcases reader_inner hk h with ⟨r', hr'⟩ | hnot | hminus
    · exact ih hr'
    · simp [Lookahead.atKeyword, hs, Token.isKeyword] at hnot
    · rw [Token.eq_of_isSymbol hminus] at hs
      cases hs
      decide

theorem atSymbol_of_reads (symbol : Symbol) {r : Expr × Lookahead} (h : expression s = .ok r)
    (hsymbol : symbol ∉ [.minus, .leftParen, .leftBracket, .leftBrace]) :
    s.atSymbol symbol = false := by
  cases hat : s.atSymbol symbol with
  | false => rfl
  | true =>
    exact absurd (symbol_of_reader (k := 0) (by decide) h (Token.eq_of_isSymbol hat)) hsymbol

theorem reaches_index {target key : Expr} (ht : Arrives spell target) (hk : Arrives spell key)
    (hf : Follows ((Expr.index target key).words spell) s s') :
    Reaches 8 (.index target key) s s' := by
  obtain ⟨s₁, htarget, hopen, s₂, hadvance, hf⟩ := follows_append.mp hf
  obtain ⟨s₃, hkey, hclose, s₄, hadvance₃, rfl⟩ := follows_append.mp hf
  obtain ⟨t, ht, htbare⟩ := ht 8 (by decide) _ _ htarget (by rw [hopen]; exact ends_leftBracket _)
  obtain ⟨i, hi, hibare⟩ := hk.reads_whole hkey
    (by rw [hclose]; exact ⟨loose_of_lt (by decide), rfl, rfl, fun _ _ => rfl⟩)
  have hquantifier : quantifier? s₂.token = none := by
    have hquestion := atSymbol_of_reads .question hi (by decide)
    have hstar := atSymbol_of_reads .star hi (by decide)
    unfold quantifier?
    split <;> simp_all [Lookahead.atSymbol, Token.isSymbol]
  have haccess : bracketAccess expression t s₂ = .ok (.index t i, s₄) := by
    simp only [bracketAccess, hquantifier, hi, ok_bind, Lookahead.expectSymbol_of hclose hadvance₃]
    rfl
  rw [goOn_bracket hopen hadvance haccess] at ht
  exact ⟨_, ht, by simp only [Expr.mapPositions, htbare, hibare]⟩

section

variable {item : ExprReader α} {wordsOf : α → List Word} {image : α → α} {closing : Symbol}

-- An item is read up to the comma or the closing symbol behind it.
def ReadsItem (item : ExprReader α) (wordsOf : α → List Word) (image : α → α)
    (closing : Symbol) (x : α) : Prop :=
  ∀ s s', Follows (wordsOf x) s s' → s'.token = .symbol .comma ∨ s'.token = .symbol closing →
    s.atSymbol closing = false ∧ ∃ a, item s = .ok (a, s') ∧ image a = image x

theorem separated_commas (hcomma : closing ≠ .comma) {x : α} {xs : List α}
    (hitem : ∀ y ∈ x :: xs, ReadsItem item wordsOf image closing y) {n : Nat} (hn : s.left < n)
    (hf : Follows (commas ((x :: xs).map wordsOf)) s s') (hs' : s'.token = .symbol closing) :
    ∃ as, separated item n s = .ok (as, s') ∧ as.map image = (x :: xs).map image := by
  induction xs generalizing x n s with
  | nil =>
    obtain ⟨-, a, ha, himage⟩ := hitem x (by simp) s s' hf (.inr hs')
    have hend : s'.atSymbol .comma = false := by
      simp [Lookahead.atSymbol, hs', Token.isSymbol, hcomma.symm]
    obtain ⟨n, rfl⟩ := Nat.exists_eq_succ_of_ne_zero (Nat.ne_of_gt (Nat.zero_lt_of_lt hn))
    refine ⟨[a], ?_, by simp [himage]⟩
    simp only [separated, ha, ok_bind, hend]
    rfl
  | cons y ys ih =>
    obtain ⟨s₁, hx, hat, s₂, hadvance, hrest⟩ := follows_append.mp hf
    obtain ⟨hx', hys⟩ := List.forall_mem_cons.mp hitem
    obtain ⟨-, a, ha, himage⟩ := hx' s s₁ hx (.inl hat)
    obtain ⟨n, rfl⟩ := Nat.exists_eq_succ_of_ne_zero (Nat.ne_of_gt (Nat.zero_lt_of_lt hn))
    have hat' : s₁.atSymbol .comma = true := by rw [Lookahead.atSymbol, hat]; rfl
    have hlt := Lookahead.left_of_advance (Placement.ne_eof_of_atSymbol hat') hadvance
    have hle := left_of_follows hx
    obtain ⟨as, has, hall⟩ := ih hys (n := n) (by omega) hrest
    refine ⟨a :: as, ?_, by rw [List.map_cons, hall, himage, ← List.map_cons]⟩
    simp only [separated, ha, ok_bind, hat', if_true, hadvance, has]
    rfl

theorem listUntil_commas (hcomma : closing ≠ .comma) {xs : List α}
    (hitem : ∀ y ∈ xs, ReadsItem item wordsOf image closing y)
    {s₁ : Lookahead} (hf : Follows (commas (xs.map wordsOf)) s s₁)
    (hs₁ : s₁.token = .symbol closing) (hadvance : s₁.advance = .ok s') :
    ∃ as, listUntil closing item s = .ok (as, s') ∧ as.map image = xs.map image := by
  cases xs with
  | nil =>
    obtain rfl : s = s₁ := hf
    have hat : s.atSymbol closing = true := by simp [Lookahead.atSymbol, hs₁, Token.isSymbol]
    refine ⟨[], ?_, rfl⟩
    simp only [listUntil, hat, if_true, hadvance, ok_bind]
    rfl
  | cons x xs =>
    have hopen : s.atSymbol closing = false := by
      cases xs with
      | nil => exact (hitem x (by simp) s s₁ hf (.inr hs₁)).1
      | cons y ys =>
        obtain ⟨s₂, hx, hat, -⟩ := follows_append.mp hf
        exact (hitem x (by simp) s s₂ hx (.inl hat)).1
    obtain ⟨as, has, hall⟩ := separated_commas hcomma hitem s.left_lt_budget hf hs₁
    refine ⟨as, ?_, hall⟩
    simp only [listUntil, hopen, Bool.false_eq_true, if_false, has, ok_bind,
      Lookahead.expectSymbol_of hs₁ hadvance]
    rfl

end

theorem ends_closing {t : Token} (e : Expr) {closing : Symbol}
    (hclosing : closing ∈ [.rightParen, .rightBracket, .rightBrace])
    (h : t = .symbol .comma ∨ t = .symbol closing) : Ends 0 e t := by
  simp only [List.mem_cons, List.not_mem_nil, or_false] at hclosing
  rcases h with rfl | rfl
  · exact ⟨loose_of_lt (by decide), rfl, rfl, fun _ _ => rfl⟩
  · rcases hclosing with rfl | rfl | rfl <;>
      exact ⟨loose_of_lt (by decide), rfl, rfl, fun _ _ => rfl⟩

theorem readsItem_expression (h : Arrives spell e) {closing : Symbol}
    (hclosing : closing ∈ [.rightParen, .rightBracket, .rightBrace]) :
    ReadsItem expression (Expr.words spell) Expr.bare closing e := by
  intro s s' hf hend
  obtain ⟨a, ha, hbare⟩ := h.reads_whole hf (ends_closing e hclosing hend)
  refine ⟨atSymbol_of_reads closing ha ?_, a, ha, hbare⟩
  simp only [List.mem_cons, List.not_mem_nil, or_false] at hclosing
  rcases hclosing with rfl | rfl | rfl <;> decide

theorem readsItem_element {x : Element Expr} (h : Arrives spell x.content) :
    ReadsItem (element expression) (Expr.elementWords spell)
      (Element.map Expr.bare) .rightBracket x := by
  have hmem : Symbol.rightBracket ∈ [.rightParen, .rightBracket, .rightBrace] := by decide
  intro s s' hf hend
  cases x with
  | item e =>
    obtain ⟨hclosed, a, ha, hbare⟩ := readsItem_expression h hmem s s' hf hend
    have hdots := atSymbol_of_reads .dotDot ha (by decide)
    refine ⟨hclosed, .item a, ?_, congrArg Element.item hbare⟩
    simp only [element, hdots, Bool.false_eq_true, if_false, ha, ok_bind]
    rfl
  | spread e =>
    obtain ⟨hdots, s₁, hadvance, hf⟩ := hf
    obtain ⟨-, a, ha, hbare⟩ := readsItem_expression h hmem s₁ s' hf hend
    have hdots' : s.atSymbol .dotDot = true := by rw [Lookahead.atSymbol, hdots]; rfl
    refine ⟨by rw [Lookahead.atSymbol, hdots]; rfl, .spread a, ?_,
      congrArg Element.spread hbare⟩
    simp only [element, hdots', if_true, hadvance, ha, ok_bind]
    rfl

theorem readsItem_member {x : Member Expr} (h : Arrives spell x.content) :
    ReadsItem (member expression) (Expr.memberWords spell)
      (Member.map Expr.bare) .rightBrace x := by
  have hmem : Symbol.rightBrace ∈ [.rightParen, .rightBracket, .rightBrace] := by decide
  intro s s' hf hend
  cases x with
  | named name e =>
    obtain ⟨hname, s₁, hadvance, hcolon, s₂, hadvance₁, hf⟩ := hf
    obtain ⟨-, a, ha, hbare⟩ := readsItem_expression h hmem s₂ s' hf hend
    have hname : s.token = .string name := hname
    have hcolon' : s₁.atSymbol .colon = true := by rw [Lookahead.atSymbol, hcolon]; rfl
    refine ⟨by rw [Lookahead.atSymbol, hname]; rfl, .named name a, ?_,
      congrArg (Member.named name) hbare⟩
    have hdots : s.atSymbol .dotDot = false := by rw [Lookahead.atSymbol, hname]; rfl
    simp only [member, hdots, Bool.false_eq_true, if_false, hadvance, ok_bind, memberName, hname,
      hcolon', if_true, hadvance₁, ha]
    rfl
  | spread e =>
    obtain ⟨hdots, s₁, hadvance, hf⟩ := hf
    obtain ⟨-, a, ha, hbare⟩ := readsItem_expression h hmem s₁ s' hf hend
    have hdots' : s.atSymbol .dotDot = true := by rw [Lookahead.atSymbol, hdots]; rfl
    refine ⟨by rw [Lookahead.atSymbol, hdots]; rfl, .spread a, ?_,
      congrArg Member.spread hbare⟩
    simp only [member, hdots', if_true, hadvance, ha, ok_bind]
    rfl

theorem primary_name {name : String} (htoken : s.token = .identifier name)
    (hreserved : Expr.isReserved name = false) {s₁ : Lookahead} (hadvance : s.advance = .ok s₁) :
    primary expression s = nameOrCall expression name s.position s₁ := by
  simp only [Expr.isReserved, List.any_cons, List.any_nil, Bool.or_false,
    Bool.or_eq_false_iff] at hreserved
  obtain ⟨htrue, hfalse, hnull, hif, -⟩ := hreserved
  have at_eq (word : String) : s.atKeyword word = Text.sameIgnoringAsciiCase name word := by
    rw [Lookahead.atKeyword, htoken]
    rfl
  simp only [primary, htoken, hadvance, ok_bind, at_eq, htrue, hfalse, hnull, hif,
    Bool.false_eq_true, if_false]

theorem reaches_property {name : String} (hw : (Expr.property name).IsWritable spell)
    (hf : Follows ((Expr.property name).words spell) s s') (hends : Ends 8 e s'.token) :
    Reaches 8 (.property name) s s' := by
  obtain ⟨htoken, s₁, hadvance, rfl⟩ := hf
  have hread : primary expression s = .ok (.property name, s₁) := by
    rw [primary_name htoken hw.2 hadvance, nameOrCall,
      show s₁.atSymbol .leftParen = false from hends.call]
    rfl
  exact ⟨_, reader_primary hread, rfl⟩

theorem reaches_builtin {p : BuiltinProperty} (hf : Follows ((Expr.builtin p).words spell) s s') :
    Reaches 8 (.builtin p) s s' := by
  obtain ⟨htoken, s₁, hadvance, rfl⟩ := hf
  have htoken : s.token = .builtin p.name := htoken
  have hread : primary expression s = .ok (.builtin p, s₁) := by
    simp only [primary, htoken, hadvance, ok_bind, builtin, BuiltinProperty.ofName?_name]
    rfl
  exact ⟨_, reader_primary hread, rfl⟩

theorem reaches_call {name : String} {arguments : List Expr} {ignoreCase : Bool} {position : Nat}
    (ha : ∀ a ∈ arguments, Arrives spell a)
    (hw : (Expr.call name arguments ignoreCase position).IsWritable spell)
    (hf : Follows ((Expr.call name arguments ignoreCase position).words spell) s s')
    (hends : Ends 8 e s'.token) : Reaches 8 (.call name arguments ignoreCase position) s s' := by
  obtain ⟨htoken, s₁, hadvance, hopen, s₂, hadvance₁, hf⟩ := hf
  obtain ⟨s₃, harguments, hclose, s₄, hadvance₃, hf⟩ := follows_append.mp hf
  rw [Expr.wordsAll_eq_map] at harguments
  obtain ⟨as, has, hbare⟩ := listUntil_commas (by decide)
    (fun a ha' => readsItem_expression (ha a ha') (by decide)) harguments hclose hadvance₃
  have hopen' : s₁.atSymbol .leftParen = true := by rw [Lookahead.atSymbol, hopen]; rfl
  have hcase : s₄.acceptKeyword "ci" = .ok (ignoreCase, s') := by
    cases ignoreCase with
    | false =>
      obtain rfl : s₄ = s' := hf
      exact Lookahead.acceptKeyword_of_not hends.ignoreCase
    | true =>
      obtain ⟨hci, s₅, hadvance₄, rfl⟩ := hf
      exact Lookahead.acceptKeyword_of (by rw [Lookahead.atKeyword, hci]; decide) hadvance₄
  have hread : primary expression s = .ok (.call name as ignoreCase s.position, s') := by
    rw [primary_name htoken hw.2 hadvance]
    simp only [nameOrCall, hopen', if_true, hadvance₁, ok_bind, has, hcase]
    rfl
  exact ⟨_, reader_primary hread, by simp [Expr.mapPositions, hbare]⟩

theorem reaches_array {elements : List (Element Expr)}
    (h : ∀ x ∈ elements, Arrives spell x.content)
    (hf : Follows ((Expr.array elements).words spell) s s') : Reaches 8 (.array elements) s s' := by
  obtain ⟨hopen, s₁, hadvance, hf⟩ := hf
  obtain ⟨s₂, helements, hclose, s₃, hadvance₂, rfl⟩ := follows_append.mp hf
  rw [Expr.wordsElements_eq_map] at helements
  obtain ⟨xs, hxs, hbare⟩ := listUntil_commas (by decide)
    (fun x hx => readsItem_element (h x hx)) helements hclose hadvance₂
  have hopen : s.token = .symbol .leftBracket := hopen
  have hread : primary expression s = .ok (.array xs, s₃) := by
    simp only [primary, hopen, hadvance, ok_bind, hxs]
    rfl
  exact ⟨_, reader_primary hread, by simp [Expr.mapPositions, hbare]⟩

theorem reaches_object {members : List (Member Expr)}
    (h : ∀ x ∈ members, Arrives spell x.content)
    (hf : Follows ((Expr.object members).words spell) s s') : Reaches 8 (.object members) s s' := by
  obtain ⟨hopen, s₁, hadvance, hf⟩ := hf
  obtain ⟨s₂, hmembers, hclose, s₃, hadvance₂, rfl⟩ := follows_append.mp hf
  rw [Expr.wordsMembers_eq_map] at hmembers
  obtain ⟨xs, hxs, hbare⟩ := listUntil_commas (by decide)
    (fun x hx => readsItem_member (h x hx)) hmembers hclose hadvance₂
  have hopen : s.token = .symbol .leftBrace := hopen
  have hread : primary expression s = .ok (.object xs, s₃) := by
    simp only [primary, hopen, hadvance, ok_bind, hxs]
    rfl
  exact ⟨_, reader_primary hread, by simp [Expr.mapPositions, hbare]⟩

theorem ends_keyword {word : String} (hword : word = "then" ∨ word = "else")
    (halternative : word = "else" → e.dangles = false) : Ends 0 e (Word.name word).token := by
  rcases hword with rfl | rfl
  · exact ⟨loose_of_lt (by decide), rfl, by decide, fun _ _ => by decide⟩
  · exact ⟨loose_of_lt (by decide), rfl, by decide, fun _ h => by simp [halternative] at h⟩

theorem Ends.inner {c : Expr} {t : Token} (h : Ends 0 e t)
    (hd : c.dangles = true → e.dangles = true) : Ends 0 c t :=
  ⟨h.loose, h.call, h.ignoreCase, fun h0 hc => h.alternative h0 (hd hc)⟩

theorem primary_conditional {s₁ : Lookahead} (hif : s.token = .identifier "if")
    (hadvance : s.advance = .ok s₁) : primary expression s = conditional expression s₁ := by
  have hkeywords : s.atKeyword "true" = false ∧ s.atKeyword "false" = false ∧
      s.atKeyword "null" = false ∧ s.atKeyword "if" = true := by
    simp only [Lookahead.atKeyword, hif]
    decide
  simp only [primary, hif, hadvance, ok_bind, hkeywords, Bool.false_eq_true, if_false, if_true]

section

variable {condition consequent : Expr}

-- Where a conditional ends, nothing can go on.
theorem reaches_conditional_none (hc : Arrives spell condition) (ht : Arrives spell consequent)
    (hf : Follows ((Expr.conditional condition consequent none).words spell) s s')
    (hends : Ends 0 (.conditional condition consequent none) s'.token) :
    Reaches 8 (.conditional condition consequent none) s s' := by
  obtain ⟨hif, s₁, hadvance, hf⟩ := hf
  obtain ⟨s₂, hcondition, hthen, s₃, hadvance₂, hconsequent⟩ := follows_append.mp hf
  obtain ⟨c, hc, hcbare⟩ := hc.reads_whole hcondition
    (by rw [hthen]; exact ends_keyword (.inl rfl) (fun h => absurd h (by decide)))
  obtain ⟨t, ht, htbare⟩ := ht.reads_whole hconsequent (hends.inner fun _ => rfl)
  have hthen' : s₂.atKeyword "then" = true := by rw [Lookahead.atKeyword, hthen]; decide
  have helse : s'.atKeyword "else" = false := hends.alternative rfl rfl
  have hread : primary expression s = .ok (.conditional c t none, s') := by
    rw [primary_conditional hif hadvance]
    simp only [conditional, hc, ok_bind, Lookahead.expectKeyword_of hthen' hadvance₂, ht,
      Lookahead.acceptKeyword_of_not helse]
    rfl
  exact ⟨_, reader_primary hread, by simp [hcbare, htbare]⟩

theorem reaches_conditional_some {alternative : Expr} (hc : Arrives spell condition)
    (ht : Arrives spell consequent) (ha : Arrives spell alternative)
    (hf : Follows ((Expr.conditional condition consequent (some alternative)).words spell) s s')
    (hends : Ends 0 (.conditional condition consequent (some alternative)) s'.token) :
    Reaches 8 (.conditional condition consequent (some alternative)) s s' := by
  obtain ⟨hif, s₁, hadvance, hf⟩ := hf
  obtain ⟨s₂, hcondition, hthen, s₃, hadvance₂, hf⟩ := follows_append.mp hf
  obtain ⟨s₄, hconsequent, helse, s₅, hadvance₄, halternative⟩ := follows_append.mp hf
  obtain ⟨c, hc, hcbare⟩ := hc.reads_whole hcondition
    (by rw [hthen]; exact ends_keyword (.inl rfl) (fun h => absurd h (by decide)))
  have hconsequent : ∃ t, expression s₃ = .ok (t, s₄) ∧ t.bare = consequent.bare := by
    cases hd : consequent.dangles with
    | true =>
      rw [hd, if_pos rfl] at hconsequent
      exact (reaches_parenthesized (k := 0) ht.alone (by decide) hconsequent
        (by rw [helse]; exact loose_of_lt (by decide))).reads rfl
    | false =>
      rw [hd, if_neg (by decide)] at hconsequent
      exact ht.reads_whole hconsequent
        (by rw [helse]; exact ends_keyword (.inr rfl) fun _ => hd)
  obtain ⟨t, ht, htbare⟩ := hconsequent
  obtain ⟨a, ha, habare⟩ := ha.reads_whole halternative (hends.inner id)
  have hthen' : s₂.atKeyword "then" = true := by rw [Lookahead.atKeyword, hthen]; decide
  have helse' : s₄.atKeyword "else" = true := by rw [Lookahead.atKeyword, helse]; decide
  have hread : primary expression s = .ok (.conditional c t (some a), s') := by
    rw [primary_conditional hif hadvance]
    simp only [conditional, hc, ok_bind, Lookahead.expectKeyword_of hthen' hadvance₂, ht,
      Lookahead.acceptKeyword_of helse' hadvance₄, if_true, ha]
    rfl
  exact ⟨_, reader_primary hread, by simp [hcbare, htbare, habare]⟩

end

section

variable {m : Scalar}

theorem primary_number (hm : Numeral.magnitude? s.token = some m) (hadvance : s.advance = .ok s') :
    primary expression s = .ok (.constant m, s') := by
  cases htoken : s.token <;> rw [htoken] at hm <;> cases hm <;>
    simp only [primary, htoken, hadvance, ok_bind] <;> rfl

theorem sign_of_magnitude? {t : Token} (hm : Numeral.magnitude? t = some m) :
    t.isKeyword "not" = false ∧ t.isSymbol .minus = false := by
  cases t <;> cases hm <;> exact ⟨rfl, rfl⟩

theorem reader_negative {s₁ : Lookahead} (hminus : s.token = .symbol .minus)
    (hadvance : s.advance = .ok s₁) (hm : Numeral.magnitude? s₁.token = some m)
    (hadvance₁ : s₁.advance = .ok s') (hloose : Loose 7 s'.token) :
    reader 7 s = .ok (negation (.constant m), s') := by
  have hread := reader_primary (primary_number hm hadvance₁)
  rw [goOn_stop (hloose 8 (by decide))] at hread
  exact reader_minus hminus hadvance
    (reader_step (k := 7) (by decide) hread hloose fun _ => sign_of_magnitude? hm)

end

theorem reaches_numeral {numeral : Numeral} {c : Scalar} (h : numeral.Spells c)
    (hf : Follows numeral.words s s') (hends : Ends numeral.level e s'.token) :
    Reaches numeral.level (.constant c) s s' := by
  obtain ⟨m, hm, hvalue⟩ := h.value
  have hm : Numeral.magnitude? (Word.number numeral.chars).token = some m := hm
  unfold Numeral.words at hf
  unfold Numeral.level at hends ⊢
  split at hf
  · next hneg =>
    rw [if_pos hneg] at hends hvalue ⊢
    obtain ⟨hminus, s₁, hadvance, htoken, s₂, hadvance₁, rfl⟩ := hf
    have hread := reader_negative hminus hadvance (htoken.symm ▸ hm) hadvance₁ hends.loose
    rw [hvalue] at hread
    exact ⟨_, hread, rfl⟩
  · next hpos =>
    rw [if_neg hpos] at hends hvalue ⊢
    obtain ⟨htoken, s₁, hadvance, rfl⟩ := hf
    cases hvalue
    exact ⟨_, reader_primary (primary_number (htoken.symm ▸ hm) hadvance), rfl⟩

theorem reaches_constant {c : Scalar} (hw : (Expr.constant c).IsWritable spell)
    (hf : Follows ((Expr.constant c).words spell) s s')
    (hends : Ends ((Expr.constant c).level spell) e s'.token) :
    Reaches ((Expr.constant c).level spell) (.constant c) s s' := by
  have keyword {word : String} {result : Scalar} (hf : Follows [.name word] s s')
      (hread : ∀ s₁, s.token = .identifier word → s.advance = .ok s₁ →
        primary expression s = .ok (.constant result, s₁)) : Reaches 8 (.constant result) s s' := by
    obtain ⟨htoken, s₁, hadvance, rfl⟩ := hf
    exact ⟨_, reader_primary (hread s₁ htoken hadvance), rfl⟩
  cases c with
  | int n => exact reaches_numeral (Numeral.spells_ofInt hw) hf hends
  | float x => exact reaches_numeral hw hf hends
  | null =>
    refine keyword hf fun s₁ htoken hadvance => ?_
    have hkeywords : s.atKeyword "true" = false ∧ s.atKeyword "false" = false ∧
        s.atKeyword "null" = true := by
      simp only [Lookahead.atKeyword, htoken]
      decide
    simp only [primary, htoken, hadvance, ok_bind, hkeywords, Bool.false_eq_true, if_false, if_true]
    rfl
  | bool b =>
    cases b with
    | true =>
      refine keyword hf fun s₁ htoken hadvance => ?_
      have hkeyword : s.atKeyword "true" = true := by
        simp only [Lookahead.atKeyword, htoken]
        decide
      simp only [primary, htoken, hadvance, ok_bind, hkeyword, if_true]
      rfl
    | false =>
      refine keyword hf fun s₁ htoken hadvance => ?_
      have hkeywords : s.atKeyword "true" = false ∧ s.atKeyword "false" = true := by
        simp only [Lookahead.atKeyword, htoken]
        decide
      simp only [primary, htoken, hadvance, ok_bind, hkeywords, Bool.false_eq_true, if_false,
        if_true]
      rfl
  | string text =>
    obtain ⟨htoken, s₁, hadvance, rfl⟩ := hf
    have htoken : s.token = .string text := htoken
    have hread : primary expression s = .ok (.constant (.string text), s₁) := by
      simp only [primary, htoken, hadvance, ok_bind]
      rfl
    exact ⟨_, reader_primary hread, rfl⟩
  | _ => exact hw.elim

end ExprReader

end EventText
