import EventText.Proofs.Expr.Rereading

namespace EventText

open ExprReader

theorem BinaryOp.level_bounds (op : BinaryOp) : 0 < op.level ∧ op.level ≤ 6 := by
  cases op <;> decide

namespace Expr

variable {spell : Float → Numeral}

theorem level_le (e : Expr) : e.level spell ≤ 8 := by
  have hnumeral (numeral : Numeral) : numeral.level ≤ 8 := by
    unfold Numeral.level
    split <;> decide
  cases e with
  | constant s => cases s <;> first | exact hnumeral _ | exact Nat.le_refl 8
  | unary op operand => cases op <;> simp [level]
  | binary op => exact Nat.le_trans op.level_bounds.2 (by decide)
  | conditional => exact Nat.zero_le 8
  | _ => exact Nat.le_refl 8

-- What binds as tightly as a primary, and a conditional, does not start with a sign.
theorem sign_of_follows {e : Expr} (h : e.IsPrintable spell)
    (hlevel : e.level spell = 8 ∨ e.level spell = 0) {s s' : Lookahead}
    (hf : Follows (e.words spell) s s') :
    s.atKeyword "not" = false ∧ s.atSymbol .minus = false := by
  have of_token {t : Token} (ht : s.token = t)
      (hsign : t.isKeyword "not" = false ∧ t.isSymbol .minus = false) :
      s.atKeyword "not" = false ∧ s.atSymbol .minus = false := by
    rw [Lookahead.atKeyword, Lookahead.atSymbol, ht]
    exact hsign
  induction e using childInduction generalizing s' with
  | step e ih =>
    have hw := h.writable
    have target {t : Expr} (ht : t ∈ e.children) {back : List Word}
        (hf : Follows (enclosed 8 (t.level spell) (t.words spell) ++ back) s s') :
        s.atKeyword "not" = false ∧ s.atSymbol .minus = false := by
      obtain ⟨s₁, hfront, -⟩ := follows_append.mp hf
      unfold enclosed at hfront
      split at hfront
      · exact of_token hfront.1 ⟨rfl, rfl⟩
      · next hlt =>
        have hle : t.level spell ≤ 8 := t.level_le
        exact ih t ht (h.child ht) (.inl (by omega)) hfront
    have name {text : String} (hreserved : isReserved text = false)
        (ht : s.token = .identifier text) :
        s.atKeyword "not" = false ∧ s.atSymbol .minus = false := by
      refine of_token ht ⟨?_, rfl⟩
      simp only [isReserved, List.any_cons, Bool.or_eq_false_iff] at hreserved
      exact hreserved.2.2.2.2.1
    cases e with
    | constant c =>
      have numeral {numeral : Numeral} {c : Scalar} (hspells : numeral.Spells c)
          (hlevel : numeral.level = 8 ∨ numeral.level = 0) (hf : Follows numeral.words s s') :
          s.atKeyword "not" = false ∧ s.atSymbol .minus = false := by
        obtain ⟨m, hm, -⟩ := hspells.value
        have hpos : numeral.negative = false := by
          cases hneg : numeral.negative with
          | false => rfl
          | true => simp [Numeral.level, hneg] at hlevel
        rw [Numeral.words, hpos, if_neg (by decide)] at hf
        exact of_token hf.1 (sign_of_magnitude? hm)
      cases c with
      | int n => exact numeral (Numeral.spells_ofInt hw) hlevel hf
      | float x => exact numeral hw hlevel hf
      | null => exact of_token hf.1 (by decide)
      | bool b => cases b <;> exact of_token hf.1 (by decide)
      | string => exact of_token hf.1 ⟨rfl, rfl⟩
      | _ => exact hw.elim
    | property text => exact name hw.2 hf.1
    | call text => exact name hw.2 hf.1
    | builtin p => exact of_token hf.1 ⟨rfl, rfl⟩
    | slot => exact hw.elim
    | member t => exact target (by simp [children]) hf
    | index t => exact target (by simp [children]) hf
    | wildcard t => exact target (by simp [children]) hf
    | array | object => exact of_token hf.1 ⟨rfl, rfl⟩
    | conditional condition consequent alternative =>
      cases alternative <;> exact of_token hf.1 (by decide)
    | unary op operand => cases op <;> simp [level] at hlevel
    | binary op =>
      have hbounds := op.level_bounds
      have hlevel : op.level = 8 ∨ op.level = 0 := hlevel
      omega

-- The level at which the words of an expression are read. Conditionals start like primaries.
def entry (spell : Float → Numeral) : Expr → Nat
  | .conditional _ _ _ => 8
  | e => e.level spell

theorem reaches_entry {e : Expr} (h : e.IsPrintable spell)
    (ih : ∀ c ∈ e.children, Arrives spell c) {s s' : Lookahead}
    (hf : Follows (e.words spell) s s') (hends : Ends (e.level spell) e s'.token) :
    Reaches (e.entry spell) e s s' := by
  have hw := h.writable
  cases e with
  | constant c => exact reaches_constant hw hf hends
  | property name => exact reaches_property hw hf hends
  | builtin p => exact reaches_builtin hf
  | slot n => exact hw.elim
  | member target name => exact reaches_member (ih _ (by simp [children])) hf
  | index target key =>
    exact reaches_index (ih _ (by simp [children])) (ih _ (by simp [children])) hf
  | wildcard target q => exact reaches_wildcard (ih _ (by simp [children])) hf
  | call name arguments ignoreCase position => exact reaches_call ih hw hf hends
  | array elements =>
    exact reaches_array (fun x hx => ih _ (List.mem_map_of_mem hx)) hf
  | object members =>
    exact reaches_object (fun x hx => ih _ (List.mem_map_of_mem hx)) hf
  | conditional condition consequent alternative =>
    cases alternative with
    | none =>
      exact reaches_conditional_none (ih _ (by simp [children])) (ih _ (by simp [children])) hf
        hends
    | some alternative =>
      exact reaches_conditional_some (ih _ (by simp [children])) (ih _ (by simp [children]))
        (ih _ (by simp [children])) hf hends
  | unary op operand =>
    have ho : Arrives spell operand := ih _ (by simp [children])
    cases op with
    | not => exact reaches_not ho hf hends
    | negate => exact reaches_negate ho hw hf hends
    | isNull => exact reaches_nullCheck ho (.inl rfl) hf
    | isNotNull => exact reaches_nullCheck ho (.inr rfl) hf
  | binary op left right ignoreCase position =>
    have hl : Arrives spell left := ih _ (by simp [children])
    have hr : Arrives spell right := ih _ (by simp [children])
    by_cases hcomparison : op.level = 3
    · show Reaches op.level _ s s'
      have hends : Ends op.level _ s'.token := hends
      rw [hcomparison] at hends ⊢
      exact reaches_comparison hl hr hcomparison hf hends
    · have hcase : ignoreCase = false := by
        cases ignoreCase with
        | false => rfl
        | true => exact absurd (hw rfl) hcomparison
      subst hcase
      by_cases hpower : op = .power
      · subst hpower
        exact reaches_power hl hr hf hends
      · exact reaches_operator hl hr hcomparison hpower hf hends

theorem arrives {e : Expr} (h : e.IsPrintable spell) : Arrives spell e := by
  induction e using childInduction with
  | step e ih =>
    have hchildren : ∀ c ∈ e.children, Arrives spell c := fun c hc => ih c hc (h.child hc)
    have hentry : e.entry spell = e.level spell ∨ e.entry spell = 8 ∧ e.level spell = 0 := by
      cases e <;> simp [entry, level]
    have hle : e.entry spell ≤ 8 := by
      have hle : e.level spell ≤ 8 := e.level_le
      omega
    -- As it stands, at its own level and at all looser ones.
    have bare {j : Nat} (hj : j ≤ e.level spell) {s s' : Lookahead}
        (hf : Follows (e.words spell) s s') (hends : Ends j e s'.token) : Reaches j e s s' := by
      have hlevel : Ends (e.level spell) e s'.token :=
        ⟨hends.loose.mono hj, hends.call, hends.ignoreCase, fun h0 => hends.alternative (by omega)⟩
      obtain ⟨e', hread, hbare⟩ := reaches_entry h hchildren hf hlevel
      refine ⟨e', reader_descend (by omega) hle hread hends.loose fun h8 => ?_, hbare⟩
      exact sign_of_follows h (by omega) hf
    intro k hk s s' hf hends
    unfold enclosed at hf
    split at hf
    · next hlt =>
      -- In parentheses at the tighter ones.
      have halone : ArrivesAlone spell e := fun s s' => bare (Nat.zero_le _)
      exact reaches_parenthesized halone hk hf hends.loose
    · next hle => exact bare (by omega) hf hends

end Expr

-- An expression that is written down is read as that expression.
theorem Expr.read_text {spell : Float → Numeral} {e : Expr} (h : e.IsPrintable spell) :
    ∃ e', Expr.read (e.text spell) = .ok e' ∧ e'.bare = e.bare := by
  obtain ⟨s, s', hs, hf, heof⟩ := follows_line (Expr.allLex_words h) 0
  obtain ⟨e', hread, hbare⟩ := (Expr.arrives h).reads_whole hf
    (by rw [heof]; exact ⟨loose_of_lt (by decide), rfl, rfl, fun _ _ => rfl⟩)
  refine ⟨e', ?_, hbare⟩
  have hstart : Lookahead.ofCursor (Cursor.ofString (e.text spell)) = .ok s := by
    rw [Cursor.ofString, Expr.text, String.toList_ofList]
    exact hs
  simp only [Expr.read, hstart, ok_bind, hread, heof]
  rfl

-- A conditional in a branch, a comparison without case, signs in front of a power and of numbers.
theorem Expr.read_text_conditional :
    ∃ e', Expr.read ("if in then ( if is then 'it''s' ) else - ( - 5 ^ y ) = " ++
        "( f ( @p . if [ ? ] , - 2.5 ) ) ci") = .ok e' ∧
      e'.bare = (Expr.conditional (.property "in")
        (.conditional (.property "is") (.constant (.string "it's")) none)
        (some (.binary .equal
          (.unary .negate (.binary .power (.constant (.int (-5))) (.property "y") false 0))
          (.call "f" [.wildcard (.member (.builtin .properties) "if") .any,
            .constant (.float (-floatOfDigits [2] [5]))] false 0) true 0))).bare := by
  let spell : Float → Numeral := fun _ => ⟨true, ['2', '.', '5']⟩
  have hspells : (spell (-floatOfDigits [2] [5])).Spells (.float (-floatOfDigits [2] [5])) :=
    ⟨⟨⟨'2', rfl, by decide⟩, rfl⟩, .float (floatOfDigits [2] [5]), rfl, rfl⟩
  have leaf {c : Expr} (hw : c.IsWritable spell) (hc : c.children = []) : c.IsPrintable spell :=
    isPrintable_iff.mpr ⟨hw, by simp [hc]⟩
  have one {c d : Expr} (hw : c.IsWritable spell) (hc : c.children = [d])
      (hd : d.IsPrintable spell) : c.IsPrintable spell :=
    isPrintable_iff.mpr ⟨hw, by simpa [hc] using hd⟩
  have two {c d₁ d₂ : Expr} (hw : c.IsWritable spell) (hc : c.children = [d₁, d₂])
      (h₁ : d₁.IsPrintable spell) (h₂ : d₂.IsPrintable spell) : c.IsPrintable spell :=
    isPrintable_iff.mpr ⟨hw, by simpa [hc] using ⟨h₁, h₂⟩⟩
  have three {c d₁ d₂ d₃ : Expr} (hw : c.IsWritable spell) (hc : c.children = [d₁, d₂, d₃])
      (h₁ : d₁.IsPrintable spell) (h₂ : d₂.IsPrintable spell) (h₃ : d₃.IsPrintable spell) :
      c.IsPrintable spell :=
    isPrintable_iff.mpr ⟨hw, by simpa [hc] using ⟨h₁, h₂, h₃⟩⟩
  have name {s : String} (hname : IsName s ∧ isReserved s = false) :
      (Expr.property s).IsPrintable spell := leaf hname rfl
  have hbranch := two (c := .conditional _ _ none) trivial rfl (name (s := "is") (by decide))
    (leaf (c := .constant (.string "it's")) trivial rfl)
  have hpower := two (c := .binary .power _ _ false 0) (fun h => by cases h) rfl
    (leaf (c := .constant (.int (-5))) (show (-5 : Int64) ≠ Int64.minValue by decide) rfl)
    (name (s := "y") (by decide))
  have hmember := one (c := .member (.builtin .properties) "if") (show IsName "if" by decide) rfl
    (leaf trivial rfl)
  have hcall := two (c := .call "f" [_, _] false 0)
    (show IsName "f" ∧ isReserved "f" = false by decide) rfl
    (one (c := .wildcard _ .any) trivial rfl hmember)
    (leaf (c := .constant (.float (-floatOfDigits [2] [5]))) hspells rfl)
  have hcomparison := two (c := .binary .equal _ _ true 0) (fun _ => rfl) rfl
    (one (c := .unary .negate (.binary .power _ _ false 0)) trivial rfl hpower) hcall
  have hwhole := three (c := .conditional _ _ (some _)) trivial rfl
    (name (s := "in") (by decide)) hbranch hcomparison
  obtain ⟨e', hread, hbare⟩ := Expr.read_text hwhole
  refine ⟨e', ?_, hbare⟩
  rw [← hread]
  exact congrArg Expr.read (by decide +kernel)

end EventText
