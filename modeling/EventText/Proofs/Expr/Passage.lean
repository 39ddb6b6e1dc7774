import EventText.Proofs.Expr.Placement

namespace EventText

-- What can stand behind the expression of a hole.
inductive Mark
  | comma
  | colon
  | brace

namespace Mark

def char : Mark → Char
  | comma => ','
  | colon => ':'
  | brace => '\x7d'

def symbol : Mark → Symbol
  | comma => .comma
  | colon => .colon
  | brace => .rightBrace

-- The symbols that an expression is asked for where it may be over.
theorem ne_symbol (mark : Mark) {symbol : Symbol} (h : symbol ∉ [.comma, .colon, .rightBrace]) :
    symbol ≠ mark.symbol := by
  rintro rfl
  revert h
  cases mark <;> decide

end Mark

-- Where an expression stands. Inside of brackets it cannot be the last thing of its source.
inductive Depth
  | outer
  | inner

-- Another source to read an expression from. It has an image of each place of the first source: the
-- same place further on, or perhaps a mark where the first source ends. What is left at a place
-- decides whether the other source still says the same there, and inside of brackets more has to be
-- left than outside of them. Errors need not be the same.
structure Passage where
  placement : Placement
  image : Lookahead → Lookahead
  outlook : Lookahead → Outlook
  sees : Depth → Outlook → Prop
  errors : Prop
  sees_mono {depth : Depth} {o later : Outlook} : o.Reaches later → sees depth later → sees depth o
  sees_outer {depth : Depth} {o : Outlook} : sees depth o → sees .outer o
  sees_of_succ {o : Outlook} : sees .outer o.succ → sees .outer o
  sees_of_errors {depth : Depth} {o : Outlook} : errors → sees depth o
  sees_inner {s : Lookahead} {later : Outlook} :
    s.token ≠ .eof → (outlook s).Reaches later → sees .outer later → sees .inner (outlook s)
  left_of_ne {s : Lookahead} : s.token ≠ .eof → (outlook s).left = s.rest.chars.length + 1
  left_lt_budget (s : Lookahead) : (outlook s).left < s.budget
  left_lt_budget_image (s : Lookahead) : (outlook s).left < (image s).budget
  image_eq {s : Lookahead} :
    (outlook s).left ≠ 0 ∨ sees .inner (outlook s) → image s = placement.lookahead s
  image_end {s : Lookahead} : (outlook s).left = 0 →
    (image s).token = .eof ∨ ∃ mark : Mark, (image s).token = .symbol mark.symbol
  reaches_rest {s : Lookahead} :
    image s = placement.lookahead s → (outlook s).Reaches s.rest.outlook
  ofCursor (c : Cursor) : Mirrors (sees .outer) errors placement.offset c.outlook outlook image
    (Lookahead.ofCursor c) (Lookahead.ofCursor (placement.cursor c))

namespace Passage

variable {T : Passage} {d : Depth} {o : Outlook} {next : ρ → Outlook} {image : ρ → ρ}
  {x x' : Except TemplateError ρ} {s : Lookahead}

def shift (T : Passage) : Expr → Expr := Expr.shift T.placement.offset

-- What a place can still cost at most.
def left (T : Passage) (s : Lookahead) : Nat := (T.outlook s).left

theorem eof_of_left (h : T.left s = 0) : s.token = .eof := by
  refine Classical.not_not.mp fun hne => ?_
  rw [left, T.left_of_ne hne] at h
  cases h

theorem image_of_ne (T : Passage) (h : s.token ≠ .eof) : T.image s = T.placement.lookahead s :=
  T.image_eq (.inl fun hend => h (eof_of_left hend))

-- What takes the end for no more than the marks does not see the difference.
theorem apply_token (T : Passage) (f : Token → β)
    (h : ∀ mark : Mark, f (.symbol mark.symbol) = f .eof) (s : Lookahead) :
    f (T.image s).token = f s.token := by
  by_cases hend : T.left s = 0
  · have heof : s.token = .eof := Passage.eof_of_left hend
    rcases T.image_end hend with hsame | ⟨mark, hmark⟩
    · rw [hsame, heof]
    · rw [hmark, heof, h]
  · rw [T.image_eq (.inl hend)]
    rfl

theorem atSymbol_image {symbol : Symbol} (h : symbol ∉ [.comma, .colon, .rightBrace])
    (s : Lookahead) : (T.image s).atSymbol symbol = s.atSymbol symbol :=
  T.apply_token (Token.isSymbol symbol)
    (fun mark => beq_eq_false_iff_ne.mpr (mark.ne_symbol h)) s

@[simp] theorem atKeyword_image (s : Lookahead) (word : String) :
    (T.image s).atKeyword word = s.atKeyword word :=
  T.apply_token (Token.isKeyword word) (fun _ => rfl) s

theorem unexpected_image (h : T.errors) (expectation : Expectation) :
    (T.image s).unexpected expectation = (s.unexpected expectation).shift T.placement.offset := by
  rw [T.image_eq (.inr (T.sees_of_errors h))]
  rfl

theorem position_image (h : s.token ≠ .eof) :
    (T.image s).position = s.position + T.placement.offset := by
  rw [T.image_of_ne h]
  rfl

-- The relation between the two computations that are read from a place and from its image.
abbrev Reads (T : Passage) (depth : Depth) (o : Outlook) (next : ρ → Outlook) (image : ρ → ρ) :
    Except TemplateError ρ → Except TemplateError ρ → Prop :=
  Mirrors (T.sees depth) T.errors T.placement.offset o next image

end Passage

section

variable {T : Passage} {d : Depth} {o : Outlook} {next : ρ → Outlook} {image : ρ → ρ}
  {x x' : Except TemplateError ρ} {s : Lookahead}

theorem Mirrors.bind {next' : σ → Outlook} {image' : σ → σ} {f f' : ρ → Except TemplateError σ}
    (h : T.Reads d o next image x x') (hf : ∀ r, (next r).left ≤ o.left →
      T.Reads d (next r) next' image' (f r) (f' (image r))) :
    T.Reads d o next' image' (x >>= f) (x' >>= f') :=
  h.bind_of (fun r _ => hf r) (fun _ _ => T.sees_of_errors) fun _ _ _ => T.sees_mono

theorem Mirrors.deepen (h : T.Reads .outer o next image x x') : T.Reads d o next image x x' := by
  cases x with
  | error e => exact h
  | ok r => exact ⟨h.1, fun hsees => h.2 (T.sees_outer hsees)⟩

theorem Mirrors.afterStep (h : T.Reads .outer o next image x x') :
    T.Reads .outer o.succ (fun r => (next r).succ) image x x' :=
  Mirrors.succ (fun _ => T.sees_of_succ) h

-- Where more is seen than the end, it is enough that the first computation fails there.
theorem Mirrors.unless_end (h : T.image s = T.placement.lookahead s → T.Reads d o next image x x')
    (hfails : T.left s = 0 → ∀ r, x ≠ .ok r) : T.Reads d o next image x x' := by
  by_cases hsame : T.image s = T.placement.lookahead s
  · exact h hsame
  · have hend : T.left s = 0 := Classical.not_not.mp fun hne => hsame (T.image_eq (.inl hne))
    cases x with
    | error e => exact fun herrors => absurd (T.image_eq (.inr (T.sees_of_errors herrors))) hsame
    | ok r => exact absurd rfl (hfails hend r)

-- Inside of brackets, a mark in place of the end is not taken for one if the first computation
-- stops where there is none.
theorem Mirrors.ite_atSymbol {symbol : Symbol} {y y' : Except TemplateError ρ}
    (hthen : s.atSymbol symbol = true → T.Reads .inner (T.outlook s) next image x x')
    (helse : T.Reads .inner (T.outlook s) next image y y')
    (hstays : ∀ r, y = .ok r → next r = T.outlook s) :
    T.Reads .inner (T.outlook s) next image (if s.atSymbol symbol then x else y)
      (if (T.image s).atSymbol symbol then x' else y') := by
  by_cases hsame : T.image s = T.placement.lookahead s
  · rw [hsame, Placement.atSymbol_lookahead]
    exact .ite hthen fun _ => helse
  · have heof : s.token = .eof := Classical.not_not.mp fun hne => hsame (T.image_of_ne hne)
    rw [if_neg fun hat => Placement.ne_eof_of_atSymbol hat heof]
    cases y with
    | error e => exact fun herrors => absurd (T.image_eq (.inr (T.sees_of_errors herrors))) hsame
    | ok r =>
      refine ⟨helse.1, fun hsees => absurd (T.image_eq (.inr ?_)) hsame⟩
      rw [← hstays r rfl]
      exact hsees

-- Every token but the end takes a step.
theorem Mirrors.step (hs : s.token ≠ .eof) {next : σ → Outlook} {image : σ → σ}
    {f f' : Lookahead → Except TemplateError σ} (h : ∀ s', T.left s' < T.left s →
      T.Reads d (T.outlook s').succ next image (f s') (f' (T.image s'))) :
    T.Reads d (T.outlook s) next image (s.advance >>= f) ((T.image s).advance >>= f') := by
  rw [T.image_of_ne hs]
  have hleft : T.left s = s.rest.outlook.succ.left := T.left_of_ne hs
  have hreach : (T.outlook s).Reaches s.rest.outlook := T.reaches_rest (T.image_of_ne hs)
  have hnext : T.Reads d s.rest.outlook.succ (fun s' => (T.outlook s').succ) T.image s.advance
      (T.placement.lookahead s).advance := (T.ofCursor s.rest).afterStep.deepen
  refine Mirrors.mono (o := s.rest.outlook.succ) ?_
    ⟨Nat.le_of_eq hleft.symm, hreach.stop, hreach.closed⟩
  refine hnext.bind fun s' hle => h s' ?_
  exact Nat.lt_of_succ_le (Nat.le_trans hle (Nat.le_of_eq hleft.symm))

theorem Mirrors.pass (hs : s.token ≠ .eof) {next : σ → Outlook} {image : σ → σ}
    {f f' : Lookahead → Except TemplateError σ} (h : ∀ s', T.left s' < T.left s →
      T.Reads d (T.outlook s') next image (f s') (f' (T.image s'))) :
    T.Reads d (T.outlook s) next image (s.advance >>= f) ((T.image s).advance >>= f') :=
  .step hs fun s' hlt => (h s' hlt).mono (T.outlook s').reaches_succ

end

namespace Passage

variable {T : Passage} {d : Depth} {s : Lookahead}

theorem reads_advance (hsame : T.image s = T.placement.lookahead s) :
    T.Reads d (T.outlook s) T.outlook T.image s.advance (T.image s).advance := by
  rw [hsame]
  exact ((T.ofCursor s.rest).mono (T.reaches_rest hsame)).deepen

theorem reads_expectSymbol (symbol : Symbol) (s : Lookahead) :
    T.Reads d (T.outlook s) T.outlook T.image (s.expectSymbol symbol)
      ((T.image s).expectSymbol symbol) := by
  unfold Lookahead.expectSymbol
  refine .unless_end (s := s) (fun hsame => ?_) fun hend r => ?_
  · have hadvance := reads_advance (d := d) hsame
    rw [hsame] at hadvance ⊢
    exact .ite (fun _ => hadvance) fun _ => .error fun _ => rfl
  · rw [if_neg fun hat => Placement.ne_eof_of_atSymbol hat (Passage.eof_of_left hend)]
    exact fun h => by cases h

theorem reads_expectKeyword (word : String) (s : Lookahead) :
    T.Reads d (T.outlook s) T.outlook T.image (s.expectKeyword word)
      ((T.image s).expectKeyword word) := by
  unfold Lookahead.expectKeyword
  refine .unless_end (s := s) (fun hsame => ?_) fun hend r => ?_
  · have hadvance := reads_advance (d := d) hsame
    rw [hsame] at hadvance ⊢
    exact .ite (fun _ => hadvance) fun _ => .error fun _ => rfl
  · rw [if_neg fun hat => Placement.ne_eof_of_atKeyword hat (Passage.eof_of_left hend)]
    exact fun h => by cases h

-- What a reader reads has an image in the other source, where positions are other ones.
abbrev ReadsAt (T : Passage) (depth : Depth) (image : α → α) (s : Lookahead) :
    Except TemplateError (α × Lookahead) → Except TemplateError (α × Lookahead) → Prop :=
  T.Reads depth (T.outlook s) (fun r => T.outlook r.2) (Prod.map image T.image)

theorem ReadsAt.ok {image : α → α} {a a' : α} (h : a' = image a) :
    T.ReadsAt d image s (.ok (a, s)) (.ok (a', T.image s)) :=
  Mirrors.ok (r := (a, s)) (fun r : α × Lookahead => T.outlook r.2) fun _ => by rw [h]; rfl

theorem reads_acceptKeyword (word : String) (s : Lookahead) :
    T.ReadsAt d id s (s.acceptKeyword word) ((T.image s).acceptKeyword word) := by
  unfold Lookahead.acceptKeyword
  rw [atKeyword_image]
  refine .ite (fun hat => ?_) fun _ => ReadsAt.ok rfl
  exact .pass (Placement.ne_eof_of_atKeyword hat) fun _ _ => ReadsAt.ok rfl

-- The same at all places that have less left than a bound.
def ReadsBelow (T : Passage) (depth : Depth) (bound : Nat) (image : α → α)
    (read read' : ExprReader α) : Prop :=
  ∀ s, T.left s < bound → T.ReadsAt depth image s (read s) (read' (T.image s))

end Passage

end EventText
