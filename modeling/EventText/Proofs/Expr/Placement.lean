import EventText.Expr.Reader
import EventText.Proofs.Expr.Positions
import EventText.Proofs.Expr.Scanning
import EventText.Proofs.Failure

namespace EventText

theorem Token.eq_of_isSymbol {token : Token} {s : Symbol} (h : token.isSymbol s = true) :
    token = .symbol s := by
  cases token with
  | symbol other => exact congrArg Token.symbol (beq_iff_eq.mp h).symm
  | _ => cases h

theorem Cursor.chars_skipWhile (c : Cursor) (q : Char → Bool) :
    (c.skipWhile q).chars = c.chars.dropWhile q := by
  have h := congrArg (List.drop (c.chars.takeWhile q).length)
    (List.takeWhile_append_dropWhile (p := q) (l := c.chars))
  rw [List.drop_left] at h
  exact h.symm

-- The byte offset at which the source ends.
def Cursor.stop (c : Cursor) : Nat := c.position + Text.encodedLength c.chars

theorem Cursor.stop_drop (c : Cursor) (count : Nat) : (c.drop count).stop = c.stop := by
  have h : Text.encodedLength c.chars =
      Text.encodedLength (c.chars.take count) + Text.encodedLength (c.chars.drop count) := by
    simp only [Text.encodedLength, ← List.sum_append, ← List.map_append, List.take_append_drop]
  simp only [Cursor.stop, Cursor.drop, h, Nat.add_assoc]

-- What a place can still cost at most: the characters behind its token, and the token itself.
def Lookahead.left (s : Lookahead) : Nat :=
  s.rest.chars.length + match s.token with
    | .eof => 0
    | _ => 1

theorem Lookahead.left_lt_budget (s : Lookahead) : s.left < s.budget := by
  unfold Lookahead.left Lookahead.budget
  split <;> omega

def TemplateError.shift (distance : Nat) : TemplateError → TemplateError
  | .parse fault position => .parse fault (position + distance)
  | .bind fault position => .bind fault (position + distance)
  | .resolution fault name arity position => .resolution fault name arity (position + distance)

@[simp] theorem TemplateError.message_shift (distance : Nat) (e : TemplateError) :
    (e.shift distance).message = e.message := by
  cases e <;> rfl

@[simp] theorem TemplateError.position_shift (distance : Nat) (e : TemplateError) :
    (e.shift distance).position = e.position + distance := by
  cases e <;> rfl

-- A place of a source by what is left there, where the source ends, and whether a closing brace
-- still comes.
structure Outlook where
  left : Nat
  stop : Nat
  closed : Prop

namespace Outlook

def succ (o : Outlook) : Outlook := { o with left := o.left + 1 }

@[simp] theorem left_succ (o : Outlook) : o.succ.left = o.left + 1 := rfl

-- A later place of the same source.
structure Reaches (o later : Outlook) : Prop where
  left : later.left ≤ o.left
  stop : later.stop = o.stop
  closed : later.closed → o.closed

theorem Reaches.refl (o : Outlook) : o.Reaches o := ⟨Nat.le_refl _, rfl, id⟩

theorem Reaches.trans {o later latest : Outlook} (h : o.Reaches later)
    (h' : later.Reaches latest) : o.Reaches latest :=
  ⟨Nat.le_trans h'.left h.left, h'.stop.trans h.stop, fun hc => h.closed (h'.closed hc)⟩

theorem Reaches.succ {o later : Outlook} (h : o.Reaches later) : o.succ.Reaches later.succ :=
  ⟨Nat.succ_le_succ h.left, h.stop, h.closed⟩

theorem reaches_succ (o : Outlook) : o.succ.Reaches o := ⟨Nat.le_succ _, rfl, id⟩

end Outlook

def Cursor.outlook (c : Cursor) : Outlook := ⟨c.chars.length, c.stop, '\x7d' ∈ c.chars⟩

def Lookahead.outlook (s : Lookahead) : Outlook :=
  ⟨s.left, s.rest.stop, s.token = .symbol .rightBrace ∨ '\x7d' ∈ s.rest.chars⟩

theorem Cursor.reaches_drop (c : Cursor) (count : Nat) :
    c.outlook.Reaches (c.drop count).outlook := by
  refine ⟨?_, c.stop_drop count, fun h => List.mem_of_mem_drop h⟩
  simp [Cursor.outlook, Cursor.drop]

-- The token of a place has been taken from in front of what follows it.
theorem Lookahead.reaches_rest (s : Lookahead) : s.outlook.Reaches s.rest.outlook :=
  ⟨Nat.le_add_right _ _, rfl, .inr⟩

-- Two computations from places of two sources, the second of which says what the first one says.
-- If the first succeeds, it goes forward only, and the second does the same as long as it can see
-- up to where the first one stops. If the first fails, the second fails in the same way if errors
-- count.
def Mirrors (sees : Outlook → Prop) (errors : Prop) (distance : Nat) (o : Outlook)
    (next : ρ → Outlook) (image : ρ → ρ) : Except TemplateError ρ → Except TemplateError ρ → Prop
  | .ok r, x' => o.Reaches (next r) ∧ (sees (next r) → x' = .ok (image r))
  | .error e, x' => errors → x' = .error (e.shift distance)

namespace Mirrors

variable {sees : Outlook → Prop} {errors : Prop} {distance : Nat} {o : Outlook} {next : ρ → Outlook}
  {image : ρ → ρ} {x x' : Except TemplateError ρ}

theorem ok (next : ρ → Outlook) {r r' : ρ} (h : sees (next r) → r' = image r) :
    Mirrors sees errors distance (next r) next image (.ok r) (.ok r') :=
  ⟨.refl _, fun hsees => congrArg _ (h hsees)⟩

theorem error {e e' : TemplateError} (h : errors → e' = e.shift distance) :
    Mirrors sees errors distance o next image (.error e) (.error e') :=
  fun herrors => congrArg _ (h herrors)

theorem mono {o' : Outlook} (h : Mirrors sees errors distance o next image x x')
    (hreach : o'.Reaches o) : Mirrors sees errors distance o' next image x x' := by
  cases x with
  | error e => exact h
  | ok r => exact ⟨hreach.trans h.1, h.2⟩

-- Less may be asked for behind the first computation than behind the second one.
theorem bind_of {sees' : Outlook → Prop} {next' : σ → Outlook} {image' : σ → σ}
    {f f' : ρ → Except TemplateError σ} (h : Mirrors sees' errors distance o next image x x')
    (hf : ∀ r, x = .ok r → (next r).left ≤ o.left →
      Mirrors sees errors distance (next r) next' image' (f r) (f' (image r)))
    (herrors : ∀ r, x = .ok r → errors → sees' (next r))
    (hsees : ∀ r r', f r = .ok r' → (next r).Reaches (next' r') → sees (next' r') →
      sees' (next r)) :
    Mirrors sees errors distance o next' image' (x >>= f) (x' >>= f') := by
  cases x with
  | error e =>
    intro he
    rw [h he]
    rfl
  | ok r =>
    obtain ⟨hreach, hwithin⟩ := h
    have hr := hf r rfl hreach.left
    change Mirrors sees errors distance o next' image' (f r) _
    cases hfr : f r with
    | error e =>
      intro he
      rw [hfr] at hr
      rw [hwithin (herrors r rfl he)]
      exact hr he
    | ok r' =>
      rw [hfr] at hr
      obtain ⟨hreach', hwithin'⟩ := hr
      refine ⟨hreach.trans hreach', fun h => ?_⟩
      rw [hwithin (hsees r r' hfr hreach' h)]
      exact hwithin' h

theorem ite {c : Prop} [Decidable c] {y y' : Except TemplateError ρ}
    (hthen : c → Mirrors sees errors distance o next image x x')
    (helse : ¬ c → Mirrors sees errors distance o next image y y') :
    Mirrors sees errors distance o next image (if c then x else y) (if c then x' else y') := by
  split
  · next hc => exact hthen hc
  · next hc => exact helse hc

-- One more step may be left on both sides.
theorem succ (hsees : ∀ o, sees (Outlook.succ o) → sees o)
    (h : Mirrors sees errors distance o next image x x') :
    Mirrors sees errors distance o.succ (fun r => (next r).succ) image x x' := by
  cases x with
  | error e => exact h
  | ok r => exact ⟨h.1.succ, fun hs => h.2 (hsees _ hs)⟩

end Mirrors

-- A source as a part of a longer one: so many bytes stand in front of it, and this text behind it.
structure Placement where
  offset : Nat
  behind : List Char

namespace Placement

variable (p : Placement)

def cursor (c : Cursor) : Cursor := ⟨c.chars ++ p.behind, c.position + p.offset⟩

def lexeme (l : Lexeme) : Lexeme := ⟨l.token, l.start + p.offset, l.stop + p.offset⟩

def lookahead (s : Lookahead) : Lookahead := ⟨p.lexeme s.current, p.cursor s.rest⟩

@[simp] theorem token_lookahead (s : Lookahead) : (p.lookahead s).token = s.token := rfl

@[simp] theorem atSymbol_lookahead (s : Lookahead) (symbol : Symbol) :
    (p.lookahead s).atSymbol symbol = s.atSymbol symbol := rfl

@[simp] theorem atKeyword_lookahead (s : Lookahead) (word : String) :
    (p.lookahead s).atKeyword word = s.atKeyword word := rfl

@[simp] theorem position_lookahead (s : Lookahead) :
    (p.lookahead s).position = s.position + p.offset := rfl

theorem budget_lookahead (s : Lookahead) :
    (p.lookahead s).budget = s.budget + p.behind.length := by
  simp only [Lookahead.budget, lookahead, cursor, List.length_append]
  omega

theorem left_lt_budget (s : Lookahead) :
    s.left + p.behind.length < (p.lookahead s).budget := by
  rw [budget_lookahead]
  exact Nat.add_lt_add_right s.left_lt_budget _

theorem drop_cursor {c : Cursor} {count : Nat} (h : count ≤ c.chars.length) :
    (p.cursor c).drop count = p.cursor (c.drop count) := by
  simp only [Cursor.drop, cursor, List.drop_append_of_le_length h, List.take_append_of_le_length h,
    Nat.add_right_comm]

theorem takeWhile_cursor {c : Cursor} {q : Char → Bool}
    (h : p.behind = [] ∨ (c.skipWhile q).chars ≠ []) :
    (p.cursor c).chars.takeWhile q = c.chars.takeWhile q := by
  rcases h with h | h
  · simp only [cursor, h, List.append_nil]
  · refine Lexer.takeWhile_append_of_lt _ _ ?_
    have hpos := List.length_pos_iff.mpr h
    simp only [Cursor.skipWhile, Cursor.drop, List.length_drop] at hpos
    omega

theorem skipWhile_cursor {c : Cursor} {q : Char → Bool}
    (h : p.behind = [] ∨ (c.skipWhile q).chars ≠ []) :
    (p.cursor c).skipWhile q = p.cursor (c.skipWhile q) := by
  rw [Cursor.skipWhile, p.takeWhile_cursor h]
  exact p.drop_cursor (Lexer.takeWhile_length_le q c.chars)

-- Two computations from the same place of a source, the second one with the source put into a
-- longer one. If the first succeeds, it goes forward only, and the second does the same as long as
-- a closing brace comes before the text behind the source. If the first fails, the second fails in
-- the same way, unless it can see more.
def Agrees (o : Outlook) (next : ρ → Outlook) (image : ρ → ρ) :
    Except TemplateError ρ → Except TemplateError ρ → Prop
  | .ok r, within =>
      o.Reaches (next r) ∧ (p.behind = [] ∨ (next r).closed → within = .ok (image r))
  | .error e, within => p.behind = [] → within = .error (e.shift p.offset)

variable {p} {o : Outlook} {next : ρ → Outlook} {image : ρ → ρ} {x x' : Except TemplateError ρ}

theorem agrees_iff_mirrors : p.Agrees o next image x x' ↔
    Mirrors (fun o => p.behind = [] ∨ o.closed) (p.behind = []) p.offset o next image x x' := by
  cases x <;> exact Iff.rfl

theorem Agrees.ok (next : ρ → Outlook) {r r' : ρ} (h : r' = image r) :
    p.Agrees (next r) next image (.ok r) (.ok r') :=
  agrees_iff_mirrors.mpr (.ok next fun _ => h)

theorem Agrees.error {e e' : TemplateError} (h : e' = e.shift p.offset) :
    p.Agrees o next image (.error e) (.error e') := agrees_iff_mirrors.mpr (.error fun _ => h)

theorem Agrees.mono {o' : Outlook} (h : p.Agrees o next image x x') (hreach : o'.Reaches o) :
    p.Agrees o' next image x x' :=
  agrees_iff_mirrors.mpr ((agrees_iff_mirrors.mp h).mono hreach)

theorem Agrees.bind_ok {next' : σ → Outlook} {image' : σ → σ}
    {f f' : ρ → Except TemplateError σ} (h : p.Agrees o next image x x')
    (hf : ∀ r, x = .ok r → (next r).left ≤ o.left →
      p.Agrees (next r) next' image' (f r) (f' (image r))) :
    p.Agrees o next' image' (x >>= f) (x' >>= f') :=
  agrees_iff_mirrors.mpr <| (agrees_iff_mirrors.mp h).bind_of
    (fun r hr hle => agrees_iff_mirrors.mp (hf r hr hle)) (fun _ _ hbehind => .inl hbehind)
    fun _ _ _ hreach hsees => hsees.imp_right hreach.closed

theorem Agrees.bind {next' : σ → Outlook} {image' : σ → σ} {f f' : ρ → Except TemplateError σ}
    (h : p.Agrees o next image x x')
    (hf : ∀ r, (next r).left ≤ o.left → p.Agrees (next r) next' image' (f r) (f' (image r))) :
    p.Agrees o next' image' (x >>= f) (x' >>= f') :=
  h.bind_ok fun r _ => hf r

theorem Agrees.ite {c : Prop} [Decidable c] {y y' : Except TemplateError ρ}
    (hthen : c → p.Agrees o next image x x') (helse : ¬ c → p.Agrees o next image y y') :
    p.Agrees o next image (if c then x else y) (if c then x' else y') :=
  agrees_iff_mirrors.mpr
    (.ite (fun hc => agrees_iff_mirrors.mp (hthen hc)) fun hc => agrees_iff_mirrors.mp (helse hc))

theorem agrees_next (c : Cursor) :
    p.Agrees c.outlook (fun r : Lexeme × Cursor => Lookahead.outlook ⟨r.1, r.2⟩)
      (fun r => (p.lexeme r.1, p.cursor r.2)) (Lexer.next c) (Lexer.next (p.cursor c)) := by
  have hreach : c.outlook.Reaches c.skipBlank.outlook := c.reaches_drop _
  have hskip (h : p.behind = [] ∨ c.skipBlank.chars ≠ []) :
      (p.cursor c).skipBlank = p.cursor c.skipBlank := p.skipWhile_cursor h
  unfold Lexer.next
  dsimp only
  cases hscan : Lexer.scan c.skipBlank.chars with
  | error fault =>
    intro hbehind
    rw [hskip (.inl hbehind)]
    simp only [cursor, hbehind, List.append_nil, hscan]
    rfl
  | ok found =>
    obtain ⟨token, count⟩ := found
    have hscanned := Lexer.scan_eq_ok_iff.mp hscan
    obtain ⟨hcount, hpos⟩ := hscanned.length
    refine ⟨hreach.trans ⟨?_, Cursor.stop_drop _ _, ?_⟩, fun hclosed => ?_⟩
    · simp only [Lookahead.outlook, Lookahead.left, Lookahead.token, Cursor.outlook, Cursor.drop,
        List.length_drop]
      split
      · omega
      · next hne =>
        have := hpos hne
        omega
    · rintro (hbrace | hbehind)
      · cases hbrace
        exact hscanned.mem_rightBrace
      · exact List.mem_of_mem_drop hbehind
    · have hne : p.behind = [] ∨ c.skipBlank.chars ≠ [] := by
        refine hclosed.imp_right ?_
        rintro (hbrace | hrest)
        · cases hbrace
          exact List.ne_nil_of_mem hscanned.mem_rightBrace
        · exact List.ne_nil_of_mem (List.mem_of_mem_drop hrest)
      have hwithin : Lexer.scan (p.cursor c.skipBlank).chars = .ok (token, count) := by
        rcases hclosed with hbehind | hclosed
        · simpa only [cursor, hbehind, List.append_nil] using hscan
        · exact (hscanned.append p.behind hclosed).scan_eq
      rw [hskip hne]
      simp only [hwithin, p.drop_cursor hcount]
      rfl

theorem agrees_ofCursor (c : Cursor) :
    p.Agrees c.outlook Lookahead.outlook p.lookahead (Lookahead.ofCursor c)
      (Lookahead.ofCursor (p.cursor c)) :=
  (agrees_next c).bind fun _ _ => .ok _ rfl

theorem agrees_advance (s : Lookahead) :
    p.Agrees s.outlook Lookahead.outlook p.lookahead s.advance (p.lookahead s).advance :=
  (agrees_ofCursor s.rest).mono s.reaches_rest

theorem left_eq {s : Lookahead} (h : s.token ≠ .eof) : s.left = s.rest.chars.length + 1 := by
  unfold Lookahead.left
  split
  · next heq => exact absurd heq h
  · rfl

theorem eof_of_left {s : Lookahead} (h : s.left = 0) : s.token = .eof := by
  refine Classical.not_not.mp fun hne => ?_
  rw [left_eq hne] at h
  cases h

theorem ne_eof_of_atSymbol {s : Lookahead} {symbol : Symbol} (h : s.atSymbol symbol = true) :
    s.token ≠ .eof := by
  intro heof
  simp [Lookahead.atSymbol, heof, Token.isSymbol] at h

theorem ne_eof_of_expectSymbol {s s' : Lookahead} {symbol : Symbol}
    (h : s.expectSymbol symbol = .ok s') : s.token ≠ .eof := by
  unfold Lookahead.expectSymbol at h
  split at h
  · next hat => exact ne_eof_of_atSymbol hat
  · cases h

theorem ne_eof_of_atKeyword {s : Lookahead} {word : String} (h : s.atKeyword word = true) :
    s.token ≠ .eof := by
  intro heof
  simp [Lookahead.atKeyword, heof, Token.isKeyword] at h

theorem agrees_expectKeyword (word : String) (s : Lookahead) :
    p.Agrees s.outlook Lookahead.outlook p.lookahead (s.expectKeyword word)
      ((p.lookahead s).expectKeyword word) := by
  unfold Lookahead.expectKeyword
  rw [atKeyword_lookahead]
  split
  · exact agrees_advance s
  · exact .error rfl

-- What a reader reads has an image in the longer source, where positions are other ones.
abbrev Reads (p : Placement) (image : α → α) (s : Lookahead) :
    Except TemplateError (α × Lookahead) → Except TemplateError (α × Lookahead) → Prop :=
  p.Agrees s.outlook (fun r => r.2.outlook) (Prod.map image p.lookahead)

theorem Reads.ok {image : α → α} {s : Lookahead} {a a' : α} (h : a' = image a) :
    p.Reads image s (.ok (a, s)) (.ok (a', p.lookahead s)) := by
  subst h
  exact Agrees.ok (fun r : α × Lookahead => r.2.outlook) (r := (a, s)) rfl

theorem agrees_acceptKeyword (word : String) (s : Lookahead) :
    p.Reads id s (s.acceptKeyword word) ((p.lookahead s).acceptKeyword word) := by
  unfold Lookahead.acceptKeyword
  rw [atKeyword_lookahead]
  split
  · exact (agrees_advance s).bind fun _ _ => Reads.ok rfl
  · exact Reads.ok rfl

end Placement

end EventText
