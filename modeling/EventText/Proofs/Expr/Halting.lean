import EventText.Proofs.Expr.Passing

namespace EventText

namespace Mark

-- No word goes on with a mark.
theorem ends_words (mark : Mark) :
    Text.isBlank mark.char = false ∧ Text.isNameChar mark.char = false ∧
      Lexer.isHexDigit mark.char = false ∧ Digit.ofChar? mark.char = none ∧
      mark.char ∉ ['\'', '.', '=', '>', 'x', 'X'] := by
  cases mark <;> decide

theorem takeWhile_append {p : Char → Bool} {mark : Mark} (hp : p mark.char = false)
    (chars later : List Char) :
    (chars ++ mark.char :: later).takeWhile p = chars.takeWhile p := by
  rw [List.takeWhile_append]
  split
  · next hall =>
    rw [List.takeWhile_cons_of_neg (by simp [hp]), List.append_nil]
    exact ((List.takeWhile_prefix p).eq_of_length hall).symm
  · rfl

end Mark

namespace Digits

theorem scan_append_mark (mark : Mark) (chars later : List Char) :
    scan (chars ++ mark.char :: later) =
      ((scan chars).1, (scan chars).2 ++ mark.char :: later) := by
  obtain ⟨-, -, -, hdigit, -⟩ := mark.ends_words
  by_cases hrest : (scan chars).2 = []
  · have htext := text_scan chars
    rw [hrest, List.append_nil] at htext
    have hscan : scan (text (scan chars).1 ++ mark.char :: later) =
        ((scan chars).1, mark.char :: later) := scan_text _ (by simpa using hdigit)
    rw [htext] at hscan
    rw [hscan, hrest, List.nil_append]
  · exact scan_append _ hrest

end Digits

namespace Lexer

variable {chars : List Char} (mark : Mark)

theorem decimalToken_append_mark (chars later : List Char) :
    decimalToken (chars ++ mark.char :: later) = decimalToken chars := by
  obtain ⟨-, -, -, -, hnot⟩ := mark.ends_words
  have hscan (chars : List Char) := Digits.scan_append_mark mark chars later
  by_cases hfraction : ∃ rest, HasFraction chars rest
  · obtain ⟨rest, hpoint, hdigits⟩ := hfraction
    have hwithin : HasFraction (chars ++ mark.char :: later) (rest ++ mark.char :: later) :=
      ⟨by rw [hscan, hpoint, List.cons_append], by rw [hscan]; exact hdigits⟩
    rw [decimalToken_fraction ⟨hpoint, hdigits⟩, decimalToken_fraction hwithin, hscan, hscan]
  · have hwhole := not_exists.mp hfraction
    rw [decimalToken_whole hwhole, decimalToken_whole, hscan]
    rintro rest ⟨hpoint, hdigits⟩
    rw [hscan] at hpoint
    cases hafter : (Digits.scan chars).2 with
    | nil =>
      rw [hafter] at hpoint
      have hchar : mark.char = '.' := (List.cons.inj hpoint).1
      simp [hchar] at hnot
    | cons c after =>
      rw [hafter, List.cons_append] at hpoint
      obtain ⟨rfl, rfl⟩ := List.cons.inj hpoint
      rw [hscan] at hdigits
      exact hwhole after ⟨hafter, hdigits⟩

theorem stringTail_append_mark {text : List Char} {count : Nat}
    (h : stringTail chars = some (text, count)) (later : List Char) :
    stringTail (chars ++ mark.char :: later) = some (text, count) := by
  fun_induction stringTail chars generalizing text count with
  | case1 => cases h
  | case2 rest ih =>
      obtain ⟨⟨inner, n⟩, hinner, heq⟩ := Option.map_eq_some_iff.mp h
      cases heq
      rw [List.cons_append, List.cons_append, stringTail, ih hinner]
      rfl
  | case3 rest hne =>
      cases h
      cases rest with
      | nil => cases mark <;> rfl
      | cons d rest =>
        rw [List.cons_append, List.cons_append, stringTail]
        simpa using hne
  | case4 c rest hdouble hquote ih =>
      obtain ⟨⟨inner, n⟩, hinner, heq⟩ := Option.map_eq_some_iff.mp h
      cases heq
      rw [List.cons_append, stringTail, ih hinner]
      · rfl
      · exact fun _ hc => absurd hc hquote
      · simpa using hquote

theorem symbol?_append_mark {s : Symbol} {count : Nat} (h : symbol? chars = some (s, count))
    (later : List Char) : symbol? (chars ++ mark.char :: later) = some (s, count) := by
  obtain ⟨-, -, -, -, hnot⟩ := mark.ends_words
  fun_cases symbol? chars
  -- Points and angle brackets may be the start of a longer symbol.
  case case13 rest _ => cases rest <;> simp_all [symbol?]
  case case22 rest _ _ => cases rest <;> simp_all [symbol?]
  case case23 rest _ => cases rest <;> simp_all [symbol?]
  case case24 => simp_all [symbol?]
  all_goals exact h

-- A token in front of a mark is read as if nothing followed it.
theorem Scanned.append_mark {token : Token} {count : Nat} (h : Scanned chars token count)
    (hne : token ≠ .eof) (later : List Char) :
    Scanned (chars ++ mark.char :: later) token count := by
  obtain ⟨-, hname, hhex, -, hnot⟩ := mark.ends_words
  cases h with
  | eof => exact absurd rfl hne
  | string h => exact .string (stringTail_append_mark mark h later)
  | @builtin rest h =>
    have htake := Mark.takeWhile_append hname rest later
    have := @builtin (rest ++ mark.char :: later) (by rw [nameLength, htake]; exact h)
    rwa [nameLength, htake] at this
  | @hexadecimal x rest token hx h =>
    have htake := Mark.takeWhile_append hhex rest later
    have := @hexadecimal x (rest ++ mark.char :: later) token hx (by rw [htake]; exact h)
    rwa [htake] at this
  | @decimal c rest hc hx =>
    have happend := decimalToken_append_mark mark (c :: rest) later
    have hhead : ¬ (c = '0' ∧ ((rest ++ mark.char :: later).head? = some 'x' ∨
        (rest ++ mark.char :: later).head? = some 'X')) := by
      cases rest with
      | nil => simp_all
      | cons => exact hx
    have := @decimal c (rest ++ mark.char :: later) hc hhead
    rw [List.cons_append] at happend ⊢
    rwa [happend] at this
  | @name c rest hquote hsign hdigit hc =>
    have htake := Mark.takeWhile_append hname (c :: rest) later
    have := @name c (rest ++ mark.char :: later) hquote hsign hdigit hc
    rw [List.cons_append] at htake ⊢
    rwa [nameLength, htake] at this
  | symbol hquote hsign hdigit hc h =>
    exact .symbol hquote hsign hdigit hc (symbol?_append_mark mark h later)

theorem scan_mark (later : List Char) :
    scan (mark.char :: later) = .ok (.symbol mark.symbol, 1) := by
  cases mark <;> rfl

end Lexer

-- What a place can still cost at most. At the end this is nothing.
def Lookahead.due (s : Lookahead) : Nat :=
  match s.token with
  | .eof => 0
  | _ => s.rest.chars.length + 1

theorem Lookahead.due_of_eof {s : Lookahead} (h : s.token = .eof) : s.due = 0 := by
  rw [due, h]

theorem Lookahead.due_of_ne {s : Lookahead} (h : s.token ≠ .eof) :
    s.due = s.rest.chars.length + 1 := by
  unfold due
  split
  · next heof => exact absurd heof h
  · rfl

theorem Lookahead.due_le_left (s : Lookahead) : s.due ≤ s.left := by
  by_cases heof : s.token = .eof
  · rw [due_of_eof heof]
    exact Nat.zero_le _
  · exact Nat.le_of_eq ((due_of_ne heof).trans (Placement.left_eq heof).symm)

-- A source in front of a mark: so many bytes stand in front of it, and this text behind the mark.
structure Halt where
  offset : Nat
  mark : Mark
  later : List Char

namespace Halt

variable (p : Halt) {s : Lookahead}

def placement : Placement := ⟨p.offset, p.mark.char :: p.later⟩

-- Where the source ends, the mark is found.
def lookahead (s : Lookahead) : Lookahead :=
  match s.token with
  | .eof =>
      ⟨⟨.symbol p.mark.symbol, s.position + p.offset, s.position + p.offset + 1⟩,
        ⟨p.later, s.position + p.offset + 1⟩⟩
  | _ => p.placement.lookahead s

theorem lookahead_eof (h : s.token = .eof) :
    p.lookahead s =
      ⟨⟨.symbol p.mark.symbol, s.position + p.offset, s.position + p.offset + 1⟩,
        ⟨p.later, s.position + p.offset + 1⟩⟩ := by
  rw [lookahead, h]

theorem lookahead_of_ne (h : s.token ≠ .eof) : p.lookahead s = p.placement.lookahead s := by
  unfold lookahead
  split
  · next heof => exact absurd heof h
  · rfl

theorem lookahead_eq_iff : p.lookahead s = p.placement.lookahead s ↔ s.token ≠ .eof := by
  refine ⟨fun h heof => ?_, p.lookahead_of_ne⟩
  have htoken := congrArg Lookahead.token h
  rw [p.lookahead_eof heof, Placement.token_lookahead, heof] at htoken
  cases htoken

theorem skipBlank_cursor (c : Cursor) :
    (p.placement.cursor c).skipBlank = p.placement.cursor c.skipBlank := by
  have htake : (p.placement.cursor c).chars.takeWhile Text.isBlank =
      c.chars.takeWhile Text.isBlank :=
    Mark.takeWhile_append p.mark.ends_words.1 c.chars p.later
  rw [Cursor.skipBlank, Cursor.skipWhile, htake]
  exact p.placement.drop_cursor (Lexer.takeWhile_length_le Text.isBlank c.chars)

theorem ofCursor_of_scan {c : Cursor} {token : Token} {count : Nat}
    (h : Lexer.scan c.skipBlank.chars = .ok (token, count)) :
    Lookahead.ofCursor c =
      .ok ⟨⟨token, c.skipBlank.position, (c.skipBlank.drop count).position⟩,
        c.skipBlank.drop count⟩ := by
  simp only [Lookahead.ofCursor, Lexer.next, h]
  rfl

-- Every token is found again in front of the mark, and the mark where there is none.
theorem ofCursor_placement {c : Cursor} {s : Lookahead} (h : Lookahead.ofCursor c = .ok s) :
    Lookahead.ofCursor (p.placement.cursor c) = .ok (p.lookahead s) := by
  have hskip := p.skipBlank_cursor c
  have hwithin : (p.placement.cursor c).skipBlank.chars =
      c.skipBlank.chars ++ p.mark.char :: p.later := congrArg Cursor.chars hskip
  cases hscan : Lexer.scan c.skipBlank.chars with
  | error fault =>
    simp only [Lookahead.ofCursor, Lexer.next, hscan] at h
    cases h
  | ok found =>
    obtain ⟨token, count⟩ := found
    rw [ofCursor_of_scan hscan] at h
    obtain rfl := Except.ok.inj h
    have hscanned := Lexer.scan_eq_ok_iff.mp hscan
    by_cases heof : token = .eof
    -- There were only blanks left, and the mark comes next.
    · subst heof
      obtain ⟨hnil, rfl⟩ := hscanned.eq_nil
      have hmark : Lexer.scan (p.placement.cursor c).skipBlank.chars =
          .ok (.symbol p.mark.symbol, 1) := by
        rw [hwithin, hnil]
        exact Lexer.scan_mark p.mark p.later
      have hdrop : (p.placement.cursor c.skipBlank).drop 1 =
          ⟨p.later, c.skipBlank.position + p.offset + 1⟩ := by
        simp only [Cursor.drop, Placement.cursor, placement, hnil]
        cases p.mark <;> rfl
      rw [ofCursor_of_scan hmark, hskip, hdrop, p.lookahead_eof rfl]
      rfl
    · have hmark : Lexer.scan (p.placement.cursor c).skipBlank.chars = .ok (token, count) := by
        rw [hwithin]
        exact (hscanned.append_mark p.mark heof p.later).scan_eq
      have hne : Lookahead.token ⟨⟨token, c.skipBlank.position, (c.skipBlank.drop count).position⟩,
          c.skipBlank.drop count⟩ ≠ .eof := heof
      rw [ofCursor_of_scan hmark, hskip, p.placement.drop_cursor hscanned.length.1,
        p.lookahead_of_ne hne]
      rfl

-- An expression may stop in front of the mark, unless it is inside of brackets.
def passage : Passage where
  placement := p.placement
  image := p.lookahead
  outlook s := { s.outlook with left := s.due }
  sees
    | .outer, _ => True
    | .inner, o => 0 < o.left
  errors := False
  sees_mono {depth _ _} hreach h := by
    cases depth with
    | outer => trivial
    | inner => exact Nat.lt_of_lt_of_le h hreach.left
  sees_outer _ := trivial
  sees_of_succ _ := trivial
  sees_of_errors := False.elim
  sees_inner hne _ _ := by
    change 0 < Lookahead.due _
    rw [Lookahead.due_of_ne hne]
    exact Nat.succ_pos _
  left_of_ne := Lookahead.due_of_ne
  left_lt_budget s := Nat.lt_of_le_of_lt s.due_le_left s.left_lt_budget
  left_lt_budget_image s := by
    by_cases heof : s.token = .eof
    · change s.due < _
      rw [Lookahead.due_of_eof heof]
      exact Nat.succ_pos _
    · rw [p.lookahead_of_ne heof]
      refine Nat.lt_of_le_of_lt s.due_le_left ?_
      exact Nat.lt_of_le_of_lt (Nat.le_add_right _ _) (p.placement.left_lt_budget s)
  image_eq h := by
    refine p.lookahead_of_ne fun heof => ?_
    have hdue := Lookahead.due_of_eof heof
    exact h.elim (absurd hdue) fun hpos => absurd hdue (Nat.ne_of_gt hpos)
  image_end {s} hend := .inr ⟨p.mark, by
    have heof : s.token = .eof := Classical.not_not.mp fun hne => by
      rw [Lookahead.due_of_ne hne] at hend
      cases hend
    rw [p.lookahead_eof heof]
    rfl⟩
  reaches_rest hsame := by
    have hne := p.lookahead_eq_iff.mp hsame
    refine ⟨?_, rfl, .inr⟩
    change _ ≤ Lookahead.due _
    rw [Lookahead.due_of_ne hne]
    exact Nat.le_succ _
  ofCursor c := by
    have hreach := Placement.agrees_ofCursor (p := p.placement) c
    cases h : Lookahead.ofCursor c with
    | error e => exact False.elim
    | ok s =>
      rw [h] at hreach
      exact ⟨⟨Nat.le_trans s.due_le_left hreach.1.left, hreach.1.stop, hreach.1.closed⟩,
        fun _ => p.ofCursor_placement h⟩

end Halt

-- What is an expression on its own is read as that in front of a mark, up to the mark.
theorem Expr.read_marked {source : String} {e : Expr} (h : Expr.read source = .ok e) (offset : Nat)
    (mark : Mark) (later : List Char) :
    ∃ s i j position,
      Lookahead.ofCursor ⟨source.toList ++ mark.char :: later, offset⟩ = .ok s ∧
        ExprReader.expression s =
          .ok (e.shift offset, ⟨⟨.symbol mark.symbol, i, j⟩, ⟨later, position⟩⟩) := by
  obtain ⟨s, hs, h⟩ := bind_eq_ok.mp h
  obtain ⟨⟨e', s'⟩, hexpression, h⟩ := bind_eq_ok.mp h
  dsimp only at h
  split at h
  · next heof =>
    obtain rfl := pure_eq_ok.mp h
    let p : Halt := ⟨offset, mark, later⟩
    have hcursor := p.ofCursor_placement hs
    have hreads := Passage.reads_expression (T := p.passage) s
    rw [hexpression] at hreads
    have hread : ExprReader.expression (p.lookahead s) = .ok (e'.shift offset, p.lookahead s') :=
      hreads.2 trivial
    rw [p.lookahead_eof heof] at hread
    refine ⟨_, _, _, _, ?_, hread⟩
    rw [← hcursor, Placement.cursor, Cursor.ofString, Nat.zero_add]
    rfl
  · cases h

end EventText
