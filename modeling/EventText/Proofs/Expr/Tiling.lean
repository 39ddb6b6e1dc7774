import EventText.Proofs.Expr.Places

namespace EventText

open Text (Boundary encodedLength encodedLength_append)

namespace Lexer

variable {c rest : Cursor} {lexeme : Lexeme}

theorem tokensFrom_of_eof (h : next c = .ok (lexeme, rest)) (hend : lexeme.token = .eof)
    (fuel : Nat) : tokensFrom (fuel + 1) c = ([lexeme], none) := by
  obtain ⟨token, start, stop⟩ := lexeme
  cases hend
  rw [tokensFrom, h]

theorem tokensFrom_of_ne (h : next c = .ok (lexeme, rest)) (hne : lexeme.token ≠ .eof)
    (fuel : Nat) : tokensFrom (fuel + 1) c
      = (lexeme :: (tokensFrom fuel rest).1, (tokensFrom fuel rest).2) := by
  obtain ⟨token, start, stop⟩ := lexeme
  rw [tokensFrom, h]
  cases token with
  | eof => exact absurd rfl hne
  | _ => rfl

theorem tokensFrom_of_error {e : TemplateError} (h : next c = .error e) (fuel : Nat) :
    tokensFrom (fuel + 1) c = ([], some e) := by
  rw [tokensFrom, h]

-- Tokens taken one after the other up to the end of a source, or up to the first error.
inductive Runs : Cursor → List Lexeme → Option TemplateError → Prop
  | finish {c rest : Cursor} {lexeme : Lexeme} (h : next c = .ok (lexeme, rest))
      (hend : lexeme.token = .eof) : Runs c [lexeme] none
  | fail {c : Cursor} {e : TemplateError} (h : next c = .error e) : Runs c [] (some e)
  | step {c rest : Cursor} {lexeme : Lexeme} {lexemes : List Lexeme} {error : Option TemplateError}
      (h : next c = .ok (lexeme, rest)) (hne : lexeme.token ≠ .eof)
      (others : Runs rest lexemes error) : Runs c (lexeme :: lexemes) error

-- A token that is not the end takes a character, so that the characters are enough rounds.
theorem runs_tokensFrom {fuel : Nat} (h : c.chars.length < fuel) :
    Runs c (tokensFrom fuel c).1 (tokensFrom fuel c).2 := by
  induction fuel generalizing c with
  | zero => cases h
  | succ fuel ih =>
    cases hnext : next c with
    | error e =>
      rw [tokensFrom_of_error hnext]
      exact .fail hnext
    | ok found =>
      obtain ⟨lexeme, rest⟩ := found
      by_cases heof : lexeme.token = .eof
      · rw [tokensFrom_of_eof hnext heof]
        exact .finish hnext heof
      · rw [tokensFrom_of_ne hnext heof]
        refine .step hnext heof (ih ?_)
        obtain ⟨blanks, word, htakes⟩ := exists_takes hnext
        have hpos := htakes.scanned.length.2 heof
        have hlength := congrArg List.length htakes.chars
        rw [List.length_append, List.length_append] at hlength
        omega

end Lexer

-- A text stands in a source between two byte offsets.
def Text.Spans (source text : List Char) (start stop : Nat) : Prop :=
  ∃ front back, source = front ++ (text ++ back) ∧ start = encodedLength front ∧
    stop = start + encodedLength text

-- Nothing but blanks stands there.
def Text.Gap (source : List Char) (start stop : Nat) : Prop :=
  ∃ blanks, Spans source blanks start stop ∧ ∀ b ∈ blanks, isBlank b = true

theorem Text.Spans.boundaries {source text : List Char} {start stop : Nat}
    (h : Spans source text start stop) : Boundary source start ∧ Boundary source stop := by
  obtain ⟨front, back, hsource, rfl, rfl⟩ := h
  refine ⟨⟨front, text ++ back, hsource, rfl⟩, front ++ text, back, ?_, ?_⟩
  · rw [hsource, List.append_assoc]
  · exact (encodedLength_append front text).symm

theorem Cursor.seek_boundary (front back : List Char) (position : Nat) :
    seekFrom (position + encodedLength front) position (front ++ back)
      = ⟨back, position + encodedLength front⟩ := by
  induction front generalizing position with
  | nil =>
    cases back with
    | nil => rfl
    | cons c back => exact if_pos (Nat.le_refl _)
  | cons c front ih =>
    have hlength : position + encodedLength (c :: front)
        = position + c.utf8Size + encodedLength front := by
      simp only [encodedLength, List.map_cons, List.sum_cons]
      omega
    have hpos := c.utf8Size_pos
    rw [hlength, List.cons_append, seekFrom, if_neg (by omega), ih]

namespace Lexer

-- What stands between the tokens from a place on, and before an error, is blank.
def Gaps (source : List Char) : Nat → List Lexeme → Option TemplateError → Prop
  | _, [], none => True
  | start, [], some e => Text.Gap source start e.position
  | start, lexeme :: rest, error =>
      Text.Gap source start lexeme.start ∧ Gaps source lexeme.stop rest error

-- A text is this one token and nothing else.
def StandsFor (word : List Char) (token : Token) : Prop :=
  tokens (String.ofList word) 0 =
    ([⟨token, 0, encodedLength word⟩, ⟨.eof, encodedLength word, encodedLength word⟩], none)

-- The tokens of a source from a place on, up to its end or up to a character that starts none.
structure Tiling (source : List Char) (start : Nat) (lexemes : List Lexeme)
    (error : Option TemplateError) : Prop where
  words : ∀ l ∈ lexemes, l.token ≠ .eof →
    l.start < l.stop ∧ ∃ word, Text.Spans source word l.start l.stop ∧ StandsFor word l.token
  ordered : lexemes.Pairwise fun earlier later => earlier.stop ≤ later.start
  within : ∀ l ∈ lexemes, start ≤ l.start ∧ l.start ≤ l.stop ∧ l.stop ≤ encodedLength source
  boundaries : ∀ l ∈ lexemes, Boundary source l.start ∧ Boundary source l.stop
  gaps : Gaps source start lexemes error
  finished : error = none → ∃ front,
    lexemes = front ++ [⟨.eof, encodedLength source, encodedLength source⟩] ∧
      ∀ l ∈ front, l.token ≠ .eof
  failed : ∀ e ∈ error, Boundary source e.position ∧ ∀ l ∈ lexemes, l.token ≠ .eof

variable {source : List Char} {c rest : Cursor} {lexeme : Lexeme} {blanks word : List Char}
  {lexemes : List Lexeme} {error : Option TemplateError}

theorem Takes.le_start (h : Takes c lexeme rest blanks word) : c.position ≤ lexeme.start := by
  rw [h.start]
  exact Nat.le_add_right _ _

theorem Takes.start_lt_stop (h : Takes c lexeme rest blanks word) (hne : lexeme.token ≠ .eof) :
    lexeme.start < lexeme.stop := by
  obtain ⟨b, others, rfl⟩ := List.exists_cons_of_length_pos (h.scanned.length.2 hne)
  have hpos := b.utf8Size_pos
  rw [h.stop, encodedLength, List.map_cons, List.sum_cons]
  omega

-- A word that starts with no blank is found at the front, and then the end.
theorem Takes.standsFor (h : Takes c lexeme rest blanks word) (hne : lexeme.token ≠ .eof) :
    StandsFor word lexeme.token := by
  obtain ⟨b, others, rfl⟩ := List.exists_cons_of_length_pos (h.scanned.length.2 hne)
  let word := b :: others
  have hskip : (⟨word, 0⟩ : Cursor).skipBlank = ⟨word, 0⟩ := by
    have hblank : word.takeWhile Text.isBlank = [] := by
      rw [List.takeWhile_cons_of_neg (by simp [h.not_blank b rfl])]
    rw [Cursor.skipBlank, Cursor.skipWhile, hblank]
    rfl
  have hnext : next ⟨word, 0⟩ =
      .ok (⟨lexeme.token, 0, encodedLength word⟩, ⟨[], encodedLength word⟩) := by
    have hdrop : (⟨word, 0⟩ : Cursor).drop word.length = ⟨[], encodedLength word⟩ := by
      rw [Cursor.drop, List.drop_length, List.take_length, Nat.zero_add]
    rw [next, hskip]
    simp only [h.scanned.scan_eq, word, hdrop]
  have hend : next ⟨[], encodedLength word⟩ =
      .ok (⟨.eof, encodedLength word, encodedLength word⟩, ⟨[], encodedLength word⟩) := rfl
  have hseek : (Cursor.ofString (String.ofList word)).seek 0 = ⟨word, 0⟩ := by
    rw [Cursor.ofString, String.toList_ofList]
    rfl
  rw [StandsFor, tokens, hseek]
  show tokensFrom (others.length + 1 + 1) ⟨word, 0⟩ = _
  rw [tokensFrom_of_ne hnext hne, tokensFrom_of_eof hend rfl]

theorem Takes.spans (h : Takes c lexeme rest blanks word) (hc : c.In source) :
    Text.Gap source c.position lexeme.start ∧ Text.Spans source word lexeme.start lexeme.stop ∧
      rest.In source := by
  obtain ⟨front, hsource, hposition⟩ := hc
  rw [h.chars] at hsource
  refine ⟨⟨blanks, ⟨front, _, hsource, hposition, h.start⟩, h.blank⟩, ⟨front ++ blanks, rest.chars,
    ?_, ?_, h.stop⟩, front ++ blanks ++ word, ?_, ?_⟩
  · rw [hsource, List.append_assoc]
  · rw [encodedLength_append, ← hposition, h.start]
  · rw [hsource, List.append_assoc, List.append_assoc]
  · rw [h.position, h.stop, h.start, hposition, encodedLength_append, encodedLength_append]

theorem Tiling.finish (h : Takes c lexeme rest blanks word) (hc : c.In source)
    (hend : lexeme.token = .eof) : Tiling source c.position [lexeme] none := by
  obtain ⟨hgap, hspans, hrest⟩ := h.spans hc
  obtain ⟨rfl, hnil⟩ := h.ended hend
  have hstop : lexeme.stop = lexeme.start := h.stop
  have hlength : lexeme.start = encodedLength source := by
    obtain ⟨front, hsource, hposition⟩ := hrest
    rw [hnil, List.append_nil] at hsource
    rw [hsource, ← hposition, h.position, hstop]
  have hlexeme : lexeme = ⟨.eof, encodedLength source, encodedLength source⟩ := by
    obtain ⟨token, start, stop⟩ := lexeme
    rw [Lexeme.mk.injEq]
    exact ⟨hend, hlength, hstop.trans hlength⟩
  constructor
  · exact List.forall_mem_singleton.mpr (absurd hend)
  · exact List.pairwise_singleton _ _
  · exact List.forall_mem_singleton.mpr ⟨h.le_start, hstop.ge, hspans.boundaries.2.le_encodedLength⟩
  · exact List.forall_mem_singleton.mpr hspans.boundaries
  · exact ⟨hgap, trivial⟩
  · exact fun _ => ⟨[], congrArg (fun l => [l]) hlexeme, nofun⟩
  · intro e he
    cases he

theorem Tiling.fail {e : TemplateError} (h : next c = .error e) (hc : c.In source) :
    Tiling source c.position [] (some e) := by
  unfold next at h
  dsimp only at h
  split at h
  · cases h
  · cases h
    have hgap : Text.Gap source c.position c.skipBlank.position := by
      obtain ⟨front, hsource, hposition⟩ := hc
      rw [← List.takeWhile_append_dropWhile (p := Text.isBlank) (l := c.chars)] at hsource
      exact ⟨_, ⟨front, _, hsource, hposition, c.position_skipWhile _⟩,
        fun b hb => List.mem_takeWhile_imp hb⟩
    refine ⟨nofun, .nil, nofun, nofun, hgap, nofun, fun e he => ?_⟩
    cases he
    exact ⟨(hc.skipWhile Text.isBlank).boundary, nofun⟩

theorem Tiling.step (h : Takes c lexeme rest blanks word) (hc : c.In source)
    (hne : lexeme.token ≠ .eof) (hrest : Tiling source rest.position lexemes error) :
    Tiling source c.position (lexeme :: lexemes) error := by
  obtain ⟨hgap, hspans, -⟩ := h.spans hc
  have hlater (l : Lexeme) (hl : l ∈ lexemes) : lexeme.stop ≤ l.start :=
    h.position ▸ (hrest.within l hl).1
  have hstart := h.le_start
  have hstop := h.start_lt_stop hne
  constructor
  · exact List.forall_mem_cons.mpr ⟨fun _ => ⟨hstop, word, hspans, h.standsFor hne⟩, hrest.words⟩
  · exact List.pairwise_cons.mpr ⟨hlater, hrest.ordered⟩
  · refine List.forall_mem_cons.mpr
      ⟨⟨hstart, hstop.le, hspans.boundaries.2.le_encodedLength⟩, fun l hl => ?_⟩
    exact ⟨(hstart.trans hstop.le).trans (hlater l hl), (hrest.within l hl).2⟩
  · exact List.forall_mem_cons.mpr ⟨hspans.boundaries, hrest.boundaries⟩
  · exact ⟨hgap, h.position ▸ hrest.gaps⟩
  · intro herror
    obtain ⟨front, rfl, hfront⟩ := hrest.finished herror
    exact ⟨lexeme :: front, rfl, List.forall_mem_cons.mpr ⟨hne, hfront⟩⟩
  · intro e he
    obtain ⟨hboundary, hwords⟩ := hrest.failed e he
    exact ⟨hboundary, List.forall_mem_cons.mpr ⟨hne, hwords⟩⟩

theorem Runs.tiling (h : Runs c lexemes error) (hc : c.In source) :
    Tiling source c.position lexemes error := by
  induction h with
  | finish h hend =>
    obtain ⟨_, _, htakes⟩ := exists_takes h
    exact .finish htakes hc hend
  | fail h => exact .fail h hc
  | step h hne _ ih =>
    obtain ⟨_, _, htakes⟩ := exists_takes h
    exact .step htakes hc hne (ih (htakes.spans hc).2.2)

theorem tokens_tile {source : String} {start : Nat} (hstart : Boundary source.toList start) :
    let c := (Cursor.ofString source).seek start
    c.In source.toList ∧ c.position = start ∧
      Runs c (tokens source start).1 (tokens source start).2 ∧
      Tiling source.toList start (tokens source start).1 (tokens source start).2 := by
  intro c
  obtain ⟨front, back, hsource, hposition⟩ := hstart
  have hc : c = ⟨back, start⟩ := by
    have hseek := Cursor.seek_boundary front back 0
    rw [← hsource, Nat.zero_add, ← hposition] at hseek
    exact hseek
  have hin : c.In source.toList := ⟨front, by rw [hc, hsource], by rw [hc, hposition]⟩
  have hruns := runs_tokensFrom (c := c) (Nat.lt_succ_self _)
  refine ⟨hin, by rw [hc], hruns, ?_⟩
  have htiling := hruns.tiling hin
  rwa [show c.position = start from congrArg Cursor.position hc] at htiling

-- Behind the brace: a name, a comma, a number, a point, a name, a string, and a character that
-- starts no token.
theorem tokens_tile_member :
    let source := "\x7bé,1.x 'it''s' !"
    Boundary source.toList 1 ∧
      (tokens source 1).1.map (fun l => (l.start, l.stop))
        = [(1, 3), (3, 4), (4, 5), (5, 6), (6, 7), (8, 15)] ∧
      (tokens source 1).2.map TemplateError.position = some 16 ∧
      Tiling source.toList 1 (tokens source 1).1 (tokens source 1).2 := by
  intro source
  have hstart : Boundary source.toList 1 :=
    ⟨['\x7b'], "é,1.x 'it''s' !".toList, by decide, by decide⟩
  exact ⟨hstart, by decide +kernel, by decide +kernel, (tokens_tile hstart).2.2.2⟩

end Lexer

end EventText
