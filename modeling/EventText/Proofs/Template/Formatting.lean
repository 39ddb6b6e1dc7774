import EventText.Proofs.Expr.Halting
import EventText.Proofs.Expr.Rereading
import EventText.Proofs.Output.AlignmentText
import EventText.Proofs.Template.Joining
import Mathlib.Data.List.TakeDrop

namespace EventText

-- A hole that a template starts with, and a blank in it in front of the expression.
def Piece.first (e : Expr) (format : Option String) (alignment : Option Alignment) : Piece :=
  .placeholder { expression := e.shift 2, format, alignment, position := 0 }

namespace TemplateReader

theorem splitAtLastComma_append {before after : List Char} (h : ',' ∉ after) :
    splitAtLastComma (before ++ ',' :: after) = some (before, after) := by
  have hall : ∀ c ∈ after.reverse, (c != ',') = true := fun c hc =>
    bne_iff_ne.mpr fun heq => h (heq ▸ List.mem_reverse.mp hc)
  have hreverse : (before ++ ',' :: after).reverse = after.reverse ++ ',' :: before.reverse := by
    simp
  rw [splitAtLastComma, hreverse, List.span_eq_takeWhile_dropWhile,
    List.takeWhile_append_of_pos hall, List.dropWhile_append_of_pos hall,
    List.takeWhile_cons_of_neg (by simp), List.dropWhile_cons_of_neg (by simp)]
  simp

theorem splitAtLastComma_eq_none {chars : List Char} (h : ',' ∉ chars) :
    splitAtLastComma chars = none := by
  have hall : ∀ c ∈ chars.reverse, (c != ',') = true := fun c hc =>
    bne_iff_ne.mpr fun heq => h (heq ▸ List.mem_reverse.mp hc)
  rw [splitAtLastComma, List.span_eq_takeWhile_dropWhile, List.dropWhile_eq_nil_iff.mpr hall]

-- What follows the last comma of a format is an alignment, unless it is a digit group of zeros.

theorem splitAlignment_append {format text : List Char} {alignment : Alignment}
    (h : alignment.Spelled text) (hzeros : ∃ c ∈ text, c ≠ '0') :
    splitAlignment (format ++ ',' :: text) = (format, some alignment) := by
  have hzeros : isZeros (Text.trim text) = false := by
    rw [h.trim, isZeros, ← Bool.not_eq_true, List.all_eq_true]
    simpa using hzeros
  rw [splitAlignment, splitAtLastComma_append (h.not_mem (by decide))]
  simp [hzeros, h.read?_eq]

-- A format that stays whole: it has no comma, or none with an alignment behind it.
def Unaligned (format : List Char) : Prop :=
  ',' ∉ format ∨ ∃ before after, format = before ++ ',' :: after ∧ ',' ∉ after ∧
    ((∀ alignment : Alignment, ¬ alignment.Spelled (Text.trim after)) ∨
      ∀ c ∈ Text.trim after, c = '0')

theorem splitAlignment_of_unaligned {format : List Char} (h : Unaligned format) :
    splitAlignment format = (format, none) := by
  rcases h with hnone | ⟨before, after, rfl, hafter, h⟩
  · rw [splitAlignment, splitAtLastComma_eq_none hnone]
  · rw [splitAlignment, splitAtLastComma_append hafter]
    dsimp only
    split
    · rfl
    · next hzeros =>
      rcases h with hspelled | hall
      · have hread : Alignment.read? after = none := by
          rw [Option.eq_none_iff_forall_ne_some]
          exact fun alignment hread => hspelled alignment (Alignment.read?_eq_some_iff.mp hread)
        rw [hread]
      · exact absurd (List.all_eq_true.mpr fun c hc => beq_iff_eq.mpr (hall c hc)) hzeros

theorem scanHole_append {stops front : List Char} {stop : Char} (hstop : stop ∈ stops)
    (hfront : ∀ c ∈ front, c ∉ stops) (back : List Char) (position start : Nat) :
    ∃ position', scanHole stops ⟨front ++ stop :: back, position⟩ start =
      .ok (front, ⟨stop :: back, position'⟩) := by
  have hall : ∀ c ∈ front, (!stops.contains c) = true := by
    simpa using hfront
  have htake : (front ++ stop :: back).takeWhile (fun ch => !stops.contains ch) = front := by
    rw [List.takeWhile_append_of_pos hall, List.takeWhile_cons_of_neg (by simpa using hstop),
      List.append_nil]
  refine ⟨position + Text.encodedLength front, ?_⟩
  have hskip : Cursor.skipWhile ⟨front ++ stop :: back, position⟩ (fun ch => !stops.contains ch) =
      ⟨stop :: back, position + Text.encodedLength front⟩ := by
    simp only [Cursor.skipWhile, htake, Cursor.drop, List.drop_left, List.take_left]
  rw [scanHole, scanUntil_eq, hskip, if_neg (by simp), htake]

theorem scanHole_format {format : List Char} (h : '\x7d' ∉ format) (position start : Nat) :
    ∃ close : Cursor, scanHole ['\x7d'] ⟨format ++ ['\x7d'], position⟩ start = .ok (format, close) ∧
      (close.drop 1).chars = [] := by
  have hall : ∀ c ∈ format, c ∉ ['\x7d'] := fun c hc hmem => h (List.mem_singleton.mp hmem ▸ hc)
  obtain ⟨position', hclose⟩ :=
    scanHole_append (List.mem_singleton_self '\x7d') hall [] position start
  exact ⟨_, hclose, rfl⟩

-- How a hole ends that has a format, and perhaps an alignment in front of it.

variable {format : List Char}

theorem holeTail_comma {text : List Char} {alignment : Alignment} (h : alignment.Spelled text)
    (hformat : '\x7d' ∉ format) (i j position start : Nat) :
    ∃ after : Cursor, after.chars = [] ∧
      holeTail ⟨⟨.symbol .comma, i, j⟩, ⟨text ++ ':' :: (format ++ ['\x7d']), position⟩⟩ start =
        .ok (some alignment, nonEmpty format, after) := by
  have htext : ∀ c ∈ text, c ∉ [':', '\x7d'] := by
    have hcolon : ':' ∉ text := h.not_mem (by decide)
    have hclose : '\x7d' ∉ text := h.not_mem (by decide)
    intro c hc hstop
    simp only [List.mem_cons, List.not_mem_nil, or_false] at hstop
    rcases hstop with rfl | rfl
    · exact hcolon hc
    · exact hclose hc
  obtain ⟨stop, hstop⟩ :=
    scanHole_append List.mem_cons_self htext (format ++ ['\x7d']) position start
  obtain ⟨close, hclose, hafter⟩ := scanHole_format hformat (stop + 1) start
  refine ⟨_, hafter, ?_⟩
  have hdrop : Cursor.drop ⟨':' :: (format ++ ['\x7d']), stop⟩ 1 =
    ⟨format ++ ['\x7d'], stop + 1⟩ := rfl
  simp only [holeTail, Lookahead.token, hstop, ok_bind, readAlignment, h.read?_eq,
    List.head?_cons,
    if_true, hdrop, hclose]
  rfl

theorem holeTail_colon (hformat : '\x7d' ∉ format) (i j position start : Nat) :
    ∃ after : Cursor, after.chars = [] ∧
      holeTail ⟨⟨.symbol .colon, i, j⟩, ⟨format ++ ['\x7d'], position⟩⟩ start =
        .ok ((splitAlignment format).2, nonEmpty (splitAlignment format).1, after) := by
  obtain ⟨close, hclose, hafter⟩ := scanHole_format hformat position start
  refine ⟨_, hafter, ?_⟩
  simp only [holeTail, Lookahead.token, hclose, ok_bind]
  rfl

theorem skipBlank_space (chars : List Char) (position : Nat) :
    Cursor.skipBlank ⟨' ' :: chars, position⟩ = Cursor.skipBlank ⟨chars, position + 1⟩ := by
  have hblank : Text.isBlank ' ' = true := by decide
  have hsize : Char.utf8Size ' ' = 1 := by decide
  simp only [Cursor.skipBlank, Cursor.skipWhile, Cursor.drop, List.takeWhile_cons, hblank, if_true,
    List.length_cons, List.drop_succ_cons, List.take_succ_cons, Text.encodedLength, List.map_cons,
    List.sum_cons, hsize, Nat.add_assoc]

theorem ofCursor_space (chars : List Char) (position : Nat) :
    Lookahead.ofCursor ⟨' ' :: chars, position⟩ = Lookahead.ofCursor ⟨chars, position + 1⟩ := by
  rw [Lookahead.ofCursor, Lexer.next, skipBlank_space]
  rfl

-- A directive is no expression.
theorem head_ne_of_ofCursor {c : Cursor} {s : Lookahead} (h : Lookahead.ofCursor c = .ok s) :
    c.skipBlank.chars.head? ≠ some '#' := by
  intro hsign
  obtain ⟨rest, hrest⟩ := List.head?_eq_some_iff.mp hsign
  have hscan : Lexer.scan c.skipBlank.chars = .error (.unexpectedCharacter '#') := by
    rw [hrest]
    rfl
  simp only [Lookahead.ofCursor, Lexer.next, hscan] at h
  cases h

-- Behind a blank, an expression is read as it is read alone, and its hole ends as it can at the
-- mark.
theorem readAll_marked {source : String} {e : Expr} (h : Expr.read source = .ok e) (mark : Mark)
    (later : List Char) {alignment : Option Alignment} {format : Option String}
    (htail : ∀ i j position, ∃ after : Cursor, after.chars = [] ∧
      holeTail ⟨⟨.symbol mark.symbol, i, j⟩, ⟨later, position⟩⟩ 0 =
        .ok (alignment, format, after)) :
    Piece.readAll (String.ofList ('\x7b' :: ' ' :: (source.toList ++ mark.char :: later))) =
      .ok [.first e format alignment] := by
  obtain ⟨s, i, j, position, hs, hexpression⟩ := Expr.read_marked h 2 mark later
  have hbrace := ExprReader.atSymbol_of_reads .rightBrace hexpression (by decide)
  obtain ⟨after, hafter, htail⟩ := htail i j position
  have hinner : Lookahead.ofCursor ⟨' ' :: (source.toList ++ mark.char :: later), 1⟩ = .ok s := by
    rw [ofCursor_space]
    exact hs
  have hplaceholder : placeholder ⟨' ' :: (source.toList ++ mark.char :: later), 1⟩ 0 =
      .ok (.first e format alignment, after) := by
    simp only [placeholder, hinner, ok_bind, hbrace, hexpression, htail]
    rfl
  have hhole : hole ⟨' ' :: (source.toList ++ mark.char :: later), 1⟩ 0 =
      .ok (.first e format alignment, after) := by
    rw [hole, if_neg (head_ne_of_ofCursor hinner)]
    exact hplaceholder
  have hstep : step ⟨'\x7b' :: ' ' :: (source.toList ++ mark.char :: later), 0⟩ =
      .ok (.first e format alignment, after) := by
    rw [step_open rfl (by simp)]
    exact hhole
  have hread : Piece.readAll
      (String.ofList ('\x7b' :: ' ' :: (source.toList ++ mark.char :: later))) =
        read ⟨'\x7b' :: ' ' :: (source.toList ++ mark.char :: later), 0⟩ := by
    rw [Piece.readAll, Cursor.ofString, String.toList_ofList, read]
  rw [hread, read_eq (List.cons_ne_nil _ _), hstep, ok_bind]
  dsimp only
  rw [read_nil hafter]
  rfl

end TemplateReader

-- An alignment may stand in front of a format or behind it, and both is the same. Nothing else that
-- a format ends in is taken for an alignment.
theorem Piece.readAll_formatted {source format : String} {e : Expr} (h : Expr.read source = .ok e)
    (hformat : '\x7d' ∉ format.toList) :
    (∀ (text : String) (alignment : Alignment), alignment.Spelled text.toList →
      readAll ("\x7b " ++ source ++ "," ++ text ++ ":" ++ format ++ "\x7d") =
          .ok [first e (if format = "" then none else some format) (some alignment)] ∧
        ((∃ c ∈ text.toList, c ≠ '0') →
          readAll ("\x7b " ++ source ++ ":" ++ format ++ "," ++ text ++ "\x7d") =
            .ok [first e (if format = "" then none else some format) (some alignment)])) ∧
      (TemplateReader.Unaligned format.toList →
        readAll ("\x7b " ++ source ++ ":" ++ format ++ "\x7d") =
          .ok [first e (if format = "" then none else some format) none]) := by
  have hnonEmpty : TemplateReader.nonEmpty format.toList =
      if format = "" then none else some format := by
    simp [TemplateReader.nonEmpty]
  rw [← hnonEmpty]
  refine ⟨fun text alignment hspelled => ⟨?_, fun hzeros => ?_⟩, fun hunaligned => ?_⟩
  · have hsource : "\x7b " ++ source ++ "," ++ text ++ ":" ++ format ++ "\x7d" =
        String.ofList ('\x7b' :: ' ' :: (source.toList ++
          Mark.comma.char :: (text.toList ++ ':' :: (format.toList ++ ['\x7d'])))) := by
      simp [← String.toList_inj, Mark.char]
    rw [hsource]
    exact TemplateReader.readAll_marked h .comma _ fun i j position =>
      TemplateReader.holeTail_comma hspelled hformat i j position 0
  · have hsource : "\x7b " ++ source ++ ":" ++ format ++ "," ++ text ++ "\x7d" =
        String.ofList ('\x7b' :: ' ' :: (source.toList ++
          Mark.colon.char :: (format.toList ++ ',' :: text.toList ++ ['\x7d']))) := by
      simp [← String.toList_inj, Mark.char]
    have hclose : '\x7d' ∉ format.toList ++ ',' :: text.toList := by
      have htext : '\x7d' ∉ text.toList := hspelled.not_mem (by decide)
      simp [hformat, htext]
    have hread := TemplateReader.readAll_marked h .colon _ fun i j position =>
      TemplateReader.holeTail_colon hclose i j position 0
    rw [TemplateReader.splitAlignment_append hspelled hzeros] at hread
    rw [hsource]
    exact hread
  · have hsource : "\x7b " ++ source ++ ":" ++ format ++ "\x7d" =
        String.ofList ('\x7b' :: ' ' :: (source.toList ++
          Mark.colon.char :: (format.toList ++ ['\x7d']))) := by
      simp [← String.toList_inj, Mark.char]
    have hread := TemplateReader.readAll_marked h .colon _ fun i j position =>
      TemplateReader.holeTail_colon hformat i j position 0
    rw [TemplateReader.splitAlignment_of_unaligned hunaligned] at hread
    rw [hsource]
    exact hread

-- A grouped number, whose format ends in zeros, with a width on either side and without one.

private def memberOfObject : Expr := .member (.object [.named "n" (.constant (.int 1))]) "n"

private theorem read_memberOfObject : Expr.read "\x7bn: 1\x7d.n" = .ok memberOfObject := rfl

private theorem spelled_eight : Alignment.Spelled ⟨.left, 8⟩ "-08".toList :=
  @Alignment.Spelled.left [0, 8] (by decide) (by decide)

theorem Piece.readAll_formatted_group :
    readAll ("\x7b " ++ "\x7bn: 1\x7d.n" ++ "," ++ "-08" ++ ":" ++ "0,000" ++ "\x7d") =
        .ok [first memberOfObject (some "0,000") (some ⟨.left, 8⟩)] ∧
      readAll ("\x7b " ++ "\x7bn: 1\x7d.n" ++ ":" ++ "0,000" ++ "," ++ "-08" ++ "\x7d") =
        .ok [first memberOfObject (some "0,000") (some ⟨.left, 8⟩)] ∧
      readAll ("\x7b " ++ "\x7bn: 1\x7d.n" ++ ":" ++ "0,000" ++ "\x7d") =
        .ok [first memberOfObject (some "0,000") none] := by
  have hformat : '\x7d' ∉ "0,000".toList := by decide
  have hzeros : Text.trim ['0', '0', '0'] = List.replicate 3 '0' := rfl
  have hunaligned : TemplateReader.Unaligned "0,000".toList :=
    .inr ⟨['0'], ['0', '0', '0'], rfl, by decide,
      .inr fun c hc => List.eq_of_mem_replicate (hzeros ▸ hc)⟩
  obtain ⟨hwidth, hwhole⟩ := readAll_formatted read_memberOfObject hformat
  obtain ⟨hfront, hbehind⟩ := hwidth "-08" _ spelled_eight
  exact ⟨hfront, hbehind ⟨'-', by decide, by decide⟩, hwhole hunaligned⟩

end EventText
