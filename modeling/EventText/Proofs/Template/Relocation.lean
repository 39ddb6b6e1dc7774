import EventText.Proofs.Expr.Relocation
import EventText.Template.Reader
import Mathlib.Data.List.TakeWhile

namespace EventText

def Placeholder.shift (distance : Nat) (hole : Placeholder) : Placeholder :=
  { hole with
    expression := hole.expression.shift distance
    position := hole.position + distance }

def Directive.shift (distance : Nat) : Directive → Directive
  | openIf condition => openIf (condition.shift distance)
  | elseIf condition => elseIf (condition.shift distance)
  | otherwise => otherwise
  | openEach first second collection => openEach first second (collection.shift distance)
  | delimit => delimit
  | close => close

namespace Piece

-- The same piece in a source that has so many more bytes in front of it.
def shift (distance : Nat) : Piece → Piece
  | text chars => text chars
  | placeholder hole => placeholder (hole.shift distance)
  | directive d position => directive (d.shift distance) (position + distance)

end Piece

namespace TemplateReader

open Placement

variable {p : Placement}

theorem scanUntil_eq (stops : List Char) (c : Cursor) :
    scanUntil stops c =
      if (c.skipWhile fun ch => !stops.contains ch).chars = [] then none
      else some (c.chars.takeWhile fun ch => !stops.contains ch,
        c.skipWhile fun ch => !stops.contains ch) := by
  unfold scanUntil
  dsimp only
  split
  · next h => rw [if_pos h]
  · next h => rw [if_neg h]

theorem agrees_scanHole (stops : List Char) (c : Cursor) (start : Nat) :
    p.Agrees c.outlook (fun r => r.2.outlook) (Prod.map id p.cursor) (scanHole stops c start)
      (scanHole stops (p.cursor c) (start + p.offset)) := by
  unfold scanHole
  rw [scanUntil_eq, scanUntil_eq]
  by_cases h : (c.skipWhile fun ch => !stops.contains ch).chars = []
  · rw [if_pos h]
    intro hbehind
    have hnone : (p.cursor (c.skipWhile fun ch => !stops.contains ch)).chars = [] := by
      simpa only [cursor, hbehind, List.append_nil]
    rw [p.skipWhile_cursor (.inl hbehind), if_pos hnone]
    rfl
  · have hwithin : (p.cursor (c.skipWhile fun ch => !stops.contains ch)).chars ≠ [] :=
      List.append_ne_nil_of_left_ne_nil h _
    rw [p.skipWhile_cursor (.inr h), p.takeWhile_cursor (.inr h), if_neg h, if_neg hwithin]
    exact ⟨c.reaches_drop _, fun _ => rfl⟩

theorem stop_of_scanHole {stops chars : List Char} {c stop : Cursor} {start : Nat}
    (h : scanHole stops c start = .ok (chars, stop)) :
    ∃ ch ∈ stops, ∃ rest, stop.chars = ch :: rest := by
  unfold scanHole at h
  rw [scanUntil_eq] at h
  by_cases hne : (c.skipWhile fun ch => !stops.contains ch).chars = []
  · rw [if_pos hne] at h
    cases h
  · rw [if_neg hne] at h
    cases h
    obtain ⟨ch, rest, hstop⟩ := List.exists_cons_of_ne_nil hne
    have hhead := List.head?_dropWhile_not (fun ch => !stops.contains ch) c.chars
    rw [← Cursor.chars_skipWhile, hstop] at hhead
    exact ⟨ch, by simpa using hhead, rest, hstop⟩

theorem agrees_readAlignment (o : Outlook) (chars : List Char) (position : Nat) :
    p.Agrees o (fun _ => o) id (readAlignment chars position)
      (readAlignment chars (position + p.offset)) := by
  unfold readAlignment
  split
  · exact .ok (fun _ => o) rfl
  · exact .error rfl

-- A closing brace has been passed.
def passed (c : Cursor) : Outlook := { c.outlook with closed := True }

-- Behind the closing brace of a hole.
theorem Agrees.close {next : σ → Outlook} {image : σ → σ} {stop : Cursor} {rest : List Char}
    {y y' : Except TemplateError σ} (hstop : stop.chars = '\x7d' :: rest)
    (h : p.Agrees (passed (stop.drop 1)) next image y y') :
    p.Agrees stop.outlook next image y y' := by
  refine h.mono ⟨(stop.reaches_drop 1).left, stop.stop_drop 1, fun _ => ?_⟩
  simp [Cursor.outlook, hstop]

theorem cursor_drop_one {stop : Cursor} {ch : Char} {rest : List Char}
    (hstop : stop.chars = ch :: rest) : (p.cursor stop).drop 1 = p.cursor (stop.drop 1) :=
  p.drop_cursor (by simp [hstop])

abbrev Tail := Option Alignment × Option String × Cursor

theorem agrees_holeTail (s : Lookahead) (start : Nat) :
    p.Agrees s.outlook (fun r : Tail => passed r.2.2) (Prod.map id (Prod.map id p.cursor))
      (holeTail s start) (holeTail (p.lookahead s) (start + p.offset)) := by
  have found (alignment : Option Alignment) (format : Option String) {stop : Cursor}
      {rest : List Char} (hstop : stop.chars = '\x7d' :: rest) :
      p.Agrees stop.outlook (fun r : Tail => passed r.2.2) (Prod.map id (Prod.map id p.cursor))
        (.ok (alignment, format, stop.drop 1))
        (.ok (alignment, format, (p.cursor stop).drop 1)) := by
    rw [cursor_drop_one hstop]
    exact Agrees.close hstop (Agrees.ok (fun r : Tail => passed r.2.2)
      (r := (alignment, format, stop.drop 1)) rfl)
  unfold holeTail
  rw [token_lookahead]
  split
  · next hbrace =>
    exact (Agrees.ok (fun r : Tail => passed r.2.2) (r := (none, none, s.rest)) rfl).mono
      ⟨s.reaches_rest.left, rfl, fun _ => .inl hbrace⟩
  · refine Agrees.mono (o := s.rest.outlook) ?_ s.reaches_rest
    refine (agrees_scanHole _ _ _).bind_ok ?_
    rintro ⟨chars, stop⟩ hscan -
    obtain ⟨ch, hch, rest, hstop⟩ := stop_of_scanHole hscan
    refine (agrees_readAlignment stop.outlook _ _).bind fun alignment _ => ?_
    have hhead : (p.cursor stop).chars.head? = stop.chars.head? := by simp [cursor, hstop]
    dsimp only [Prod.map_apply]
    rw [hhead]
    refine .ite (fun hcolon => ?_) fun hne => ?_
    · rw [cursor_drop_one hstop]
      refine Agrees.mono (o := (stop.drop 1).outlook) ?_ (stop.reaches_drop 1)
      refine (agrees_scanHole _ _ _).bind_ok ?_
      rintro ⟨format, close⟩ hscan -
      obtain ⟨_, hbrace, _, hclose⟩ := stop_of_scanHole hscan
      obtain rfl := List.mem_singleton.mp hbrace
      exact found (some alignment) (nonEmpty format) hclose
    · have hcolon : ch ≠ ':' := by simpa [hstop] using hne
      obtain rfl : ch = '\x7d' := by simpa [hcolon] using hch
      exact found (some alignment) none hstop
  · refine Agrees.mono (o := s.rest.outlook) ?_ s.reaches_rest
    refine (agrees_scanHole _ _ _).bind_ok ?_
    rintro ⟨chars, stop⟩ hscan -
    obtain ⟨_, hbrace, _, hstop⟩ := stop_of_scanHole hscan
    obtain rfl := List.mem_singleton.mp hbrace
    exact found _ _ hstop
  · exact .error rfl

theorem agrees_placeholder (c : Cursor) (start : Nat) :
    p.Agrees c.outlook (fun r : Piece × Cursor => passed r.2)
      (Prod.map (Piece.shift p.offset) p.cursor)
      (placeholder c start) (placeholder (p.cursor c) (start + p.offset)) := by
  refine (agrees_ofCursor c).bind fun s _ => ?_
  refine .ite (fun _ => .error rfl) fun _ => ?_
  refine (agrees_expression s).bind ?_
  rintro ⟨e, s1⟩ -
  refine (agrees_holeTail s1 start).bind ?_
  rintro ⟨alignment, format, rest⟩ -
  exact Agrees.ok (fun r : Piece × Cursor => passed r.2)
    (r := (.placeholder { expression := e, format, alignment, position := start }, rest)) rfl

theorem agrees_iterationName (s : Lookahead) :
    p.Reads id s (iterationName s) (iterationName (p.lookahead s)) := by
  refine (agrees_advance s).bind fun s1 _ => ?_
  rw [token_lookahead]
  split
  · exact Reads.ok rfl
  · exact .error rfl

-- The part of an iteration behind its names.
private theorem agrees_collection (first : String) (second : Option String) (s : Lookahead) :
    p.Reads (Directive.shift p.offset) s
      (do
        let s ← s.expectKeyword "in"
        let (collection, s) ← ExprReader.expression s
        return (.openEach first second collection, s))
      (do
        let s ← (p.lookahead s).expectKeyword "in"
        let (collection, s) ← ExprReader.expression s
        return (.openEach first second collection, s)) := by
  refine (agrees_expectKeyword "in" s).bind fun s1 _ => ?_
  refine (agrees_expression s1).bind ?_
  rintro ⟨collection, s2⟩ -
  exact Reads.ok rfl

theorem agrees_iteration (s : Lookahead) :
    p.Reads (Directive.shift p.offset) s (iteration s) (iteration (p.lookahead s)) := by
  refine (agrees_iterationName s).bind ?_
  rintro ⟨first, s1⟩ -
  refine .ite (fun _ => ?_) fun _ => agrees_collection first none s1
  refine (agrees_advance s1).bind fun s2 _ => ?_
  refine (agrees_iterationName s2).bind ?_
  rintro ⟨second, s3⟩ -
  exact agrees_collection first (some second) s3

theorem agrees_directive (s : Lookahead) :
    p.Reads (Directive.shift p.offset) s (directive s) (directive (p.lookahead s)) := by
  unfold directive
  rw [token_lookahead]
  split
  · refine (agrees_advance s).bind fun next _ => ?_
    refine .ite (fun _ => ?_) fun _ => .ite (fun _ => ?_) fun _ => .ite (fun _ => ?_) fun _ =>
      .ite (fun _ => Reads.ok rfl) fun _ => .ite (fun _ => Reads.ok rfl) fun _ => .error rfl
    · refine (agrees_expression next).bind ?_
      rintro ⟨condition, s1⟩ -
      exact Reads.ok rfl
    · refine (agrees_acceptKeyword "if" next).bind ?_
      rintro ⟨isElseIf, s1⟩ -
      refine .ite (fun _ => ?_) fun _ => Reads.ok rfl
      refine (agrees_expression s1).bind ?_
      rintro ⟨condition, s2⟩ -
      exact Reads.ok rfl
    · exact agrees_iteration next
  · exact .error rfl

theorem agrees_directivePiece (c : Cursor) (start : Nat) :
    p.Agrees c.outlook (fun r : Piece × Cursor => passed r.2)
      (Prod.map (Piece.shift p.offset) p.cursor)
      (directivePiece c start) (directivePiece (p.cursor c) (start + p.offset)) := by
  refine (agrees_ofCursor c).bind fun s _ => ?_
  refine (agrees_directive s).bind ?_
  rintro ⟨d, s1⟩ -
  refine .ite (fun hbrace => ?_) fun _ => .error rfl
  exact (Agrees.ok (fun r : Piece × Cursor => passed r.2) (r := (.directive d start, s1.rest))
    rfl).mono ⟨s1.reaches_rest.left, rfl, fun _ => .inl (Token.eq_of_isSymbol hbrace)⟩

theorem agrees_hole (c : Cursor) (start : Nat) :
    p.Agrees c.outlook (fun r : Piece × Cursor => passed r.2)
      (Prod.map (Piece.shift p.offset) p.cursor)
      (hole c start) (hole (p.cursor c) (start + p.offset)) := by
  unfold hole
  dsimp only
  by_cases h : p.behind = [] ∨ c.skipBlank.chars ≠ []
  · have hskip : (p.cursor c).skipBlank = p.cursor c.skipBlank := p.skipWhile_cursor h
    have hhead : (p.cursor c.skipBlank).chars.head? = c.skipBlank.chars.head? := by
      rcases h with h | h
      · simp only [cursor, h, List.append_nil]
      · obtain ⟨ch, rest, h⟩ := List.exists_cons_of_ne_nil h
        simp only [cursor, h, List.cons_append, List.head?_cons]
    rw [hskip, hhead]
    refine .ite (fun hsign => ?_) fun _ => agrees_placeholder c start
    obtain ⟨rest, hinner⟩ := List.head?_eq_some_iff.mp hsign
    rw [cursor_drop_one hinner]
    exact (agrees_directivePiece _ start).mono ((c.reaches_drop _).trans (Cursor.reaches_drop _ 1))
  -- Behind blanks alone, what follows would count: but there no hole ends.
  · obtain ⟨hbehind, hinner⟩ := not_or.mp h
    have hinner := Classical.not_not.mp hinner
    rw [if_neg (by simp [hinner])]
    have hplaceholder := agrees_placeholder (p := p) c start
    cases hread : placeholder c start with
    | error e => exact fun hnone => absurd hnone hbehind
    | ok r =>
      rw [hread] at hplaceholder
      have hmem : '\x7d' ∈ c.chars := hplaceholder.1.closed trivial
      rw [Cursor.skipBlank, Cursor.chars_skipWhile, List.dropWhile_eq_nil_iff] at hinner
      exact absurd (hinner _ hmem) (by decide)

theorem hole_ne_text {c rest : Cursor} {start : Nat} {piece : Piece}
    (h : hole c start = .ok (piece, rest)) (chars : List Char) : piece ≠ .text chars := by
  rintro rfl
  unfold hole at h
  dsimp only at h
  split at h
  · obtain ⟨_, -, h⟩ := bind_eq_ok.mp h
    obtain ⟨_, -, h⟩ := bind_eq_ok.mp h
    dsimp only at h
    split at h <;> cases h
  · obtain ⟨_, -, h⟩ := bind_eq_ok.mp h
    split at h
    · cases h
    · obtain ⟨_, -, h⟩ := bind_eq_ok.mp h
      obtain ⟨_, -, h⟩ := bind_eq_ok.mp h
      cases h

end TemplateReader
end EventText
