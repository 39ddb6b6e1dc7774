import EventText.Proofs.Expr.Locating
import EventText.Proofs.Template.Joining
import EventText.Proofs.Template.Resolving

namespace EventText

open Text (Boundary encodedLength)

-- A brace opens a directive here: a number sign is the first character behind it that is no blank.
def Text.OpensDirective (source : List Char) (position : Nat) : Prop :=
  ∃ front blanks rest, source = front ++ '\x7b' :: blanks ++ '#' :: rest ∧
    position = encodedLength front ∧ ∀ b ∈ blanks, Text.isBlank b

-- The calls of a piece are written in this source, and a directive starts where it says.
structure Piece.StandsIn (source : List Char) (piece : Piece) : Prop where
  calls : ∀ e ∈ piece.expression?, e.StandsIn source
  opening : ∀ d position, piece = .directive d position → Text.OpensDirective source position

namespace TemplateReader

variable {source : List Char}

theorem standsIn_text (chars : List Char) : (Piece.text chars).StandsIn source :=
  ⟨fun _ he => (by cases he), fun _ _ h => (by cases h)⟩

theorem keeps_scanHole {stops : List Char} {c : Cursor} {start : Nat} (hc : c.In source)
    (hstart : Boundary source start) :
    Keeps source (fun r => r.2.In source) (scanHole stops c start) := by
  unfold scanHole
  rw [scanUntil_eq]
  split
  · next found hfound =>
    split at hfound
    · cases hfound
    · cases hfound
      exact hc.skipWhile _
  · exact .error hstart

theorem keeps_readAlignment {chars : List Char} {position : Nat}
    (hposition : Boundary source position) :
    Keeps source (fun _ => True) (readAlignment chars position) := by
  unfold readAlignment
  split
  · trivial
  · exact .error hposition

theorem keeps_holeTail {s : Lookahead} {start : Nat} (hs : s.In source)
    (hstart : Boundary source start) :
    Keeps source (fun r => r.2.2.In source) (holeTail s start) := by
  have hstop : Boundary source s.current.stop := hs.stop ▸ hs.rest.boundary
  unfold holeTail
  split
  · exact hs.rest
  · refine (keeps_scanHole hs.rest hstart).bind fun found _ hfound => ?_
    refine (keeps_readAlignment hstop).bind fun alignment _ _ => ?_
    refine .ite (fun _ => ?_) fun _ => hfound.drop 1
    exact (keeps_scanHole (hfound.drop 1) hstart).bind fun close _ hclose => hclose.drop 1
  · exact (keeps_scanHole hs.rest hstart).bind fun close _ hclose => hclose.drop 1
  · exact ExprReader.unexpected hs _

theorem keeps_expression {s : Lookahead} (hs : s.In source) :
    LocatesAt source (Expr.StandsIn source) s (ExprReader.expression s) :=
  ExprReader.locates_expression (s.left + 1) s hs (Nat.lt_succ_self _)

theorem keeps_placeholder {c : Cursor} {start : Nat} (hc : c.In source)
    (hstart : Boundary source start) :
    Keeps source (fun r => r.1.StandsIn source ∧ r.2.In source) (placeholder c start) := by
  refine (Lookahead.keeps_ofCursor hc).bind fun s _ ⟨hs, _⟩ => ?_
  refine .ite (fun _ => .error hstart) fun _ => ?_
  refine (keeps_expression hs).next fun e s1 _ he hs1 _ => ?_
  refine (keeps_holeTail hs1 hstart).bind fun tail _ htail => ?_
  refine ⟨⟨fun other hother => ?_, fun _ _ h => (by cases h)⟩, htail⟩
  obtain rfl := Option.mem_some_iff.mp hother
  exact he

-- The calls in the expression of a directive, wherever the directive itself starts.
def DirectiveStandsIn (source : List Char) (d : Directive) : Prop :=
  ∀ position, ∀ e ∈ (Piece.directive d position).expression?, e.StandsIn source

theorem locates_iterationName {s : Lookahead} (hs : s.In source) :
    LocatesAt source (fun _ => True) s (iterationName s) := by
  refine .advance hs fun s1 _ hs1 hle1 => ?_
  split
  · exact .found trivial hs1 hle1
  · exact ExprReader.unexpected hs _

private theorem locates_collection (first : String) (second : Option String) {s : Lookahead}
    (hs : s.In source) :
    LocatesAt source (DirectiveStandsIn source) s (do
      let s ← s.expectKeyword "in"
      let (collection, s) ← ExprReader.expression s
      return (.openEach first second collection, s)) := by
  refine .place (ExprReader.keeps_expectKeyword "in" hs) fun s1 hs1 hle1 => ?_
  refine (keeps_expression hs1).next fun collection s2 _ hcollection hs2 hle2 => ?_
  refine .found (fun _ e he => ?_) hs2 (hle2.trans hle1)
  obtain rfl := Option.mem_some_iff.mp he
  exact hcollection

theorem locates_iteration {s : Lookahead} (hs : s.In source) :
    LocatesAt source (DirectiveStandsIn source) s (iteration s) := by
  refine (locates_iterationName hs).next fun first s1 _ _ hs1 hle1 => ?_
  refine .ite (fun _ => ?_) fun _ => (locates_collection first none hs1).later hle1
  refine .advance hs1 fun s2 _ hs2 hle2 => ?_
  refine (locates_iterationName hs2).next fun second s3 _ _ hs3 hle3 => ?_
  exact (locates_collection first (some second) hs3).later (hle3.trans (hle2.trans hle1))

theorem locates_directive {s : Lookahead} (hs : s.In source) :
    LocatesAt source (DirectiveStandsIn source) s (directive s) := by
  have plain {d : Directive} (hnone : ∀ position, (Piece.directive d position).expression? = none)
      {s' : Lookahead} (hs' : s'.In source) (hle : s'.left ≤ s.left) :
      LocatesAt source (DirectiveStandsIn source) s (.ok (d, s')) :=
    .found (fun position e he => by simp [hnone] at he) hs' hle
  have tested {d : Expr → Directive}
      (hsome : ∀ e position, (Piece.directive (d e) position).expression? = some e)
      {condition : Expr} (hcondition : condition.StandsIn source) {s' : Lookahead}
      (hs' : s'.In source) (hle : s'.left ≤ s.left) :
      LocatesAt source (DirectiveStandsIn source) s (.ok (d condition, s')) := by
    refine .found (fun position e he => ?_) hs' hle
    rw [hsome, Option.mem_some_iff] at he
    exact he ▸ hcondition
  unfold directive
  split
  · refine .advance hs fun next _ hnext hle => ?_
    refine .ite (fun _ => ?_) fun _ => .ite (fun _ => ?_) fun _ => .ite (fun _ => ?_) fun _ => ?_
    · refine (keeps_expression hnext).next fun condition s1 _ hcondition hs1 hle1 => ?_
      exact tested (d := .openIf) (fun _ _ => rfl) hcondition hs1 (hle1.trans hle)
    · refine (ExprReader.locates_acceptKeyword "if" hnext).next fun isElseIf s1 _ _ hs1 hle1 => ?_
      refine .ite (fun _ => ?_) fun _ => plain (fun _ => rfl) hs1 (hle1.trans hle)
      refine (keeps_expression hs1).next fun condition s2 _ hcondition hs2 hle2 => ?_
      exact tested (d := .elseIf) (fun _ _ => rfl) hcondition hs2 (hle2.trans (hle1.trans hle))
    · exact (locates_iteration hnext).later hle
    · refine .ite (fun _ => plain (fun _ => rfl) hnext hle) fun _ => ?_
      exact .ite (fun _ => plain (fun _ => rfl) hnext hle) fun _ => .error hs.boundary
  · exact ExprReader.unexpected hs _

theorem keeps_directivePiece {c : Cursor} {start : Nat} (hc : c.In source)
    (hopens : Text.OpensDirective source start) :
    Keeps source (fun r => r.1.StandsIn source ∧ r.2.In source) (directivePiece c start) := by
  refine (Lookahead.keeps_ofCursor hc).bind fun s _ ⟨hs, _⟩ => ?_
  refine (locates_directive hs).next fun d s1 _ hd hs1 _ => ?_
  refine .ite (fun _ => ⟨⟨hd start, fun _ _ h => ?_⟩, hs1.rest⟩) fun _ =>
    ExprReader.unexpected hs1 _
  cases h
  exact hopens

-- Behind an opening brace.
theorem keeps_hole {c : Cursor} {front : List Char} (hc : c.In source)
    (hsource : source = front ++ '{' :: c.chars) :
    Keeps source (fun r => r.1.StandsIn source ∧ r.2.In source) (hole c (encodedLength front)) := by
  unfold hole
  refine .ite (fun hsign => ?_) fun _ => ?_
  · refine keeps_directivePiece ((hc.skipWhile _).drop 1) ?_
    obtain ⟨rest, hinner⟩ := List.head?_eq_some_iff.mp hsign
    rw [Cursor.skipBlank, Cursor.chars_skipWhile] at hinner
    refine ⟨front, c.chars.takeWhile Text.isBlank, rest, ?_, rfl, ?_⟩
    · rw [← hinner, List.append_assoc, List.cons_append, List.takeWhile_append_dropWhile, hsource]
    · exact fun b hb => List.mem_takeWhile_imp hb
  · exact keeps_placeholder hc ⟨front, _, hsource, rfl⟩

theorem standsIn_consChar {ch : Char} {pieces : List Piece}
    (h : ∀ piece ∈ pieces, piece.StandsIn source) :
    ∀ piece ∈ consChar ch pieces, piece.StandsIn source := by
  unfold consChar
  split
  · have hrest := List.forall_mem_cons.mp h
    exact List.forall_mem_cons.mpr ⟨standsIn_text _, hrest.2⟩
  · exact List.forall_mem_cons.mpr ⟨standsIn_text _, h⟩

theorem keeps_readFrom (fuel : Nat) {c : Cursor} (hc : c.In source) :
    Keeps source (fun pieces => ∀ piece ∈ pieces, piece.StandsIn source) (readFrom fuel c) := by
  induction fuel generalizing c with
  | zero => exact fun _ h => (by cases h)
  | succ fuel ih =>
      have text (ch : Char) (count : Nat) :
          Keeps source (fun pieces => ∀ piece ∈ pieces, piece.StandsIn source)
            (do return consChar ch (← readFrom fuel (c.drop count))) :=
        (ih (hc.drop count)).bind fun pieces _ hpieces => standsIn_consChar hpieces
      unfold readFrom
      split
      · exact fun _ h => (by cases h)
      · exact text _ 2
      · exact text _ 2
      · exact .error hc.boundary
      · next rest _ hchars =>
        obtain ⟨front, hsource, hposition⟩ := hc
        have hinner : source = front ++ '\x7b' :: (c.drop 1).chars := by
          rw [Cursor.drop, hchars, List.drop_one, List.tail_cons, hsource, hchars]
        have hhole := keeps_hole (Cursor.In.drop ⟨front, hsource, hposition⟩ 1) hinner
        rw [hposition]
        refine hhole.bind ?_
        rintro ⟨piece, behind⟩ - ⟨hpiece, hbehind⟩
        refine (ih hbehind).bind fun pieces _ hpieces => ?_
        exact List.forall_mem_cons.mpr ⟨hpiece, hpieces⟩
      · exact text _ 1

end TemplateReader

theorem Piece.keeps_readAll (source : String) :
    Keeps source.toList (fun pieces => ∀ piece ∈ pieces, piece.StandsIn source.toList)
      (Piece.readAll source) :=
  TemplateReader.keeps_readFrom _ (Cursor.in_ofString source)

end EventText
