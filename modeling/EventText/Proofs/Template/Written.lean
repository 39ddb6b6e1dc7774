import EventText.Proofs.Expr.Written
import EventText.Proofs.Template.Flat
import EventText.Template.Reader

namespace EventText

-- Expressions in the source of a template name no slots, whatever directive or hole they are in.

namespace TemplateReader

private theorem slotless_openEach {s s' : Lookahead} {d : Directive}
    (hread : iteration s = .ok (d, s')) (position : Nat) :
    ∀ e ∈ (Piece.directive d position).expression?, e.Slotless := by
  obtain ⟨⟨first, _⟩, -, hread⟩ := bind_eq_ok.mp hread
  dsimp only at hread
  have hcollection : ∃ second collection before after,
      ExprReader.expression before = .ok (collection, after) ∧
        d = .openEach first second collection := by
    split at hread
    · obtain ⟨_, -, hread⟩ := bind_eq_ok.mp hread
      obtain ⟨⟨second, _⟩, -, hread⟩ := bind_eq_ok.mp hread
      obtain ⟨_, hnames, hread⟩ := bind_eq_ok.mp hread
      cases hnames
      obtain ⟨_, -, hread⟩ := bind_eq_ok.mp hread
      obtain ⟨⟨collection, _⟩, hcollection, hread⟩ := bind_eq_ok.mp hread
      cases hread
      exact ⟨_, _, _, _, hcollection, rfl⟩
    · obtain ⟨_, hnames, hread⟩ := bind_eq_ok.mp hread
      cases hnames
      obtain ⟨_, -, hread⟩ := bind_eq_ok.mp hread
      obtain ⟨⟨collection, _⟩, hcollection, hread⟩ := bind_eq_ok.mp hread
      cases hread
      exact ⟨_, _, _, _, hcollection, rfl⟩
  obtain ⟨second, collection, _, _, hcollection, rfl⟩ := hcollection
  simpa [Piece.expression?] using ExprReader.yields_expression _ _ _ hcollection

theorem slotless_directive {s s' : Lookahead} {d : Directive} (hread : directive s = .ok (d, s'))
    (position : Nat) : ∀ e ∈ (Piece.directive d position).expression?, e.Slotless := by
  unfold directive at hread
  split at hread
  · obtain ⟨next, -, hread⟩ := bind_eq_ok.mp hread
    split at hread
    · obtain ⟨⟨condition, _⟩, hcondition, hread⟩ := bind_eq_ok.mp hread
      cases hread
      simpa [Piece.expression?] using ExprReader.yields_expression _ _ _ hcondition
    · split at hread
      · obtain ⟨⟨isElseIf, after⟩, -, hread⟩ := bind_eq_ok.mp hread
        dsimp only at hread
        split at hread
        · obtain ⟨⟨condition, _⟩, hcondition, hread⟩ := bind_eq_ok.mp hread
          cases hread
          simpa [Piece.expression?] using ExprReader.yields_expression _ _ _ hcondition
        · cases hread
          simp [Piece.expression?]
      · split at hread
        · exact slotless_openEach hread position
        · split at hread
          · cases hread
            simp [Piece.expression?]
          · split at hread <;> cases hread
            simp [Piece.expression?]
  · cases hread

theorem slotless_hole {c c' : Cursor} {start : Nat} {piece : Piece}
    (hread : hole c start = .ok (piece, c')) : ∀ e ∈ piece.expression?, e.Slotless := by
  unfold hole at hread
  dsimp only at hread
  split at hread
  · obtain ⟨_, -, hread⟩ := bind_eq_ok.mp hread
    obtain ⟨⟨d, _⟩, hdirective, hread⟩ := bind_eq_ok.mp hread
    dsimp only at hread
    split at hread <;> cases hread
    exact slotless_directive hdirective start
  · obtain ⟨s, -, hread⟩ := bind_eq_ok.mp hread
    split at hread
    · cases hread
    · obtain ⟨⟨e, _⟩, he, hread⟩ := bind_eq_ok.mp hread
      obtain ⟨⟨alignment, format, _⟩, -, hread⟩ := bind_eq_ok.mp hread
      cases hread
      simpa [Piece.expression?] using ExprReader.yields_expression _ _ _ he

private theorem slotless_consChar {pieces : List Piece}
    (h : ∀ piece ∈ pieces, ∀ e ∈ piece.expression?, e.Slotless) (ch : Char) :
    ∀ piece ∈ consChar ch pieces, ∀ e ∈ piece.expression?, e.Slotless := by
  unfold consChar
  split
  · obtain ⟨-, hrest⟩ := List.forall_mem_cons.mp h
    exact List.forall_mem_cons.mpr ⟨by simp [Piece.expression?], hrest⟩
  · exact List.forall_mem_cons.mpr ⟨by simp [Piece.expression?], h⟩

theorem slotless_readFrom {fuel : Nat} {c : Cursor} {pieces : List Piece}
    (hread : readFrom fuel c = .ok pieces) :
    ∀ piece ∈ pieces, ∀ e ∈ piece.expression?, e.Slotless := by
  induction fuel generalizing c pieces with
  | zero =>
      cases hread
      simp [Piece.expression?]
  | succ fuel ih =>
      unfold readFrom at hread
      split at hread
      · cases hread
        simp [Piece.expression?]
      · obtain ⟨rest, hrest, hread⟩ := bind_eq_ok.mp hread
        cases hread
        exact slotless_consChar (ih hrest) _
      · obtain ⟨rest, hrest, hread⟩ := bind_eq_ok.mp hread
        cases hread
        exact slotless_consChar (ih hrest) _
      · cases hread
      · obtain ⟨⟨piece, _⟩, hpiece, hread⟩ := bind_eq_ok.mp hread
        obtain ⟨rest, hrest, hread⟩ := bind_eq_ok.mp hread
        cases hread
        exact List.forall_mem_cons.mpr ⟨slotless_hole hpiece, ih hrest⟩
      · obtain ⟨rest, hrest, hread⟩ := bind_eq_ok.mp hread
        cases hread
        exact slotless_consChar (ih hrest) _

end TemplateReader

theorem Piece.slotless_readAll {source : String} {pieces : List Piece}
    (h : Piece.readAll source = .ok pieces) :
    ∀ piece ∈ pieces, ∀ e ∈ piece.expression?, e.Slotless :=
  TemplateReader.slotless_readFrom h

theorem Block.slotless_nest {pieces : List Piece} {blocks : List (Block String)}
    (hs : ∀ piece ∈ pieces, ∀ e ∈ piece.expression?, e.Slotless)
    (h : Block.nest pieces = .ok blocks) : ∀ e ∈ Block.expressionsAll blocks, e.Slotless := by
  intro e he
  rw [Block.expressionsAll_nest h] at he
  obtain ⟨piece, hpiece, hexpression⟩ := List.mem_filterMap.mp he
  exact hs piece hpiece e hexpression

end EventText
