import EventText.Proofs.Expr.Passing

namespace EventText

namespace Placement

-- A longer source as a passage: no place becomes another one, and everything can be seen from which
-- a closing brace still comes before the text behind the source.
def passage (p : Placement) : Passage where
  placement := p
  image := p.lookahead
  outlook := Lookahead.outlook
  sees _ o := p.behind = [] ∨ o.closed
  errors := p.behind = []
  sees_mono hreach h := h.imp_right hreach.closed
  sees_outer h := h
  sees_of_succ h := h
  sees_of_errors := .inl
  sees_inner _ hreach h := h.imp_right hreach.closed
  left_of_ne := left_eq
  left_lt_budget s := s.left_lt_budget
  left_lt_budget_image s := Nat.lt_of_le_of_lt (Nat.le_add_right _ _) (p.left_lt_budget s)
  image_eq _ := rfl
  image_end {s} hend := .inl (eof_of_left (s := s) hend)
  reaches_rest _ := Lookahead.reaches_rest _
  ofCursor c := agrees_iff_mirrors.mp (agrees_ofCursor c)

-- An expression is read in the same way wherever its source stands, and whatever follows it.
theorem agrees_expression {p : Placement} (s : Lookahead) :
    p.Reads (Expr.shift p.offset) s (ExprReader.expression s)
      (ExprReader.expression (p.lookahead s)) :=
  agrees_iff_mirrors.mpr (Passage.reads_expression (T := p.passage) s)

end Placement

end EventText
