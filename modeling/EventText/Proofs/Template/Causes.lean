import EventText.Proofs.Template.Locating

namespace EventText

open Text (Boundary encodedLength)

namespace Frame

-- Where the directive stands that opened a block.
def position : Frame → Nat
  | branch position _ _ | otherwise position _ => position
  | body head | delimiter head _ | alternative head _ _ => head.position

theorem unclosed_eq (frame : Frame) : ∃ fault, frame.unclosed = .bind fault frame.position := by
  cases frame <;> exact ⟨_, rfl⟩

end Frame

namespace Nesting

-- The open blocks have been opened by directives among these pieces.
def OpenedBy (pieces : List Piece) (n : Nesting) : Prop :=
  ∀ entry ∈ n.stack, ∃ d, Piece.directive d entry.1.position ∈ pieces

theorem openedBy_start (pieces : List Piece) : start.OpenedBy pieces := fun _ h => by cases h

variable {pieces : List Piece} {n n' : Nesting}

private theorem OpenedBy.head {frame frame' : Frame} {before current : List (Block String)}
    {rest : List (Frame × List (Block String))} (h : n.OpenedBy pieces)
    (hstack : n.stack = (frame, before) :: rest) (hposition : frame'.position = frame.position) :
    OpenedBy pieces ⟨(frame', before) :: rest, current⟩ := by
  rw [OpenedBy, hstack] at h
  refine List.forall_mem_cons.mpr ⟨?_, (List.forall_mem_cons.mp h).2⟩
  rw [hposition]
  exact (List.forall_mem_cons.mp h).1

-- A directive stays in the block that it finds open, or opens one of its own.
theorem OpenedBy.directive {d : Directive} {position : Nat} (h : n.OpenedBy pieces)
    (hmem : Piece.directive d position ∈ pieces) (hstep : n.directive position d = .ok n') :
    n'.OpenedBy pieces := by
  cases d with
  | openIf condition =>
      cases hstep
      exact List.forall_mem_cons.mpr ⟨⟨_, hmem⟩, h⟩
  | elseIf condition =>
      simp only [Nesting.directive, elseIf] at hstep
      split at hstep <;> cases hstep
      rename_i hstack
      exact h.head hstack rfl
  | otherwise =>
      simp only [Nesting.directive, otherwise] at hstep
      split at hstep <;> cases hstep
      all_goals
        rename_i hstack
        exact h.head hstack rfl
  | openEach first second collection =>
      simp only [Nesting.directive, openEach] at hstep
      split at hstep <;> cases hstep
      exact List.forall_mem_cons.mpr ⟨⟨_, hmem⟩, h⟩
  | delimit =>
      simp only [Nesting.directive, delimit] at hstep
      split at hstep <;> cases hstep
      rename_i hstack
      exact h.head hstack rfl
  | close =>
      simp only [Nesting.directive, close] at hstep
      split at hstep <;> cases hstep
      rename_i hstack
      rw [OpenedBy, hstack] at h
      exact (List.forall_mem_cons.mp h).2

theorem OpenedBy.step {piece : Piece} (h : n.OpenedBy pieces) (hmem : piece ∈ pieces)
    (hstep : n.step piece = .ok n') : n'.OpenedBy pieces := by
  cases piece with
  | text chars =>
      cases hstep
      exact h
  | placeholder hole =>
      cases hstep
      exact h
  | directive d position => exact h.directive hmem (mapError_eq_ok.mp hstep)

-- A directive that does not fit is reported where it stands itself.
theorem error_of_step {piece : Piece} {failed : TemplateError}
    (h : n.step piece = .error failed) :
    ∃ fault d position, failed = .bind fault position ∧ piece = .directive d position := by
  cases piece with
  | text chars => cases h
  | placeholder hole => cases h
  | directive d position =>
      obtain ⟨fault, -, rfl⟩ := mapError_eq_error.mp h
      exact ⟨fault, d, position, rfl, rfl⟩

theorem error_of_steps {rest : List Piece} {failed : TemplateError}
    (h : rest.foldlM step n = .error failed) :
    ∃ fault d position, failed = .bind fault position ∧ Piece.directive d position ∈ rest := by
  induction rest generalizing n with
  | nil => cases h
  | cons piece rest ih =>
      rw [List.foldlM_cons] at h
      rcases bind_eq_error.mp h with hstep | ⟨next, -, hrest⟩
      · obtain ⟨fault, d, position, rfl, rfl⟩ := error_of_step hstep
        exact ⟨fault, d, position, rfl, List.mem_cons_self⟩
      · obtain ⟨fault, d, position, rfl, hmem⟩ := ih hrest
        exact ⟨fault, d, position, rfl, List.mem_cons_of_mem _ hmem⟩

theorem OpenedBy.steps {rest : List Piece} (h : n.OpenedBy pieces) (hsub : rest ⊆ pieces)
    (hsteps : rest.foldlM Nesting.step n = .ok n') : n'.OpenedBy pieces := by
  induction rest generalizing n with
  | nil =>
      cases hsteps
      exact h
  | cons piece rest ih =>
      rw [List.foldlM_cons] at hsteps
      obtain ⟨next, hstep, hrest⟩ := bind_eq_ok.mp hsteps
      obtain ⟨hmem, hsub⟩ := List.cons_subset.mp hsub
      exact ih (h.step hmem hstep) hsub hrest

end Nesting

-- Whatever is wrong with the nesting is reported at a directive: at one that does not fit, or at
-- the one that opened a block which is still open at the end.
theorem Block.error_of_nest {pieces : List Piece} {failed : TemplateError}
    (h : Block.nest pieces = .error failed) :
    ∃ fault d position, failed = .bind fault position ∧ Piece.directive d position ∈ pieces := by
  rcases bind_eq_error.mp h with hsteps | ⟨n, hsteps, hfinish⟩
  · exact Nesting.error_of_steps hsteps
  · have hopened := (Nesting.openedBy_start pieces).steps (List.Subset.refl _) hsteps
    unfold Nesting.finish at hfinish
    split at hfinish
    · cases hfinish
    · next frame before rest hstack =>
      rw [Nesting.OpenedBy, hstack] at hopened
      obtain ⟨d, hmem⟩ := (List.forall_mem_cons.mp hopened).1
      obtain ⟨fault, hfault⟩ := frame.unclosed_eq
      cases hfinish
      exact ⟨fault, d, frame.position, hfault, hmem⟩

theorem Text.OpensDirective.boundary {source : List Char} {position : Nat}
    (h : Text.OpensDirective source position) : Boundary source position := by
  obtain ⟨front, blanks, rest, hsource, hposition, -⟩ := h
  rw [List.append_assoc] at hsource
  exact ⟨front, _, hsource, hposition⟩

theorem Call.StandsIn.boundary {source : List Char} {call : Call} (h : call.StandsIn source) :
    Boundary source call.position := by
  obtain ⟨front, blanks, rest, hsource, hposition, -⟩ := h
  simp only [List.append_assoc] at hsource
  exact ⟨front, _, hsource, hposition⟩

theorem Text.Boundary.le {source : String} {position : Nat}
    (h : Boundary source.toList position) : position ≤ source.utf8ByteSize := by
  rw [← Text.encodedLength_toList]
  exact h.le_encodedLength

namespace Template

-- A source is read in three passes, each of which fails in its own way.
theorem error_of_read {source : String} {look : Look} {resolver : Resolver}
    {failed : TemplateError} (h : Template.read source look resolver = .error failed) :
    Piece.readAll source = .error failed ∨ ∃ pieces, Piece.readAll source = .ok pieces ∧
      (Block.nest pieces = .error failed ∨
        Call.Reported resolver ((pieces.filterMap Piece.expression?).flatMap Expr.calls)
          failed) := by
  rcases bind_eq_error.mp h with hread | ⟨pieces, hread, h⟩
  · exact .inl hread
  · refine .inr ⟨pieces, hread, ?_⟩
    rcases bind_eq_error.mp h with hbound | ⟨bound, hbound, h⟩
    · rcases bind_eq_error.mp hbound with hnest | ⟨_, -, hbound⟩
      · exact .inl hnest
      · cases hbound
    · rcases bind_eq_error.mp h with hlower | ⟨_, -, h⟩
      · exact .inr (BoundTemplate.reported_of_lower hbound hlower)
      · cases h

-- An error points at its cause: at a character of the source or its end, at the brace of a
-- directive if the nesting is wrong, and at the name of the call if a call does not resolve.
theorem error_cause {source : String} {look : Look} {resolver : Resolver}
    {failed : TemplateError} (h : Template.read source look resolver = .error failed) :
    (failed.position ≤ source.utf8ByteSize ∧ Boundary source.toList failed.position) ∧
      (∀ fault position, failed = .bind fault position →
        ∃ pieces d, Piece.readAll source = .ok pieces ∧ Piece.directive d position ∈ pieces ∧
          Text.OpensDirective source.toList position) ∧
      ∀ fault name arity position, failed = .resolution fault name arity position →
        ∃ ignoreCase, Call.StandsIn source.toList ⟨name, arity, ignoreCase, position⟩ := by
  have hkeeps := Piece.keeps_readAll source
  rcases error_of_read h with hread | ⟨pieces, hread, hnest | hreported⟩
  · rw [hread] at hkeeps
    obtain ⟨fault, position, rfl, hboundary⟩ := hkeeps
    exact ⟨⟨hboundary.le, hboundary⟩, fun _ _ h => (by cases h), fun _ _ _ _ h => (by cases h)⟩
  · rw [hread] at hkeeps
    obtain ⟨fault, d, position, rfl, hmem⟩ := Block.error_of_nest hnest
    have hopens := (hkeeps _ hmem).opening d position rfl
    refine ⟨⟨hopens.boundary.le, hopens.boundary⟩, fun _ _ h => ?_, fun _ _ _ _ h => (by cases h)⟩
    cases h
    exact ⟨pieces, d, hread, hmem, hopens⟩
  · rw [hread] at hkeeps
    obtain ⟨call, hcall, fault, -, rfl⟩ := hreported
    obtain ⟨e, he, hdeep⟩ := List.mem_flatMap.mp hcall
    obtain ⟨piece, hpiece, hexpression⟩ := List.mem_filterMap.mp he
    have hstands := (hkeeps piece hpiece).calls e hexpression call hdeep
    refine ⟨⟨hstands.boundary.le, hstands.boundary⟩, fun _ _ h => (by cases h), ?_⟩
    intro _ _ _ _ h
    cases h
    exact ⟨call.ignoreCase, hstands⟩

end Template

-- `é{ #end}`, whose brace stands behind a letter of two bytes, and `é{a + g (b, f)}`.

private def misplacedSource : String := "é\x7b #end\x7d"

private def unknownSource : String := "é\x7ba + g (b, f)\x7d"

private def unknownHole : Placeholder :=
  { expression := .binary .add (.property "a")
      (.call "g" [.property "b", .property "f"] false 7) false 5
    format := none, alignment := none, position := 2 }

private theorem read_misplaced : Template.read misplacedSource Look.plain Resolver.empty
    = .error (.bind .endWithoutBlock 2) := rfl

private theorem read_unknown : Template.read unknownSource Look.plain Resolver.empty
    = .error (.resolution .unknown "g" 2 7) := by
  have hpieces : Piece.readAll unknownSource = .ok [.text ['é'], .placeholder unknownHole] := rfl
  have hbound : BoundTemplate.ofPieces [.text ['é'], .placeholder unknownHole]
      = .ok ⟨[.text ['é'], .placeholder unknownHole], 0⟩ := rfl
  have hresolve : Function.resolve Resolver.empty "g" 2 false 7
      = .error (.resolution .unknown "g" 2 7) := rfl
  have hroot : BoundTemplate.lower ⟨[.text ['é'], .placeholder unknownHole], 0⟩ Resolver.empty
      = .error (.resolution .unknown "g" 2 7) := by
    simp [unknownHole, Surroundings.lower, Expr.pullEither, Expr.pull, Expr.pullFirst,
      Surroundings.isRest, hresolve, bind, Except.bind]
  simp only [Template.read, hpieces, hbound, hroot, bind, Except.bind]

theorem Template.error_cause_multibyte :
    (∃ pieces d, Piece.readAll misplacedSource = .ok pieces ∧ Piece.directive d 2 ∈ pieces ∧
        Text.OpensDirective misplacedSource.toList 2) ∧
      ∃ ignoreCase, Call.StandsIn unknownSource.toList ⟨"g", 2, ignoreCase, 7⟩ :=
  ⟨(error_cause read_misplaced).2.1 _ _ rfl, (error_cause read_unknown).2.2 _ _ _ _ rfl⟩

end EventText
