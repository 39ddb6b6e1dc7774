import EventText.Proofs.Failure
import EventText.Proofs.Text.Utf8
import EventText.Time.Layout

namespace EventText

open Text (encodeChars encodedLength encodedLength_append length_encodeChars)

-- A layout without a year that is too wide is written wherever there is room for it, and any other
-- layout is never written to its end.

namespace Layout

variable {t : Timestamp} {piece : LayoutPiece} {pieces : List LayoutPiece}

theorem pieceText?_eq (h : piece.isTooWide = false) :
    pieceText? t piece = .ok (pieceText t piece) := by
  rw [pieceText?, h]
  rfl

theorem pieceText?_of_isTooWide (h : piece.isTooWide = true) :
    pieceText? t piece = .error .width := by
  rw [pieceText?, if_pos h]

theorem writeTo_unbounded (h : ∀ piece ∈ pieces, piece.isTooWide = false) :
    writeTo t none pieces = .ok (some (pieces.flatMap (pieceText t))) := by
  induction pieces with
  | nil => rfl
  | cons piece rest ih =>
      obtain ⟨hpiece, hrest⟩ := List.forall_mem_cons.mp h
      simp [writeTo, pieceText?_eq hpiece, ih hrest]

theorem writeTo_bounded (h : ∀ piece ∈ pieces, piece.isTooWide = false) (room : Nat) :
    writeTo t (some room) pieces =
      .ok (if encodedLength (pieces.flatMap (pieceText t)) ≤ room
        then some (pieces.flatMap (pieceText t)) else none) := by
  induction pieces generalizing room with
  | nil => rfl
  | cons piece rest ih =>
      obtain ⟨hpiece, hrest⟩ := List.forall_mem_cons.mp h
      have hothers := ih hrest (room - encodedLength (pieceText t piece))
      rw [List.flatMap_cons, encodedLength_append]
      by_cases hfirst : room < encodedLength (pieceText t piece)
      · rw [if_neg (by omega)]
        simp [writeTo, pieceText?_eq hpiece, hfirst, pure_eq_ok]
      · by_cases hlast : encodedLength (rest.flatMap (pieceText t))
            ≤ room - encodedLength (pieceText t piece)
        · rw [if_pos hlast] at hothers
          rw [if_pos (by omega)]
          simp [writeTo, pieceText?_eq hpiece, hfirst, hothers]
        · rw [if_neg hlast] at hothers
          rw [if_neg (by omega)]
          simp [writeTo, pieceText?_eq hpiece, hfirst, hothers]

-- The attempt ends at the piece, or at one before it that does not fit.
theorem writeTo_of_isTooWide (h : ∃ piece ∈ pieces, piece.isTooWide = true) (room : Option Nat) :
    writeTo t room pieces = .error .width ∨
      writeTo t room pieces = .ok none ∧ room ≠ none := by
  induction pieces generalizing room with
  | nil => simp at h
  | cons piece rest ih =>
      rw [writeTo]
      cases hpiece : piece.isTooWide with
      | true => exact .inl (by rw [pieceText?_of_isTooWide hpiece]; rfl)
      | false =>
          have hrest : ∃ piece ∈ rest, piece.isTooWide = true := by simpa [hpiece] using h
          rw [pieceText?_eq hpiece, ok_bind]
          by_cases hfirst : room.any (· < encodedLength (pieceText t piece)) = true
          · refine .inr ⟨by simp [hfirst, pure_eq_ok], ?_⟩
            rintro rfl
            cases hfirst
          · rcases ih hrest (room.map (· - encodedLength (pieceText t piece))) with
              hothers | ⟨hothers, hroom⟩
            · exact .inl (by simp [hfirst, hothers])
            · refine .inr ⟨by simp [hfirst, hothers], fun hnone => hroom (by rw [hnone]; rfl)⟩

variable {layout : Layout}

theorem isTooWide_eq_false :
    layout.isTooWide = false ↔ ∀ piece ∈ layout.pieces, piece.isTooWide = false := by
  simp [isTooWide]

theorem isTooWide_iff :
    layout.isTooWide = true ↔ ∃ piece ∈ layout.pieces, piece.isTooWide = true :=
  List.any_eq_true

theorem format?_eq (h : layout.isTooWide = false) (t : Timestamp) :
    layout.format? t = .ok (layout.pieces.flatMap (pieceText (layout.zoned t))) := by
  rw [format?, writeTo_unbounded (isTooWide_eq_false.mp h), ok_bind]
  rfl

theorem text_eq (h : layout.isTooWide = false) (t : Timestamp) :
    layout.text t = layout.pieces.flatMap (pieceText (layout.zoned t)) := by
  rw [text, format?_eq h]

-- A span takes a text as a whole, or nothing of it.
theorem fill?_eq (h : layout.isTooWide = false) (t : Timestamp) (room : Nat) :
    layout.fill? t room =
      .ok (if (encodeChars (layout.text t)).length ≤ room then some (encodeChars (layout.text t))
        else none) := by
  rw [fill?, writeTo_bounded (isTooWide_eq_false.mp h), ok_bind, text_eq h, length_encodeChars]
  split <;> rfl

theorem fill?_ne_some (h : layout.isTooWide = true) (t : Timestamp) (room : Nat) (bytes : Bytes) :
    layout.fill? t room ≠ .ok (some bytes) := by
  rcases writeTo_of_isTooWide (isTooWide_iff.mp h) (some room) with hwritten | ⟨hwritten, -⟩
  · rw [fill?, hwritten]
    nofun
  · rw [fill?, hwritten]
    nofun

theorem eq_of_fill? {t : Timestamp} {room : Nat} {bytes : Bytes}
    (h : layout.fill? t room = .ok (some bytes)) :
    bytes = encodeChars (layout.text t) ∧ (encodeChars (layout.text t)).length ≤ room := by
  cases hwide : layout.isTooWide with
  | true => exact absurd h (fill?_ne_some hwide t room bytes)
  | false =>
      rw [fill?_eq hwide] at h
      split at h
      · next hlength => exact ⟨(Option.some.inj (Except.ok.inj h)).symm, hlength⟩
      · cases h

end Layout

end EventText
